import DashboardClient.Http.Message
import DashboardClient.ReplaceFirst
import DashboardClient.Text.Blank

/-!
# Cookies

The cookies that a client keeps for one server, each name once. A cookie is kept until
another takes its name or the server lets it expire, and is sent with every request.
-/

namespace DashboardClient

/-- The cookies of one client. -/
abbrev CookieJar := List Cookie

/-- What a server asks the client to do with a cookie. -/
structure CookieOrder where
  cookie : Cookie
  isExpired : Bool
  deriving DecidableEq, Repr

/-- A name and a value around the first equals sign, both trimmed. -/
def splitPair (s : String) : String × Option String :=
  let (name, rest) := s.toList.span (· != '=')
  (Text.trim (String.ofList name),
    match rest with
    | [] => none
    | _ :: value => some (Text.trim (String.ofList value)))

/-- A lifetime that is over at once: zero or negative. -/
def isSpentLifetime (s : String) : Bool :=
  s == "0" || s.toList.head? == some '-'

/-- Read a line that sets a cookie; without a name and a value it orders nothing. -/
def CookieOrder.ofLine? (line : String) : Option CookieOrder :=
  match line.splitOn ";" with
  | [] => none
  | pair :: attributes =>
    match splitPair pair with
    | (_, none) => none
    | (name, some value) =>
      if name.isEmpty then none
      else
        some {
          cookie := { name, value }
          isExpired := attributes.any fun a =>
            match splitPair a with
            | (key, some lifetime) => key.toLower == "max-age" && isSpentLifetime lifetime
            | _ => false }

namespace CookieJar

/-- Keep a cookie in place of one with the same name. -/
def put (jar : CookieJar) (c : Cookie) : CookieJar :=
  if jar.any (·.name == c.name) then replaceFirst (·.name == c.name) (some c) jar
  else jar ++ [c]

/-- Let go of the cookie with this name. -/
def remove (jar : CookieJar) (name : String) : CookieJar :=
  jar.filter (·.name != name)

/-- Do what a line of a response says. -/
def obey (jar : CookieJar) (line : String) : CookieJar :=
  match CookieOrder.ofLine? line with
  | none => jar
  | some order =>
    if order.isExpired then jar.remove order.cookie.name else jar.put order.cookie

/-- Do what a response says, whatever its status. -/
def receive (jar : CookieJar) (r : HttpResponse) : CookieJar :=
  r.setCookies.foldl obey jar

end CookieJar

end DashboardClient
