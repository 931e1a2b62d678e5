import DashboardClient.Http.Host

/-!
# Web addresses

Addresses with the scheme `http` or `https`, read as leniently as browsers do. Tabs and line
ends do not count, a backslash is a slash, dot segments of the path are resolved, and
characters that cannot stand in an address are written as their bytes after percent signs.
An address without a usable host, or with an unusable number behind it, is none. Credentials
in front of an at sign are left out, because they are for the server alone; what cannot be
read as credentials stays.
-/

namespace DashboardClient

/-- A web address in parts, each as it is written. The prelude is what stands in front of the
host, with the at sign, and the socket is the number behind it. -/
structure Address where
  scheme : String
  prelude : String
  host : String
  socket : Option Nat
  path : List String
  query : Option String
  fragment : Option String
  deriving DecidableEq, Repr

namespace Address

-- ---------------------------------------------------------------------------
-- Percent signs
-- ---------------------------------------------------------------------------

def upperHexDigit (n : Nat) : Char :=
  (Nat.digitChar n).toUpper

/-- A byte after a percent sign. -/
def escapedByte (b : UInt8) : List Char :=
  ['%', upperHexDigit (b.toNat / 16), upperHexDigit (b.toNat % 16)]

/-- Escape what is not printable ASCII, the space, and the characters of `special`. -/
def escape (special : String) (cs : List Char) : String :=
  String.ofList (cs.flatMap fun c =>
    if c.toNat ≤ 0x20 ∨ 0x7F ≤ c.toNat ∨ special.toList.contains c then
      (String.utf8EncodeChar c).flatMap escapedByte
    else [c])


-- ---------------------------------------------------------------------------
-- Paths
-- ---------------------------------------------------------------------------

def isSlash (c : Char) : Bool :=
  c == '/' || c == '\\'

/-- Write escaped dots out. -/
def unescapeDots : List Char → List Char
  | '%' :: '2' :: 'e' :: rest => '.' :: unescapeDots rest
  | c :: rest => c :: unescapeDots rest
  | [] => []

/-- A segment with its escaped dots written out, in lower case. -/
def plainDots (segment : List Char) : String :=
  String.ofList (unescapeDots (segment.map Char.toLower))

/-- Put the segments of a path behind those that were already read. One dot stands for the
segments so far and two dots for those without the last. -/
def resolve (done : List String) : List (List Char) → List String
  | [] => done
  | segment :: rest =>
    let atEnd := if rest.isEmpty then [""] else []
    match plainDots segment with
    | "." => resolve (done ++ atEnd) rest
    | ".." => resolve (done.dropLast ++ atEnd) rest
    | _ => resolve (done ++ [escape "\"#<>?\x60\x7b\x7d" segment]) rest


-- ---------------------------------------------------------------------------
-- Reading
-- ---------------------------------------------------------------------------

/-- Cut a text in front of the first character that satisfies the test. -/
def cutAt (p : Char → Bool) (cs : List Char) : List Char × List Char :=
  (cs.takeWhile (!p ·), cs.dropWhile (!p ·))

/-- Cut a text at the last at sign, which belongs to the first part. -/
def cutBehindAt (cs : List Char) : List Char × List Char :=
  let behind := (cs.reverse.takeWhile (· != '@')).reverse
  (cs.take (cs.length - behind.length), behind)

/-- What is kept of the text in front of an at sign. A user whose bytes are text makes it
credentials, and so does a password without a user. -/
def preludeOf (cs : List Char) : String :=
  let (user, rest) := cutAt (· == ':') cs
  let password := rest.drop 1
  let isText (cs : List Char) := !cs.isEmpty && (Text.ofUtf8? (Host.percentDecode cs)).isSome
  let write := escape "\"#/:;<=>?@[\\]^\x60\x7b|\x7d"
  if isText user || (user.isEmpty && (isText password || password.isEmpty)) then ""
  else if password.isEmpty then write user ++ "@"
  else write user ++ ":" ++ write password ++ "@"

/-- Cut a host from its socket, at the first colon that no brackets enclose. -/
def cutHost : Bool → List Char → List Char × List Char
  | _, [] => ([], [])
  | inside, c :: cs =>
    if c = ':' ∧ !inside then ([], c :: cs)
    else
      let (host, rest) := cutHost (c == '[' || (inside && c != ']')) cs
      (c :: host, rest)

/-- The socket behind a colon. The usual one of the scheme is left out. -/
def socket? (usual : Nat) : List Char → Option (Option Nat)
  | ':' :: c :: cs =>
    ((Text.ofDigits? (c :: cs)).filter (· < 0x10000)).map fun n =>
      if n = usual then none else some n
  | _ => some none

/-- The text behind a mark, if the mark is there. -/
def behindMark (mark : Char) : List Char → Option (List Char)
  | c :: cs => if c = mark then some cs else none
  | [] => none

/-- The characters of a text that count. -/
def legible (text : String) : List Char :=
  let cs := text.toList.filter fun c => c != '\t' && c != '\n' && c != '\r'
  (cs.reverse.dropWhile (·.toNat ≤ 0x20)).reverse

/-- Read an address. -/
def ofText? (text : String) : Option Address := do
  let (scheme, cs) := cutAt (· == ':') (legible text)
  let usual ← [("http", 80), ("https", 443)].lookup (String.ofList scheme)
  let (authority, cs) := cutAt (fun c => isSlash c || c == '?' || c == '#')
    ((cs.drop 1).dropWhile isSlash)
  let (prelude, authority) := cutBehindAt authority
  let (host, socket) := cutHost false authority
  let (path, cs) := cutAt (fun c => c == '?' || c == '#') cs
  let (query, cs) := cutAt (· == '#') cs
  return {
    scheme := String.ofList scheme
    prelude := preludeOf prelude.dropLast
    host := ← Host.canonical? host
    socket := ← socket? usual socket
    path := resolve [] ((path.drop 1).splitOnP isSlash)
    query := (behindMark '?' query).map (escape "\"#<>\x27")
    fragment := (behindMark '#' cs).map (escape "\"<>\x60") }


-- ---------------------------------------------------------------------------
-- Writing
-- ---------------------------------------------------------------------------

/-- What a request to the address asks for: the path and the query. -/
def target (a : Address) : String :=
  String.join (a.path.map ("/" ++ ·)) ++ ((a.query.map ("?" ++ ·)).getD "")

/-- The text of an address. -/
def render (a : Address) : String :=
  a.scheme ++ "://" ++ a.prelude ++ a.host ++ ((a.socket.map fun n => ":" ++ toString n).getD "") ++
    a.target ++ ((a.fragment.map ("#" ++ ·)).getD "")

/-- The longest text of an address that can be sent to. -/
def lengthLimit : Nat := 65534

/-- Whether requests can be sent to the address. A few characters can be in a name but not
in a request, and the text has a limit. -/
def isSendable (a : Address) : Bool :=
  !a.host.toList.any "\"\x60\x7b\x7d".toList.contains && a.render.utf8ByteSize ≤ lengthLimit

end Address

end DashboardClient
