import DashboardClient.Auth.Backend

/-!
# Scripted backends

A backend that answers from a script. The script has an entry for each call of each
kind, by number; a call takes its entry when it is made.
-/

namespace DashboardClient

/-- What the script says about one backend call. What it leaves open has a default. -/
structure BackendEntry where
  delay : ReplyDelay := .immediate
  error : Option ApiError := none
  identity : Option String := none
  token : Option String := none
  deriving DecidableEq, Repr

/-- The reply to the call that is the `number`-th of its kind. -/
def BackendEntry.reply (e : BackendEntry) (call : BackendCall) (number : Nat) : BackendReply :=
  match e.error with
  | some error => .failed error
  | none =>
    match call with
    | .probe =>
      match e.identity with
      | some identity => .identity identity
      | none => .failed .unauthorized
    | .token => .token (e.token.getD ("tok-" ++ toString number))
    | .login identity _ =>
      .login ⟨e.identity.getD identity, e.token.getD ("login-" ++ toString number)⟩
    | .logout _ => .loggedOut

/-- A script has an entry for every call of every kind, by number. -/
abbrev BackendScript := BackendCallKind → Nat → BackendEntry

/-- A script and the kinds of the calls that were made so far. -/
structure ScriptedBackend where
  script : BackendScript
  made : List BackendCallKind := []

namespace ScriptedBackend

/-- Take the next entry for a call of this kind. -/
def serve (b : ScriptedBackend) (call : BackendCall) :
    (ReplyDelay × BackendReply) × ScriptedBackend :=
  let number := b.made.count call.kind + 1
  let entry := b.script call.kind number
  ((entry.delay, entry.reply call number), { b with made := call.kind :: b.made })

instance : Backend ScriptedBackend where
  serve := serve

end ScriptedBackend

end DashboardClient
