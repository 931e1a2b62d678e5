import DashboardClient.Credentials
import DashboardClient.Json.Node
import DashboardClient.Json.Quoted

/-!
# Messages on the wire

The bodies that the auth endpoints send and accept. Each is a record of named texts.
A record is read from an object that has every declared field exactly once, in any
order and among any other members, or from an array of exactly its fields; it is
written as an object in declared order without spaces.
-/

namespace DashboardClient.Wire

/-- The text of the one member that is called `name`. -/
def memberText? (name : String) (members : List (String × Json.Node)) : Option String :=
  match members.filter (·.1 = name) with
  | [(_, value)] => value.text?
  | _ => none

/-- The texts of the declared fields, in declared order. -/
def recordOfNode? (fields : List String) : Json.Node → Option (List String)
  | .array items => if items.length = fields.length then items.mapM Json.Node.text? else none
  | .object members => do
    let named ← members.mapM fun (pieces, value) => do
      return (← Json.textOfPieces? pieces, value)
    fields.mapM (memberText? · named)
  | _ => none

/-- Read a record with the declared fields. -/
def readRecord? (fields : List String) (text : String) : Option (List String) := do
  recordOfNode? fields (← Json.Node.ofText? text)

/-- Write a record, field by field. -/
def writeRecord (fields : List (String × String)) : String :=
  "\x7b" ++ ",".intercalate (fields.map fun f =>
    Json.writtenString f.1 ++ ":" ++ Json.writtenString f.2) ++ "\x7d"


-- ---------------------------------------------------------------------------
-- The four messages
-- ---------------------------------------------------------------------------

/-- Whose session it is. -/
structure IdentityReply where
  identity : String
  deriving DecidableEq, Repr

/-- A fresh anti-forgery token. -/
structure TokenReply where
  token : String
  deriving DecidableEq, Repr

/-- The credentials of a login. -/
structure LoginRequest where
  identity : String
  secret : String
  deriving DecidableEq

/-- The session that a login opened. -/
structure LoginReply where
  identity : String
  token : String
  deriving DecidableEq, Repr

namespace IdentityReply

def encode (m : IdentityReply) : String :=
  writeRecord [("identity", m.identity)]

def decode? (text : String) : Option IdentityReply :=
  match readRecord? ["identity"] text with
  | some [identity] => some ⟨identity⟩
  | _ => none

end IdentityReply

namespace TokenReply

def encode (m : TokenReply) : String :=
  writeRecord [("token", m.token)]

def decode? (text : String) : Option TokenReply :=
  match readRecord? ["token"] text with
  | some [token] => some ⟨token⟩
  | _ => none

end TokenReply

namespace LoginRequest

def encode (m : LoginRequest) : String :=
  writeRecord [("identity", m.identity), ("secret", m.secret)]

def decode? (text : String) : Option LoginRequest :=
  match readRecord? ["identity", "secret"] text with
  | some [identity, secret] => some ⟨identity, secret⟩
  | _ => none

def describe (m : LoginRequest) : String :=
  describeRedacted "LoginRequest" m.identity

def describeLines (m : LoginRequest) : String :=
  describeRedactedLines "LoginRequest" m.identity

end LoginRequest

namespace LoginReply

def encode (m : LoginReply) : String :=
  writeRecord [("identity", m.identity), ("token", m.token)]

def decode? (text : String) : Option LoginReply :=
  match readRecord? ["identity", "token"] text with
  | some [identity, token] => some ⟨identity, token⟩
  | _ => none

end LoginReply

end DashboardClient.Wire
