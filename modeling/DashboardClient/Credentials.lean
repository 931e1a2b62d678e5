import DashboardClient.Text.Quoted

/-!
# Credentials

An identity and a secret. When they are shown, the secret is replaced.
-/

namespace DashboardClient

/-- What signs a client in. -/
structure Credentials where
  identity : String
  secret : String
  deriving DecidableEq

/-- What is shown in place of a secret. -/
def redacted : String := "<redacted>"

/-- A record of an identity and a secret, shown on one line. -/
def describeRedacted (name identity : String) : String :=
  name ++ " \x7b identity: " ++ Text.quoted identity ++ ", secret: " ++ Text.quoted redacted ++
    " \x7d"

/-- A record of an identity and a secret, shown with one field on each line. -/
def describeRedactedLines (name identity : String) : String :=
  name ++ " \x7b\n    identity: " ++ Text.quoted identity ++ ",\n    secret: " ++
    Text.quoted redacted ++ ",\n\x7d"

namespace Credentials

def describe (c : Credentials) : String :=
  describeRedacted "Credentials" c.identity

def describeLines (c : Credentials) : String :=
  describeRedactedLines "Credentials" c.identity

/-- Optional credentials on one line. -/
def describeOption : Option Credentials → String
  | none => "None"
  | some c => "Some(" ++ c.describe ++ ")"

end Credentials

end DashboardClient
