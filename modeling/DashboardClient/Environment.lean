import DashboardClient.Text.Blank
import DashboardClient.Text.Decimal
import DashboardClient.Text.Utf8

/-!
# Environment

Variables and what they hold. An environment is kept as entries `NAME=value`, and a name
is looked up as the text in front of an equals sign of an entry. So a name that itself
has an equals sign can be found, inside the value of a shorter name. A variable whose
bytes are not UTF-8 counts as one that is not set.
-/

namespace DashboardClient

/-- The bytes of each variable that is set. -/
abbrev Environment := String → Option (List UInt8)

namespace Environment

/-- An entry up to its first equals sign and with it. -/
def entryStart (name : String) : List UInt8 :=
  name.toUTF8.toList ++ "=".toUTF8.toList

/-- What the entry of a variable holds under a name. -/
def inEntry? (owner : String) (value : List UInt8) (name : String) : Option (List UInt8) :=
  (entryStart name).isPrefixOf? (entryStart owner ++ value)

/-- An environment in which only the listed variables are set. -/
def ofList (vars : List (String × List UInt8)) : Environment :=
  fun name => vars.findSome? fun (owner, value) => inEntry? owner value name

/-- The variable in whose entry a name can be found. -/
def ownerOf (name : String) : String :=
  String.ofList (name.toList.takeWhile (· != '='))

/-- Set a variable whose name has no equals sign. -/
def set (env : Environment) (owner : String) (value : List UInt8) : Environment :=
  fun name => if ownerOf name = owner then inEntry? owner value name else env name

/-- The text of a variable. -/
def text? (env : Environment) (name : String) : Option String :=
  (env name).bind Text.ofUtf8?

/-- The number that a variable spells, or the default. -/
def number (env : Environment) (name : String) (default : Nat) : Nat :=
  ((env.text? name).bind Text.word64?).getD default

/-- The path that a variable spells, or the default if it is blank. A value that starts
with a slash is taken as it is; any other is trimmed and gets a slash in front. -/
def path (env : Environment) (name : String) (default : String) : String :=
  match env.text? name with
  | none => default
  | some raw =>
    if raw.toList.head? = some '/' then raw
    else if (Text.trim raw).isEmpty then default
    else "/" ++ Text.trim raw

end Environment

end DashboardClient
