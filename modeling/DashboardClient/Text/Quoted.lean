import DashboardClient.Text.Hexadecimal
import DashboardClient.Text.Printable

/-!
# Quoted text

Text between double quotes. The quote, the backslash, NUL, tab, line feed and carriage
return have two-character escapes; any other character that is not printable is
written as its code point in hexadecimal.
-/

namespace DashboardClient.Text

/-- One character inside the quotes. -/
def quotedChar (c : Char) : List Char :=
  match c with
  | '"' => ['\\', '"']
  | '\\' => ['\\', '\\']
  | '\n' => ['\\', 'n']
  | '\r' => ['\\', 'r']
  | '\t' => ['\\', 't']
  | '\x00' => ['\\', '0']
  | c => if isPrintable c then [c] else ['\\', 'u', '\x7b'] ++ hexDigits c.toNat ++ ['\x7d']

/-- The text between quotes. -/
def quoted (s : String) : String :=
  String.ofList ('"' :: s.toList.flatMap quotedChar ++ ['"'])

/-- An optional text: `None`, or the quoted text as `Some`. -/
def quotedOption : Option String → String
  | none => "None"
  | some s => "Some(" ++ quoted s ++ ")"

end DashboardClient.Text
