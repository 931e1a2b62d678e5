import DashboardClient.Text.Blank
import DashboardClient.Text.Quoted

/-!
# Log lines

A log line has a level, a message and named fields. A field is either text as it came
or a value that has already been put into words.
-/

namespace DashboardClient

/-- How grave a log line is. -/
inductive LogLevel where
  | debug
  | info
  | warn
  | error
  deriving DecidableEq, Repr

/-- What a field of a log line holds. -/
inductive LogValue where
  | text (s : String)
  | shown (s : String)
  deriving DecidableEq, Repr

/-- One log line. -/
structure LogLine where
  level : LogLevel
  message : String
  fields : List (String × LogValue)
  deriving DecidableEq, Repr

def LogLevel.name : LogLevel → String
  | .debug => "DEBUG"
  | .info => "INFO"
  | .warn => "WARN"
  | .error => "ERROR"

/-- The content of a field, text without quotes. -/
def LogValue.plain : LogValue → String
  | .text s => s
  | .shown s => s

/-- The content of a field, text in quotes. -/
def LogValue.display : LogValue → String
  | .text s => Text.quoted s
  | .shown s => s

/-- Level and message, then each field after a bar. -/
def LogLine.render (line : LogLine) : String :=
  line.level.name ++ " " ++ line.message ++
    String.join (line.fields.map fun f => "|" ++ f.1 ++ "=" ++ f.2.plain)

/-- Level, message and fields with spaces between them and none at the end. What stands
behind a line end in a field is no longer part of the line. -/
def LogLine.renderConsole (line : LogLine) : String :=
  let text := line.level.name ++ " " ++ line.message ++
    String.join (line.fields.map fun f => " " ++ f.1 ++ "=" ++ f.2.display)
  String.ofList (Text.trimEnd (text.toList.takeWhile (· != '\n')))

end DashboardClient
