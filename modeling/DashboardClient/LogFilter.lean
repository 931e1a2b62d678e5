import DashboardClient.Environment
import DashboardClient.Log

/-!
# Log filters

Which log lines are shown. A filter is a list of directives `TARGET=LEVEL`, separated by
commas. Each directive is about the lines of some origin and says how grave a line has to
be. The most specific directive that is about a line decides on it; a line that none is
about is not shown.
-/

namespace DashboardClient

-- ---------------------------------------------------------------------------
-- Verbosity
-- ---------------------------------------------------------------------------

/-- How much is shown. -/
inductive LogVerbosity where
  | off
  | error
  | warn
  | info
  | debug
  | trace
  deriving DecidableEq, Repr

namespace LogVerbosity

/-- Every verbosity with its name. The position is the number that it goes by. -/
def names : List (String × LogVerbosity) :=
  [("off", .off), ("error", .error), ("warn", .warn), ("info", .info), ("debug", .debug),
   ("trace", .trace)]

/-- A number, a name in either case of letters, or nothing for errors alone. -/
def ofText? (s : String) : Option LogVerbosity :=
  match Text.word64? s with
  | some n => names[n]?.map (·.2)
  | none => if s.isEmpty then some .error else names.lookup (s.map Char.toLower)

/-- Lines of this level are shown. -/
def shows : LogVerbosity → LogLevel → Bool
  | .off, _ => false
  | .error, level => level == .error
  | .warn, level => level == .error || level == .warn
  | .info, level => level != .debug
  | .debug, _ => true
  | .trace, _ => true

end LogVerbosity


-- ---------------------------------------------------------------------------
-- Directives
-- ---------------------------------------------------------------------------

/-- A directive is about the lines whose origin starts with the target and that have the
field. -/
structure LogDirective where
  target : Option String := none
  field : Option String := none
  verbosity : LogVerbosity
  deriving DecidableEq, Repr

namespace LogDirective

/-- Drop every closing mark of a field list at the end of a text, given backwards. -/
def dropClosing : List Char → List Char
  | ']' :: '\x7d' :: rest => dropClosing rest
  | cs => cs

/-- The name in a field list, given without its opening mark. An empty list has none. -/
def field? (s : String) : Option (Option String) :=
  match s.toList.reverse with
  | ']' :: '\x7d' :: rest =>
    let name := String.ofList (dropClosing rest).reverse
    some (if name.isEmpty then none else some name)
  | _ => none

/-- What stands in front of the level: a target, and a field list behind it if there is
one. -/
def subject? (s : String) : Option (String × Option String) :=
  match s.splitOn "[\x7b" with
  | [target] => some (target, none)
  | [target, list] => (field? list).map fun field => (target, field)
  | _ => none

/-- Read a directive. A level alone is about every line, and a target alone shows all. -/
def ofText? (s : String) : Option LogDirective :=
  match s.splitOn "=" with
  | [whole] =>
    match LogVerbosity.ofText? whole with
    | some verbosity => some { verbosity }
    | none => some { target := whole, verbosity := .trace }
  | [subject, level] => do
    let (target, field) ← subject? subject
    return { target, field, verbosity := ← LogVerbosity.ofText? level }
  | _ => none

/-- The directive is about a line from `origin`. The message of a line is one of its
fields. -/
def isAbout (d : LogDirective) (origin : String) (line : LogLine) : Bool :=
  d.target.all (fun target => target.toList.isPrefixOf origin.toList) &&
    d.field.all fun field => field == "message" || line.fields.any (·.1 == field)

/-- How much of an origin the target spells out. -/
def targetWeight (d : LogDirective) : Nat :=
  match d.target with
  | none => 0
  | some target => target.utf8ByteSize + 1

/-- Of two directives about one line, the first is the more specific: it spells out more
of the origin, or as much and a field that the other has not, or a later field. -/
def isMoreSpecific (a b : LogDirective) : Bool :=
  b.targetWeight < a.targetWeight ||
    (a.targetWeight == b.targetWeight &&
      match a.field, b.field with
      | some x, some y => decide (y < x)
      | some _, none => true
      | none, _ => false)

end LogDirective


-- ---------------------------------------------------------------------------
-- Filters
-- ---------------------------------------------------------------------------

/-- The directives of a filter, in order. -/
structure LogFilter where
  directives : List LogDirective
  deriving DecidableEq, Repr

namespace LogFilter

/-- Read the directives of a filter. -/
def ofText? (s : String) : Option LogFilter :=
  ((s.splitOn ",").mapM LogDirective.ofText?).map LogFilter.mk

/-- The filter that `RUST_LOG` spells. Without it everything but debugging is shown, and
with a text that is no filter nothing is. -/
def ofEnvironment (env : Environment) : LogFilter :=
  match env.text? "RUST_LOG" with
  | none => ⟨[{ verbosity := .info }]⟩
  | some s => (ofText? s).getD ⟨[]⟩

/-- The most specific directive about a line. Of two that are equally specific, the later
one counts. -/
def deciding? (f : LogFilter) (origin : String) (line : LogLine) : Option LogDirective :=
  (f.directives.filter (·.isAbout origin line)).foldl (fun best d =>
    match best with
    | some b => if b.isMoreSpecific d then some b else some d
    | none => some d) none

/-- Whether a line from `origin` is shown. -/
def shows (f : LogFilter) (origin : String) (line : LogLine) : Bool :=
  (f.deciding? origin line).any (·.verbosity.shows line.level)

end LogFilter

end DashboardClient
