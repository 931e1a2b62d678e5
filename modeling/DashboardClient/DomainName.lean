import DashboardClient.DomainName.Label

/-!
# Domain names

Names of hosts in any script, and the ASCII text that stands for each. The characters of a
name are spelled in one way, and then every label is judged and written on its own. Which
ASCII characters a name holds, and how long it is, is not judged here.
-/

namespace DashboardClient.DomainName

/-- The labels of a name. If text from right to left is in one of them, then every label
has to go one way. -/
def labels? (cs : List Char) : Option (List Label) := do
  let spelled ← cs.mapM spelling?
  let labels ← ((Text.composed spelled.flatten).splitOn '.').mapM Label.ofText?
  if labels.any (·.isRightToLeft) && !labels.all (·.goesOneWay) then none else some labels

/-- The ASCII text of a name. -/
def ascii? (cs : List Char) : Option (List Char) :=
  (labels? cs).map fun labels => ['.'].intercalate (labels.map (·.written))

end DashboardClient.DomainName
