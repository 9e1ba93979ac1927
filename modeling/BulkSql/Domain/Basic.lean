import BulkSql.Domain.Label
import BulkSql.Text.Direction

/-! # International domain names

A domain name may be written in any script. A host is asked for by the ASCII form of its name: the name is mapped,
and each label that is not ASCII is written in Punycode.
-/

namespace BulkSql

namespace Domain

/-- The ASCII form of a domain name. Empty labels are kept. -/
def toAscii? (domain : Text) : Option Text := do
  let labels ← (Text.split '.' (← mapped? domain)).mapM readLabel?
  if Direction.areClear (labels.map (·.2)) then some (Text.join ['.'] (labels.map (·.1))) else none

end Domain

end BulkSql
