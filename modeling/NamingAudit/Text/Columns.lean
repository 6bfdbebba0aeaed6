import NamingAudit.Text.ColumnTable
import NamingAudit.Text.Printable

/-! The columns that characters take on a display of fixed width. -/

namespace NamingAudit.Text

def columns (c : Char) : Nat :=
  if extendsGrapheme c || inRuns ColumnTable.noColumn c.toNat then 0
  else if inRuns ColumnTable.twoColumns c.toNat then 2
  else 1

def totalColumns (chars : List Char) : Nat := chars.foldl (fun total c => total + columns c) 0

end NamingAudit.Text
