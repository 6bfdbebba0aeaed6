import NamingAudit.Text.PrintableTable

/-! Characters that show by themselves. -/

namespace NamingAudit.Text

def isPrintable (c : Char) : Bool := !inRuns PrintableTable.unprintable c.toNat

def extendsGrapheme (c : Char) : Bool := inRuns PrintableTable.graphemeExtend c.toNat

end NamingAudit.Text
