/-! Powers of two and of ten. -/

namespace NamingAudit

def twoTo (exponent : Nat) : Nat := Nat.pow 2 exponent

def tenTo (exponent : Nat) : Nat := Nat.pow 10 exponent

end NamingAudit
