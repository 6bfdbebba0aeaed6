/-! White space, the Unicode property of that name, and texts trimmed of it. -/

namespace NamingAudit.Text

def isBlank (c : Char) : Bool :=
  let code := c.toNat
  (0x09 ≤ code && code ≤ 0x0d) || code == 0x20 || code == 0x85 || code == 0xa0 || code == 0x1680
    || (0x2000 ≤ code && code ≤ 0x200a) || code == 0x2028 || code == 0x2029 || code == 0x202f
    || code == 0x205f || code == 0x3000

def trimLeft (chars : List Char) : List Char :=
  chars.dropWhile isBlank

def trimRight (chars : List Char) : List Char :=
  (chars.reverse.dropWhile isBlank).reverse

def trim (text : String) : String :=
  String.ofList (trimRight (trimLeft text.toList))

def isAllBlank (text : String) : Bool :=
  text.toList.all isBlank

def hasBlank (text : String) : Bool :=
  text.toList.any isBlank

end NamingAudit.Text
