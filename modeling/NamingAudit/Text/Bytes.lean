import NamingAudit.Text.Pieces

/-! Texts kept as bytes. A cut at a byte offset has to lie in the text and between two characters. -/

namespace NamingAudit.Text

def byteLength : List Char → Nat
  | [] => 0
  | c :: rest => c.utf8Size + byteLength rest

def cutAt? : Nat → List Char → Option (List Char × List Char)
  | 0, text => some ([], text)
  | _ + 1, [] => none
  | offset + 1, c :: rest =>
    if c.utf8Size ≤ offset + 1 then
      (cutAt? (offset + 1 - c.utf8Size) rest).map fun parts => (c :: parts.1, parts.2)
    else none

def slice? (first last : Nat) (text : List Char) : Option (List Char) :=
  if first ≤ last then
    (cutAt? first text).bind fun parts => (cutAt? (last - first) parts.2).map Prod.fst
  else none

def offsetOf? (wanted : Char) : List Char → Option Nat
  | [] => none
  | c :: rest => if c == wanted then some 0 else (offsetOf? wanted rest).map (c.utf8Size + ·)

def cutFileName? (path : List Char) : Option (List Char × List Char) :=
  let base := baseName path
  match offsetOf? '.' base with
  | some dot => if 0 < dot then cutAt? dot base else some (base, [])
  | none => some (base, [])

end NamingAudit.Text
