import LineTemplate.Text.Basic

/-!
Reading and writing UTF-8. Bytes that are not well formed are read as U+FFFD, one for each longest
start of a sequence that could still have become a character; a byte order mark is kept.
-/

set_option autoImplicit false

namespace LineTemplate

namespace Utf8

def replacement : CodeUnit := 0xFFFD

/-- A character of which some bytes are read: the bits so far, the number of bytes still to come and
the range in which the next byte has to lie. -/
structure Pending where
  bits : Nat
  missing : Nat
  least : UInt8
  greatest : UInt8

def lead (b : UInt8) : Text × Option Pending :=
  if b < 0x80 then ([b.toUInt16], none)
  else if 0xC2 ≤ b ∧ b ≤ 0xDF then ([], some ⟨b.toNat % 0x20, 1, 0x80, 0xBF⟩)
  else if b = 0xE0 then ([], some ⟨0, 2, 0xA0, 0xBF⟩)
  else if b = 0xED then ([], some ⟨0xD, 2, 0x80, 0x9F⟩)
  else if 0xE1 ≤ b ∧ b ≤ 0xEF then ([], some ⟨b.toNat % 0x10, 2, 0x80, 0xBF⟩)
  else if b = 0xF0 then ([], some ⟨0, 3, 0x90, 0xBF⟩)
  else if 0xF1 ≤ b ∧ b ≤ 0xF3 then ([], some ⟨b.toNat % 8, 3, 0x80, 0xBF⟩)
  else if b = 0xF4 then ([], some ⟨4, 3, 0x80, 0x8F⟩)
  else ([replacement], none)

def decodeFrom : Option Pending → List UInt8 → Text
  | none, [] => []
  | some _, [] => [replacement]
  | none, b :: rest =>
    let (text, pending) := lead b
    text ++ decodeFrom pending rest
  | some p, b :: rest =>
    if p.least ≤ b ∧ b ≤ p.greatest then
      let bits := p.bits * 0x40 + b.toNat % 0x40
      if p.missing ≤ 1 then Text.ofCodePoint bits ++ decodeFrom none rest
      else decodeFrom (some ⟨bits, p.missing - 1, 0x80, 0xBF⟩) rest
    else
      let (text, pending) := lead b
      replacement :: text ++ decodeFrom pending rest

def decode (bytes : List UInt8) : Text := decodeFrom none bytes

def encodePoint (n : Nat) : List UInt8 :=
  let tail (shift : Nat) : UInt8 := (0x80 + n / shift % 0x40).toUInt8
  if n < 0x80 then [n.toUInt8]
  else if n < 0x800 then [(0xC0 + n / 0x40).toUInt8, tail 1]
  else if 0xD800 ≤ n ∧ n < 0xE000 then [0xEF, 0xBF, 0xBD]
  else if n < 0x10000 then [(0xE0 + n / 0x1000).toUInt8, tail 0x40, tail 1]
  else [(0xF0 + n / 0x40000).toUInt8, tail 0x1000, tail 0x40, tail 1]

def encode (t : Text) : List UInt8 := t.codePoints.flatMap encodePoint

end Utf8

end LineTemplate
