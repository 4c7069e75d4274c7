/-!
# UTF-8: the bytes of a text, and a decoder for bytes nobody vouches for

Texts travel as UTF-8. What a peer sends need not be well formed, so decoding never fails: every
maximal ill-formed stretch becomes one replacement character and all else is kept.

The decoder is a machine that looks at one byte at a time. Between two bytes it either stands
between characters or holds a `Pending` character: how many bytes are still owed, in which range
the next one has to lie, and the bits read so far.

## Main definitions

* `Text.utf8` - the bytes of a text
* `Text.lossy` - the text in a byte sequence, ill-formed stretches replaced
* `Text.ofUtf8?` - the text whose bytes are given, if they are well formed
* `Text.terminated` - the text in a fixed-size field with a forced terminator
-/

namespace Supervisor.Text

/-- The UTF-8 bytes of a text. -/
def utf8 (s : String) : List UInt8 := s.toList.flatMap String.utf8EncodeChar

/-- How many UTF-8 bytes a text takes. -/
def size (s : String) : Nat := (utf8 s).length

/-- What stands for an ill-formed stretch of bytes: U+FFFD. -/
def replacement : Char := '\ufffd'

/-- A character whose first byte was read: `owed` more bytes make it complete, the next of them has
to lie between `low` and `high`, and `value` holds the bits read so far. -/
structure Pending where
  owed : Nat
  low : UInt8
  high : UInt8
  value : Nat
  deriving DecidableEq, Repr

/-- What a byte that stands between characters begins. The ranges for the second byte rule out
overlong forms, surrogates and values above U+10FFFF. -/
def lead (b : UInt8) : List Char × Option Pending :=
  if b < 0x80 then ([Char.ofNat b.toNat], none)
  -- A continuation byte, or the start of an overlong form of two bytes.
  else if b < 0xC2 then ([replacement], none)
  else if b < 0xE0 then ([], some ⟨1, 0x80, 0xBF, b.toNat - 0xC0⟩)
  else if b = 0xE0 then ([], some ⟨2, 0xA0, 0xBF, 0⟩)
  -- The upper half of this range would be the surrogates.
  else if b = 0xED then ([], some ⟨2, 0x80, 0x9F, 0xD⟩)
  else if b < 0xF0 then ([], some ⟨2, 0x80, 0xBF, b.toNat - 0xE0⟩)
  else if b = 0xF0 then ([], some ⟨3, 0x90, 0xBF, 0⟩)
  else if b < 0xF4 then ([], some ⟨3, 0x80, 0xBF, b.toNat - 0xF0⟩)
  else if b = 0xF4 then ([], some ⟨3, 0x80, 0x8F, 4⟩)
  else ([replacement], none)

/-- One byte: the characters it completes, and what is pending after it. A byte outside the range
ends the pending character, which is replaced, and is read afresh. -/
def step : Option Pending → UInt8 → List Char × Option Pending
  | none, b => lead b
  | some p, b =>
    if p.low ≤ b ∧ b ≤ p.high then
      let value := p.value * 64 + (b.toNat - 0x80)
      if p.owed ≤ 1 then ([Char.ofNat value], none)
      else ([], some ⟨p.owed - 1, 0x80, 0xBF, value⟩)
    else
      let (cs, next) := lead b
      (replacement :: cs, next)

/-- The characters of the remaining bytes; a character cut off by the end is replaced. -/
def decodeFrom : Option Pending → List UInt8 → List Char
  | none, [] => []
  | some _, [] => [replacement]
  | p, b :: bs =>
    let (cs, next) := step p b
    cs ++ decodeFrom next bs

/-- The text in a byte sequence, each maximal ill-formed stretch replaced by one U+FFFD. -/
def lossy (bs : List UInt8) : String := String.ofList (decodeFrom none bs)

/-- The text whose UTF-8 bytes are given. Bytes are well formed exactly if decoding and encoding
gives them back, because a replacement never does. -/
def ofUtf8? (bs : List UInt8) : Option String :=
  if utf8 (lossy bs) = bs then some (lossy bs) else none

/-- The part of a fixed-size field that counts: the last byte is the terminator whatever it holds,
and the text ends before the first NUL. -/
def beforeTerminator (field : List UInt8) : List UInt8 :=
  (field.take (field.length - 1)).takeWhile (· ≠ 0)

/-- The text in a fixed-size field filled by a peer. -/
def terminated (field : List UInt8) : String := lossy (beforeTerminator field)

end Supervisor.Text
