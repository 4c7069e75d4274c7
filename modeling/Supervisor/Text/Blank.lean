/-!
# White space, and letter case within ASCII

## Main definitions

* `Text.isBlank` - the characters with the Unicode property White_Space
* `Text.trim` - a text without white space at its ends
* `Text.lowerAscii`, `Text.equalFold` - letter case is ignored within ASCII only
-/

namespace Supervisor.Text

/-- Whether a character has the Unicode property White_Space. -/
def isBlank (c : Char) : Bool :=
  let n := c.toNat
  (9 ≤ n && n ≤ 13) || n == 0x20 || n == 0x85 || n == 0xA0 || n == 0x1680 ||
    (0x2000 ≤ n && n ≤ 0x200A) || n == 0x2028 || n == 0x2029 || n == 0x202F || n == 0x205F ||
    n == 0x3000

/-- A character sequence without the characters at its ends that satisfy `p`. -/
def trimWith (p : Char → Bool) (cs : List Char) : List Char :=
  ((cs.dropWhile p).reverse.dropWhile p).reverse

/-- A text without white space at its ends. -/
def trim (s : String) : String := String.ofList (trimWith isBlank s.toList)

/-- The lower-case form of an ASCII letter; any other character is kept. -/
def lowerChar (c : Char) : Char := if 'A' ≤ c ∧ c ≤ 'Z' then Char.ofNat (c.toNat + 32) else c

/-- A text with its ASCII letters in lower case. -/
def lowerAscii (s : String) : String := String.ofList (s.toList.map lowerChar)

/-- Whether two texts are equal up to the case of ASCII letters. -/
def equalFold (s t : String) : Bool := lowerAscii s == lowerAscii t

end Supervisor.Text
