/-!
# Labels in ASCII

A label that ASCII cannot hold has a form in ASCII. Its ASCII characters come first; behind the last
hyphen digits of base 36 tell which other characters are inserted, and where. They are a sequence of
numbers, each of which counts how many places to skip from the last insertion: first the places in
the label, then the same places for the next code point.

Numbers end by themselves. Digits below a threshold end a number, and the thresholds adapt to the
size of the numbers before.

## Main definitions

* `Punycode.number?` - reads one number
* `Punycode.decode?` - the label that a form in ASCII stands for
-/

namespace Supervisor.Uri.Punycode

/-- The value of a digit of base 36, letters first. -/
def digit? (c : Char) : Option Nat :=
  if 'a' ≤ c ∧ c ≤ 'z' then some (c.toNat - 97)
  else if '0' ≤ c ∧ c ≤ '9' then some (c.toNat - 22)
  else none

/-- The digits below which a number ends, for the digit whose place is `k`. -/
def threshold (bias k : Nat) : Nat :=
  if k ≤ bias then 1 else if bias + 26 ≤ k then 26 else k - bias

/-- Divides a number by 35 until it is small: what remains, and how far the bias moves. -/
def damp (delta k : Nat) : Nat × Nat :=
  if 455 < delta then damp (delta / 35) (k + 36) else (delta, k)
  termination_by delta
  decreasing_by omega

/-- The bias for the next number, after `delta` was read and `count` characters are there. -/
def adapted (delta count : Nat) (isFirst : Bool) : Nat :=
  let delta := if isFirst then delta / 700 else delta / 2
  let (delta, k) := damp (delta + delta / count) 0
  k + 36 * delta / (delta + 38)

/-- The weight that no digit of a number may have. -/
def weightLimit : Nat := 0x100000000

/-- Reads one number, given the place and the weight of its next digit and the sum of the digits
before: the number, and the digits behind it. -/
def number? (bias k weight sum : Nat) : List Char → Option (Nat × List Char)
  | [] => none
  | c :: cs =>
    if weightLimit ≤ weight then none
    else
      match digit? c with
      | none => none
      | some d =>
        let sum := sum + d * weight
        let limit := threshold bias k
        if d < limit then some (sum, cs) else number? bias (k + 36) (weight * (36 - limit)) sum cs

/-- A number takes at least one digit. -/
theorem length_lt_of_number? {bias k weight sum n : Nat} {cs rest : List Char}
    (h : number? bias k weight sum cs = some (n, rest)) : rest.length < cs.length := by
  induction cs generalizing k weight sum with
  | nil => simp [number?] at h
  | cons c cs ih =>
    unfold number? at h
    split at h
    · simp at h
    split at h
    · simp at h
    · simp only at h
      split at h
      · simp_all
      · have := ih h
        simp only [List.length_cons]
        omega

/-- Whether a number is the code point of a character. -/
def isCodePoint (n : Nat) : Bool := n < 0xD800 || (0xDFFF < n && n < 0x110000)

/-- Inserts characters into a label as the digits say, given the last code point and the place
behind it. -/
def insert? (point position bias : Nat) (label digits : List Char) : Option (List Char) :=
  if digits = [] then some label
  else
    match _ : number? bias 36 1 0 digits with
    | none => none
    | some (delta, rest) =>
      let count := label.length + 1
      let sum := position + delta
      let point := point + sum / count
      if isCodePoint point then
        insert? point (sum % count + 1) (adapted delta count (position = 0))
          (label.insertIdx (sum % count) (Char.ofNat point)) rest
      else none
  termination_by digits.length
  decreasing_by exact length_lt_of_number? ‹_›

/-- The label that a form in ASCII stands for. There are always digits, and a hyphen stands before
them only if ASCII characters do. -/
def decode? (cs : List Char) : Option (List Char) :=
  let digits := (cs.reverse.takeWhile (· ≠ '-')).reverse
  let front := cs.take (cs.length - digits.length)
  if digits = [] ∨ front = ['-'] then none else insert? 0x80 0 72 front.dropLast digits

end Supervisor.Uri.Punycode
