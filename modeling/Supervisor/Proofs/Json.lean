import Supervisor.Json

/-!
# Reading values back from their text

The text of a value shows where the value ends: brackets and quotation marks close what they open,
and a number goes on as long as there are digits. A reader therefore needs nothing but the text, and
what it finds at the front of a text does not depend on what follows, unless a digit follows a number.

## Main definitions

* `Json.unquoted`, `Json.digits` - what is behind a quotation mark, and a row of digits
* `Json.separated` - what is between brackets
* `Json.value`, `Json.parse` - the value at the front of a text, and the value that a text is

## Main results

* `Json.induction` - induction over values
* `Json.value_chars`, `Json.parse_chars` - what was written is read
* `Json.printable_chars` - the text of a value holds no control characters
-/

namespace Supervisor.Json

/-! ### The reader -/

/-- The character that a letter behind a backslash stands for. -/
def unescaped (c : Char) : Char :=
  if c = 'n' then '\n'
  else if c = 'r' then '\r'
  else if c = 't' then '\t'
  else if c = 'b' then '\x08'
  else if c = 'f' then '\x0c'
  else c

/-- The number that a digit of base 16 stands for. -/
def hexValue (c : Char) : Nat := if c.isDigit then c.toNat - 48 else c.toNat - 87

/-- The number that a row of digits of base 16 stands for. -/
def hexNumber (cs : List Char) : Nat := cs.foldl (fun n c => 16 * n + hexValue c) 0

/-- The characters up to a quotation mark, and what follows it. -/
def unquoted : List Char → Option (List Char × List Char)
  | [] => none
  | '"' :: rest => some ([], rest)
  | '\\' :: 'u' :: a :: b :: c :: d :: rest =>
    (unquoted rest).map fun (cs, rest) => (Char.ofNat (hexNumber [a, b, c, d]) :: cs, rest)
  | '\\' :: c :: rest => (unquoted rest).map fun (cs, rest) => (unescaped c :: cs, rest)
  | c :: rest => (unquoted rest).map fun (cs, rest) => (c :: cs, rest)

/-- The number of a row of digits, and what follows it. -/
def digits (input : List Char) : Option (Nat × List Char) :=
  match input.takeWhile Char.isDigit with
  | [] => none
  | ds => some (Nat.ofDigitChars 10 ds 0, input.dropWhile Char.isDigit)

variable {α : Type}

/-- What follows the first item up to a closing bracket: every further item behind a comma. -/
def further (close : Char) (item : List Char → Option (α × List Char)) :
    (fuel : Nat) → List Char → Option (List α × List Char)
  | 0, _ => none
  | fuel + 1, input =>
    match input with
    | [] => none
    | c :: rest =>
      if c = close then some ([], rest)
      else if c = ',' then do
        let (x, rest) ← item rest
        let (xs, rest) ← further close item fuel rest
        return (x :: xs, rest)
      else none

/-- The items up to a closing bracket, with commas between them. -/
def separated (close : Char) (item : List Char → Option (α × List Char)) (fuel : Nat)
    (input : List Char) : Option (List α × List Char) :=
  if input.head? = some close then some ([], input.tail)
  else do
    let (x, rest) ← item input
    let (xs, rest) ← further close item fuel rest
    return (x :: xs, rest)

/-- A member of an object: its name, a colon, and its value. -/
def named (value : List Char → Option (α × List Char)) :
    List Char → Option ((String × α) × List Char)
  | '"' :: rest =>
    match unquoted rest with
    | some (name, ':' :: rest) =>
      (value rest).map fun (v, rest) => ((String.ofList name, v), rest)
    | _ => none
  | _ => none

/-- The value at the front of a text, and what follows it. The fuel is used up by values that stand
within each other and by items that stand behind each other. -/
def value : (fuel : Nat) → List Char → Option (Json × List Char)
  | 0, _ => none
  | fuel + 1, input =>
    match input with
    | 'n' :: 'u' :: 'l' :: 'l' :: rest => some (null, rest)
    | 't' :: 'r' :: 'u' :: 'e' :: rest => some (bool true, rest)
    | 'f' :: 'a' :: 'l' :: 's' :: 'e' :: rest => some (bool false, rest)
    | '"' :: rest => (unquoted rest).map fun (cs, rest) => (string (String.ofList cs), rest)
    | '[' :: rest =>
      (separated ']' (value fuel) fuel rest).map fun (vs, rest) => (array vs, rest)
    | '\x7b' :: rest =>
      (separated '\x7d' (named (value fuel)) fuel rest).map fun (ms, rest) => (object ms, rest)
    | '-' :: rest => (digits rest).map fun (n, rest) => (number (-n), rest)
    | input => (digits input).map fun (n, rest) => (number n, rest)

/-- The value that a text is. -/
def parse (input : List Char) : Option Json :=
  match value (input.length + 1) input with
  | some (v, []) => some v
  | _ => none

/-! ### Values and their texts -/

/-- Induction over values: arrays and objects are made of values. -/
@[elab_as_elim]
protected theorem induction {motive : Json → Prop} (null : motive .null)
    (bool : ∀ b, motive (.bool b)) (number : ∀ n, motive (.number n))
    (string : ∀ s, motive (.string s))
    (array : ∀ vs : List Json, (∀ v ∈ vs, motive v) → motive (.array vs))
    (object : ∀ ms : List (String × Json), (∀ m ∈ ms, motive m.2) → motive (.object ms)) (v : Json) :
    motive v :=
  @Json.rec motive (fun vs => ∀ v ∈ vs, motive v) (fun ms => ∀ m ∈ ms, motive m.2)
    (fun m => motive m.2) null bool number string array object nofun
    (fun _ _ first others => List.forall_mem_cons.2 ⟨first, others⟩) nofun
    (fun _ _ first others => List.forall_mem_cons.2 ⟨first, others⟩) (fun _ _ value => value) v

/-- The text of a member of an object. -/
def memberText (m : String × Json) : List Char := quote m.1 ++ ':' :: chars m.2

theorem tailChars_eq (vs : List Json) : tailChars vs = vs.flatMap fun v => ',' :: chars v := by
  induction vs with
  | nil => rw [tailChars, List.flatMap_nil]
  | cons v vs ih => rw [tailChars, ih, List.flatMap_cons]

theorem memberChars_eq (ms : List (String × Json)) :
    memberChars ms = ms.flatMap fun m => ',' :: memberText m := by
  induction ms with
  | nil => rw [memberChars, List.flatMap_nil]
  | cons m ms ih =>
    rw [memberChars, ih, List.flatMap_cons, memberText]
    simp only [List.cons_append, List.append_assoc]

/-- The texts of items with commas between them. -/
def listed (text : α → List Char) : List α → List Char
  | [] => []
  | x :: xs => text x ++ xs.flatMap fun x => ',' :: text x

theorem chars_array (vs : List Json) : chars (.array vs) = '[' :: listed chars vs ++ [']'] := by
  cases vs with
  | nil => rfl
  | cons v vs =>
    rw [chars, tailChars_eq, listed]
    simp only [List.cons_append, List.append_assoc]

theorem chars_object (ms : List (String × Json)) :
    chars (.object ms) = '\x7b' :: listed memberText ms ++ ['\x7d'] := by
  cases ms with
  | nil => rfl
  | cons m ms =>
    rw [chars, memberChars_eq, listed, memberText]
    simp only [List.cons_append, List.append_assoc]

/-! ### Texts within quotation marks -/

theorem hexValue_hexDigit : ∀ n < 16, hexValue (hexDigit n) = n := by decide

theorem unquoted_cons {c : Char} (noQuote : c ≠ '"') (noBackslash : c ≠ '\\') (rest : List Char) :
    unquoted (c :: rest) = (unquoted rest).map fun (cs, rest) => (c :: cs, rest) := by
  rw [unquoted]
  · exact noQuote
  · exact fun _ _ _ _ _ same _ => noBackslash same
  · exact fun _ _ same _ => noBackslash same

/-- A character is read as it is written. -/
theorem unquoted_escape (c : Char) (rest : List Char) :
    unquoted (escape c ++ rest) = (unquoted rest).map fun (cs, rest) => (c :: cs, rest) := by
  fun_cases escape c with
  | case1 | case2 | case3 | case4 | case5 | case6 | case7 =>
    subst_vars
    rfl
  | case8 _ _ _ _ _ _ _ small =>
    -- Such a character takes two digits of base 16, and two zeros stand before them.
    have number : hexNumber ['0', '0', hexDigit (c.toNat / 16), hexDigit (c.toNat % 16)] = c.toNat := by
      have high := hexValue_hexDigit (c.toNat / 16) (by omega)
      have low := hexValue_hexDigit (c.toNat % 16) (by omega)
      have zero : hexValue '0' = 0 := rfl
      simp only [hexNumber, List.foldl, high, low, zero]
      omega
    simp only [List.cons_append, List.nil_append, unquoted, number, Char.ofNat_toNat]
  | case9 noQuote noBackslash => exact unquoted_cons noQuote noBackslash rest

/-- A text is read up to the quotation mark that closes it. -/
theorem unquoted_flatMap_escape (cs rest : List Char) :
    unquoted (cs.flatMap escape ++ '"' :: rest) = some (cs, rest) := by
  induction cs with
  | nil => rfl
  | cons c cs ih =>
    rw [List.flatMap_cons, List.append_assoc, unquoted_escape, ih]
    rfl

/-! ### Numbers -/

/-- No digit stands at the front of a text. -/
def Ends (rest : List Char) : Prop := ∀ c, rest.head? = some c → c.isDigit = false

theorem ends_nil : Ends [] := nofun

theorem ends_cons {c : Char} (noDigit : c.isDigit = false) (rest : List Char) : Ends (c :: rest) := by
  rintro _ ⟨⟩
  exact noDigit

/-- The digits of a number are read up to what is no digit. -/
theorem digits_toDigits (n : Nat) {rest : List Char} (ends : Ends rest) :
    digits (Nat.toDigits 10 n ++ rest) = some (n, rest) := by
  have all : ∀ c ∈ Nat.toDigits 10 n, c.isDigit = true :=
    fun c member => Nat.isDigit_of_mem_toDigits (by decide) (by decide) member
  have front : (Nat.toDigits 10 n ++ rest).takeWhile Char.isDigit = Nat.toDigits 10 n := by
    rw [List.takeWhile_append_of_pos all]
    cases rest with
    | nil => simp
    | cons c rest => simp [ends c rfl]
  have behind : (Nat.toDigits 10 n ++ rest).dropWhile Char.isDigit = rest := by
    rw [List.dropWhile_append_of_pos all]
    cases rest with
    | nil => rfl
    | cons c rest => simp [ends c rfl]
  unfold digits
  rw [front, behind]
  split
  · next none => exact absurd none Nat.toDigits_ne_nil
  · rw [Nat.ofDigitChars_toDigits (by decide) (by decide)]

/-! ### Items between brackets -/

/-- An item is read from the front of a text, whatever follows it. -/
def Reads (item : List Char → Option (α × List Char)) (text : List Char) (x : α) : Prop :=
  ∀ rest, Ends rest → item (text ++ rest) = some (x, rest)

section Items

variable {close : Char} {item : List Char → Option (α × List Char)} {text : α → List Char}
  {x : α} {xs : List α} {fuel : Nat}

theorem ends_further (bracket : close = ']' ∨ close = '\x7d') (text : α → List Char) (xs : List α)
    (rest : List Char) : Ends (xs.flatMap (fun x => ',' :: text x) ++ close :: rest) := by
  cases xs with
  | nil => exact ends_cons (by rcases bracket with rfl | rfl <;> rfl) rest
  | cons x xs => exact ends_cons rfl _

theorem further_items (bracket : close = ']' ∨ close = '\x7d')
    (reads : ∀ x ∈ xs, Reads item (text x) x) (enough : xs.length < fuel) (rest : List Char) :
    further close item fuel (xs.flatMap (fun x => ',' :: text x) ++ close :: rest) =
      some (xs, rest) := by
  induction xs generalizing fuel with
  | nil =>
    obtain ⟨fuel, rfl⟩ := Nat.exists_eq_add_of_lt enough
    simp [further]
  | cons x xs ih =>
    cases fuel with
    | zero => cases enough
    | succ fuel =>
      obtain ⟨first, others⟩ := List.forall_mem_cons.1 reads
      have comma : ',' ≠ close := by rcases bracket with rfl | rfl <;> decide
      have head := first _ (ends_further bracket text xs rest)
      have tail := ih others (Nat.lt_of_succ_lt_succ enough)
      simp only [List.flatMap_cons, List.cons_append, List.append_assoc, further, if_neg comma, if_true,
        head, tail, Option.bind_eq_bind, Option.bind_some, Option.pure_def]

/-- Items are read up to the bracket that closes them, if none of them starts with that bracket. -/
theorem separated_items (bracket : close = ']' ∨ close = '\x7d')
    (reads : ∀ x ∈ xs, Reads item (text x) x) (closed : ∀ rest, item (close :: rest) = none)
    (enough : xs.length ≤ fuel) (rest : List Char) :
    separated close item fuel (listed text xs ++ close :: rest) = some (xs, rest) := by
  cases xs with
  | nil => simp [separated, listed]
  | cons x xs =>
    obtain ⟨first, others⟩ := List.forall_mem_cons.1 reads
    have head := first _ (ends_further bracket text xs rest)
    -- An item that started with the bracket would not be read.
    have opened : (text x ++ (xs.flatMap (fun x => ',' :: text x) ++ close :: rest)).head? ≠
        some close := by
      intro front
      obtain ⟨behind, same⟩ := List.head?_eq_some_iff.1 front
      rw [same, closed] at head
      cases head
    rw [listed, List.append_assoc, separated, if_neg opened, head]
    simp only [further_items bracket others enough rest, Option.bind_eq_bind, Option.bind_some,
      Option.pure_def]

theorem length_further (text : α → List Char) (xs : List α) :
    xs.length ≤ (xs.flatMap fun x => ',' :: text x).length ∧
      ∀ x ∈ xs, (text x).length ≤ (xs.flatMap fun x => ',' :: text x).length := by
  induction xs with
  | nil => exact ⟨Nat.le_refl _, nofun⟩
  | cons x xs ih =>
    obtain ⟨count, each⟩ := ih
    rw [List.flatMap_cons, List.length_append, List.length_cons, List.length_cons,
      List.forall_mem_cons]
    exact ⟨by omega, by omega, fun y member => Nat.le_add_left_of_le (each y member)⟩

/-- A list takes as many characters as it has items, but for one that has no comma, and no fewer than
any of them. -/
theorem length_listed (text : α → List Char) (xs : List α) :
    xs.length ≤ (listed text xs).length + 1 ∧
      ∀ x ∈ xs, (text x).length ≤ (listed text xs).length := by
  cases xs with
  | nil => exact ⟨Nat.zero_le _, nofun⟩
  | cons x xs =>
    obtain ⟨count, each⟩ := length_further text xs
    rw [listed, List.length_append, List.length_cons, List.forall_mem_cons]
    exact ⟨by omega, by omega, fun y member => Nat.le_add_left_of_le (each y member)⟩

end Items

/-! ### Whole values -/

theorem value_of_digit {c : Char} (digit : c.isDigit = true) (fuel : Nat) (rest : List Char) :
    value (fuel + 1) (c :: rest) =
      (digits (c :: rest)).map fun (n, rest) => (number n, rest) := by
  rw [value]
  all_goals
    rintro _ ⟨⟩
    exact absurd digit (by decide)

theorem value_number (n : Int) (fuel : Nat) : Reads (value (fuel + 1)) (number n).chars (number n) := by
  intro rest ends
  rw [chars]
  cases n with
  | ofNat n =>
    rw [decimal]
    have read := digits_toDigits n ends
    cases row : Nat.toDigits 10 n with
    | nil => exact absurd row Nat.toDigits_ne_nil
    | cons c cs =>
      have digit : c.isDigit = true := Nat.isDigit_of_mem_toDigits (by decide) (by decide)
        (row ▸ List.mem_cons_self : c ∈ Nat.toDigits 10 n)
      rw [row, List.cons_append] at read
      rw [List.cons_append, value_of_digit digit, read]
      rfl
  | negSucc n =>
    have signed : value (fuel + 1) (decimal (.negSucc n) ++ rest) =
        (digits (Nat.toDigits 10 (n + 1) ++ rest)).map fun (n, rest) => (number (-n), rest) := rfl
    rw [signed, digits_toDigits (n + 1) ends]
    rfl

theorem quote_append (s : String) (rest : List Char) :
    quote s ++ rest = '"' :: (s.toList.flatMap escape ++ '"' :: rest) := by
  simp [quote]

theorem value_string (s : String) (fuel : Nat) :
    Reads (value (fuel + 1)) (string s).chars (string s) := by
  intro rest _
  have opened : value (fuel + 1) ('"' :: (s.toList.flatMap escape ++ '"' :: rest)) =
      (unquoted (s.toList.flatMap escape ++ '"' :: rest)).map
        fun (cs, rest) => (string (String.ofList cs), rest) := rfl
  rw [chars, quote_append, opened, unquoted_flatMap_escape]
  simp only [Option.map_some, String.ofList_toList]

/-- A member is read if its value is. -/
theorem named_member {m : String × Json} {fuel : Nat}
    (reads : Reads (value fuel) m.2.chars m.2) : Reads (named (value fuel)) (memberText m) m := by
  intro rest ends
  have text : memberText m ++ rest =
      '"' :: (m.1.toList.flatMap escape ++ '"' :: (':' :: (chars m.2 ++ rest))) := by
    rw [memberText, List.append_assoc, quote_append, List.cons_append]
  rw [text, named, unquoted_flatMap_escape]
  simp only [reads rest ends, Option.map_some, String.ofList_toList]

theorem value_array {vs : List Json} {fuel : Nat} (enough : (array vs).chars.length < fuel + 1)
    (reads : ∀ v ∈ vs, v.chars.length < fuel → Reads (value fuel) v.chars v) :
    Reads (value (fuel + 1)) (array vs).chars (array vs) := by
  intro rest _
  obtain ⟨count, each⟩ := length_listed chars vs
  rw [chars_array] at enough ⊢
  simp only [List.length_append, List.length_cons, List.length_nil] at enough
  have items : ∀ v ∈ vs, Reads (value fuel) v.chars v := by
    intro v member
    have shorter := each v member
    exact reads v member (by omega)
  have closed : ∀ rest, value fuel (']' :: rest) = none := by
    intro rest
    cases fuel <;> rfl
  have opened : value (fuel + 1) ('[' :: (listed chars vs ++ ']' :: rest)) =
      (separated ']' (value fuel) fuel (listed chars vs ++ ']' :: rest)).map
        fun (vs, rest) => (array vs, rest) := rfl
  rw [List.append_assoc, List.cons_append, List.singleton_append, opened,
    separated_items (.inl rfl) items closed (by omega)]
  rfl

theorem value_object {ms : List (String × Json)} {fuel : Nat}
    (enough : (object ms).chars.length < fuel + 1)
    (reads : ∀ m ∈ ms, m.2.chars.length < fuel → Reads (value fuel) m.2.chars m.2) :
    Reads (value (fuel + 1)) (object ms).chars (object ms) := by
  intro rest _
  obtain ⟨count, each⟩ := length_listed memberText ms
  rw [chars_object] at enough ⊢
  simp only [List.length_append, List.length_cons, List.length_nil] at enough
  have items : ∀ m ∈ ms, Reads (named (value fuel)) (memberText m) m := by
    intro m member
    have shorter := each m member
    rw [memberText, List.length_append, List.length_cons] at shorter
    exact named_member (reads m member (by omega))
  have opened : value (fuel + 1) ('\x7b' :: (listed memberText ms ++ '\x7d' :: rest)) =
      (separated '\x7d' (named (value fuel)) fuel (listed memberText ms ++ '\x7d' :: rest)).map
        fun (ms, rest) => (object ms, rest) := rfl
  rw [List.append_assoc, List.cons_append, List.singleton_append, opened,
    separated_items (.inr rfl) items (fun _ => rfl) (by omega)]
  rfl

/-- The value at the front of a text is read, whatever follows it. -/
theorem value_chars (v : Json) : ∀ fuel, v.chars.length < fuel → Reads (value fuel) v.chars v := by
  -- What stands within a value is shorter by its brackets, which is what one step down costs.
  induction v using Json.induction with
  | null =>
    rintro (_ | fuel) enough rest -
    · cases enough
    · rfl
  | bool b =>
    rintro (_ | fuel) enough rest -
    · cases enough
    · cases b <;> rfl
  | number n =>
    rintro (_ | fuel) enough
    · cases enough
    · exact value_number n fuel
  | string s =>
    rintro (_ | fuel) enough
    · cases enough
    · exact value_string s fuel
  | array vs ih =>
    rintro (_ | fuel) enough
    · cases enough
    · exact value_array enough fun v member => ih v member fuel
  | object ms ih =>
    rintro (_ | fuel) enough
    · cases enough
    · exact value_object enough fun m member => ih m member fuel

/-- The text of a value is read as that value. -/
theorem parse_chars (v : Json) : parse v.chars = some v := by
  have read := value_chars v (v.chars.length + 1) (Nat.lt_succ_self _) [] ends_nil
  rw [List.append_nil] at read
  rw [parse, read]

/-! ### What a text is made of -/

/-- No character comes before the space. -/
def Printable (text : List Char) : Prop := ∀ c ∈ text, 0x20 ≤ c.toNat

instance (text : List Char) : Decidable (Printable text) :=
  List.decidableBAll _ text

theorem printable_nil : Printable [] := nofun

theorem printable_cons_iff {c : Char} {cs : List Char} :
    Printable (c :: cs) ↔ 0x20 ≤ c.toNat ∧ Printable cs :=
  List.forall_mem_cons

theorem printable_append_iff {cs ds : List Char} :
    Printable (cs ++ ds) ↔ Printable cs ∧ Printable ds :=
  List.forall_mem_append

theorem printable_hexDigit : ∀ n < 16, 0x20 ≤ (hexDigit n).toNat := by decide

theorem printable_escape (c : Char) : Printable (escape c) := by
  fun_cases escape c with
  | case1 | case2 | case3 | case4 | case5 | case6 | case7 =>
    decide
  | case8 _ _ _ _ _ _ _ small =>
    have high := printable_hexDigit (c.toNat / 16) (by omega)
    have low := printable_hexDigit (c.toNat % 16) (by omega)
    have mark : Printable ['\\', 'u', '0', '0'] := by decide
    exact printable_append_iff.2
      ⟨mark, printable_cons_iff.2 ⟨high, printable_cons_iff.2 ⟨low, printable_nil⟩⟩⟩
  | case9 _ _ _ _ _ _ _ large => exact printable_cons_iff.2 ⟨Nat.not_lt.1 large, printable_nil⟩

theorem printable_quote (s : String) : Printable (quote s) := by
  rw [quote, List.cons_append, printable_cons_iff, printable_append_iff]
  refine ⟨by decide, ?_, printable_cons_iff.2 ⟨by decide, printable_nil⟩⟩
  intro c member
  obtain ⟨d, -, written⟩ := List.mem_flatMap.1 member
  exact printable_escape d c written

theorem printable_toDigits (n : Nat) : Printable (Nat.toDigits 10 n) := by
  intro c member
  have digit : c.isDigit = true := Nat.isDigit_of_mem_toDigits (by decide) (by decide) member
  simp only [Char.isDigit, Bool.and_eq_true, decide_eq_true_eq, UInt32.le_iff_toNat_le] at digit
  exact Nat.le_trans (by decide) digit.1

/-- Items with commas between them are printable if every item is. -/
theorem printable_listed {text : α → List Char} {xs : List α} (each : ∀ x ∈ xs, Printable (text x)) :
    Printable (listed text xs) := by
  cases xs with
  | nil => exact printable_nil
  | cons x xs =>
    obtain ⟨first, others⟩ := List.forall_mem_cons.1 each
    refine printable_append_iff.2 ⟨first, fun c member => ?_⟩
    obtain ⟨y, behind, written⟩ := List.mem_flatMap.1 member
    exact printable_cons_iff.2 ⟨by decide, others y behind⟩ c written

/-- The text of a value holds no control characters. -/
theorem printable_chars (v : Json) : Printable v.chars := by
  induction v using Json.induction with
  | null => decide
  | bool b => cases b <;> decide
  | number n =>
    rw [chars]
    cases n with
    | ofNat n => exact printable_toDigits n
    | negSucc n => exact printable_cons_iff.2 ⟨by decide, printable_toDigits (n + 1)⟩
  | string s =>
    rw [chars]
    exact printable_quote s
  | array vs ih =>
    rw [chars_array, printable_append_iff, printable_cons_iff]
    exact ⟨⟨by decide, printable_listed ih⟩, by decide⟩
  | object ms ih =>
    have members : ∀ m ∈ ms, Printable (memberText m) := by
      intro m member
      rw [memberText, printable_append_iff, printable_cons_iff]
      exact ⟨printable_quote m.1, by decide, ih m member⟩
    rw [chars_object, printable_append_iff, printable_cons_iff]
    exact ⟨⟨by decide, printable_listed members⟩, by decide⟩

end Supervisor.Json
