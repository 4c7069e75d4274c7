/-!
# Values for exchange with other programs, and their compact text

## Main definitions

* `Json` - values; the members of an object keep their order
* `Json.chars`, `Json.compact` - the text without white space
* `Json.member?` - a member of an object
-/

namespace Supervisor

/-- A value for exchange with other programs. Numbers are whole. -/
inductive Json where
  | null
  | bool (b : Bool)
  | number (n : Int)
  | string (s : String)
  | array (elements : List Json)
  | object (members : List (String × Json))
  deriving Inhabited

namespace Json

/-- A digit of base 16 in lower case. -/
def hexDigit (n : Nat) : Char := n.digitChar

/-- How a character is written within quotation marks: control characters have short names or are
given by their number, a quotation mark and a backslash are escaped. -/
def escape (c : Char) : List Char :=
  if c = '"' then ['\\', '"']
  else if c = '\\' then ['\\', '\\']
  else if c = '\n' then ['\\', 'n']
  else if c = '\r' then ['\\', 'r']
  else if c = '\t' then ['\\', 't']
  else if c = '\x08' then ['\\', 'b']
  else if c = '\x0c' then ['\\', 'f']
  else if c.toNat < 0x20 then
    ['\\', 'u', '0', '0', hexDigit (c.toNat / 16), hexDigit (c.toNat % 16)]
  else [c]

/-- A text within quotation marks. -/
def quote (s : String) : List Char := '"' :: s.toList.flatMap escape ++ ['"']

/-- A number in decimal. -/
def decimal : Int → List Char
  | .ofNat n => Nat.toDigits 10 n
  | .negSucc n => '-' :: Nat.toDigits 10 (n + 1)

mutual

/-- The text of a value, without white space. -/
def chars : Json → List Char
  | null => "null".toList
  | bool true => "true".toList
  | bool false => "false".toList
  | number n => decimal n
  | string s => quote s
  | array [] => ['[', ']']
  | array (v :: vs) => '[' :: chars v ++ tailChars vs ++ [']']
  | object [] => ['\x7b', '\x7d']
  | object ((k, v) :: ms) =>
    '\x7b' :: quote k ++ ':' :: chars v ++ memberChars ms ++ ['\x7d']

/-- The elements of an array after its first one, each with the comma before it. -/
def tailChars : List Json → List Char
  | [] => []
  | v :: vs => ',' :: chars v ++ tailChars vs

/-- The members of an object after its first one, each with the comma before it. -/
def memberChars : List (String × Json) → List Char
  | [] => []
  | (k, v) :: ms => ',' :: quote k ++ ':' :: chars v ++ memberChars ms

end

/-- The text of a value, without white space. -/
def compact (v : Json) : String := String.ofList v.chars

/-- The member of an object with the given name; the last one if there are several. -/
def member? (name : String) (members : List (String × Json)) : Option Json :=
  (members.reverse.find? (·.1 = name)).map (·.2)

end Json

end Supervisor
