import Supervisor.Text.Hex
import Supervisor.Text.Printable

/-!
# Texts between quotation marks

Paths and names are shown between double quotes. A quote and a backslash are escaped, the usual
control characters have short names, and any other character without a glyph is given by its code
point in braces.

## Main definitions

* `Text.quoted` - a text between quotation marks
* `Text.quotedList` - several of them in brackets
-/

namespace Supervisor.Text

/-- How one character is shown between quotation marks. -/
def quotedChar (c : Char) : String :=
  if c = '"' then "\\\""
  else if c = '\\' then "\\\\"
  else if c = '\n' then "\\n"
  else if c = '\t' then "\\t"
  else if c = '\r' then "\\r"
  else if c = '\x00' then "\\0"
  else if isPrintable c then c.toString
  else "\\u\x7b" ++ hexDigits c.toNat ++ "\x7d"

/-- A text between quotation marks. -/
def quoted (s : String) : String := "\"" ++ String.join (s.toList.map quotedChar) ++ "\""

/-- Texts between quotation marks, in brackets and separated by commas. -/
def quotedList (ss : List String) : String := "[" ++ ", ".intercalate (ss.map quoted) ++ "]"

end Supervisor.Text
