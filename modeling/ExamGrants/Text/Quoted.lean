import ExamGrants.Text.Hex
import ExamGrants.Text.Hidden

namespace ExamGrants.Text

/-! The quoted form in which diagnoses show a text.

The form is one line between double quotes and shows every character: the quote,
the backslash and the common controls by a short escape, other hidden characters
by their code point, all else as it is.
-/

/-- One character inside a quoted text. -/
def quoteChar (c : Char) : String :=
  if c = '"' then "\\\""
  else if c = '\\' then "\\\\"
  else if c = '\n' then "\\n"
  else if c = '\r' then "\\r"
  else if c = '\t' then "\\t"
  else if c = '\x00' then "\\0"
  else if isHidden c then "\\u\x7b" ++ hexText c.toNat ++ "\x7d"
  else c.toString

/-- A text between double quotes, with every character to be seen. -/
def quoted (text : String) : String :=
  "\"" ++ String.join (text.toList.map quoteChar) ++ "\""

end ExamGrants.Text
