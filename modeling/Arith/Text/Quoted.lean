import Arith.Text.Unmarked

/-!
# Quoted text

Text in double quotes and characters in single quotes, written so that everything
in them can be seen: the quote that encloses them and the backslash are escaped,
and a character without a mark of its own is written by its number.

## Main definitions

* `Arith.escape`: how one character is written between quotes.
* `Arith.quote`: a text in double quotes.
* `Arith.quoteChar`: a character in single quotes.
-/

namespace Arith

/-- How `c` is written between two quotes `mark`. NUL, tab, carriage return and
line feed have short escapes, the backslash and the quote itself take a backslash,
and a character without a mark of its own is given by its hexadecimal number. -/
def escape (mark c : Char) : String :=
  if c = '\x00' then "\\0"
  else if c = '\t' then "\\t"
  else if c = '\r' then "\\r"
  else if c = '\n' then "\\n"
  else if c = '\\' ∨ c = mark then "\\" ++ c.toString
  else if isUnmarked c then "\\u\x7b" ++ String.ofList (Nat.toDigits 16 c.toNat) ++ "\x7d"
  else c.toString

/-- The text in double quotes. -/
def quote (text : String) : String :=
  (text.foldl (fun out c => out ++ escape '"' c) "\"").push '"'

/-- The character in single quotes. -/
def quoteChar (c : Char) : String :=
  ("'" ++ escape '\'' c).push '\''

end Arith
