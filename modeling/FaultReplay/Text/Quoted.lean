import FaultReplay.Text.GraphemeExtend
import FaultReplay.Text.Numeral
import FaultReplay.Text.Printable

/-!
# Quoted text

Text inside a message stands between double quotes and shows every character: a character that would
end the quote, move the cursor or attach to its neighbour is written as an escape. No written
character is a line break, so a quoted text keeps its message on one line.
-/

namespace FaultReplay.Text

/-- How one character is written between quotes. -/
def escape (c : Char) : List Char :=
  if c = '"' then ['\\', '"']
  else if c = '\\' then ['\\', '\\']
  else if c = '\x00' then ['\\', '0']
  else if c = '\t' then ['\\', 't']
  else if c = '\r' then ['\\', 'r']
  else if c = '\n' then ['\\', 'n']
  else if isPrintable c && !attaches c then [c]
  else ['\\', 'u', '\x7b'] ++ Nat.toDigits 16 c.toNat ++ ['\x7d']

/-- The text between double quotes, with escapes. -/
def quote (text : String) : String :=
  String.ofList ('"' :: text.toList.flatMap escape ++ ['"'])

end FaultReplay.Text
