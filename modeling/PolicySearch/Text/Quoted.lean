import PolicySearch.Text.Hex
import PolicySearch.Text.Printable
/-! Quoted text. Single quotes are put around a text, and double quotes around one that holds a
single quote and no double one. The quote in use and the backslash are written after a backslash,
the line feed, carriage return and tab by their letters, and every other character that is not
shown as it is by its number. -/
namespace PolicySearch.Text

def quoteMark (s : List Char) : Char := if s.contains '\'' && !s.contains '"' then '"' else '\''

def numbered (c : Char) : List Char :=
  if c.toNat < 0x100 then '\\' :: 'x' :: hex 2 c.toNat
  else if c.toNat < 0x10000 then '\\' :: 'u' :: hex 4 c.toNat
  else '\\' :: 'U' :: hex 8 c.toNat

def escaped (mark c : Char) : List Char :=
  if c = mark ∨ c = '\\' then ['\\', c]
  else if c = '\n' then ['\\', 'n']
  else if c = '\r' then ['\\', 'r']
  else if c = '\t' then ['\\', 't']
  else if isPrintable c then [c]
  else numbered c

def quote (s : List Char) : List Char :=
  quoteMark s :: s.flatMap (escaped (quoteMark s)) ++ [quoteMark s]

def quoted (s : String) : String := String.ofList (quote s.toList)

end PolicySearch.Text
