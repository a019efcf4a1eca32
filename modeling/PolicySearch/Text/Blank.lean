import PolicySearch.Text.Trim
/-! The characters that count as blank: white space, the four information separators, the next
line control and the spaces of all scripts. The zero width space and the byte order mark do not. -/
namespace PolicySearch.Text

def blankCodes : List Nat := [
  0x9, 0xa, 0xb, 0xc, 0xd, 0x1c, 0x1d, 0x1e, 0x1f, 0x20, 0x85, 0xa0, 0x1680, 0x2000, 0x2001,
  0x2002, 0x2003, 0x2004, 0x2005, 0x2006, 0x2007, 0x2008, 0x2009, 0x200a, 0x2028, 0x2029,
  0x202f, 0x205f, 0x3000]

def isBlank (c : Char) : Bool := blankCodes.contains c.toNat

def strip (s : List Char) : List Char := trim isBlank s

def stripped (s : String) : String := String.ofList (strip s.toList)

end PolicySearch.Text
