/-! Whole numbers in decimal. -/
namespace PolicySearch.Number

def digitsOf (n : Nat) : List Char := Nat.toDigits 10 n

def digitCount (n : Nat) : Nat := (digitsOf n).length

def valueOf (digits : List Char) : Nat :=
  digits.foldl (fun sum c => 10 * sum + (c.toNat - '0'.toNat)) 0

def natText (n : Nat) : String := String.ofList (digitsOf n)

def intText : Int → String
  | .ofNat n => natText n
  | .negSucc n => "-" ++ natText (n + 1)

def tenTo (k : Nat) : Nat := Nat.pow 10 k

def signed : List Char → Bool × List Char
  | '-' :: rest => (true, rest)
  | '+' :: rest => (false, rest)
  | rest => (false, rest)

def withSign (negative : Bool) (n : Nat) : Int := if negative then -n else n

theorem digitCountPositive (n : Nat) : 0 < digitCount n := Nat.length_toDigits_pos

end PolicySearch.Number
