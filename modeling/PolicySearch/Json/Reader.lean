import PolicySearch.Json.Basic
import PolicySearch.Text.Digit
import PolicySearch.Text.Hex
/-! Reading JSON text. Besides the standard grammar the reader takes NaN and the infinities, and
of a repeated key it keeps the first place and the last value. A text that is refused is refused
at one place for one reason, and one reason is that too many lists and objects stand open. Two
halves of a pair of escapes make one character; half a pair becomes the replacement character. -/
namespace PolicySearch.Json
open Number Text

inductive Reason where
  | byteOrderMark
  | value
  | comma
  | colon
  | key
  | extraData
  | unterminated
  | control
  | escape
  | unicodeEscape
  | digits (count : Nat)
  | nesting (shape : String)
  deriving DecidableEq, Repr

/-- Why reading stopped, and how much of the text was left there. -/
structure Stop where
  reason : Reason
  left : Nat
  deriving DecidableEq, Repr

abbrev Taken (α : Type) := α × List Char

def stopAt {α : Type} (reason : Reason) (rest : List Char) : Except Stop (Taken α) :=
  .error ⟨reason, rest.length⟩

def isSpace (c : Char) : Bool := c == ' ' || c == '\t' || c == '\n' || c == '\r'

def skip (s : List Char) : List Char := s.dropWhile isSpace

def isPlain (c : Char) : Bool := c != '"' && c != '\\' && 0x20 ≤ c.toNat

def shortEscapes : List (Char × Char) :=
  [('"', '"'), ('\\', '\\'), ('/', '/'), ('b', '\x08'), ('f', '\x0c'), ('n', '\n'), ('r', '\r'),
    ('t', '\t')]

/-- Four hexadecimal digits after the letter u; at least one character has to follow them. -/
def readUnit (s : List Char) : Except Stop (Taken Nat) :=
  match s with
  | _ :: a :: b :: c :: d :: next :: rest =>
    match hexNumber [a, b, c, d] with
    | some n => .ok (n, next :: rest)
    | none => stopAt .unicodeEscape s
  | _ => stopAt .unicodeEscape s

def isHighHalf (n : Nat) : Bool := 0xd800 ≤ n && n < 0xdc00

def isLowHalf (n : Nat) : Bool := 0xdc00 ≤ n && n < 0xe000

def joinHalves (high low : Nat) : Nat := 0x10000 + (high - 0xd800) * 0x400 + (low - 0xdc00)

def charOfUnit (n : Nat) : Char :=
  if isHighHalf n || isLowHalf n then '\ufffd' else Char.ofNat n

def readNumbered (s : List Char) : Except Stop (Taken Char) := do
  let (n, rest) ← readUnit s
  match isHighHalf n, rest with
  | true, '\\' :: 'u' :: more =>
    let (low, after) ← readUnit ('u' :: more)
    if isLowHalf low then .ok (Char.ofNat (joinHalves n low), after)
    else .ok (charOfUnit n, rest)
  | _, _ => .ok (charOfUnit n, rest)

def readEscape (opened fromSlash : List Char) : List Char → Except Stop (Taken Char)
  | [] => stopAt .unterminated opened
  | 'u' :: rest => readNumbered ('u' :: rest)
  | c :: rest =>
    match shortEscapes.lookup c with
    | some meant => .ok (meant, rest)
    | none => stopAt .escape fromSlash

/-- A string up to its closing quote; `opened` is what was left at the opening one. -/
def readText (opened : List Char) : Nat → List Char → Except Stop (Taken (List Char))
  | 0, _ => stopAt .unterminated opened
  | fuel + 1, s =>
    match s.dropWhile isPlain with
    | [] => stopAt .unterminated opened
    | c :: rest =>
      if c = '"' then .ok (s.takeWhile isPlain, rest)
      else if c = '\\' then do
        let (meant, rest) ← readEscape opened (c :: rest) rest
        let (more, rest) ← readText opened fuel rest
        .ok (s.takeWhile isPlain ++ meant :: more, rest)
      else stopAt .control (c :: rest)

def readString (fuel : Nat) (s : List Char) : Except Stop (Taken String) := do
  let (text, rest) ← readText s fuel (s.drop 1)
  .ok (String.ofList text, rest)

/-- A zero stands alone before the point. -/
def wholeDigits : List Char → List Char
  | '0' :: _ => ['0']
  | s => s.takeWhile isDigit

def fractionDigits (s : List Char) : List Char × List Char :=
  let digits := (s.drop 1).takeWhile isDigit
  if s.head? = some '.' && !digits.isEmpty then (digits, (s.drop 1).dropWhile isDigit) else ([], s)

def exponentPart (s : List Char) : Option Int × List Char :=
  let (negative, unsigned) := signed (s.drop 1)
  let digits := unsigned.takeWhile isDigit
  if (s.head? = some 'e' || s.head? = some 'E') && !digits.isEmpty then
    (some (withSign negative (valueOf digits)), unsigned.dropWhile isDigit)
  else (none, s)

def mostDigits : Nat := 4300

def readNumber (s : List Char) : Except Stop (Taken Json) :=
  let negative := s.head? = some '-'
  let unsigned := if negative then s.drop 1 else s
  let whole := wholeDigits unsigned
  let (fraction, rest) := fractionDigits (unsigned.drop whole.length)
  let (exponent, rest) := exponentPart rest
  if whole.isEmpty then stopAt .value s
  else if fraction.isEmpty && exponent.isNone then
    if mostDigits < whole.length then stopAt (.digits whole.length) s
    else .ok (.int (withSign negative (valueOf whole)), rest)
  else
    let digits := valueOf (whole ++ fraction)
    .ok (.float (.ofDecimal negative digits (exponent.getD 0 - fraction.length)), rest)

def words : List (String × Json) :=
  [("null", .null), ("true", .bool true), ("false", .bool false), ("NaN", .float .nan),
    ("Infinity", .float (.infinite false)), ("-Infinity", .float (.infinite true))]

def readWord (s : List Char) : Option (Json × List Char) :=
  words.findSome? fun (word, value) =>
    if word.toList.isPrefixOf s then some (value, s.drop word.length) else none

/-- How many lists and objects may stand open at once. -/
def deepest : Nat := 980

mutual
/-- One value from the front of a text, with room for so many more levels. Every character read
takes at most two steps. -/
def readValue : Nat → Nat → List Char → Except Stop (Taken Json)
  | 0, _, s => stopAt .value s
  | fuel + 1, room, s =>
    match s with
    | '"' :: _ => do
      let (text, rest) ← readString fuel s
      .ok (.str text, rest)
    | '[' :: rest =>
      if room = 0 then stopAt (.nesting "array") s
      else match skip rest with
        | ']' :: rest => .ok (.arr [], rest)
        | inside => do
          let (items, rest) ← readItems fuel (room - 1) inside
          .ok (.arr items, rest)
    | '{' :: rest =>
      if room = 0 then stopAt (.nesting "object") s
      else match skip rest with
        | '}' :: rest => .ok (.obj [], rest)
        | inside => do
          let (members, rest) ← readMembers fuel (room - 1) inside
          .ok (ofMembers members, rest)
    | _ =>
      match readWord s with
      | some found => .ok found
      | none => readNumber s

def readItems : Nat → Nat → List Char → Except Stop (Taken (List Json))
  | 0, _, s => stopAt .value s
  | fuel + 1, room, s => do
    let (item, rest) ← readValue fuel room s
    match skip rest with
    | ']' :: rest => .ok ([item], rest)
    | ',' :: rest =>
      let (items, rest) ← readItems fuel room (skip rest)
      .ok (item :: items, rest)
    | rest => stopAt .comma rest

def readMembers : Nat → Nat → List Char → Except Stop (Taken (List (String × Json)))
  | 0, _, s => stopAt .key s
  | fuel + 1, room, s =>
    if s.head? = some '"' then do
      let (key, rest) ← readString fuel s
      match skip rest with
      | ':' :: rest =>
        let (value, rest) ← readValue fuel room (skip rest)
        match skip rest with
        | '}' :: rest => .ok ([(key, value)], rest)
        | ',' :: rest =>
          let (members, rest) ← readMembers fuel room (skip rest)
          .ok ((key, value) :: members, rest)
        | rest => stopAt .comma rest
      | rest => stopAt .colon rest
    else stopAt .key s
end

def readAll (s : List Char) : Except Stop Json :=
  if s.head? = some '\ufeff' then .error ⟨.byteOrderMark, s.length⟩
  else do
    let (value, rest) ← readValue (2 * s.length + 2) deepest (skip s)
    match skip rest with
    | [] => .ok value
    | rest => .error ⟨.extraData, rest.length⟩

structure ReadError where
  reason : Reason
  position : Nat
  line : Nat
  column : Nat
  deriving DecidableEq, Repr

def ReadError.locate (s : List Char) (stop : Stop) : ReadError :=
  let passed := s.take (s.length - stop.left)
  { reason := stop.reason
    position := passed.length
    line := passed.count '\n' + 1
    column := (passed.reverse.takeWhile (· != '\n')).length + 1 }

def Reason.wording : Reason → String
  | .byteOrderMark => "Unexpected UTF-8 BOM (decode using utf-8-sig)"
  | .value => "Expecting value"
  | .comma => "Expecting ',' delimiter"
  | .colon => "Expecting ':' delimiter"
  | .key => "Expecting property name enclosed in double quotes"
  | .extraData => "Extra data"
  | .unterminated => "Unterminated string starting at"
  | .control => "Invalid control character at"
  | .escape => "Invalid \\escape"
  | .unicodeEscape => "Invalid \\uXXXX escape"
  | .digits count =>
    s!"Exceeds the limit ({natText mostDigits} digits) for integer string conversion: value has " ++
      natText count ++ " digits; use sys.set_int_max_str_digits() to increase the limit"
  | .nesting shape =>
    "maximum recursion depth exceeded while decoding a JSON " ++ shape ++ " from a unicode string"

/-- A fault of the grammar; too many digits or levels are none. -/
def ReadError.isSyntax (e : ReadError) : Bool :=
  match e.reason with
  | .digits _ | .nesting _ => false
  | _ => true

def ReadError.message (e : ReadError) : String :=
  if e.isSyntax then
    e.reason.wording ++ ": line " ++ natText e.line ++ " column " ++ natText e.column ++
      " (char " ++ natText e.position ++ ")"
  else e.reason.wording

def ofText (s : String) : Except ReadError Json :=
  (readAll s.toList).mapError (ReadError.locate s.toList)

end PolicySearch.Json
