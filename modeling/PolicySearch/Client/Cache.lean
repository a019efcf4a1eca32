import PolicySearch.Fault
import PolicySearch.Text.Points
import PolicySearch.Text.Trim
/-! Responses kept as texts in files, under the names of their paths. Writing a text can fail, and then
what is left of it is not the text. -/
namespace PolicySearch
open Text (Points)

/-- Texts by file name; of two under one name the first counts. -/
abbrev Cache := List (String × String)

namespace Cache

def dashes (c : Char) : List Char := if c = '/' then ['-', '-'] else [c]

/-- The file name of a path: slashes at the ends go, and each one inside becomes two dashes. -/
def nameOf (path : String) : String :=
  String.ofList ((Text.trim (· == '/') path.toList).flatMap dashes)

/-- Each kind of line end as a line feed. -/
def lineFeeds : List Char → List Char
  | [] => []
  | '\r' :: '\n' :: rest => '\n' :: lineFeeds rest
  | '\r' :: rest => '\n' :: lineFeeds rest
  | c :: rest => c :: lineFeeds rest

def read? (cache : Cache) (name : String) : Option String :=
  (cache.lookup name).map fun text => String.ofList (lineFeeds text.toList)

def write (cache : Cache) (name text : String) : Cache :=
  if (cache.lookup name).isSome then
    cache.map fun row => if row.1 = name then (name, text) else row
  else cache ++ [(name, text)]

def Openable (file : String) : Prop := '\x00' ∉ file.toList

instance (file : String) : Decidable (Openable file) := inferInstanceAs (Decidable (_ ∉ _))

def unopenable : Fault := ⟨.value, some "embedded null byte"⟩

/-- Writing a text to a new file, and what is in the file after it. The file is there before the text is
encoded. -/
def fill (file : String) (text : Points) : Except Fault Unit × Option String :=
  if Openable file then
    match text.written with
    | .ok s => (.ok (), some s)
    | .error halves => (.error ⟨.encoding, some halves.message⟩, some "")
  else (.error unopenable, none)

def keep (cache : Cache) (stem name : String) (text : Points) : Except Fault Unit × Cache :=
  let (done, left) := fill (stem ++ name) text
  (done, left.elim cache (cache.write name))

def sorted (cache : Cache) : List (String × String) :=
  cache.mergeSort fun a b => !(b.1 < a.1)

theorem fillWhole {file : String} (opens : Openable file) (s : String) :
    fill file s = (.ok (), some s) := by
  rw [fill, if_pos opens, Points.writtenString]

theorem fillHalved {file : String} {text : Points} (opens : Openable file) (halved : ¬ text.Whole) :
    ∃ message, fill file text = (.error ⟨.encoding, message⟩, some "") := by
  obtain ⟨halves, unwritten⟩ := Points.unwritten halved
  exact ⟨_, by rw [fill, if_pos opens, unwritten]⟩

theorem fillUnopened {file : String} (unopened : ¬ Openable file) (text : Points) :
    fill file text = (.error unopenable, none) := by
  rw [fill, if_neg unopened]

theorem lookupWritten {cache : Cache} {name text : String}
    (absent : cache.lookup name = none) : (cache.write name text).lookup name = some text := by
  simp [write, absent, List.lookup_append]

theorem lookupUnwritten {cache : Cache} {name other : String} (text : String)
    (absent : cache.lookup name = none) (ne : other ≠ name) :
    (cache.write name text).lookup other = cache.lookup other := by
  simp [write, absent, List.lookup_append, List.lookup_cons, beq_eq_false_iff_ne.2 ne]

end Cache

end PolicySearch
