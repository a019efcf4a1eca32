/-! Control sequences of a terminal: an escape, an opening bracket, numbers, and a letter that ends
the sequence. An escape that begins none is text like any other. -/
namespace PolicySearch.Text

def isParameter (c : Char) : Bool := c == ';' || c == '?' || ('0' ≤ c && c ≤ '9')

def isFinal (c : Char) : Bool := ('a' ≤ c && c ≤ 'z') || ('A' ≤ c && c ≤ 'Z')

def afterSequence? : List Char → Option (List Char)
  | '[' :: rest =>
    match rest.dropWhile isParameter with
    | c :: after => if isFinal c then some after else none
    | [] => none
  | _ => none

theorem afterSequenceShorter {s after : List Char} (found : afterSequence? s = some after) :
    after.length < s.length := by
  unfold afterSequence? at found
  split at found
  · rename_i rest
    split at found
    · rename_i c tail same
      split at found
      · cases found
        have shorter := (List.dropWhile_suffix isParameter (l := rest)).length_le
        rw [same] at shorter
        simp only [List.length_cons] at shorter ⊢
        omega
      · cases found
    · cases found
  · cases found

def withoutSequences (s : List Char) : List Char :=
  match s with
  | [] => []
  | c :: rest =>
    if c = '\x1b' then
      match _found : afterSequence? rest with
      | some after => withoutSequences after
      | none => c :: withoutSequences rest
    else c :: withoutSequences rest
termination_by s.length
decreasing_by
  · have := afterSequenceShorter _found
    simp only [List.length_cons]
    omega
  · simp
  · simp

theorem withoutSequencesPlain {s : List Char} (absent : '\x1b' ∉ s) :
    withoutSequences s = s := by
  induction s with
  | nil => rw [withoutSequences]
  | cons c rest ih =>
    have other : c ≠ '\x1b' := fun same => absent (same ▸ List.mem_cons_self)
    rw [withoutSequences, if_neg other, ih fun inside => absent (List.mem_cons_of_mem _ inside)]

end PolicySearch.Text
