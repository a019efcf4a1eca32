/-! Cutting characters of a class from the ends of a text. -/
namespace PolicySearch.Text

def trimStart (drop : Char → Bool) (s : List Char) : List Char := s.dropWhile drop

def trimEnd (drop : Char → Bool) (s : List Char) : List Char := (s.reverse.dropWhile drop).reverse

def trim (drop : Char → Bool) (s : List Char) : List Char := trimEnd drop (trimStart drop s)

def trimmedStart (drop : Char → Bool) (s : String) : String :=
  String.ofList (trimStart drop s.toList)

def trimmedEnd (drop : Char → Bool) (s : String) : String :=
  String.ofList (trimEnd drop s.toList)

theorem trimStartSplit (drop : Char → Bool) (s : List Char) :
    ∃ cut, s = cut ++ trimStart drop s ∧ ∀ c ∈ cut, drop c = true :=
  ⟨s.takeWhile drop, List.takeWhile_append_dropWhile.symm, fun _ inside =>
    (List.all_eq_true.1 List.all_takeWhile) _ inside⟩

theorem trimEndSplit (drop : Char → Bool) (s : List Char) :
    ∃ cut, s = trimEnd drop s ++ cut ∧ ∀ c ∈ cut, drop c = true := by
  obtain ⟨cut, same, only⟩ := trimStartSplit drop s.reverse
  refine ⟨cut.reverse, ?_, fun c inside => only c (List.mem_reverse.1 inside)⟩
  have back := congrArg List.reverse same
  simpa [trimStart, trimEnd] using back

theorem trimSplit (drop : Char → Bool) (s : List Char) :
    ∃ front back, s = front ++ trim drop s ++ back ∧
      (∀ c ∈ front, drop c = true) ∧ ∀ c ∈ back, drop c = true := by
  obtain ⟨front, hf, onlyF⟩ := trimStartSplit drop s
  obtain ⟨back, hb, onlyB⟩ := trimEndSplit drop (trimStart drop s)
  refine ⟨front, back, ?_, onlyF, onlyB⟩
  rw [List.append_assoc, trim, ← hb, ← hf]

theorem dropNone {drop : Char → Bool} {s : List Char} (kept : ∀ c ∈ s, drop c = false) :
    s.dropWhile drop = s := by
  cases s with
  | nil => rfl
  | cons c rest => rw [List.dropWhile_cons, kept c List.mem_cons_self, if_neg Bool.false_ne_true]

theorem trimNone {drop : Char → Bool} {s : List Char} (kept : ∀ c ∈ s, drop c = false) :
    trim drop s = s := by
  have last : s.reverse.dropWhile drop = s.reverse :=
    dropNone fun c inside => kept c (List.mem_reverse.1 inside)
  rw [trim, trimStart, dropNone kept, trimEnd, last, List.reverse_reverse]

end PolicySearch.Text
