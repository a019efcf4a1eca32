import Mathlib.Data.List.Forall2
import Mathlib.Data.List.TakeWhile
import PolicySearch.Proofs.Json.Displayed
import PolicySearch.Proofs.Text.CaseRuns
import PolicySearch.Search.Mode
/-! The texts that name a mode: one of the words, each letter small or capital, with blanks around it.
Small forms and blanks are those of all scripts, and yet nothing else names a mode. No other letter
has the small form of a letter of the words, and the text of a value that is no string is never a word. -/
namespace PolicySearch

namespace Text

variable {c d : Char} {s word front back before : List Char}

theorem trimAround {drop : Char → Bool} (first : ∀ c ∈ front, drop c = true)
    (last : ∀ c ∈ back, drop c = true) (kept : ∀ c ∈ word, drop c = false) :
    trim drop (front ++ word ++ back) = word := by
  have ends : trimEnd drop (word ++ back) = word := by
    rw [trimEnd, List.reverse_append, List.dropWhile_append_of_pos fun c inside =>
      last c (List.mem_reverse.1 inside), dropNone fun c inside => kept c (List.mem_reverse.1 inside),
      List.reverse_reverse]
  rw [trim, trimStart, List.append_assoc, List.dropWhile_append_of_pos first]
  cases word with
  | nil => rw [List.nil_append, List.dropWhile_eq_nil_iff.2 last]; rfl
  | cons c rest =>
    rwa [List.cons_append, List.dropWhile_cons, kept c List.mem_cons_self,
      if_neg Bool.false_ne_true, ← List.cons_append]

/- What holds of each of a few letters is checked one by one. -/
theorem eachOf {α : Type} {s : List α} {p : α → Prop} [DecidablePred p]
    (checked : s.all (fun a => decide (p a)) = true) : ∀ a ∈ s, p a :=
  fun a inside => of_decide_eq_true (List.all_eq_true.1 checked a inside)

/- The letters of the words. -/
def wordLetters : List Char := "acdegilmnoprsty".toList

def CaseRun.latin : CaseRun := ⟨0x41, 0x5a, 1, 32⟩

/- Of the letters that no word has, `k` is also the small form of the sign for kelvin. -/
theorem latinOnly : ∀ r ∈ smallRuns, r ≠ CaseRun.latin →
    ∀ d ∈ wordLetters, r.image.holds d.toNat = false := by
  have checked : smallRuns.all (fun r => r == CaseRun.latin ||
      wordLetters.all fun d => !r.image.holds d.toNat) = true := by decide +kernel
  simp only [List.all_eq_true, Bool.or_eq_true, beq_iff_eq, Bool.not_eq_true'] at checked
  exact fun r known other => (checked r known).resolve_left other

theorem letterOf (letter : d ∈ wordLetters) (small : smallLetter c = [d]) : c = d ∨ c = d.toUpper := by
  unfold smallLetter at small
  split at small
  · cases small
  · have code := List.singleton_inj.1 small
    rcases shiftCases smallRuns c.toNat with ⟨_, same⟩ | ⟨r, known, held, moved⟩
    · rw [same, Char.ofNat_toNat] at code
      exact .inl code
    · have settled := smallSettles r known
      simp only [CaseRun.settles, Bool.and_eq_true] at settled
      have landed := settled.1.1.1
      rw [moved] at code
      have number := CaseRun.movedCode landed held
      have inside := CaseRun.movedHeld landed held
      rw [code] at number
      by_cases latin : r = CaseRun.latin
      · have capital : ∀ d ∈ wordLetters, d.toUpper.toNat = d.toNat - 32 := eachOf (by decide)
        refine .inr (Char.toNat_inj.1 ?_)
        rw [capital d letter, number, latin]
        simp only [CaseRun.moved, CaseRun.latin]
        omega
      · rw [← number, latinOnly r known latin d letter] at inside
        cases inside

theorem letterSmall : ∀ d ∈ wordLetters, (smallLetter d = [d] ∧ d ≠ 'Σ' ∧ isBlank d = false) ∧
    smallLetter d.toUpper = [d] ∧ d.toUpper ≠ 'Σ' ∧ isBlank d.toUpper = false :=
  eachOf (by decide +kernel)

/- The word, each of its letters as it is or as a capital letter. -/
def AnyCase (word s : List Char) : Prop :=
  List.Forall₂ (fun small c => c = small ∨ c = small.toUpper) word s

theorem pieceSingle {after : List Char} (letters : ∀ d ∈
    if c = 'Σ' then [smallSigma before after] else smallLetter c, d ∈ wordLetters) :
    ∃ d, smallLetter c = [d] ∧ c ≠ 'Σ' := by
  by_cases sigma : c = 'Σ'
  · have foreign : smallSigma before after ∉ wordLetters := by
      unfold smallSigma
      split <;> decide
    rw [if_pos sigma] at letters
    exact absurd (letters _ (List.mem_singleton_self _)) foreign
  · rw [if_neg sigma] at letters
    unfold smallLetter at letters ⊢
    split at letters
    · exact absurd (letters '\u0307' (by decide)) (by decide)
    · rename_i plain
      exact ⟨_, if_neg plain, sigma⟩

theorem lowerLetters (letters : ∀ d ∈ word, d ∈ wordLetters) :
    lowerAfter before s = word ↔ AnyCase word s := by
  induction s generalizing before word with
  | nil => rw [AnyCase, List.forall₂_nil_right_iff]; exact eq_comm
  | cons c rest ih =>
    rw [lowerAfter]
    constructor
    · rintro rfl
      obtain ⟨d, small, other⟩ := pieceSingle fun d inside => letters d (List.mem_append_left _ inside)
      rw [if_neg other, small] at letters ⊢
      exact .cons (letterOf (letters d List.mem_cons_self) small)
        ((ih fun d inside => letters d (List.mem_cons_of_mem _ inside)).1 rfl)
    · intro spelled
      cases spelled with
      | @cons d _ known _ one tail =>
        obtain ⟨own, capital⟩ := letterSmall d (letters d List.mem_cons_self)
        have small : smallLetter c = [d] ∧ c ≠ 'Σ' := by
          rcases one with rfl | rfl
          · exact ⟨own.1, own.2.1⟩
          · exact ⟨capital.1, capital.2.1⟩
        rw [if_neg small.2, small.1, (ih fun d inside => letters d (List.mem_cons_of_mem _ inside)).2 tail]
        rfl

theorem spelledLetters (letters : ∀ d ∈ word, d ∈ wordLetters) (spelled : AnyCase word s) :
    ∀ c ∈ s, ∃ d ∈ wordLetters, c = d ∨ c = d.toUpper := by
  induction spelled with
  | nil => exact nofun
  | @cons d c _ _ one _ ih =>
    intro other inside
    rcases List.mem_cons.1 inside with rfl | inside
    · exact ⟨d, letters d List.mem_cons_self, one⟩
    · exact ih (fun d known => letters d (List.mem_cons_of_mem _ known)) other inside

theorem spelledUnblank (letters : ∀ d ∈ word, d ∈ wordLetters) (spelled : AnyCase word s) :
    ∀ c ∈ s, isBlank c = false := by
  intro c inside
  obtain ⟨d, letter, one⟩ := spelledLetters letters spelled c inside
  obtain ⟨⟨_, _, own⟩, _, _, capital⟩ := letterSmall d letter
  rcases one with rfl | rfl
  · exact own
  · exact capital

end Text

/- A text that is the word of the mode in any case, with blanks around it. -/
def Mode.Named (mode : Mode) (s : List Char) : Prop :=
  ∃ front word back, s = front ++ word ++ back ∧ (∀ c ∈ front, Text.isBlank c = true) ∧
    (∀ c ∈ back, Text.isBlank c = true) ∧ Text.AnyCase mode.word.toList word

namespace Mode
open Text

variable {mode : Mode} {value : Json} {s : List Char}

theorem everyLetter (mode : Mode) : ∀ d ∈ mode.word.toList, d ∈ wordLetters := by
  cases mode with
  | all => exact eachOf (by decide)
  | only facet => cases facet <;> exact eachOf (by decide)

theorem foundIffWord {word : String} : ofWord? word = some mode ↔ mode.word = word :=
  ⟨wordOfFound, fun same => same ▸ ofOwnWord mode⟩

theorem namedIff : mode.Named s ↔ lower (strip s) = mode.word.toList := by
  constructor
  · rintro ⟨front, word, back, rfl, first, last, spelled⟩
    rw [strip, trimAround first last (spelledUnblank (everyLetter mode) spelled)]
    exact (lowerLetters (everyLetter mode)).2 spelled
  · intro lowered
    obtain ⟨front, back, split, first, last⟩ := trimSplit isBlank s
    exact ⟨front, _, back, split, first, last, (lowerLetters (everyLetter mode)).1 lowered⟩

theorem ofJsonNamed : ofJson value = .ok mode ↔ mode.Named value.plain.toList := by
  have found : ofJson value = .ok mode ↔ ofWord? (lowered (stripped value.plain)) = some mode := by
    unfold ofJson
    cases ofWord? (lowered (stripped value.plain)) <;> simp
  rw [found, foundIffWord, namedIff, ← String.toList_inj, lowered, stripped, String.toList_ofList,
    String.toList_ofList, eq_comm]

/- A blank is no mark, and neither is a letter of the words. -/
theorem namedUnmarked (named : mode.Named s) : ¬ Json.Marked s := by
  rintro ⟨c, inside, mark⟩
  have blanks : ∀ n ∈ blankCodes, Json.isMark (Char.ofNat n) = false := eachOf (by decide +kernel)
  have letters : ∀ d ∈ wordLetters, Json.isMark d = false ∧ Json.isMark d.toUpper = false :=
    eachOf (by decide +kernel)
  have blank (empty : isBlank c = true) : False := by
    have none := blanks c.toNat (by simpa [isBlank] using empty)
    rw [Char.ofNat_toNat, mark] at none
    cases none
  obtain ⟨front, word, back, rfl, first, last, spelled⟩ := named
  simp only [List.mem_append] at inside
  rcases inside with (inside | inside) | inside
  · exact blank (first c inside)
  · obtain ⟨d, letter, rfl | rfl⟩ := spelledLetters (everyLetter mode) spelled c inside
    · rw [(letters _ letter).1] at mark
      cases mark
    · rw [(letters d letter).2] at mark
      cases mark
  · exact blank (last c inside)

theorem otherUnnamed (other : ∀ text, value ≠ .str text) : ofJson value ≠ .ok mode := by
  intro found
  have named := ofJsonNamed.1 found
  rw [Json.plainOther other] at named
  rcases Json.displayedOther other with word | marked
  · have words : ∀ word ∈ Json.displayWords,
        every.all fun mode => lower (strip word.toList) ≠ mode.word.toList := by decide +kernel
    have none := List.all_eq_true.1 (words _ word) mode (memberOfEvery mode)
    exact of_decide_eq_true none (namedIff.1 named)
  · exact namedUnmarked named marked

theorem ofJsonUnnamed {e : UnknownMode} :
    ofJson value = .error e ↔ e = ⟨value⟩ ∧ ∀ mode, ofJson value ≠ .ok mode := by
  unfold ofJson
  split
  · rename_i mode _
    exact ⟨nofun, fun unnamed => absurd rfl (unnamed.2 mode)⟩
  · exact ⟨fun same => ⟨(Except.error.inj same).symm, nofun⟩, fun ⟨same, _⟩ => same ▸ rfl⟩

/- What the value names: a mode if it is a text that is the word of that mode in any case, with blanks
around it; and nothing else, so no text with a letter that is not ASCII. -/
structure Grammar (value : Json) : Prop where
  accepts : ∀ mode : Mode, ofJson value = .ok mode ↔ ∃ text, value = .str text ∧ mode.Named text.toList
  refuses : ∀ e, ofJson value = .error e ↔
    e = ⟨value⟩ ∧ ∀ (mode : Mode) text, value = .str text → ¬ mode.Named text.toList
  foreign : ∀ text, value = .str text → (∃ c ∈ text.toList, isBlank c = false ∧ 128 ≤ c.toNat) →
    ofJson value = .error ⟨value⟩

theorem acceptedIff : ofJson value = .ok mode ↔ ∃ text, value = .str text ∧ mode.Named text.toList := by
  constructor
  · intro found
    cases value with
    | str text => exact ⟨text, rfl, ofJsonNamed.1 found⟩
    | null | bool | int | float | arr | obj => exact absurd found (otherUnnamed nofun)
  · rintro ⟨text, rfl, named⟩
    exact ofJsonNamed.2 named

theorem refusedIff {e : UnknownMode} : ofJson value = .error e ↔
    e = ⟨value⟩ ∧ ∀ (mode : Mode) text, value = .str text → ¬ mode.Named text.toList := by
  rw [ofJsonUnnamed]
  refine and_congr_right fun _ => forall_congr' fun mode => ?_
  rw [Ne, acceptedIff, not_exists]
  exact forall_congr' fun text => not_and

theorem namedLetters (named : mode.Named s) {c : Char} (inside : c ∈ s) (shown : isBlank c = false) :
    c.toNat < 128 := by
  have letters : ∀ d ∈ wordLetters, d.toNat < 128 ∧ d.toUpper.toNat < 128 := eachOf (by decide)
  obtain ⟨front, word, back, rfl, first, last, spelled⟩ := named
  simp only [List.mem_append] at inside
  rcases inside with (inside | inside) | inside
  · rw [first c inside] at shown
    cases shown
  · obtain ⟨d, letter, rfl | rfl⟩ := spelledLetters (everyLetter mode) spelled c inside
    · exact (letters _ letter).1
    · exact (letters d letter).2
  · rw [last c inside] at shown
    cases shown

theorem modeGrammar (value : Json) : Grammar value where
  accepts _ := acceptedIff
  refuses _ := refusedIff
  foreign := by
    rintro text rfl ⟨c, inside, shown, far⟩
    refine refusedIff.2 ⟨rfl, fun mode other same named => ?_⟩
    cases same
    exact absurd (namedLetters named inside shown) (Nat.not_lt.2 far)

example : ofJson (.str "\u2003Tags\x1f") = .ok (.only .tags) := by decide +kernel

end Mode

end PolicySearch
