import Mathlib.Data.List.Basic
import PolicySearch.Proofs.Text.CaseRuns
import PolicySearch.Proofs.Text.Sigma
/-! Texts whose case is changed before they are made small. A text in small letters stays as it is. One
in capital letters has the small form of the text exactly if each letter has that of its own capital
letters, and each small sigma is of the form that a capital one has in its place. -/
namespace PolicySearch.Text

variable {s x y side before after before' after' : List Char} {c d : Char}

theorem lowerAfterSmall (before : List Char) (small : ∀ c ∈ s, Small c) : lowerAfter before s = s := by
  induction s generalizing before with
  | nil => rfl
  | cons c rest ih =>
    obtain ⟨plain, self⟩ := small c List.mem_cons_self
    have tail := ih (c :: before) fun d member => small d (List.mem_cons_of_mem c member)
    rw [lowerAfter, if_neg plain, self, tail, List.singleton_append]

theorem sigmaSmall (before after : List Char) : Small (smallSigma before after) := by
  have each : Small 'ς' ∧ Small 'σ' := by decide +kernel
  unfold smallSigma
  split
  · exact each.1
  · exact each.2

theorem lowerAfterMember (member : d ∈ lowerAfter before s) : Small d := by
  induction s generalizing before with
  | nil => cases member
  | cons c rest ih =>
    rw [lowerAfter] at member
    rcases List.mem_append.1 member with head | tail
    · split at head
      · rw [List.mem_singleton.1 head]
        exact sigmaSmall before rest
      · rename_i plain
        exact smallLetterSmall plain head
    · exact ih tail

theorem lowerTwice (s : List Char) : lower (lower s) = lower s :=
  lowerAfterSmall [] fun _ => lowerAfterMember

/- The letter has the small form of its own capital letters. The sharp s has not, which has two of them,
and neither has the sign for micro, which shares its one with a letter. -/
def Steady (c : Char) : Prop := (capitalLetters c).flatMap smallLetter = smallLetter c
instance (c : Char) : Decidable (Steady c) := by unfold Steady; infer_instance

/- A text that can be written in capital letters and made small again. -/
structure Recased (s : List Char) : Prop where
  letters : ∀ c ∈ s, c ∉ sigmas → Steady c
  final : ∀ x y, s = x ++ 'ς' :: y → wordEnds x.reverse y = true
  inner : ∀ x y, s = x ++ 'σ' :: y → wordEnds x.reverse y = false

theorem flatMapLonger (s : List Char) : s.length ≤ (s.flatMap smallLetter).length := by
  induction s with
  | nil => exact Nat.le_refl _
  | cons c rest ih =>
    have filled := List.length_pos_iff.2 (smallLetterFilled c)
    simp only [List.flatMap_cons, List.length_append, List.length_cons]
    omega

theorem smallWidth (c : Char) : (smallLetter c).length = if c = 'İ' then 2 else 1 := by
  unfold smallLetter
  split <;> rfl

theorem capitalFilled (c : Char) : capitalLetters c ≠ [] := by
  cases found : longCapitals.lookup c.toNat with
  | none =>
    rw [capitalSingle found]
    exact List.cons_ne_nil _ _
  | some codes =>
    have filled : ∀ p ∈ longCapitals, p.2 ≠ [] := by decide +kernel
    rw [capitalLetters, found]
    exact fun empty => filled _ (longMember found) (List.map_eq_nil_iff.1 empty)

theorem capitalWidth (c : Char) :
    (smallLetter c).length ≤ ((capitalLetters c).flatMap smallLetter).length := by
  by_cases dotted : c = 'İ'
  · rw [dotted]
    decide +kernel
  · have longer := flatMapLonger (capitalLetters c)
    have filled := List.length_pos_iff.2 (capitalFilled c)
    rw [smallWidth, if_neg dotted]
    omega

theorem betweenPlain (plain : 'Σ' ∉ s) : lowerBetween before after s = s.flatMap smallLetter := by
  induction s generalizing before with
  | nil => rfl
  | cons c rest ih =>
    have other : c ≠ 'Σ' := fun same => plain (same ▸ List.mem_cons_self)
    rw [lowerBetween, if_neg other, ih fun member => plain (List.mem_cons_of_mem c member),
      List.flatMap_cons]

theorem betweenLength (before after s : List Char) :
    (lowerBetween before after s).length = (s.flatMap smallLetter).length := by
  induction s generalizing before with
  | nil => rfl
  | cons c rest ih =>
    rw [lowerBetween, List.flatMap_cons, List.length_append, List.length_append, ih]
    split
    · rename_i sigma
      rw [sigma, smallWidth]
      rfl
    · rfl

theorem upperWidth (s : List Char) :
    (s.flatMap smallLetter).length ≤ ((upper s).flatMap smallLetter).length := by
  induction s with
  | nil => exact Nat.le_refl _
  | cons c rest ih =>
    have head := capitalWidth c
    rw [upper] at ih ⊢
    simp only [List.flatMap_cons, List.flatMap_append, List.length_append]
    omega

/- No part on the left is shorter, so the parts are the same if the whole is. -/
theorem partsSame {a b a' b' : List Char} (first : a'.length ≤ a.length)
    (second : b'.length ≤ b.length) : a ++ b = a' ++ b' ↔ a = a' ∧ b = b' := by
  constructor
  · intro same
    have whole := congrArg List.length same
    simp only [List.length_append] at whole
    exact List.append_inj same (by omega)
  · rintro ⟨rfl, rfl⟩
    rfl

/- In place of each letter stand its capital letters, whose small form is to be that of the letter. -/
def SameAt (before' after' before after s : List Char) : Prop :=
  ∀ x c y, s = x ++ c :: y →
    lowerBetween ((upper x).reverse ++ before') (upper y ++ after') (capitalLetters c) =
      lowerBetween (x.reverse ++ before) (y ++ after) [c]

theorem sameAtCons {rest : List Char} : SameAt before' after' before after (c :: rest) ↔
    lowerBetween before' (upper rest ++ after') (capitalLetters c) =
        lowerBetween before (rest ++ after) [c] ∧
      SameAt ((capitalLetters c).reverse ++ before') after' (c :: before) after rest := by
  constructor
  · intro same
    refine ⟨same [] c rest rfl, fun x d y split => ?_⟩
    have later := same (c :: x) d y (by rw [split, List.cons_append])
    simpa [upper] using later
  · rintro ⟨here, later⟩ x d y split
    cases x with
    | nil =>
      cases split
      exact here
    | cons first x =>
      cases split
      have same := later x d y rfl
      simpa [upper] using same

/- The induction is on the text. What stands before it grows by the first letter, and by its capital
letters. -/
theorem upperSameIff : lowerBetween before' after' (upper s) = lowerBetween before after s ↔
    SameAt before' after' before after s := by
  induction s generalizing before before' with
  | nil => exact ⟨fun _ x c y split => by simp at split, fun _ => rfl⟩
  | cons c rest ih =>
    have head : (lowerBetween before (rest ++ after) [c]).length ≤
        (lowerBetween before' (upper rest ++ after') (capitalLetters c)).length := by
      rw [betweenLength, betweenLength, List.flatMap_singleton]
      exact capitalWidth c
    have tail : (lowerBetween (c :: before) after rest).length ≤
        (lowerBetween ((capitalLetters c).reverse ++ before') after' (upper rest)).length := by
      rw [betweenLength, betweenLength]
      exact upperWidth rest
    have capitals : upper (c :: rest) = capitalLetters c ++ upper rest := List.flatMap_cons
    have parts : lowerBetween before after (c :: rest) =
        lowerBetween before (rest ++ after) [c] ++ lowerBetween (c :: before) after rest :=
      betweenAppend before after [c] rest
    rw [capitals, betweenAppend, parts, sameAtCons, ← ih]
    exact partsSame head tail

theorem sameLetter (plain : c ∉ sigmas) :
    lowerBetween before' after' (capitalLetters c) = lowerBetween before after [c] ↔ Steady c := by
  have noCapital : 'Σ' ∉ capitalLetters c := fun member => plain (capitalSigma member)
  have noSigma : 'Σ' ∉ [c] := fun member => plain (List.mem_singleton.1 member ▸ List.mem_cons_self)
  rw [betweenPlain noCapital, betweenPlain noSigma, List.flatMap_singleton, Steady]

theorem steadySingle (steady : Steady c) : longCapitals.lookup c.toNat = none ∧ c ≠ iotaBelow := by
  constructor
  · cases found : longCapitals.lookup c.toNat with
    | none => rfl
    | some codes =>
      have long : ∀ p ∈ longCapitals, p.1 ≠ 'İ'.toNat ∧ 2 ≤ p.2.length := by decide +kernel
      obtain ⟨plain, two⟩ : c.toNat ≠ 'İ'.toNat ∧ 2 ≤ codes.length := long _ (longMember found)
      have width := smallWidth c
      rw [if_neg fun dotted => plain (congrArg Char.toNat dotted)] at width
      have longer := flatMapLonger (capitalLetters c)
      rw [steady, width, capitalLetters, found, List.length_map] at longer
      omega
  · rintro rfl
    exact absurd steady (by decide +kernel)

theorem lettersMet (letters : ∀ c ∈ s, c ∉ sigmas → Steady c) :
    ∀ c ∈ s, ∃ d, capitalLetters c = [d] ∧ MetAlike d c := by
  intro c member
  by_cases sigma : c ∈ sigmas
  · exact ⟨'Σ', capitalOfSigma sigma, sigmaMet sigma⟩
  · obtain ⟨single, letter⟩ := steadySingle (letters c member sigma)
    exact capitalMet single letter

theorem meetsCons (c : Char) (side : List Char) :
    meetsCased (c :: side) = if isPassedOver c then meetsCased side else isCased c := by
  rw [meetsCased, List.dropWhile_cons]
  split <;> rfl

theorem upperMet (alike : ∀ c ∈ side, ∃ d, capitalLetters c = [d] ∧ MetAlike d c) :
    meetsCased (upper side) = meetsCased side := by
  induction side with
  | nil => rfl
  | cons c rest ih =>
    obtain ⟨d, single, cased, passed⟩ := alike c List.mem_cons_self
    have capitals : upper (c :: rest) = d :: upper rest := by
      rw [upper, List.flatMap_cons, single]
      rfl
    have tail := ih fun c member => alike c (List.mem_cons_of_mem _ member)
    rw [capitals, meetsCons, meetsCons, cased, passed, tail]

theorem upperReverse (alike : ∀ c ∈ side, ∃ d, capitalLetters c = [d] ∧ MetAlike d c) :
    (upper side).reverse = upper side.reverse := by
  rw [upper, List.reverse_flatMap, upper]
  refine List.flatMap_congr fun c member => ?_
  obtain ⟨d, single, _⟩ := alike c (List.mem_reverse.1 member)
  rw [Function.comp_apply, single]
  rfl

/- A sigma between letters ends a word exactly if it does so between their capital letters. -/
theorem upperEnds (letters : ∀ c ∈ x ++ d :: y, c ∉ sigmas → Steady c) :
    wordEnds (upper x).reverse (upper y) = wordEnds x.reverse y := by
  have alike := lettersMet letters
  have front : ∀ c ∈ x, ∃ d, capitalLetters c = [d] ∧ MetAlike d c :=
    fun c member => alike c (List.mem_append_left _ member)
  have back : ∀ c ∈ y, ∃ d, capitalLetters c = [d] ∧ MetAlike d c :=
    fun c member => alike c (List.mem_append_right _ (List.mem_cons_of_mem _ member))
  have turned : ∀ c ∈ x.reverse, ∃ d, capitalLetters c = [d] ∧ MetAlike d c :=
    fun c member => front c (List.mem_reverse.1 member)
  rw [wordEnds, wordEnds, upperReverse front, upperMet turned, upperMet back]

/- The form of sigma that a text has in a place, and the one that a capital sigma would have there. -/
theorem sameSigma (sigma : c ∈ sigmas) (ends : wordEnds before' after' = wordEnds before after) :
    lowerBetween before' after' (capitalLetters c) = lowerBetween before after [c] ↔
      (c = 'ς' → wordEnds before after = true) ∧ (c = 'σ' → wordEnds before after = false) := by
  have capital : lowerBetween before' after' ['Σ'] = [smallSigma before after] := by
    rw [lowerBetween, if_pos rfl, List.nil_append, smallSigma, smallSigma, ends]
    rfl
  rw [capitalOfSigma sigma, capital]
  rcases sigmasIff.1 sigma with rfl | rfl | rfl
  · simp [lowerBetween]
  · have own : lowerBetween before after ['σ'] = ['σ'] := rfl
    rw [own, smallSigma]
    cases wordEnds before after <;> decide
  · have own : lowerBetween before after ['ς'] = ['ς'] := rfl
    rw [own, smallSigma]
    cases wordEnds before after <;> decide

theorem recasedIff : lower (upper s) = lower s ↔ Recased s := by
  rw [lowerAlone, lowerAlone, upperSameIff]
  simp only [SameAt, List.append_nil]
  constructor
  · intro same
    have letters : ∀ c ∈ s, c ∉ sigmas → Steady c := by
      intro c member plain
      obtain ⟨x, y, split⟩ := List.append_of_mem member
      exact (sameLetter plain).1 (same x c y split)
    have forms {x y : List Char} {c : Char} (split : s = x ++ c :: y) (sigma : c ∈ sigmas) :=
      (sameSigma sigma (upperEnds (split ▸ letters))).1 (same x c y split)
    exact ⟨letters, fun x y split => (forms split (by decide)).1 rfl,
      fun x y split => (forms split (by decide)).2 rfl⟩
  · intro recased x c y split
    by_cases sigma : c ∈ sigmas
    · refine (sameSigma sigma (upperEnds (split ▸ recased.letters))).2 ⟨?_, ?_⟩
      · rintro rfl
        exact recased.final x y split
      · rintro rfl
        exact recased.inner x y split
    · have member : c ∈ s := split ▸ List.mem_append_right x List.mem_cons_self
      exact (sameLetter sigma).2 (recased.letters c member sigma)

end PolicySearch.Text
