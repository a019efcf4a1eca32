import PolicySearch.Text.Case
import PolicySearch.Text.Substring
/-! The small form of a part of a text. Only a capital sigma looks at what stands around it, and on
each side no further than to the first character that is not passed over. So a part has the same small
form alone as in the text if each of its sigmas is decided within the part; and if one is not, a letter
put before the part or after it changes that sigma. -/
namespace PolicySearch.Text

/- The first character of a side that is not passed over. -/
def nearest? (side : List Char) : Option Char := (side.dropWhile isPassedOver).head?

/- What stands beside a capital sigma, nearest character first, decides its form whatever stands
further away: something is met on either side, or what is met before it has no case, or what is met
after it has one. -/
def Decided (before after : List Char) : Prop :=
  (nearest? before ≠ none ∧ nearest? after ≠ none) ∨
    (∃ c, nearest? before = some c ∧ isCased c = false) ∨
    ∃ c, nearest? after = some c ∧ isCased c = true

def SigmasDecided (s : List Char) : Prop :=
  ∀ before after, s = before ++ 'Σ' :: after → Decided before.reverse after

/- The small form of a text that stands after `before`, nearest character first, and before `after`. -/
def lowerBetween (before after : List Char) : List Char → List Char
  | [] => []
  | c :: rest =>
    (if c = 'Σ' then [smallSigma before (rest ++ after)] else smallLetter c) ++
      lowerBetween (c :: before) after rest

variable {before after front back side more s x y : List Char} {c k : Char}

theorem lowerAfterBetween (before s : List Char) : lowerAfter before s = lowerBetween before [] s := by
  induction s generalizing before with
  | nil => rfl
  | cons c rest ih => rw [lowerAfter, lowerBetween, ih, List.append_nil]

theorem betweenAppend (before after s t : List Char) :
    lowerBetween before after (s ++ t) =
      lowerBetween before (t ++ after) s ++ lowerBetween (s.reverse ++ before) after t := by
  induction s generalizing before with
  | nil => rfl
  | cons c rest ih =>
    rw [List.cons_append, lowerBetween, ih, lowerBetween, List.append_assoc rest t after,
      List.reverse_cons, List.append_assoc rest.reverse [c] before, List.singleton_append,
      List.append_assoc]

theorem lowerParts (front s back : List Char) :
    lower (front ++ s ++ back) =
      lowerBetween [] (s ++ back) front ++ lowerBetween front.reverse back s ++
        lowerBetween (s.reverse ++ front.reverse) [] back := by
  rw [lower, lowerAfterBetween, betweenAppend, betweenAppend]
  simp only [List.append_nil, List.reverse_append]

theorem nearestBeside (met : nearest? side = some c) (more : List Char) :
    nearest? (side ++ more) = some c := by
  unfold nearest? at met ⊢
  rw [List.dropWhile_append]
  split
  · rename_i empty
    rw [List.isEmpty_iff.1 empty] at met
    cases met
  · rw [List.head?_append, met, Option.some_or]

theorem nearestBeyond (unmet : nearest? side = none) (more : List Char) :
    nearest? (side ++ more) = nearest? more := by
  unfold nearest? at unmet ⊢
  rw [List.dropWhile_append, List.head?_eq_none_iff.1 unmet]
  rfl

theorem meetsBeside (met : nearest? side = some c) (more : List Char) :
    meetsCased (side ++ more) = isCased c := by
  rw [meetsCased, ← nearest?, nearestBeside met, Option.any_some]

theorem meetsBeyond (unmet : nearest? side = none) (more : List Char) :
    meetsCased (side ++ more) = meetsCased more := by
  rw [meetsCased, ← nearest?, nearestBeyond unmet, nearest?, meetsCased]

theorem meetsHere (met : nearest? side = some c) : meetsCased side = isCased c := by
  rw [meetsCased, ← nearest?, met, Option.any_some]

theorem meetsNothing (unmet : nearest? side = none) : meetsCased side = false := by
  rw [meetsCased, ← nearest?, unmet, Option.any_none]

theorem decidedEnds (decided : Decided before after) (front back : List Char) :
    wordEnds (before ++ front) (after ++ back) = wordEnds before after := by
  unfold wordEnds
  rcases decided with ⟨left, right⟩ | ⟨c, left, caseless⟩ | ⟨c, right, cased⟩
  · obtain ⟨c, left⟩ := Option.ne_none_iff_exists'.1 left
    obtain ⟨d, right⟩ := Option.ne_none_iff_exists'.1 right
    rw [meetsBeside left, meetsHere left, meetsBeside right, meetsHere right]
  · rw [meetsBeside left, meetsHere left, caseless, Bool.false_and, Bool.false_and]
  · rw [meetsBeside right, meetsHere right, cased, Bool.not_true, Bool.and_false, Bool.and_false]

theorem undecidedSides (undecided : ¬ Decided before after) :
    (nearest? before = none ∧ meetsCased after = false) ∨
      (meetsCased before = true ∧ nearest? after = none) := by
  simp only [Decided, not_or, not_exists, not_and, Classical.not_not] at undecided
  obtain ⟨oneSide, cased, caseless⟩ := undecided
  cases left : nearest? before with
  | none =>
    refine .inl ⟨rfl, ?_⟩
    cases right : nearest? after with
    | none => exact meetsNothing right
    | some c => exact (meetsHere right).trans (Bool.eq_false_iff.2 (caseless c right))
  | some c =>
    have right := oneSide (by rw [left]; nofun)
    exact .inr ⟨(meetsHere left).trans (Bool.not_eq_false _ ▸ cased c left), right⟩

/- The induction is on the text, with what stands before it growing by its first character. -/
theorem betweenSame {before' after' : List Char}
    (same : ∀ x y, s = x ++ 'Σ' :: y → smallSigma (x.reverse ++ before') (y ++ after') =
      smallSigma (x.reverse ++ before) (y ++ after)) :
    lowerBetween before' after' s = lowerBetween before after s := by
  induction s generalizing before before' with
  | nil => rfl
  | cons c rest ih =>
    have tail : lowerBetween (c :: before') after' rest = lowerBetween (c :: before) after rest :=
      ih fun x y split => by simpa using same (c :: x) y (by rw [split, List.cons_append])
    rw [lowerBetween, lowerBetween, tail]
    split
    · rename_i sigma
      have head := same [] rest (by rw [sigma, List.nil_append])
      rw [List.reverse_nil, List.nil_append, List.nil_append] at head
      rw [head]
    · rfl

/- A form that no sigma takes unless it takes it in the other surroundings too stands in the text no
more often than there. -/
theorem countAtMost {before' after' : List Char}
    (only : ∀ x y, s = x ++ 'Σ' :: y → smallSigma (x.reverse ++ before') (y ++ after') = k →
      smallSigma (x.reverse ++ before) (y ++ after) = k) :
    (lowerBetween before' after' s).count k ≤ (lowerBetween before after s).count k := by
  induction s generalizing before before' with
  | nil => exact Nat.le_refl _
  | cons c rest ih =>
    have tail : (lowerBetween (c :: before') after' rest).count k ≤
        (lowerBetween (c :: before) after rest).count k :=
      ih fun x y split => by simpa using only (c :: x) y (by rw [split, List.cons_append])
    rw [lowerBetween, lowerBetween, List.count_append, List.count_append]
    refine Nat.add_le_add ?_ tail
    split
    · rename_i sigma
      have head := only [] rest (by rw [sigma, List.nil_append])
      simp only [List.reverse_nil, List.nil_append] at head
      simp only [List.count_singleton, beq_iff_eq]
      split
      · rename_i takes
        exact Nat.le_of_eq (if_pos (head takes)).symm
      · exact Nat.zero_le _
    · exact Nat.le_refl _

theorem betweenSigma (before after x y : List Char) :
    lowerBetween before after (x ++ 'Σ' :: y) =
      lowerBetween before ('Σ' :: (y ++ after)) x ++
        smallSigma (x.reverse ++ before) (y ++ after) ::
          lowerBetween ('Σ' :: (x.reverse ++ before)) after y := by
  rw [betweenAppend, lowerBetween, if_pos rfl, List.singleton_append, List.cons_append]

theorem countBelow {before' after' : List Char}
    (only : ∀ x y, s = x ++ 'Σ' :: y → smallSigma (x.reverse ++ before') (y ++ after') = k →
      smallSigma (x.reverse ++ before) (y ++ after) = k)
    (split : s = x ++ 'Σ' :: y) (takes : smallSigma (x.reverse ++ before) (y ++ after) = k)
    (leaves : smallSigma (x.reverse ++ before') (y ++ after') ≠ k) :
    (lowerBetween before' after' s).count k < (lowerBetween before after s).count k := by
  subst split
  have front : (lowerBetween before' ('Σ' :: (y ++ after')) x).count k ≤
      (lowerBetween before ('Σ' :: (y ++ after)) x).count k :=
    countAtMost fun u v split => by
      simpa using only u (v ++ 'Σ' :: y) (by simp [split])
  have back : (lowerBetween ('Σ' :: (x.reverse ++ before')) after' y).count k ≤
      (lowerBetween ('Σ' :: (x.reverse ++ before)) after y).count k :=
    countAtMost fun u v split => by
      simpa using only (x ++ 'Σ' :: u) v (by simp [split])
  rw [betweenSigma, betweenSigma, List.count_append, List.count_append,
    List.count_cons_of_ne leaves, takes, List.count_cons_self]
  omega

theorem lowerAlone (s : List Char) : lower s = lowerBetween [] [] s := lowerAfterBetween [] s

theorem occursCount (k : Char) (occurs : occursIn x y = true) : x.count k ≤ y.count k := by
  obtain ⟨front, back, rfl⟩ := occursIff.1 occurs
  rw [List.count_append, List.count_append]
  omega

theorem missedCount (fewer : y.count k < x.count k) : occursIn x y = false :=
  Bool.eq_false_iff.2 fun occurs => Nat.not_le_of_lt fewer (occursCount k occurs)

theorem partLowered (decided : SigmasDecided s) (front back : List Char) :
    lowerBetween front.reverse back s = lower s := by
  rw [lowerAlone]
  refine betweenSame fun x y split => ?_
  have ends := decidedEnds (decided x y split) front.reverse back
  rw [smallSigma, smallSigma, ends, List.append_nil, List.append_nil]

theorem partOccurs (decided : SigmasDecided s) (front back : List Char) :
    occursIn (lower s) (lower (front ++ s ++ back)) = true := by
  rw [lowerParts, partLowered decided]
  exact occursIff.2 ⟨_, _, rfl⟩

theorem finalIff : smallSigma before after = 'ς' ↔
    meetsCased before = true ∧ meetsCased after = false := by
  unfold smallSigma wordEnds
  cases meetsCased before <;> cases meetsCased after <;> decide

theorem innerIff : smallSigma before after = 'σ' ↔
    (meetsCased before = true → meetsCased after = true) := by
  unfold smallSigma wordEnds
  cases meetsCased before <;> cases meetsCased after <;> decide

theorem meetsStill (cased : meetsCased side = true) (more : List Char) :
    meetsCased (side ++ more) = true := by
  cases met : nearest? side with
  | none =>
    rw [meetsNothing met] at cased
    cases cased
  | some c => rw [meetsBeside met, ← meetsHere met, cased]

/- A letter with a case whose small form is no sigma. -/
def letter : Char := 'Α'

theorem letterCased : meetsCased [letter] = true := by decide +kernel

theorem letterLowered : smallLetter letter = ['α'] := by decide +kernel

/- A sigma with nothing before it and no letter after it becomes a final one if a letter is put before
the text. Then the text has one inner sigma too few. -/
theorem missedAfterLetter (split : s = x ++ 'Σ' :: y) (left : nearest? x.reverse = none)
    (right : meetsCased y = false) : occursIn (lower s) (lower (letter :: s)) = false := by
  have fewer : (lowerBetween [letter] [] s).count 'σ' < (lower s).count 'σ' := by
    rw [lowerAlone]
    -- a letter before the text makes no sigma an inner one, so none makes up for the one that is lost
    refine countBelow (fun u v _ inner => ?_) split ?_ fun inner => ?_
    · simp only [innerIff, List.append_nil] at inner ⊢
      exact fun cased => inner (meetsStill cased _)
    · rw [innerIff, List.append_nil, meetsNothing left]
      nofun
    · rw [innerIff, List.append_nil, meetsBeyond left, right] at inner
      cases inner letterCased
  have whole : lower (letter :: s) = 'α' :: lowerBetween [letter] [] s := by
    rw [lowerAlone, lowerBetween, letterLowered]
    rfl
  have plain : 'α' ≠ 'σ' := by decide
  rw [whole]
  apply missedCount
  rwa [List.count_cons_of_ne plain]

/- A sigma with a letter before it and nothing after it becomes an inner one if a letter is put after
the text. Then the text has one final sigma too few. -/
theorem missedBeforeLetter (split : s = x ++ 'Σ' :: y) (left : meetsCased x.reverse = true)
    (right : nearest? y = none) : occursIn (lower s) (lower (s ++ [letter])) = false := by
  have fewer : (lowerBetween [] [letter] s).count 'ς' < (lower s).count 'ς' := by
    rw [lowerAlone]
    -- and a letter after it makes none a final one
    refine countBelow (fun u v _ final => ?_) split ?_ fun final => ?_
    · simp only [finalIff, List.append_nil] at final ⊢
      refine ⟨final.1, Bool.eq_false_iff.2 fun cased => ?_⟩
      rw [meetsStill cased] at final
      cases final.2
    · rw [finalIff, List.append_nil, List.append_nil, meetsNothing right]
      exact ⟨left, rfl⟩
    · rw [finalIff, meetsBeyond right, letterCased] at final
      cases final.2
  have whole : lower (s ++ [letter]) = lowerBetween [] [letter] s ++ ['α'] := by
    rw [lowerAlone, betweenAppend, lowerBetween, letterLowered]
    rfl
  have plain : List.count 'ς' ['α'] = 0 := by decide
  rw [whole]
  apply missedCount
  rwa [List.count_append, plain]

/- A part of a text has its small form in that of the text, whatever the text, exactly if each of its
sigmas is decided within the part. -/
theorem partOccursIff :
    (∀ front back, occursIn (lower s) (lower (front ++ s ++ back)) = true) ↔ SigmasDecided s := by
  refine ⟨fun occurs x y split => Classical.byContradiction fun undecided => ?_, partOccurs⟩
  rcases undecidedSides undecided with ⟨left, right⟩ | ⟨left, right⟩
  · have found := occurs [letter] []
    rw [List.append_nil, List.singleton_append, missedAfterLetter split left right] at found
    cases found
  · have found := occurs [] [letter]
    rw [List.nil_append, missedBeforeLetter split left right] at found
    cases found

end PolicySearch.Text
