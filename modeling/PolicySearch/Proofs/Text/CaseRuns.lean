import PolicySearch.Text.Case
/-! What the tables of cases say of single characters, read off their runs. The runs of small forms lead
out of all of them, so a small form has no other small form. Every capital letter of one letter has a
case like its small form, so that both are met alike beside a sigma; the one mark that has a capital
letter is the exception. -/
namespace PolicySearch.Text

namespace CaseRun

variable {p q r : CaseRun} {n : Nat}

/- Where the characters of a run move to. -/
def image (r : CaseRun) : CaseRun := ⟨r.moved r.first, r.moved r.last, r.stride, 0⟩

/- Two runs without a common character, as far as their ends and their strides tell. -/
def apart (p q : CaseRun) : Bool :=
  Nat.blt p.last q.first || Nat.blt q.last p.first ||
    ((Nat.beq p.first p.last || Nat.beq p.stride q.stride) &&
      p.first % q.stride != q.first % q.stride)

/- The characters move to characters. -/
def lands (r : CaseRun) : Bool :=
  0 ≤ r.first + r.distance &&
    (Nat.blt r.image.last 0xd800 || (Nat.blt 0xdfff r.image.first && Nat.blt r.image.last 0x110000))

theorem holdsIff : r.holds n = true ↔ r.first ≤ n ∧ n ≤ r.last ∧ (n - r.first) % r.stride = 0 := by
  simp only [holds, Bool.and_eq_true, decide_eq_true_eq, beq_iff_eq, and_assoc]

theorem sameRest (held : r.holds n = true) : n % r.stride = r.first % r.stride := by
  obtain ⟨low, _, steps⟩ := holdsIff.1 held
  have parts : n = r.first + (n - r.first) := by omega
  rw [parts, Nat.add_mod, steps, Nat.add_zero, Nat.mod_mod]

theorem apartHolds (apart : p.apart q = true) (held : p.holds n = true) : q.holds n = false := by
  refine Bool.eq_false_iff.2 fun other => ?_
  have rest := sameRest held
  have otherRest := sameRest other
  obtain ⟨low, high, _⟩ := holdsIff.1 held
  obtain ⟨otherLow, otherHigh, _⟩ := holdsIff.1 other
  simp only [CaseRun.apart, Bool.or_eq_true, Bool.and_eq_true, Nat.blt_eq, Nat.beq_eq,
    bne_iff_ne] at apart
  rcases apart with (before | after) | ⟨single | stride, differs⟩
  · omega
  · omega
  · have point : n = p.first := by omega
    exact differs (point ▸ otherRest)
  · exact differs (by rw [← otherRest, ← stride, rest])

theorem movedHeld (landed : r.lands = true) (held : r.holds n = true) :
    r.image.holds (r.moved n) = true := by
  obtain ⟨low, high, steps⟩ := holdsIff.1 held
  simp only [lands, Bool.and_eq_true, decide_eq_true_eq] at landed
  have step : r.moved n - r.moved r.first = n - r.first := by
    simp only [moved]
    omega
  refine holdsIff.2 ⟨?_, ?_, step ▸ steps⟩
  all_goals
    simp only [image, moved]
    omega

theorem movedCode (landed : r.lands = true) (held : r.holds n = true) :
    (Char.ofNat (r.moved n)).toNat = r.moved n := by
  obtain ⟨low, high, _⟩ := holdsIff.1 (movedHeld landed held)
  simp only [lands, Bool.and_eq_true, Bool.or_eq_true, Nat.blt_eq] at landed
  have valid : (r.moved n).isValidChar := by
    rcases landed.2 with below | ⟨above, within⟩
    · exact .inl (by omega)
    · exact .inr (by omega)
  rw [Char.ofNat, dif_pos valid]
  rfl

end CaseRun

theorem shiftCases (runs : List CaseRun) (n : Nat) :
    ((∀ r ∈ runs, r.holds n = false) ∧ shiftCase runs n = n) ∨
      ∃ r ∈ runs, r.holds n = true ∧ shiftCase runs n = r.moved n := by
  unfold shiftCase
  cases found : runs.find? (·.holds n) with
  | none =>
    refine .inl ⟨fun r member => ?_, rfl⟩
    exact Bool.eq_false_iff.2 (List.find?_eq_none.1 found r member)
  | some r =>
    have held : r.holds n = true := by simpa using List.find?_some found
    exact .inr ⟨r, List.mem_of_find?_eq_some found, held, rfl⟩

/- A run of small forms leads to characters that are in no such run, and to neither of the two that
have rules of their own. -/
def CaseRun.settles (r : CaseRun) : Bool :=
  r.lands && !r.image.holds 'Σ'.toNat && !r.image.holds 'İ'.toNat && smallRuns.all r.image.apart

theorem smallSettles : ∀ r ∈ smallRuns, r.settles = true :=
  List.all_eq_true.1 (by decide +kernel : smallRuns.all CaseRun.settles = true)

/- A character that is its own small form. -/
def Small (c : Char) : Prop := c ≠ 'Σ' ∧ smallLetter c = [c]
instance (c : Char) : Decidable (Small c) := by unfold Small; infer_instance

theorem smallOfRun {r : CaseRun} {n : Nat} (member : r ∈ smallRuns) (held : r.holds n = true) :
    Small (Char.ofNat (r.moved n)) := by
  have settled := smallSettles r member
  simp only [CaseRun.settles, Bool.and_eq_true, Bool.not_eq_true', List.all_eq_true] at settled
  obtain ⟨⟨⟨landed, noSigma⟩, noDotted⟩, apart⟩ := settled
  have code := CaseRun.movedCode landed held
  have inside := CaseRun.movedHeld landed held
  have other {c : Char} (none : r.image.holds c.toNat = false) : Char.ofNat (r.moved n) ≠ c := by
    rintro rfl
    rw [code, inside] at none
    cases none
  have self : shiftCase smallRuns (r.moved n) = r.moved n :=
    shiftCaseSelf fun q known => CaseRun.apartHolds (apart q known) inside
  refine ⟨other noSigma, ?_⟩
  rw [smallLetter, if_neg (other noDotted), code, self]

theorem smallLetterSmall {c d : Char} (plain : c ≠ 'Σ') (member : d ∈ smallLetter c) : Small d := by
  unfold smallLetter at member
  split at member
  · have dotted : Small 'i' ∧ Small '\u0307' := by decide +kernel
    simp only [List.mem_cons, List.not_mem_nil, or_false] at member
    rcases member with rfl | rfl
    · exact dotted.1
    · exact dotted.2
  · rename_i plainI
    obtain rfl := List.mem_singleton.1 member
    rcases shiftCases smallRuns c.toNat with ⟨_, same⟩ | ⟨r, known, held, moved⟩
    · rw [same, Char.ofNat_toNat]
      refine ⟨plain, ?_⟩
      rw [smallLetter, if_neg plainI, same, Char.ofNat_toNat]
    · rw [moved]
      exact smallOfRun known held

namespace CaseRun

def members (r : CaseRun) : List Nat :=
  List.range' r.first ((r.last - r.first) / r.stride + 1) r.stride

/- All characters of the run have a case: the run lies in one range of such characters, or its
characters do one by one. -/
def lettered (r : CaseRun) : Bool :=
  let within (low high : Nat) : Bool := casedRanges.any fun g => Nat.ble g.1 low && Nat.ble high g.2
  within r.first r.last || r.members.all fun n => within n n

theorem heldMember {r : CaseRun} {n : Nat} (held : r.holds n = true) : n ∈ r.members := by
  obtain ⟨low, high, steps⟩ := holdsIff.1 held
  refine List.mem_range'.2 ⟨(n - r.first) / r.stride, ?_, ?_⟩
  · exact Nat.lt_succ_of_le (Nat.div_le_div_right (by omega))
  · have whole := Nat.div_add_mod (n - r.first) r.stride
    omega

theorem letteredCased {r : CaseRun} {c : Char} (letters : r.lettered = true)
    (held : r.holds c.toNat = true) : isCased c = true := by
  obtain ⟨low, high, _⟩ := holdsIff.1 held
  simp only [lettered, Bool.or_eq_true, List.any_eq_true, List.all_eq_true, Bool.and_eq_true,
    Nat.ble_eq] at letters
  rcases letters with ⟨g, known, before, after⟩ | each
  · exact CharRange.coversIff.2 ⟨g, known, by omega, by omega⟩
  · obtain ⟨g, known, before, after⟩ := each c.toNat (heldMember held)
    exact CharRange.coversIff.2 ⟨g, known, before, after⟩

end CaseRun

theorem casedMet {c : Char} (cased : isCased c = true) : isPassedOver c = false := by
  have apart : (casedRanges.all fun g => passedOverRanges.all fun h =>
      Nat.blt g.2 h.1 || Nat.blt h.2 g.1) = true := by decide +kernel
  simp only [List.all_eq_true, Bool.or_eq_true, Nat.blt_eq] at apart
  refine Bool.eq_false_iff.2 fun passed => ?_
  obtain ⟨g, known, low, high⟩ := CharRange.coversIff.1 cased
  obtain ⟨h, other, otherLow, otherHigh⟩ := CharRange.coversIff.1 passed
  have := apart g known h other
  omega

/- The one mark with a capital letter, an iota written below. -/
def iotaBelow : Char := '\u0345'

/- A run of capital letters leads from letters to letters, but for the mark; and only the small sigmas
have the capital sigma. -/
def CaseRun.capitalizes (r : CaseRun) : Bool :=
  r.lands &&
    (r == ⟨iotaBelow.toNat, iotaBelow.toNat, 1, r.distance⟩ || (r.lettered && r.image.lettered)) &&
    (!r.image.holds 'Σ'.toNat || r.members.all fun n =>
      !Nat.beq (r.moved n) 'Σ'.toNat || Nat.beq n 'σ'.toNat || Nat.beq n 'ς'.toNat)

theorem capitalRunsLead : ∀ r ∈ capitalRuns, r.capitalizes = true :=
  List.all_eq_true.1 (by decide +kernel : capitalRuns.all CaseRun.capitalizes = true)

theorem longMember {c : Char} {codes : List Nat} (found : longCapitals.lookup c.toNat = some codes) :
    (c.toNat, codes) ∈ longCapitals := by
  obtain ⟨before, after, split, _⟩ := List.lookup_eq_some_iff.1 found
  rw [split]
  exact List.mem_append_right _ List.mem_cons_self

theorem capitalSingle {c : Char} (single : longCapitals.lookup c.toNat = none) :
    capitalLetters c = [Char.ofNat (shiftCase capitalRuns c.toNat)] := by
  rw [capitalLetters, single]

/- The three forms of sigma. -/
def sigmas : List Char := ['Σ', 'σ', 'ς']

theorem sigmasIff {c : Char} : c ∈ sigmas ↔ c = 'Σ' ∨ c = 'σ' ∨ c = 'ς' := by
  simp only [sigmas, List.mem_cons, List.not_mem_nil, or_false]

theorem capitalOfSigma {c : Char} (sigma : c ∈ sigmas) : capitalLetters c = ['Σ'] := by
  rcases sigmasIff.1 sigma with rfl | rfl | rfl <;> decide +kernel

theorem sigmaOfRun {r : CaseRun} {c : Char} (member : r ∈ capitalRuns)
    (held : r.holds c.toNat = true) (capital : Char.ofNat (r.moved c.toNat) = 'Σ') : c ∈ sigmas := by
  have leads := capitalRunsLead r member
  simp only [CaseRun.capitalizes, Bool.and_eq_true, Bool.or_eq_true, Bool.not_eq_true',
    List.all_eq_true] at leads
  obtain ⟨⟨landed, _⟩, sigma⟩ := leads
  have code := CaseRun.movedCode landed held
  rw [capital] at code
  have inside := CaseRun.movedHeld landed held
  rcases sigma with none | each
  · rw [code, inside] at none
    cases none
  · have small := each c.toNat (CaseRun.heldMember held)
    rw [← code, Nat.beq_refl] at small
    simp only [Bool.true_eq_false, false_or, Nat.beq_eq, Char.toNat_inj] at small
    rcases small with rfl | rfl <;> decide

theorem capitalSigma {c : Char} (member : 'Σ' ∈ capitalLetters c) : c ∈ sigmas := by
  cases found : longCapitals.lookup c.toNat with
  | some codes =>
    have none : ∀ p ∈ longCapitals, ∀ code ∈ p.2, Char.ofNat code ≠ 'Σ' := by decide +kernel
    rw [capitalLetters, found] at member
    obtain ⟨code, inside, same⟩ := List.mem_map.1 member
    exact absurd same (none _ (longMember found) code inside)
  | none =>
    rw [capitalSingle found, List.mem_singleton] at member
    rcases shiftCases capitalRuns c.toNat with ⟨_, same⟩ | ⟨r, known, held, moved⟩
    · rw [same, Char.ofNat_toNat] at member
      rw [← member]
      decide
    · exact sigmaOfRun known held (moved ▸ member.symm)

/- The two characters are met alike beside a sigma. -/
def MetAlike (c d : Char) : Prop := isCased c = isCased d ∧ isPassedOver c = isPassedOver d
instance (c d : Char) : Decidable (MetAlike c d) := by unfold MetAlike; infer_instance

theorem sigmaMet {c : Char} (sigma : c ∈ sigmas) : MetAlike 'Σ' c := by
  rcases sigmasIff.1 sigma with rfl | rfl | rfl <;> decide +kernel

theorem capitalMet {c : Char} (single : longCapitals.lookup c.toNat = none) (letter : c ≠ iotaBelow) :
    ∃ d, capitalLetters c = [d] ∧ MetAlike d c := by
  refine ⟨_, capitalSingle single, ?_⟩
  rcases shiftCases capitalRuns c.toNat with ⟨_, same⟩ | ⟨r, known, held, moved⟩
  · rw [same, Char.ofNat_toNat]
    exact ⟨rfl, rfl⟩
  · rw [moved]
    have leads := capitalRunsLead r known
    simp only [CaseRun.capitalizes, Bool.and_eq_true, Bool.or_eq_true, beq_iff_eq] at leads
    obtain ⟨⟨landed, below | ⟨small, capital⟩⟩, _⟩ := leads
    · obtain ⟨low, high, _⟩ := CaseRun.holdsIff.1 held
      rw [below] at low high
      exact absurd (Char.toNat_inj.1 (Nat.le_antisymm high low)) letter
    · have smallCased := CaseRun.letteredCased small held
      have inside := CaseRun.movedHeld landed held
      rw [← CaseRun.movedCode landed held] at inside
      have capitalCased := CaseRun.letteredCased capital inside
      exact ⟨by rw [smallCased, capitalCased], by rw [casedMet smallCased, casedMet capitalCased]⟩

end PolicySearch.Text
