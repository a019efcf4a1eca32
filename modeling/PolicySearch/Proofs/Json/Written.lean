import PolicySearch.Json.Writer
import PolicySearch.Proofs.Number.Figures
/-! Written values. Whatever the value, its text has no other characters than those of ASCII that can
be seen, blanks, and the line ends of its layout. -/
namespace PolicySearch.Json
open Number Text

/- A character that can be seen, a blank or a line end. -/
def isShown (c : Char) : Bool := c == '\n' || (32 ≤ c.toNat && c.toNat ≤ 126)

def Legible (s : List Char) : Prop := ∀ c ∈ s, isShown c = true

instance (s : List Char) : Decidable (Legible s) :=
  decidable_of_iff (s.all isShown = true) List.all_eq_true

variable {s t : List Char} {c : Char}

theorem shownBetween (low : 32 ≤ c.toNat) (high : c.toNat ≤ 126) : isShown c = true := by
  simp [isShown, low, high]

theorem legibleAppend : Legible (s ++ t) ↔ Legible s ∧ Legible t := List.forall_mem_append

theorem legibleCons : Legible (c :: s) ↔ isShown c = true ∧ Legible s := List.forall_mem_cons

theorem legibleNil : Legible [] := List.forall_mem_nil _

theorem legibleCopies (n : Nat) (shown : isShown c = true) : Legible (List.replicate n c) :=
  fun _ member => (List.eq_of_mem_replicate member) ▸ shown

theorem legibleHex (width n : Nat) : Legible (hex width n) := by
  have digit : ∀ d : Fin 16, isShown (hexDigit d) = true := by decide
  induction width generalizing n with
  | zero => exact legibleNil
  | succ width ih =>
    have last := digit ⟨n % 16, Nat.mod_lt _ (by decide)⟩
    exact legibleAppend.2 ⟨ih _, legibleCons.2 ⟨last, legibleNil⟩⟩

section Strings

theorem legibleUnit (n : Nat) : Legible (unitEscape n) :=
  legibleCons.2 ⟨by decide, legibleCons.2 ⟨by decide, legibleHex 4 n⟩⟩

theorem legibleNumbered (c : Char) : Legible (numberedEscape c) := by
  unfold numberedEscape
  split
  · exact legibleUnit _
  · exact legibleAppend.2 ⟨legibleUnit _, legibleUnit _⟩

theorem legibleEscaped (c : Char) : Legible (escapedChar c) := by
  unfold escapedChar
  split
  · rename_i marked
    rcases marked with rfl | rfl <;> decide
  · repeat' split
    · decide
    · decide
    · decide
    · decide
    · decide
    · rename_i seen
      exact legibleCons.2 ⟨shownBetween seen.1 seen.2, legibleNil⟩
    · exact legibleNumbered c

theorem legibleQuoted (text : String) : Legible (writeString text).toList := by
  rw [writeString, String.toList_ofList]
  refine legibleAppend.2 ⟨legibleCons.2 ⟨by decide, ?_⟩, by decide⟩
  intro c member
  obtain ⟨source, -, written⟩ := List.mem_flatMap.1 member
  exact legibleEscaped source c written

end Strings

section Numbers

theorem legibleFigures (figures : Figures s) : Legible s := by
  intro c inside
  have code := figureCode (figures c inside)
  exact shownBetween (by omega) (by omega)

theorem legibleWhole (n : Int) : Legible (intText n).toList := legibleFigures (figuresWhole n)

theorem legibleFloat (x : Binary64) : Legible (writeFloat x).toList := by
  cases x with
  | nan => decide
  | infinite negative =>
    rw [writeFloat, String.toList_append]
    exact legibleAppend.2 ⟨legibleFigures (Binary64.figuresSign negative), by decide⟩
  | finite negative significand power =>
    rw [writeFloat, Binary64.text, String.toList_append, String.toList_ofList]
    · exact legibleFigures (figuresAppend.2
        ⟨Binary64.figuresSign negative, Binary64.figuresMagnitude significand power⟩)
    · exact nofun
    · exact nofun

end Numbers

/- A layout that sets items apart with legible text. -/
structure Layout.Legible (layout : Layout) : Prop where
  lineBreak : ∀ depth, Json.Legible (layout.lineBreak depth).toList
  separator : Json.Legible layout.separator.toList

theorem legibleLong : Layout.long.Legible where
  lineBreak depth := by
    rw [Layout.long, String.toList_ofList]
    exact legibleCons.2 ⟨by decide, legibleCopies _ (by decide)⟩
  separator := by decide

section Values

variable {layout : Layout} {depth : Nat}

theorem legibleJoined {between : String} {items : List String} (gap : Legible between.toList)
    (each : ∀ item ∈ items, Legible item.toList) : Legible (between.intercalate items).toList := by
  induction items with
  | nil => exact legibleNil
  | cons first rest ih =>
    have one := each first List.mem_cons_self
    cases rest with
    | nil => simpa using one
    | cons second rest =>
      rw [String.intercalate_cons_cons, String.toList_append, String.toList_append]
      exact legibleAppend.2 ⟨legibleAppend.2 ⟨one, gap⟩,
        ih fun item inside => each item (List.mem_cons_of_mem _ inside)⟩

theorem legibleEnclosed (set : layout.Legible) {opening closing : String} {items : List String}
    (front : Legible opening.toList) (back : Legible closing.toList)
    (each : ∀ item ∈ items, Legible item.toList) :
    Legible (enclose layout depth opening closing items).toList := by
  have gap : Legible (layout.separator ++ layout.lineBreak (depth + 1)).toList := by
    rw [String.toList_append]
    exact legibleAppend.2 ⟨set.separator, set.lineBreak _⟩
  unfold enclose
  split
  · rw [String.toList_append]
    exact legibleAppend.2 ⟨front, back⟩
  · simp only [String.toList_append, legibleAppend]
    exact ⟨⟨⟨⟨front, set.lineBreak _⟩, legibleJoined gap each⟩, set.lineBreak _⟩, back⟩

mutual
theorem legibleValue (set : layout.Legible) (depth : Nat) :
    (value : Json) → Legible (writeWith layout depth value).toList
  | .null => by rw [writeWith]; decide
  | .bool truth => by cases truth <;> rw [writeWith] <;> decide
  | .int n => by rw [writeWith]; exact legibleWhole n
  | .float x => by rw [writeWith]; exact legibleFloat x
  | .str text => by rw [writeWith]; exact legibleQuoted text
  | .arr items => by
    rw [writeWith]
    exact legibleEnclosed set (by decide) (by decide) (legibleItems set (depth + 1) items)
  | .obj members => by
    rw [writeWith]
    exact legibleEnclosed set (by decide) (by decide) (legibleMembers set (depth + 1) members)

theorem legibleItems (set : layout.Legible) (depth : Nat) : (items : List Json) →
    ∀ text ∈ writeItems layout depth items, Legible text.toList
  | [], text, member => by rw [writeItems] at member; cases member
  | item :: rest, text, member => by
    rw [writeItems] at member
    rcases List.mem_cons.1 member with rfl | member
    · exact legibleValue set depth item
    · exact legibleItems set depth rest text member

theorem legibleMembers (set : layout.Legible) (depth : Nat) : (members : List (String × Json)) →
    ∀ text ∈ writeMembers layout depth members, Legible text.toList
  | [], text, member => by rw [writeMembers] at member; cases member
  | (key, value) :: rest, text, member => by
    rw [writeMembers] at member
    rcases List.mem_cons.1 member with rfl | member
    · rw [String.toList_append, String.toList_append]
      exact legibleAppend.2
        ⟨legibleAppend.2 ⟨legibleQuoted key, by decide⟩, legibleValue set depth value⟩
    · exact legibleMembers set depth rest text member
end

theorem writtenLongLegible (value : Json) : Legible value.writeLong.toList :=
  legibleValue legibleLong 0 value

end Values

end PolicySearch.Json
