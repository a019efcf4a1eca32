import PolicySearch.Document.Normal
import PolicySearch.Proofs.Json.Displayed
/-! The text fields of a document beside the value it was made from. A string is taken as it is, and
what is missing or null gives the empty text. Every other value is shown, and what is shown is never
empty; so a field of the wrong type is no empty field. -/
namespace PolicySearch

inductive TextField where
  | id
  | name
  | description
  deriving DecidableEq, Repr

namespace TextField

def key? (kind : Kind) : TextField → Option String
  | id => some "id"
  | name => some "name"
  | description => kind.descriptionKey

def ofDocument (d : Document) : TextField → String
  | id => d.id
  | name => d.name
  | description => d.description

/- What is stored for the field, if the kind has it and the value is an object with a member for it. -/
def stored? (raw : Json) (kind : Kind) (field : TextField) : Option Json :=
  (field.key? kind).bind raw.get?

end TextField

/- The string, and the empty text for all that is none. -/
def Json.stringOrEmpty (stored : Option Json) : String := (stored.bind Json.text?).getD ""

/- The text that a field has for what is stored in its place. -/
inductive FieldText : Option Json → String → Prop where
  | missing : FieldText none ""
  | null : FieldText (some .null) ""
  | string (s : String) : FieldText (some (.str s)) s
  | displayed {value : Json} (given : value ≠ .null) (other : ∀ s, value ≠ .str s)
      (filled : value.quoted ≠ "") : FieldText (some value) value.quoted

namespace Document

variable {raw : Json} {kind : Kind} {stored : Option Json} {text : String}

theorem textAtShown (raw : Json) (key : String) : FieldText (raw.get? key) (textAt raw key) := by
  unfold textAt
  cases raw.get? key with
  | none => exact .missing
  | some value =>
    cases value with
    | null => exact .null
    | str s => exact .string s
    | bool | int | float | arr | obj => exact .displayed nofun nofun (Json.displayedFilled nofun)

theorem fieldShown (raw : Json) (kind : Kind) (field : TextField) :
    FieldText (field.stored? raw kind) (field.ofDocument (normalize raw kind)) := by
  cases field with
  | id => exact textAtShown raw "id"
  | name => exact textAtShown raw "name"
  | description =>
    simp only [TextField.stored?, TextField.key?, TextField.ofDocument, normalize, descriptionOf]
    cases kind.descriptionKey with
    | none => exact .missing
    | some key => exact textAtShown raw key

theorem unstored (noObject : ∀ members, raw ≠ .obj members) (field : TextField) :
    field.stored? raw kind = none := by
  have nothing (key : String) : raw.get? key = none := by
    cases raw with
    | obj members => exact absurd rfl (noObject members)
    | _ => rfl
  rw [TextField.stored?, funext nothing, Option.bind_fun_none]

theorem shownPlainly (shown : FieldText stored text) : text = Json.stringOrEmpty stored ↔
    ∀ value, stored = some value → value = .null ∨ ∃ s, value = .str s := by
  cases shown with
  | missing => exact ⟨fun _ _ => nofun, fun _ => rfl⟩
  | null => exact ⟨fun _ value same => .inl (Option.some.inj same).symm, fun _ => rfl⟩
  | string => exact ⟨fun _ value same => .inr ⟨text, (Option.some.inj same).symm⟩, fun _ => rfl⟩
  | displayed given other filled =>
    rename_i value
    have empty : Json.stringOrEmpty (some value) = "" := by
      cases value with
      | str s => exact absurd rfl (other s)
      | _ => rfl
    rw [empty]
    refine ⟨fun same => absurd same filled, fun plain => ?_⟩
    rcases plain value rfl with null | ⟨s, string⟩
    · exact absurd null given
    · exact absurd string (other s)

/- The text fields of what a value is brought to. A field holds the string that is stored, or else
nothing, exactly if no other value than null is stored in its place. -/
structure FieldsShown (raw : Json) (kind : Kind) : Prop where
  shown : ∀ field, FieldText (TextField.stored? raw kind field) (field.ofDocument (normalize raw kind))
  plain : ∀ field, field.ofDocument (normalize raw kind) =
      Json.stringOrEmpty (TextField.stored? raw kind field) ↔
    ∀ value, TextField.stored? raw kind field = some value → value = .null ∨ ∃ s, value = .str s
  bare : (∀ members, raw ≠ .obj members) → ∀ field : TextField,
    field.ofDocument (normalize raw kind) = ""

theorem textFieldsShown (raw : Json) (kind : Kind) : FieldsShown raw kind where
  shown := fieldShown raw kind
  plain field := shownPlainly (fieldShown raw kind field)
  bare := by
    intro noObject field
    have shown := fieldShown raw kind field
    rw [unstored noObject] at shown
    exact (shownPlainly shown).2 nofun

/- A number in the place of an id. -/
theorem numberShown :
    let raw : Json := .obj [("id", .int 12)]
    (normalize raw .aclPolicies).id = "12" ∧
      Json.stringOrEmpty (TextField.stored? raw .aclPolicies .id) = "" := by
  decide +kernel

end Document

end PolicySearch
