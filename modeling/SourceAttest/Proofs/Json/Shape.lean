import SourceAttest.Fault.Basic
import SourceAttest.Proofs.Outcome

/-!
# Values of any shape

Values come from outside and may have any shape. An operation that succeeds tells the shape of its
value; one that fails is a shape fault, which is never taken for a refusal (`ShapeFault.kind_mem`).
-/
namespace SourceAttest

/-- The kinds of faults that values of the wrong shape make. -/
def FaultKind.ofShapes : List FaultKind := [.attribute, .key, .index, .frozen, .type, .encoding]

theorem ShapeFault.kind_mem (why : ShapeFault) : why.kind ∈ FaultKind.ofShapes := by
  unfold ShapeFault.kind
  split <;> decide

theorem Fault.eq_shape_of_mapError {α : Type} {value : Except ShapeFault α} {fault : Fault}
    (failed : value.mapError .shape = .error fault) : ∃ why, fault = .shape why := by
  cases value with
  | ok reached => cases failed
  | error why =>
    cases failed
    exact ⟨why, rfl⟩

namespace Json

/-! ### Going down -/

/-- What is reached from a value by going down through objects along names. -/
def at? : Json → List String → Option Json
  | value, [] => some value
  | .object members, name :: names => (Table.get? name members).bind (at? · names)
  | _, _ :: _ => none

theorem at?_object (members : List (String × Json)) (name : String) :
    (Json.object members).at? [name] = Table.get? name members := by
  simp [at?]

theorem at?_cons (value : Json) (name : String) (names : List String) :
    value.at? (name :: names) = (value.at? [name]).bind (·.at? names) := by
  cases value with
  | object members => rw [at?_object, at?]
  | _ => rfl

theorem at?_eq_some_iff {value found : Json} {name : String} :
    value.at? [name] = some found ↔
      ∃ members, value = .object members ∧ Table.get? name members = some found := by
  cases value with
  | object members => simp [at?_object]
  | _ => simp [at?]

theorem memberOr_object (members : List (String × Json)) (name : String) (default : Json) :
    (Json.object members).memberOr name default
      = .ok ((Table.get? name members).getD default) := rfl

theorem member_eq_ok_iff {value found : Json} {name : String} :
    value.member name = .ok found ↔ value.at? [name] = some found := by
  cases value with
  | object members =>
    rw [member, select]
    cases bound : Table.get? name members <;> simp [at?_object, bound]
  | _ => simp [member, select, itemAt, place?, at?]

theorem member_eq_noMember_iff {value missing : Json} {name : String} :
    value.member name = .error (.noMember missing) ↔
      missing = .string name ∧ ∃ members, value = .object members ∧ Table.get? name members = none := by
  cases value with
  | object members =>
    rw [member, select]
    cases bound : Table.get? name members <;> simp [bound, eq_comm]
  | _ => simp [member, select, itemAt, place?]

/-- Only an object lacks members. -/
theorem eq_object_of_select {value index missing : Json}
    (lacks : value.select index = .error (.noMember missing)) :
    ∃ members, value = .object members := by
  have noItem {kind : String} {items : List Json} : itemAt kind items index ≠ .error (.noMember missing) := by
    intro failed
    unfold itemAt at failed
    repeat' split at failed
    all_goals cases failed
  cases value with
  | object members => exact ⟨members, rfl⟩
  | array items => exact absurd lacks noItem
  | string text => exact absurd lacks noItem
  | unpaired text => exact absurd lacks noItem
  | _ => cases lacks

theorem eq_object_of_members {value : Json} {operation : String} {members : List (String × Json)}
    (read : value.members operation = .ok members) : value = .object members := by
  cases value with
  | object others =>
    cases read
    rfl
  | _ => cases read

/-! ### Texts by name -/

/-- Texts as an object of their names. -/
def ofTexts (texts : Table String String) : Json :=
  .object (texts.map fun entry => (entry.1, .string entry.2))

/-! ### Operations that fail -/

section

variable {value default : Json} {operation name : String} {why : ShapeFault}

theorem kind_of_members (failed : value.members operation = .error why) : why.kind = .attribute := by
  cases value with
  | object members => cases failed
  | _ =>
    cases failed
    rfl

theorem kind_of_memberOr (failed : value.memberOr name default = .error why) :
    why.kind = .attribute := by
  cases value with
  | object members => cases failed
  | _ =>
    cases failed
    rfl

theorem kind_of_text (failed : value.text operation = .error why) : why.kind = .attribute := by
  cases value with
  | string text => cases failed
  | unpaired text => cases failed
  | _ =>
    cases failed
    rfl

theorem kind_of_items (failed : value.items = .error why) : why.kind = .type := by
  cases value with
  | string text => cases failed
  | unpaired text => cases failed
  | array items => cases failed
  | object members => cases failed
  | _ =>
    cases failed
    rfl

end

/-! ### Texts and parts -/

/-- A value without parts: it is neither a text nor a list nor an object. -/
def isSingle : Json → Bool
  | .string _ | .unpaired _ | .array _ | .object _ => false
  | _ => true

theorem exists_length {value : Json} (parted : value.isSingle = false) :
    ∃ count, value.length = .ok count := by
  cases value with
  | string text => exact ⟨_, rfl⟩
  | unpaired text => exact ⟨_, rfl⟩
  | array items => exact ⟨_, rfl⟩
  | object members => exact ⟨_, rfl⟩
  | _ => cases parted

theorem text_eq_ok_iff {value : Json} {operation text : String} :
    value.text operation = .ok text ↔ value.text? = some text := by
  rw [Json.text]
  cases value.text? <;> simp

theorem text?_ofPoints (points : List CodePoint) :
    (ofPoints points).text? = some (String.ofList (points.map CodePoint.shown)) := by
  unfold ofPoints
  split
  · rfl
  · rfl

/-- A text counts as present unless it is empty. -/
theorem isTruthy_iff_of_text? {value : Json} {text : String} (isText : value.text? = some text) :
    value.isTruthy = true ↔ text ≠ "" := by
  cases value with
  | string other =>
    cases isText
    simp [isTruthy]
  | unpaired halves =>
    cases isText
    -- Half a character is shown as a character.
    have some : halves.points ≠ [] := by
      intro none
      have unpaired := halves.unpaired
      rw [none] at unpaired
      cases unpaired
    simpa [isTruthy, UnpairedText.shown, String.ext_iff] using some
  | _ => cases isText

/-- Half a character leaves a mark where a text is shown, so a text without the mark is whole. -/
theorem eq_string_of_text? {value : Json} {text : String} (isText : value.text? = some text)
    (unmarked : '\uFFFD' ∉ text.toList) : value = .string text := by
  cases value with
  | string other =>
    cases isText
    rfl
  | unpaired halves =>
    cases isText
    obtain ⟨point, present, isHalf⟩ := List.any_eq_true.mp halves.unpaired
    cases point with
    | char c => cases isHalf
    | half offset =>
      have marked : CodePoint.shown (.half offset) ∈ _ := List.mem_map_of_mem present
      rw [UnpairedText.shown, String.toList_ofList] at unmarked
      exact absurd marked unmarked
  | _ => cases isText

/-- A text equals only itself. -/
theorem equals_string_iff {value : Json} {text : String} :
    value.equals (.string text) = true ↔ value = .string text := by
  cases value <;> simp [equals, integer?]

end Json

theorem Text.occursIn_iff {needle text : List Char} :
    occursIn needle text = true ↔ needle <:+: text := by
  induction text with
  | nil => simp [occursIn]
  | cons c rest ih => simp [occursIn, ih, List.infix_cons_iff]

end SourceAttest
