import SourceAttest.Json.Reader
import SourceAttest.Proofs.Outcome
import SourceAttest.Proofs.Table

/-!
# Names of members

No object of a document that was read binds a name twice (`wellFormed_of_read`): a name that comes
again takes the place of the first one. So the members of such an object are told apart by name.
-/
namespace SourceAttest

namespace Json

/-- No object in a value binds a name twice. -/
inductive WellFormed : Json → Prop
  | null : WellFormed .null
  | bool (b : Bool) : WellFormed (.bool b)
  | int (n : Int) : WellFormed (.int n)
  | float (x : Binary64) : WellFormed (.float x)
  | string (s : String) : WellFormed (.string s)
  | unpaired (text : UnpairedText) : WellFormed (.unpaired text)
  | array {items : List Json} (each : ∀ item ∈ items, WellFormed item) : WellFormed (.array items)
  | object {members : List (String × Json)} (distinct : (Table.keys members).Nodup)
      (each : ∀ member ∈ members, WellFormed member.2) : WellFormed (.object members)

theorem wellFormed_ofPoints (points : List CodePoint) : (ofPoints points).WellFormed := by
  unfold ofPoints
  split
  · exact .unpaired _
  · exact .string _

theorem wellFormed_of_readNumber {cs rest : List Char} {value : Json}
    (returned : readNumber cs = .ok (value, rest)) : value.WellFormed := by
  unfold readNumber at returned
  dsimp only at returned
  -- The sign decides about the value, but not about its kind.
  generalize wholeDigits _ = parts at returned
  split at returned
  · cases returned
  · split at returned
    · cases returned
      exact .float _
    · split at returned
      · split at returned
        · cases returned
        · cases returned
          exact .int _
      · cases returned
        exact .float _

/-- What is read with so much fuel is well-formed. -/
structure ReadsWellFormed (fuel : Nat) : Prop where
  value : ∀ {room cs value rest}, readValue fuel room cs = .ok (value, rest) → value.WellFormed
  items : ∀ {room cs items rest}, readItems fuel room cs = .ok (items, rest) →
    ∀ item ∈ items, WellFormed item
  members : ∀ {room before cs members rest}, readMembers fuel room before cs = .ok (members, rest) →
    WellFormed (.object before) → WellFormed (.object members)

namespace ReadsWellFormed

variable {fuel room : Nat} {cs rest : List Char}

theorem value_succ (reads : ReadsWellFormed fuel) {value : Json}
    (returned : readValue (fuel + 1) room cs = .ok (value, rest)) : value.WellFormed := by
  rw [readValue.eq_def] at returned
  dsimp only at returned
  -- The cases are those of the first characters: a text, an array, an object, a word or a number.
  split at returned
  · obtain ⟨⟨points, after⟩, _, same⟩ := Outcome.map_eq_ok.mp returned
    cases same
    exact wellFormed_ofPoints points
  · split at returned
    · cases returned
    · split at returned
      · cases returned
        exact .array (List.forall_mem_nil _)
      · obtain ⟨⟨items, after⟩, listed, same⟩ := Outcome.map_eq_ok.mp returned
        cases same
        exact .array (reads.items listed)
  · split at returned
    · cases returned
    · split at returned
      · cases returned
        exact .object List.nodup_nil (List.forall_mem_nil _)
      · obtain ⟨⟨members, after⟩, bound, same⟩ := Outcome.map_eq_ok.mp returned
        cases same
        exact reads.members bound (.object List.nodup_nil (List.forall_mem_nil _))
  · cases returned
    exact .null
  · cases returned
    exact .bool _
  · cases returned
    exact .bool _
  · cases returned
    exact .float _
  · cases returned
    exact .float _
  · cases returned
    exact .float _
  · exact wellFormed_of_readNumber returned

theorem items_succ (reads : ReadsWellFormed fuel) {items : List Json}
    (returned : readItems (fuel + 1) room cs = .ok (items, rest)) :
    ∀ item ∈ items, WellFormed item := by
  rw [readItems.eq_def] at returned
  dsimp only at returned
  split at returned
  · cases returned
  next first after read =>
    split at returned
    · cases returned
      exact List.forall_mem_singleton.mpr (reads.value read)
    · obtain ⟨⟨others, after⟩, listed, same⟩ := Outcome.map_eq_ok.mp returned
      cases same
      exact List.forall_mem_cons.mpr ⟨reads.value read, reads.items listed⟩
    · cases returned

theorem members_succ (reads : ReadsWellFormed fuel) {before members : Table String Json}
    (returned : readMembers (fuel + 1) room before cs = .ok (members, rest))
    (bound : WellFormed (.object before)) : WellFormed (.object members) := by
  rw [readMembers.eq_def] at returned
  dsimp only at returned
  split at returned
  · split at returned
    · cases returned
    next name after named =>
      split at returned
      · split at returned
        · cases returned
        next value after' read =>
          have extended : WellFormed
              (.object (before.put (String.ofList (name.map CodePoint.shown)) value)) := by
            cases bound with
            | object distinct each =>
              refine .object (Table.nodup_keys_put distinct _ _) fun member from_put => ?_
              rcases Table.mem_put from_put with rfl | old
              · exact reads.value read
              · exact each member old
          split at returned
          · cases returned
            exact extended
          · exact reads.members returned extended
          · cases returned
      · cases returned
  · cases returned

end ReadsWellFormed

theorem readsWellFormed (fuel : Nat) : ReadsWellFormed fuel := by
  induction fuel with
  | zero =>
    refine ⟨fun returned => ?_, fun returned => ?_, fun returned => ?_⟩ <;> cases returned
  | succ fuel reads => exact ⟨reads.value_succ, reads.items_succ, reads.members_succ⟩

theorem wellFormed_of_read {text : String} {value : Json} (returned : read text = .ok value) :
    value.WellFormed := by
  unfold read readAll at returned
  split at returned
  next read =>
    cases returned
    split at read
    · cases read
    · split at read
      · cases read
      next value rest reached =>
        split at read
        · cases read
          exact (readsWellFormed _).value reached
        · cases read
  · cases returned

end Json

end SourceAttest
