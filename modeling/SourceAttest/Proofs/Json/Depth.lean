import SourceAttest.Proofs.Json.RoundTrip

/-!
# Nesting beyond the room

What a text holds is read only as far as there is room for containers in each other. A value that is
nested deeper is not read at all, however far inside the nesting is: `readWithin_of_deep`. So a written
value comes back exactly if it fits (`read_write_iff`).
-/
namespace SourceAttest.Json

/-- A value is refused as too deep, wherever its text stands and whatever fuel there is beyond its need,
if there is not enough room. -/
def RefusedAsDeep (value : Json) : Prop :=
  ∀ {fuel room : Nat} {rest : List Char}, 2 * (writeValue value).length ≤ fuel + 1 →
    room < value.depth → Stops rest →
      ∃ container, readValue (fuel + 1) room (writeValue value ++ rest) = .error (.tooDeep container)

theorem readItems_of_deep {items : List Json} (exact : ∀ item ∈ items, Exact item)
    (each : ∀ item ∈ items, RefusedAsDeep item) {fuel room : Nat} {rest : List Char}
    (enough : 2 * (writeItems items).length ≤ fuel) (deep : room < depthItems items) :
    ∃ container,
      readItems (fuel + 2) room (writeItems items ++ ']' :: rest) = .error (.tooDeep container) := by
  induction items generalizing fuel with
  | nil => exact absurd deep (Nat.not_lt_zero room)
  | cons item others ih =>
    obtain ⟨whole, exact⟩ := List.forall_mem_cons.mp exact
    obtain ⟨first, each⟩ := List.forall_mem_cons.mp each
    rw [depthItems] at deep
    cases others with
    | nil =>
      rw [writeItems] at enough ⊢
      rw [depthItems] at deep
      obtain ⟨container, refused⟩ :=
        first (by omega : _ ≤ fuel + 1) (by omega : room < item.depth) (stops_cons (.inr (.inl rfl)) rest)
      exact ⟨container, by rw [readItems, refused]⟩
    | cons next others =>
      simp only [writeItems_more, List.length_append, List.length_cons] at enough
      obtain ⟨fuel, rfl⟩ : ∃ less, fuel = less + 1 := ⟨fuel - 1, by omega⟩
      rw [writeItems_more, List.append_assoc, List.cons_append, List.cons_append, readItems]
      by_cases here : room < item.depth
      · obtain ⟨container, refused⟩ := first (by omega : _ ≤ fuel + 1 + 1) here
          (stops_cons (.inl rfl) (' ' :: (writeItems (next :: others) ++ ']' :: rest)))
        exact ⟨container, by rw [refused]⟩
      · -- There is room for this item, so it is one of the others that is too deep.
        have opens := (opens_writeItems (exact next List.mem_cons_self) others).append (']' :: rest)
        obtain ⟨container, refused⟩ := ih exact each (by omega : _ ≤ fuel) (by omega)
        have read := readsBack_of_exact whole (by omega : _ ≤ fuel + 1 + 1) (by omega : _ ≤ room)
          (stops_cons (.inl rfl) (' ' :: (writeItems (next :: others) ++ ']' :: rest)))
        refine ⟨container, ?_⟩
        rw [read]
        simp only [skipGap_comma, skipGap_space opens, refused]
        rfl

theorem readMembers_of_deep {before members : List (String × Json)}
    (exact : ∀ member ∈ members, Exact member.2) (each : ∀ member ∈ members, RefusedAsDeep member.2)
    {fuel room : Nat} {rest : List Char} (enough : 2 * (writeMembers members).length ≤ fuel)
    (deep : room < depthMembers members) :
    ∃ container, readMembers (fuel + 2) room before (writeMembers members ++ '\x7d' :: rest)
      = .error (.tooDeep container) := by
  induction members generalizing before fuel with
  | nil => exact absurd deep (Nat.not_lt_zero room)
  | cons member others ih =>
    obtain ⟨name, value⟩ := member
    simp only [List.forall_mem_cons] at exact each
    obtain ⟨whole, exact⟩ := exact
    obtain ⟨first, each⟩ := each
    rw [depthMembers] at deep
    have opens (rest : List Char) := (opens_writeValue whole).append rest
    cases others with
    | nil =>
      -- The last value ends at the brace and is the one that is too deep.
      rw [writeMembers] at enough ⊢
      simp only [List.length_append, List.length_cons] at enough
      rw [depthMembers] at deep
      obtain ⟨container, refused⟩ :=
        first (by omega : _ ≤ fuel + 1) (by omega : room < value.depth) (stops_cons (.inr (.inr rfl)) rest)
      refine ⟨container, ?_⟩
      rw [List.append_assoc, List.cons_append, List.cons_append, writeString_append, readMembers,
        readString_written]
      simp [skipGap_space (opens _), refused]
    | cons next others =>
      simp only [writeMembers_more, List.length_append, List.length_cons] at enough
      obtain ⟨fuel, rfl⟩ : ∃ less, fuel = less + 1 := ⟨fuel - 1, by omega⟩
      rw [writeMembers_more]
      simp only [List.append_assoc, List.cons_append]
      by_cases here : room < value.depth
      · obtain ⟨container, refused⟩ := first (by omega : _ ≤ fuel + 1 + 1) here
          (stops_cons (.inl rfl) (' ' :: (writeMembers (next :: others) ++ '\x7d' :: rest)))
        refine ⟨container, ?_⟩
        rw [writeString_append, readMembers, readString_written]
        simp [skipGap_space (opens _), refused]
      · -- There is room for this value, so it is one of the later ones that is too deep.
        have more := (opens_writeMembers next others).append ('\x7d' :: rest)
        obtain ⟨container, refused⟩ :=
          ih exact each (by omega : _ ≤ fuel) (by omega)
        refine ⟨container, ?_⟩
        rw [readMembers_comma whole (readsBack_of_exact whole) (by omega) (by omega) more, refused]

theorem refusedAsDeep_array {items : List Json} (exact : ∀ item ∈ items, Exact item)
    (each : ∀ item ∈ items, RefusedAsDeep item) : RefusedAsDeep (.array items) := by
  intro fuel room rest enough deep stops
  simp only [writeValue, List.length_append, List.length_cons, List.length_nil] at enough
  rw [depth] at deep
  rw [writeValue, List.append_assoc, List.cons_append, List.singleton_append, readValue]
  -- Without any room the opening bracket is refused. Else the items have room for one container less.
  split
  · exact ⟨_, rfl⟩
  next filled =>
    cases items with
    | nil => exact absurd deep (by simpa [depthItems] using filled)
    | cons item others =>
      have opens := (opens_writeItems (exact item List.mem_cons_self) others).append (']' :: rest)
      obtain ⟨fuel, rfl⟩ : ∃ less, fuel = less + 2 := ⟨fuel - 2, by omega⟩
      obtain ⟨container, refused⟩ :=
        readItems_of_deep exact each (by omega : _ ≤ fuel) (by omega : room - 1 < _)
      refine ⟨container, ?_⟩
      rw [opens.skipGap]
      split
      next closed => exact absurd closed (opens.ne_cons (by decide) _)
      · rw [refused]
        rfl

theorem refusedAsDeep_object {members : List (String × Json)}
    (exact : ∀ member ∈ members, Exact member.2) (each : ∀ member ∈ members, RefusedAsDeep member.2) :
    RefusedAsDeep (.object members) := by
  intro fuel room rest enough deep stops
  simp only [writeValue, List.length_append, List.length_cons, List.length_nil] at enough
  rw [depth] at deep
  rw [writeValue, List.append_assoc, List.cons_append, List.singleton_append, readValue]
  split
  · exact ⟨_, rfl⟩
  next filled =>
    cases members with
    | nil => exact absurd deep (by simpa [depthMembers] using filled)
    | cons member others =>
      have opens := (opens_writeMembers member others).append ('\x7d' :: rest)
      obtain ⟨fuel, rfl⟩ : ∃ less, fuel = less + 2 := ⟨fuel - 2, by omega⟩
      obtain ⟨container, refused⟩ :=
        readMembers_of_deep exact each (by omega : _ ≤ fuel) (by omega : room - 1 < _)
      refine ⟨container, ?_⟩
      rw [opens.skipGap]
      split
      next closed => exact absurd closed (opens.ne_cons (by decide) _)
      · rw [refused]
        rfl

theorem refusedAsDeep_of_exact {value : Json} (exact : Exact value) : RefusedAsDeep value := by
  induction exact with
  | array exact each => exact refusedAsDeep_array exact each
  | object _ exact each => exact refusedAsDeep_object exact each
  | _ => exact fun _ deep _ => absurd deep (Nat.not_lt_zero _)

theorem readWithin_of_deep {value : Json} (exact : Exact value) {room : Nat} (deep : room < value.depth) :
    ∃ container, readWithin room (writeValue value) = .error (.tooDeep container) := by
  have opens := opens_writeValue exact
  obtain ⟨container, refused⟩ := refusedAsDeep_of_exact exact
    (by omega : _ ≤ 2 * (writeValue value).length + 1 + 1) deep stops_nil
  rw [List.append_nil] at refused
  refine ⟨container, ?_⟩
  rw [readWithin, if_neg (opens.head?_ne (by decide)), opens.skipGap, enoughFuel, refused]

/-- A written value is read again exactly if it is not nested too deeply; else it is refused as such. -/
theorem read_write_iff {value : Json} (exact : Exact value) :
    (Json.read value.write = .ok value ↔ value.depth ≤ maxDepth) ∧
    ((∃ container, Json.read value.write = .error (.tooDeep container)) ↔ maxDepth < value.depth) := by
  have fits (enough : value.depth ≤ maxDepth) : Json.read value.write = .ok value :=
    (renders_write exact).read enough
  have refused (deep : maxDepth < value.depth) :
      ∃ container, Json.read value.write = .error (.tooDeep container) := by
    obtain ⟨container, refused⟩ := readWithin_of_deep exact deep
    refine ⟨container, ?_⟩
    rw [Json.read, write, String.toList_ofList, readAll_eq_readWithin, refused]
    rfl
  refine ⟨⟨fun read => ?_, fits⟩, ⟨?_, refused⟩⟩
  · by_contra deep
    obtain ⟨container, failed⟩ := refused (by omega)
    cases failed.symm.trans read
  · rintro ⟨container, failed⟩
    by_contra enough
    cases failed.symm.trans (fits (by omega))

/-- So many arrays in each other. -/
def nested : Nat → Json
  | 0 => .null
  | n + 1 => .array [nested n]

@[simp] theorem depth_nested (n : Nat) : (nested n).depth = n := by
  induction n with
  | zero => rfl
  | succ n ih => simp [nested, depth, depthItems, ih]

@[simp] theorem exact_nested (n : Nat) : Exact (nested n) := by
  induction n with
  | zero => exact .null
  | succ n ih => exact .array (List.forall_mem_singleton.mpr ih)

end SourceAttest.Json
