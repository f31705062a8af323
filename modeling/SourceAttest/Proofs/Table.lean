import SourceAttest.Table

/-!
# Lookups in tables

What a table binds is in it, and binding or removing a key leaves all others alone. Where no key is
bound twice, an entry is known by its key.
-/
namespace SourceAttest.Table

variable {κ α : Type} [DecidableEq κ]

theorem mem_of_get? {key : κ} {value : α} {table : Table κ α} (found : table.get? key = some value) :
    (key, value) ∈ table := by
  induction table with
  | nil => cases found
  | cons entry rest ih =>
    obtain ⟨k, v⟩ := entry
    rw [get?] at found
    split at found
    next same =>
      cases same
      cases found
      exact List.mem_cons_self
    · exact List.mem_cons_of_mem _ (ih found)

theorem mem_put {key : κ} {value : α} {table : Table κ α} {entry : κ × α}
    (member : entry ∈ table.put key value) : entry = (key, value) ∨ entry ∈ table := by
  induction table with
  | nil => exact .inl (List.mem_singleton.mp member)
  | cons first rest ih =>
    obtain ⟨k, v⟩ := first
    rw [put] at member
    split at member
    next same =>
      rw [same] at member
      exact (List.mem_cons.mp member).imp_right (List.mem_cons_of_mem _)
    · rcases List.mem_cons.mp member with rfl | later
      · exact .inr List.mem_cons_self
      · exact (ih later).imp_right (List.mem_cons_of_mem _)

theorem mem_keys_put (key other : κ) (value : α) (table : Table κ α) :
    other ∈ (table.put key value).keys ↔ other = key ∨ other ∈ table.keys := by
  rw [← has_iff_mem_keys, ← has_iff_mem_keys, has, has]
  by_cases same : other = key
  · subst same
    simp
  · rw [get?_put_of_ne same]
    simp [same]

theorem nodup_keys_put {table : Table κ α} (distinct : table.keys.Nodup) (key : κ) (value : α) :
    (table.put key value).keys.Nodup := by
  induction table with
  | nil => exact List.nodup_cons.mpr ⟨List.not_mem_nil, List.nodup_nil⟩
  | cons first rest ih =>
    obtain ⟨k, v⟩ := first
    obtain ⟨new, distinct⟩ := List.nodup_cons.mp distinct
    rw [put]
    split
    · exact List.nodup_cons.mpr ⟨new, distinct⟩
    next different =>
      -- The keys behind the first one are those from before, and perhaps the one that is bound.
      refine List.nodup_cons.mpr ⟨fun again => ?_, ih distinct⟩
      rcases (mem_keys_put ..).mp again with same | old
      · exact different same
      · exact new old

omit [DecidableEq κ] in
theorem eq_of_mem_of_nodup {table : Table κ α} (distinct : table.keys.Nodup) {key : κ}
    {value other : α} (member : (key, value) ∈ table) (member' : (key, other) ∈ table) :
    value = other := by
  induction table with
  | nil => cases member
  | cons first rest ih =>
    obtain ⟨new, distinct⟩ := List.nodup_cons.mp distinct
    have fresh {value : α} (member : (key, value) ∈ rest) : first.1 ≠ key := by
      rintro rfl
      exact new (List.mem_map.mpr ⟨_, member, rfl⟩)
    rcases List.mem_cons.mp member with rfl | later <;> rcases List.mem_cons.mp member' with same | later'
    · exact (congrArg Prod.snd same).symm
    · exact absurd rfl (fresh later')
    · exact absurd (congrArg Prod.fst same).symm (fresh later)
    · exact ih distinct later later'

/-- A new key is bound at the end. -/
theorem put_of_new {key : κ} {table : Table κ α} (new : key ∉ table.keys) (value : α) :
    table.put key value = table ++ [(key, value)] := by
  induction table with
  | nil => rfl
  | cons first rest ih =>
    obtain ⟨different, others⟩ := not_or.mp (mt List.mem_cons.mpr new)
    rw [put, if_neg (Ne.symm different), ih others]
    rfl

/-- Binding a key again keeps all keys in their places. -/
theorem keys_put_of_mem {key : κ} {table : Table κ α} (member : key ∈ table.keys) (value : α) :
    (table.put key value).keys = table.keys := by
  induction table with
  | nil => cases member
  | cons first rest ih =>
    obtain ⟨k, v⟩ := first
    rw [put]
    split
    · rfl
    next different =>
      have later := (List.mem_cons.mp member).resolve_left (Ne.symm different)
      exact congrArg (k :: ·) (ih later)

theorem keys_put (key : κ) (value : α) (table : Table κ α) :
    (table.put key value).keys = table.keys ++ if key ∈ table.keys then [] else [key] := by
  split
  next member => rw [keys_put_of_mem member, List.append_nil]
  next new =>
    rw [put_of_new new, keys, List.map_append]
    rfl

theorem get?_filter_of_ne {key other : κ} (different : other ≠ key) (table : Table κ α) :
    get? other (table.filter fun entry => entry.1 ≠ key) = table.get? other := by
  induction table with
  | nil => rfl
  | cons first rest ih =>
    by_cases dropped : first.1 = key
    · have passed : first.1 ≠ other := fun same => different (same.symm.trans dropped)
      rw [List.filter_cons_of_neg (by simpa using dropped), ih, get?, if_neg passed]
    · rw [List.filter_cons_of_pos (by simpa using dropped), get?, get?, ih]

theorem keys_filter (key : κ) (table : Table κ α) :
    keys (table.filter fun entry => entry.1 ≠ key) = table.keys.filter (· ≠ key) := by
  rw [keys, keys, List.filter_map]
  rfl

theorem erase_sublist (key : κ) (table : Table κ α) : (table.erase key).Sublist table := by
  induction table with
  | nil => exact .slnil
  | cons first rest ih =>
    rw [erase]
    split
    · exact List.sublist_cons_self _ _
    · exact ih.cons_cons _

theorem perm_keys_erase {key : κ} {table : Table κ α} (member : key ∈ table.keys) :
    (key :: (table.erase key).keys).Perm table.keys := by
  induction table with
  | nil => cases member
  | cons first rest ih =>
    obtain ⟨k, v⟩ := first
    rw [erase]
    split
    next same =>
      rw [← same]
      exact .refl _
    next different =>
      -- The key is further back, and the first one changes places with it.
      have later := (List.mem_cons.mp member).resolve_left (Ne.symm different)
      exact (List.Perm.swap ..).trans ((ih later).cons k)

theorem mem_erase_of_ne {key : κ} {entry : κ × α} (different : entry.1 ≠ key) {table : Table κ α}
    (member : entry ∈ table) : entry ∈ table.erase key := by
  induction table with
  | nil => cases member
  | cons first rest ih =>
    rw [erase]
    rcases List.mem_cons.mp member with rfl | later
    · rw [if_neg different]
      exact List.mem_cons_self
    · split
      · exact later
      · exact List.mem_cons_of_mem _ (ih later)

theorem mem_keys_erase_of_ne {key other : κ} (different : other ≠ key) {table : Table κ α}
    (member : other ∈ table.keys) : other ∈ (table.erase key).keys := by
  obtain ⟨entry, bound, rfl⟩ := List.mem_map.mp member
  exact List.mem_map.mpr ⟨entry, mem_erase_of_ne different bound, rfl⟩

theorem mem_keys_erase_iff {key other : κ} (different : other ≠ key) {table : Table κ α} :
    other ∈ (table.erase key).keys ↔ other ∈ table.keys :=
  ⟨fun member => ((erase_sublist key table).map Prod.fst).subset member,
    mem_keys_erase_of_ne different⟩

theorem not_mem_keys_erase {key : κ} {table : Table κ α} (distinct : table.keys.Nodup)
    (member : key ∈ table.keys) : key ∉ (table.erase key).keys := by
  have distinct' := (perm_keys_erase member).nodup_iff.mpr distinct
  exact (List.nodup_cons.mp distinct').1

/-- What holds of the entries of a list holds of those of the table that they are bound in. -/
theorem get?_of_ofEntries (holds : κ → α → Prop) {entries : List (κ × α)}
    (each : ∀ entry ∈ entries, holds entry.1 entry.2) {key : κ} {value : α}
    (found : (ofEntries entries).get? key = some value) : holds key value := by
  suffices binds : ∀ table : Table κ α, (∀ entry ∈ table, holds entry.1 entry.2) →
      ∀ entry ∈ entries.foldl (fun table entry => table.put entry.1 entry.2) table,
        holds entry.1 entry.2 from
    binds [] (List.forall_mem_nil _) (key, value) (mem_of_get? found)
  clear found
  induction entries with
  | nil => exact fun table bound => bound
  | cons first rest ih =>
    intro table bound
    refine ih (fun entry member => each entry (List.mem_cons_of_mem _ member)) _ fun entry member => ?_
    rcases mem_put member with rfl | old
    · exact each first List.mem_cons_self
    · exact bound entry old

theorem mem_keys_ofEntries {key : κ} {entries : List (κ × α)} :
    key ∈ (ofEntries entries).keys ↔ key ∈ keys entries := by
  suffices grown : ∀ table : Table κ α,
      key ∈ (entries.foldl (fun table entry => table.put entry.1 entry.2) table).keys ↔
        key ∈ table.keys ∨ key ∈ keys entries by
    have fromNone := grown []
    simp only [keys, List.map_nil, List.not_mem_nil, false_or] at fromNone
    exact fromNone
  induction entries with
  | nil => simp [keys]
  | cons entry rest ih =>
    intro table
    rw [List.foldl_cons, ih, mem_keys_put]
    simp only [keys, List.map_cons, List.mem_cons]
    constructor
    · rintro ((same | bound) | later)
      · exact .inr (.inl same)
      · exact .inl bound
      · exact .inr (.inr later)
    · rintro (bound | same | later)
      · exact .inl (.inr bound)
      · exact .inl (.inl same)
      · exact .inr later

theorem exists_get?_of_mem_keys {key : κ} {table : Table κ α} (member : key ∈ table.keys) :
    ∃ value, table.get? key = some value := by
  apply Option.isSome_iff_exists.mp
  exact (has_iff_mem_keys key table).mpr member

theorem get?_of_mem {table : Table κ α} (distinct : table.keys.Nodup) {key : κ} {value : α}
    (member : (key, value) ∈ table) : table.get? key = some value := by
  obtain ⟨other, found⟩ := exists_get?_of_mem_keys (List.mem_map.mpr ⟨_, member, rfl⟩)
  rwa [eq_of_mem_of_nodup distinct member (mem_of_get? found)]

/-! ### Tables with other values -/

section

variable {β : Type} (f : α → β)

theorem get?_map (key : κ) (table : Table κ α) :
    get? key (table.map fun entry => (entry.1, f entry.2)) = (table.get? key).map f := by
  induction table with
  | nil => rfl
  | cons entry rest ih =>
    rw [List.map_cons, get?, get?, ih]
    split <;> rfl

theorem map_put (key : κ) (value : α) (table : Table κ α) :
    (table.put key value).map (fun entry => (entry.1, f entry.2))
      = put key (f value) (table.map fun entry => (entry.1, f entry.2)) := by
  induction table with
  | nil => rfl
  | cons entry rest ih =>
    rw [List.map_cons, put, put]
    split
    · rfl
    · rw [List.map_cons, ih]

end

end SourceAttest.Table
