/-!
# Tables

A table is a list of keys with values in the order in which the keys were first bound. Binding a
key again replaces its value and keeps its place.
-/
namespace SourceAttest

/-- Keys with their values, in order of first binding. -/
abbrev Table (κ α : Type) := List (κ × α)

namespace Table

variable {κ α : Type} [DecidableEq κ]

def get? (key : κ) : Table κ α → Option α
  | [] => none
  | (k, v) :: rest => if k = key then some v else get? key rest

/-- Bind a key, in its old place if it has one and at the end otherwise. -/
def put (key : κ) (value : α) : Table κ α → Table κ α
  | [] => [(key, value)]
  | (k, v) :: rest => if k = key then (k, value) :: rest else (k, v) :: put key value rest

/-- Remove the first entry with the given key. -/
def erase (key : κ) : Table κ α → Table κ α
  | [] => []
  | (k, v) :: rest => if k = key then rest else (k, v) :: erase key rest

def keys (table : Table κ α) : List κ := table.map Prod.fst

def values (table : Table κ α) : List α := table.map Prod.snd

def has (key : κ) (table : Table κ α) : Bool := (table.get? key).isSome

/-- Bind all entries of a list in turn. -/
def ofEntries (entries : List (κ × α)) : Table κ α :=
  entries.foldl (fun table entry => table.put entry.1 entry.2) []

@[simp] theorem get?_put_self (key : κ) (value : α) (table : Table κ α) :
    (table.put key value).get? key = some value := by
  induction table with
  | nil => simp [put, get?]
  | cons entry rest ih =>
    obtain ⟨k, v⟩ := entry
    by_cases h : k = key <;> simp [put, get?, h, ih]

theorem get?_put_of_ne {key other : κ} (different : other ≠ key) (value : α) (table : Table κ α) :
    (table.put key value).get? other = table.get? other := by
  induction table with
  | nil => simp [put, get?, Ne.symm different]
  | cons entry rest ih =>
    obtain ⟨k, v⟩ := entry
    by_cases h : k = key
    · subst h; simp [put, get?, Ne.symm different]
    · by_cases h' : k = other <;> simp [put, get?, h, h', ih, different]

/-- A key that is bound twice in turn has the last value. -/
theorem put_put (key : κ) (first last : α) (table : Table κ α) :
    (table.put key first).put key last = table.put key last := by
  induction table with
  | nil => simp [put]
  | cons entry rest ih =>
    obtain ⟨other, value⟩ := entry
    by_cases same : other = key <;> simp [put, same, ih]

theorem has_iff_mem_keys (key : κ) (table : Table κ α) :
    table.has key = true ↔ key ∈ table.keys := by
  induction table with
  | nil => simp [has, get?, keys]
  | cons entry rest ih =>
    obtain ⟨k, v⟩ := entry
    simp only [has, keys] at ih
    by_cases h : k = key
    · simp [has, get?, keys, h]
    · have h' : ¬ key = k := fun e => h e.symm
      simpa [has, get?, keys, h, h'] using ih

end Table

end SourceAttest
