import Mathlib.Algebra.GroupWithZero.Nat
import Mathlib.Data.List.Nodup
import SourceAttest.Compiler.Input
import SourceAttest.Proofs.Table

/-!
# Libraries by file

A document names a library by its file and its own name with a colon between, and files may hold
colons themselves. The compiler wants the libraries file by file. The main result
`regroupLibraries_of_colons` says that regrouping loses no library and moves none past another one of
the same file.
-/
namespace SourceAttest.Compiler

/-- A library of a file, with what is known of its address. -/
structure Library where
  file : String
  name : String
  address : Json

namespace Library

def fullName (library : Library) : String := library.file ++ ":" ++ library.name

def entry (library : Library) : String × Json := (library.fullName, library.address)

end Library

/-! ### Full names -/

theorem splitLastColon_append (file : List Char) {name : List Char} (plain : ':' ∉ name) :
    splitLastColon (file ++ ':' :: name) = (file, name) := by
  have noColon : ∀ c ∈ name.reverse, decide (c ≠ ':') = true := by
    intro c member
    apply decide_eq_true
    rintro rfl
    exact plain (List.mem_reverse.mp member)
  have last : ((file ++ ':' :: name).reverse.takeWhile (· ≠ ':')).reverse = name := by
    rw [List.reverse_append, List.reverse_cons, List.append_assoc,
      List.takeWhile_append_of_pos noColon, List.singleton_append,
      List.takeWhile_cons_of_neg (by decide), List.append_nil, List.reverse_reverse]
  have before : (file ++ ':' :: name).length - name.length - 1 = file.length := by
    rw [List.length_append, List.length_cons]
    omega
  rw [splitLastColon, last, before, List.take_left]

/-- A name with a colon in it is split at the last one. -/
theorem exists_library {name : String} (colon : ':' ∈ name.toList) (address : Json) :
    ∃ library : Library, library.entry = (name, address) ∧ ':' ∉ library.name.toList := by
  -- Seen from the end, the last colon is the first one.
  obtain ⟨after, before, isName, plain⟩ :=
    List.eq_append_cons_of_mem (List.mem_reverse.mpr colon)
  refine ⟨⟨String.ofList before.reverse, String.ofList after.reverse, address⟩, ?_, ?_⟩
  · have whole : name.toList = before.reverse ++ ':' :: after.reverse := by
      rw [← List.reverse_reverse name.toList, isName]
      simp
    refine Prod.ext (String.toList_inj.mp ?_) rfl
    rw [whole, Library.entry, Library.fullName]
    simp
  · rw [String.toList_ofList, List.mem_reverse]
    exact plain

theorem exists_libraries {entries : List (String × Json)}
    (colons : ∀ name ∈ Table.keys entries, ':' ∈ name.toList) :
    ∃ libraries : List Library, libraries.map Library.entry = entries ∧
      ∀ library ∈ libraries, ':' ∉ library.name.toList := by
  induction entries with
  | nil => exact ⟨[], rfl, List.forall_mem_nil _⟩
  | cons first rest ih =>
    obtain ⟨colon, colons⟩ := List.forall_mem_cons.mp colons
    obtain ⟨library, isFirst, plain⟩ := exists_library colon first.2
    obtain ⟨libraries, isRest, others⟩ := ih colons
    refine ⟨library :: libraries, ?_, List.forall_mem_cons.mpr ⟨plain, others⟩⟩
    rw [List.map_cons, isFirst, isRest]

/-! ### Regrouping -/

/-- One more library is put in its file. -/
def regroup (grouped : Table String (Table String Json)) (entry : String × Json) :
    Table String (Table String Json) :=
  let file := String.ofList (splitLastColon entry.1.toList).1
  let library := String.ofList (splitLastColon entry.1.toList).2
  grouped.put file (((grouped.get? file).getD []).put library entry.2)

theorem regroupLibraries_eq_foldl (entries : List (String × Json)) :
    regroupLibraries entries = entries.foldl regroup [] := rfl

/-- The libraries of a file and the names that are bound in its group. -/
def groupLibraries (group : String × Table String Json) : List Library :=
  group.2.map fun bound => ⟨group.1, bound.1, bound.2⟩

/-- All libraries again, file by file. -/
def ungrouped (grouped : Table String (Table String Json)) : List Library :=
  grouped.flatMap groupLibraries

/-- The libraries of one file under their own names, in their order. -/
def librariesOf (file : String) (libraries : List Library) : Table String Json :=
  (libraries.filter (·.file = file)).map fun library => (library.name, library.address)

/-- Libraries file by file: the files in the order in which they come up first, for each of them its
libraries in their order, and no others than before. -/
structure Groups (libraries : List Library) (grouped : Table String (Table String Json)) : Prop where
  files : grouped.keys = (libraries.map Library.file).eraseDups
  names : ∀ file, (grouped.get? file).getD [] = librariesOf file libraries
  same : (ungrouped grouped).Perm libraries

/-- Put a library into the group of its file. -/
def addLibrary (grouped : Table String (Table String Json)) (library : Library) :
    Table String (Table String Json) :=
  grouped.put library.file
    (((grouped.get? library.file).getD []).put library.name library.address)

theorem regroup_entry (grouped : Table String (Table String Json)) {library : Library}
    (plain : ':' ∉ library.name.toList) :
    regroup grouped library.entry = addLibrary grouped library := by
  have characters : library.fullName.toList = library.file.toList ++ ':' :: library.name.toList := by
    rw [Library.fullName, String.toList_append, String.toList_append, List.append_assoc]
    rfl
  rw [regroup]
  dsimp only [Library.entry]
  rw [characters, splitLastColon_append _ plain, String.ofList_toList, String.ofList_toList, addLibrary]

theorem regroupLibraries_map_entry {libraries : List Library}
    (plain : ∀ library ∈ libraries, ':' ∉ library.name.toList) :
    regroupLibraries (libraries.map Library.entry) = libraries.foldl addLibrary [] := by
  rw [regroupLibraries_eq_foldl, List.foldl_map]
  exact List.foldl_ext _ _ _ fun grouped library member =>
    regroup_entry grouped (plain library member)

theorem librariesOf_concat (file : String) (libraries : List Library) (library : Library) :
    librariesOf file (libraries ++ [library]) = librariesOf file libraries ++
      if library.file = file then [(library.name, library.address)] else [] := by
  rw [librariesOf, List.filter_append, List.map_append, librariesOf]
  split
  next own => rw [List.filter_cons_of_pos (by simpa using own), List.filter_nil, List.map_singleton]
  next other => rw [List.filter_cons_of_neg (by simpa using other), List.filter_nil, List.map_nil]

theorem fullNames_librariesOf (file : String) (libraries : List Library) :
    (librariesOf file libraries).keys.map (file ++ ":" ++ ·)
      = (libraries.filter (·.file = file)).map Library.fullName := by
  rw [Table.keys, librariesOf, List.map_map, List.map_map]
  refine List.map_congr_left fun library member => ?_
  rw [Library.fullName, of_decide_eq_true (List.mem_filter.mp member).2]
  rfl

/-- Binding one more library of a file adds it to all libraries and keeps the others. -/
theorem ungrouped_put_perm (grouped : Table String (Table String Json)) (file name : String)
    (address : Json) :
    (ungrouped (grouped.put file ((grouped.get? file).getD [] ++ [(name, address)]))).Perm
      (ungrouped grouped ++ [⟨file, name, address⟩]) := by
  induction grouped with
  | nil => exact .refl _
  | cons first rest ih =>
    obtain ⟨other, group⟩ := first
    rw [Table.put, Table.get?]
    split
    next same =>
      -- The library comes after those of its own file, before those of the files behind it.
      subst same
      simp only [Option.getD_some, ungrouped, List.flatMap_cons, groupLibraries, List.map_append,
        List.map_cons, List.map_nil, List.append_assoc]
      exact List.perm_append_comm.append_left _
    next different =>
      simp only [ungrouped, List.flatMap_cons, List.append_assoc] at ih ⊢
      exact ih.append_left _

section

variable {libraries : List Library} {grouped : Table String (Table String Json)}

/-- A library of another full name than those before it is put last into the group of its file. -/
theorem Groups.add (groups : Groups libraries grouped) {library : Library}
    (new : library.fullName ∉ libraries.map Library.fullName) :
    Groups (libraries ++ [library]) (addLibrary grouped library) := by
  have newName : library.name ∉ (librariesOf library.file libraries).keys := by
    intro listed
    have known := List.mem_map_of_mem (f := (library.file ++ ":" ++ ·)) listed
    rw [fullNames_librariesOf] at known
    exact new ((List.filter_sublist.map Library.fullName).subset known)
  have put : addLibrary grouped library = grouped.put library.file
      ((grouped.get? library.file).getD [] ++ [(library.name, library.address)]) := by
    rw [addLibrary, groups.names, Table.put_of_new newName]
  rw [put]
  refine ⟨?files, fun file => ?names, ?same⟩
  case files =>
    rw [Table.keys_put, groups.files, List.map_append, List.eraseDups_append]
    congr 1
    change _ = (List.filter (fun file => !(libraries.map Library.file).contains file)
      [library.file]).eraseDups
    simp only [List.mem_eraseDups]
    -- A file that has come up before is not listed again.
    split
    next known => rw [List.filter_cons_of_neg (by simpa using known)]; rfl
    next fresh => rw [List.filter_cons_of_pos (by simpa using fresh)]; rfl
  case names =>
    rw [librariesOf_concat, ← groups.names file]
    split
    next own => rw [own, Table.get?_put_self, Option.getD_some]
    next other => rw [Table.get?_put_of_ne (Ne.symm other), List.append_nil]
  case same => exact (ungrouped_put_perm ..).trans (groups.same.append_right _)

theorem Groups.foldl_add (groups : Groups libraries grouped) {others : List Library}
    (distinct : ((libraries ++ others).map Library.fullName).Nodup) :
    Groups (libraries ++ others) (others.foldl addLibrary grouped) := by
  induction others generalizing libraries grouped with
  | nil => rwa [List.append_nil]
  | cons library rest ih =>
    have new : library.fullName ∉ libraries.map Library.fullName := by
      rw [List.map_append, List.map_cons] at distinct
      exact fun old => (List.nodup_append.mp distinct).2.2 _ old _ List.mem_cons_self rfl
    rw [List.append_cons] at distinct ⊢
    exact ih (groups.add new) distinct

theorem Groups.size (groups : Groups libraries grouped) :
    (grouped.map (·.2.length)).sum = libraries.length := by
  have sizes := groups.same.length_eq
  rw [ungrouped, List.length_flatMap] at sizes
  simpa only [groupLibraries, List.length_map] using sizes

/-- Each library is found by its file and its name. -/
theorem Groups.finds (groups : Groups libraries grouped)
    (distinct : (libraries.map Library.fullName).Nodup) {library : Library}
    (member : library ∈ libraries) :
    ∃ group, grouped.get? library.file = some group ∧
      group.get? library.name = some library.address := by
  have mentioned : library.file ∈ grouped.keys := by
    rw [groups.files, List.mem_eraseDups]
    exact List.mem_map.mpr ⟨library, member, rfl⟩
  obtain ⟨group, found⟩ := Table.exists_get?_of_mem_keys mentioned
  have isGroup := groups.names library.file
  rw [found, Option.getD_some] at isGroup
  refine ⟨group, found, Table.get?_of_mem ?_ ?_⟩
  · rw [isGroup]
    refine List.Nodup.of_map (library.file ++ ":" ++ ·) ?_
    rw [fullNames_librariesOf]
    exact distinct.sublist (List.filter_sublist.map Library.fullName)
  · rw [isGroup]
    exact List.mem_map.mpr ⟨library, List.mem_filter.mpr ⟨member, decide_eq_true rfl⟩, rfl⟩

end

/-- Regrouping loses nothing. Every entry is a library of a file, split at the last colon, and is found
by its file and its name; there are as many as before, in the order of the document, and their full names
give the entries back. -/
theorem regroupLibraries_of_colons {entries : Table String Json} (distinct : entries.keys.Nodup)
    (colons : ∀ name ∈ entries.keys, ':' ∈ name.toList) :
    ∃ libraries : List Library, libraries.map Library.entry = entries ∧
      (∀ library ∈ libraries, ':' ∉ library.name.toList ∧
        ∃ group, (regroupLibraries entries).get? library.file = some group ∧
          group.get? library.name = some library.address) ∧
      ((regroupLibraries entries).map (·.2.length)).sum = entries.length ∧
      ((ungrouped (regroupLibraries entries)).map Library.entry).Perm entries ∧
      Groups libraries (regroupLibraries entries) := by
  obtain ⟨libraries, rfl, plain⟩ := exists_libraries colons
  have distinct : (libraries.map Library.fullName).Nodup := by
    rw [Table.keys, List.map_map] at distinct
    exact distinct
  have groups : Groups libraries (regroupLibraries (libraries.map Library.entry)) := by
    rw [regroupLibraries_map_entry plain]
    have none : Groups [] [] := ⟨rfl, fun _ => rfl, .refl _⟩
    exact none.foldl_add distinct
  refine ⟨libraries, rfl, fun library member => ?_, ?_, groups.same.map Library.entry, groups⟩
  · exact ⟨plain library member, groups.finds distinct member⟩
  · rw [groups.size, List.length_map]

namespace Linked

/-- Libraries of three files in turn: one file has colons in its name, and one has no name. -/
def entries : Table String Json :=
  [("a:b:c.sol:L", .string "0x01"), ("d.sol:L", .string "0x02"), (":L", .string "0x03"),
    ("a:b:c.sol:", .string "0x04"), ("d.sol:M", .string "0x05")]

def grouped : Table String (Table String Json) :=
  [("a:b:c.sol", [("L", .string "0x01"), ("", .string "0x04")]),
    ("d.sol", [("L", .string "0x02"), ("M", .string "0x05")]), ("", [("L", .string "0x03")])]

end Linked

theorem regroupLibraries_of_colons_in_files :
    Linked.entries.keys.Nodup ∧ (∀ name ∈ Linked.entries.keys, ':' ∈ name.toList) ∧
    regroupLibraries Linked.entries = Linked.grouped ∧
    ((ungrouped Linked.grouped).map Library.entry).Perm Linked.entries := by
  have distinct : Linked.entries.keys.Nodup := by decide
  have colons : ∀ name ∈ Linked.entries.keys, ':' ∈ name.toList := by decide
  have regrouped : regroupLibraries Linked.entries = Linked.grouped := by rfl
  obtain ⟨-, -, -, -, same, -⟩ := regroupLibraries_of_colons distinct colons
  rw [regrouped] at same
  exact ⟨distinct, colons, regrouped, same⟩

end SourceAttest.Compiler
