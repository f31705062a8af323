import SourceAttest.Pattern.Reader
import SourceAttest.Proofs.Pattern.CaseForms
import SourceAttest.Proofs.Repository.DotSegments

/-!
# The alphabet of file names

File names are to consist of ASCII letters, digits and four marks. What is replaced are the characters of
a class that ignores letter case, so four letters beyond ASCII stay as well. The main result
`sanitizePath_alphabet` says which characters a file name holds, and how often.
-/
namespace SourceAttest

/-- The characters that file names are meant to consist of. -/
def IsPlainInName (c : Char) : Prop :=
  'A' ≤ c ∧ c ≤ 'Z' ∨ 'a' ≤ c ∧ c ≤ 'z' ∨ '0' ≤ c ∧ c ≤ '9' ∨ c ∈ ['_', '.', '/', '-']

instance (c : Char) : Decidable (IsPlainInName c) := inferInstanceAs (Decidable (_ ∨ _))

/-- The letters beyond ASCII that file names keep. -/
def strayLetters : List Char := Pattern.strayForms.map Prod.fst

/-- The class of the characters that are replaced: all but the plain ones, without regard to letter
case. -/
def replacedInNames : CharClass where
  parts := [.range 'a' 'z', .range '0' '9', .single '_', .single '.', .single '/', .single '-']
  negated := true
  ignoresCase := true

example : Pattern.read "(?i)[^a-z0-9_./-]" = .ok ⟨.seq .empty (.char replacedInNames), 0⟩ := rfl

/-! ### Characters -/

/-- The characters that the class lists. -/
def IsListedInNames (c : Char) : Prop :=
  'a' ≤ c ∧ c ≤ 'z' ∨ '0' ≤ c ∧ c ≤ '9' ∨ c ∈ ['_', '.', '/', '-']

instance (c : Char) : Decidable (IsListedInNames c) := inferInstanceAs (Decidable (_ ∨ _))

theorem forall_mem_marks {holds : Char → Prop} :
    (∀ mark ∈ ['_', '.', '/', '-'], holds mark) ↔ holds '_' ∧ holds '.' ∧ holds '/' ∧ holds '-' := by
  simp only [List.forall_mem_cons, List.not_mem_nil, false_implies, implies_true, and_true]

theorem low_of_isPlainInName {c : Char} (plain : IsPlainInName c) : c.toNat < 128 := by
  have marks : ∀ mark ∈ ['_', '.', '/', '-'], mark.toNat < 128 := forall_mem_marks.mpr (by decide)
  rcases plain with capital | small | digit | mark
  · exact Nat.lt_of_le_of_lt capital.2 (by decide)
  · exact Nat.lt_of_le_of_lt small.2 (by decide)
  · exact Nat.lt_of_le_of_lt digit.2 (by decide)
  · exact marks c mark

/-- Folding takes the plain characters to those that are listed. -/
theorem isListedInNames_ascii : ∀ c : Char, c.toNat < 128 →
    (IsPlainInName c ↔ IsListedInNames c.toLower) ∧
      (IsListedInNames c → Pattern.foldCase c = c) :=
  Text.of_ascii (by decide +kernel)

theorem parts_replacedInNames : ∀ part ∈ replacedInNames.parts,
    part = .range 'a' 'z' ∨ part = .range '0' '9' ∨
      ∃ mark ∈ ['_', '.', '/', '-'], part = .single mark := by
  simp [replacedInNames]

/-- A character stays if one of the characters that count as it is listed. -/
theorem has_replacedInNames_eq_false_iff (c : Char) :
    replacedInNames.has c = false ↔ ∃ d ∈ Pattern.caseForms c, IsListedInNames d := by
  have marks : ∀ mark ∈ ['_', '.', '/', '-'],
      ClassPart.single mark ∈ replacedInNames.parts ∧ inFirstPlane mark = true :=
    forall_mem_marks.mpr (by decide)
  have flipped : replacedInNames.has c = !(replacedInNames.parts.any
      (·.has (Pattern.foldCase c) (Pattern.caseForms c) replacedInNames.isLone)) :=
    Bool.bne_true _
  rw [flipped, Bool.not_eq_false', List.any_eq_true]
  constructor
  · rintro ⟨part, listed, has⟩
    rcases parts_replacedInNames part listed with rfl | rfl | ⟨mark, isMark, rfl⟩
    · obtain ⟨d, form, within⟩ := List.any_eq_true.mp has
      exact ⟨d, form, .inl (by simpa using within)⟩
    · obtain ⟨d, form, within⟩ := List.any_eq_true.mp has
      exact ⟨d, form, .inr (.inl (by simpa using within))⟩
    · have form := (Bool.and_eq_true_iff.mp has).1
      exact ⟨mark, List.contains_iff_mem.mp form, .inr (.inr isMark)⟩
  · rintro ⟨d, form, small | digit | mark⟩
    · refine ⟨.range 'a' 'z', by decide, List.any_eq_true.mpr ⟨d, form, ?_⟩⟩
      simpa using small
    · refine ⟨.range '0' '9', by decide, List.any_eq_true.mpr ⟨d, form, ?_⟩⟩
      simpa using digit
    · refine ⟨.single d, (marks d mark).1, ?_⟩
      rw [ClassPart.has, (marks d mark).2, Bool.or_true, Bool.true_or, Bool.and_true]
      exact List.contains_iff_mem.mpr form

theorem keepsInName_iff (c : Char) :
    keepsInName c = true ↔ IsPlainInName c ∨ c ∈ strayLetters := by
  have alphanumeric : c.isAlphanum = true ↔
      'A' ≤ c ∧ c ≤ 'Z' ∨ 'a' ≤ c ∧ c ≤ 'z' ∨ '0' ≤ c ∧ c ≤ '9' := by
    change (decide ('A' ≤ c ∧ c ≤ 'Z') || (decide ('a' ≤ c) && decide (c ≤ 'z')) ||
      (decide ('0' ≤ c) && decide (c ≤ '9'))) = true ↔ _
    simp only [Bool.or_eq_true, Bool.and_eq_true, decide_eq_true_eq, or_assoc]
  have stray : isFoldedLetter c = true ↔ c ∈ strayLetters := by
    have same : ['\u017F', '\u212A', '\u0130', '\u0131'].Perm strayLetters := by decide
    rw [← same.mem_iff]
    simp only [isFoldedLetter, Bool.or_eq_true, decide_eq_true_eq, List.mem_cons, List.not_mem_nil,
      or_false, or_assoc]
  simp only [keepsInName, Bool.or_eq_true, decide_eq_true_eq, alphanumeric, stray, IsPlainInName,
    List.mem_cons, List.not_mem_nil, or_false, or_assoc]

theorem strayForms_listed : ∀ form ∈ Pattern.strayForms,
    form.2 ∈ Pattern.caseForms form.1 ∧ IsListedInNames form.2 := by
  decide +kernel

/-- File names keep exactly the characters that are not of the class. -/
theorem keepsInName_eq (c : Char) : keepsInName c = !replacedInNames.has c := by
  rw [Bool.eq_iff_iff, Bool.not_eq_true', has_replacedInNames_eq_false_iff, keepsInName_iff]
  constructor
  · -- A plain character is listed once it is folded, and a stray letter counts as a listed one.
    rintro (plain | stray)
    · have low := low_of_isPlainInName plain
      refine ⟨Pattern.foldCase c, Pattern.foldCase_mem_caseForms c, ?_⟩
      rw [(Pattern.foldCase_ascii c low).1]
      exact (isListedInNames_ascii c low).1.mp plain
    · obtain ⟨form, isForm, rfl⟩ := List.mem_map.mp stray
      exact ⟨form.2, strayForms_listed form isForm⟩
  · rintro ⟨d, form, listed⟩
    have low := low_of_isPlainInName (.inr listed)
    have folded := (isListedInNames_ascii d low).2 listed
    rcases Pattern.caseForms_ascii_cases low folded form with ⟨ascii, rfl⟩ | stray
    · exact .inl ((isListedInNames_ascii c ascii).1.mpr listed)
    · exact .inr (List.mem_map.mpr ⟨_, stray, rfl⟩)

/-- What becomes of a character before dots are looked at. -/
def maskedInName (c : Char) : Char := if replacedInNames.has c then '_' else c

theorem maskedInName_eq (c : Char) : maskedInName c = if keepsInName c then c else '_' := by
  rw [maskedInName, keepsInName_eq]
  cases replacedInNames.has c <;> rfl

theorem maskedInName_alphabet (c : Char) :
    IsPlainInName (maskedInName c) ∨ maskedInName c ∈ strayLetters := by
  rw [maskedInName_eq]
  split
  next kept => exact (keepsInName_iff c).mp kept
  next => exact .inl (by decide)

theorem count_map_maskedInName {c : Char} (other : c ≠ '_') (cs : List Char) :
    (cs.map maskedInName).count c = if replacedInNames.has c then 0 else cs.count c := by
  induction cs with
  | nil => simp
  | cons d rest ih =>
    rw [List.map_cons, List.count_cons, ih, List.count_cons, maskedInName]
    by_cases same : d = c
    · subst same
      cases replacedInNames.has d <;> simp [Ne.symm other]
    · cases replacedInNames.has d <;> simp [same, Ne.symm other]

theorem strayLetters_apart {c : Char} (stray : c ∈ strayLetters) :
    ¬ IsPlainInName c ∧ c ∉ ['_', '.', '/'] := by
  obtain ⟨form, isForm, rfl⟩ := List.mem_map.mp stray
  have apart : ∀ form ∈ Pattern.strayForms,
      ¬ IsPlainInName form.1 ∧ form.1 ∉ ['_', '.', '/'] := by decide
  exact apart form isForm

/-! ### File names -/

/-- No line is broken once the characters of the class have made way. -/
theorem break_not_mem_masked (cs : List Char) : '\n' ∉ cs.map maskedInName := by
  intro member
  obtain ⟨c, -, isBreak⟩ := List.mem_map.mp member
  have kept := maskedInName_alphabet c
  rw [isBreak] at kept
  exact absurd kept (by decide)

theorem replaces_sanitizePath (path : String) :
    Pattern.Replaces dotSegment ['_'] [] (path.toList.map maskedInName) (sanitizePath path).toList := by
  have masked : (fun c => if keepsInName c then c else '_') = maskedInName :=
    funext fun c => (maskedInName_eq c).symm
  rw [sanitizePath, String.toList_ofList, masked]
  exact replaces_replaceFirstDots (break_not_mem_masked _)

theorem count_sanitizePath (path : String) {c : Char} (other : c ∉ ['_', '.', '/']) :
    (sanitizePath path).toList.count c = if replacedInNames.has c then 0 else path.toList.count c := by
  have underscores := Underscores.of_replaces (break_not_mem_masked _) (replaces_sanitizePath path)
  rw [underscores.count_eq other]
  exact count_map_maskedInName (fun same => other (same ▸ List.mem_cons_self)) path.toList

theorem stray_mem_sanitizePath_iff (path : String) {c : Char} (stray : c ∈ strayLetters) :
    c ∈ (sanitizePath path).toList ↔ c ∈ path.toList := by
  have kept : replacedInNames.has c = false := by
    rw [← Bool.not_eq_true', ← keepsInName_eq, keepsInName_iff]
    exact .inr stray
  have count := count_sanitizePath path (strayLetters_apart stray).2
  rw [if_neg (by simp [kept])] at count
  rw [← List.count_pos_iff, count, List.count_pos_iff]

/-- A file name is the path with all characters of the replaced class and then the first segment of
dots replaced by underscores. It holds plain characters and stray letters only, and but for underscores,
dots and slashes each of them as often as the path does. So its characters are all plain exactly if there
is no stray letter in the path. -/
theorem sanitizePath_alphabet (path : String) :
    Pattern.Replaces dotSegment ['_'] [] (path.toList.map maskedInName) (sanitizePath path).toList ∧
    (∀ c ∈ (sanitizePath path).toList, IsPlainInName c ∨ c ∈ strayLetters) ∧
    (∀ c, c ∉ ['_', '.', '/'] → (sanitizePath path).toList.count c
      = if replacedInNames.has c then 0 else path.toList.count c) ∧
    ((∀ c ∈ (sanitizePath path).toList, IsPlainInName c) ↔ ∀ c ∈ strayLetters, c ∉ path.toList) := by
  have replaces := replaces_sanitizePath path
  have underscores := Underscores.of_replaces (break_not_mem_masked _) replaces
  have alphabet : ∀ c ∈ (sanitizePath path).toList, IsPlainInName c ∨ c ∈ strayLetters := by
    intro c member
    rcases underscores.mem member with rfl | masked
    · exact .inl (by decide)
    · obtain ⟨d, -, rfl⟩ := List.mem_map.mp masked
      exact maskedInName_alphabet d
  refine ⟨replaces, alphabet, fun c other => count_sanitizePath path other, ?_, ?_⟩
  · intro plain c stray member
    have kept := (stray_mem_sanitizePath_iff path stray).mpr member
    exact (strayLetters_apart stray).1 (plain c kept)
  · intro none c member
    refine (alphabet c member).resolve_right fun stray => ?_
    exact none c stray ((stray_mem_sanitizePath_iff path stray).mp member)

/-- The long s, the Kelvin sign and the two other forms of `i` stay in a file name. -/
theorem stray_letters_kept :
    sanitizePath "\u017F\u212A\u0130\u0131.sol" = "\u017F\u212A\u0130\u0131.sol" ∧
    ¬ ∀ c ∈ (sanitizePath "\u017F\u212A\u0130\u0131.sol").toList, IsPlainInName c := by
  have kept : sanitizePath "\u017F\u212A\u0130\u0131.sol" = "\u017F\u212A\u0130\u0131.sol" := by
    decide +kernel
  rw [kept]
  refine ⟨rfl, fun plain => ?_⟩
  exact absurd (plain '\u017F' (by decide)) (by decide)

end SourceAttest
