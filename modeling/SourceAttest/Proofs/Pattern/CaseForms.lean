import SourceAttest.Pattern.CaseForms
import SourceAttest.Proofs.Text.Lowercase

/-!
# ASCII characters without regard to letter case

Where letter case is ignored, an ASCII letter also stands for letters that are none of ASCII. The main
result `caseForms_ascii_cases` says which: the two other forms of `i`, the long s and the Kelvin sign.
-/
namespace SourceAttest.Pattern

open SourceAttest.Text

/-- The small letters beyond ASCII that are kin to an ASCII letter. -/
def strayKin : List (Char × Char) := [('\u0131', 'i'), ('\u017F', 's')]

/-- The capital letters beyond ASCII that are folded to an ASCII letter. -/
def strayCapitals : List (Char × Char) := [('\u0130', 'i'), ('\u212A', 'k')]

/-- The letters beyond ASCII that count as an ASCII letter, each with that letter. -/
def strayForms : List (Char × Char) := strayKin ++ strayCapitals

theorem high_of_strayKin : ∀ form ∈ strayKin, 128 ≤ form.1.toNat := by decide

theorem low_of_strayCapitals : ∀ form ∈ strayCapitals, form.2.toNat < 128 := by decide

/-! ### From the folded form back -/

theorem partners_misses_stray :
    (caseRuns.all fun run =>
      strayKin.all (fun form => !run.partners.covers form.1.toNat) &&
        (!run.partners.covers 'k'.toNat || (run.first == 0x212A && run.last == 0x212A))) = true := by
  decide +kernel

/-- From beyond ASCII, only the Kelvin sign is lowered to an ASCII letter, and no other letter to those
that are kin to one. -/
theorem lowerSimple_stray_cases {c : Char} (high : 128 ≤ c.toNat)
    (near : (lowerSimple c).toNat < 128 ∨ ∃ d, (lowerSimple c, d) ∈ strayKin) :
    lowerSimple c = c ∨ c = '\u212A' ∧ lowerSimple c = 'k' := by
  refine (lowerSimple_high_cases high).imp_right ?_
  rintro ⟨run, listed, covered, partner⟩
  have misses := List.all_eq_true.mp partners_misses_stray run listed
  simp only [Bool.and_eq_true, Bool.not_eq_true', Bool.or_eq_true, beq_iff_eq,
    List.all_eq_true] at misses
  rcases near with low | ⟨d, kin⟩
  · have reached := not_isUnreached_partner listed partner
    have isK : lowerSimple c = 'k' :=
      Char.toNat_inj.mp ((partner_cases reached).resolve_left (by omega))
    rw [isK] at partner
    rw [partner] at misses
    obtain ⟨first, last⟩ := misses.2.resolve_left Bool.noConfusion
    obtain ⟨⟨least, most⟩, -⟩ := (CaseRun.covers_iff ..).mp covered
    refine ⟨Char.toNat_inj.mp ?_, isK⟩
    change c.toNat = 0x212A
    omega
  · rw [misses.1 _ kin] at partner
    cases partner

theorem foldCase_stray_cases {c : Char} (high : 128 ≤ c.toNat)
    (near : (foldCase c).toNat < 128 ∨ ∃ d, (foldCase c, d) ∈ strayKin) :
    foldCase c = c ∨ (c, foldCase c) ∈ strayCapitals := by
  by_cases dotted : c = '\u0130'
  · rw [dotted]
    decide
  · rw [foldCase, if_neg dotted] at near ⊢
    refine (lowerSimple_stray_cases high near).imp_right ?_
    rintro ⟨rfl, isK⟩
    rw [isK]
    decide

theorem foldCase_ascii : ∀ c : Char, c.toNat < 128 →
    foldCase c = c.toLower ∧ (c.isLower = true → foldCase c.toUpper ≠ c.toUpper) :=
  of_ascii (by decide +kernel)

/-! ### Kinship and unfolding -/

theorem kinships_ascii : ∀ group ∈ kinships, ∀ point ∈ group, ∀ other ∈ group,
    (Char.ofNat other).toNat < 128 → Char.ofNat point = Char.ofNat other ∨
      (Char.ofNat point, Char.ofNat other) ∈ strayKin := by
  decide +kernel

theorem kin_ascii_cases {folded d : Char} (low : d.toNat < 128) (member : d ∈ kin folded) :
    folded = d ∨ (folded, d) ∈ strayKin := by
  rw [kin] at member
  split at member
  next group found =>
    have listed := List.mem_of_find?_eq_some found
    have held := List.find?_some found
    simp only [List.contains_iff_mem] at held
    obtain ⟨other, held', rfl⟩ := List.mem_map.mp member
    have cases := kinships_ascii group listed _ held other held' low
    rwa [Char.ofNat_toNat] at cases
  next none => exact .inl (List.mem_singleton.mp member).symm

theorem caseRuns_high :
    (caseRuns.all fun run => Nat.ble 128 run.first &&
      (Nat.blt run.last 0xD800 || Nat.blt 0xDFFF run.first && Nat.blt run.last 0x110000)) = true := by
  decide +kernel

theorem high_of_raisedBy {run : CaseRun} {folded d : Char} (listed : run ∈ caseRuns)
    (raised : raisedBy folded run = some d) : 128 ≤ d.toNat := by
  have range := List.all_eq_true.mp caseRuns_high run listed
  simp only [Bool.and_eq_true, Bool.or_eq_true, Nat.ble_eq, Nat.blt_eq] at range
  rw [raisedBy] at raised
  split at raised
  next covered =>
    obtain ⟨⟨least, most⟩, -⟩ := (CaseRun.covers_iff ..).mp covered
    cases raised
    have valid : Nat.isValidChar (Int.toNat (folded.toNat - run.offset)) := by
      simp only [Nat.isValidChar]
      omega
    rw [Char.ofNat, dif_pos valid]
    change 128 ≤ Int.toNat (folded.toNat - run.offset)
    omega
  · cases raised

theorem low_of_isLower {c : Char} (lower : c.isLower = true) : c.toNat < 128 := by
  have most : c.val ≤ 'z'.val := of_decide_eq_true (Bool.and_eq_true_iff.mp lower).2
  exact Nat.lt_of_le_of_lt (UInt32.le_iff_toNat_le.mp most) (by decide)

/-- A folded ASCII character unfolds from itself only. -/
theorem eq_of_mem_unfolded {k d : Char} (low : d.toNat < 128) (folded : foldCase d = d)
    (member : d ∈ unfolded k) : k = d := by
  simp only [unfolded, List.mem_cons, List.cons_append, List.mem_append, List.mem_filterMap] at member
  rcases member with same | (upper | dotted) | ⟨run, listed, raised⟩
  · exact same.symm
  · split at upper
    next lower =>
      cases List.mem_singleton.mp upper
      exact absurd folded ((foldCase_ascii k (low_of_isLower lower)).2 lower)
    · cases upper
  · split at dotted
    · cases List.mem_singleton.mp dotted
      exact absurd low (by decide)
    · cases dotted
  · exact absurd (high_of_raisedBy listed raised) (by omega)

theorem foldCase_mem_caseForms (c : Char) : foldCase c ∈ caseForms c := by
  refine List.mem_flatMap.mpr ⟨foldCase c, ?_, List.mem_cons_self⟩
  rw [kin]
  split
  next group found =>
    have held := List.find?_some found
    simp only [List.contains_iff_mem] at held
    exact List.mem_map.mpr ⟨_, held, Char.ofNat_toNat _⟩
  next none => exact List.mem_singleton_self _

/-- What counts as a folded ASCII character is an ASCII character with that lower case, or a stray
letter. -/
theorem caseForms_ascii_cases {c d : Char} (low : d.toNat < 128) (folded : foldCase d = d)
    (member : d ∈ caseForms c) : c.toNat < 128 ∧ c.toLower = d ∨ (c, d) ∈ strayForms := by
  obtain ⟨k, isKin, unfolds⟩ := List.mem_flatMap.mp member
  cases eq_of_mem_unfolded low folded unfolds
  by_cases ascii : c.toNat < 128
  · left
    have isLower := (foldCase_ascii c ascii).1
    have stays := (toLower_ascii c ascii).1
    refine ⟨ascii, isLower.symm.trans ((kin_ascii_cases low isKin).resolve_right fun stray => ?_)⟩
    have beyond := high_of_strayKin _ stray
    rw [isLower] at beyond
    exact Nat.not_lt.mpr beyond stays
  · right
    have high : 128 ≤ c.toNat := by omega
    rcases kin_ascii_cases low isKin with rfl | kin
    · rcases foldCase_stray_cases high (.inl low) with own | stray
      · rw [own] at low
        exact absurd low ascii
      · exact List.mem_append_right _ stray
    · rcases foldCase_stray_cases high (.inr ⟨d, kin⟩) with own | stray
      · rw [own] at kin
        exact List.mem_append_left _ kin
      · exact absurd (low_of_strayCapitals _ stray) (Nat.not_lt.mpr (high_of_strayKin _ kin))

end SourceAttest.Pattern
