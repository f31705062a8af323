import Mathlib.Tactic.ByContra
import Mathlib.Tactic.SplitIfs
import SourceAttest.Text.Blank
import SourceAttest.Text.Lowercase

/-!
# Lowering a text twice

No letter is lowered to one that lowering would change again, and none to a blank. Among the letters
above ASCII only the Kelvin sign has a partner in ASCII. The main results are
`lower_append_of_lowered` and `lower_eq_marker_iff`: what follows a lowered text is lowered on its own,
and no other text than `0x` and `0X` is lowered to `0x`.
-/
namespace SourceAttest.Text

/-! ### The table of partners -/

/-- The run that the partners of the letters of a run make up. -/
def CaseRun.partners (run : CaseRun) : CaseRun :=
  ⟨Int.toNat (run.first + run.offset), Int.toNat (run.last + run.offset), run.step, 0⟩

/-- No letter is of both runs. -/
def CaseRun.misses (run other : CaseRun) : Bool :=
  Nat.blt run.last other.first || Nat.blt other.last run.first ||
    -- Runs of every second letter may lie between each other.
    (Nat.beq other.step 2 && (Nat.beq run.step 2 || Nat.beq run.first run.last) &&
      !Nat.beq (run.first % 2) (other.first % 2))

/-- Code points that no letter above ASCII is lowered to: the upper-case letters, the blanks, the
surrogates, and those before the first letters above ASCII but `k`. -/
def unreached : List CaseRun :=
  [⟨0, 0x6A, 1, 0⟩, ⟨0x6C, 0xA0, 1, 0⟩, ⟨0x130, 0x130, 1, 0⟩, ⟨0x1680, 0x1680, 1, 0⟩,
    ⟨0x2000, 0x205F, 1, 0⟩, ⟨0x3000, 0x3000, 1, 0⟩, ⟨0xD800, 0xDFFF, 1, 0⟩] ++ caseRuns

theorem partners_misses_unreached :
    (caseRuns.all fun run => unreached.all run.partners.misses) = true := by decide +kernel

theorem partners_inRange :
    (caseRuns.all fun run => Nat.blt 0 run.partners.first && Nat.blt run.partners.last 0x110000)
      = true := by
  decide +kernel

theorem CaseRun.covers_iff (run : CaseRun) (point : Nat) :
    run.covers point = true ↔
      (run.first ≤ point ∧ point ≤ run.last) ∧ (point - run.first) % run.step = 0 := by
  simp [covers]

theorem CaseRun.misses_iff (run other : CaseRun) :
    run.misses other = true ↔ (run.last < other.first ∨ other.last < run.first) ∨
      (other.step = 2 ∧ (run.step = 2 ∨ run.first = run.last)) ∧
        run.first % 2 ≠ other.first % 2 := by
  simp only [misses, Bool.or_eq_true, Bool.and_eq_true, Nat.blt_eq, Nat.beq_eq, Bool.not_eq_true',
    ← Bool.not_eq_true, ne_eq]

theorem covers_partners {run : CaseRun} {point : Nat} (listed : run ∈ caseRuns)
    (covered : run.covers point = true) :
    run.partners.covers (Int.toNat (point + run.offset)) = true := by
  have ground := List.all_eq_true.mp partners_inRange run listed
  simp only [Bool.and_eq_true, Nat.blt_eq, CaseRun.partners] at ground
  obtain ⟨⟨least, most⟩, step⟩ := (CaseRun.covers_iff run point).mp covered
  -- A letter is as far behind the first one as its partner is behind the partner of that one.
  have steps : Int.toNat (point + run.offset) - Int.toNat (run.first + run.offset)
      = point - run.first := by omega
  rw [CaseRun.covers_iff]
  dsimp only [CaseRun.partners]
  refine ⟨⟨by omega, by omega⟩, ?_⟩
  rw [steps, step]

theorem covers_eq_false_of_misses {run other : CaseRun} {point : Nat}
    (covered : run.covers point = true) (misses : run.misses other = true) :
    other.covers point = false := by
  obtain ⟨⟨least, most⟩, step⟩ := (CaseRun.covers_iff run point).mp covered
  rw [Bool.eq_false_iff, ne_eq, CaseRun.covers_iff]
  rintro ⟨⟨least', most'⟩, step'⟩
  rcases (CaseRun.misses_iff run other).mp misses with
    (below | above) | ⟨⟨second, alternate | single⟩, parity⟩
  · omega
  · omega
  · rw [alternate] at step
    rw [second] at step'
    omega
  · rw [second] at step'
    omega

/-- No letter above ASCII is lowered to this code point. -/
def IsUnreached (point : Nat) : Prop := ∃ other ∈ unreached, other.covers point = true

theorem isUnreached_of_range (first last : Nat) {point : Nat} (listed : ⟨first, last, 1, 0⟩ ∈ unreached)
    (least : first ≤ point) (most : point ≤ last) : IsUnreached point :=
  ⟨_, listed, (CaseRun.covers_iff ..).mpr ⟨⟨least, most⟩, Nat.mod_one _⟩⟩

theorem not_isUnreached_partner {run : CaseRun} {point : Nat} (listed : run ∈ caseRuns)
    (covered : run.partners.covers point = true) : ¬ IsUnreached point := by
  rintro ⟨other, isOther, both⟩
  have misses := List.all_eq_true.mp partners_misses_unreached run listed
  have apart := List.all_eq_true.mp misses other isOther
  rw [covers_eq_false_of_misses covered apart] at both
  cases both

theorem toNat_partner {run : CaseRun} {point : Nat} (listed : run ∈ caseRuns)
    (covered : run.covers point = true) :
    (Char.ofNat (Int.toNat (point + run.offset))).toNat = Int.toNat (point + run.offset) := by
  have partner := covers_partners listed covered
  have noSurrogate (least : 0xD800 ≤ Int.toNat (point + run.offset)) :
      0xDFFF < Int.toNat (point + run.offset) := by
    by_contra small
    exact not_isUnreached_partner listed partner
      (isUnreached_of_range 0xD800 0xDFFF (by simp [unreached]) least (Nat.le_of_not_lt small))
  have top := List.all_eq_true.mp partners_inRange run listed
  obtain ⟨⟨-, most⟩, -⟩ := (CaseRun.covers_iff ..).mp partner
  simp only [Bool.and_eq_true, Nat.blt_eq] at top
  have valid : Nat.isValidChar (Int.toNat (point + run.offset)) := by
    simp only [Nat.isValidChar]
    omega
  rw [Char.ofNat, dif_pos valid]
  rfl

/-! ### Lowering one character -/

/-- A character above ASCII is left as it is or lowered to its partner in the run that it is of. -/
theorem lowerSimple_high_cases {c : Char} (high : 128 ≤ c.toNat) :
    lowerSimple c = c ∨ ∃ run ∈ caseRuns, run.covers c.toNat = true ∧
      run.partners.covers (lowerSimple c).toNat = true := by
  rw [lowerSimple, if_neg (by omega)]
  split
  next run found =>
    have listed := List.mem_of_find?_eq_some found
    have covered := List.find?_some found
    right
    rw [toNat_partner listed covered]
    exact ⟨run, listed, covered, covers_partners listed covered⟩
  next none => exact .inl rfl

theorem lowerSimple_cases (c : Char) :
    (c.toNat < 128 ∧ lowerSimple c = c.toLower) ∨
    (128 ≤ c.toNat ∧ lowerSimple c = c) ∨
    (128 ≤ c.toNat ∧ ¬ IsUnreached (lowerSimple c).toNat) := by
  by_cases low : c.toNat < 128
  · exact .inl ⟨low, if_pos low⟩
  · right
    have high : 128 ≤ c.toNat := by omega
    rcases lowerSimple_high_cases high with same | ⟨run, listed, -, partner⟩
    · exact .inl ⟨high, same⟩
    · exact .inr ⟨high, not_isUnreached_partner listed partner⟩

/-- A partner that lies in ASCII is the one of the Kelvin sign. -/
theorem partner_cases {point : Nat} (reached : ¬ IsUnreached point) : 128 ≤ point ∨ point = 'k'.toNat := by
  by_contra low
  obtain ⟨small, noKelvin⟩ := not_or.mp low
  change point ≠ 0x6B at noKelvin
  by_cases before : point ≤ 0x6A
  · exact reached (isUnreached_of_range 0 0x6A (by simp [unreached]) (Nat.zero_le _) before)
  · exact reached (isUnreached_of_range 0x6C 0xA0 (by simp [unreached])
      (by omega) (by omega))

/-- No letter above ASCII but the Kelvin sign is lowered to an ASCII letter. -/
theorem isAscii_of_lowerSimple {c : Char} (low : (lowerSimple c).toNat < 128)
    (noKelvin : lowerSimple c ≠ 'k') : c.toNat < 128 := by
  rcases lowerSimple_cases c with ⟨ascii, -⟩ | ⟨-, same⟩ | ⟨-, reached⟩
  · exact ascii
  · rwa [same] at low
  · rcases partner_cases reached with high | isKelvin
    · omega
    · exact absurd (Char.toNat_inj.mp isKelvin) noKelvin

/-- Lowering leaves this character as it is, wherever it stands. -/
structure IsLowered (c : Char) : Prop where
  same : lowerSimple c = c
  noDottedI : c ≠ 'İ'
  noSigma : c ≠ 'Σ'

theorem toLower_ascii : ∀ c : Char, c.toNat < 128 →
    c.toLower.toNat < 128 ∧ c.toLower.toLower = c.toLower ∧
      (isBlank c = false → isBlank c.toLower = false) :=
  of_ascii (by decide +kernel)

theorem isLowered_of_ascii {c : Char} (low : c.toNat < 128) (same : c.toLower = c) : IsLowered c := by
  refine ⟨?_, ?_, ?_⟩
  · rw [lowerSimple, if_pos low, same]
  · rintro rfl
    exact absurd low (by decide)
  · rintro rfl
    exact absurd low (by decide)

/-- A character that is no upper-case letter above ASCII is left as it is. -/
theorem isLowered_of_reached {c : Char} (reached : ¬ IsUnreached c.toNat) : IsLowered c := by
  have inNoRun : ∀ run ∈ caseRuns, ¬ run.covers c.toNat = true := fun run listed covered =>
    reached ⟨run, List.mem_append_right _ listed, covered⟩
  rcases partner_cases reached with high | isKelvin
  · refine ⟨?_, ?_, ?_⟩
    · rw [lowerSimple, if_neg (by omega), List.find?_eq_none.mpr inNoRun]
    · rintro rfl
      exact reached (isUnreached_of_range 0x130 0x130 (by simp [unreached])
        (by decide) (by decide))
    · rintro rfl
      exact absurd (show CaseRun.covers ⟨0x3A3, 0x3AB, 1, 32⟩ 'Σ'.toNat = true by decide)
        (inNoRun _ (by decide +kernel))
  · rw [Char.toNat_inj.mp isKelvin]
    exact isLowered_of_ascii (by decide) (by decide)

theorem isLowered_lowerSimple {c : Char} (noDottedI : c ≠ 'İ') (noSigma : c ≠ 'Σ') :
    IsLowered (lowerSimple c) := by
  rcases lowerSimple_cases c with ⟨ascii, isLower⟩ | ⟨-, same⟩ | ⟨-, reached⟩
  · obtain ⟨low, again, -⟩ := toLower_ascii c ascii
    rw [isLower]
    exact isLowered_of_ascii low again
  · rw [same]
    exact ⟨same, noDottedI, noSigma⟩
  · exact isLowered_of_reached reached

theorem isUnreached_of_isBlank {c : Char} (blank : isBlank c = true) : IsUnreached c.toNat := by
  have place : c.toNat ≤ 0x6A ∨ (0x6C ≤ c.toNat ∧ c.toNat ≤ 0xA0) ∨
      (0x1680 ≤ c.toNat ∧ c.toNat ≤ 0x1680) ∨ (0x2000 ≤ c.toNat ∧ c.toNat ≤ 0x205F) ∨
      (0x3000 ≤ c.toNat ∧ c.toNat ≤ 0x3000) := by
    simp only [isBlank, isNarrowBlank, isWideBlank, Bool.or_eq_true, Bool.and_eq_true,
      decide_eq_true_eq] at blank
    omega
  rcases place with low | ⟨least, most⟩ | ⟨least, most⟩ | ⟨least, most⟩ | ⟨least, most⟩
  · exact isUnreached_of_range 0 0x6A (by simp [unreached]) (Nat.zero_le _) low
  · exact isUnreached_of_range 0x6C 0xA0 (by simp [unreached]) least most
  · exact isUnreached_of_range 0x1680 0x1680 (by simp [unreached]) least most
  · exact isUnreached_of_range 0x2000 0x205F (by simp [unreached]) least most
  · exact isUnreached_of_range 0x3000 0x3000 (by simp [unreached]) least most

theorem isBlank_lowerSimple {c : Char} (filled : isBlank c = false) :
    isBlank (lowerSimple c) = false := by
  rcases lowerSimple_cases c with ⟨ascii, isLower⟩ | ⟨-, same⟩ | ⟨-, reached⟩
  · obtain ⟨-, -, kept⟩ := toLower_ascii c ascii
    rw [isLower, kept filled]
  · rw [same, filled]
  · rw [Bool.eq_false_iff]
    exact fun blank => reached (isUnreached_of_isBlank blank)

/-! ### Lowering a text -/

theorem mem_lowerAt {before after : List Char} {c d : Char} (member : d ∈ lowerAt before c after) :
    d = 'i' ∨ d ∈ ['\u0307', 'ς', 'σ'] ∨ (c ≠ 'İ' ∧ c ≠ 'Σ' ∧ d = lowerSimple c) := by
  unfold lowerAt at member
  split_ifs at member with dotted sigma ends
  · rcases List.mem_cons.mp member with isI | isDot
    · exact .inl isI
    · simp [List.mem_singleton.mp isDot]
  · simp [List.mem_singleton.mp member]
  · simp [List.mem_singleton.mp member]
  · exact .inr (.inr ⟨dotted, sigma, List.mem_singleton.mp member⟩)

/-- The forms that depend on the place in the text are in lower case themselves. -/
theorem reached_of_special {d : Char} (listed : d ∈ ['\u0307', 'ς', 'σ']) : ¬ IsUnreached d.toNat := by
  have all : (['\u0307', 'ς', 'σ'].all fun d => unreached.all fun other => !other.covers d.toNat)
      = true := by decide +kernel
  rintro ⟨other, isOther, covered⟩
  have apart := List.all_eq_true.mp (List.all_eq_true.mp all d listed) other isOther
  simp [covered] at apart

theorem isLowered_of_mem_lowerAt {before after : List Char} {c d : Char}
    (member : d ∈ lowerAt before c after) : IsLowered d := by
  rcases mem_lowerAt member with rfl | listed | ⟨noDottedI, noSigma, rfl⟩
  · exact isLowered_of_ascii (by decide) (by decide)
  · exact isLowered_of_reached (reached_of_special listed)
  · exact isLowered_lowerSimple noDottedI noSigma

theorem isBlank_of_mem_lowerAt {before after : List Char} {c d : Char}
    (filled : isBlank c = false) (member : d ∈ lowerAt before c after) : isBlank d = false := by
  rcases mem_lowerAt member with rfl | listed | ⟨-, -, rfl⟩
  · decide
  · exact Bool.eq_false_iff.mpr fun blank => reached_of_special listed (isUnreached_of_isBlank blank)
  · exact isBlank_lowerSimple filled

theorem isLowered_of_mem_lowerFrom {before cs : List Char} {d : Char}
    (member : d ∈ lowerFrom before cs) : IsLowered d := by
  induction cs generalizing before with
  | nil => cases member
  | cons c rest ih =>
    rcases List.mem_append.mp member with here | later
    · exact isLowered_of_mem_lowerAt here
    · exact ih later

/-- Lowering starts only behind what is lowered already. -/
theorem lowerFrom_append {before cs : List Char} (lowered : ∀ c ∈ cs, IsLowered c) (ds : List Char) :
    lowerFrom before (cs ++ ds) = cs ++ lowerFrom (cs.reverse ++ before) ds := by
  induction cs generalizing before with
  | nil => rfl
  | cons c rest ih =>
    obtain ⟨first, others⟩ := List.forall_mem_cons.mp lowered
    have kept (after : List Char) : lowerAt before c after = [c] := by
      rw [lowerAt, if_neg first.noDottedI, if_neg first.noSigma, first.same]
    rw [List.cons_append, lowerFrom, kept, ih others]
    simp

theorem isLowered_of_mem_lower {text : String} {d : Char} (member : d ∈ (lower text).toList) :
    IsLowered d := by
  rw [lower, String.toList_ofList] at member
  exact isLowered_of_mem_lowerFrom member

/-- What follows a lowered text is lowered on its own. -/
theorem lower_append_of_lowered {text digits : String} (lowered : ∀ c ∈ text.toList, IsLowered c)
    (low : ∀ c ∈ digits.toList, c.toNat < 128) : lower (text ++ digits) = text ++ lower digits := by
  apply String.toList_inj.mp
  rw [lower, lower, String.toList_append, String.toList_append, String.toList_ofList,
    String.toList_ofList, lowerFrom_append lowered, lowerFrom_ascii _ _ low, lowerFrom_ascii _ _ low]

theorem lowerFrom_ne_nil {before cs : List Char} (filled : cs ≠ []) : lowerFrom before cs ≠ [] := by
  cases cs with
  | nil => exact absurd rfl filled
  | cons c rest =>
    rw [lowerFrom]
    exact fun empty => lowerAt_ne_nil _ _ _ (List.append_eq_nil_iff.mp empty).1

/-- A text that does not end in a blank does not do so either when it is lowered. -/
theorem isBlank_getLast?_lowerFrom {before cs : List Char} {d : Char}
    (shown : ∀ c, cs.getLast? = some c → isBlank c = false)
    (last : (lowerFrom before cs).getLast? = some d) : isBlank d = false := by
  induction cs generalizing before with
  | nil => cases last
  | cons c rest ih =>
    rw [lowerFrom, List.getLast?_append] at last
    cases rest with
    | nil =>
      have here := shown c rfl
      exact isBlank_of_mem_lowerAt here (List.mem_of_getLast? last)
    | cons e others =>
      cases later : (lowerFrom (c :: before) (e :: others)).getLast? with
      | none =>
        have empty := List.getLast?_eq_none_iff.mp later
        exact absurd empty (lowerFrom_ne_nil (List.cons_ne_nil _ _))
      | some other =>
        rw [later] at last
        exact ih (fun c isLast => shown c (by rwa [List.getLast?_cons_cons])) (later.trans last)

/-- Letters that are the partner of one ASCII letter alone come from it. -/
theorem lowerFrom_eq_cons {before cs ds : List Char} {d : Char}
    (lowered : lowerFrom before cs = d :: ds) (low : d.toNat < 128) (noI : d ≠ 'i')
    (noKelvin : d ≠ 'k') :
    ∃ c rest, cs = c :: rest ∧ c.toNat < 128 ∧ c.toLower = d ∧ lowerFrom (c :: before) rest = ds := by
  cases cs with
  | nil => cases lowered
  | cons c rest =>
    rw [lowerFrom] at lowered
    have first : d ∈ lowerAt before c rest := by
      cases form : lowerAt before c rest with
      | nil => exact absurd form (lowerAt_ne_nil _ _ _)
      | cons e others =>
        rw [form, List.cons_append] at lowered
        simp [(List.cons.inj lowered).1]
    have ascii : c.toNat < 128 := by
      rcases mem_lowerAt first with rfl | listed | ⟨-, -, rfl⟩
      · exact absurd rfl noI
      · simp only [List.mem_cons, List.not_mem_nil, or_false] at listed
        rcases listed with rfl | rfl | rfl
        · exact absurd low (by decide)
        · exact absurd low (by decide)
        · exact absurd low (by decide)
      · exact isAscii_of_lowerSimple low noKelvin
    rw [lowerAt_ascii _ _ _ ascii] at lowered
    obtain ⟨same, others⟩ := List.cons.inj lowered
    exact ⟨c, rest, rfl, ascii, same, others⟩

/-- Nothing but the marker in either case is lowered to the marker, whatever follows. -/
theorem lowerFrom_eq_marked_iff {cs ds : List Char} :
    lowerFrom [] cs = '0' :: 'x' :: ds ↔
      ∃ mark rest, cs = '0' :: mark :: rest ∧ mark ∈ ['x', 'X'] ∧ lowerFrom [mark, '0'] rest = ds := by
  constructor
  · intro lowered
    obtain ⟨c, _, rfl, low, isZero, lowered⟩ :=
      lowerFrom_eq_cons lowered (by decide) (by decide) (by decide)
    obtain ⟨mark, rest, rfl, low', isX, lowered⟩ :=
      lowerFrom_eq_cons lowered (by decide) (by decide) (by decide)
    have origins : ∀ c : Char, c.toNat < 128 →
        (c.toLower = '0' → c = '0') ∧ (c.toLower = 'x' → c ∈ ['x', 'X']) :=
      of_ascii (by decide +kernel)
    cases (origins c low).1 isZero
    exact ⟨mark, rest, rfl, (origins mark low').2 isX, lowered⟩
  · rintro ⟨mark, rest, rfl, isMark, rfl⟩
    simp only [List.mem_cons, List.not_mem_nil, or_false] at isMark
    rcases isMark with rfl | rfl <;> rfl

theorem lower_eq_marker_iff (text : String) : lower text = "0x" ↔ text = "0x" ∨ text = "0X" := by
  constructor
  · intro lowered
    have characters : lowerFrom [] text.toList = ['0', 'x'] := by
      rw [← String.toList_ofList (l := lowerFrom [] text.toList)]
      exact congrArg String.toList lowered
    obtain ⟨mark, rest, isText, isMark, none⟩ := lowerFrom_eq_marked_iff.mp characters
    have ended : rest = [] := by
      by_contra filled
      exact lowerFrom_ne_nil filled none
    rw [ended] at isText
    simp only [List.mem_cons, List.not_mem_nil, or_false] at isMark
    rcases isMark with rfl | rfl
    · exact .inl (String.toList_inj.mp isText)
    · exact .inr (String.toList_inj.mp isText)
  · rintro (rfl | rfl)
    · decide
    · decide

/-- A lowered text has the marker and something behind it exactly if the text has, in either case. -/
theorem marked_lower_iff (text : String) :
    (∃ c rest, (lower text).toList = '0' :: 'x' :: c :: rest) ↔
      ∃ mark c rest, text.toList = '0' :: mark :: c :: rest ∧ mark ∈ ['x', 'X'] := by
  simp only [lower, String.toList_ofList, lowerFrom_eq_marked_iff]
  constructor
  · rintro ⟨d, others, mark, rest, isText, isMark, lowered⟩
    cases rest with
    | nil => cases lowered
    | cons c rest => exact ⟨mark, c, rest, isText, isMark⟩
  · rintro ⟨mark, c, rest, isText, isMark⟩
    have filled : lowerFrom [mark, '0'] (c :: rest) ≠ [] := lowerFrom_ne_nil (List.cons_ne_nil c rest)
    obtain ⟨d, others, lowered⟩ := List.exists_cons_of_ne_nil filled
    exact ⟨d, others, mark, c :: rest, isText, isMark, lowered⟩

theorem lower_lower (text : String) : lower (lower text) = lower text := by
  have same : lower (lower text ++ "") = lower text ++ lower "" :=
    lower_append_of_lowered (fun _ => isLowered_of_mem_lower) (by simp)
  rw [String.append_empty] at same
  rw [same]
  exact String.append_empty

end SourceAttest.Text
