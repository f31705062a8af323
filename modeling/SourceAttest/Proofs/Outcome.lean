/-!
# Outcomes

An outcome is a value or says why there is none. One that is put together from steps is taken apart
step by step.
-/
namespace SourceAttest.Outcome

variable {ε δ α β : Type}

theorem bind_eq_ok {value : Except ε α} {next : α → Except ε β} {result : β} :
    value >>= next = .ok result ↔ ∃ reached, value = .ok reached ∧ next reached = .ok result := by
  cases value with
  | error why =>
    constructor
    · intro returned
      cases returned
    · rintro ⟨_, returned, _⟩
      cases returned
  | ok reached =>
    constructor
    · exact fun returned => ⟨reached, rfl, returned⟩
    · rintro ⟨_, ⟨⟩, returned⟩
      exact returned

theorem bind_eq_error {value : Except ε α} {next : α → Except ε β} {why : ε}
    (failed : value >>= next = .error why) :
    value = .error why ∨ ∃ reached, value = .ok reached ∧ next reached = .error why := by
  cases value with
  | error other =>
    cases failed
    exact .inl rfl
  | ok reached => exact .inr ⟨reached, rfl, failed⟩

theorem map_eq_ok {f : α → β} {value : Except ε α} {result : β} :
    value.map f = .ok result ↔ ∃ reached, value = .ok reached ∧ f reached = result := by
  cases value with
  | error why =>
    constructor
    · intro returned
      cases returned
    · rintro ⟨_, returned, _⟩
      cases returned
  | ok reached =>
    constructor
    · intro returned
      cases returned
      exact ⟨reached, rfl, rfl⟩
    · rintro ⟨_, ⟨⟩, rfl⟩
      rfl

theorem mapError_eq_ok {f : ε → δ} {value : Except ε α} {result : α} :
    value.mapError f = .ok result ↔ value = .ok result := by
  cases value with
  | error why =>
    constructor
    · intro returned
      cases returned
    · intro returned
      cases returned
  | ok reached =>
    constructor
    · intro returned
      cases returned
      rfl
    · intro returned
      cases returned
      rfl

/-- An outcome is known by its value alone. -/
theorem eq_ok_of_toOption {value : Except ε α} {result : α}
    (returned : value.toOption = some result) : value = .ok result := by
  cases value with
  | error why => cases returned
  | ok reached =>
    cases returned
    rfl

/-! ### Lists -/

/-- A list is mapped if and only if each of its items is. -/
theorem mapM_eq_ok_iff {f : α → Except ε β} {g : α → Option β}
    (same : ∀ item result, f item = .ok result ↔ g item = some result) {items : List α}
    {results : List β} : items.mapM f = .ok results ↔ items.map g = results.map some := by
  induction items generalizing results with
  | nil =>
    cases results with
    | nil => exact ⟨fun _ => rfl, fun _ => rfl⟩
    | cons result rest => exact ⟨by rintro ⟨⟩, by rintro ⟨⟩⟩
  | cons item rest ih =>
    rw [List.mapM_cons, bind_eq_ok, List.map_cons]
    constructor
    · rintro ⟨first, mapped, returned⟩
      obtain ⟨others, mapped', returned⟩ := bind_eq_ok.mp returned
      cases returned
      rw [(same item first).mp mapped, ih.mp mapped', List.map_cons]
    · intro mapped
      cases results with
      | nil => cases mapped
      | cons first others =>
        obtain ⟨head, tail⟩ := List.cons.inj mapped
        exact ⟨first, (same item first).mpr head, bind_eq_ok.mpr ⟨others, ih.mpr tail, rfl⟩⟩

theorem filterAuxM_eq_ok_iff {p : α → Except ε Bool} {keeps : α → Bool}
    (tells : ∀ item answer, p item = .ok answer → answer = keeps item) {items before kept : List α} :
    items.filterAuxM p before = .ok kept ↔
      (∀ item ∈ items, p item = .ok (keeps item)) ∧ kept = (items.filter keeps).reverse ++ before := by
  induction items generalizing before with
  | nil =>
    constructor
    · rintro ⟨⟩
      exact ⟨List.forall_mem_nil _, rfl⟩
    · rintro ⟨-, rfl⟩
      rfl
  | cons item rest ih =>
    change (p item >>= fun answer => rest.filterAuxM p (cond answer (item :: before) before))
      = Except.ok kept ↔ _
    rw [bind_eq_ok, List.forall_mem_cons]
    constructor
    · rintro ⟨answer, told, returned⟩
      cases tells item answer told
      obtain ⟨others, rfl⟩ := ih.mp returned
      refine ⟨⟨told, others⟩, ?_⟩
      cases keep : keeps item <;> simp [keep]
    · rintro ⟨⟨told, others⟩, rfl⟩
      refine ⟨keeps item, told, ih.mpr ⟨others, ?_⟩⟩
      cases keep : keeps item <;> simp [keep]

/-- A list is filtered if and only if each of its items is told of. -/
theorem filterM_eq_ok_iff {p : α → Except ε Bool} {keeps : α → Bool}
    (tells : ∀ item answer, p item = .ok answer → answer = keeps item) {items kept : List α} :
    items.filterM p = .ok kept ↔
      (∀ item ∈ items, p item = .ok (keeps item)) ∧ kept = items.filter keeps := by
  change (items.filterAuxM p [] >>= fun reversed => pure reversed.reverse) = Except.ok kept ↔ _
  rw [bind_eq_ok]
  constructor
  · rintro ⟨reversed, filtered, returned⟩
    obtain ⟨told, rfl⟩ := (filterAuxM_eq_ok_iff tells).mp filtered
    cases returned
    exact ⟨told, by simp⟩
  · rintro ⟨told, rfl⟩
    exact ⟨_, (filterAuxM_eq_ok_iff tells).mpr ⟨told, rfl⟩, congrArg Except.ok (by simp)⟩

/-- Either all items of a list pass, or one of them is the first that does not. -/
theorem all_or_first (passes : α → Prop) (items : List α) :
    (∀ item ∈ items, passes item) ∨
      ∃ before item after, items = before ++ item :: after ∧
        (∀ other ∈ before, passes other) ∧ ¬ passes item := by
  induction items with
  | nil => exact .inl (List.forall_mem_nil _)
  | cons first rest ih =>
    by_cases here : passes first
    · rcases ih with all | ⟨before, item, after, rfl, passed, fails⟩
      · exact .inl (List.forall_mem_cons.mpr ⟨here, all⟩)
      · exact .inr ⟨first :: before, item, after, rfl, List.forall_mem_cons.mpr ⟨here, passed⟩, fails⟩
    · exact .inr ⟨[], first, rest, rfl, List.forall_mem_nil _, here⟩

/-! ### Sorts of cases -/

/-- If every case is a success, a refusal or of a third sort, and the three have different outcomes,
then the outcome tells the case. -/
theorem iff_of_cases {ρ κ : Type} {outcome : Except ε α} {refusal : ρ → ε} {kind : ε → κ}
    {succeeds : α → Prop} {refuses : ρ → Prop} {strays : κ → Prop}
    (apart : ∀ why other, refusal why = refusal other → why = other)
    (cases : (∃ value, succeeds value) ∨ (∃ why, refuses why) ∨ ∃ sort, strays sort)
    (returns : ∀ value, succeeds value → outcome = .ok value)
    (fails : ∀ why, refuses why → outcome = .error (refusal why))
    (ends : ∀ sort, strays sort →
      ∃ fault, outcome = .error fault ∧ kind fault = sort ∧ ∀ why, fault ≠ refusal why) :
    (∀ value, outcome = .ok value ↔ succeeds value) ∧
    (∀ why, outcome = .error (refusal why) ↔ refuses why) ∧
    ∀ sort, (∃ fault, outcome = .error fault ∧ kind fault = sort ∧ ∀ why, fault ≠ refusal why) ↔
      strays sort := by
  -- Each way back rules out the two other sorts of cases, which would have ended otherwise.
  refine ⟨fun value => ⟨fun returned => ?_, returns value⟩,
    fun why => ⟨fun refused => ?_, fails why⟩, fun sort => ⟨?_, ends sort⟩⟩
  · rcases cases with ⟨reached, succeeded⟩ | ⟨other, refused⟩ | ⟨sort, strayed⟩
    · cases (returns reached succeeded).symm.trans returned
      exact succeeded
    · cases (fails other refused).symm.trans returned
    · obtain ⟨fault, failed, -⟩ := ends sort strayed
      cases failed.symm.trans returned
  · rcases cases with ⟨reached, succeeded⟩ | ⟨other, refuses'⟩ | ⟨sort, strayed⟩
    · cases (returns reached succeeded).symm.trans refused
    · have same := Except.error.inj ((fails other refuses').symm.trans refused)
      rwa [← apart other why same]
    · obtain ⟨fault, failed, -, other⟩ := ends sort strayed
      exact absurd (Except.error.inj (failed.symm.trans refused)) (other why)
  · rintro ⟨fault, failed, isKind, other⟩
    rcases cases with ⟨reached, succeeded⟩ | ⟨why, refused⟩ | ⟨sort', strayed⟩
    · cases (returns reached succeeded).symm.trans failed
    · exact absurd (Except.error.inj ((fails why refused).symm.trans failed)).symm (other why)
    · obtain ⟨fault', failed', isKind', -⟩ := ends sort' strayed
      cases Except.error.inj (failed'.symm.trans failed)
      rwa [← isKind, isKind']

end SourceAttest.Outcome
