import SolidityAtlas.Failure
import Mathlib.Data.List.Forall2

/-! Successful computations read backwards: a chain of steps succeeds exactly when each step does,
and a list of steps succeeds exactly when the results stand for the items one by one. Checked
records are read the same way, field by field. Where only success matters, or only the cause of a
failure, it is known step by step without the results.
-/

namespace SolidityAtlas

variable {α β σ : Type}

namespace Outcome

/-- A step and what follows it succeed when both do. -/
theorem bind_eq_ok_iff {first : Outcome α} {next : α → Outcome β} {result : β}
    : (first >>= next) = .ok result ↔ ∃ value, first = .ok value ∧ next value = .ok result := by
  cases first with
  | error failure => simp [bind, Except.bind]
  | ok value => simp [bind, Except.bind]

/-- Returning a value succeeds with that value. -/
theorem pure_eq_ok_iff {value result : α}
    : (pure value : Outcome α) = .ok result ↔ value = result := by
  simp [pure, Except.pure]

/-- A changed result comes from a result. -/
theorem map_eq_ok_iff {outcome : Outcome α} {change : α → β} {result : β}
    : outcome.map change = .ok result ↔ ∃ value, outcome = .ok value ∧ change value = result := by
  cases outcome with
  | error failure => simp [Except.map]
  | ok value => simp [Except.map]

/-- A result does not depend on how failures are replaced. -/
theorem mapError_eq_ok_iff {ε : Type} {result : Except ε α} {replacement : ε → Failure} {value : α}
    : result.mapError replacement = .ok value ↔ result = .ok value := by
  cases result <;> simp [Except.mapError]

/-- One of two steps, each followed by the same, is the chosen step followed by it. -/
theorem ite_bind_eq {chosen : Prop} [Decidable chosen] {first other : Outcome α}
    {next : α → Outcome β}
    : (if chosen then first >>= next else other >>= next)
      = (if chosen then first else other) >>= next := by
  split <;> rfl

/-- A step over a list succeeds with one result for every item, by induction on the list. -/
theorem mapM_eq_ok_iff {step : α → Outcome β} {items : List α} {results : List β}
    : items.mapM step = .ok results
      ↔ List.Forall₂ (fun item result => step item = .ok result) items results := by
  induction items generalizing results with
  | nil =>
      rw [List.mapM_nil, List.forall₂_nil_left_iff, pure_eq_ok_iff]
      exact eq_comm
  | cons item rest ih =>
      simp only [List.mapM_cons, bind_eq_ok_iff, pure_eq_ok_iff, ih, List.forall₂_cons_left_iff]
      constructor
      · rintro ⟨first, done, others, pairs, same⟩
        exact ⟨first, others, done, pairs, same.symm⟩
      · rintro ⟨first, others, done, pairs, same⟩
        exact ⟨first, done, others, pairs, same.symm⟩

/-- A test that answers for all items sorts them, by induction on the items. -/
theorem exists_filterM_eq_ok {test : α → Outcome Bool} {items : List α}
    (answers : ∀ item ∈ items, ∃ answer, test item = .ok answer)
    : ∃ kept, items.filterM test = .ok kept := by
  have collected (before : List α) : ∃ kept, items.filterAuxM test before = .ok kept := by
    induction items generalizing before with
    | nil => exact ⟨before, rfl⟩
    | cons item rest ih =>
        obtain ⟨answer, done⟩ := answers item List.mem_cons_self
        have later := ih (fun other member => answers other (List.mem_cons_of_mem _ member))
        obtain ⟨kept, found⟩ := later (bif answer then item :: before else before)
        refine ⟨kept, ?_⟩
        rw [List.filterAuxM, done]
        exact found
  obtain ⟨kept, found⟩ := collected []
  exact ⟨kept.reverse, by rw [List.filterM, found]; rfl⟩

/-- Whether a test passes can be decided. -/
instance decidablePasses : (outcome : Outcome Bool) → Decidable (outcome = .ok true)
  | .ok true => isTrue rfl
  | .ok false => isFalse (by simp)
  | .error _ => isFalse (by simp)

/-- A test puts the items that pass it in front of those from before, last first. Induction on the
items.
-/
theorem eq_filter_of_filterAuxM {test : α → Outcome Bool} {items before all : List α}
    (done : items.filterAuxM test before = .ok all)
    : all = (items.filter fun item => test item = .ok true).reverse ++ before := by
  induction items generalizing before with
  | nil => exact (pure_eq_ok_iff.mp done).symm
  | cons item rest ih =>
      rw [List.filterAuxM, bind_eq_ok_iff] at done
      obtain ⟨answer, known, done⟩ := done
      rw [ih done]
      cases answer <;> simp [known]

/-- The items that a test keeps are those that pass it. -/
theorem eq_filter_of_filterM {test : α → Outcome Bool} {items kept : List α}
    (done : items.filterM test = .ok kept)
    : kept = items.filter fun item => test item = .ok true := by
  rw [List.filterM, bind_eq_ok_iff] at done
  obtain ⟨all, gathered, reversed⟩ := done
  rw [← pure_eq_ok_iff.mp reversed, eq_filter_of_filterAuxM gathered]
  simp

/-- What every step of a run preserves holds after the run, by induction on the items. -/
theorem foldlM_preserves {step : σ → α → Outcome σ} (holds : σ → Prop) {items : List α}
    (preserves
      : ∀ item ∈ items, ∀ state next, step state item = .ok next → holds state → holds next)
    {state final : σ} (done : items.foldlM step state = .ok final) (start : holds state)
    : holds final := by
  induction items generalizing state with
  | nil =>
      rw [List.foldlM_nil, pure_eq_ok_iff] at done
      exact done ▸ start
  | cons item rest ih =>
      rw [List.foldlM_cons, bind_eq_ok_iff] at done
      obtain ⟨next, stepped, done⟩ := done
      have later := fun other member => preserves other (List.mem_cons_of_mem _ member)
      exact ih later done (preserves item List.mem_cons_self state next stepped start)

/-- A run whose steps append one part for every kept item, and nothing for the others, appends the
parts of the kept items in order, by induction on the items.
-/
theorem foldlM_collects {step : σ → α → Outcome σ} (view : σ → List β) (keeps : α → Bool)
    (part : α → β → Prop)
    (grows
      : ∀ state item next,
          step state item = .ok next
          → (∃ added,
              keeps item = true ∧ part item added ∧ view next = view state ++ [added])
            ∨ keeps item = false ∧ view next = view state)
    {items : List α} {state final : σ} (done : items.foldlM step state = .ok final)
    : ∃ added,
        List.Forall₂ part (items.filter keeps) added ∧ view final = view state ++ added := by
  induction items generalizing state with
  | nil =>
      rw [List.foldlM_nil, pure_eq_ok_iff] at done
      exact ⟨[], .nil, by rw [done, List.append_nil]⟩
  | cons item rest ih =>
      rw [List.foldlM_cons, bind_eq_ok_iff] at done
      obtain ⟨next, stepped, done⟩ := done
      obtain ⟨added, parts, seen⟩ := ih done
      rcases grows state item next stepped with ⟨first, keep, new, grown⟩ | ⟨skip, same⟩
      · refine ⟨first :: added, ?_, ?_⟩
        · rw [List.filter_cons_of_pos keep]
          exact .cons new parts
        · rw [seen, grown, List.append_assoc, List.singleton_append]
      · refine ⟨added, ?_, ?_⟩
        · rwa [List.filter_cons_of_neg (by simp [skip])]
        · rw [seen, same]

-----------------------------------------------------------------------------------------
-- Success
-----------------------------------------------------------------------------------------

/-- Whether a computation succeeds. -/
def Succeeds (outcome : Outcome α) : Prop :=
  ∃ value, outcome = .ok value

/-- A result succeeds. -/
theorem succeeds_ok (value : α) : Succeeds (.ok value) :=
  ⟨value, rfl⟩

/-- A failure does not succeed. -/
theorem not_succeeds_error (failure : Failure) : ¬ Succeeds (.error failure : Outcome α) := by
  rintro ⟨value, same⟩
  cases same

/-- A step and what follows it succeed when the step does and the rest does with its result. -/
theorem succeeds_bind_iff {first : Outcome α} {next : α → Outcome β}
    : Succeeds (first >>= next) ↔ ∃ value, first = .ok value ∧ Succeeds (next value) := by
  simp only [Succeeds, bind_eq_ok_iff]
  exact ⟨fun ⟨result, value, done, rest⟩ => ⟨value, done, result, rest⟩,
    fun ⟨value, done, result, rest⟩ => ⟨result, value, done, rest⟩⟩

/-- A step and what follows it succeed when both do, if the rest does whatever the result. -/
theorem succeeds_bind_iff_and {first : Outcome α} {next : α → Outcome β} {form : Prop}
    (rest : ∀ value, first = .ok value → (Succeeds (next value) ↔ form))
    : Succeeds (first >>= next) ↔ Succeeds first ∧ form := by
  rw [succeeds_bind_iff]
  constructor
  · rintro ⟨value, done, later⟩
    exact ⟨⟨value, done⟩, (rest value done).mp later⟩
  · rintro ⟨⟨value, done⟩, holds⟩
    exact ⟨value, done, (rest value done).mpr holds⟩

/-- A step and what cannot fail after it succeed when the step does. -/
theorem succeeds_bind_iff_of {first : Outcome α} {next : α → Outcome β}
    (rest : ∀ value, first = .ok value → Succeeds (next value))
    : Succeeds (first >>= next) ↔ Succeeds first := by
  rw [succeeds_bind_iff_and fun value done => iff_of_true (rest value done) trivial, and_true]

/-- A changed result succeeds when the result does. -/
theorem succeeds_map_iff {outcome : Outcome α} {change : α → β}
    : Succeeds (change <$> outcome) ↔ Succeeds outcome := by
  cases outcome <;> simp [Succeeds, Functor.map, Except.map]

/-- A step over a list gives results of a form exactly when it does for every item, by induction on
the list.
-/
theorem exists_mapM_iff {step : α → Outcome β} {items : List α} {form : β → Prop}
    : (∃ results, items.mapM step = .ok results ∧ ∀ result ∈ results, form result)
      ↔ ∀ item ∈ items, ∃ result, step item = .ok result ∧ form result := by
  simp only [mapM_eq_ok_iff]
  induction items with
  | nil => simp [List.forall₂_nil_left_iff]
  | cons item rest ih =>
      rw [List.forall_mem_cons, ← ih]
      constructor
      · rintro ⟨results, each, formed⟩
        obtain ⟨result, others, done, later, rfl⟩ := List.forall₂_cons_left_iff.mp each
        obtain ⟨first, remaining⟩ := List.forall_mem_cons.mp formed
        exact ⟨⟨result, done, first⟩, others, later, remaining⟩
      · rintro ⟨⟨result, done, first⟩, others, later, remaining⟩
        exact ⟨result :: others, .cons done later, List.forall_mem_cons.mpr ⟨first, remaining⟩⟩

/-- A step over a list succeeds exactly when it does for every item. -/
theorem succeeds_mapM_iff {step : α → Outcome β} {items : List α}
    : Succeeds (items.mapM step) ↔ ∀ item ∈ items, Succeeds (step item) := by
  have all
      : (∃ results, items.mapM step = .ok results ∧ ∀ result ∈ results, True)
        ↔ ∀ item ∈ items, ∃ result, step item = .ok result ∧ True :=
    exists_mapM_iff
  simpa [Succeeds] using all

/-- A run succeeds exactly when every item has the form that a step needs in any state, by induction
on the items.
-/
theorem succeeds_foldlM_iff {step : σ → α → Outcome σ} {form : α → Prop} {items : List α}
    (each : ∀ state, ∀ item ∈ items, (Succeeds (step state item) ↔ form item)) (state : σ)
    : Succeeds (items.foldlM step state) ↔ ∀ item ∈ items, form item := by
  induction items generalizing state with
  | nil => simp [Succeeds, pure_eq_ok_iff]
  | cons item rest ih =>
      rw [List.foldlM_cons, List.forall_mem_cons, ← each state item List.mem_cons_self]
      refine succeeds_bind_iff_and fun next _ => ?_
      exact ih (fun state other member => each state other (List.mem_cons_of_mem _ member)) next

-----------------------------------------------------------------------------------------
-- Causes of failures
-----------------------------------------------------------------------------------------

/-- A step and what follows it fail when the step does, or what follows it does with its result. -/
theorem bind_eq_error_iff {first : Outcome α} {next : α → Outcome β} {failure : Failure}
    : (first >>= next) = .error failure
      ↔ first = .error failure ∨ ∃ value, first = .ok value ∧ next value = .error failure := by
  cases first with
  | error failure => simp [bind, Except.bind]
  | ok value => simp [bind, Except.bind]

/-- A step over a list fails as it does for the first item that it fails for, by induction on the
list.
-/
theorem mapM_eq_error_iff {step : α → Outcome β} {items : List α} {failure : Failure}
    : items.mapM step = .error failure
      ↔ ∃ before item after,
          items = before ++ item :: after
          ∧ (∀ earlier ∈ before, Succeeds (step earlier))
          ∧ step item = .error failure := by
  induction items with
  | nil => simp [pure, Except.pure]
  | cons first rest ih =>
      simp only [List.mapM_cons, bind_eq_error_iff, ih]
      constructor
      · rintro (failed | ⟨value, done, later | ⟨_, _, impossible⟩⟩)
        · exact ⟨[], first, rest, rfl, by simp, failed⟩
        · obtain ⟨before, item, after, rfl, succeeded, failed⟩ := later
          refine ⟨first :: before, item, after, rfl, ?_, failed⟩
          exact List.forall_mem_cons.mpr ⟨⟨value, done⟩, succeeded⟩
        · cases impossible
      · rintro ⟨before, item, after, split, succeeded, failed⟩
        cases before with
        | nil =>
            obtain ⟨rfl, rfl⟩ := List.cons.inj split
            exact .inl failed
        | cons earlier others =>
            obtain ⟨rfl, rfl⟩ := List.cons.inj split
            obtain ⟨⟨value, done⟩, later⟩ := List.forall_mem_cons.mp succeeded
            exact .inr ⟨value, done, .inl ⟨others, item, after, rfl, later, failed⟩⟩

/-- Whether a computation fails for allowed causes only. -/
def FailsWith (allowed : Failure → Prop) (outcome : Outcome α) : Prop :=
  ∀ failure, outcome = .error failure → allowed failure

variable {allowed : Failure → Prop}

/-- A result does not fail. -/
theorem failsWith_ok (value : α) : FailsWith allowed (.ok value) := by
  intro failure failed
  cases failed

/-- A failure has its cause. -/
theorem failsWith_error {failure : Failure} (cause : allowed failure)
    : FailsWith allowed (.error failure : Outcome α) := by
  intro other same
  exact Except.error.inj same ▸ cause

/-- A step and what follows it fail for the causes of both. -/
theorem failsWith_bind {first : Outcome α} {next : α → Outcome β} (step : FailsWith allowed first)
    (rest : ∀ value, FailsWith allowed (next value))
    : FailsWith allowed (first >>= next) := by
  cases first with
  | error failure => exact failsWith_error (step failure rfl)
  | ok value => exact rest value

/-- A changed result fails for the causes of the result. -/
theorem failsWith_map {outcome : Outcome α} {change : α → β} (step : FailsWith allowed outcome)
    : FailsWith allowed (change <$> outcome) := by
  cases outcome with
  | error failure => exact failsWith_error (step failure rfl)
  | ok value => exact failsWith_ok _

/-- A replaced failure has the cause that replaces it. -/
theorem failsWith_mapError {ε : Type} {result : Except ε α} {replacement : ε → Failure}
    (cause : ∀ error, allowed (replacement error))
    : FailsWith allowed (result.mapError replacement) := by
  cases result with
  | error error => exact failsWith_error (cause error)
  | ok value => exact failsWith_ok value

/-- A step over a list fails for the causes of the step, by induction on the list. -/
theorem failsWith_mapM {step : α → Outcome β} (each : ∀ item, FailsWith allowed (step item))
    (items : List α)
    : FailsWith allowed (items.mapM step) := by
  induction items with
  | nil => exact failsWith_ok _
  | cons item rest ih =>
      rw [List.mapM_cons]
      exact failsWith_bind (each item) fun first => failsWith_bind ih fun _ => failsWith_ok _

/-- A run fails for the causes of its steps, by induction on the items. -/
theorem failsWith_foldlM {step : σ → α → Outcome σ}
    (each : ∀ state item, FailsWith allowed (step state item)) (items : List α) (state : σ)
    : FailsWith allowed (items.foldlM step state) := by
  induction items generalizing state with
  | nil => exact failsWith_ok _
  | cons item rest ih =>
      rw [List.foldlM_cons]
      exact failsWith_bind (each state item) ih

end Outcome

namespace Checked

/-- A value under a function is valid when the value is. -/
theorem map_eq_valid_iff {f : α → β} {value : Checked α} {result : β}
    : f <$> value = .valid result ↔ ∃ a, value = .valid a ∧ f a = result := by
  cases value with
  | valid value => simp [Functor.map, map]
  | faulty faults => simp [Functor.map, map]

/-- Two checks put together are valid when both are. -/
theorem seq_eq_valid_iff {f : Checked (α → β)} {value : Checked α} {result : β}
    : f <*> value = .valid result
      ↔ ∃ g a, f = .valid g ∧ value = .valid a ∧ g a = result := by
  cases f <;> cases value <;> simp [Seq.seq, apply]

/-- A value that needs no check is valid as it is. -/
theorem pure_eq_valid_iff {value result : α}
    : (pure value : Checked α) = .valid result ↔ value = result := by
  simp [pure]

/-- A record is accepted when it is valid. -/
theorem outcome_eq_ok_iff {record : RecordKind} {value : Checked α} {result : α}
    : value.outcome record = .ok result ↔ value = .valid result := by
  cases value <;> simp [outcome]

/-- Whether a value passes its check. -/
def IsValid (value : Checked α) : Prop :=
  ∃ result, value = .valid result

/-- A value under a function passes when the value does. -/
theorem isValid_map_iff {f : α → β} {value : Checked α}
    : IsValid (f <$> value) ↔ value.IsValid := by
  cases value with
  | valid value => simp [IsValid, Functor.map, map]
  | faulty faults => simp [IsValid, Functor.map, map]

/-- Two checks put together pass when both do. -/
theorem isValid_seq_iff {f : Checked (α → β)} {value : Checked α}
    : IsValid (f <*> value) ↔ f.IsValid ∧ value.IsValid := by
  cases f <;> cases value <;> simp [IsValid, Seq.seq, apply]

/-- A value that needs no check passes. -/
theorem isValid_pure (value : α) : IsValid (pure value : Checked α) :=
  ⟨value, rfl⟩

/-- A field passes when its value does. -/
theorem isValid_inside_iff {step : String} {value : Checked α}
    : IsValid (inside step value) ↔ value.IsValid := by
  cases value <;> simp [IsValid, inside]

/-- A list passes when every item does, by induction on the list. -/
theorem isValid_items_iff {check : β → Checked α} {position : Nat} {values : List β}
    : IsValid (items check position values) ↔ ∀ value ∈ values, (check value).IsValid := by
  induction values generalizing position with
  | nil => simp [IsValid, items]
  | cons value rest ih =>
      rw [items, isValid_seq_iff, isValid_map_iff, isValid_inside_iff, ih, List.forall_mem_cons]

/-- A record is made when its fields pass. -/
theorem succeeds_outcome_iff {record : RecordKind} {value : Checked α}
    : Outcome.Succeeds (value.outcome record) ↔ value.IsValid := by
  simp only [Outcome.Succeeds, IsValid, outcome_eq_ok_iff]

end Checked

end SolidityAtlas
