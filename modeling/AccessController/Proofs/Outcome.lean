/-!
# Outcomes that may be errors

Steps that may go wrong, one after the other: the first error is the outcome of all of them,
and a success is one of each step.
-/

namespace AccessController

variable {ε α β : Type} {action : Except ε α}

theorem bind_eq_ok_iff {next : α → Except ε β} {result : β} :
    (action >>= next) = .ok result ↔ ∃ value, action = .ok value ∧ next value = .ok result := by
  cases action with
  | error error =>
    refine iff_of_false nofun ?_
    rintro ⟨_, found, -⟩
    cases found
  | ok value =>
    constructor
    · exact fun found => ⟨value, rfl, found⟩
    · rintro ⟨_, same, found⟩
      cases same
      exact found

theorem map_eq_ok_iff {image : α → β} {result : β} :
    action.map image = .ok result ↔ ∃ value, action = .ok value ∧ image value = result := by
  have as_bind : action.map image = action >>= fun value => .ok (image value) := by
    cases action <;> rfl
  simp only [as_bind, bind_eq_ok_iff, Except.ok.injEq]

theorem map_eq_error_iff {image : α → β} {error : ε} :
    action.map image = .error error ↔ action = .error error := by
  cases action with
  | error other => simp only [Except.map, Except.error.injEq]
  | ok value => exact iff_of_false nofun nofun

section Runs

variable {step : β → α → Except ε β} {start final : β}

theorem foldlM_cons_eq_ok_iff {item : α} {later : List α} :
    (item :: later).foldlM step start = .ok final ↔
      ∃ between, step start item = .ok between ∧ later.foldlM step between = .ok final := by
  rw [List.foldlM_cons, bind_eq_ok_iff]

/-- What every step that succeeds keeps holds behind a run that succeeds. -/
theorem foldlM_keeps {holds : β → Prop}
    (keeps : ∀ {before after item}, step before item = .ok after → holds before → holds after)
    {items : List α} (ran : items.foldlM step start = .ok final) (initially : holds start) :
    holds final := by
  induction items generalizing start with
  | nil =>
    cases ran
    exact initially
  | cons item later ih =>
    obtain ⟨between, stepped, rest⟩ := foldlM_cons_eq_ok_iff.1 ran
    exact ih rest (keeps stepped initially)

end Runs

end AccessController
