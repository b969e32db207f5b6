/-!
# Steps that may fail

What one step after another has led to, none of them having failed.
-/

namespace LineEcho

variable {ε α β : Type}

theorem of_bind_eq_ok {first : Except ε α} {next : α → Except ε β} {result : β}
    (success : (first >>= next) = .ok result) :
    ∃ value, first = .ok value ∧ next value = .ok result := by
  cases first with
  | error failure => contradiction
  | ok value => exact ⟨value, rfl, success⟩

/-- Steps succeed one after another when the first of them lead to where the others go on. -/
theorem foldlM_append_eq_ok_iff {step : α → β → Except ε α} {front back : List β}
    {first last : α} :
    (front ++ back).foldlM step first = .ok last ↔
      ∃ middle, front.foldlM step first = .ok middle ∧ back.foldlM step middle = .ok last := by
  rw [List.foldlM_append]
  constructor
  · exact of_bind_eq_ok
  · rintro ⟨middle, reached, goes⟩
    rw [reached]
    exact goes

theorem foldlM_singleton_eq (step : α → β → Except ε α) (given : β) (first : α) :
    [given].foldlM step first = step first given := by
  rw [List.foldlM_cons]
  cases step first given <;> rfl

theorem of_map_eq_ok {first : Except ε α} {give : α → β} {result : β}
    (success : first.map give = .ok result) : ∃ value, first = .ok value ∧ give value = result := by
  cases first with
  | error failure => contradiction
  | ok value => exact ⟨value, rfl, Except.ok.inj success⟩

/-- What every step keeps is kept by all of them. -/
theorem holds_of_foldlM (holds : α → Prop) {step : α → β → Except ε α} {steps : List β}
    (keeps : ∀ given ∈ steps, ∀ before after, holds before → step before given = .ok after →
      holds after)
    {first last : α} (kept : holds first) (done : steps.foldlM step first = .ok last) :
    holds last := by
  induction steps generalizing first with
  | nil =>
    cases done
    exact kept
  | cons given others ih =>
    obtain ⟨keepsFirst, keepsOthers⟩ := List.forall_mem_cons.1 keeps
    rw [List.foldlM_cons] at done
    obtain ⟨next, succeeds, done⟩ := of_bind_eq_ok done
    exact ih keepsOthers (keepsFirst first next kept succeeds) done

end LineEcho
