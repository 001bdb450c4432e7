/-! Repeating a step until there is nothing left to do, for steps that make a size smaller. -/

namespace UpdaterLaunch

universe u

/-- Repeats a step for as long as it is possible. -/
def exhaust {σ : Type u} (step : σ → Option σ) (size : σ → Nat)
    (shrinks : ∀ s t, step s = some t → size t < size s) (s : σ) : σ :=
  match _h : step s with
  | none => s
  | some t => exhaust step size shrinks t
termination_by size s
decreasing_by exact shrinks s t _h

variable {σ : Type u} {step : σ → Option σ} {size : σ → Nat}
  {shrinks : ∀ s t, step s = some t → size t < size s}

/-- Where no step is possible, nothing happens. -/
theorem exhaust_of_none {s : σ} (h : step s = none) : exhaust step size shrinks s = s := by
  rw [exhaust]
  split
  · rfl
  · simp_all

/-- Where a step is possible, it is done first. -/
theorem exhaust_of_some {s t : σ} (h : step s = some t)
    : exhaust step size shrinks s = exhaust step size shrinks t := by
  rw [exhaust]
  split
  · simp_all
  · simp_all

/-- At the end no step is possible. -/
theorem step_exhaust (s : σ) : step (exhaust step size shrinks s) = none := by
  fun_induction exhaust step size shrinks s with
  | case1 _ h => exact h
  | case2 _ _ _ ih => exact ih

/-- What every step keeps is true at the end if it was at the start. -/
theorem exhaust_keeps {P : σ → Prop} (keeps : ∀ s t, step s = some t → P s → P t) {s : σ}
    (start : P s)
    : P (exhaust step size shrinks s) := by
  fun_induction exhaust step size shrinks s with
  | case1 => exact start
  | case2 s t h ih => exact ih (keeps s t h start)

end UpdaterLaunch
