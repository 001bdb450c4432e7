import UpdaterLaunch.Exhaust
import UpdaterLaunch.Total

/-! The trail of a repeated step: the states that it passes before it rests. What the steps bring
about, be it counted or listed, is brought about along the trail.
-/

namespace UpdaterLaunch

universe u

variable {σ : Type u} {step : σ → Option σ} {size : σ → Nat}
  {shrinks : ∀ s t, step s = some t → size t < size s}

/-- The states in which a repeated step was possible, in order. -/
def trail (step : σ → Option σ) (size : σ → Nat)
    (shrinks : ∀ s t, step s = some t → size t < size s) (s : σ) : List σ :=
  match _h : step s with
  | none => []
  | some t => s :: trail step size shrinks t
termination_by size s
decreasing_by exact shrinks s t _h

/-- What holds of staying, and of a step with its weight if it holds of the rest, holds of the
repetition with the weight of its trail. By induction on the repetition.
-/
theorem exhaust_tallies {P : σ → Nat → σ → Prop} {Q : σ → Prop} (weigh : σ → Nat)
    (keeps : ∀ s t, step s = some t → Q s → Q t)
    (stays : ∀ s, Q s → P s 0 s)
    (goes : ∀ s t u weight, step s = some t → Q s → P t weight u → P s (weigh s + weight) u)
    {s : σ} (start : Q s)
    : P s (total weigh (trail step size shrinks s)) (exhaust step size shrinks s) := by
  fun_induction exhaust step size shrinks s with
  | case1 s stuck =>
      rw [trail]
      split
      · exact stays s start
      · simp_all
  | case2 s t possible ih =>
      rw [trail]
      split
      · simp_all
      · rename_i next also
        obtain rfl := Option.some.inj (possible.symm.trans also)
        exact goes s t _ _ possible start (ih (keeps s t possible start))

/-- What is true with a list at first, and with a longer one after each step, is true at the end
with the list that the trail brings about, by induction on the repetition.
-/
theorem exhaust_collects {α : Type u} {P : List α → σ → Prop} (collect : σ → List α)
    (goes : ∀ s t found, step s = some t → P found s → P (found ++ collect s) t)
    {s : σ} {found : List α} (start : P found s)
    : P (found ++ (trail step size shrinks s).flatMap collect) (exhaust step size shrinks s) := by
  fun_induction exhaust step size shrinks s generalizing found with
  | case1 s stuck =>
      rw [trail]
      split
      · simpa using start
      · simp_all
  | case2 s t possible ih =>
      rw [trail]
      split
      · simp_all
      · rename_i next also
        obtain rfl := Option.some.inj (possible.symm.trans also)
        have rest := ih (goes s t found possible start)
        simpa using rest

end UpdaterLaunch
