import UpdaterLaunch.Session

/-! A simple loop that says what the caller of a session is to do: read the next answer, launch or
wait or give up, hear how the launch went, and go on. It keeps no queue and no timer; time passes
only where it waits.
-/

namespace UpdaterLaunch

/-- What a sequential loop is given: its budget, the target and the answer of each round, and what
the updater reports on each launch.
-/
structure Script where
  budget : Budget
  target : Nat → Target
  answer : Nat → Bool
  verdict : Nat → Verdict

/-- What a caller has heard, each with the time on the clock. -/
abbrev Heard := List (Session.Next × Nat)

namespace Script

/-- The time after waiting once. A wait is one sleep of the clock: the delay in whole milliseconds,
rounded up, but thirty years at most.
-/
def waited (script : Script) (now : Nat) : Nat :=
  now + min script.budget.delay.ticks Agenda.longestSleep

/-- What the loop tells to do from a time on, after some launches and retries: every round reads one
answer.
-/
def actions (script : Script) (launches retries now : Nat) : Heard :=
  if script.answer (launches + retries) then
    if launches < script.budget.updateMax.toNat then
      (.launchUpdater (script.target (launches + retries)), now) ::
        if script.verdict launches = .ok then [(.finish .updated, now)]
        else script.actions (launches + 1) retries now
    else [(.finish .cancelled, now)]
  else if retries < script.budget.launchMax.toNat then
    script.actions launches (retries + 1) (script.waited now)
  else [(.finish .cancelled, now)]
termination_by script.budget.updateMax.toNat - launches
  + (script.budget.launchMax.toNat - retries)

/-- What the loop tells to do after a launch that has not been reported on yet. -/
def reporting (script : Script) (launches retries now : Nat) : Heard :=
  if script.verdict launches = .ok then [(.finish .updated, now)]
  else script.actions (launches + 1) retries now

variable {script : Script} {launches retries : Nat}

/-- On a good answer within the budget the loop launches. -/
theorem actions_of_launch (good : script.answer (launches + retries) = true)
    (within : launches < script.budget.updateMax.toNat) (now : Nat)
    : script.actions launches retries now
      = (.launchUpdater (script.target (launches + retries)), now)
        :: script.reporting launches retries now := by
  rw [actions, if_pos good, if_pos within]
  rfl

/-- On a bad answer within the budget the loop waits. -/
theorem actions_of_wait (bad : script.answer (launches + retries) = false)
    (within : retries < script.budget.launchMax.toNat) (now : Nat)
    : script.actions launches retries now
      = script.actions launches (retries + 1) (script.waited now) := by
  rw [actions, if_neg (by simp [bad]), if_pos within]

/-- Where the budget for an answer is spent, the loop gives up. -/
theorem actions_of_spent
    (spent
      : if script.answer (launches + retries) then script.budget.updateMax.toNat ≤ launches
        else script.budget.launchMax.toNat ≤ retries)
    (now : Nat)
    : script.actions launches retries now = [(.finish .cancelled, now)] := by
  rw [actions]
  split
  · rename_i good
    rw [if_pos good] at spent
    rw [if_neg (Nat.not_lt.mpr spent)]
  · rename_i bad
    rw [if_neg bad] at spent
    rw [if_neg (Nat.not_lt.mpr spent)]

/-- Launches, and then one end. -/
inductive Concludes : Heard → Prop
  | last {outcome : Outcome} {time : Nat} : Concludes [(.finish outcome, time)]
  | cons {target : Target} {time : Nat} {rest : Heard} (later : Concludes rest)
    : Concludes ((.launchUpdater target, time) :: rest)

/-- The loop tells to launch a number of times and then to finish, and nothing after that. Launches
are no more than the budget has left. By induction on the rounds.
-/
theorem concludes_actions (script : Script) (launches retries now : Nat)
    : Concludes (script.actions launches retries now)
      ∧ (script.actions launches retries now).length
        ≤ script.budget.updateMax.toNat - launches + 1 := by
  fun_induction actions script launches retries now with
  | case1 launches retries now good within ih =>
      by_cases ok : script.verdict launches = .ok
      · rw [if_pos ok]
        exact ⟨.cons .last, by simp only [List.length_cons, List.length_nil]; omega⟩
      · rw [if_neg ok]
        obtain ⟨concludes, short⟩ := ih
        exact ⟨.cons concludes, by simp only [List.length_cons]; omega⟩
  | case2 => exact ⟨.last, by simp⟩
  | case3 launches retries now bad within ih => exact ih
  | case4 => exact ⟨.last, by simp⟩

end Script

end UpdaterLaunch
