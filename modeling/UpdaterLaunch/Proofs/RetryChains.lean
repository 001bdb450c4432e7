import UpdaterLaunch.Proofs.DecisionRefinement
import UpdaterLaunch.Proofs.ScriptedAttempts

/-! The chain of cycles that one attempt comes to: it is put off until an answer is good or no retry
is left, and its last cycle tells the subscribers how it has ended. Who runs the cycles, and when,
does not matter here.
-/

namespace UpdaterLaunch.Coordinator

/-- The answer that the cycle after some more cycles will get, with the packages as they are. -/
def answerTo (coordinator : Coordinator) (registry : Registry) (ahead : Nat) : Bool :=
  coordinator.checker.answerAhead registry (coordinator.factory (coordinator.made + ahead)) ahead

/-- How often an attempt is put off: until the first good answer, but only as often as the budget
allows.
-/
def timesPutOff (coordinator : Coordinator) (registry : Registry) : Nat :=
  (List.range coordinator.launchesLeft).findIdx (coordinator.answerTo registry)

/-- The event that the last cycle of an attempt emits. -/
def conclusion (coordinator : Coordinator) (registry : Registry) : Event :=
  let last := coordinator.timesPutOff registry
  if coordinator.answerTo registry last then
    if coordinator.counters.updateTries < coordinator.budget.updateMax then
      .launchRequested (coordinator.factory (coordinator.made + last))
    else .failed .updateRetries
  else .failed .launchRetries

/-- The coordinator after a number of cycles. -/
def afterCycles (coordinator : Coordinator) (registry : Registry) : Nat → Coordinator
  | 0 => coordinator
  | count + 1 => ((coordinator.afterCycles registry count).cycle registry).after

variable {coordinator later : Coordinator} {registry : Registry} {count : Nat}

theorem timesPutOff_le (coordinator : Coordinator) (registry : Registry)
    : coordinator.timesPutOff registry ≤ coordinator.launchesLeft := by
  have within : coordinator.timesPutOff registry ≤ (List.range coordinator.launchesLeft).length :=
    List.findIdx_le_length
  rwa [List.length_range] at within

theorem answerTo_of_lt (early : count < coordinator.timesPutOff registry)
    : coordinator.answerTo registry count = false := by
  have bad := List.not_of_lt_findIdx early
  rwa [List.getElem_range] at bad

theorem answerTo_timesPutOff
    (left : coordinator.timesPutOff registry < coordinator.launchesLeft)
    : coordinator.answerTo registry (coordinator.timesPutOff registry) = true := by
  have inside : (List.range coordinator.launchesLeft).findIdx (coordinator.answerTo registry)
      < (List.range coordinator.launchesLeft).length := by
    rwa [List.length_range]
  have good := List.findIdx_getElem (w := inside)
  rwa [List.getElem_range] at good

/-- A coordinator that has put a launch off some times has spent as many retries, made as many
targets and heard as many answers; all else is as it was.
-/
structure PutOff (coordinator : Coordinator) (registry : Registry) (count : Nat)
    (later : Coordinator) : Prop where
  same
    : later
      = { coordinator with
          counters :=
            { coordinator.counters with launchTries := later.counters.launchTries }
          checker := later.checker
          made := coordinator.made + count }
  spent
    : later.counters.launchTries.toNat = coordinator.counters.launchTries.toNat + count
  answers
    : ∀ target ahead,
        later.checker.answerAhead registry target ahead
        = coordinator.checker.answerAhead registry target (count + ahead)

namespace PutOff

theorem refl (coordinator : Coordinator) (registry : Registry)
    : coordinator.PutOff registry 0 coordinator :=
  ⟨rfl, rfl, fun _ _ => by rw [Nat.zero_add]⟩

/-- The next cycle hears the answer that was ahead. -/
theorem answer (putOff : coordinator.PutOff registry count later)
    : later.checker.answer registry later.target = coordinator.answerTo registry count := by
  have target : later.target = coordinator.factory (coordinator.made + count) := by
    rw [putOff.same]
    rfl
  rw [target, ← Checker.answerAhead_zero, putOff.answers]
  rfl

theorem decides (putOff : coordinator.PutOff registry count later)
    : coordinator.budget.decide later.counters (coordinator.answerTo registry count)
      = ((later.cycle registry).after.counters, (later.cycle registry).decision) := by
  have performs := later.performs_cycle registry
  have answer : (later.cycle registry).launchable = coordinator.answerTo registry count := by
    rw [performs.answer, performs.target, ← putOff.answer]
    rfl
  have budget : later.budget = coordinator.budget := by rw [putOff.same]
  rw [← answer, ← budget]
  exact performs.decides

/-- While the answers are bad and retries are left, the next cycle puts the launch off once more. -/
theorem again (putOff : coordinator.PutOff registry count later)
    (early : count < coordinator.timesPutOff registry)
    : (later.cycle registry).decision = .reschedule coordinator.budget.delay
      ∧ coordinator.PutOff registry (count + 1) (later.cycle registry).after := by
  have bad := answerTo_of_lt early
  have left : later.counters.launchTries < coordinator.budget.launchMax := by
    have within := coordinator.timesPutOff_le registry
    have spent := putOff.spent
    rw [UInt32.lt_iff_toNat_lt]
    unfold launchesLeft Budget.launchesLeft at within
    omega
  have decides := putOff.decides
  rw [bad] at decides
  simp only [Budget.decide, Bool.false_eq_true, ↓reduceIte, left] at decides
  obtain ⟨counters, decision⟩ := Prod.mk.inj decides
  have after := (later.performs_cycle registry).after
  rw [Cycle.event?, ← decision] at after
  refine ⟨decision.symm, ?_, ?_, ?_⟩
  · rw [after, ← counters, putOff.same]
    rfl
  · rw [← counters, Budget.toNat_succ_of_lt left, putOff.spent]
    rfl
  · intro target ahead
    rw [after]
    simp only [Checker.answerAhead_next, putOff.answers]
    congr 1
    omega

end PutOff

/-- Until its last cycle an attempt is put off each time, by induction on the cycles. -/
theorem putOff_afterCycles (within : count ≤ coordinator.timesPutOff registry)
    : coordinator.PutOff registry count (coordinator.afterCycles registry count) := by
  induction count with
  | zero => exact .refl coordinator registry
  | succ count ih => exact ((ih (Nat.le_of_succ_le within)).again within).2

/-- The last cycle does not put the launch off, and its event is the conclusion of the attempt: by
the answer, which is bad only if no retry is left, and then by whether an update is left.
-/
theorem cycle_last (coordinator : Coordinator) (registry : Registry)
    : let last := coordinator.timesPutOff registry
      let cycle := (coordinator.afterCycles registry last).cycle registry
      (∀ delay, cycle.decision ≠ .reschedule delay)
      ∧ cycle.event? = some (coordinator.conclusion registry)
      ∧ cycle.after.counters.launchTries.toNat
        = coordinator.counters.launchTries.toNat + last := by
  intro last cycle
  have putOff : coordinator.PutOff registry last (coordinator.afterCycles registry last) :=
    putOff_afterCycles (Nat.le_refl last)
  have target : cycle.target = coordinator.factory (coordinator.made + last) := by
    have own : cycle.target = (coordinator.afterCycles registry last).target :=
      ((coordinator.afterCycles registry last).performs_cycle registry).target
    rw [own, putOff.same]
    rfl
  have updates : (coordinator.afterCycles registry last).counters.updateTries
      = coordinator.counters.updateTries := by
    rw [putOff.same]
  have decides := putOff.decides
  unfold Budget.decide at decides
  unfold conclusion Cycle.event?
  rw [target]
  cases answer : coordinator.answerTo registry last with
  | true =>
      simp only [answer, ↓reduceIte, updates] at decides
      by_cases left : coordinator.counters.updateTries < coordinator.budget.updateMax
      · simp only [left, ↓reduceIte] at decides
        obtain ⟨counters, decision⟩ := Prod.mk.inj decides
        rw [← counters, ← decision]
        simp [last, answer, left, putOff.spent]
      · simp only [left, ↓reduceIte] at decides
        obtain ⟨counters, decision⟩ := Prod.mk.inj decides
        rw [← counters, ← decision]
        simp [last, answer, left, putOff.spent]
  | false =>
      have spent : ¬ (coordinator.afterCycles registry last).counters.launchTries
          < coordinator.budget.launchMax := by
        have none : last = coordinator.launchesLeft := by
          apply Nat.le_antisymm (coordinator.timesPutOff_le registry)
          apply Nat.le_of_not_lt
          intro left
          simp [last, answerTo_timesPutOff left] at answer
        have spent := putOff.spent
        rw [UInt32.lt_iff_toNat_lt]
        unfold launchesLeft Budget.launchesLeft at none
        omega
      simp only [answer, Bool.false_eq_true, ↓reduceIte, spent] at decides
      obtain ⟨counters, decision⟩ := Prod.mk.inj decides
      rw [← counters, ← decision]
      simp [last, answer, putOff.spent]

/-- What an attempt has come to after its last cycle: one more target than launches put off, as many
answers heard, and one event; all else is as it was.
-/
structure Concluded (coordinator : Coordinator) (registry : Registry) (after : Coordinator)
    : Prop where
  same
    : after
      = { coordinator with
          counters := after.counters
          checker := after.checker
          made := coordinator.made + (coordinator.timesPutOff registry + 1)
          hub := coordinator.hub.emit (coordinator.conclusion registry) }
  retries
    : after.counters.launchTries.toNat
      = coordinator.counters.launchTries.toNat + coordinator.timesPutOff registry
  updates
    : after.counters.updateTries.toNat
      = coordinator.counters.updateTries.toNat
        + if (coordinator.conclusion registry).asksToLaunch then 1 else 0
  answers
    : ∀ target ahead,
        after.checker.answerAhead registry target ahead
        = coordinator.checker.answerAhead registry target
            (coordinator.timesPutOff registry + 1 + ahead)

theorem concluded_afterCycles (coordinator : Coordinator) (registry : Registry)
    : coordinator.Concluded registry
        (coordinator.afterCycles registry (coordinator.timesPutOff registry + 1)) := by
  have putOff : coordinator.PutOff registry (coordinator.timesPutOff registry) _ :=
    putOff_afterCycles (Nat.le_refl _)
  obtain ⟨settled, event, retries⟩ := cycle_last coordinator registry
  have decides := putOff.decides
  rw [afterCycles]
  generalize coordinator.afterCycles registry (coordinator.timesPutOff registry) = later at *
  have after := (later.performs_cycle registry).after
  rw [event] at after
  refine ⟨?_, retries, ?_, ?_⟩
  · rw [after, putOff.same]
    rfl
  · have asks : (later.cycle registry).decision = .launch
        ↔ (coordinator.conclusion registry).asksToLaunch = true := by
      unfold Cycle.event? at event
      cases decision : (later.cycle registry).decision with
      | launch =>
          rw [decision] at event
          simp [← Option.some.inj event, Event.asksToLaunch]
      | reschedule delay => exact absurd decision (settled delay)
      | fail reason =>
          rw [decision] at event
          simp [← Option.some.inj event, Event.asksToLaunch]
    have updates : later.counters.updateTries = coordinator.counters.updateTries := by
      rw [putOff.same]
    rw [(Budget.decide_counts decides).1, updates]
    simp only [asks]
  · intro target ahead
    rw [after]
    simp only [Checker.answerAhead_next, putOff.answers]
    congr 1
    omega

/-- A coordinator keeps its scheduler and its life from cycle to cycle. -/
theorem afterCycles_fixed (coordinator : Coordinator) (registry : Registry) (count : Nat)
    : (coordinator.afterCycles registry count).alive = coordinator.alive
      ∧ (coordinator.afterCycles registry count).scheduler = coordinator.scheduler := by
  induction count with
  | zero => exact ⟨rfl, rfl⟩
  | succ count ih =>
      obtain ⟨alive, scheduler⟩ := World.cycle_after_fixed
        (coordinator.afterCycles registry count) registry
      exact ⟨alive.trans ih.1, scheduler.trans ih.2⟩

/-- Cycles that run one after the other come to the last one. -/
theorem runThrough_afterCycles (within : count ≤ coordinator.timesPutOff registry)
    : ((coordinator.afterCycles registry count).runThrough registry).2
      = coordinator.afterCycles registry (coordinator.timesPutOff registry + 1) := by
  generalize remains : coordinator.timesPutOff registry - count = rest
  induction rest generalizing count with
  | zero =>
      obtain rfl : count = coordinator.timesPutOff registry := by omega
      obtain ⟨settled, -, -⟩ := cycle_last coordinator registry
      rw [World.runThrough_of_settled settled]
      rfl
  | succ rest ih =>
      have early : count < coordinator.timesPutOff registry := by omega
      obtain ⟨put, -⟩ := (putOff_afterCycles within).again early
      rw [World.runThrough_of_reschedule put]
      exact ih (Nat.succ_le_of_lt early) (by omega)

end UpdaterLaunch.Coordinator
