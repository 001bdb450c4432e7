import UpdaterLaunch.Span

/-! One decision cycle: launch now, try again after a while, or give up. Launches and retries have
a budget each. A cycle spends at most one unit, of the budget that its answer calls for, and the
other budget is left alone.
-/

namespace UpdaterLaunch

/-- How often a launch may be put off, how often the updater may be launched, and the wait
before trying again.
-/
structure Budget where
  launchMax : UInt32
  updateMax : UInt32
  delay : Span
deriving DecidableEq

/-- What has been spent: launches of the updater, and launches put off. -/
structure Counters where
  updateTries : UInt32 := 0
  launchTries : UInt32 := 0
deriving DecidableEq, Inhabited

/-- Which budget was empty when it was needed. -/
inductive Failure
  | launchRetries
  | updateRetries
deriving DecidableEq

namespace Failure

/-- The name of a failure in written form. -/
def name : Failure → String
  | .launchRetries => "ExceededLaunchRetries"
  | .updateRetries => "ExceededUpdateRetries"

/-- The failure of a given name. -/
def ofName? (name : String) : Option Failure :=
  if name = launchRetries.name then some .launchRetries
  else if name = updateRetries.name then some .updateRetries
  else none

/-- The text shown for a failure. -/
def text : Failure → String
  | .launchRetries => "exceeded maximum number of updater launch retries"
  | .updateRetries => "exceeded maximum number of update retries"

end Failure

/-- What a cycle decides. -/
inductive Decision
  | launch
  | reschedule (delay : Span)
  | fail (reason : Failure)
deriving DecidableEq

namespace Budget

/-- The budget with a delay in milliseconds. -/
def ofMillis (launchMax updateMax : UInt32) (delay : UInt64) : Budget :=
  ⟨launchMax, updateMax, .ofMillis delay⟩

/-- Decides one cycle from what has been spent and from whether a launch is possible now. -/
def decide (budget : Budget) (spent : Counters) (launchable : Bool) : Counters × Decision :=
  if launchable then
    if spent.updateTries < budget.updateMax then
      ({ spent with updateTries := spent.updateTries + 1 }, .launch)
    else (spent, .fail .updateRetries)
  else
    if spent.launchTries < budget.launchMax then
      ({ spent with launchTries := spent.launchTries + 1 }, .reschedule budget.delay)
    else (spent, .fail .launchRetries)

/-- Decides a cycle for each answer in turn; every step shows its decision and what has been
spent by then.
-/
def decideAll (budget : Budget) (spent : Counters) : List Bool → List (Decision × Counters)
  | [] => []
  | launchable :: rest =>
      let (after, decision) := budget.decide spent launchable
      (decision, after) :: budget.decideAll after rest

-----------------------------------------------------------------------------------------
-- What is left of a budget
-----------------------------------------------------------------------------------------

/-- How often a launch may still be put off. -/
def launchesLeft (budget : Budget) (spent : Counters) : Nat :=
  budget.launchMax.toNat - spent.launchTries.toNat

/-- How often the updater may still be launched. -/
def updatesLeft (budget : Budget) (spent : Counters) : Nat :=
  budget.updateMax.toNat - spent.updateTries.toNat

/-- Below another number, a 32-bit number has a successor. -/
theorem toNat_succ_of_lt {a b : UInt32} (h : a < b) : (a + 1).toNat = a.toNat + 1 := by
  have hlt := UInt32.lt_iff_toNat_lt.mp h
  have hb := b.toNat_lt
  rw [UInt32.toNat_add, UInt32.toNat_one]
  exact Nat.mod_eq_of_lt (by omega)

/-- Putting a launch off spends one retry and nothing else. -/
theorem launchesLeft_of_reschedule {budget : Budget} {spent after : Counters} {launchable : Bool}
    {delay : Span} (h : budget.decide spent launchable = (after, .reschedule delay))
    : budget.launchesLeft after + 1 = budget.launchesLeft spent
      ∧ budget.updatesLeft after = budget.updatesLeft spent := by
  unfold decide at h
  split at h
  · split at h <;> simp at h
  · split at h
    · rename_i lt
      obtain ⟨rfl, -⟩ := Prod.mk.inj h
      have := toNat_succ_of_lt lt
      have := UInt32.lt_iff_toNat_lt.mp lt
      simp only [launchesLeft, updatesLeft, and_true]
      omega
    · simp at h

/-- A launch spends one update and nothing else. -/
theorem updatesLeft_of_launch {budget : Budget} {spent after : Counters} {launchable : Bool}
    (h : budget.decide spent launchable = (after, .launch))
    : budget.updatesLeft after + 1 = budget.updatesLeft spent
      ∧ budget.launchesLeft after = budget.launchesLeft spent := by
  unfold decide at h
  split at h
  · split at h
    · rename_i lt
      obtain ⟨rfl, -⟩ := Prod.mk.inj h
      have := toNat_succ_of_lt lt
      have := UInt32.lt_iff_toNat_lt.mp lt
      simp only [launchesLeft, updatesLeft, and_true]
      omega
    · simp at h
  · split at h <;> simp at h

/-- Giving up spends nothing. -/
theorem decide_fail {budget : Budget} {spent after : Counters} {launchable : Bool}
    {reason : Failure} (h : budget.decide spent launchable = (after, .fail reason))
    : after = spent := by
  unfold decide at h
  split at h <;> split at h <;> simp_all

end Budget

end UpdaterLaunch
