import UpdaterLaunch.Hub
import UpdaterLaunch.Registry

/-! A coordinator couples decisions with what follows from them. In a decision cycle it makes a
target, asks whether that can be launched, decides within its budget, and then tells its
subscribers or asks for another try later. Trying later is up to whoever runs the cycle.
-/

namespace UpdaterLaunch

/-- How a coordinator learns whether a target can be launched. -/
inductive Checker
  /-- By a prepared answer for each question, which are counted. -/
  | scripted (answers : Nat → Bool) (asked : Nat)
  /-- By asking the registry for the system's user. -/
  | resolving

namespace Checker

/-- Prepared answers, of which the last one repeats; if there are none, the answer is no. -/
def ofList (answers : List Bool) : Checker :=
  .scripted (fun i => (answers[i]?).getD (answers.getLast?.getD false)) 0

/-- Always the same answer. -/
def always (answer : Bool) : Checker := .scripted (fun _ => answer) 0

/-- The number of questions that prepared answers were given to. -/
def asked? : Checker → Option Nat
  | .scripted _ asked => some asked
  | .resolving => none

/-- The answer for a target as things are. -/
def answer (registry : Registry) (target : Target) : Checker → Bool
  | .scripted answers asked => answers asked
  | .resolving => registry.resolves target

/-- The checker after a question. -/
def next : Checker → Checker
  | .scripted answers asked => .scripted answers (asked + 1)
  | .resolving => .resolving

/-- What a question puts into the log. -/
def heard (registry : Registry) (target : Target) : Checker → List Notice
  | .scripted _ _ => []
  | .resolving => [.targetResolved target .system (registry.resolves target)]

end Checker

-----------------------------------------------------------------------------------------
-- Coordinators and putting them together
-----------------------------------------------------------------------------------------

/-- A coordinator, with its subscriptions. -/
structure Coordinator where
  sessionId : Option SessionId := none
  budget : Budget
  counters : Counters := {}
  checker : Checker
  /-- The target that each cycle is about, by the number of the cycle. -/
  factory : Nat → Target
  /-- The number of targets made so far. -/
  made : Nat := 0
  /-- The scheduler that runs retries. -/
  scheduler : Nat
  hub : Hub := {}
  /-- Whether the coordinator was not dropped yet. -/
  alive : Bool := true

/-- What was not given when a coordinator was to be put together. -/
inductive Missing
  | budget
  | checker
  | factory
  | scheduler
deriving DecidableEq

/-- The text shown for what is missing. -/
def Missing.message (missing : Missing) : String :=
  let what := match missing with
    | .budget => "retry budget"
    | .checker => "launchability checker"
    | .factory => "launch target factory"
    | .scheduler => "scheduler"
  "missing required collaborator: " ++ what

namespace Coordinator

/-- The parts of a coordinator, as far as they are given. -/
structure Parts where
  sessionId : Option SessionId := none
  budget : Option Budget := none
  checker : Option Checker := none
  factory : Option (Nat → Target) := none
  scheduler : Option Nat := none

/-- Puts a coordinator together. All parts but the session's name have to be there; the first one
missing is the one to be told.
-/
def build (parts : Parts) : Except Missing Coordinator :=
  match parts.budget, parts.checker, parts.factory, parts.scheduler with
  | none, _, _, _ => .error .budget
  | some _, none, _, _ => .error .checker
  | some _, some _, none, _ => .error .factory
  | some _, some _, some _, none => .error .scheduler
  | some budget, some checker, some factory, some scheduler =>
      .ok { sessionId := parts.sessionId, budget, checker, factory, scheduler }

/-- How often this coordinator may still put a launch off. -/
def launchesLeft (coordinator : Coordinator) : Nat :=
  coordinator.budget.launchesLeft coordinator.counters

/-- How often this coordinator may still launch. -/
def updatesLeft (coordinator : Coordinator) : Nat :=
  coordinator.budget.updatesLeft coordinator.counters

/-- The target of the cycle to come. -/
def target (coordinator : Coordinator) : Target := coordinator.factory coordinator.made

-----------------------------------------------------------------------------------------
-- One decision cycle
-----------------------------------------------------------------------------------------

/-- What a decision cycle comes to. -/
structure Cycle where
  target : Target
  launchable : Bool
  decision : Decision
  notices : List Notice
  after : Coordinator

/-- Runs a decision cycle: one target, one question about it, one decision. -/
def cycle (coordinator : Coordinator) (registry : Registry) : Cycle :=
  let target := coordinator.target
  let launchable := coordinator.checker.answer registry target
  let heard := coordinator.checker.heard registry target
  let (counters, decision) := coordinator.budget.decide coordinator.counters launchable
  let decided :=
    { coordinator with
      counters
      checker := coordinator.checker.next
      made := coordinator.made + 1 }
  let tell (event : Event) := { decided with hub := decided.hub.emit event }
  match decision with
  | .launch =>
      let event := .launchRequested target
      { target, launchable, decision, after := tell event
        notices := heard ++ [.launchRequested target, decided.hub.emission event] }
  | .reschedule _ =>
      { target, launchable, decision, after := decided
        notices := heard ++ [.launchPutOff target] }
  | .fail reason =>
      let event := .failed reason
      { target, launchable, decision, after := tell event
        notices := heard ++ [.launchFailed reason, decided.hub.emission event] }

/-- What is spent in a cycle is what the budget's decision says. -/
theorem cycle_decide (coordinator : Coordinator) (registry : Registry)
    : coordinator.budget.decide coordinator.counters (coordinator.cycle registry).launchable
        = ((coordinator.cycle registry).after.counters, (coordinator.cycle registry).decision)
      ∧ (coordinator.cycle registry).after.budget = coordinator.budget := by
  unfold cycle
  generalize h : coordinator.budget.decide coordinator.counters
    (coordinator.checker.answer registry coordinator.target) = result
  obtain ⟨counters, decision⟩ := result
  cases decision <;> simp [h]

/-- A launch that is put off leaves one retry less. -/
theorem launchesLeft_cycle_of_reschedule {coordinator : Coordinator} {registry : Registry}
    {delay : Span} (h : (coordinator.cycle registry).decision = .reschedule delay)
    : (coordinator.cycle registry).after.launchesLeft + 1 = coordinator.launchesLeft := by
  obtain ⟨decided, budget⟩ := coordinator.cycle_decide registry
  rw [h] at decided
  simp only [launchesLeft, budget]
  exact (Budget.launchesLeft_of_reschedule decided).1

/-- No cycle leaves more retries than there were. -/
theorem launchesLeft_cycle_le (coordinator : Coordinator) (registry : Registry)
    : (coordinator.cycle registry).after.launchesLeft ≤ coordinator.launchesLeft := by
  obtain ⟨decided, budget⟩ := coordinator.cycle_decide registry
  simp only [launchesLeft, budget]
  cases h : (coordinator.cycle registry).decision with
  | launch =>
      rw [h] at decided
      exact Nat.le_of_eq (Budget.updatesLeft_of_launch decided).2
  | reschedule =>
      rw [h] at decided
      have := (Budget.launchesLeft_of_reschedule decided).1
      omega
  | fail =>
      rw [h] at decided
      exact Nat.le_of_eq (congrArg coordinator.budget.launchesLeft (Budget.decide_fail decided))

-----------------------------------------------------------------------------------------
-- Cycles without waiting in between
-----------------------------------------------------------------------------------------

/-- Runs cycles one after the other until one does not put the launch off: what happens on a
scheduler that runs every task at once. All notices come in order, with the coordinator after it.
-/
def runThrough (coordinator : Coordinator) (registry : Registry)
    : List Notice × Coordinator :=
  let cycle := coordinator.cycle registry
  match _h : cycle.decision with
  | .reschedule _ =>
      let (notices, after) := runThrough cycle.after registry
      (cycle.notices ++ notices, after)
  | _ => (cycle.notices, cycle.after)
termination_by coordinator.launchesLeft
decreasing_by
  have := launchesLeft_cycle_of_reschedule _h
  omega

/-- Running through leaves no more retries than there were. -/
theorem launchesLeft_runThrough_le (coordinator : Coordinator) (registry : Registry)
    : (coordinator.runThrough registry).2.launchesLeft ≤ coordinator.launchesLeft := by
  fun_induction runThrough coordinator registry with
  | case1 coordinator cycle delay h notices after eq ih =>
      have := coordinator.launchesLeft_cycle_le registry
      simp only [eq] at ih
      exact Nat.le_trans ih this
  | case2 coordinator cycle => exact coordinator.launchesLeft_cycle_le registry

/-- Ends a coordinator. Its subscribers keep their backlogs. -/
def drop (coordinator : Coordinator) : Coordinator :=
  { coordinator with alive := false, hub := coordinator.hub.close }

end Coordinator

end UpdaterLaunch
