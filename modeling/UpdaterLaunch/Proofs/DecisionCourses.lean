import UpdaterLaunch.Proofs.BudgetAccounting
import UpdaterLaunch.Proofs.EventDelivery
import UpdaterLaunch.Proofs.PendingRetries

/-! The course of a coordinator: its decision cycles one after the other, and rests between them in
which it makes no target, asks nothing, spends nothing, emits nothing and posts nothing. A course
has decided what its budget decides on the row of its answers.
-/

namespace UpdaterLaunch

/-- Prepared answers count every question; the registry's are not counted. -/
theorem Checker.asked?_next (checker : Checker)
    : checker.next.asked? = checker.asked?.map (· + 1) := by
  cases checker <;> rfl

namespace Coordinator

/-- The event that a cycle emits, if any. -/
def Cycle.event? (cycle : Cycle) : Option Event :=
  match cycle.decision with
  | .launch => some (.launchRequested cycle.target)
  | .reschedule _ => none
  | .fail reason => some (.failed reason)

/-- The line of the log that tells what a cycle has decided. -/
def Cycle.line (cycle : Cycle) : Notice :=
  match cycle.decision with
  | .launch => .launchRequested cycle.target
  | .reschedule _ => .launchPutOff cycle.target
  | .fail reason => .launchFailed reason

/-- What a cycle of a coordinator is to be: about the next target, on one answer for that very
target, with the decision of the budget, and with the event that follows from it. It changes the
counters, the number of targets, the number of questions and the hub, and nothing else.
-/
structure Performs (before : Coordinator) (registry : Registry) (cycle : Cycle) : Prop where
  target : cycle.target = before.factory before.made
  answer : cycle.launchable = before.checker.answer registry cycle.target
  decides
    : before.budget.decide before.counters cycle.launchable
      = (cycle.after.counters, cycle.decision)
  notices
    : cycle.notices
      = before.checker.heard registry cycle.target
        ++ cycle.line :: cycle.event?.toList.map before.hub.emission
  after
    : cycle.after
      = { before with
          counters := cycle.after.counters
          made := before.made + 1
          checker := before.checker.next
          hub := cycle.event?.elim before.hub before.hub.emit }

/-- Every cycle is what it is to be, whatever is decided. -/
theorem performs_cycle (coordinator : Coordinator) (registry : Registry)
    : coordinator.Performs registry (coordinator.cycle registry) := by
  rcases decided : coordinator.budget.decide coordinator.counters
    (coordinator.checker.answer registry (coordinator.factory coordinator.made))
    with ⟨counters, decision⟩
  cases decision <;> constructor <;>
    simp [cycle, decided, target, Cycle.event?, Cycle.line]

/-- What a coordinator does while it rests: subscribers may come, read and go, and the coordinator
may end. The checker stays as it is if the prepared answers are steady, and is asked nothing in
any case.
-/
structure Rests (steady : Prop) (before after : Coordinator) : Prop where
  budget : after.budget = before.budget
  factory : after.factory = before.factory
  scheduler : after.scheduler = before.scheduler
  counters : after.counters = before.counters
  made : after.made = before.made
  asked : after.checker.asked? = before.checker.asked?
  checker : steady → after.checker = before.checker
  hub : ∃ requests, after.hub = before.hub.after requests ∧ Hub.emissions requests = []

/-- A coordinator whose hub serves requests other than emissions is resting. -/
theorem rests_of_hub (steady : Prop) (coordinator : Coordinator) (requests : List Hub.Request)
    (silent : Hub.emissions requests = [])
    : coordinator.Rests steady { coordinator with hub := coordinator.hub.after requests } where
  budget := rfl
  factory := rfl
  scheduler := rfl
  counters := rfl
  made := rfl
  asked := rfl
  checker _ := rfl
  hub := ⟨requests, rfl, silent⟩

end Coordinator

/-- Whether a notice is one of those that decision cycles make. -/
def Notice.isOfCycle : Notice → Bool
  | .targetResolved _ _ _ | .launchRequested _ | .launchPutOff _ | .launchFailed _
  | .eventEmitted _ _ => true
  | _ => false

/-- All notices of a cycle are such. -/
theorem Coordinator.Performs.isOfCycle {before : Coordinator} {registry : Registry}
    {cycle : Coordinator.Cycle} (performs : before.Performs registry cycle)
    : ∀ notice ∈ cycle.notices, notice.isOfCycle = true := by
  intro notice member
  rw [performs.notices, List.mem_append, List.mem_cons, List.mem_map] at member
  rcases member with asked | decided | ⟨event, -, emitted⟩
  · unfold Checker.heard at asked
    split at asked
    · simp at asked
    · rw [List.mem_singleton.mp asked]
      rfl
  · rw [decided]
    unfold Coordinator.Cycle.line
    split <;> rfl
  · rw [← emitted]
    rfl

namespace World

/-- What the log has from the cycles of a coordinator, oldest line first. -/
def cycleLines (world : World) (number : Nat) : List Notice :=
  ((world.log.filter fun entry =>
    entry.coordinator = some number && entry.notice.isOfCycle).map (·.notice)).reverse

/-- Lines about a coordinator that are of its cycles are appended to those before. -/
theorem cycleLines_note_self (world : World) (number : Nat) (notices : List Notice)
    : (world.note (some number) notices).cycleLines number
      = world.cycleLines number ++ notices.filter Notice.isOfCycle := by
  simp [cycleLines, note, List.filter_append, List.filter_map, Function.comp_def]

/-- Lines about anything else are not of the coordinator's cycles. -/
theorem cycleLines_note_of_ne (world : World) {about : Option Nat} {number : Nat}
    (ne : about ≠ some number) (notices : List Notice)
    : (world.note about notices).cycleLines number = world.cycleLines number := by
  simp [cycleLines, note, List.filter_append, List.filter_map, Function.comp_def, ne]

/-- Lines that no cycle makes change nothing in those of the cycles. -/
theorem cycleLines_note_of_other (world : World) (about : Option Nat) (number : Nat)
    {notices : List Notice} (other : ∀ notice ∈ notices, notice.isOfCycle = false)
    : (world.note about notices).cycleLines number = world.cycleLines number := by
  by_cases own : about = some number
  · subst own
    rw [cycleLines_note_self, List.filter_eq_nil_iff.mpr, List.append_nil]
    intro notice member
    simp [other notice member]
  · exact cycleLines_note_of_ne world own notices

/-- Posting makes no line that a cycle makes. -/
theorem cycleLines_post (world : World) (scheduler : Nat) (delay : Span) (posting number : Nat)
    : (world.post scheduler delay posting).cycleLines number = world.cycleLines number := by
  unfold post
  split
  · rfl
  · exact cycleLines_note_of_other _ _ _ (by simp [Notice.isOfCycle])
  · rfl
  · rfl

/-- A cycle puts all its lines into the log, and no other line of a cycle. -/
theorem cycleLines_cycled (world : World) (number scheduler : Nat) {cycle : Coordinator.Cycle}
    (own : ∀ notice ∈ cycle.notices, notice.isOfCycle = true)
    : (world.cycled number scheduler cycle).cycleLines number
      = world.cycleLines number ++ cycle.notices := by
  have recorded
      : (world.recorded number cycle).cycleLines number
        = world.cycleLines number ++ cycle.notices := by
    unfold World.recorded
    rw [cycleLines_note_self, List.filter_eq_self.mpr own]
    rfl
  exact cycled_keeps
    (P := fun after => after.cycleLines number = world.cycleLines number ++ cycle.notices)
    recorded fun delay => (cycleLines_post _ _ _ _ _).trans recorded

-----------------------------------------------------------------------------------------
-- Courses
-----------------------------------------------------------------------------------------

/-- A world moves on while a coordinator rests: no cycle of it is in the log, no retry of it comes
to those pending, and those that are not taken off stay as they were posted.
-/
structure Rests (steady : Prop) (number : Nat) (before after : World) : Prop where
  coordinator
    : ∃ resting rested,
        before.coordinator? number = some resting
        ∧ after.coordinator? number = some rested
        ∧ resting.Rests steady rested
  lines : after.cycleLines number = before.cycleLines number
  schedulers : before.KeepsSchedulers after
  retries : ∃ count, before.Loses number count after

/-- The course of a coordinator from a world on: its decision cycles in the order in which they come
to be, each in the world that there is then, and rests between them.
-/
inductive Course (steady : Prop) (number : Nat) (first : World)
    : List Coordinator.Cycle → World → Prop
  | start : Course steady number first [] first
  | rest {cycles before after} (course : Course steady number first cycles before)
    (rests : before.Rests steady number after)
    : Course steady number first cycles after
  | cycle {cycles before coordinator cycle} (course : Course steady number first cycles before)
    (live : before.live? number = some coordinator) (opened : coordinator.hub.isOpen = true)
    (performs : coordinator.Performs before.registry cycle)
    : Course steady number first (cycles ++ [cycle])
        (before.cycled number coordinator.scheduler cycle)

namespace Course

variable {steady : Prop} {number : Nat} {first middle last : World}
  {cycles more : List Coordinator.Cycle}

/-- A course that goes on is one course, by induction on the part that comes later. -/
theorem trans (early : Course steady number first cycles middle)
    (late : Course steady number middle more last)
    : Course steady number first (cycles ++ more) last := by
  induction late with
  | start => simpa using early
  | rest _ rests ih => exact .rest ih rests
  | cycle _ live opened performs ih =>
      rw [← List.append_assoc]
      exact .cycle ih live opened performs

/-- The log has all lines of all cycles of a course, in order, and no other lines of cycles. -/
theorem lines (course : Course steady number first cycles last)
    : last.cycleLines number = first.cycleLines number ++ cycles.flatMap (·.notices) := by
  induction course with
  | start => simp
  | rest _ rests ih => rw [rests.lines, ih]
  | cycle _ live opened performs ih =>
      rw [cycleLines_cycled _ _ _ performs.isOfCycle, ih]
      simp

end Course

end World

-----------------------------------------------------------------------------------------
-- What a coordinator has performed in a course
-----------------------------------------------------------------------------------------

/-- What is true of a coordinator after a row of cycles: they made the next targets, one each, and
asked one question each; their decisions are those of the budget on the row of their answers; and
the hub has emitted their events and no other.
-/
structure Coordinator.Performed (steady : Prop) (before : Coordinator)
    (cycles : List Coordinator.Cycle) (after : Coordinator) : Prop where
  budget : after.budget = before.budget
  factory : after.factory = before.factory
  scheduler : after.scheduler = before.scheduler
  made : after.made = before.made + cycles.length
  asked : after.checker.asked? = before.checker.asked?.map (· + cycles.length)
  targets
    : cycles.map (·.target) = (List.range' before.made cycles.length).map before.factory
  decisions
    : cycles.map (fun cycle => (cycle.decision, cycle.after.counters))
      = before.budget.decideAll before.counters (cycles.map (·.launchable))
  counters
    : after.counters = before.budget.spentAfter before.counters (cycles.map (·.launchable))
  emitted
    : ∃ requests,
        after.hub = before.hub.after requests
        ∧ Hub.emissions requests = cycles.filterMap (·.event?)
  answers
    : steady
      → ∀ answers asked,
          before.checker = .scripted answers asked
          → after.checker = .scripted answers (asked + cycles.length)
            ∧ cycles.map (·.launchable) = (List.range' asked cycles.length).map answers

namespace Hub

/-- Requests in two parts emit what both parts emit, if the first does not end the hub. -/
theorem emissions_append_of_lasting {requests : List Request} (lasting : .close ∉ requests)
    (more : List Request)
    : emissions (requests ++ more) = emissions requests ++ emissions more := by
  fun_induction emissions requests with
  | case1 => rfl
  | case2 event rest ih =>
      have later := ih fun member => lasting (List.mem_cons_of_mem _ member)
      simp only [List.cons_append, emissions, later]
  | case3 rest => exact absurd List.mem_cons_self lasting
  | case4 request rest notEmit notClose ih =>
      have later := ih fun member => lasting (List.mem_cons_of_mem _ member)
      rw [List.cons_append, emissions, later]
      · exact notEmit
      · exact notClose

/-- Requests that emit nothing by themselves emit nothing after others. -/
theorem emissions_append_of_silent (requests : List Request) {more : List Request}
    (silent : emissions more = [])
    : emissions (requests ++ more) = emissions requests := by
  fun_induction emissions requests with
  | case1 => exact silent
  | case2 event rest ih => simp only [List.cons_append, emissions, ih]
  | case3 rest => rfl
  | case4 request rest notEmit notClose ih =>
      rw [List.cons_append, emissions, ih]
      · exact notEmit
      · exact notClose

end Hub

namespace Coordinator

variable {steady : Prop} {before after : Coordinator} {cycles : List Cycle}

/-- Without a cycle nothing was performed. -/
theorem Performed.nil (steady : Prop) (coordinator : Coordinator)
    : coordinator.Performed steady [] coordinator where
  budget := rfl
  factory := rfl
  scheduler := rfl
  made := rfl
  asked := by simp
  targets := rfl
  decisions := rfl
  counters := rfl
  emitted := ⟨[], rfl, rfl⟩
  answers _ _ _ same := ⟨same, rfl⟩

/-- A rest adds nothing to what was performed. -/
theorem Performed.rest {rested : Coordinator} (performed : before.Performed steady cycles after)
    (rests : after.Rests steady rested)
    : before.Performed steady cycles rested where
  budget := rests.budget.trans performed.budget
  factory := rests.factory.trans performed.factory
  scheduler := rests.scheduler.trans performed.scheduler
  made := rests.made.trans performed.made
  asked := rests.asked.trans performed.asked
  targets := performed.targets
  decisions := performed.decisions
  counters := rests.counters.trans performed.counters
  emitted := by
    obtain ⟨requests, hub, events⟩ := performed.emitted
    obtain ⟨more, later, silent⟩ := rests.hub
    refine ⟨requests ++ more, ?_, ?_⟩
    · rw [later, hub, Hub.after_append]
    · rw [Hub.emissions_append_of_silent _ silent, events]
  answers stays answers asked script := by
    obtain ⟨checker, row⟩ := performed.answers stays answers asked script
    exact ⟨(rests.checker stays).trans checker, row⟩

/-- One more cycle makes one more target, asks one more question, and is decided from what has been
spent by then. An open hub emits its event.
-/
theorem Performed.cycle {registry : Registry} {cycle : Cycle}
    (performed : before.Performed steady cycles after) (opened : after.hub.isOpen = true)
    (performs : after.Performs registry cycle)
    : before.Performed steady (cycles ++ [cycle]) cycle.after := by
  have target : cycle.target = before.factory (before.made + cycles.length) := by
    rw [performs.target, performed.factory, performed.made]
  have decides := performs.decides
  rw [performed.budget, performed.counters] at decides
  have changed := performs.after
  constructor
  · rw [changed]
    exact performed.budget
  · rw [changed]
    exact performed.factory
  · rw [changed]
    exact performed.scheduler
  · rw [changed, List.length_append, ← Nat.add_assoc, ← performed.made]
    rfl
  · rw [changed, Checker.asked?_next, performed.asked, Option.map_map, List.length_append,
      List.length_singleton]
    rfl
  · rw [List.map_append, performed.targets, List.length_append, List.length_singleton,
      List.range'_concat, List.map_append, Nat.one_mul, List.map_singleton, List.map_singleton,
      target]
  · rw [List.map_append, List.map_append, performed.decisions, Budget.decideAll_append]
    simp only [List.map_cons, List.map_nil, Budget.decideAll, decides]
  · simp only [List.map_append, Budget.spentAfter, List.foldl_append, List.map_cons, List.map_nil,
      List.foldl_cons, List.foldl_nil]
    exact (congrArg Prod.fst decides).symm
  · obtain ⟨requests, hub, events⟩ := performed.emitted
    have lasting : .close ∉ requests := by
      have still := opened
      rw [hub, Hub.isOpen_after] at still
      simpa using (Bool.and_eq_true_iff.mp still).2
    refine ⟨requests ++ cycle.event?.toList.map .emit, ?_, ?_⟩
    · rw [Hub.after_append, ← hub, changed]
      cases cycle.event? <;> simp [Hub.after, Hub.handle, opened]
    · rw [Hub.emissions_append_of_lasting lasting, events, List.filterMap_append]
      cases told : cycle.event? <;> simp [Hub.emissions, told]
  · intro stays answers asked script
    obtain ⟨checker, row⟩ := performed.answers stays answers asked script
    refine ⟨?_, ?_⟩
    · rw [changed]
      simp [checker, Checker.next, Nat.add_assoc]
    · have answer := performs.answer
      rw [checker] at answer
      rw [List.map_append, row, List.length_append, List.length_singleton, List.range'_concat,
        List.map_append, Nat.one_mul, List.map_singleton, List.map_singleton, answer]
      rfl

end Coordinator

/-- At the end of a course a coordinator has performed its cycles, by induction on the course. -/
theorem World.Course.performed {steady : Prop} {number : Nat} {first last : World}
    {cycles : List Coordinator.Cycle} (course : Course steady number first cycles last)
    {coordinator : Coordinator} (there : first.coordinator? number = some coordinator)
    : ∃ after,
        last.coordinator? number = some after ∧ coordinator.Performed steady cycles after := by
  induction course with
  | start => exact ⟨coordinator, there, .nil steady coordinator⟩
  | rest _ rests ih =>
      obtain ⟨after, found, performed⟩ := ih
      obtain ⟨resting, rested, before, now, rest⟩ := rests.coordinator
      obtain rfl := Option.some.inj (found.symm.trans before)
      exact ⟨rested, now, performed.rest rest⟩
  | @cycle cycles before own cycle _ live opened performs ih =>
      obtain ⟨after, found, performed⟩ := ih
      obtain ⟨entry, -⟩ := live?_eq_some_iff.mp live
      obtain rfl := Option.some.inj (found.symm.trans entry)
      refine ⟨cycle.after, ?_, performed.cycle opened performs⟩
      have replaced := coordinator?_put_self entry cycle.after
      simpa only [coordinator?, coordinators_cycled] using replaced

end UpdaterLaunch
