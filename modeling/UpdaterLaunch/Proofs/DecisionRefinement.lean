import UpdaterLaunch.Proofs.RunPassages

/-! Whole runs refine the budget's decisions. Whoever calls for an attempt, whichever retry is fired
and in whatever order, and also when retries run within the attempt that put them off: the cycles
of a coordinator decide one after the other what its budget decides on the row of their answers.
-/

namespace UpdaterLaunch

/-- Whether an event asks for the updater to be launched. -/
def Event.asksToLaunch : Event → Bool
  | .launchRequested _ => true
  | .failed _ => false

namespace Budget

/-- A launch is put off for the delay of the budget. -/
theorem delay_of_decide {budget : Budget} {spent after : Counters} {launchable : Bool}
    {delay : Span} (h : budget.decide spent launchable = (after, .reschedule delay))
    : delay = budget.delay := by
  unfold decide at h
  split at h <;> split at h <;> simp_all

/-- Every launch that a row of decisions puts off is put off for the delay of the budget. -/
theorem delay_of_mem_decideAll {budget : Budget} {spent : Counters} {answers : List Bool}
    {delay : Span} (member : .reschedule delay ∈ (budget.decideAll spent answers).map (·.1))
    : delay = budget.delay := by
  induction answers generalizing spent with
  | nil => simp [decideAll] at member
  | cons launchable rest ih =>
      rcases List.mem_cons.mp member with first | later
      · have decided
            : budget.decide spent launchable
              = ((budget.decide spent launchable).1, .reschedule delay) :=
          Prod.ext rfl first.symm
        exact delay_of_decide decided
      · exact ih later

end Budget

namespace Coordinator

variable {steady : Prop} {before after : Coordinator} {cycles : List Cycle}

/-- The decisions of a row of cycles are those of the budget. -/
theorem Performed.decided (performed : before.Performed steady cycles after)
    : cycles.map (·.decision)
      = (before.budget.decideAll before.counters (cycles.map (·.launchable))).map (·.1) := by
  rw [← performed.decisions, List.map_map]
  rfl

/-- The events that ask for a launch are as many as the decisions to launch. -/
theorem countP_asksToLaunch (cycles : List Cycle)
    : (cycles.filterMap (·.event?)).countP Event.asksToLaunch
      = (cycles.map (·.decision)).count .launch := by
  induction cycles with
  | nil => rfl
  | cons cycle rest ih =>
      rw [List.map_cons, List.count_cons, ← ih]
      cases decision : cycle.decision with
      | launch =>
          have event : cycle.event? = some (.launchRequested cycle.target) := by
            simp only [Cycle.event?, decision]
          rw [List.filterMap_cons_some event, List.countP_cons]
          rfl
      | reschedule delay =>
          have event : cycle.event? = none := by simp only [Cycle.event?, decision]
          rw [List.filterMap_cons_none event]
          rfl
      | fail reason =>
          have event : cycle.event? = some (.failed reason) := by
            simp only [Cycle.event?, decision]
          rw [List.filterMap_cons_some event, List.countP_cons]
          rfl

end Coordinator

namespace World

/-- Runs refine the budget's decisions. After any run a coordinator that had spent nothing has gone
through a row of cycles with nothing but rests between them. Each made the next target, asked about
that very target once, and the decisions, the counters, the events and the log are those of the
budget on the row of answers, which is the prepared one unless the run replaces it. The counters
tell how many launches were asked for and how many were put off, and neither limit is passed.

Each cycle that puts its launch off posts one retry, on the coordinator's scheduler and for the
budget's delay, and nothing else is posted. A retry is pending as it was posted until it is taken
off: to be tried, which is a cycle, or by a cancel, or when it comes due after a drop. So a further
attempt on a scheduler that keeps retries is one cycle, which leaves all that is pending and adds
just what it posts. By induction on the run, and within an attempt on the retries that an inline
scheduler runs at once.
-/
theorem run_refines_decisions {world : World} {number : Nat} {coordinator : Coordinator}
    (served : world.Served number) (there : world.coordinator? number = some coordinator)
    (unspent : coordinator.counters = {}) (moves : List Move)
    : let steady := Steady number moves
      let last := world.after moves
      (∃ cycles after,
        Course steady number world cycles last
        ∧ last.coordinator? number = some after
        ∧ coordinator.Performed steady cycles after
        ∧ last.cycleLines number = world.cycleLines number ++ cycles.flatMap (·.notices)
        ∧ (∀ cycle ∈ cycles,
            ∀ delay, cycle.decision = .reschedule delay → delay = coordinator.budget.delay)
        ∧ after.counters = coordinator.budget.spentAfter {} (cycles.map (·.launchable))
        ∧ after.counters.updateTries.toNat
          = (cycles.filterMap (·.event?)).countP Event.asksToLaunch
        ∧ after.counters.launchTries.toNat
          = (cycles.map (·.decision)).count (.reschedule coordinator.budget.delay)
        ∧ coordinator.budget.Covers after.counters
        ∧ ∃ kind times taken,
            world.schedulers[coordinator.scheduler]? = some kind
            ∧ Ledger number coordinator.scheduler kind world cycles times taken last
            ∧ taken.length + tally (callsOf number) world moves
              = cycles.length
                + (tally (discardsOf number) world moves + tally (lapsesOf number) world moves))
      ∧ ∀ now kind,
          last.live? number = some now
          → last.schedulers[now.scheduler]? = some kind
          → kind ≠ .inline
          → let cycle := now.cycle last.registry
            Course steady number last [cycle] (last.attempt number)
            ∧ ((last.attempt number).retries number).Perm
                (last.retries number ++ cycle.posts now.scheduler kind last.agenda.now) := by
  intro steady last
  have passage : Passage steady number world _ _ last := served.after id
  refine ⟨?_, ?_⟩
  · obtain ⟨-, cycles, course, balance⟩ := passage
    obtain ⟨after, now, performed⟩ := course.performed there
    have spent := performed.counters
    have decided := performed.decided
    rw [unspent] at spent decided
    obtain ⟨updates, launches⟩ :=
      coordinator.budget.spentAfter_counts {} (cycles.map (·.launchable))
    have keeps := List.getElem?_eq_getElem (served.of_there there).1
    obtain ⟨times, taken, ledger⟩ := course.ledger there keeps served.queues
    refine ⟨cycles, after, course, now, performed, course.lines, ?_, spent, ?_, ?_, ?_, _, times,
      taken, keeps, ledger, ledger.tried balance⟩
    -- a delay that was decided is a delay that the budget decides
    · intro cycle member delay putOff
      have listed : .reschedule delay ∈ cycles.map (·.decision) :=
        List.mem_map.mpr ⟨cycle, member, putOff⟩
      rw [decided] at listed
      exact Budget.delay_of_mem_decideAll listed
    · rw [spent, updates, Coordinator.countP_asksToLaunch, decided]
      exact Nat.zero_add _
    · rw [spent, launches, decided]
      exact Nat.zero_add _
    · rw [spent]
      exact (Budget.covers_none coordinator.budget).spentAfter _
  · intro now kind live keeps kept cycle
    have inline : last.schedulers[now.scheduler]? ≠ some .inline := by
      rw [keeps]
      exact fun same => kept (Option.some.inj same)
    have posted := retries_cycled number keeps passage.served.queues cycle
    rw [if_neg kept] at posted
    rw [attempt_eq_cycled live fun same => absurd same inline]
    exact ⟨(passage.served.cycled steady live).2, posted.symm⟩

/-- A retry is pending when an attempt is made from outside, and fired after that: the first cycle
puts the launch off, the second launches, and the third gives up, on the answers in their order.
-/
theorem run_refines_decisions_overlapping
    : let coordinator : Coordinator :=
        { budget := .ofMillis 1 1 100
          checker := .ofList [false, true, true]
          factory := fun _ => { action := "update" }
          scheduler := 0 }
      let world : World :=
        { schedulers := [.manual []], agenda := .ofQueues 1, coordinators := [some coordinator] }
      let moves : List Move :=
        [.request (.command 0 .tryLaunch), .request (.command 0 .tryLaunch),
          .request (.fireAt 0 0)]
      world.Served 0
      ∧ world.coordinator? 0 = some coordinator
      ∧ coordinator.counters = {}
      ∧ ∃ cycles,
          Course (Steady 0 moves) 0 world cycles (world.after moves)
          ∧ cycles.map (·.decision)
            = [.reschedule (.ofMillis 100), .launch, .fail .updateRetries] := by
  intro coordinator world moves
  have there : world.coordinator? 0 = some coordinator := rfl
  have served : world.Served 0 := served_of_idle ⟨rfl, rfl⟩ rfl there Nat.zero_lt_one rfl
  obtain ⟨⟨cycles, after, course, now, performed, -⟩, -⟩ :=
    run_refines_decisions served there rfl moves
  have three : cycles.length = 3 := by
    have made := performed.made
    obtain rfl : _ = after := Option.some.inj now
    exact (Nat.zero_add _ ▸ made).symm
  have steady : Steady 0 moves := by
    intro value member
    simp [moves] at member
  have answers := (performed.answers steady _ _ rfl).2
  have decided := performed.decided
  rw [answers, three] at decided
  exact ⟨served, there, rfl, cycles, course, decided⟩

end World

end UpdaterLaunch
