import UpdaterLaunch.Proofs.RunPassages

/-! No attempt is lost and none is doubled. Every attempt that was called for is, at any time later,
one event, one pending retry, one retry that was cancelled, or one that came due after its
coordinator was dropped. An attempt leaves alone what is pending when it is made.
-/

namespace UpdaterLaunch.World

/-- Whatever was pending is still pending, in its place: manual queues and the line of the agenda
have only grown at their ends, nobody woke up, and nobody was silenced or is heard again.
-/
structure KeepsPending (before after : World) : Prop where
  queues
    : ∀ (scheduler : Nat) (queue : List (Span × Nat)),
        before.schedulers[scheduler]? = some (.manual queue)
        → ∃ more, after.schedulers[scheduler]? = some (.manual (queue ++ more))
  ready : before.agenda.ready <+: after.agenda.ready
  sleepers : after.agenda.sleepers = before.agenda.sleepers
  live : ∀ posting, after.agenda.isLive posting = before.agenda.isLive posting

namespace KeepsPending

variable {before middle after : World}

/-- A world in which nothing is posted keeps what is pending. -/
theorem of_same (schedulers : after.schedulers = before.schedulers)
    (agenda : after.agenda = before.agenda)
    : before.KeepsPending after where
  queues scheduler queue there := ⟨[], by rw [schedulers, there, List.append_nil]⟩
  ready := agenda ▸ List.prefix_refl before.agenda.ready
  sleepers := by rw [agenda]
  live posting := by rw [agenda]

/-- What is kept and kept again is kept. -/
theorem trans (first : before.KeepsPending middle) (second : middle.KeepsPending after)
    : before.KeepsPending after where
  queues scheduler queue there := by
    obtain ⟨more, grown⟩ := first.queues scheduler queue there
    obtain ⟨further, now⟩ := second.queues scheduler _ grown
    exact ⟨more ++ further, by rw [now, List.append_assoc]⟩
  ready := first.ready.trans second.ready
  sleepers := second.sleepers.trans first.sleepers
  live posting := (second.live posting).trans (first.live posting)

end KeepsPending

/-- A post goes to the end of where it is kept. -/
theorem keepsPending_post (world : World) (scheduler : Nat) (delay : Span) (number : Nat)
    : world.KeepsPending (world.post scheduler delay number) := by
  unfold post
  split
  · rename_i queue there
    refine ⟨fun other own found => ?_, List.prefix_refl _, rfl, fun _ => rfl⟩
    -- the queue that was posted to has one retry more at its end, and all others none
    by_cases same : scheduler = other
    · subst same
      obtain ⟨inside, -⟩ := List.getElem?_eq_some_iff.mp there
      obtain rfl := Scheduler.manual.inj (Option.some.inj (there.symm.trans found))
      exact ⟨[(delay, number)], List.getElem?_set_self inside⟩
    · exact ⟨[], by simp only [List.getElem?_set_ne same, found, List.append_nil]⟩
  · refine ⟨fun other own found => ⟨[], ?_⟩, ?_, ?_, fun posting => ?_⟩
    · rw [List.append_nil]
      exact found
    · simp only [note, Agenda.post]
      split
      · exact List.prefix_refl _
      · exact List.prefix_append _ _
    · simp only [note, Agenda.post]
      split <;> rfl
    · exact Agenda.isLive_post _ _ _ _ _
  · exact .of_same rfl rfl
  · exact .of_same rfl rfl

/-- An attempt keeps what is pending, whoever makes it and however many cycles it takes. -/
theorem keepsPending_attempt (world : World) (number : Nat)
    : world.KeepsPending (world.attempt number) :=
  attempt_keeps (P := world.KeepsPending) (fun soFar _ => soFar.trans (.of_same rfl rfl))
    (fun soFar _ _ => soFar.trans (keepsPending_post _ _ _ _)) (.of_same rfl rfl)

/-- On an inline scheduler nothing is ever pending from an attempt. -/
theorem kept_attempt_inline {world : World} {number : Nat} {coordinator : Coordinator}
    (live : world.live? number = some coordinator)
    (inline : world.schedulers[coordinator.scheduler]? = some .inline)
    : (world.attempt number).kept number = world.kept number := by
  simp only [World.attempt, live, inline]
  rfl

-----------------------------------------------------------------------------------------
-- The balance
-----------------------------------------------------------------------------------------

/-- Attempts are conserved. After any run, the retries that were pending at first, of which a new
coordinator has none, and the attempts that were called for are together as many as the events
that the coordinator has emitted, its retries that are pending, those that were cancelled and those
that came due after it was dropped. An attempt made at any time keeps all that is pending then; on
an inline scheduler it makes exactly one event before it is over.
-/
theorem attempts_conserved {world : World} {number : Nat} {coordinator : Coordinator}
    (served : world.Served number) (there : world.coordinator? number = some coordinator)
    (moves : List Move)
    : let steady := Steady number moves
      let last := world.after moves
      (∃ cycles after,
        Course steady number world cycles last
        ∧ last.coordinator? number = some after
        ∧ coordinator.Performed steady cycles after
        ∧ last.cycleLines number = world.cycleLines number ++ cycles.flatMap (·.notices)
        ∧ world.kept number + tally (callsOf number) world moves
          = (cycles.filterMap (·.event?)).length + last.kept number
            + tally (discardsOf number) world moves + tally (lapsesOf number) world moves)
      ∧ (∀ other, last.KeepsPending (last.attempt other))
      ∧ ∀ now,
          last.live? number = some now
          → last.schedulers[now.scheduler]? = some .inline
          → ∃ cycles after,
              Course steady number last cycles (last.attempt number)
              ∧ (last.attempt number).coordinator? number = some after
              ∧ now.Performed steady cycles after
              ∧ (cycles.filterMap (·.event?)).length = 1 := by
  intro steady last
  have passage : Passage steady number world _ _ last := served.after id
  refine ⟨?_, keepsPending_attempt last, fun now live inline => ?_⟩
  · obtain ⟨-, cycles, course, balance⟩ := passage
    obtain ⟨after, now, performed⟩ := course.performed there
    refine ⟨cycles, after, course, now, performed, course.lines, ?_⟩
    rw [balance]
    exact (Nat.add_assoc _ _ _).symm
  -- an attempt is a passage too, and with nothing more kept its one event is what balances it
  · obtain ⟨-, cycles, course, balance⟩ := passage.served.attempt steady live
    obtain ⟨after, found, performed⟩ := course.performed (live?_eq_some_iff.mp live).1
    refine ⟨cycles, after, course, found, performed, ?_⟩
    rw [kept_attempt_inline live inline] at balance
    omega

/-- Two attempts are pending when one of them is tried again, and both are cancelled; of two more,
one is put off and the other gives up; then the coordinator is dropped, and the retry that is left
comes due. Four attempts are one event, two cancelled retries and one lost with the coordinator.
-/
theorem attempts_conserved_after_drop
    : let coordinator : Coordinator :=
        { budget := .ofMillis 4 0 100
          checker := .always false
          factory := fun _ => { action := "update" }
          scheduler := 0 }
      let world : World :=
        { schedulers := [.manual []], agenda := .ofQueues 1, coordinators := [some coordinator] }
      let moves : List Move :=
        [.request (.command 0 .tryLaunch), .request (.command 0 .tryLaunch),
          .request (.fireAt 0 0), .request (.command 0 .stop), .request (.command 0 .tryLaunch),
          .request (.command 0 .tryLaunch), .request (.command 0 .drop), .request (.fire 0)]
      world.Served 0
      ∧ world.coordinator? 0 = some coordinator
      ∧ tally (callsOf 0) world moves = 4
      ∧ (world.after moves).kept 0 = 0
      ∧ tally (discardsOf 0) world moves = 2
      ∧ tally (lapsesOf 0) world moves = 1
      ∧ ∃ cycles,
          Course (Steady 0 moves) 0 world cycles (world.after moves)
          ∧ (cycles.filterMap (·.event?)).length = 1 := by
  intro coordinator world moves
  have there : world.coordinator? 0 = some coordinator := rfl
  have served : world.Served 0 := served_of_idle ⟨rfl, rfl⟩ rfl there Nat.zero_lt_one rfl
  obtain ⟨⟨cycles, after, course, now, performed, -, balance⟩, -, -⟩ :=
    attempts_conserved served there moves
  have calls : tally (callsOf 0) world moves = 4 := by decide
  have pending : (world.after moves).kept 0 = 0 := by decide
  have discards : tally (discardsOf 0) world moves = 2 := by decide
  have lapses : tally (lapsesOf 0) world moves = 1 := by decide
  have before : world.kept 0 = 0 := by decide
  refine ⟨served, there, calls, pending, discards, lapses, cycles, course, ?_⟩
  omega

end UpdaterLaunch.World
