import UpdaterLaunch.Proofs.RetryLedgers

/-! A passage of the world takes a coordinator along its course, and its pending retries along with
it: what was pending and what was called for is, afterwards, still pending, or an event, or lost.
An attempt loses nothing, and a retry that comes due is lost only if its coordinator was dropped.
-/

namespace UpdaterLaunch

namespace World

/-- A world serves a coordinator that is there, with its scheduler; every scheduler has its queue,
and the coordinator's hub is open for as long as the coordinator lives.
-/
structure Served (world : World) (number : Nat) : Prop where
  sound : world.agenda.Sound
  queues : world.agenda.queues.length = world.schedulers.length
  coordinator
    : ∃ coordinator,
        world.coordinator? number = some coordinator
        ∧ coordinator.scheduler < world.schedulers.length
        ∧ coordinator.hub.isOpen = coordinator.alive

/-- What is served of a coordinator is true of the one that is there. -/
theorem Served.of_there {world : World} {number : Nat} {coordinator : Coordinator}
    (served : world.Served number) (there : world.coordinator? number = some coordinator)
    : coordinator.scheduler < world.schedulers.length
      ∧ coordinator.hub.isOpen = coordinator.alive := by
  obtain ⟨own, found, inside, opened⟩ := served.coordinator
  obtain rfl := Option.some.inj (there.symm.trans found)
  exact ⟨inside, opened⟩

/-- A coordinator that is there with its scheduler is served while nothing is pending. -/
theorem served_of_idle {world : World} {number : Nat} {coordinator : Coordinator}
    (idle : world.agenda.Idle) (queues : world.agenda.queues.length = world.schedulers.length)
    (there : world.coordinator? number = some coordinator)
    (inside : coordinator.scheduler < world.schedulers.length)
    (opened : coordinator.hub.isOpen = coordinator.alive)
    : world.Served number where
  sound := idle.sound
  queues := queues
  coordinator := ⟨coordinator, there, inside, opened⟩

/-- What a world comes to on its way: it still serves the coordinator, which has gone along its
course. Retries that were pending and attempts that were called for are now pending, or events,
or lost.
-/
structure Passage (steady : Prop) (number : Nat) (before : World) (called lost : Nat)
    (after : World) : Prop where
  served : after.Served number
  course
    : ∃ cycles,
        Course steady number before cycles after
        ∧ before.kept number + called
          = (cycles.filterMap (·.event?)).length + after.kept number + lost

namespace Passage

variable {steady : Prop} {number called more lost less : Nat} {before middle after : World}

/-- To stay is a passage. -/
theorem refl (steady : Prop) (served : before.Served number)
    : Passage steady number before 0 0 before where
  served := served
  course := ⟨[], .start, by simp⟩

/-- Passages add up. -/
theorem trans (first : Passage steady number before called lost middle)
    (second : Passage steady number middle more less after)
    : Passage steady number before (called + more) (lost + less) after where
  served := second.served
  course := by
    obtain ⟨early, course, balance⟩ := first.course
    obtain ⟨late, rest, balanced⟩ := second.course
    refine ⟨early ++ late, course.trans rest, ?_⟩
    rw [List.filterMap_append, List.length_append]
    omega

/-- A retry that is taken off to be tried is called for and lost at once, which cancels out. -/
theorem cancelOut (passage : Passage steady number before (called + more) (lost + more) after)
    : Passage steady number before called lost after where
  served := passage.served
  course := by
    obtain ⟨cycles, course, balance⟩ := passage.course
    exact ⟨cycles, course, by omega⟩

end Passage

/-- A world that moves on while a coordinator rests makes a passage; what is not pending any more is
lost.
-/
theorem Served.passage {steady : Prop} {number lost : Nat} {before after : World}
    (served : before.Served number) {coordinator rested : Coordinator}
    (there : before.coordinator? number = some coordinator)
    (now : after.coordinator? number = some rested)
    (rests : coordinator.Rests steady rested)
    (opened : rested.hub.isOpen = rested.alive)
    (sound : after.agenda.Sound)
    (schedulers : before.KeepsSchedulers after)
    (lines : after.cycleLines number = before.cycleLines number)
    (loses : before.Loses number lost after)
    : Passage steady number before 0 lost after where
  served := by
    refine ⟨sound, ?_, rested, now, ?_, opened⟩
    · rw [schedulers.queues, schedulers.length, served.queues]
    · rw [rests.scheduler, schedulers.length]
      exact (served.of_there there).1
  course := by
    have rest : before.Rests steady number after :=
      ⟨⟨coordinator, rested, there, now, rests⟩, lines, schedulers, lost, loses⟩
    have kept := loses.kept
    refine ⟨[], .rest .start rest, ?_⟩
    simp only [List.filterMap_nil, List.length_nil]
    omega

/-- A world that moves on without any coordinator makes a passage. -/
theorem Served.passage_of_same (steady : Prop) {number lost : Nat} {before after : World}
    (served : before.Served number)
    (same : after.coordinator? number = before.coordinator? number)
    (sound : after.agenda.Sound)
    (schedulers : before.KeepsSchedulers after)
    (lines : after.cycleLines number = before.cycleLines number)
    (loses : before.Loses number lost after)
    : Passage steady number before 0 lost after := by
  obtain ⟨coordinator, there, -, opened⟩ := served.coordinator
  exact served.passage there (same.trans there)
    (coordinator.rests_of_hub steady [] rfl) opened sound schedulers lines loses

/-- A world in which no scheduler and nothing on the agenda is touched makes a passage. -/
theorem Served.passage_of_untouched (steady : Prop) {number : Nat} {before after : World}
    (served : before.Served number)
    (same : after.coordinator? number = before.coordinator? number)
    (schedulers : after.schedulers = before.schedulers) (agenda : after.agenda = before.agenda)
    (lines : after.cycleLines number = before.cycleLines number)
    : Passage steady number before 0 0 after :=
  served.passage_of_same steady same (agenda ▸ served.sound)
    (.of_same schedulers (by rw [agenda]) (by rw [agenda])) lines
    (.of_same schedulers (by rw [agenda]))

/-- Posting keeps the agenda sound. -/
theorem sound_post {world : World} (sound : world.agenda.Sound) (scheduler : Nat) (delay : Span)
    (number : Nat)
    : (world.post scheduler delay number).agenda.Sound := by
  unfold post
  split
  · exact sound
  · exact sound.post _ _ _
  · exact sound
  · exact sound

-----------------------------------------------------------------------------------------
-- Attempts
-----------------------------------------------------------------------------------------

/-- A cycle keeps the agenda sound. -/
theorem sound_cycled {world : World} (sound : world.agenda.Sound) (number scheduler : Nat)
    (cycle : Coordinator.Cycle)
    : (world.cycled number scheduler cycle).agenda.Sound := by
  have recorded : (world.recorded number cycle).agenda.Sound := sound
  exact cycled_keeps (P := fun after => after.agenda.Sound) recorded
    fun delay => sound_post recorded _ _ _

/-- A cycle of a coordinator that is served takes it along its course by itself. -/
theorem Served.cycled (steady : Prop) {world : World} {number : Nat} {coordinator : Coordinator}
    (served : world.Served number) (live : world.live? number = some coordinator)
    : (world.cycled number coordinator.scheduler (coordinator.cycle world.registry)).Served number
      ∧ Course steady number world [coordinator.cycle world.registry]
          (world.cycled number coordinator.scheduler (coordinator.cycle world.registry)) := by
  have performs := coordinator.performs_cycle world.registry
  obtain ⟨there, alive⟩ := live?_eq_some_iff.mp live
  obtain ⟨inside, opened⟩ := served.of_there there
  have schedulers := KeepsSchedulers.cycled world number coordinator.scheduler
    (coordinator.cycle world.registry)
  have now := (live?_eq_some_iff.mp (live?_cycled live)).1
  refine ⟨⟨sound_cycled served.sound _ _ _, ?_, _, now, ?_, ?_⟩,
    .cycle .start live (opened.trans alive) performs⟩
  · rw [schedulers.queues, schedulers.length, served.queues]
  · rw [(cycle_after_fixed coordinator world.registry).2, schedulers.length]
    exact inside
  · rw [performs.after]
    cases (coordinator.cycle world.registry).event? <;> exact opened

/-- An attempt of a live coordinator makes one event or one pending retry, by induction on the
retries that it makes at once.
-/
theorem Served.attempt (steady : Prop) {world : World} {number : Nat} {coordinator : Coordinator}
    (served : world.Served number) (live : world.live? number = some coordinator)
    : Passage steady number world 1 0 (world.attempt number) := by
  refine attempt_induction
    (P := fun before after => before.Served number → Passage steady number before 1 0 after)
    ?_ ?_ live served
  · intro world coordinator live settled served
    obtain ⟨next, course⟩ := served.cycled steady live
    have there := List.getElem?_eq_getElem (served.of_there (live?_eq_some_iff.mp live).1).1
    have balance := kept_cycled number there served.queues
      (coordinator.cycle world.registry)
    refine ⟨next, _, course, balance.trans ?_⟩
    split
    · rename_i inline
      rw [Coordinator.Cycle.posts_eq_nil (settled (inline ▸ there)), List.length_nil]
    · rfl
  -- the call is passed on to the retry, which runs before the attempt is over
  · intro world coordinator delay after live inline put rest served
    obtain ⟨next, course⟩ := served.cycled steady live
    have first : Passage steady number world 0 0
        (world.cycled number coordinator.scheduler (coordinator.cycle world.registry)) := by
      refine ⟨next, _, course, ?_⟩
      have balance := kept_cycled number inline served.queues
        (coordinator.cycle world.registry)
      simp only [↓reduceIte, Coordinator.Cycle.posts, put, List.length_singleton] at balance
      omega
    exact first.trans (rest next)

/-- A dropped coordinator does nothing. -/
theorem attempt_of_gone {world : World} {number : Nat} (gone : world.live? number = none)
    : world.attempt number = world := by
  simp only [World.attempt, gone]

/-- While one coordinator makes a cycle, another rests and keeps what is pending. -/
theorem Served.cycled_of_ne (steady : Prop) {world : World} {number other : Nat}
    (served : world.Served number) (ne : other ≠ number) (scheduler : Nat)
    (cycle : Coordinator.Cycle)
    : Passage steady number world 0 0 (world.cycled other scheduler cycle) := by
  have recorded : (world.recorded other cycle).cycleLines number = world.cycleLines number :=
    cycleLines_note_of_ne _ (by simpa using ne) _
  refine served.passage_of_same steady ?_ (sound_cycled served.sound _ _ _) (.cycled _ _ _ _) ?_ ?_
  · have untouched := coordinator?_put_of_ne world cycle.after ne.symm
    simpa only [coordinator?, coordinators_cycled] using untouched
  · exact cycled_keeps (P := fun after => after.cycleLines number = world.cycleLines number)
      recorded fun delay => (cycleLines_post _ _ _ _ _).trans recorded
  · refine cycled_keeps (P := world.Loses number 0) (.of_same rfl rfl) fun delay => ?_
    exact Loses.post_other (world.recorded other cycle) served.queues ne scheduler delay

/-- A coordinator lives on through the attempts of any. -/
theorem isSome_live?_attempt (world : World) (other number : Nat)
    : ((world.attempt other).live? number).isSome = (world.live? number).isSome := by
  have step {world : World} {coordinator : Coordinator}
      (live : world.live? other = some coordinator)
      : ((world.cycled other coordinator.scheduler
          (coordinator.cycle world.registry)).live? number).isSome
        = (world.live? number).isSome := by
    by_cases own : number = other
    · subst own
      rw [live?_cycled live, live]
      rfl
    · have untouched := coordinator?_put_of_ne world
        (coordinator.cycle world.registry).after own
      simp only [live?, coordinator?, coordinators_cycled] at untouched ⊢
      rw [untouched]
  cases live : world.live? other with
  | none => rw [attempt_of_gone live]
  | some coordinator =>
      refine attempt_induction
        (P := fun before after => (after.live? number).isSome = (before.live? number).isSome)
        ?_ ?_ live
      · exact fun world coordinator live _ => step live
      · exact fun world coordinator delay after live _ _ rest => rest.trans (step live)

/-- An attempt of anybody calls for one of a coordinator if it is its own and it lives. -/
theorem Served.attempt_any (steady : Prop) {world : World} {number : Nat}
    (served : world.Served number) (other : Nat)
    : Passage steady number world
        (if other = number ∧ (world.live? number).isSome then 1 else 0) 0
        (world.attempt other) := by
  cases live : world.live? other with
  | none =>
      rw [attempt_of_gone live, if_neg]
      · exact .refl steady served
      · rintro ⟨rfl, lives⟩
        simp [live] at lives
  | some coordinator =>
      by_cases own : other = number
      · subst own
        rw [if_pos ⟨rfl, by simp [live]⟩]
        exact served.attempt steady live
      · rw [if_neg fun both => own both.1]
        refine attempt_induction
          (P := fun before after => before.Served number → Passage steady number before 0 0 after)
          ?_ ?_ live served
        · intro world coordinator _ _ served
          exact served.cycled_of_ne steady own _ _
        · intro world coordinator delay after _ _ _ rest served
          have first := served.cycled_of_ne steady own coordinator.scheduler
            (coordinator.cycle world.registry)
          exact first.trans (rest first.served)

-----------------------------------------------------------------------------------------
-- Retries whose time has come
-----------------------------------------------------------------------------------------

/-- Counts a task if it is a retry of a coordinator that was dropped before. -/
def lapse (world : World) (number : Nat) (task : Option Task) : Nat :=
  if task = some (.retry number) ∧ (world.live? number).isNone then 1 else 0

/-- A retry that was taken off to be tried is lost only if its coordinator was dropped. -/
theorem Passage.attempt {steady : Prop} {number lost other : Nat} {before middle : World}
    (taken : Passage steady number before 0 (lost + if other = number then 1 else 0) middle)
    (lives : (middle.live? number).isSome = (before.live? number).isSome)
    : Passage steady number before 0 (lost + before.lapse number (some (.retry other)))
        (middle.attempt other) := by
  have tried := taken.trans (taken.served.attempt_any steady other)
  rw [lives] at tried
  -- only a retry of a coordinator that lives is made good by a cycle of its own
  by_cases own : other = number
  · cases alive : (before.live? number).isSome with
    | true =>
        have gone : (before.live? number).isNone = false := by
          simpa using alive
        simp only [own, alive, lapse, gone, Bool.false_eq_true, and_false, and_self, ↓reduceIte,
          Nat.zero_add, Nat.add_zero] at tried ⊢
        have both : Passage steady number before (0 + 1) (lost + 1) (middle.attempt number) :=
          tried
        exact both.cancelOut
    | false =>
        have gone : (before.live? number).isNone = true := by
          simpa using alive
        simpa [own, alive, lapse, gone] using tried
  · simpa [own, lapse] using tried

/-- Taking retries off what a manual scheduler keeps loses these, and no others. -/
theorem Served.requeue (steady : Prop) {world : World} {number scheduler : Nat}
    {queue off rest : List (Span × Nat)} (served : world.Served number)
    (there : world.schedulers[scheduler]? = some (.manual queue)) (parts : queue.Perm (off ++ rest))
    : Passage steady number world 0 (off.countP (·.2 = number))
        { world with schedulers := world.schedulers.set scheduler (.manual rest) } :=
  served.passage_of_same steady rfl served.sound (.requeue there rest) rfl (.requeue there parts)

/-- Trying a row of retries that were taken off before, by induction on the row. -/
theorem Passage.attempts {steady : Prop} {number lost : Nat} {before middle : World}
    (queue : List (Span × Nat))
    (taken : Passage steady number before 0 (lost + queue.countP (·.2 = number)) middle)
    (lives : (middle.live? number).isSome = (before.live? number).isSome)
    : Passage steady number before 0
        (lost + total (fun retry => before.lapse number (some (.retry retry.2))) queue)
        (queue.foldl (fun world retry => world.attempt retry.2) middle) := by
  induction queue generalizing lost middle with
  | nil => exact taken
  | cons retry rest ih =>
      have split
          : lost + (retry :: rest).countP (·.2 = number)
            = lost + rest.countP (·.2 = number) + if retry.2 = number then 1 else 0 := by
        rw [List.countP_cons]
        simp only [decide_eq_true_eq]
        omega
      rw [split] at taken
      have tried := taken.attempt lives
      rw [Nat.add_right_comm] at tried
      have done := ih tried ((isSome_live?_attempt middle retry.2 number).trans lives)
      rw [Nat.add_assoc] at done
      exact done

/-- Firing all that a manual scheduler keeps loses only the retries of the dropped. -/
theorem Served.fire (steady : Prop) {world : World} {number scheduler : Nat}
    {queue : List (Span × Nat)} (served : world.Served number)
    (there : world.schedulers[scheduler]? = some (.manual queue))
    : Passage steady number world 0
        (total (fun retry => world.lapse number (some (.retry retry.2))) queue)
        (world.fire scheduler queue) := by
  have taken := served.requeue steady there (.of_eq (List.append_nil queue).symm)
  rw [← Nat.zero_add (queue.countP _)] at taken
  have tried := taken.attempts queue rfl
  rwa [Nat.zero_add] at tried

/-- Firing one retry loses it only if its coordinator was dropped. -/
theorem Served.fireAt (steady : Prop) {world : World} {number scheduler : Nat}
    {queue : List (Span × Nat)} (served : world.Served number)
    (there : world.schedulers[scheduler]? = some (.manual queue)) (index : Nat)
    : Passage steady number world 0
        (world.lapse number ((queue[index]?).map fun retry => .retry retry.2))
        (world.fireAt scheduler queue index).2 := by
  unfold World.fireAt
  cases found : queue[index]? with
  | none => exact .refl steady served
  | some retry =>
      obtain ⟨inside, rfl⟩ := List.getElem?_eq_some_iff.mp found
      have parts : queue.Perm ([queue[index]] ++ queue.eraseIdx index) :=
        (List.getElem_cons_eraseIdx_perm inside).symm
      have taken := served.requeue steady there parts
      rw [List.countP_singleton, ← Nat.zero_add (ite _ _ _)] at taken
      simp only [decide_eq_true_eq] at taken
      have tried := taken.attempt rfl
      rwa [Nat.zero_add] at tried

/-- A turn loses the retry that it runs only if its coordinator was dropped. -/
theorem Served.resume (steady : Prop) {world : World} {number : Nat} {task : Option Task}
    {agenda : Agenda Task} (served : world.Served number) (turn : world.agenda.Turn task agenda)
    : Passage steady number world 0 (world.lapse number task) (world.resume (task, agenda)) := by
  have taken : Passage steady number world 0 (0 + if task = some (.retry number) then 1 else 0)
      { world with agenda } := by
    rw [Nat.zero_add]
    exact served.passage_of_same steady rfl (served.sound.turn turn)
      (.of_same rfl turn.length_queues turn.now) rfl (.turn turn number)
  cases task with
  | none => simpa [lapse, World.resume] using taken
  | some task =>
      cases task with
      | retry other =>
          simp only [Option.some.injEq, Task.retry.injEq] at taken
          have tried := taken.attempt rfl
          rwa [Nat.zero_add] at tried
      | change change =>
          have changed : Passage steady number { world with agenda } 0 0
              ({ world with agenda }.change change) :=
            taken.served.passage_of_untouched steady rfl rfl rfl
              (cycleLines_note_of_ne _ (by simp) _)
          simpa [lapse, World.resume, World.run] using taken.trans changed

/-- The clock loses nothing. -/
theorem Served.moveTo (steady : Prop) {world : World} {number : Nat}
    (served : world.Served number) (time : Nat)
    : Passage steady number world 0 0 (world.moveTo time) :=
  served.passage_of_same steady rfl (served.sound.moveTo time)
    ⟨rfl, rfl, Nat.le_max_left _ _⟩ rfl (.moveTo world time number)

end World

end UpdaterLaunch
