import UpdaterLaunch.Proofs.AgendaShadows
import UpdaterLaunch.Proofs.WorldMoves

/-! A party of coordinators that share their schedulers with nobody else, and the world as it would
be without the tasks of all others. What others do is not seen there, and what the party does there
is what it does in the whole world, as long as the clocks agree.
-/

namespace UpdaterLaunch.World

/-- Some coordinators and some schedulers, by number. -/
structure Party where
  coordinators : Nat → Bool
  schedulers : Nat → Bool

/-- Whether a line of the log is about the party. -/
def Party.named (party : Party) (entry : Entry) : Bool := entry.coordinator.any party.coordinators

/-- The schedulers of a party are used by its own coordinators and by no others, and whatever is
pending is a retry, on a scheduler of the right side.
-/
structure Apart (party : Party) (world : World) : Prop where
  users
    : ∀ number coordinator,
        world.coordinator? number = some coordinator
        → party.coordinators number = party.schedulers coordinator.scheduler
  queued
    : ∀ scheduler queue,
        world.schedulers[scheduler]? = some (.manual queue)
        → ∀ retry ∈ queue, party.coordinators retry.2 = party.schedulers scheduler
  tasks
    : ∀ posting ∈ world.agenda.waiting,
        ∃ number,
          posting.task = .retry number
          ∧ party.coordinators number = party.schedulers posting.queue

/-- Beside a world there is one in which all that the party sees is the same, but the party's tasks
are the only ones on the agenda.
-/
structure Shadows (party : Party) (world lone : World) : Prop where
  registry : lone.registry = world.registry
  coordinators
    : ∀ number,
        party.coordinators number = true → lone.coordinator? number = world.coordinator? number
  schedulers
    : ∀ scheduler,
        party.schedulers scheduler = true
        → lone.schedulers[scheduler]? = world.schedulers[scheduler]?
  agenda : world.agenda.Shadows party.schedulers lone.agenda
  subscriptions : lone.subscriptions = world.subscriptions.filter (party.coordinators ·.1)
  log : lone.log.filter party.named = world.log.filter party.named

/-- The world without the tasks and subscriptions of all others. -/
def only (party : Party) (world : World) : World :=
  { world with
    agenda := world.agenda.only party.schedulers
    subscriptions := world.subscriptions.filter (party.coordinators ·.1) }

variable {party : Party} {world lone : World} {number scheduler : Nat}

theorem shadows_only (orderly : world.agenda.Orderly) : world.Shadows party (world.only party) :=
  ⟨rfl, fun _ _ => rfl, fun _ _ => rfl, orderly.shadows _, rfl, rfl⟩

-----------------------------------------------------------------------------------------
-- The clock stands while something is done
-----------------------------------------------------------------------------------------

theorem now_post (world : World) (scheduler : Nat) (delay : Span) (number : Nat)
    : (world.post scheduler delay number).agenda.now = world.agenda.now := by
  unfold post
  split
  · rfl
  · simp only [note, Agenda.post]
    split <;> rfl
  · rfl
  · rfl

theorem now_cycled (world : World) (number scheduler : Nat) (cycle : Coordinator.Cycle)
    : (world.cycled number scheduler cycle).agenda.now = world.agenda.now :=
  cycled_keeps (P := fun after => after.agenda.now = world.agenda.now) rfl
    fun _ => now_post _ _ _ _

theorem now_cancel (world : World) (scheduler : Nat) (about : Option Nat)
    : (world.cancel scheduler about).agenda.now = world.agenda.now :=
  cancel_keeps (P := fun after => after.agenda.now = world.agenda.now) rfl rfl rfl

/-- On an inline scheduler an attempt records all its cycles at once. -/
theorem attempt_of_inline {coordinator : Coordinator}
    (live : world.live? number = some coordinator)
    (inline : world.schedulers[coordinator.scheduler]? = some .inline)
    : world.attempt number
      = (world.put number (coordinator.runThrough world.registry).2).note (some number)
          (coordinator.runThrough world.registry).1 := by
  simp only [World.attempt, live, inline]

/-- On any other scheduler an attempt is one cycle. -/
theorem attempt_of_kept {coordinator : Coordinator}
    (live : world.live? number = some coordinator)
    (kept : world.schedulers[coordinator.scheduler]? ≠ some .inline)
    : world.attempt number
      = world.cycled number coordinator.scheduler (coordinator.cycle world.registry) :=
  attempt_eq_cycled live fun inline => absurd inline kept

theorem runThrough_fixed (coordinator : Coordinator) (registry : Registry)
    : (coordinator.runThrough registry).2.scheduler = coordinator.scheduler := by
  fun_induction Coordinator.runThrough coordinator registry with
  | case1 coordinator cycle delay put notices after eq ih =>
      rw [eq] at ih
      exact ih.trans (cycle_after_fixed coordinator registry).2
  | case2 coordinator cycle => exact (cycle_after_fixed coordinator registry).2

theorem now_attempt (world : World) (number : Nat)
    : (world.attempt number).agenda.now = world.agenda.now := by
  cases live : world.live? number with
  | none => simp only [attempt, live]
  | some coordinator =>
      by_cases inline : world.schedulers[coordinator.scheduler]? = some .inline
      · rw [attempt_of_inline live inline]
        rfl
      · rw [attempt_of_kept live inline]
        exact now_cycled _ _ _ _

-----------------------------------------------------------------------------------------
-- Sides stay apart
-----------------------------------------------------------------------------------------

namespace Apart

/-- A live coordinator is on the side of its scheduler. -/
theorem side (apart : world.Apart party) {coordinator : Coordinator}
    (live : world.live? number = some coordinator)
    : party.coordinators number = party.schedulers coordinator.scheduler :=
  apart.users number coordinator (live?_eq_some_iff.mp live).1

/-- The retries that a manual scheduler keeps are all on its side. -/
theorem members (apart : world.Apart party) {queue : List (Span × Nat)}
    (there : world.schedulers[scheduler]? = some (.manual queue)) {side : Bool}
    (whose : party.schedulers scheduler = side)
    : ∀ retry ∈ queue, party.coordinators retry.2 = side := by
  intro retry member
  rw [apart.queued scheduler queue there retry member, whose]

theorem note (apart : world.Apart party) (about : Option Nat) (notices : List Notice)
    : (world.note about notices).Apart party :=
  ⟨apart.users, apart.queued, apart.tasks⟩

theorem put (apart : world.Apart party) {old : Coordinator}
    (there : world.coordinator? number = some old) {new : Coordinator}
    (same : new.scheduler = old.scheduler)
    : (world.put number new).Apart party where
  users other coordinator found := by
    by_cases own : other = number
    · subst own
      rw [coordinator?_put_self there] at found
      obtain rfl := Option.some.inj found
      rw [same]
      exact apart.users other old there
    · rw [coordinator?_put_of_ne _ _ own] at found
      exact apart.users other coordinator found
  queued := apart.queued
  tasks := apart.tasks

/-- Another queue on a manual scheduler is fine if its retries are of the right side. -/
theorem requeue (apart : world.Apart party) {queue : List (Span × Nat)}
    (sided : ∀ retry ∈ queue, party.coordinators retry.2 = party.schedulers scheduler)
    : ({ world with schedulers := world.schedulers.set scheduler (.manual queue) } : World).Apart
        party where
  users := apart.users
  queued other others there := by
    dsimp only at there
    rw [List.getElem?_set] at there
    split at there
    · rename_i own
      subst own
      split at there
      · obtain rfl := Scheduler.manual.inj (Option.some.inj there)
        exact sided
      · simp at there
    · exact apart.queued other others there
  tasks := apart.tasks

theorem post (apart : world.Apart party)
    (sided : party.coordinators number = party.schedulers scheduler) (delay : Span)
    : (world.post scheduler delay number).Apart party := by
  unfold World.post
  cases there : world.schedulers[scheduler]? with
  | none => exact apart
  | some kind =>
      cases kind with
      | manual queue =>
          apply apart.requeue
          intro retry member
          rcases List.mem_append.mp member with old | new
          · exact apart.queued scheduler queue there retry old
          · rw [List.mem_singleton.mp new]
            exact sided
      | inline => exact apart
      | timed =>
          refine ⟨apart.users, apart.queued, ?_⟩
          intro posting member
          cases found : world.agenda.queues[scheduler]? with
          | none =>
              simp only [World.note, Agenda.post, found] at member
              exact apart.tasks posting member
          | some q =>
              rcases (Agenda.mem_waiting_post_iff found).mp member with rfl | old
              · exact ⟨number, rfl, sided⟩
              · exact apart.tasks posting old

theorem cancel (apart : world.Apart party) (scheduler : Nat) (about : Option Nat)
    : (world.cancel scheduler about).Apart party := by
  refine cancel_keeps (P := Apart party) apart (apart.requeue (by simp)) (Apart.note ?_ _ _)
  exact ⟨apart.users, apart.queued, fun posting member =>
    apart.tasks posting (Agenda.mem_waiting_cancel member)⟩

theorem cycled (apart : world.Apart party) {coordinator : Coordinator}
    (live : world.live? number = some coordinator)
    : (world.cycled number coordinator.scheduler (coordinator.cycle world.registry)).Apart
        party := by
  have there := (live?_eq_some_iff.mp live).1
  have recorded : (world.recorded number (coordinator.cycle world.registry)).Apart party :=
    (apart.put there (cycle_after_fixed coordinator world.registry).2).note _ _
  exact cycled_keeps recorded fun delay => recorded.post (apart.side live) delay

theorem attempt (apart : world.Apart party) (number : Nat)
    : (world.attempt number).Apart party := by
  cases live : world.live? number with
  | none => simpa only [World.attempt, live] using apart
  | some coordinator =>
      have there := (live?_eq_some_iff.mp live).1
      by_cases inline : world.schedulers[coordinator.scheduler]? = some .inline
      · rw [attempt_of_inline live inline]
        exact (apart.put there (runThrough_fixed coordinator world.registry)).note _ _
      · rw [attempt_of_kept live inline]
        exact apart.cycled live

end Apart

-----------------------------------------------------------------------------------------
-- What others do, and what the party does
-----------------------------------------------------------------------------------------

namespace Shadows

theorem live? (shadows : world.Shadows party lone) (own : party.coordinators number = true)
    : lone.live? number = world.live? number := by
  simp only [World.live?, shadows.coordinators number own]

theorem note (shadows : world.Shadows party lone) (about : Option Nat) (notices : List Notice)
    : (world.note about notices).Shadows party (lone.note about notices) :=
  { shadows with
    log := by simp only [World.note, List.filter_append, shadows.log] }

theorem note_other (shadows : world.Shadows party lone) {about : Option Nat}
    (foreign : about.any party.coordinators = false) (notices : List Notice)
    : (world.note about notices).Shadows party lone :=
  { shadows with
    log := by
      have none : ((notices.map (Entry.mk about)).reverse).filter party.named = [] := by
        rw [List.filter_eq_nil_iff]
        simp [Party.named, foreign]
      simp only [World.note, List.filter_append, none, List.nil_append, shadows.log] }

theorem put (shadows : world.Shadows party lone) (own : party.coordinators number = true)
    {old : Coordinator} (there : world.coordinator? number = some old) (new : Coordinator)
    : (world.put number new).Shadows party (lone.put number new) :=
  { shadows with
    coordinators := by
      intro other member
      by_cases same : other = number
      · subst same
        rw [coordinator?_put_self there,
          coordinator?_put_self ((shadows.coordinators other own).trans there)]
      · rw [coordinator?_put_of_ne _ _ same, coordinator?_put_of_ne _ _ same]
        exact shadows.coordinators other member }

theorem put_other (shadows : world.Shadows party lone)
    (foreign : party.coordinators number = false) (new : Coordinator)
    : (world.put number new).Shadows party lone :=
  { shadows with
    coordinators := by
      intro other member
      have ne : other ≠ number := by
        rintro rfl
        simp [foreign] at member
      rw [coordinator?_put_of_ne _ _ ne]
      exact shadows.coordinators other member }

theorem requeue (shadows : world.Shadows party lone) (own : party.schedulers scheduler = true)
    (queue : List (Span × Nat))
    : ({ world with schedulers := world.schedulers.set scheduler (.manual queue) } : World).Shadows
        party { lone with schedulers := lone.schedulers.set scheduler (.manual queue) } :=
  { shadows with
    schedulers := by
      intro other member
      have same := shadows.schedulers scheduler own
      by_cases hit : scheduler = other
      · subst hit
        cases there : world.schedulers[scheduler]? with
        | none =>
            rw [List.getElem?_set, List.getElem?_set]
            rw [there] at same
            have outside := List.getElem?_eq_none_iff.mp there
            have outsideToo := List.getElem?_eq_none_iff.mp same
            simp [Nat.not_lt.mpr outside, Nat.not_lt.mpr outsideToo]
        | some kind =>
            have inside := (List.getElem?_eq_some_iff.mp there).1
            have insideToo := (List.getElem?_eq_some_iff.mp (same.trans there)).1
            rw [List.getElem?_set_self inside, List.getElem?_set_self insideToo]
      · rw [List.getElem?_set_ne hit, List.getElem?_set_ne hit]
        exact shadows.schedulers other member }

theorem requeue_other (shadows : world.Shadows party lone)
    (foreign : party.schedulers scheduler = false) (queue : List (Span × Nat))
    : ({ world with schedulers := world.schedulers.set scheduler (.manual queue) } : World).Shadows
        party lone :=
  { shadows with
    schedulers := by
      intro other member
      have ne : scheduler ≠ other := by
        rintro rfl
        simp [foreign] at member
      rw [List.getElem?_set_ne ne]
      exact shadows.schedulers other member }

theorem post (shadows : world.Shadows party lone) (now : lone.agenda.now = world.agenda.now)
    (own : party.schedulers scheduler = true) (delay : Span) (number : Nat)
    : (world.post scheduler delay number).Shadows party (lone.post scheduler delay number) := by
  unfold World.post
  rw [shadows.schedulers scheduler own]
  cases world.schedulers[scheduler]? with
  | none => exact shadows
  | some kind =>
      cases kind with
      | manual queue => exact shadows.requeue own _
      | inline => exact shadows
      | timed =>
          dsimp only
          rw [shadows.agenda.nextId own]
          refine note ?_ _ _
          exact { shadows with agenda := shadows.agenda.post now own delay.ticks (.retry number) }

theorem post_other (shadows : world.Shadows party lone)
    (foreign : party.schedulers scheduler = false) (stranger : party.coordinators number = false)
    (delay : Span)
    : (world.post scheduler delay number).Shadows party lone := by
  unfold World.post
  cases world.schedulers[scheduler]? with
  | none => exact shadows
  | some kind =>
      cases kind with
      | manual queue => exact shadows.requeue_other foreign _
      | inline => exact shadows
      | timed =>
          refine note_other ?_ (by simpa using stranger) _
          exact
            { shadows with
              agenda := shadows.agenda.post_other foreign delay.ticks (.retry number) }

theorem cancel (shadows : world.Shadows party lone) (own : party.schedulers scheduler = true)
    (about : Option Nat)
    : (world.cancel scheduler about).Shadows party (lone.cancel scheduler about) := by
  have same := shadows.schedulers scheduler own
  cases there : world.schedulers[scheduler]? with
  | none => simpa only [World.cancel, same, there] using shadows
  | some kind =>
      rw [there] at same
      cases kind with
      | manual queue => simpa only [World.cancel, same, there] using shadows.requeue own []
      | inline => simpa only [World.cancel, same, there] using shadows
      | timed =>
          have notices : lone.cancelNotices scheduler = world.cancelNotices scheduler := by
            simp only [cancelNotices, shadows.agenda.pending own]
          rw [cancel_of_timed there, cancel_of_timed same, notices]
          refine note ?_ _ _
          exact { shadows with agenda := shadows.agenda.cancel scheduler }

theorem cancel_other (shadows : world.Shadows party lone)
    (foreign : party.schedulers scheduler = false) {about : Option Nat}
    (stranger : about.any party.coordinators = false)
    : (world.cancel scheduler about).Shadows party lone := by
  refine cancel_keeps (P := fun after => after.Shadows party lone) shadows
    (shadows.requeue_other foreign _) (note_other ?_ stranger _)
  exact { shadows with agenda := shadows.agenda.cancel_other foreign }

theorem cycled (shadows : world.Shadows party lone) (now : lone.agenda.now = world.agenda.now)
    (own : party.coordinators number = true) (served : party.schedulers scheduler = true)
    {old : Coordinator} (there : world.coordinator? number = some old) (cycle : Coordinator.Cycle)
    : (world.cycled number scheduler cycle).Shadows party (lone.cycled number scheduler cycle) := by
  have recorded : (world.recorded number cycle).Shadows party (lone.recorded number cycle) :=
    (shadows.put own there cycle.after).note _ _
  unfold World.cycled
  split
  · exact recorded.post now served _ _
  · exact recorded

theorem cycled_other (shadows : world.Shadows party lone)
    (stranger : party.coordinators number = false) (foreign : party.schedulers scheduler = false)
    (cycle : Coordinator.Cycle)
    : (world.cycled number scheduler cycle).Shadows party lone := by
  have recorded : (world.recorded number cycle).Shadows party lone :=
    (shadows.put_other stranger cycle.after).note_other (by simpa using stranger) _
  exact cycled_keeps (P := fun after => after.Shadows party lone) recorded
    fun delay => recorded.post_other foreign stranger delay

/-- An attempt of the party comes to the same in both worlds. -/
theorem attempt (shadows : world.Shadows party lone) (apart : world.Apart party)
    (now : lone.agenda.now = world.agenda.now) (own : party.coordinators number = true)
    : (world.attempt number).Shadows party (lone.attempt number) := by
  have same := shadows.live? own
  cases live : world.live? number with
  | none =>
      rw [live] at same
      simpa only [World.attempt, live, same] using shadows
  | some coordinator =>
      rw [live] at same
      have there := (live?_eq_some_iff.mp live).1
      have served : party.schedulers coordinator.scheduler = true := by
        rw [← apart.side live, own]
      have kind := shadows.schedulers _ served
      by_cases inline : world.schedulers[coordinator.scheduler]? = some .inline
      · rw [attempt_of_inline live inline, attempt_of_inline same (kind.trans inline),
          shadows.registry]
        exact (shadows.put own there _).note _ _
      · rw [attempt_of_kept live inline, attempt_of_kept same (by rwa [kind]), shadows.registry]
        exact shadows.cycled now own served there _

/-- An attempt of anybody else is not seen. -/
theorem attempt_other (shadows : world.Shadows party lone) (apart : world.Apart party)
    (stranger : party.coordinators number = false)
    : (world.attempt number).Shadows party lone := by
  cases live : world.live? number with
  | none => simpa only [World.attempt, live] using shadows
  | some coordinator =>
      have foreign : party.schedulers coordinator.scheduler = false := by
        rw [← apart.side live, stranger]
      by_cases inline : world.schedulers[coordinator.scheduler]? = some .inline
      · rw [attempt_of_inline live inline]
        exact (shadows.put_other stranger _).note_other (by simpa using stranger) _
      · rw [attempt_of_kept live inline]
        exact shadows.cycled_other stranger foreign _

end Shadows

end UpdaterLaunch.World
