import UpdaterLaunch.Proofs.RelievedAgendas
import UpdaterLaunch.Proofs.SoleUsers

/-! A world beside one that is relieved of the retries of some dropped coordinators. Those retries
do nothing when their time comes, so all else goes on in the same way in both.
-/

namespace UpdaterLaunch

/-- The scheduler without the retries of the coordinators that are gone. -/
def Scheduler.without (gone : Nat → Bool) : Scheduler → Scheduler
  | .manual queue => .manual (queue.filter (!gone ·.2))
  | .inline => .inline
  | .timed => .timed

/-- Whether a task is a retry of a coordinator that is gone. -/
def Task.isOf (gone : Nat → Bool) : Task → Bool
  | .retry number => gone number
  | .change _ => false

/-- Whether a notice tells that retries are stopped, or how many were. -/
def Notice.isOfStop : Notice → Bool
  | .stoppingRetries | .retriesCancelled _ => true
  | _ => false

namespace World

variable {gone : Nat → Bool} {world lone after : World} {number scheduler : Nat}

/-- Beside a world there is one that is the same but for the retries of coordinators that are gone.
Its log may tell of other stops, as there may be less to stop.
-/
structure Relieved (gone : Nat → Bool) (world lone : World) : Prop where
  dead : ∀ number, gone number = true → world.live? number = none
  registry : lone.registry = world.registry
  coordinators : lone.coordinators = world.coordinators
  schedulers : lone.schedulers = world.schedulers.map (Scheduler.without gone)
  agenda : world.agenda.Relieved (Task.isOf gone) lone.agenda
  subscriptions : lone.subscriptions = world.subscriptions
  log
    : lone.log.filter (!·.notice.isOfStop) = world.log.filter (!·.notice.isOfStop)

/-- The world without the retries of the coordinators that are gone. -/
def without (gone : Nat → Bool) (world : World) : World :=
  { world with
    schedulers := world.schedulers.map (Scheduler.without gone)
    agenda := world.agenda.without (Task.isOf gone) }

theorem relieved_without (orderly : world.agenda.Orderly) (sound : world.agenda.Sound)
    (dead : ∀ number, gone number = true → world.live? number = none)
    : world.Relieved gone (world.without gone) :=
  ⟨dead, rfl, rfl, rfl, orderly.relieved sound _, rfl, rfl⟩

namespace Relieved

-----------------------------------------------------------------------------------------
-- Views
-----------------------------------------------------------------------------------------

theorem coordinator? (relieved : world.Relieved gone lone) (number : Nat)
    : lone.coordinator? number = world.coordinator? number := by
  simp only [World.coordinator?, relieved.coordinators]

theorem live? (relieved : world.Relieved gone lone) (number : Nat)
    : lone.live? number = world.live? number := by
  simp only [World.live?, relieved.coordinator?]

/-- A coordinator that lives is not gone. -/
theorem stays (relieved : world.Relieved gone lone) {coordinator : Coordinator}
    (live : world.live? number = some coordinator)
    : gone number = false := by
  cases whose : gone number with
  | false => rfl
  | true =>
      rw [relieved.dead number whose] at live
      cases live

theorem scheduler? (relieved : world.Relieved gone lone) (scheduler : Nat)
    : lone.schedulers[scheduler]?
      = (world.schedulers[scheduler]?).map (Scheduler.without gone) := by
  rw [relieved.schedulers, List.getElem?_map]

theorem inline_iff (relieved : world.Relieved gone lone) (scheduler : Nat)
    : lone.schedulers[scheduler]? = some .inline ↔ world.schedulers[scheduler]? = some .inline := by
  rw [relieved.scheduler?]
  cases world.schedulers[scheduler]? with
  | none => simp
  | some kind => cases kind <;> simp [Scheduler.without]

-----------------------------------------------------------------------------------------
-- What is done in both
-----------------------------------------------------------------------------------------

theorem note (relieved : world.Relieved gone lone) (about : Option Nat) (notices : List Notice)
    : (world.note about notices).Relieved gone (lone.note about notices) :=
  { relieved with
    log := by simp only [World.note, List.filter_append, relieved.log] }

/-- Lines about stops may differ. -/
theorem note_stops (relieved : world.Relieved gone lone) (about : Option Nat)
    {notices others : List Notice} (stops : ∀ notice ∈ notices, notice.isOfStop = true)
    (stopsToo : ∀ notice ∈ others, notice.isOfStop = true)
    : (world.note about notices).Relieved gone (lone.note about others) :=
  { relieved with
    log := by
      have none {notices : List Notice} (stops : ∀ notice ∈ notices, notice.isOfStop = true)
          : ((notices.map (Entry.mk about)).reverse).filter (!·.notice.isOfStop) = [] := by
        rw [List.filter_eq_nil_iff]
        simpa using stops
      simp only [World.note, List.filter_append, none stops, none stopsToo, List.nil_append,
        relieved.log] }

/-- So may there be lines about stops in the relieved world only. -/
theorem note_stop (relieved : world.Relieved gone lone) (about : Option Nat)
    {notices : List Notice} (stops : ∀ notice ∈ notices, notice.isOfStop = true)
    : world.Relieved gone (lone.note about notices) := by
  have noted : (world.note about []).Relieved gone (lone.note about notices) :=
    relieved.note_stops about (by simp) stops
  exact noted

/-- A coordinator may be replaced, but not brought back. -/
theorem put (relieved : world.Relieved gone lone) {old new : Coordinator}
    (there : world.coordinator? number = some old) (alive : new.alive = true → old.alive = true)
    : (world.put number new).Relieved gone (lone.put number new) :=
  { relieved with
    dead := by
      intro other whose
      have none := relieved.dead other whose
      by_cases own : other = number
      · subst own
        have now := coordinator?_put_self there new
        simp only [World.live?, there, Option.filter_eq_none_iff] at none
        simp only [World.live?, now, Option.filter_eq_none_iff]
        intro found same lives
        obtain rfl := Option.some.inj same
        exact none old rfl (alive lives)
      · simpa only [World.live?, coordinator?_put_of_ne world new own] using none
    coordinators := by simp only [World.put, relieved.coordinators] }

theorem requeue (relieved : world.Relieved gone lone) (scheduler : Nat)
    (queue : List (Span × Nat))
    : ({ world with schedulers := world.schedulers.set scheduler (.manual queue) } : World).Relieved
        gone
        { lone with
          schedulers := lone.schedulers.set scheduler (.manual (queue.filter (!gone ·.2))) } :=
  { relieved with
    schedulers := by
      simp only [relieved.schedulers, List.map_set]
      rfl }

/-- Retries that are gone may be taken off a manual queue; the relieved world has none of them. -/
theorem requeue_other (relieved : world.Relieved gone lone) {queue rest : List (Span × Nat)}
    (there : world.schedulers[scheduler]? = some (.manual queue))
    (same : rest.filter (!gone ·.2) = queue.filter (!gone ·.2))
    : ({ world with schedulers := world.schedulers.set scheduler (.manual rest) } : World).Relieved
        gone lone := by
  have beside := relieved.scheduler? scheduler
  rw [there, Option.map_some, Scheduler.without] at beside
  obtain ⟨inside, found⟩ := List.getElem?_eq_some_iff.mp beside
  have requeued := relieved.requeue scheduler rest
  rwa [same, ← found, List.set_getElem_self inside] at requeued

theorem post (relieved : world.Relieved gone lone) (now : lone.agenda.now = world.agenda.now)
    (stays : gone number = false) (scheduler : Nat) (delay : Span)
    : (world.post scheduler delay number).Relieved gone (lone.post scheduler delay number) := by
  unfold World.post
  rw [relieved.scheduler?]
  cases world.schedulers[scheduler]? with
  | none => exact relieved
  | some kind =>
      cases kind with
      | manual queue =>
          have longer := relieved.requeue scheduler (queue ++ [(delay, number)])
          rw [List.filter_append, List.filter_cons_of_pos (by simpa using stays),
            List.filter_nil] at longer
          exact longer
      | inline => exact relieved
      | timed =>
          simp only [Option.map_some, Scheduler.without]
          rw [relieved.agenda.nextId]
          refine Relieved.note ?_ _ _
          exact { relieved with agenda := relieved.agenda.post now scheduler delay.ticks stays }

theorem isOfStop_cancelNotices (world : World) (scheduler : Nat)
    : ∀ notice ∈ world.cancelNotices scheduler, notice.isOfStop = true := by
  intro notice member
  unfold cancelNotices at member
  split at member
  · cases member
  · rw [List.mem_singleton.mp member]
    rfl

theorem cancel (relieved : world.Relieved gone lone) (scheduler : Nat) (about : Option Nat)
    : (world.cancel scheduler about).Relieved gone (lone.cancel scheduler about) := by
  have same := relieved.scheduler? scheduler
  cases there : world.schedulers[scheduler]? with
  | none =>
      rw [there] at same
      simpa only [World.cancel, same, there, Option.map_none] using relieved
  | some kind =>
      rw [there] at same
      cases kind with
      | manual queue =>
          have emptied := relieved.requeue scheduler []
          rw [List.filter_nil] at emptied
          simpa only [World.cancel, same, there, Option.map_some, Scheduler.without] using emptied
      | inline =>
          simpa only [World.cancel, same, there, Option.map_some, Scheduler.without] using relieved
      | timed =>
          rw [cancel_of_timed there, cancel_of_timed same]
          refine note_stops ?_ about (isOfStop_cancelNotices _ _) (isOfStop_cancelNotices _ _)
          exact { relieved with agenda := relieved.agenda.cancel scheduler }

theorem change (relieved : world.Relieved gone lone) (change : Registry.Change)
    : (world.change change).Relieved gone (lone.change change) := by
  unfold World.change
  rw [relieved.registry]
  refine Relieved.note ?_ _ _
  exact { relieved with registry := rfl }

/-- Whoever is gone does nothing in either world, and whoever lives does the same in both. -/
theorem attempt (relieved : world.Relieved gone lone) (now : lone.agenda.now = world.agenda.now)
    (number : Nat)
    : (world.attempt number).Relieved gone (lone.attempt number) := by
  have same := relieved.live? number
  cases live : world.live? number with
  | none =>
      rw [live] at same
      rwa [attempt_of_gone live, attempt_of_gone same]
  | some coordinator =>
      rw [live] at same
      have there := (live?_eq_some_iff.mp live).1
      by_cases inline : world.schedulers[coordinator.scheduler]? = some .inline
      · rw [attempt_of_inline live inline,
          attempt_of_inline same ((relieved.inline_iff _).mpr inline), relieved.registry]
        exact (relieved.put there fun _ => (live?_eq_some_iff.mp live).2).note _ _
      · rw [attempt_of_kept live inline,
          attempt_of_kept same (mt (relieved.inline_iff _).mp inline), relieved.registry]
        have recorded : (world.recorded number (coordinator.cycle world.registry)).Relieved gone
            (lone.recorded number (coordinator.cycle world.registry)) :=
          (relieved.put there fun _ => (live?_eq_some_iff.mp live).2).note _ _
        unfold World.cycled
        split
        · exact recorded.post now (relieved.stays live) _ _
        · exact recorded

/-- The attempt of one that is gone is nothing. -/
theorem attempt_other (relieved : world.Relieved gone lone) (whose : gone number = true)
    : (world.attempt number).Relieved gone lone := by
  rwa [attempt_of_gone (relieved.dead number whose)]

-----------------------------------------------------------------------------------------
-- The clock
-----------------------------------------------------------------------------------------

theorem withAgenda (relieved : world.Relieved gone lone) {agenda alike : Agenda Task}
    (kept : agenda.Relieved (Task.isOf gone) alike)
    : ({ world with agenda } : World).Relieved gone { lone with agenda := alike } :=
  { relieved with agenda := kept }

/-- A task that is gone does nothing when it runs. -/
theorem resume_other (relieved : world.Relieved gone lone) {task : Option Task}
    {agenda : Agenda Task} (kept : agenda.Relieved (Task.isOf gone) lone.agenda)
    (foreign : ∀ running ∈ task, Task.isOf gone running = true)
    : (world.resume (task, agenda)).Relieved gone lone := by
  have unseen := relieved.withAgenda kept
  cases task with
  | none => exact unseen
  | some running =>
      cases running with
      | retry number => exact unseen.attempt_other (foreign _ rfl)
      | change change => exact absurd (foreign _ rfl) Bool.false_ne_true

/-- A task that runs in both worlds comes to the same in both. -/
theorem resume (relieved : world.Relieved gone lone) {agenda alike : Agenda Task}
    (kept : agenda.Relieved (Task.isOf gone) alike) (now : alike.now = agenda.now)
    (task : Option Task)
    : (world.resume (task, agenda)).Relieved gone (lone.resume (task, alike)) := by
  have seen := relieved.withAgenda kept
  cases task with
  | none => exact seen
  | some running =>
      cases running with
      | retry number => exact seen.attempt now number
      | change change => exact seen.change change

/-- What is woken does nothing, or happens in the relieved world as well. -/
theorem wake (relieved : world.Relieved gone lone) {before : Nat}
    (woken : world.wake? before = some after)
    : after.Relieved gone lone
      ∨ ∃ alike, lone.wake? before = some alike ∧ after.Relieved gone alike := by
  obtain ⟨⟨task, agenda⟩, next, rfl⟩ := Option.map_eq_some_iff.mp woken
  rcases relieved.agenda.wake next with ⟨kept, foreign⟩ | ⟨alike, too, kept, now, own⟩
  · exact .inl (relieved.resume_other kept foreign)
  · right
    refine ⟨lone.resume (task, alike), by simp only [World.wake?, too, Option.map_some], ?_⟩
    exact relieved.resume kept now task

/-- So what runs before a time comes to the same in both worlds, by induction on the wakings. -/
theorem runBefore (relieved : world.Relieved gone lone) (before : Nat)
    : (world.runBefore before).Relieved gone (lone.runBefore before) := by
  obtain ⟨alike, relieved, same⟩
      : ∃ alike : World,
          (world.runBefore before).Relieved gone alike
          ∧ lone.runBefore before = alike.runBefore before := by
    refine exhaust_keeps (P := fun later : World => ∃ alike : World,
      later.Relieved gone alike ∧ lone.runBefore before = alike.runBefore before) ?_
      ⟨lone, relieved, rfl⟩
    rintro world after woken ⟨alike, relieved, same⟩
    rcases relieved.wake woken with unseen | ⟨next, too, seen⟩
    · exact ⟨alike, unseen, same⟩
    · exact ⟨next, seen, same.trans (exhaust_of_some too)⟩
  have rests := Option.map_eq_none_iff.mp (world.wake?_runBefore before)
  have restsToo : alike.wake? before = none := by
    simp only [World.wake?, relieved.agenda.nobody rests, Option.map_none]
  have stays : alike.runBefore before = alike := exhaust_of_none restsToo
  rw [same, stays]
  exact relieved

/-- When the clocks of both worlds have come to a time, they agree. -/
theorem advance (relieved : world.Relieved gone lone) (now : lone.agenda.now = world.agenda.now)
    (ms : Nat)
    : (world.advance ms).Relieved gone (lone.advance ms)
      ∧ (lone.advance ms).agenda.now = (world.advance ms).agenda.now := by
  unfold World.advance
  rw [now]
  split
  · exact ⟨relieved, now⟩
  · rename_i some
    dsimp only
    have ran := relieved.runBefore (world.agenda.now + ms)
    have rests := Option.map_eq_none_iff.mp (world.wake?_runBefore (world.agenda.now + ms))
    obtain ⟨line, nobody⟩ := ran.agenda.orderly.nobody rests
    have early : (world.runBefore (world.agenda.now + ms)).agenda.now < world.agenda.now + ms :=
      (now_runBefore (Nat.lt_add_of_pos_right (Nat.pos_of_ne_zero some))).2
    obtain ⟨moved, agree⟩ := ran.agenda.moveTo line nobody (Nat.le_of_lt early)
    exact ⟨ran.withAgenda moved, agree⟩

theorem settle (relieved : world.Relieved gone lone) (now : lone.agenda.now = world.agenda.now)
    : world.settle.Relieved gone lone.settle
      ∧ lone.settle.agenda.now = world.settle.agenda.now := by
  refine ⟨?_, by rw [now_settle, now_settle, now]⟩
  simpa only [World.settle, now] using relieved.runBefore (world.agenda.now + 1)

end Relieved

end World

end UpdaterLaunch
