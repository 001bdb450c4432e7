import Mathlib.Data.List.Perm.Basic
import UpdaterLaunch.Proofs.AgendaTasks
import UpdaterLaunch.Proofs.WorldMoves

/-! The retries of a coordinator that are still pending, in manual queues and on the agenda, each
with its scheduler and with the delay or the due time that it was posted for. A post adds one and
leaves all others as they are; a turn takes off the one that it runs, and cancelling a scheduler
takes off all that it keeps.
-/

namespace UpdaterLaunch

/-- A retry as it was posted: it waits to be fired by hand, it runs at once, or it waits until it is
due.
-/
inductive Retry
  | byHand (scheduler : Nat) (delay : Span)
  | atOnce (scheduler : Nat) (delay : Span)
  | timed (scheduler due : Nat)
deriving DecidableEq

namespace Scheduler

/-- A scheduler of the same kind that keeps nothing. -/
def emptied : Scheduler → Scheduler
  | .manual _ => .manual []
  | .inline => .inline
  | .timed => .timed

/-- The retries of a coordinator that wait to be fired by hand. -/
def keeps (number : Nat) : Scheduler → Nat
  | .manual queue => queue.countP (·.2 = number)
  | .inline | .timed => 0

/-- These retries, as they were posted on the scheduler of some number. -/
def retries (number scheduler : Nat) : Scheduler → List Retry
  | .manual queue => (queue.filter (·.2 = number)).map fun retry => .byHand scheduler retry.1
  | .inline | .timed => []

/-- The retry that is made by a post on the scheduler of some number at a time. -/
def posted (scheduler : Nat) (delay : Span) (now : Nat) : Scheduler → Retry
  | .manual _ => .byHand scheduler delay
  | .inline => .atOnce scheduler delay
  | .timed => .timed scheduler (now + min delay.ticks Agenda.longestSleep)

/-- A post makes the same retry on all schedulers of one kind. -/
theorem posted_emptied (kind : Scheduler) (scheduler : Nat) (delay : Span) (now : Nat)
    : kind.emptied.posted scheduler delay now = kind.posted scheduler delay now := by
  cases kind <;> rfl

theorem length_retries (number scheduler : Nat) (kind : Scheduler)
    : (kind.retries number scheduler).length = kind.keeps number := by
  cases kind with
  | manual queue => rw [retries, keeps, List.length_map, List.countP_eq_length_filter]
  | inline | timed => rfl

end Scheduler

/-- A task on the agenda as the retry that it is. -/
def Posting.retry (posting : Posting Task) : Retry := .timed posting.queue posting.due

namespace Agenda

universe u

variable {τ : Type u}

/-- Posting makes no queue. -/
theorem length_queues_post (agenda : Agenda τ) (queue delay : Nat) (task : τ)
    : (agenda.post queue delay task).queues.length = agenda.queues.length := by
  unfold post
  split
  · rfl
  · exact List.length_set

/-- Posting takes no time. -/
theorem now_post (agenda : Agenda τ) (queue delay : Nat) (task : τ)
    : (agenda.post queue delay task).now = agenda.now := by
  unfold post
  split <;> rfl

/-- Cancelling makes no queue. -/
theorem length_queues_cancel (agenda : Agenda τ) (queue : Nat)
    : (agenda.cancel queue).queues.length = agenda.queues.length :=
  List.length_modify _ _ _

/-- A turn makes no queue. -/
theorem Turn.length_queues {agenda after : Agenda τ} {task : Option τ}
    (turn : agenda.Turn task after)
    : after.queues.length = agenda.queues.length := by
  cases turn with
  | silenced => rfl
  | runs => exact List.length_modify _ _ _
  | sleeps => rfl

end Agenda

namespace World

-----------------------------------------------------------------------------------------
-- Schedulers stay what they are
-----------------------------------------------------------------------------------------

/-- Every scheduler stays of its kind, with its queue, and the clock does not go back. -/
structure KeepsSchedulers (before after : World) : Prop where
  kinds : after.schedulers.map Scheduler.emptied = before.schedulers.map Scheduler.emptied
  queues : after.agenda.queues.length = before.agenda.queues.length
  now : before.agenda.now ≤ after.agenda.now

namespace KeepsSchedulers

variable {world before middle after : World}

/-- Where no scheduler is touched, and the agenda has its queues and its time, all stay. -/
theorem of_same (schedulers : after.schedulers = before.schedulers)
    (queues : after.agenda.queues.length = before.agenda.queues.length)
    (now : after.agenda.now = before.agenda.now)
    : before.KeepsSchedulers after where
  kinds := by rw [schedulers]
  queues := queues
  now := Nat.le_of_eq now.symm

theorem trans (first : before.KeepsSchedulers middle) (second : middle.KeepsSchedulers after)
    : before.KeepsSchedulers after where
  kinds := second.kinds.trans first.kinds
  queues := second.queues.trans first.queues
  now := Nat.le_trans first.now second.now

theorem length (keeps : before.KeepsSchedulers after)
    : after.schedulers.length = before.schedulers.length := by
  have kinds := congrArg List.length keeps.kinds
  rwa [List.length_map, List.length_map] at kinds

/-- A scheduler that was there is there, of the same kind. -/
theorem kind (keeps : before.KeepsSchedulers after) {scheduler : Nat} {kind : Scheduler}
    (there : before.schedulers[scheduler]? = some kind)
    : ∃ later, after.schedulers[scheduler]? = some later ∧ later.emptied = kind.emptied := by
  have same := congrArg (·[scheduler]?) keeps.kinds
  simp only [List.getElem?_map, there, Option.map_some] at same
  exact Option.map_eq_some_iff.mp same

/-- A manual scheduler may keep whatever it keeps. -/
theorem requeue {scheduler : Nat} {queue : List (Span × Nat)}
    (there : world.schedulers[scheduler]? = some (.manual queue)) (rest : List (Span × Nat))
    : world.KeepsSchedulers
        { world with schedulers := world.schedulers.set scheduler (.manual rest) } where
  kinds := by
    obtain ⟨inside, same⟩ := List.getElem?_eq_some_iff.mp there
    have emptied : Scheduler.emptied (.manual rest) = world.schedulers[scheduler].emptied := by
      rw [same]
      rfl
    rw [List.map_set, emptied, ← List.map_set, List.set_getElem_self]
  queues := rfl
  now := Nat.le_refl _

theorem post (world : World) (scheduler : Nat) (delay : Span) (number : Nat)
    : world.KeepsSchedulers (world.post scheduler delay number) := by
  unfold World.post
  split
  · rename_i there
    exact .requeue there _
  · refine .of_same rfl (Agenda.length_queues_post _ _ _ _) ?_
    exact world.agenda.now_post scheduler delay.ticks (.retry number)
  · exact .of_same rfl rfl rfl
  · exact .of_same rfl rfl rfl

theorem cancel (world : World) (scheduler : Nat) (about : Option Nat)
    : world.KeepsSchedulers (world.cancel scheduler about) := by
  cases there : world.schedulers[scheduler]? with
  | none =>
      simp only [World.cancel, there]
      exact .of_same rfl rfl rfl
  | some kind =>
      cases kind with
      | manual queue =>
          simp only [World.cancel, there]
          exact .requeue there []
      | inline =>
          simp only [World.cancel, there]
          exact .of_same rfl rfl rfl
      | timed =>
          rw [cancel_of_timed there]
          exact .of_same rfl (Agenda.length_queues_cancel _ _) rfl

/-- A cycle posts one retry at most, and touches no scheduler otherwise. -/
theorem cycled (world : World) (number scheduler : Nat) (cycle : Coordinator.Cycle)
    : world.KeepsSchedulers (world.cycled number scheduler cycle) := by
  have recorded : world.KeepsSchedulers (world.recorded number cycle) := .of_same rfl rfl rfl
  exact cycled_keeps recorded fun delay => recorded.trans (post _ _ _ _)

end KeepsSchedulers

-----------------------------------------------------------------------------------------
-- Retries still pending
-----------------------------------------------------------------------------------------

/-- Whether a task on the agenda is a retry of a coordinator. -/
def isRetryOf (number : Nat) (posting : Posting Task) : Bool := posting.task = .retry number

/-- The number of retries of a coordinator that are still pending, wherever they are kept. -/
def kept (world : World) (number : Nat) : Nat :=
  total (Scheduler.keeps number) world.schedulers + world.agenda.tasks.countP (isRetryOf number)

/-- The number of retries of a coordinator that one scheduler keeps. -/
def keptOn (world : World) (scheduler number : Nat) : Nat :=
  match world.schedulers[scheduler]? with
  | some (.manual queue) => queue.countP (·.2 = number)
  | some .timed =>
      world.agenda.tasks.countP fun posting =>
        decide (posting.queue = scheduler) && isRetryOf number posting
  | some .inline | none => 0

/-- The retries of a coordinator that are still pending, those in manual queues first. -/
def retries (world : World) (number : Nat) : List Retry :=
  (world.schedulers.mapIdx (Scheduler.retries number)).flatten
    ++ (world.agenda.tasks.filter (isRetryOf number)).map Posting.retry

theorem length_retries (world : World) (number : Nat)
    : (world.retries number).length = world.kept number := by
  have byHand {held : Nat → Scheduler → List Retry}
      (counts : ∀ scheduler kind, (held scheduler kind).length = kind.keeps number)
      (schedulers : List Scheduler)
      : (schedulers.mapIdx held).flatten.length = total (Scheduler.keeps number) schedulers := by
    induction schedulers generalizing held with
    | nil => rfl
    | cons kind rest ih =>
        have later := ih fun scheduler kind => counts (scheduler + 1) kind
        rw [List.mapIdx_cons, List.flatten_cons, List.length_append, counts, later, total]
  rw [retries, List.length_append, byHand (Scheduler.length_retries number), List.length_map,
    ← List.countP_eq_length_filter]
  rfl

/-- A scheduler that keeps something else changes the retries by what it kept and what it keeps. -/
theorem retries_set (world : World) {scheduler : Nat} {old : Scheduler}
    (there : world.schedulers[scheduler]? = some old) (new : Scheduler) (number : Nat)
    : (({ world with schedulers := world.schedulers.set scheduler new } : World).retries number
        ++ old.retries number scheduler).Perm
        (world.retries number ++ new.retries number scheduler) := by
  obtain ⟨inside, same⟩ := List.getElem?_eq_some_iff.mp there
  have within : scheduler < (world.schedulers.mapIdx (Scheduler.retries number)).length := by
    rwa [List.length_mapIdx]
  have before := (List.getElem_cons_eraseIdx_perm within).flatten
  have after := (List.set_perm_cons_eraseIdx within (new.retries number scheduler)).flatten
  rw [List.getElem_mapIdx, same] at before
  simp only [retries, List.mapIdx_set]
  simp only [List.perm_iff_count, List.flatten_cons, List.count_append] at before after ⊢
  intro retry
  have := before retry
  have := after retry
  omega

/-- Posting a retry on a scheduler that keeps it makes one more pending retry of its coordinator, as
it was posted.
-/
theorem retries_post (world : World) {scheduler : Nat} {kind : Scheduler}
    (there : world.schedulers[scheduler]? = some kind)
    (queues : world.agenda.queues.length = world.schedulers.length) (keeps : kind ≠ .inline)
    (delay : Span) (number other : Nat)
    : ((world.post scheduler delay number).retries other).Perm
        ((if number = other then [kind.posted scheduler delay world.agenda.now] else [])
          ++ world.retries other) := by
  cases kind with
  | manual queue =>
      have grown := world.retries_set there (.manual (queue ++ [(delay, number)])) other
      have one
          : ([(delay, number)].filter (·.2 = other)).map
              (fun retry => Retry.byHand scheduler retry.1)
            = if number = other then [.byHand scheduler delay] else [] := by
        by_cases own : number = other <;> simp [own]
      simp only [Scheduler.retries, List.filter_append, List.map_append, one] at grown
      simp only [post, there, Scheduler.posted]
      simp only [List.perm_iff_count, List.count_append] at grown ⊢
      intro retry
      have := grown retry
      omega
  | inline => exact absurd rfl keeps
  | timed =>
      have inside := (List.getElem?_eq_some_iff.mp there).1
      have queued := List.getElem?_eq_getElem (queues ▸ inside)
      have grown := ((Agenda.tasks_post_perm queued delay.ticks (.retry number)).filter
        (isRetryOf other)).map Posting.retry
      simp only [post, there, retries, note]
      rw [List.filter_cons] at grown
      by_cases own : number = other
      · rw [if_pos own]
        rw [if_pos (by simp [isRetryOf, own])] at grown
        exact (grown.append_left _).trans List.perm_middle
      · rw [if_neg own]
        rw [if_neg (by simp [isRetryOf, own])] at grown
        exact grown.append_left _

-----------------------------------------------------------------------------------------
-- Taking retries off
-----------------------------------------------------------------------------------------

/-- A number of retries of a coordinator are taken off those pending, and none is added: all others
are pending as they were posted.
-/
def Loses (number count : Nat) (before after : World) : Prop :=
  ∃ taken : List Retry,
    taken.length = count ∧ (before.retries number).Perm (taken ++ after.retries number)

namespace Loses

variable {number count : Nat} {before after : World}

/-- Where the schedulers keep what they kept, and the agenda its tasks, nothing is lost. -/
theorem of_same (schedulers : after.schedulers = before.schedulers)
    (tasks : after.agenda.tasks = before.agenda.tasks)
    : before.Loses number 0 after := by
  refine ⟨[], rfl, ?_⟩
  rw [List.nil_append, retries, retries, schedulers, tasks]

/-- What is lost is not pending any more, and all else is. -/
theorem kept (loses : before.Loses number count after)
    : before.kept number = after.kept number + count := by
  obtain ⟨taken, length, perm⟩ := loses
  have counted := perm.length_eq
  rw [List.length_append, length_retries, length_retries, length] at counted
  rw [counted, Nat.add_comm]

/-- A post for another coordinator takes none off. -/
theorem post_other (world : World)
    (queues : world.agenda.queues.length = world.schedulers.length) {other : Nat}
    (ne : other ≠ number) (scheduler : Nat) (delay : Span)
    : world.Loses number 0 (world.post scheduler delay other) := by
  cases there : world.schedulers[scheduler]? with
  | none =>
      simp only [post, there]
      exact .of_same rfl rfl
  | some kind =>
      by_cases keeps : kind = .inline
      · subst keeps
        rw [post_of_inline there]
        exact .of_same rfl rfl
      · have grown := world.retries_post there queues keeps delay other number
        rw [if_neg ne] at grown
        exact ⟨[], rfl, grown.symm⟩

/-- A manual queue that keeps fewer retries than before has lost those that were taken off. -/
theorem requeue {world : World} {scheduler : Nat} {queue off rest : List (Span × Nat)}
    (there : world.schedulers[scheduler]? = some (.manual queue)) (parts : queue.Perm (off ++ rest))
    : world.Loses number (off.countP (·.2 = number))
        { world with schedulers := world.schedulers.set scheduler (.manual rest) } := by
  refine ⟨(Scheduler.manual off).retries number scheduler, ?_, ?_⟩
  · exact Scheduler.length_retries number scheduler (.manual off)
  · have changed := world.retries_set there (.manual rest) number
    have split := (parts.filter (·.2 = number)).map fun retry => Retry.byHand scheduler retry.1
    rw [List.filter_append, List.map_append] at split
    simp only [Scheduler.retries] at changed ⊢
    simp only [List.perm_iff_count, List.count_append] at changed split ⊢
    intro retry
    have := changed retry
    have := split retry
    omega

/-- What is cancelled on a scheduler is what it kept. -/
theorem cancel {world : World} (sound : world.agenda.Sound) (scheduler : Nat)
    (about : Option Nat) (number : Nat)
    : world.Loses number (world.keptOn scheduler number) (world.cancel scheduler about) := by
  unfold keptOn
  cases there : world.schedulers[scheduler]? with
  | none =>
      simp only [World.cancel, there]
      exact .of_same rfl rfl
  | some kind =>
      cases kind with
      | manual queue =>
          simp only [World.cancel, there]
          exact .requeue there (.of_eq (List.append_nil queue).symm)
      | inline =>
          simp only [World.cancel, there]
          exact .of_same rfl rfl
      | timed =>
          let own : Posting Task → Bool := fun posting => decide (posting.queue = scheduler)
          refine ⟨((world.agenda.tasks.filter fun posting =>
            own posting && isRetryOf number posting)).map Posting.retry, ?_, ?_⟩
          · rw [List.length_map, ← List.countP_eq_length_filter]
          · have parts := List.filter_append_perm own (world.agenda.tasks.filter (isRetryOf number))
            have others
                : (world.agenda.cancel scheduler).tasks.filter (isRetryOf number)
                  = (world.agenda.tasks.filter (isRetryOf number)).filter fun posting =>
                      !own posting := by
              rw [Agenda.tasks_cancel sound, List.filter_filter, List.filter_filter]
              refine List.filter_congr fun posting _ => ?_
              simp [own, Bool.and_comm]
            rw [List.filter_filter, ← others] at parts
            have listed := (parts.map Posting.retry).symm.append_left
              (world.schedulers.mapIdx (Scheduler.retries number)).flatten
            rw [List.map_append] at listed
            rw [cancel_of_timed there]
            exact listed.trans (List.perm_append_comm_assoc _ _ _)

/-- A turn takes off the retry that it runs, if it runs one, and no other. -/
theorem turn {world : World} {task : Option Task} {agenda : Agenda Task}
    (turn : world.agenda.Turn task agenda) (number : Nat)
    : world.Loses number (if task = some (.retry number) then 1 else 0) { world with agenda } := by
  obtain ⟨ran, tasks, perm⟩ := turn.tasks_perm
  refine ⟨(ran.filter (isRetryOf number)).map Posting.retry, ?_, ?_⟩
  · have mapped
        : ran.countP (isRetryOf number)
          = (ran.map (·.task)).countP (fun task => decide (task = .retry number)) := by
      rw [List.countP_map]
      rfl
    rw [List.length_map, ← List.countP_eq_length_filter, mapped, tasks]
    cases task <;> simp
  · have split := ((perm.filter (isRetryOf number)).map Posting.retry).append_left
      (world.schedulers.mapIdx (Scheduler.retries number)).flatten
    rw [List.filter_append, List.map_append] at split
    exact split.trans (List.perm_append_comm_assoc _ _ _)

/-- The clock takes no retry off. -/
theorem moveTo (world : World) (time number : Nat) : world.Loses number 0 (world.moveTo time) :=
  .of_same rfl (Agenda.tasks_moveTo _ _)

end Loses

end World

end UpdaterLaunch
