import UpdaterLaunch.Total

/-! Delayed tasks on one clock. A task is posted on a queue with a delay and gets in line. A task in
line that is due runs when its turn comes; any other goes to sleep until the clock reaches its due
time, and then gets in line again. Of tasks due at the same time the one posted first runs first.
Cancelling a queue silences all that was posted on it before: its sleepers are gone, and a task in
line only loses its turn. Two records of this are kept: the queue counts its cancellations, and a
task with an older count stays silent; and the queue lists the tasks that are still to run.
-/

namespace UpdaterLaunch

universe u

/-- A task as it was posted. -/
structure Posting (τ : Type u) where
  due : Nat
  queue : Nat
  /-- The number of the task on its queue, counted from 0 in posting order. -/
  id : Nat
  /-- How often the queue had been cancelled when the task was posted. -/
  generation : Nat
  task : τ

/-- What is known of one queue. -/
structure Queue where
  /-- How often the queue has been cancelled. -/
  generation : Nat := 0
  /-- The number of the next task. -/
  nextId : Nat := 0
  /-- The numbers of the tasks still to run. -/
  pending : List Nat := []
deriving DecidableEq, Inhabited

/-- A clock in milliseconds, its queues, and the tasks posted on them. -/
structure Agenda (τ : Type u) where
  now : Nat := 0
  queues : List Queue := []
  /-- The tasks in line: those posted lately, and those that woke up lately. -/
  ready : List (Posting τ) := []
  /-- The tasks asleep, by due time and then posting order. -/
  sleepers : List (Posting τ) := []

namespace Agenda

variable {τ : Type u}

instance : Inhabited (Agenda τ) := ⟨{}⟩

-----------------------------------------------------------------------------------------
-- Posting and cancelling
-----------------------------------------------------------------------------------------

/-- A clock at 0 with a number of queues. -/
def ofQueues (count : Nat) : Agenda τ := { queues := List.replicate count {} }

/-- The agenda with one more queue. -/
def addQueue (agenda : Agenda τ) : Agenda τ := { agenda with queues := agenda.queues ++ [{}] }

/-- The milliseconds of thirty years of 365 days: nothing sleeps longer at a time. -/
def longestSleep : Nat := 30 * 365 * 24 * 60 * 60 * 1000

/-- When a task is due that is posted now with a delay; a delay too long for one sleep is cut. -/
def dueAfter (agenda : Agenda τ) (delay : Nat) : Nat := agenda.now + min delay longestSleep

/-- Posts a task, to run `delay` milliseconds from now. A queue that is not there takes none. -/
def post (agenda : Agenda τ) (queue delay : Nat) (task : τ) : Agenda τ :=
  match agenda.queues[queue]? with
  | none => agenda
  | some q =>
      { agenda with
        queues := agenda.queues.set queue
          { q with nextId := q.nextId + 1, pending := q.pending ++ [q.nextId] }
        ready := agenda.ready ++
          [{ due := agenda.dueAfter delay, queue, id := q.nextId, generation := q.generation,
             task }] }

/-- The number that the next task posted on a queue gets. -/
def nextId (agenda : Agenda τ) (queue : Nat) : Nat :=
  ((agenda.queues[queue]?).map (·.nextId)).getD 0

/-- How many tasks of a queue are still to run. -/
def pending (agenda : Agenda τ) (queue : Nat) : Nat :=
  ((agenda.queues[queue]?).map (·.pending.length)).getD 0

/-- Silences all tasks of a queue that have not run yet. -/
def cancel (agenda : Agenda τ) (queue : Nat) : Agenda τ :=
  { agenda with
    queues := agenda.queues.modify queue fun q =>
      { q with generation := q.generation + 1, pending := [] }
    sleepers := agenda.sleepers.filter (·.queue ≠ queue) }

-----------------------------------------------------------------------------------------
-- Turns and the clock
-----------------------------------------------------------------------------------------

/-- Puts a task behind all that are due no later. -/
def insertByDue (posting : Posting τ) : List (Posting τ) → List (Posting τ)
  | [] => [posting]
  | first :: rest =>
      if first.due ≤ posting.due then first :: insertByDue posting rest
      else posting :: first :: rest

/-- Whether the queue of a task was not cancelled since the task was posted. -/
def isLive (agenda : Agenda τ) (posting : Posting τ) : Bool :=
  (agenda.queues[posting.queue]?).any (·.generation = posting.generation)

/-- Strikes a task off the tasks that its queue has still to run. -/
def strike (agenda : Agenda τ) (posting : Posting τ) : Agenda τ :=
  { agenda with
    queues := agenda.queues.modify posting.queue fun q =>
      { q with pending := q.pending.erase posting.id } }

/-- Gives the first task in line its turn. It is to run now if it is due, and goes to sleep if it is
not; a silenced task is gone.
-/
def turn? (agenda : Agenda τ) : Option (Option τ × Agenda τ) :=
  match agenda.ready with
  | [] => none
  | first :: rest =>
      let others := { agenda with ready := rest }
      if !agenda.isLive first then some (none, others)
      else if first.due ≤ agenda.now then some (some first.task, others.strike first)
      else some (none, { others with sleepers := insertByDue first agenda.sleepers })

/-- When the next sleeper wakes. -/
def next? (agenda : Agenda τ) : Option Nat := agenda.sleepers.head?.map (·.due)

/-- Moves the clock forward to a time, which wakes all that is due by then; it never moves back. -/
def moveTo (agenda : Agenda τ) (time : Nat) : Agenda τ :=
  let now := max agenda.now time
  { agenda with
    now
    ready := agenda.ready ++ agenda.sleepers.takeWhile (·.due ≤ now)
    sleepers := agenda.sleepers.dropWhile (·.due ≤ now) }

/-- Gives the next turn, or moves the clock if nobody is in line and the next sleeper is due before
a given time. What there is to run now comes with it.
-/
def wake? (agenda : Agenda τ) (before : Nat) : Option (Option τ × Agenda τ) :=
  match agenda.turn? with
  | some turn => some turn
  | none => (agenda.next?.filter (· < before)).map fun due => (none, agenda.moveTo due)

-----------------------------------------------------------------------------------------
-- Turns come to an end
-----------------------------------------------------------------------------------------

/-- The work that a task in line comes to at most, if running it brings about so much more. A task
that has to go to sleep first counts thrice.
-/
def loadInLine (extra : τ → Nat) (now : Nat) (posting : Posting τ) : Nat :=
  (if posting.due ≤ now then 1 else 3) + extra posting.task

/-- The work that a task asleep comes to at most: it wakes, and then it runs. -/
def loadAsleep (extra : τ → Nat) (posting : Posting τ) : Nat := 2 + extra posting.task

/-- The work that is in an agenda at most, if running a task brings about so much more. -/
def load (extra : τ → Nat) (agenda : Agenda τ) : Nat :=
  total (loadInLine extra agenda.now) agenda.ready + total (loadAsleep extra) agenda.sleepers

/-- Among tasks by due time, one more adds its own size, wherever it is put. -/
theorem total_insertByDue (size : Posting τ → Nat) (posting : Posting τ)
    (postings : List (Posting τ))
    : total size (insertByDue posting postings) = size posting + total size postings := by
  fun_induction insertByDue posting postings with
  | case1 => rfl
  | case2 first rest _ ih => simp only [total, ih]; omega
  | case3 first rest _ => rfl

/-- A post adds one task to the line at most. -/
theorem load_post_le (extra : τ → Nat) (agenda : Agenda τ) (queue delay : Nat) (task : τ)
    : (agenda.post queue delay task).load extra ≤ agenda.load extra + (3 + extra task) := by
  unfold post
  split
  · exact Nat.le_add_right _ _
  · simp only [load, total_append, total, loadInLine]
    split <;> omega

/-- Cancelling adds nothing. -/
theorem load_cancel_le (extra : τ → Nat) (agenda : Agenda τ) (queue : Nat)
    : (agenda.cancel queue).load extra ≤ agenda.load extra :=
  Nat.add_le_add_left (total_filter_le _ _ _) _

/-- A turn takes more off the line than what is to run brings about. -/
theorem load_turn_lt (extra : τ → Nat) {agenda after : Agenda τ} {task : Option τ}
    (h : agenda.turn? = some (task, after))
    : after.load extra + task.elim 0 extra < agenda.load extra := by
  unfold turn? at h
  split at h
  · simp at h
  · rename_i first rest line
    have whole : agenda.load extra = loadInLine extra agenda.now first
        + total (loadInLine extra agenda.now) rest + total (loadAsleep extra) agenda.sleepers := by
      simp only [load, line, total]
    rw [whole]
    dsimp only at h
    split at h
    · obtain ⟨rfl, rfl⟩ := Prod.mk.inj (Option.some.inj h)
      have least : 1 ≤ loadInLine extra agenda.now first := by
        unfold loadInLine
        split <;> omega
      simp only [load, Option.elim_none]
      omega
    · split at h
      · rename_i due
        obtain ⟨rfl, rfl⟩ := Prod.mk.inj (Option.some.inj h)
        have own : loadInLine extra agenda.now first = 1 + extra first.task := by
          simp only [loadInLine, if_pos due]
        simp only [load, strike, Option.elim_some]
        omega
      · rename_i early
        obtain ⟨rfl, rfl⟩ := Prod.mk.inj (Option.some.inj h)
        have own : loadInLine extra agenda.now first = 3 + extra first.task := by
          simp only [loadInLine, if_neg early]
        simp only [load, total_insertByDue, loadAsleep, Option.elim_none]
        omega

/-- A task in line weighs no more as time passes. -/
theorem loadInLine_le (extra : τ → Nat) {now later : Nat} (le : now ≤ later)
    (posting : Posting τ)
    : loadInLine extra later posting ≤ loadInLine extra now posting := by
  unfold loadInLine
  split <;> split <;> omega

/-- Among tasks that are due, being in line counts one less than being asleep. -/
theorem total_loadInLine (extra : τ → Nat) (now : Nat) (postings : List (Posting τ))
    (due : ∀ p ∈ postings, p.due ≤ now)
    : total (loadInLine extra now) postings + postings.length
      = total (loadAsleep extra) postings := by
  induction postings with
  | nil => rfl
  | cons first rest ih =>
      have later := ih fun p member => due p (List.mem_cons_of_mem _ member)
      simp only [total, List.length_cons, loadInLine, loadAsleep,
        if_pos (due first List.mem_cons_self)] at *
      omega

/-- An agenda whose clock has moved to the next due time has less to do, as a sleeper woke up. -/
theorem load_moveTo_lt (extra : τ → Nat) {agenda : Agenda τ} {due : Nat}
    (h : agenda.next? = some due)
    : (agenda.moveTo due).load extra < agenda.load extra := by
  have line := total_le_total agenda.ready
    (loadInLine_le extra (Nat.le_max_left agenda.now due))
  have reached := Nat.le_max_right agenda.now due
  simp only [load, moveTo, total_append]
  generalize max agenda.now due = now at *
  have woken := total_loadInLine extra now (agenda.sleepers.takeWhile (·.due ≤ now))
    fun p member => by simpa using List.all_eq_true.mp List.all_takeWhile p member
  have someone : 0 < (agenda.sleepers.takeWhile (·.due ≤ now)).length := by
    obtain ⟨first, head, rfl⟩ := Option.map_eq_some_iff.mp h
    obtain ⟨rest, sleepers⟩ := List.head?_eq_some_iff.mp head
    simp [sleepers, reached]
  have parts := total_append (loadAsleep extra)
    (agenda.sleepers.takeWhile (·.due ≤ now)) (agenda.sleepers.dropWhile (·.due ≤ now))
  rw [List.takeWhile_append_dropWhile] at parts
  omega

/-- Whatever is woken takes more off the agenda than what is to run brings about. -/
theorem load_wake_lt (extra : τ → Nat) {agenda after : Agenda τ} {before : Nat}
    {task : Option τ} (h : agenda.wake? before = some (task, after))
    : after.load extra + task.elim 0 extra < agenda.load extra := by
  unfold wake? at h
  split at h
  · rename_i turn eq
    exact load_turn_lt extra (eq.trans h)
  · obtain ⟨due, next, eq⟩ := Option.map_eq_some_iff.mp h
    obtain ⟨rfl, rfl⟩ := Prod.mk.inj eq
    exact load_moveTo_lt extra (Option.filter_eq_some_iff.mp next).1

end Agenda

end UpdaterLaunch
