import UpdaterLaunch.Agenda
import UpdaterLaunch.Answer
import UpdaterLaunch.Exhaust
import UpdaterLaunch.Notice

/-! Errands on the queues of an agenda. An errand has a label to be known by, and chores that it
does when it runs: it may post further errands, cancel queues, or let go of them. What it posts is
smaller than it is, so every rota comes to rest.
-/

namespace UpdaterLaunch

/-- Something to be done with a queue. -/
inductive Chore
  | post (queue delay : Nat) (label : String) (chores : List Chore)
  | cancel (queue : Nat)
  /-- Lets go of a queue: it takes no requests any more, but its tasks still run. -/
  | drop (queue : Nat)

namespace Chore

/-- The queue that a chore is about. -/
def queue : Chore → Nat
  | .post queue _ _ _ | .cancel queue | .drop queue => queue

mutual

/-- The number of posts in a chore, those of the errand that it posts included. -/
def weight : Chore → Nat
  | .post _ _ _ chores => 1 + weights chores
  | .cancel _ | .drop _ => 0

/-- The number of posts in a list of chores. -/
def weights : List Chore → Nat
  | [] => 0
  | chore :: rest => chore.weight + weights rest

end

end Chore

/-- A labelled task that does some chores when it runs. -/
structure Errand where
  label : String
  chores : List Chore

-----------------------------------------------------------------------------------------
-- Rotas and doing chores
-----------------------------------------------------------------------------------------

/-- An agenda of errands, the queues that were let go of, and the errands that have run, with
their times, the last one first.
-/
structure Rota where
  agenda : Agenda Errand := {}
  dropped : List Nat := []
  fired : List (String × Nat) := []
  /-- What was worth a line in the log, the last line first. -/
  notices : List Notice := []

namespace Rota

/-- A rota with a number of queues at time 0. -/
def ofQueues (count : Nat) : Rota := { agenda := .ofQueues count }

/-- Whether a queue is there and was not let go of. -/
def serves (rota : Rota) (queue : Nat) : Bool :=
  queue < rota.agenda.queues.length && !rota.dropped.contains queue

/-- The number of tasks still to run on a queue that is served. -/
def pending? (rota : Rota) (queue : Nat) : Option Nat :=
  if rota.serves queue then some (rota.agenda.pending queue) else none

/-- The rota with a line more in its log. -/
def note (rota : Rota) (notice : Notice) : Rota :=
  { rota with notices := notice :: rota.notices }

/-- Posts an errand, which gets the next number of its queue. -/
def post (rota : Rota) (queue delay : Nat) (errand : Errand) : Rota :=
  { rota with agenda := rota.agenda.post queue delay errand }.note
    (.retryScheduled (rota.agenda.nextId queue))

/-- Cancels a queue; that is worth a line if there was something to cancel. -/
def cancel (rota : Rota) (queue : Nat) : Rota :=
  let after := { rota with agenda := rota.agenda.cancel queue }
  match rota.agenda.pending queue with
  | 0 => after
  | count + 1 => after.note (.retriesCancelled (count + 1))

/-- Does a chore, unless its queue is not served. -/
def perform (rota : Rota) (chore : Chore) : Rota :=
  if rota.serves chore.queue then
    match chore with
    | .post queue delay label chores => rota.post queue delay ⟨label, chores⟩
    | .cancel queue => rota.cancel queue
    | .drop queue => { rota with dropped := queue :: rota.dropped }
  else rota

/-- Runs an errand now. -/
def run (rota : Rota) (errand : Errand) : Rota :=
  errand.chores.foldl perform
    { rota with fired := (errand.label, rota.agenda.now) :: rota.fired }

/-- Gives the next turn, or moves the clock to the next due time before a given one; an errand that
is to run then does so.
-/
def wake? (before : Nat) (rota : Rota) : Option Rota :=
  (rota.agenda.wake? before).map fun (errand, agenda) =>
    match errand with
    | none => { rota with agenda }
    | some errand => run { rota with agenda } errand

-----------------------------------------------------------------------------------------
-- What runs is heavier than what it posts
-----------------------------------------------------------------------------------------

/-- The work that is to come, at most. -/
def size (rota : Rota) : Nat := rota.agenda.load fun errand => 3 * Chore.weights errand.chores

/-- A chore adds no more than its weight, each post counting thrice. -/
theorem size_perform_le (rota : Rota) (chore : Chore)
    : (rota.perform chore).size ≤ rota.size + 3 * chore.weight := by
  unfold perform
  split
  · cases chore with
    | post queue delay label chores =>
        refine Nat.le_trans (Agenda.load_post_le _ rota.agenda queue delay ⟨label, chores⟩) ?_
        simp only [size, Chore.weight]
        omega
    | cancel queue =>
        refine Nat.le_trans (m := rota.size) ?_ (Nat.le_add_right _ _)
        have := Agenda.load_cancel_le (fun errand : Errand => 3 * Chore.weights errand.chores)
          rota.agenda queue
        simp only [cancel]
        split <;> exact this
    | drop queue => exact Nat.le_add_right _ _
  · exact Nat.le_add_right _ _

/-- Chores add no more than their weight together. -/
theorem size_foldl_perform_le (chores : List Chore) (rota : Rota)
    : (chores.foldl perform rota).size ≤ rota.size + 3 * Chore.weights chores := by
  induction chores generalizing rota with
  | nil => simp
  | cons chore rest ih =>
      have first := size_perform_le rota chore
      have later := ih (rota.perform chore)
      simp only [List.foldl_cons, Chore.weights]
      omega

/-- What is woken is heavier than what its chores bring back. -/
theorem size_wake_lt (before : Nat) (rota after : Rota) (h : rota.wake? before = some after)
    : after.size < rota.size := by
  obtain ⟨⟨errand, agenda⟩, woken, rfl⟩ := Option.map_eq_some_iff.mp h
  have less := Agenda.load_wake_lt (fun errand : Errand => 3 * Chore.weights errand.chores) woken
  cases errand with
  | none => exact less
  | some errand => exact Nat.lt_of_le_of_lt (size_foldl_perform_le _ _) less

-----------------------------------------------------------------------------------------
-- Letting the clock run, and requests
-----------------------------------------------------------------------------------------

/-- Runs everything that is due before a time, and what that posts, each at its own time. -/
def runBefore (rota : Rota) (before : Nat) : Rota :=
  exhaust (wake? before) size (size_wake_lt before) rota

/-- Runs everything that is due by now. -/
def settle (rota : Rota) : Rota := rota.runBefore (rota.agenda.now + 1)

/-- Lets time pass, if any: everything due strictly before the new time runs. -/
def advance (rota : Rota) (ms : Nat) : Rota :=
  if ms = 0 then rota
  else
    let time := rota.agenda.now + ms
    let rota := rota.runBefore time
    { rota with agenda := rota.agenda.moveTo time }

/-- Everything that can be asked of a rota. -/
inductive Request
  | chore (chore : Chore)
  | pending (queue : Nat)
  | advance (ms : Nat)

/-- Handles a request. -/
def handle (rota : Rota) : Request → Answer × Rota
  | .chore chore =>
      if rota.serves chore.queue then (.done, rota.perform chore)
      else (.refused .noScheduler, rota)
  | .pending queue =>
      match rota.pending? queue with
      | some count => (.number count, rota)
      | none => (.refused .noScheduler, rota)
  | .advance ms => (.done, rota.advance ms)

end Rota

end UpdaterLaunch
