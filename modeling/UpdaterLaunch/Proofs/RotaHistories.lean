import UpdaterLaunch.Agenda.Rota
import UpdaterLaunch.Proofs.TaskHistories
import UpdaterLaunch.Proofs.Trails

/-! Every run of a rota has a history, which its list of fired errands is taken from. An errand may
post and cancel while it runs; that comes after its own mark in the history, and nobody has a turn
before it is over. So the law of histories is a law of callbacks.
-/

namespace UpdaterLaunch.Rota

universe u

-----------------------------------------------------------------------------------------
-- Runs and their histories
-----------------------------------------------------------------------------------------

/-- What moves a rota on: a request by itself, or everything that is due by now. -/
inductive Move
  | request (request : Request)
  | settle

/-- The rota after a move. -/
def move (rota : Rota) : Move → Rota
  | .request request => (rota.handle request).2
  | .settle => rota.settle

/-- The rota after a run. -/
def after (rota : Rota) (moves : List Move) : Rota := moves.foldl move rota

/-- What a chore leaves in the history. -/
def deedOf (rota : Rota) (chore : Chore) : List (Deed Errand) :=
  if rota.serves chore.queue then
    match chore with
    | .post queue delay label chores =>
        (rota.agenda.queues[queue]?).toList.map fun q =>
          .posted rota.agenda.now delay (rota.agenda.newPosting queue q delay ⟨label, chores⟩)
    | .cancel queue => [.cancelled queue]
    | .drop _ => []
  else []

/-- What chores leave in the history, one after the other. -/
def deedsOf (rota : Rota) : List Chore → List (Deed Errand)
  | [] => []
  | chore :: rest => rota.deedOf chore ++ (rota.perform chore).deedsOf rest

/-- What a waking leaves in the history: if whoever is first in line runs, that and its chores. -/
def deedsAt (before : Nat) (rota : Rota) : List (Deed Errand) :=
  match rota.agenda.ready, rota.agenda.wake? before with
  | first :: _, some (some errand, agenda) =>
      .ran rota.agenda.now first
        :: deedsOf { rota with agenda, fired := (errand.label, agenda.now) :: rota.fired }
            errand.chores
  | _, _ => []

/-- What everything that is due before a time leaves in the history. -/
def deedsBefore (before : Nat) (rota : Rota) : List (Deed Errand) :=
  (trail (wake? before) size (size_wake_lt before) rota).flatMap (deedsAt before)

/-- What a move leaves in the history. -/
def deedsOfMove (rota : Rota) : Move → List (Deed Errand)
  | .request (.chore chore) => rota.deedOf chore
  | .request (.pending _) => []
  | .request (.advance ms) =>
      if ms = 0 then [] else rota.deedsBefore (rota.agenda.now + ms)
  | .settle => rota.deedsBefore (rota.agenda.now + 1)

/-- The history of a run. -/
def history (rota : Rota) : List Move → List (Deed Errand)
  | [] => []
  | move :: rest => rota.deedsOfMove move ++ (rota.move move).history rest

-----------------------------------------------------------------------------------------
-- The history of a rota is one of its agenda
-----------------------------------------------------------------------------------------

/-- A rota that started with a number of queues has a history, and has fired what ran in it. -/
structure Recorded (count : Nat) (deeds : List (Deed Errand)) (rota : Rota) : Prop where
  chronicle : Agenda.Chronicle (.ofQueues count) deeds rota.agenda
  fired : rota.fired.reverse = (Deed.runs deeds).map fun run => (run.2.task.label, run.1)

variable {count : Nat} {rota : Rota} {deeds : List (Deed Errand)}

theorem wake?_runBefore (rota : Rota) (before : Nat)
    : wake? before (rota.runBefore before) = none :=
  step_exhaust rota

theorem idle_ofQueues {τ : Type u} (count : Nat) : (Agenda.ofQueues count : Agenda τ).Idle :=
  ⟨rfl, rfl⟩

theorem nextId_ofQueues {τ : Type u} (count queue : Nat)
    : (Agenda.ofQueues count : Agenda τ).nextId queue = 0 := by
  simp only [Agenda.ofQueues, Agenda.nextId, List.getElem?_replicate]
  split <;> rfl

namespace Recorded

theorem ranked (recorded : rota.Recorded count deeds) : rota.agenda.Ranked :=
  recorded.chronicle.ranked (idle_ofQueues count)

theorem perform (recorded : rota.Recorded count deeds) (chore : Chore)
    : (rota.perform chore).Recorded count (deeds ++ rota.deedOf chore) := by
  obtain ⟨chronicle, fired⟩ := recorded
  unfold Rota.perform deedOf
  split
  · rename_i serves
    cases chore with
    | post queue delay label chores =>
        have inside : queue < rota.agenda.queues.length :=
          of_decide_eq_true (Bool.and_eq_true_iff.mp serves).1
        have there := List.getElem?_eq_getElem inside
        simp only [there]
        refine ⟨chronicle.post there delay ⟨label, chores⟩, ?_⟩
        simp only [Option.toList_some, List.map_cons, List.map_nil, Deed.runs_posted]
        exact fired
    | cancel queue =>
        simp only [Rota.cancel]
        constructor
        · split <;> exact chronicle.cancel queue
        · rw [Deed.runs_cancelled]
          split <;> exact fired
    | drop queue => exact ⟨by simpa using chronicle, by simpa using fired⟩
  · exact ⟨by simpa using chronicle, by simpa using fired⟩

theorem performs (recorded : rota.Recorded count deeds) (chores : List Chore)
    : (chores.foldl Rota.perform rota).Recorded count (deeds ++ rota.deedsOf chores) := by
  induction chores generalizing rota deeds with
  | nil =>
      rw [deedsOf, List.append_nil]
      exact recorded
  | cons chore rest ih =>
      have later := ih (recorded.perform chore)
      rwa [List.append_assoc] at later

/-- An errand that is to run leaves its mark before it does any chores. -/
theorem begin (recorded : rota.Recorded count deeds) {first : Posting Errand}
    {rest : List (Posting Errand)} (line : rota.agenda.ready = first :: rest)
    (live : rota.agenda.isLive first = true) (due : first.due ≤ rota.agenda.now)
    : Recorded count (deeds ++ [.ran rota.agenda.now first])
        { rota with
          agenda := { rota.agenda with ready := rest }.strike first
          fired := (first.task.label, rota.agenda.now) :: rota.fired } where
  chronicle := recorded.chronicle.run line live due
  fired := by
    rw [List.reverse_cons, recorded.fired, Deed.runs_ran, List.map_append]
    rfl

/-- A waking is a turn or a step of the clock to the next due time, and an errand that is to run
then does its chores before anything else happens.
-/
theorem wake {before : Nat} {after : Rota} (recorded : rota.Recorded count deeds)
    (woken : rota.wake? before = some after)
    : after.Recorded count (deeds ++ rota.deedsAt before) := by
  obtain ⟨⟨errand, agenda⟩, next, rfl⟩ := Option.map_eq_some_iff.mp woken
  have ranked := recorded.ranked
  obtain ⟨chronicle, fired⟩ := recorded
  have quiet (silent : errand = none) : rota.deedsAt before = [] := by
    unfold deedsAt
    rw [next, silent]
    split
    · simp_all
    · rfl
  rcases Agenda.wake?_cases next with turn | ⟨rfl, line, due, first, -, rfl⟩
  · cases errand with
    | none =>
        rw [quiet rfl, List.append_nil]
        exact ⟨chronicle.pass turn, fired⟩
    | some errand =>
        cases turn with
        | @runs first rest line live due =>
            have marks : rota.deedsAt before
                = [.ran rota.agenda.now first]
                  ++ deedsOf
                      { rota with
                        agenda := { rota.agenda with ready := rest }.strike first
                        fired := (first.task.label, rota.agenda.now) :: rota.fired }
                      first.task.chores := by
              simp only [deedsAt, line, next]
              rfl
            rw [marks, ← List.append_assoc]
            exact performs (Recorded.begin ⟨chronicle, fired⟩ line live due) first.task.chores
  · rw [quiet rfl, List.append_nil]
    exact ⟨chronicle.clock line due (ranked.next first), fired⟩

theorem runBefore (recorded : rota.Recorded count deeds) (before : Nat)
    : (rota.runBefore before).Recorded count (deeds ++ rota.deedsBefore before) :=
  exhaust_collects (deedsAt before) (fun _ _ _ woken recorded => recorded.wake woken) recorded

/-- When all that is due before a time has run, the clock may move to that time. -/
theorem move (recorded : rota.Recorded count deeds) (move : Move)
    : (rota.move move).Recorded count (deeds ++ rota.deedsOfMove move) := by
  cases move with
  | settle => exact recorded.runBefore _
  | request request =>
      cases request with
      | chore chore =>
          simp only [Rota.move, handle, deedsOfMove]
          split
          · exact recorded.perform chore
          · rename_i refused
            simpa only [deedOf, if_neg refused, List.append_nil] using recorded
      | pending queue =>
          simp only [Rota.move, handle, deedsOfMove, List.append_nil]
          split <;> exact recorded
      | advance ms =>
          simp only [Rota.move, handle, deedsOfMove, advance]
          split
          · rwa [List.append_nil]
          · have ran := recorded.runBefore (rota.agenda.now + ms)
            have rests := Option.map_eq_none_iff.mp
              (rota.wake?_runBefore (rota.agenda.now + ms))
            obtain ⟨line, nobody⟩ := ran.ranked.nobody rests
            exact ⟨ran.chronicle.clock line _ nobody, ran.fired⟩

theorem after (recorded : rota.Recorded count deeds) (moves : List Move)
    : (rota.after moves).Recorded count (deeds ++ rota.history moves) := by
  induction moves generalizing rota deeds with
  | nil =>
      rw [history, List.append_nil]
      exact recorded
  | cons move rest ih =>
      have later := ih (recorded.move move)
      rwa [List.append_assoc] at later

end Recorded

-----------------------------------------------------------------------------------------
-- Settling takes no time
-----------------------------------------------------------------------------------------

theorem now_perform (rota : Rota) (chore : Chore)
    : (rota.perform chore).agenda.now = rota.agenda.now := by
  unfold perform
  split
  · cases chore with
    | post queue delay label chores =>
        simp only [post, note, Agenda.post]
        split <;> rfl
    | cancel queue =>
        simp only [cancel]
        split <;> rfl
    | drop queue => rfl
  · rfl

theorem now_run (rota : Rota) (errand : Errand)
    : (rota.run errand).agenda.now = rota.agenda.now := by
  unfold run
  generalize errand.chores = chores
  generalize first : ({ rota with fired := _ } : Rota) = started
  have now : started.agenda.now = rota.agenda.now := by rw [← first]
  clear first
  induction chores generalizing started with
  | nil => exact now
  | cons chore rest ih => exact ih _ ((now_perform started chore).trans now)

/-- The clock moves only to times when somebody wakes, and nobody who is due by now sleeps. -/
theorem now_settle (recorded : rota.Recorded count deeds)
    : rota.settle.agenda.now = rota.agenda.now := by
  suffices kept : (∃ deeds, rota.settle.Recorded count deeds)
      ∧ rota.settle.agenda.now = rota.agenda.now from kept.2
  refine exhaust_keeps (P := fun later : Rota => (∃ deeds, later.Recorded count deeds)
    ∧ later.agenda.now = rota.agenda.now) ?_ ⟨⟨deeds, recorded⟩, rfl⟩
  rintro before after woken ⟨⟨deeds, recorded⟩, now⟩
  refine ⟨⟨_, recorded.wake woken⟩, ?_⟩
  have ranked := recorded.ranked
  obtain ⟨⟨errand, agenda⟩, next, rfl⟩ := Option.map_eq_some_iff.mp woken
  rcases Agenda.wake?_cases next with turn | ⟨-, -, due, first, within, -⟩
  · cases errand with
    | none => exact turn.now.trans now
    | some errand => exact (now_run _ errand).trans (turn.now.trans now)
  · obtain ⟨sleeper, head, rfl⟩ := Option.map_eq_some_iff.mp first
    have asleep := ranked.asleep sleeper (List.mem_of_mem_head? head)
    omega

-----------------------------------------------------------------------------------------
-- The law of callbacks
-----------------------------------------------------------------------------------------

/-- In every run of requests and settlings, starting with any number of queues, the errands that are
fired are those that ran in its history, which is lawful: each runs at most once, at its due time,
on its queue in the order of due times and posts, and exactly if its due time has come and its queue
was not cancelled between its post and its turn. What is due by now has had its turn after settling,
which takes no time.
-/
theorem callbacks_lawful (count : Nat) (moves : List Move)
    : let rota := (ofQueues count).after moves
      let deeds := (ofQueues count).history moves
      rota.Recorded count deeds
      ∧ Agenda.Lawful deeds rota.agenda
      ∧ rota.settle.agenda.now = rota.agenda.now
      ∧ rota.settle.agenda.ready = [] := by
  intro rota deeds
  have new : (ofQueues count).Recorded count [] := ⟨.start, rfl⟩
  have recorded : rota.Recorded count deeds := new.after moves
  refine ⟨recorded, ?_, now_settle recorded, ?_⟩
  · exact recorded.chronicle.lawful (idle_ofQueues count) (nextId_ofQueues count)
  · have rests := Option.map_eq_none_iff.mp (rota.wake?_runBefore (rota.agenda.now + 1))
    exact (Agenda.of_wake?_eq_none rests).1

/-- Two errands are due at the same instant. The first cancels the queue, which silences the second,
and posts a third, which still runs.
-/
example
    : let moves : List Move :=
        [.request (.chore (.post 0 10 "first" [.cancel 0, .post 0 0 "third" []])),
          .request (.chore (.post 0 10 "second" [])), .request (.advance 10), .settle]
      ((ofQueues 1).after moves).fired.reverse = [("first", 10), ("third", 10)] := by
  cbv

end UpdaterLaunch.Rota
