import Mathlib.Data.List.Nodup
import UpdaterLaunch.Proofs.LastingInvariants
import UpdaterLaunch.Proofs.RotaHistories

/-! The records that a queue keeps are true to its history: the tasks that it lists are those that
still await their run, its counts are the numbers of posts and cancellations, and its two ways to
tell whether a task was silenced never differ. This is so after every single thing that happens,
between the chores of an errand as well.
-/

namespace UpdaterLaunch

universe u

namespace Deed

variable {τ : Type u}

/-- The queues that were cancelled in a history, first to last. -/
def cancellations (deeds : List (Deed τ)) : List Nat :=
  deeds.filterMap fun
    | .cancelled queue => some queue
    | _ => none

section

variable (deeds : List (Deed τ)) (time delay queue : Nat) (posting : Posting τ)

@[simp]
theorem cancellations_posted
    : cancellations (deeds ++ [.posted time delay posting]) = cancellations deeds := by
  simp [cancellations]

@[simp]
theorem cancellations_cancelled
    : cancellations (deeds ++ [.cancelled queue]) = cancellations deeds ++ [queue] := by
  simp [cancellations]

@[simp]
theorem cancellations_ran
    : cancellations (deeds ++ [.ran time posting]) = cancellations deeds := by
  simp [cancellations]

end

/-- A task was posted, and since then its queue was not cancelled and the task did not start to run.
-/
def Awaits (deeds : List (Deed τ)) (posting : Posting τ) : Prop :=
  ∃ early time delay late,
    deeds = early ++ .posted time delay posting :: late
    ∧ .cancelled posting.queue ∉ late
    ∧ ∀ time, .ran time posting ∉ late

/-- Whatever was posted was so at some point of the history. -/
theorem split_of_mem_postings {deeds : List (Deed τ)} {posting : Posting τ}
    (member : posting ∈ postings deeds)
    : ∃ early time delay late, deeds = early ++ .posted time delay posting :: late := by
  obtain ⟨deed, within, eq⟩ := List.mem_filterMap.mp member
  cases deed with
  | posted time delay own =>
      obtain rfl := Option.some.inj eq
      obtain ⟨early, late, split⟩ := List.append_of_mem within
      exact ⟨early, time, delay, late, split⟩
  | cancelled => cases eq
  | ran => cases eq

theorem mem_of_split {deeds early late : List (Deed τ)} {deed other : Deed τ}
    (split : deeds = early ++ deed :: late) (member : other ∈ late)
    : other ∈ deeds := by
  rw [split]
  exact List.mem_append_right _ (List.mem_cons_of_mem _ member)

/-- Where nothing of a task has run, a cancellation of its queue silences it. -/
theorem silences_of_unrun {since : List (Deed τ)} {posting : Posting τ}
    (unrun : ∀ time, .ran time posting ∉ since) (cancelled : .cancelled posting.queue ∈ since)
    : Silences since posting := by
  obtain ⟨early, late, rfl⟩ := List.append_of_mem cancelled
  exact ⟨early, late, rfl, fun time member => unrun time (List.mem_append_left _ member)⟩

end Deed

namespace Agenda

variable {τ : Type u} {start agenda after : Agenda τ} {deeds : List (Deed τ)}

-----------------------------------------------------------------------------------------
-- What a queue counts
-----------------------------------------------------------------------------------------

theorem eq_of_ofQueues {count queue : Nat} {q : Queue}
    (there : (ofQueues count : Agenda τ).queues[queue]? = some q)
    : q = {} := by
  simp only [ofQueues, List.getElem?_replicate, Option.ite_none_right_eq_some,
    Option.some.injEq] at there
  exact there.2.symm

/-- A queue has counted the cancellations of a history, its list stands by numbers, all of which it
has given out, and nobody was posted after more cancellations than there have been.
-/
structure Counted (deeds : List (Deed τ)) (queue : Nat) (q : Queue) : Prop where
  generation : q.generation = (Deed.cancellations deeds).count queue
  rising : q.pending.Pairwise (· < ·)
  below : ∀ id ∈ q.pending, id < q.nextId
  older : ∀ posting ∈ Deed.postings deeds, posting.queue = queue → posting.generation ≤ q.generation

namespace Counted

variable {queue : Nat} {q : Queue}

theorem post (counted : Counted deeds queue q) (time delay : Nat) {posting : Posting τ}
    (generation : posting.generation = q.generation)
    : Counted (deeds ++ [.posted time delay posting]) queue
        { q with nextId := q.nextId + 1, pending := q.pending ++ [q.nextId] } where
  generation := by simpa using counted.generation
  rising := by
    refine List.pairwise_append.mpr ⟨counted.rising, List.pairwise_singleton _ _, ?_⟩
    intro id listed new member
    rw [List.mem_singleton.mp member]
    exact counted.below id listed
  below id member := by
    rcases List.mem_append.mp member with listed | new
    · exact Nat.lt_succ_of_lt (counted.below id listed)
    · rw [List.mem_singleton.mp new]
      exact Nat.lt_succ_self _
  older other member own := by
    rw [Deed.postings_posted] at member
    rcases List.mem_append.mp member with known | new
    · exact counted.older other known own
    · rw [List.mem_singleton.mp new]
      exact Nat.le_of_eq generation

theorem post_of_ne (counted : Counted deeds queue q) (time delay : Nat) {posting : Posting τ}
    (ne : posting.queue ≠ queue)
    : Counted (deeds ++ [.posted time delay posting]) queue q where
  generation := by simpa using counted.generation
  rising := counted.rising
  below := counted.below
  older other member own := by
    rw [Deed.postings_posted] at member
    rcases List.mem_append.mp member with known | new
    · exact counted.older other known own
    · rw [List.mem_singleton.mp new] at own
      exact absurd own ne

theorem cancel (counted : Counted deeds queue q)
    : Counted (deeds ++ [.cancelled queue]) queue
        { q with generation := q.generation + 1, pending := [] } where
  generation := by simp [counted.generation]
  rising := .nil
  below := by simp
  older posting member own := by
    rw [Deed.postings_cancelled] at member
    exact Nat.le_succ_of_le (counted.older posting member own)

theorem cancel_of_ne (counted : Counted deeds queue q) {other : Nat} (ne : other ≠ queue)
    : Counted (deeds ++ [.cancelled other]) queue q where
  generation := by simp [counted.generation, ne]
  rising := counted.rising
  below := counted.below
  older := by simpa using counted.older

theorem run (counted : Counted deeds queue q) (time : Nat) (posting : Posting τ)
    {pending : List Nat} (kept : pending.Sublist q.pending)
    : Counted (deeds ++ [.ran time posting]) queue { q with pending } where
  generation := by simpa using counted.generation
  rising := counted.rising.sublist kept
  below id member := counted.below id (kept.subset member)
  older := by simpa using counted.older

end Counted

/-- By induction on the history: what happens to a queue changes its record, and what happens to
another does not.
-/
theorem Chronicle.counted {count : Nat} (chronicle : Chronicle (.ofQueues count) deeds agenda)
    {queue : Nat} {q : Queue} (there : agenda.queues[queue]? = some q)
    : Counted deeds queue q := by
  induction chronicle generalizing q with
  | start =>
      obtain rfl := eq_of_ofQueues there
      constructor <;> simp [Deed.cancellations, Deed.postings]
  | @post deeds agenda own old early found delay task ih =>
      simp only [Agenda.post, found] at there
      by_cases same : own = queue
      · subst same
        rw [List.getElem?_set_self (List.getElem?_eq_some_iff.mp found).1] at there
        obtain rfl := Option.some.inj there
        exact (ih found).post _ _ rfl
      · rw [List.getElem?_set_ne same] at there
        exact (ih there).post_of_ne _ _ same
  | cancel early own ih =>
      simp only [Agenda.cancel, List.getElem?_modify] at there
      obtain ⟨old, found, rfl⟩ := Option.map_eq_some_iff.mp there
      by_cases same : own = queue
      · subst same
        simpa using (ih found).cancel
      · simpa [same] using (ih found).cancel_of_ne same
  | @run deeds agenda first rest early line live due ih =>
      simp only [strike, List.getElem?_modify] at there
      obtain ⟨old, found, rfl⟩ := Option.map_eq_some_iff.mp there
      by_cases same : first.queue = queue
      · simpa [same] using (ih found).run agenda.now first List.erase_sublist
      · simpa [same] using (ih found).run agenda.now first (.refl _)
  | pass early turn ih =>
      cases turn with
      | silenced => exact ih there
      | sleeps => exact ih there
  | clock early line time nobody ih => exact ih there

-----------------------------------------------------------------------------------------
-- Who awaits a run
-----------------------------------------------------------------------------------------

theorem mem_tasks_iff {posting : Posting τ}
    : posting ∈ agenda.tasks ↔ posting ∈ agenda.waiting ∧ agenda.isLive posting = true := by
  rw [tasks, List.mem_filter, waiting]

namespace Chronicle

variable {posting : Posting τ}

/-- What has become of a task that was posted at some point of the history. -/
theorem fate_of_post (chronicle : Chronicle start deeds agenda) {early late : List (Deed τ)}
    {time delay : Nat} (split : deeds = early ++ .posted time delay posting :: late)
    : agenda.Fate posting late := by
  obtain ⟨middle, queue, q, task, -, there, -, rfl, second⟩ := chronicle.split_post split
  refine second.fate ((mem_waiting_post_iff there).mpr (.inl rfl)) ?_
  rw [isLive_post]
  simp [isLive, newPosting, there]

/-- Whoever has run waits no more. -/
theorem not_waiting_of_ran (chronicle : Chronicle start deeds agenda) (idle : start.Idle)
    {time : Nat} (ran : .ran time posting ∈ deeds)
    : posting ∉ agenda.waiting :=
  fun waits => ((chronicle.past idle ran).2.first posting waits rfl).ne rfl

/-- The tasks that are still to run are those that await it. -/
theorem mem_tasks_iff (chronicle : Chronicle start deeds agenda) (idle : start.Idle)
    : posting ∈ agenda.tasks ↔ Deed.Awaits deeds posting := by
  rw [Agenda.mem_tasks_iff]
  constructor
  · rintro ⟨waits, live⟩
    obtain ⟨early, time, delay, late, split⟩ :=
      Deed.split_of_mem_postings (chronicle.posted_of_waiting idle waits)
    have unrun : ∀ time, .ran time posting ∉ late :=
      fun time ran => chronicle.not_waiting_of_ran idle (Deed.mem_of_split split ran) waits
    refine ⟨early, time, delay, late, split, fun cancelled => ?_, unrun⟩
    have silenced := Deed.silences_of_unrun unrun cancelled
    cases chronicle.fate_of_post split with
    | waits _ _ _ spared => exact spared silenced
    | runs _ _ spared => exact spared silenced
    | silenced overtaken => simp [overtaken.dead] at live
  · rintro ⟨early, time, delay, late, split, kept, unrun⟩
    cases chronicle.fate_of_post split with
    | waits waits live => exact ⟨waits, live⟩
    | runs time ran => exact absurd ran (unrun time)
    | silenced _ _ silenced =>
        obtain ⟨before, rest, rfl, -⟩ := silenced
        simp at kept

/-- Of the tasks of a queue no two have the same number. -/
theorem eq_of_id (chronicle : Chronicle start deeds agenda)
    (new : ∀ queue, start.nextId queue = 0) {other : Posting τ}
    (posted : posting ∈ Deed.postings deeds) (too : other ∈ Deed.postings deeds)
    (queue : other.queue = posting.queue) (id : other.id = posting.id)
    : other = posting := by
  have numbered := chronicle.numbered new posting.queue
  have distinct
      : (((Deed.postings deeds).filter (·.queue = posting.queue)).map (·.id)).Nodup := by
    rw [numbered]
    exact List.nodup_range
  exact List.inj_on_of_nodup_map distinct (List.mem_filter.mpr ⟨too, by simpa using queue⟩)
    (List.mem_filter.mpr ⟨posted, by simp⟩) id

/-- A task that was posted and has not started to run is live exactly if it is still to run. -/
theorem isLive_iff (chronicle : Chronicle start deeds agenda)
    (posted : posting ∈ Deed.postings deeds) (unrun : ∀ time, .ran time posting ∉ deeds)
    : agenda.isLive posting = true ↔ posting ∈ agenda.tasks := by
  rw [Agenda.mem_tasks_iff]
  obtain ⟨early, time, delay, late, split⟩ := Deed.split_of_mem_postings posted
  cases chronicle.fate_of_post split with
  | waits waits live => simp [waits, live]
  | runs time ran => exact absurd (Deed.mem_of_split split ran) (unrun time)
  | silenced overtaken => simp [overtaken.dead]

end Chronicle

-----------------------------------------------------------------------------------------
-- Who may run yet
-----------------------------------------------------------------------------------------

/-- Some course of events from here on runs a task. -/
def MayRun (agenda : Agenda τ) (posting : Posting τ) : Prop :=
  ∃ later after time, Chronicle agenda later after ∧ .ran time posting ∈ later

namespace Chronicle

variable {posting : Posting τ}

/-- One history goes on with another, by induction on the second. -/
theorem trans {later : List (Deed τ)} (first : Chronicle start deeds agenda)
    (second : Chronicle agenda later after)
    : Chronicle start (deeds ++ later) after := by
  induction second with
  | start =>
      rw [List.append_nil]
      exact first
  | post early there delay task ih =>
      rw [← List.append_assoc]
      exact ih.post there delay task
  | cancel early queue ih =>
      rw [← List.append_assoc]
      exact ih.cancel queue
  | run early line live due ih =>
      rw [← List.append_assoc]
      exact ih.run line live due
  | pass early turn ih => exact ih.pass turn
  | clock early line time nobody ih => exact ih.clock line time nobody

/-- A history goes on with every turn. -/
theorem turn (chronicle : Chronicle start deeds agenda) {task : Option τ}
    (turn : agenda.Turn task after)
    : ∃ more, Chronicle start (deeds ++ more) after := by
  cases turn with
  | silenced line dead => exact ⟨[], by simpa using chronicle.pass (.silenced line dead)⟩
  | runs line live due => exact ⟨_, chronicle.run line live due⟩
  | sleeps line live early => exact ⟨[], by simpa using chronicle.pass (.sleeps line live early)⟩

/-- If nothing else is done, whoever is still to run does so in the end, by induction on the work
that is left: the clock does not pass him by, and every turn leaves him where he is but his own.
-/
theorem runs_of_waits (chronicle : Chronicle start deeds agenda) (ranked : agenda.Ranked)
    (waits : posting ∈ agenda.waiting) (live : agenda.isLive posting = true)
    : ∃ later after time, Chronicle start later after ∧ .ran time posting ∈ later := by
  induction left : agenda.load (fun _ => 0) using Nat.strongRecOn generalizing agenda deeds with
  | ind left ih =>
      subst left
      cases next : agenda.wake? (posting.due + 1) with
      | none =>
          obtain ⟨line, nobody⟩ := ranked.nobody next
          rw [waiting, line, List.nil_append] at waits
          exact absurd (nobody posting waits) (Nat.not_succ_le_self _)
      | some woken =>
          obtain ⟨first, after⟩ := woken
          have less := load_wake_lt (fun _ : τ => 0) next
          rcases wake?_cases next with turn | ⟨-, line, due, head, -, rfl⟩
          · rcases turn.waits waits live with still | ⟨⟨rest, line⟩, runs⟩
            · obtain ⟨more, chronicle⟩ := chronicle.turn turn
              have live : after.isLive posting = true := by rwa [turn.isLive]
              exact ih _ (by omega) chronicle (ranked.turn turn) still live rfl
            · cases turn with
              | silenced => simp at runs
              | sleeps => simp at runs
              | runs own live due =>
                  obtain rfl := (List.cons.inj (line.symm.trans own)).1
                  exact ⟨_, _, agenda.now, chronicle.run own live due, by simp⟩
          · have early := ranked.next head
            have still : posting ∈ (agenda.moveTo due).waiting := by rwa [waiting_moveTo]
            exact ih _ (by omega) (chronicle.clock line due early) (ranked.clock line early)
              still live rfl

/-- Of the tasks posted so far those may run that are still to do so. -/
theorem mayRun_iff (chronicle : Chronicle start deeds agenda) (idle : start.Idle)
    (posted : posting ∈ Deed.postings deeds)
    : agenda.MayRun posting ↔ posting ∈ agenda.tasks := by
  constructor
  · rintro ⟨later, after, time, next, ran⟩
    have whole := chronicle.trans next
    obtain ⟨early, time', delay, late, split⟩ := Deed.split_of_mem_postings posted
    cases chronicle.fate_of_post split with
    | waits waits live => exact Agenda.mem_tasks_iff.mpr ⟨waits, live⟩
    | runs earlier already =>
        have before : (earlier, posting) ∈ Deed.runs deeds :=
          Deed.mem_runs_iff.mpr (Deed.mem_of_split split already)
        have ordered := whole.ordered idle
        rw [Deed.runs, List.filterMap_append] at ordered
        have precedes := (List.pairwise_append.mp ordered).2.2 _ before _
          (Deed.mem_runs_iff.mpr ran)
        exact absurd rfl (precedes rfl).ne
    | silenced _ _ silenced =>
        obtain ⟨before, rest, rfl, unrun⟩ := silenced
        have stays : Deed.Silences (before ++ .cancelled posting.queue :: rest ++ later) posting :=
          ⟨before, rest ++ later, by simp, unrun⟩
        have fate := whole.fate_of_post (by rw [split, List.append_assoc, List.cons_append])
        cases fate with
        | waits _ _ _ spared => exact absurd stays spared
        | runs _ _ spared => exact absurd stays spared
        | silenced _ unrun => exact absurd (List.mem_append_right _ ran) (unrun time)
  · intro task
    obtain ⟨waits, live⟩ := Agenda.mem_tasks_iff.mp task
    exact Chronicle.start.runs_of_waits (chronicle.ranked idle) waits live

end Chronicle

-----------------------------------------------------------------------------------------
-- True records
-----------------------------------------------------------------------------------------

/-- The record of a queue is true to a history. -/
structure Records (deeds : List (Deed τ)) (agenda : Agenda τ) (queue : Nat) (q : Queue) : Prop where
  /-- It lists, once each, the tasks that await their run. -/
  once : q.pending.Nodup
  listed
    : ∀ id,
        id ∈ q.pending
        ↔ ∃ posting, posting.queue = queue ∧ posting.id = id ∧ Deed.Awaits deeds posting
  /-- These have its present count. -/
  current
    : ∀ posting,
        posting.queue = queue → Deed.Awaits deeds posting → posting.generation = q.generation
  /-- The next number is that of no task listed. -/
  below : ∀ id ∈ q.pending, id < q.nextId
  /-- Numbers are given out one by one, and none twice. -/
  numbered
    : ((Deed.postings deeds).filter (·.queue = queue)).map (·.id) = List.range q.nextId
  /-- Its count is that of its cancellations. -/
  generation : q.generation = (Deed.cancellations deeds).count queue
  /-- Whoever has not started to run is let through by his count exactly if he is listed. -/
  passes
    : ∀ posting ∈ Deed.postings deeds,
        posting.queue = queue
        → (∀ time, .ran time posting ∉ deeds)
        → (agenda.isLive posting = true ↔ posting.id ∈ q.pending)
  /-- As many are listed as there are tasks that may run yet. -/
  counts
    : ∃ able : List (Posting τ),
        able.Nodup
        ∧ able.length = agenda.pending queue
        ∧ ∀ posting,
            posting ∈ able
            ↔ posting ∈ Deed.postings deeds ∧ posting.queue = queue ∧ agenda.MayRun posting
  /-- Once it is cancelled, none of its tasks so far is let through, and none is listed. -/
  silences
    : (∀ posting ∈ Deed.postings deeds,
        posting.queue = queue → (agenda.cancel queue).isLive posting = false)
      ∧ (agenda.cancel queue).pending queue = 0

theorem pending_cancel (agenda : Agenda τ) (queue : Nat)
    : (agenda.cancel queue).pending queue = 0 := by
  simp only [pending, cancel, List.getElem?_modify_eq]
  cases agenda.queues[queue]? <;> rfl

theorem listed_ofQueues (count : Nat) : (ofQueues count : Agenda τ).Listed :=
  Idle.listed (Rota.idle_ofQueues count) fun _ _ there => by rw [eq_of_ofQueues there]

theorem Chronicle.listed (chronicle : Chronicle start deeds agenda) (listed : start.Listed)
    : agenda.Listed := by
  induction chronicle with
  | start => exact listed
  | post early there delay task ih => exact ih.post _ delay task
  | cancel early queue ih => exact ih.cancel queue
  | run early line live due ih => exact ih.turn (.runs line live due)
  | pass early turn ih => exact ih.turn turn
  | clock early line time nobody ih => exact ih.moveTo time

/-- After every history each queue has a true record. -/
theorem Chronicle.records {count : Nat} (chronicle : Chronicle (.ofQueues count) deeds agenda)
    {queue : Nat} {q : Queue} (there : agenda.queues[queue]? = some q)
    : Records deeds agenda queue q := by
  have idle : (ofQueues count : Agenda τ).Idle := Rota.idle_ofQueues count
  have new : ∀ queue, (ofQueues count : Agenda τ).nextId queue = 0 := Rota.nextId_ofQueues count
  have counted := chronicle.counted there
  have once : q.pending.Nodup := counted.rising.imp Nat.ne_of_lt
  have listed := chronicle.listed (listed_ofQueues count)
  have toRun : q.pending.Perm (agenda.toRun queue) := listed.pending queue q there
  have mem_pending (id : Nat)
      : id ∈ q.pending ↔ ∃ posting ∈ agenda.tasks, posting.queue = queue ∧ posting.id = id := by
    simp [toRun.mem_iff, Agenda.toRun, and_assoc]
  have posted {posting : Posting τ} (task : posting ∈ agenda.tasks)
      : posting ∈ Deed.postings deeds :=
    chronicle.posted_of_waiting idle (Agenda.mem_tasks_iff.mp task).1
  constructor
  case once => exact once
  case listed =>
    intro id
    simp only [mem_pending, chronicle.mem_tasks_iff idle]
    exact exists_congr fun _ => and_left_comm.trans (and_congr_right fun _ => and_comm)
  case current =>
    intro posting own awaits
    have live := (Agenda.mem_tasks_iff.mp ((chronicle.mem_tasks_iff idle).mpr awaits)).2
    rw [isLive, own, there, Option.any_some] at live
    exact (of_decide_eq_true live).symm
  case below => exact counted.below
  case numbered =>
    have same : agenda.nextId queue = q.nextId := by simp [nextId, there]
    rw [chronicle.numbered new queue, same]
  case generation => exact counted.generation
  case passes =>
    intro posting member own unrun
    rw [chronicle.isLive_iff member unrun, mem_pending]
    constructor
    · exact fun task => ⟨posting, task, own, rfl⟩
    · rintro ⟨other, task, too, id⟩
      rwa [← chronicle.eq_of_id new member (posted task) (too.trans own.symm) id]
  case counts =>
    refine ⟨agenda.tasks.filter (·.queue = queue), ?_, ?_, ?_⟩
    · exact .of_map _ (toRun.nodup_iff.mp once)
    · rw [listed.count, List.countP_eq_length_filter]
    · intro posting
      rw [List.mem_filter, decide_eq_true_iff]
      constructor
      · rintro ⟨task, own⟩
        exact ⟨posted task, own, (chronicle.mayRun_iff idle (posted task)).mpr task⟩
      · rintro ⟨member, own, may⟩
        exact ⟨(chronicle.mayRun_iff idle member).mp may, own⟩
  case silences =>
    constructor
    · intro posting member own
      have older := Nat.lt_succ_of_le (counted.older posting member own)
      simp [isLive, Agenda.cancel, own, there, Nat.ne_of_gt older]
    · exact pending_cancel agenda queue

end Agenda

-----------------------------------------------------------------------------------------
-- Moments of a rota
-----------------------------------------------------------------------------------------

namespace Rota

variable {count : Nat} {deeds : List (Deed Errand)} {rota : Rota}

/-- The moments that a rota goes through, each with the history that leads to it: after a move,
after a waking within a move, when an errand has begun, and after each chore, be it one that is
asked for or one of the errand that runs.
-/
inductive Moment (count : Nat) : List (Deed Errand) → Rota → Prop
  | new : Moment count [] (ofQueues count)
  | move {deeds : List (Deed Errand)} {rota : Rota} (earlier : Moment count deeds rota)
    (move : Move)
    : Moment count (deeds ++ rota.deedsOfMove move) (rota.move move)
  | wake {deeds : List (Deed Errand)} {rota after : Rota} {before : Nat}
    (earlier : Moment count deeds rota) (woken : rota.wake? before = some after)
    : Moment count (deeds ++ rota.deedsAt before) after
  | begin {deeds : List (Deed Errand)} {rota : Rota} {first : Posting Errand}
    {rest : List (Posting Errand)} {errand : Errand} {agenda : Agenda Errand}
    (earlier : Moment count deeds rota) (line : rota.agenda.ready = first :: rest)
    (turn : rota.agenda.turn? = some (some errand, agenda))
    : Moment count (deeds ++ [.ran rota.agenda.now first])
        { rota with agenda, fired := (errand.label, agenda.now) :: rota.fired }
  | chore {deeds : List (Deed Errand)} {rota : Rota} (earlier : Moment count deeds rota)
    (chore : Chore)
    : Moment count (deeds ++ rota.deedOf chore) (rota.perform chore)

namespace Moment

/-- Every run comes to a moment with its history, by induction on the moves. -/
theorem after (moment : Moment count deeds rota) (moves : List Move)
    : Moment count (deeds ++ rota.history moves) (rota.after moves) := by
  induction moves generalizing rota deeds with
  | nil =>
      rw [history, List.append_nil]
      exact moment
  | cons move rest ih =>
      have later := ih (moment.move move)
      rwa [List.append_assoc] at later

/-- The history of a moment is one of its agenda, by induction on the way to it. -/
theorem recorded (moment : Moment count deeds rota) : rota.Recorded count deeds := by
  induction moment with
  | new => exact ⟨.start, rfl⟩
  | move earlier move ih => exact ih.move move
  | wake earlier woken ih => exact ih.wake woken
  | begin earlier line turn ih =>
      cases Agenda.turn_of_turn? turn with
      | runs own live due =>
          obtain ⟨rfl, rfl⟩ := List.cons.inj (line.symm.trans own)
          exact ih.begin line live due
  | chore earlier chore ih => exact ih.perform chore

end Moment

theorem agenda_cancel (rota : Rota) (queue : Nat)
    : (rota.cancel queue).agenda = rota.agenda.cancel queue := by
  unfold cancel
  split <;> rfl

/-- Cancelling a queue once more cancels nothing, and is not worth a line. -/
theorem cancel_cancel (sound : rota.agenda.Sound) (queue : Nat)
    : ((rota.cancel queue).cancel queue).agenda.tasks = (rota.cancel queue).agenda.tasks
      ∧ ((rota.cancel queue).cancel queue).notices = (rota.cancel queue).notices := by
  constructor
  · rw [agenda_cancel, agenda_cancel, Agenda.tasks_cancel (sound.cancel queue),
      Agenda.tasks_cancel sound, List.filter_filter]
    simp only [Bool.and_self]
  · generalize once : rota.cancel queue = after
    have nobody : after.agenda.pending queue = 0 := by
      rw [← once, agenda_cancel, Agenda.pending_cancel]
    simp only [cancel, nobody]

/-- Every run goes through moments, and at every moment, while an errand runs as well, the record of
each queue is true: it lists, once each, the tasks posted since it was last cancelled that have not
started to run. These have its present count, and numbers that were given out in the order of
posting and never twice. So whoever has not started is let through by his count exactly if he is
listed, as many are listed as there are tasks that may run yet, and cancelling twice cancels nothing
more.
-/
theorem records_true (count : Nat)
    : (∀ moves, Moment count ((ofQueues count).history moves) ((ofQueues count).after moves))
      ∧ ∀ {deeds rota},
          Moment count deeds rota
          → ∀ {queue q},
              rota.agenda.queues[queue]? = some q
              → Agenda.Records deeds rota.agenda queue q
                ∧ ((rota.cancel queue).cancel queue).agenda.tasks = (rota.cancel queue).agenda.tasks
                ∧ ((rota.cancel queue).cancel queue).notices = (rota.cancel queue).notices := by
  refine ⟨fun moves => Moment.new.after moves, fun {deeds rota} moment {queue q} there => ?_⟩
  have chronicle := moment.recorded.chronicle
  have sound := (chronicle.listed (Agenda.listed_ofQueues count)).sound
  exact ⟨chronicle.records there, cancel_cancel sound queue⟩

/-- Two errands are due at once. The first has cancelled the queue, which silences the second, and
has posted a third; it is not over yet.
-/
theorem records_true_within_errand
    : ∃ deeds rota,
        Moment 1 deeds rota
        ∧ rota.fired = [("first", 0)]
        ∧ rota.agenda.queues = [{ generation := 1, nextId := 3, pending := [2] }]
        ∧ Agenda.Records deeds rota.agenda 0 { generation := 1, nextId := 3, pending := [2] } := by
  let chores : List Chore := [.cancel 0, .post 0 5 "third" []]
  have first : Moment 1 _ _ := Moment.new.chore (.post 0 0 "first" chores)
  have second : Moment 1 _ _ := first.chore (.post 0 0 "second" [])
  have begun : Moment 1 _ _ := second.begin rfl rfl
  have cancelled : Moment 1 _ _ := begun.chore (.cancel 0)
  have posted : Moment 1 _ _ := cancelled.chore (.post 0 5 "third" [])
  exact ⟨_, _, posted, rfl, rfl, ((records_true 1).2 posted rfl).1⟩

end Rota

end UpdaterLaunch
