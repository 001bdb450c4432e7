import Mathlib.Data.List.Count
import UpdaterLaunch.Proofs.AgendaShadows
import UpdaterLaunch.Proofs.LastingInvariants

/-! An agenda beside one that is relieved of some tasks, which come to nothing. All others stand
there in the same order, so they run at the same times; but the clock does not stop for the tasks
that are gone. How often a queue was cancelled does not matter, only which tasks were silenced.
-/

namespace UpdaterLaunch

universe u

namespace Agenda

variable {τ : Type u} {gone : τ → Bool} {agenda after lone : Agenda τ} {queue : Nat}

-----------------------------------------------------------------------------------------
-- Outlines
-----------------------------------------------------------------------------------------

/-- A task as it was posted, but with no more about its generation than whether it was silenced. -/
def outline (agenda : Agenda τ) (posting : Posting τ) : Posting τ :=
  { posting with generation := if agenda.isLive posting then 0 else 1 }

/-- Two tasks alike differ in their generations at most, and both were silenced or none. -/
structure Alike (agenda lone : Agenda τ) (posting other : Posting τ) : Prop where
  due : other.due = posting.due
  queue : other.queue = posting.queue
  id : other.id = posting.id
  task : other.task = posting.task
  live : lone.isLive other = agenda.isLive posting

theorem outline_eq_iff {posting other : Posting τ}
    : lone.outline other = agenda.outline posting ↔ Alike agenda lone posting other := by
  refine ⟨fun same => ?_, fun alike => ?_⟩
  · simp only [outline, Posting.mk.injEq] at same
    obtain ⟨due, queue, id, live, task⟩ := same
    refine ⟨due, queue, id, task, ?_⟩
    cases here : lone.isLive other <;> cases there : agenda.isLive posting <;>
      simp [here, there] at live ⊢
  · obtain ⟨due, queue, id, task, live⟩ := alike
    simp only [outline, Posting.mk.injEq, live]
    exact ⟨due, queue, id, trivial, task⟩

theorem outline_congr (same : ∀ posting, after.isLive posting = agenda.isLive posting)
    : after.outline = agenda.outline := by
  funext posting
  simp only [outline, same posting]

/-- Silences the outline of a task if it stands on a queue. -/
def hush (queue : Nat) (posting : Posting τ) : Posting τ :=
  { posting with generation := if posting.queue = queue then 1 else posting.generation }

theorem outline_cancel (sound : agenda.Sound) (queue : Nat) {postings : List (Posting τ)}
    (within : ∀ posting ∈ postings, posting ∈ agenda.waiting)
    : postings.map (agenda.cancel queue).outline
      = (postings.map agenda.outline).map (hush queue) := by
  rw [List.map_map]
  refine List.map_congr_left ?_
  intro posting member
  simp only [outline, hush, Function.comp_apply, isLive_cancel sound queue (within posting member)]
  by_cases own : posting.queue = queue <;> simp [own]

theorem outline_insertByDue (agenda : Agenda τ) (posting : Posting τ) (postings : List (Posting τ))
    : (insertByDue posting postings).map agenda.outline
      = insertByDue (agenda.outline posting) (postings.map agenda.outline) := by
  have due (posting : Posting τ) : (agenda.outline posting).due = posting.due := rfl
  fun_induction insertByDue posting postings with
  | case1 => rfl
  | case2 first rest le ih => simp [insertByDue, due, le, ih]
  | case3 first rest lt => simp [insertByDue, due, lt]

/-- The number that the next task gets, for every queue. -/
def nextIds (agenda : Agenda τ) : List Nat := agenda.queues.map (·.nextId)

theorem map_nextId_modify (queues : List Queue) (index : Nat) {change : Queue → Queue}
    (same : ∀ q, (change q).nextId = q.nextId)
    : (queues.modify index change).map (·.nextId) = queues.map (·.nextId) := by
  apply List.ext_getElem?
  intro number
  simp only [List.getElem?_map, List.getElem?_modify]
  split <;> cases queues[number]? <;> simp [same]

theorem nextIds_cancel (agenda : Agenda τ) (queue : Nat)
    : (agenda.cancel queue).nextIds = agenda.nextIds := by
  apply map_nextId_modify
  exact fun _ => rfl

theorem nextIds_strike (agenda : Agenda τ) (posting : Posting τ)
    : (agenda.strike posting).nextIds = agenda.nextIds := by
  apply map_nextId_modify
  exact fun _ => rfl

-----------------------------------------------------------------------------------------
-- Relieved agendas
-----------------------------------------------------------------------------------------

/-- Beside an agenda in order there is one without the tasks that are gone. Its clock may be behind,
but not while somebody is in line.
-/
structure Relieved (gone : τ → Bool) (agenda lone : Agenda τ) : Prop where
  orderly : agenda.Orderly
  sound : agenda.Sound
  soundToo : lone.Sound
  nextIds : lone.nextIds = agenda.nextIds
  ready
    : lone.ready.map lone.outline
      = (agenda.ready.filter (!gone ·.task)).map agenda.outline
  sleepers
    : lone.sleepers.map lone.outline
      = (agenda.sleepers.filter (!gone ·.task)).map agenda.outline
  now : lone.now ≤ agenda.now
  prompt : lone.ready ≠ [] → lone.now = agenda.now

namespace Relieved

theorem nextId? (relieved : Relieved gone agenda lone) (queue : Nat)
    : (lone.queues[queue]?).map (·.nextId) = (agenda.queues[queue]?).map (·.nextId) := by
  have same := congrArg (·[queue]?) relieved.nextIds
  simpa only [Agenda.nextIds, List.getElem?_map] using same

theorem nextId (relieved : Relieved gone agenda lone) (queue : Nat)
    : lone.nextId queue = agenda.nextId queue := by
  simp only [Agenda.nextId, relieved.nextId? queue]

/-- If the line is empty, so is that of the relieved agenda. -/
theorem line (relieved : Relieved gone agenda lone) (line : agenda.ready = [])
    : lone.ready = [] := by
  have ready := relieved.ready
  rw [line] at ready
  simpa using ready

theorem post (relieved : Relieved gone agenda lone) (now : lone.now = agenda.now)
    (queue delay : Nat) {task : τ} (stays : gone task = false)
    : Relieved gone (agenda.post queue delay task) (lone.post queue delay task) := by
  have ids := relieved.nextId? queue
  cases there : agenda.queues[queue]? with
  | none =>
      have nowhere : lone.queues[queue]? = none := by simpa [there] using ids
      simpa only [Agenda.post, there, nowhere] using relieved
  | some q =>
      obtain ⟨own, here, same⟩
          : ∃ own, lone.queues[queue]? = some own ∧ own.nextId = q.nextId := by
        simpa [there] using ids
      have outlines : (agenda.post queue delay task).outline = agenda.outline :=
        outline_congr (isLive_post agenda queue delay task)
      have outlinesToo : (lone.post queue delay task).outline = lone.outline :=
        outline_congr (isLive_post lone queue delay task)
      have new
          : lone.outline (lone.newPosting queue own delay task)
            = agenda.outline (agenda.newPosting queue q delay task) := by
        refine outline_eq_iff.mpr ⟨?_, rfl, same, rfl, ?_⟩
        · simp only [newPosting, dueAfter, now]
        · simp [isLive, newPosting, there, here]
      have line : (agenda.post queue delay task).ready
          = agenda.ready ++ [agenda.newPosting queue q delay task] := by
        simp only [Agenda.post, there, newPosting]
      have lineToo : (lone.post queue delay task).ready
          = lone.ready ++ [lone.newPosting queue own delay task] := by
        simp only [Agenda.post, here, newPosting]
      refine ⟨relieved.orderly.post queue delay task, relieved.sound.post queue delay task,
        relieved.soundToo.post queue delay task, ?_, ?_, ?_, ?_, ?_⟩
      · have ids : lone.queues.map (·.nextId) = agenda.queues.map (·.nextId) := relieved.nextIds
        simp only [Agenda.nextIds, Agenda.post, there, here, List.map_set, ids, same]
      · have last : gone (agenda.newPosting queue q delay task).task = false := stays
        rw [outlines, outlinesToo, line, lineToo]
        simp [relieved.ready, new, last]
      · rw [outlines, outlinesToo]
        simpa only [Agenda.post, there, here] using relieved.sleepers
      · simpa only [Agenda.post, there, here] using relieved.now
      · intro _
        simpa only [Agenda.post, there, here] using now

/-- The one queue is cancelled in both agendas; what that silences is silenced in both. -/
theorem cancel (relieved : Relieved gone agenda lone) (queue : Nat)
    : Relieved gone (agenda.cancel queue) (lone.cancel queue) where
  orderly := relieved.orderly.cancel queue
  sound := relieved.sound.cancel queue
  soundToo := relieved.soundToo.cancel queue
  nextIds := by rw [nextIds_cancel, nextIds_cancel, relieved.nextIds]
  ready := by
    have line : (agenda.cancel queue).ready = agenda.ready := rfl
    have lineToo : (lone.cancel queue).ready = lone.ready := rfl
    rw [line, lineToo, outline_cancel relieved.sound queue, outline_cancel relieved.soundToo queue,
      relieved.ready]
    · exact fun posting member => List.mem_append_left _ member
    · exact fun posting member => List.mem_append_left _ (List.mem_filter.mp member).1
  sleepers := by
    have others (agenda : Agenda τ) (postings : List (Posting τ))
        : (postings.filter (·.queue ≠ queue)).map agenda.outline
          = (postings.map agenda.outline).filter (·.queue ≠ queue) := by
      rw [List.filter_map]
      rfl
    have swapped
        : (agenda.sleepers.filter (·.queue ≠ queue)).filter (!gone ·.task)
          = (agenda.sleepers.filter (!gone ·.task)).filter (·.queue ≠ queue) := by
      rw [List.filter_filter, List.filter_filter]
      exact List.filter_congr fun posting _ => Bool.and_comm _ _
    have asleep : (agenda.cancel queue).sleepers = agenda.sleepers.filter (·.queue ≠ queue) := rfl
    have asleepToo : (lone.cancel queue).sleepers = lone.sleepers.filter (·.queue ≠ queue) := rfl
    rw [asleep, asleepToo, outline_cancel relieved.sound queue,
      outline_cancel relieved.soundToo queue, others, relieved.sleepers, swapped, others]
    · exact fun posting member => List.mem_append_right _ (List.mem_filter.mp member).1
    · intro posting member
      exact List.mem_append_right _ (List.mem_filter.mp (List.mem_filter.mp member).1).1
  now := relieved.now
  prompt := relieved.prompt

theorem outline_turn {task : Option τ} (turn : agenda.Turn task after)
    : after.outline = agenda.outline :=
  outline_congr turn.isLive

/-- The turn of a task that is gone leaves the relieved agenda as it is. -/
theorem turn_other (relieved : Relieved gone agenda lone) {task : Option τ}
    (turn : agenda.Turn task after) {first : Posting τ} {rest : List (Posting τ)}
    (line : agenda.ready = first :: rest) (foreign : gone first.task = true)
    : Relieved gone after lone := by
  have orderly := relieved.orderly.turn turn
  have sound := relieved.sound.turn turn
  have outlines := outline_turn turn
  have ready := relieved.ready
  rw [line, List.filter_cons_of_neg (by simp [foreign]), ← outlines] at ready
  have sleepers := relieved.sleepers
  rw [← outlines] at sleepers
  cases turn with
  | silenced also dead =>
      obtain ⟨rfl, rfl⟩ := List.cons.inj (line.symm.trans also)
      exact ⟨orderly, sound, relieved.soundToo, relieved.nextIds, ready, sleepers, relieved.now,
        relieved.prompt⟩
  | runs also live due =>
      obtain ⟨rfl, rfl⟩ := List.cons.inj (line.symm.trans also)
      refine ⟨orderly, sound, relieved.soundToo, ?_, ready, sleepers, relieved.now,
        relieved.prompt⟩
      rw [nextIds_strike]
      exact relieved.nextIds
  | sleeps also live early =>
      obtain ⟨rfl, rfl⟩ := List.cons.inj (line.symm.trans also)
      refine ⟨orderly, sound, relieved.soundToo, relieved.nextIds, ready, ?_, relieved.now,
        relieved.prompt⟩
      rw [filter_insertByDue_of_other (by simpa using foreign)]
      exact sleepers

/-- The turn of any other task is a turn in the relieved agenda, too, and makes the same of it. -/
theorem turn (relieved : Relieved gone agenda lone) {task : Option τ}
    (turn : agenda.Turn task after) {first : Posting τ} {rest : List (Posting τ)}
    (line : agenda.ready = first :: rest) (stays : gone first.task = false)
    : ∃ alike, lone.Turn task alike ∧ Relieved gone after alike ∧ alike.now = after.now := by
  have orderly := relieved.orderly.turn turn
  have sound := relieved.sound.turn turn
  have outlines := outline_turn turn
  have ready := relieved.ready
  have sleepers := relieved.sleepers
  rw [line, List.filter_cons_of_pos (by simp [stays]), List.map_cons] at ready
  obtain ⟨front, tail, lineToo, same, others⟩ := List.map_eq_cons_iff.mp ready
  have alike := outline_eq_iff.mp same
  have now : lone.now = agenda.now := relieved.prompt (by simp [lineToo])
  rw [← outlines] at others sleepers
  cases turn with
  | silenced also dead =>
      obtain ⟨rfl, rfl⟩ := List.cons.inj (line.symm.trans also)
      have next : lone.Turn none { lone with ready := tail } :=
        .silenced lineToo (by rw [alike.live, dead])
      exact ⟨_, next, ⟨orderly, sound, relieved.soundToo.turn next, relieved.nextIds, others,
        sleepers, relieved.now, fun _ => now⟩, now⟩
  | runs also live due =>
      obtain ⟨rfl, rfl⟩ := List.cons.inj (line.symm.trans also)
      have next : lone.Turn (some front.task) ({ lone with ready := tail }.strike front) :=
        .runs lineToo (by rw [alike.live, live]) (by rwa [alike.due, now])
      rw [alike.task] at next
      have outlinesToo := outline_turn next
      refine ⟨_, next, ⟨orderly, sound, relieved.soundToo.turn next, ?_, ?_, ?_, relieved.now,
        fun _ => now⟩, now⟩
      · rw [nextIds_strike, nextIds_strike]
        exact relieved.nextIds
      · rw [outlinesToo]
        exact others
      · rw [outlinesToo]
        exact sleepers
  | sleeps also live early =>
      obtain ⟨rfl, rfl⟩ := List.cons.inj (line.symm.trans also)
      have next : lone.Turn none
          { lone with ready := tail, sleepers := insertByDue front lone.sleepers } :=
        .sleeps lineToo (by rw [alike.live, live]) (by rwa [alike.due, now])
      refine ⟨_, next, ⟨orderly, sound, relieved.soundToo.turn next, relieved.nextIds, others, ?_,
        relieved.now, fun _ => now⟩, now⟩
      rw [filter_insertByDue_of_kept (by simpa using stays) relieved.orderly.sorted,
        outline_insertByDue, outline_insertByDue]
      exact congr (congrArg insertByDue same) sleepers

/-- When both clocks move to the same time, those who wake in the relieved agenda wake in both. -/
theorem moveTo (relieved : Relieved gone agenda lone) (line : agenda.ready = []) {time : Nat}
    (early : ∀ posting ∈ agenda.sleepers, time ≤ posting.due) (ahead : agenda.now ≤ time)
    : Relieved gone (agenda.moveTo time) (lone.moveTo time)
      ∧ (lone.moveTo time).now = (agenda.moveTo time).now := by
  have now : max lone.now time = max agenda.now time := by
    have := relieved.now
    omega
  have parts := filter_parts (fun posting => !gone posting.task) relieved.orderly.sorted
    (max agenda.now time)
  have woken : (lone.sleepers.takeWhile (·.due ≤ max agenda.now time)).map lone.outline
      = (lone.sleepers.map lone.outline).takeWhile (·.due ≤ max agenda.now time) := by
    rw [List.takeWhile_map]
    rfl
  have asleep : (lone.sleepers.dropWhile (·.due ≤ max agenda.now time)).map lone.outline
      = (lone.sleepers.map lone.outline).dropWhile (·.due ≤ max agenda.now time) := by
    rw [List.dropWhile_map]
    rfl
  refine ⟨⟨relieved.orderly.clock line early, relieved.sound.moveTo time,
    relieved.soundToo.moveTo time, relieved.nextIds, ?_, ?_, Nat.le_of_eq now, fun _ => now⟩, now⟩
  · have same : (lone.moveTo time).outline = lone.outline := rfl
    have sameToo : (agenda.moveTo time).outline = agenda.outline := rfl
    rw [same, sameToo]
    simp only [Agenda.moveTo, now, relieved.line line, line, List.nil_append]
    rw [woken, relieved.sleepers, List.takeWhile_map, ← parts.1]
    rfl
  · have same : (lone.moveTo time).outline = lone.outline := rfl
    have sameToo : (agenda.moveTo time).outline = agenda.outline := rfl
    rw [same, sameToo]
    simp only [Agenda.moveTo, now]
    rw [asleep, relieved.sleepers, List.dropWhile_map, ← parts.2]
    rfl

/-- When the clock moves to a time at which only tasks that are gone are due, the other may stay. -/
theorem moveTo_other (relieved : Relieved gone agenda lone) (line : agenda.ready = []) {time : Nat}
    (early : ∀ posting ∈ agenda.sleepers, time ≤ posting.due)
    (nobody : ∀ posting ∈ agenda.sleepers, gone posting.task = false → time < posting.due)
    : Relieved gone (agenda.moveTo time) lone := by
  have later (posting) (member : posting ∈ agenda.sleepers) (stays : gone posting.task = false)
      : ¬ posting.due ≤ max agenda.now time := by
    have := relieved.orderly.asleep posting member
    have := nobody posting member stays
    omega
  have parts := parts_of_sorted relieved.orderly.sorted (max agenda.now time)
  refine ⟨relieved.orderly.clock line early, relieved.sound.moveTo time, relieved.soundToo,
    relieved.nextIds, ?_, ?_, Nat.le_trans relieved.now (Nat.le_max_left _ _), ?_⟩
  · have woken
        : (agenda.sleepers.takeWhile (·.due ≤ max agenda.now time)).filter (!gone ·.task) = [] := by
      rw [parts.1, List.filter_filter, List.filter_eq_nil_iff]
      intro posting member kept
      simp only [Bool.and_eq_true, Bool.not_eq_true', decide_eq_true_eq] at kept
      exact later posting member kept.1 kept.2
    simp only [Agenda.moveTo, line, List.nil_append, woken, relieved.line line, List.map_nil]
  · have asleep
        : (agenda.sleepers.dropWhile (·.due ≤ max agenda.now time)).filter (!gone ·.task)
          = agenda.sleepers.filter (!gone ·.task) := by
      rw [parts.2, List.filter_filter]
      refine List.filter_congr ?_
      intro posting member
      cases stays : gone posting.task with
      | true => rfl
      | false => simpa using Nat.lt_of_not_le (later posting member stays)
    simp only [Agenda.moveTo, asleep]
    exact relieved.sleepers
  · intro someone
    exact absurd (relieved.line line) someone

/-- Whoever sleeps in the relieved agenda sleeps in the other for as long, and is not gone. -/
theorem asleep (relieved : Relieved gone agenda lone) {other : Posting τ}
    (member : other ∈ lone.sleepers)
    : ∃ posting ∈ agenda.sleepers, gone posting.task = false ∧ other.due = posting.due := by
  have outlined := List.mem_map_of_mem (f := lone.outline) member
  rw [relieved.sleepers] at outlined
  obtain ⟨posting, kept, same⟩ := List.mem_map.mp outlined
  obtain ⟨inside, stays⟩ := List.mem_filter.mp kept
  exact ⟨posting, inside, by simpa using stays, (outline_eq_iff.mp same.symm).due⟩

/-- If somebody who is not gone is due next, then next in the relieved agenda, too. -/
theorem next (relieved : Relieved gone agenda lone) {due : Nat} (next : agenda.next? = some due)
    {posting : Posting τ} (member : posting ∈ agenda.sleepers) (stays : gone posting.task = false)
    (prompt : posting.due ≤ due)
    : lone.next? = some due := by
  have dues : lone.sleepers.map (·.due) = (agenda.sleepers.filter (!gone ·.task)).map (·.due) := by
    have same := congrArg (List.map (·.due)) relieved.sleepers
    rwa [List.map_map, List.map_map] at same
  have kept : posting ∈ agenda.sleepers.filter (!gone ·.task) :=
    List.mem_filter.mpr ⟨member, by simp [stays]⟩
  obtain ⟨first, rest, sleepers⟩ := List.exists_cons_of_ne_nil (List.ne_nil_of_mem kept)
  have sorted := relieved.orderly.sorted.filter (!gone ·.task)
  have inside : first ∈ agenda.sleepers := by
    have head : first ∈ agenda.sleepers.filter (!gone ·.task) := by simp [sleepers]
    exact (List.mem_filter.mp head).1
  have least := relieved.orderly.next next first inside
  rw [sleepers] at sorted kept dues
  have most : first.due ≤ due := by
    rcases List.mem_cons.mp kept with rfl | behind
    · exact prompt
    · exact Nat.le_trans ((List.pairwise_cons.mp sorted).1 posting behind) prompt
  have head := congrArg List.head? dues
  rw [List.head?_map] at head
  simpa only [Agenda.next?, List.map_cons, List.head?_cons, Nat.le_antisymm most least] using head

/-- What an agenda does next is about a task that is gone, or the relieved agenda does the same. -/
theorem wake (relieved : Relieved gone agenda lone) {before : Nat} {task : Option τ}
    (woken : agenda.wake? before = some (task, after))
    : (Relieved gone after lone ∧ ∀ running ∈ task, gone running = true)
      ∨ ∃ alike,
          lone.wake? before = some (task, alike)
          ∧ Relieved gone after alike
          ∧ alike.now = after.now
          ∧ ∀ running ∈ task, gone running = false := by
  rcases wake?_cases woken with turn | ⟨rfl, line, due, next, within, rfl⟩
  · obtain ⟨first, rest, line, runs⟩ := turn.line
    cases whose : gone first.task with
    | true =>
        left
        refine ⟨relieved.turn_other turn line whose, ?_⟩
        intro running some
        rw [← runs running some, whose]
    | false =>
        right
        obtain ⟨alike, too, kept, now⟩ := relieved.turn turn line whose
        refine ⟨alike, wake?_of_turn too before, kept, now, ?_⟩
        intro running some
        rw [← runs running some, whose]
  · have early := relieved.orderly.next next
    by_cases someone : ∃ posting ∈ agenda.sleepers, gone posting.task = false ∧ posting.due ≤ due
    · right
      obtain ⟨posting, member, stays, prompt⟩ := someone
      have ahead : agenda.now ≤ due :=
        Nat.le_trans (Nat.le_of_lt (relieved.orderly.asleep posting member)) prompt
      obtain ⟨kept, now⟩ := relieved.moveTo line early ahead
      refine ⟨_, wake?_of_next (relieved.line line) ?_ within, kept, now, by simp⟩
      exact relieved.next next member stays prompt
    · left
      refine ⟨relieved.moveTo_other line early ?_, by simp⟩
      intro posting member stays
      apply Nat.lt_of_not_le
      intro prompt
      exact someone ⟨posting, member, stays, prompt⟩

/-- When nothing is to be done before a time, there is nothing to do in the relieved agenda. -/
theorem nobody (relieved : Relieved gone agenda lone) {before : Nat}
    (nobody : agenda.wake? before = none)
    : lone.wake? before = none := by
  obtain ⟨line, later⟩ := relieved.orderly.nobody nobody
  apply wake?_of_nobody (relieved.line line)
  intro other member
  obtain ⟨posting, inside, -, due⟩ := relieved.asleep member
  rw [due]
  exact later posting inside

-----------------------------------------------------------------------------------------
-- What is still to run
-----------------------------------------------------------------------------------------

/-- The tasks still to run are the same but for those that are gone, in the same order. -/
theorem tasks (relieved : Relieved gone agenda lone)
    : lone.tasks.map lone.outline = (agenda.tasks.filter (!gone ·.task)).map agenda.outline := by
  have live (agenda : Agenda τ) (postings : List (Posting τ))
      : (postings.filter agenda.isLive).map agenda.outline
        = (postings.map agenda.outline).filter (·.generation = 0) := by
    rw [List.filter_map]
    congr 1
    refine List.filter_congr ?_
    intro posting _
    cases there : agenda.isLive posting <;> simp [outline, there]
  have swapped (postings : List (Posting τ))
      : (postings.filter agenda.isLive).filter (!gone ·.task)
        = (postings.filter (!gone ·.task)).filter agenda.isLive := by
    rw [List.filter_filter, List.filter_filter]
    exact List.filter_congr fun posting _ => Bool.and_comm _ _
  simp only [Agenda.tasks, live, swapped, List.map_append, List.filter_append, relieved.ready,
    relieved.sleepers]

/-- What a queue has still to run is more by its tasks that are gone. -/
theorem pending (relieved : Relieved gone agenda lone) (listed : agenda.Listed)
    (listedToo : lone.Listed) (queue : Nat)
    : agenda.pending queue
      = lone.pending queue
        + agenda.tasks.countP fun posting =>
            decide (posting.queue = queue) && gone posting.task := by
  have queued (agenda : Agenda τ) (postings : List (Posting τ))
      : postings.countP (·.queue = queue)
        = (postings.map agenda.outline).countP (·.queue = queue) := by
    rw [List.countP_map]
    rfl
  have kept
      : lone.tasks.countP (·.queue = queue)
        = agenda.tasks.countP fun posting =>
            decide (posting.queue = queue) && !gone posting.task := by
    rw [queued lone lone.tasks, relieved.tasks, ← queued agenda, List.countP_filter]
  rw [listed.count, listedToo.count, kept,
    List.countP_eq_countP_filter_add agenda.tasks _ (!gone ·.task), List.countP_filter,
    List.countP_filter]
  simp

end Relieved

-----------------------------------------------------------------------------------------
-- Relieving an agenda
-----------------------------------------------------------------------------------------

/-- The agenda without the tasks that are gone, which its queues do not list any more, either. -/
def without (gone : τ → Bool) (agenda : Agenda τ) : Agenda τ :=
  { agenda with
    queues := agenda.queues.mapIdx fun number q =>
      { q with
        pending := q.pending.diff
          ((agenda.tasks.filter fun posting =>
            decide (posting.queue = number) && gone posting.task).map (·.id)) }
    ready := agenda.ready.filter (!gone ·.task)
    sleepers := agenda.sleepers.filter (!gone ·.task) }

theorem isLive_without (gone : τ → Bool) (agenda : Agenda τ) (posting : Posting τ)
    : (agenda.without gone).isLive posting = agenda.isLive posting := by
  simp only [isLive, without, List.getElem?_mapIdx]
  cases agenda.queues[posting.queue]? <;> rfl

theorem Sound.without (sound : agenda.Sound) (gone : τ → Bool) : (agenda.without gone).Sound := by
  refine sound.of_subset ?_ ?_
  · intro posting member
    rcases List.mem_append.mp member with ready | asleep
    · exact List.mem_append_left _ (List.mem_filter.mp ready).1
    · exact List.mem_append_right _ (List.mem_filter.mp asleep).1
  · intro number q there
    simp only [Agenda.without, List.getElem?_mapIdx, there, Option.map_some]
    exact ⟨_, rfl, Nat.le_refl q.generation⟩

theorem Orderly.relieved (orderly : agenda.Orderly) (sound : agenda.Sound) (gone : τ → Bool)
    : Relieved gone agenda (agenda.without gone) := by
  have outlines : (agenda.without gone).outline = agenda.outline :=
    outline_congr (isLive_without gone agenda)
  refine ⟨orderly, sound, sound.without gone, ?_, ?_, ?_, Nat.le_refl _, fun _ => rfl⟩
  · apply List.ext_getElem?
    intro number
    simp only [nextIds, without, List.getElem?_map, List.getElem?_mapIdx]
    cases agenda.queues[number]? <;> rfl
  · rw [outlines]
    rfl
  · rw [outlines]
    rfl

theorem Listed.without (listed : agenda.Listed) (gone : τ → Bool) : (agenda.without gone).Listed
    where
  sound := listed.sound.without gone
  pending number q there := by
    simp only [Agenda.without, List.getElem?_mapIdx] at there
    obtain ⟨old, found, rfl⟩ := Option.map_eq_some_iff.mp there
    have tasks : (agenda.without gone).tasks = agenda.tasks.filter (!gone ·.task) := by
      rw [Agenda.tasks, funext (isLive_without gone agenda)]
      simp only [Agenda.tasks, Agenda.without, ← List.filter_append, List.filter_filter]
      exact List.filter_congr fun posting _ => Bool.and_comm _ _
    have parts := (List.filter_append_perm (gone ·.task)
      (agenda.tasks.filter (·.queue = number))).map (·.id)
    have whole := (listed.pending number old found).trans parts.symm
    rw [List.map_append, List.filter_filter, List.filter_filter] at whole
    simp only [toRun, tasks, List.filter_filter]
    rw [List.perm_iff_count] at whole ⊢
    intro id
    simp only [List.count_diff, whole id, List.count_append, Bool.and_comm, Nat.add_sub_cancel_left]

/-- An agenda is relieved of nobody. -/
theorem Orderly.relieved_self (orderly : agenda.Orderly) (sound : agenda.Sound)
    : Relieved (fun _ => false) agenda agenda where
  orderly := orderly
  sound := sound
  soundToo := sound
  nextIds := rfl
  ready := congrArg _ (List.filter_eq_self.mpr fun _ _ => rfl).symm
  sleepers := congrArg _ (List.filter_eq_self.mpr fun _ _ => rfl).symm
  now := Nat.le_refl _
  prompt _ := rfl

/-- A queue may be cancelled in a copy of an agenda if nobody has still to run on it. Whoever was
silenced there may be in line.
-/
theorem Orderly.relieved_cancel (orderly : agenda.Orderly) (sound : agenda.Sound)
    (nobody : ∀ posting ∈ agenda.tasks, posting.queue ≠ queue)
    : Relieved (fun _ => false) agenda (agenda.cancel queue) := by
  have outlines (postings : List (Posting τ)) (within : ∀ p ∈ postings, p ∈ agenda.waiting)
      : postings.map (agenda.cancel queue).outline = postings.map agenda.outline := by
    refine List.map_congr_left ?_
    intro posting member
    have inside := within posting member
    simp only [outline, isLive_cancel sound queue inside]
    cases live : agenda.isLive posting with
    | false => simp
    | true => simp [nobody posting (List.mem_filter.mpr ⟨inside, live⟩)]
  have asleep : (agenda.cancel queue).sleepers = agenda.sleepers := by
    refine List.filter_eq_self.mpr ?_
    intro posting member
    have inside : posting ∈ agenda.waiting := List.mem_append_right _ member
    simpa using nobody posting (List.mem_filter.mpr ⟨inside, orderly.live posting member⟩)
  have line : (agenda.cancel queue).ready = agenda.ready := rfl
  refine ⟨orderly, sound, sound.cancel queue, nextIds_cancel agenda queue, ?_, ?_, Nat.le_refl _,
    fun _ => rfl⟩
  · rw [line, outlines _ fun posting member => List.mem_append_left _ member]
    exact congrArg _ (List.filter_eq_self.mpr fun _ _ => rfl).symm
  · rw [asleep, outlines _ fun posting member => List.mem_append_right _ member]
    exact congrArg _ (List.filter_eq_self.mpr fun _ _ => rfl).symm

end Agenda

end UpdaterLaunch
