import UpdaterLaunch.Proofs.PostingOrder

/-! An agenda beside one that has only the tasks of some of its queues. Whatever runs on those
queues runs on both at the same time. In between the smaller one may be behind, as its clock does
not stop for tasks that it does not have.
-/

namespace UpdaterLaunch

universe u

namespace Agenda

variable {τ : Type u} {mine : Nat → Bool} {agenda after lone : Agenda τ}

-----------------------------------------------------------------------------------------
-- The tasks of some queues among all
-----------------------------------------------------------------------------------------

theorem filter_insertByDue_of_kept {keep : Posting τ → Bool} {posting : Posting τ}
    (kept : keep posting = true) {postings : List (Posting τ)}
    (sorted : postings.Pairwise (·.due ≤ ·.due))
    : (insertByDue posting postings).filter keep = insertByDue posting (postings.filter keep) := by
  fun_induction insertByDue posting postings with
  | case1 => simp [insertByDue, kept]
  | case2 first rest le ih =>
      have tail := ih (List.pairwise_cons.mp sorted).2
      by_cases stays : keep first = true <;> simp [stays, tail, insertByDue, le]
  | case3 first rest lt =>
      have later : ∀ other ∈ (first :: rest).filter keep, ¬ other.due ≤ posting.due := by
        intro other member le
        rcases List.mem_cons.mp (List.mem_filter.mp member).1 with rfl | behind
        · exact lt le
        · exact lt (Nat.le_trans ((List.pairwise_cons.mp sorted).1 other behind) le)
      rw [List.filter_cons_of_pos kept]
      cases others : (first :: rest).filter keep with
      | nil => rfl
      | cons head tail =>
          rw [others] at later
          rw [insertByDue, if_neg (later head List.mem_cons_self)]

theorem filter_insertByDue_of_other {keep : Posting τ → Bool} {posting : Posting τ}
    (other : keep posting = false) (postings : List (Posting τ))
    : (insertByDue posting postings).filter keep = postings.filter keep := by
  fun_induction insertByDue posting postings with
  | case1 => simp [other]
  | case2 first rest le ih => simp [List.filter_cons, ih]
  | case3 first rest lt => simp [List.filter_cons, other]

/-- Those of sleepers by due time that the clock has reached, and the others, are told apart among
some of them as among all.
-/
theorem filter_parts (keep : Posting τ → Bool) {postings : List (Posting τ)}
    (sorted : postings.Pairwise (·.due ≤ ·.due))
    (time : Nat)
    : (postings.filter keep).takeWhile (·.due ≤ time)
        = (postings.takeWhile (·.due ≤ time)).filter keep
      ∧ (postings.filter keep).dropWhile (·.due ≤ time)
        = (postings.dropWhile (·.due ≤ time)).filter keep := by
  obtain ⟨woken, asleep⟩ := parts_of_sorted sorted time
  obtain ⟨wokenToo, asleepToo⟩ := parts_of_sorted (sorted.filter keep) time
  rw [woken, asleep, wokenToo, asleepToo]
  simp only [List.filter_filter, Bool.and_comm]
  exact ⟨trivial, trivial⟩

/-- A turn is that of the first in line, and what runs in it is that task. -/
theorem Turn.line {task : Option τ} (turn : agenda.Turn task after)
    : ∃ first rest, agenda.ready = first :: rest ∧ ∀ running ∈ task, first.task = running := by
  cases turn with
  | silenced line => exact ⟨_, _, line, by simp⟩
  | runs line => exact ⟨_, _, line, by simp⟩
  | sleeps line => exact ⟨_, _, line, by simp⟩

/-- If a turn runs a task, it is that of the first in line. -/
theorem Turn.runs_first {task : Option τ} (turn : agenda.Turn task after) {first : Posting τ}
    {rest : List (Posting τ)} (line : agenda.ready = first :: rest)
    : ∀ running ∈ task, first.task = running := by
  obtain ⟨head, tail, also, runs⟩ := turn.line
  obtain ⟨rfl, rfl⟩ := List.cons.inj (line.symm.trans also)
  exact runs

theorem turn?_of_turn {task : Option τ} (turn : agenda.Turn task after)
    : agenda.turn? = some (task, after) := by
  cases turn with
  | silenced line dead => simp [turn?, line, dead]
  | runs line live due => simp [turn?, line, live, due]
  | sleeps line live early => simp [turn?, line, live, Nat.not_le.mpr early]

theorem wake?_of_turn {task : Option τ} (turn : agenda.Turn task after) (before : Nat)
    : agenda.wake? before = some (task, after) := by
  simp only [wake?, turn?_of_turn turn]

theorem wake?_of_next {before due : Nat} (line : agenda.ready = [])
    (next : agenda.next? = some due) (within : due < before)
    : agenda.wake? before = some (none, agenda.moveTo due) := by
  simp only [wake?, turn?_eq_none_iff.mpr line, next]
  rw [Option.filter_some_pos (by simpa using within)]
  rfl

theorem wake?_of_nobody {before : Nat} (line : agenda.ready = [])
    (nobody : ∀ posting ∈ agenda.sleepers, before ≤ posting.due)
    : agenda.wake? before = none := by
  simp only [wake?, turn?_eq_none_iff.mpr line, Option.map_eq_none_iff, Option.filter_eq_none_iff]
  intro due next
  obtain ⟨first, head, rfl⟩ := Option.map_eq_some_iff.mp next
  simpa using nobody first (List.mem_of_mem_head? head)

-----------------------------------------------------------------------------------------
-- Shadows
-----------------------------------------------------------------------------------------

/-- Beside an agenda in order there is one with the tasks of some of its queues only. Its clock may
be behind, but not while somebody is in line.
-/
structure Shadows (mine : Nat → Bool) (agenda lone : Agenda τ) : Prop where
  orderly : agenda.Orderly
  queues : ∀ queue, mine queue = true → lone.queues[queue]? = agenda.queues[queue]?
  ready : lone.ready = agenda.ready.filter (mine ·.queue)
  sleepers : lone.sleepers = agenda.sleepers.filter (mine ·.queue)
  now : lone.now ≤ agenda.now
  prompt : lone.ready ≠ [] → lone.now = agenda.now

/-- The agenda with the tasks of some queues only. -/
def only (mine : Nat → Bool) (agenda : Agenda τ) : Agenda τ :=
  { agenda with
    ready := agenda.ready.filter (mine ·.queue)
    sleepers := agenda.sleepers.filter (mine ·.queue) }

theorem Orderly.shadows (orderly : agenda.Orderly) (mine : Nat → Bool)
    : Shadows mine agenda (agenda.only mine) :=
  ⟨orderly, fun _ _ => rfl, rfl, rfl, Nat.le_refl _, fun _ => rfl⟩

namespace Shadows

theorem nextId (shadows : Shadows mine agenda lone) {queue : Nat} (own : mine queue = true)
    : lone.nextId queue = agenda.nextId queue := by
  simp only [Agenda.nextId, shadows.queues queue own]

theorem pending (shadows : Shadows mine agenda lone) {queue : Nat} (own : mine queue = true)
    : lone.pending queue = agenda.pending queue := by
  simp only [Agenda.pending, shadows.queues queue own]

theorem isLive (shadows : Shadows mine agenda lone) {posting : Posting τ}
    (own : mine posting.queue = true)
    : lone.isLive posting = agenda.isLive posting := by
  simp only [Agenda.isLive, shadows.queues _ own]

/-- If the line is empty, so is that of the shadow. -/
theorem line (shadows : Shadows mine agenda lone) (line : agenda.ready = []) : lone.ready = [] := by
  rw [shadows.ready, line]
  rfl

theorem post (shadows : Shadows mine agenda lone) (now : lone.now = agenda.now) {queue : Nat}
    (own : mine queue = true) (delay : Nat) (task : τ)
    : Shadows mine (agenda.post queue delay task) (lone.post queue delay task) := by
  have orderly := shadows.orderly.post queue delay task
  have same := shadows.queues queue own
  unfold Agenda.post at orderly ⊢
  rw [same]
  cases there : agenda.queues[queue]? with
  | none => exact shadows
  | some q =>
      rw [there] at orderly
      have inside := (List.getElem?_eq_some_iff.mp there).1
      have within := (List.getElem?_eq_some_iff.mp (same.trans there)).1
      refine ⟨orderly, ?_, ?_, shadows.sleepers, shadows.now, fun _ => now⟩
      · intro any member
        by_cases hit : queue = any
        · subst hit
          simp only [List.getElem?_set_self inside, List.getElem?_set_self within]
        · simp only [List.getElem?_set_ne hit, shadows.queues any member]
      · simp [shadows.ready, own, dueAfter, now]

theorem post_other (shadows : Shadows mine agenda lone) {queue : Nat}
    (foreign : mine queue = false) (delay : Nat) (task : τ)
    : Shadows mine (agenda.post queue delay task) lone := by
  have orderly := shadows.orderly.post queue delay task
  unfold Agenda.post at orderly ⊢
  cases there : agenda.queues[queue]? with
  | none => exact shadows
  | some q =>
      rw [there] at orderly
      refine ⟨orderly, ?_, ?_, shadows.sleepers, shadows.now, shadows.prompt⟩
      · intro own member
        have ne : queue ≠ own := by
          rintro rfl
          simp [foreign] at member
        rw [List.getElem?_set_ne ne, shadows.queues own member]
      · simp [shadows.ready, foreign]

theorem cancel (shadows : Shadows mine agenda lone) (queue : Nat)
    : Shadows mine (agenda.cancel queue) (lone.cancel queue) where
  orderly := shadows.orderly.cancel queue
  queues own member := by simp only [Agenda.cancel, List.getElem?_modify, shadows.queues own member]
  ready := shadows.ready
  sleepers := by
    simp only [Agenda.cancel, shadows.sleepers, List.filter_filter]
    exact List.filter_congr fun posting _ => Bool.and_comm _ _
  now := shadows.now
  prompt := shadows.prompt

theorem cancel_other (shadows : Shadows mine agenda lone) {queue : Nat}
    (foreign : mine queue = false)
    : Shadows mine (agenda.cancel queue) lone where
  orderly := shadows.orderly.cancel queue
  queues own member := by
    have ne : queue ≠ own := by
      rintro rfl
      simp [foreign] at member
    simp [Agenda.cancel, ne, shadows.queues own member]
  ready := shadows.ready
  sleepers := by
    simp only [Agenda.cancel, shadows.sleepers, List.filter_filter]
    refine List.filter_congr ?_
    intro posting _
    by_cases hit : posting.queue = queue <;> simp [hit, foreign]
  now := shadows.now
  prompt := shadows.prompt

/-- The turn of a task that the shadow does not have leaves the shadow as it is. -/
theorem turn_other (shadows : Shadows mine agenda lone) {task : Option τ}
    (turn : agenda.Turn task after) {first : Posting τ} {rest : List (Posting τ)}
    (line : agenda.ready = first :: rest) (foreign : mine first.queue = false)
    : Shadows mine after lone := by
  have orderly := shadows.orderly.turn turn
  have ready := shadows.ready
  rw [line, List.filter_cons_of_neg (by simp [foreign])] at ready
  cases turn with
  | silenced also dead =>
      obtain ⟨rfl, rfl⟩ := List.cons.inj (line.symm.trans also)
      exact ⟨orderly, shadows.queues, ready, shadows.sleepers, shadows.now, shadows.prompt⟩
  | runs also live due =>
      obtain ⟨rfl, rfl⟩ := List.cons.inj (line.symm.trans also)
      refine ⟨orderly, ?_, ready, shadows.sleepers, shadows.now, shadows.prompt⟩
      intro own member
      have ne : first.queue ≠ own := by
        rintro rfl
        simp [foreign] at member
      simp [strike, ne, shadows.queues own member]
  | sleeps also live early =>
      obtain ⟨rfl, rfl⟩ := List.cons.inj (line.symm.trans also)
      refine ⟨orderly, shadows.queues, ready, ?_, shadows.now, shadows.prompt⟩
      rw [filter_insertByDue_of_other (by simpa using foreign)]
      exact shadows.sleepers

/-- The turn of a task that the shadow has is a turn there too, and makes the same of it. -/
theorem turn (shadows : Shadows mine agenda lone) {task : Option τ}
    (turn : agenda.Turn task after) {first : Posting τ} {rest : List (Posting τ)}
    (line : agenda.ready = first :: rest) (own : mine first.queue = true)
    : ∃ alike, lone.Turn task alike ∧ Shadows mine after alike ∧ alike.now = after.now := by
  have orderly := shadows.orderly.turn turn
  have ready := shadows.ready
  rw [line, List.filter_cons_of_pos (by simp [own])] at ready
  have now : lone.now = agenda.now := shadows.prompt (by simp [ready])
  cases turn with
  | silenced also dead =>
      obtain ⟨rfl, rfl⟩ := List.cons.inj (line.symm.trans also)
      refine ⟨_, .silenced ready (by rwa [shadows.isLive own]), ?_, now⟩
      exact ⟨orderly, shadows.queues, rfl, shadows.sleepers, shadows.now, fun _ => now⟩
  | runs also live due =>
      obtain ⟨rfl, rfl⟩ := List.cons.inj (line.symm.trans also)
      refine ⟨_, .runs ready (by rwa [shadows.isLive own]) (by rwa [now]), ?_, now⟩
      refine ⟨orderly, ?_, rfl, shadows.sleepers, shadows.now, fun _ => now⟩
      intro queue member
      simp only [strike, List.getElem?_modify, shadows.queues queue member]
  | sleeps also live early =>
      obtain ⟨rfl, rfl⟩ := List.cons.inj (line.symm.trans also)
      refine ⟨_, .sleeps ready (by rwa [shadows.isLive own]) (by rwa [now]), ?_, now⟩
      refine ⟨orderly, shadows.queues, rfl, ?_, shadows.now, fun _ => now⟩
      rw [filter_insertByDue_of_kept (by simpa using own) shadows.orderly.sorted,
        ← shadows.sleepers]

/-- When both clocks move to the same time, those who wake in the shadow wake in both. -/
theorem moveTo (shadows : Shadows mine agenda lone) (line : agenda.ready = []) {time : Nat}
    (early : ∀ posting ∈ agenda.sleepers, time ≤ posting.due) (ahead : agenda.now ≤ time)
    : Shadows mine (agenda.moveTo time) (lone.moveTo time)
      ∧ (lone.moveTo time).now = (agenda.moveTo time).now := by
  have now : max lone.now time = max agenda.now time := by
    have := shadows.now
    omega
  obtain ⟨woken, asleep⟩ := filter_parts (mine ·.queue) shadows.orderly.sorted (max agenda.now time)
  refine ⟨⟨shadows.orderly.clock line early, shadows.queues, ?_, ?_, Nat.le_of_eq now,
    fun _ => now⟩, now⟩
  · simp only [Agenda.moveTo, now, shadows.line line, line, shadows.sleepers, woken,
      List.nil_append]
  · simp only [Agenda.moveTo, now, shadows.sleepers, asleep]

/-- When the clock moves to a time at which nobody in the shadow is due, the shadow may stay behind.
-/
theorem moveTo_other (shadows : Shadows mine agenda lone) (line : agenda.ready = []) {time : Nat}
    (early : ∀ posting ∈ agenda.sleepers, time ≤ posting.due)
    (nobody : ∀ posting ∈ agenda.sleepers, mine posting.queue = true → time < posting.due)
    : Shadows mine (agenda.moveTo time) lone := by
  have later (posting) (member : posting ∈ agenda.sleepers) (own : mine posting.queue = true)
      : ¬ posting.due ≤ max agenda.now time := by
    have := shadows.orderly.asleep posting member
    have := nobody posting member own
    omega
  obtain ⟨woken, asleep⟩ := parts_of_sorted shadows.orderly.sorted (max agenda.now time)
  refine ⟨shadows.orderly.clock line early, shadows.queues, ?_, ?_,
    Nat.le_trans shadows.now (Nat.le_max_left _ _), ?_⟩
  · rw [shadows.line line]
    simp only [Agenda.moveTo, line, List.nil_append, woken, List.filter_filter]
    symm
    rw [List.filter_eq_nil_iff]
    intro posting member kept
    simp only [Bool.and_eq_true, decide_eq_true_eq] at kept
    exact later posting member kept.1 kept.2
  · simp only [Agenda.moveTo, asleep, List.filter_filter, shadows.sleepers]
    refine List.filter_congr ?_
    intro posting member
    cases own : mine posting.queue with
    | false => rfl
    | true => simpa using Nat.lt_of_not_le (later posting member own)
  · intro someone
    exact absurd (shadows.line line) someone

/-- If somebody in the shadow is due next, then next in the shadow, too. -/
theorem next (shadows : Shadows mine agenda lone) {due : Nat} (next : agenda.next? = some due)
    {posting : Posting τ} (member : posting ∈ agenda.sleepers) (own : mine posting.queue = true)
    (prompt : posting.due ≤ due)
    : lone.next? = some due := by
  have sorted := shadows.orderly.sorted.filter (mine ·.queue)
  rw [← shadows.sleepers] at sorted
  have kept : posting ∈ lone.sleepers := by
    rw [shadows.sleepers]
    exact List.mem_filter.mpr ⟨member, own⟩
  obtain ⟨first, rest, sleepers⟩ := List.exists_cons_of_ne_nil (List.ne_nil_of_mem kept)
  have inside : first ∈ agenda.sleepers := by
    have head : first ∈ lone.sleepers := by simp [sleepers]
    rw [shadows.sleepers] at head
    exact (List.mem_filter.mp head).1
  have least := shadows.orderly.next next first inside
  rw [sleepers] at sorted kept
  have most : first.due ≤ due := by
    rcases List.mem_cons.mp kept with rfl | behind
    · exact prompt
    · exact Nat.le_trans ((List.pairwise_cons.mp sorted).1 posting behind) prompt
  simp [Agenda.next?, sleepers, Nat.le_antisymm most least]

/-- What an agenda does next is nothing to the shadow, or the shadow does the same. -/
theorem wake (shadows : Shadows mine agenda lone) {before : Nat} {task : Option τ}
    (woken : agenda.wake? before = some (task, after))
    : (Shadows mine after lone
        ∧ ∀ running ∈ task,
            ∃ posting ∈ agenda.ready, posting.task = running ∧ mine posting.queue = false)
      ∨ ∃ alike,
          lone.wake? before = some (task, alike)
          ∧ Shadows mine after alike
          ∧ alike.now = after.now
          ∧ ∀ running ∈ task,
              ∃ posting ∈ agenda.ready, posting.task = running ∧ mine posting.queue = true := by
  rcases wake?_cases woken with turn | ⟨rfl, line, due, next, within, rfl⟩
  · obtain ⟨first, rest, line, runs⟩ := turn.line
    have head : first ∈ agenda.ready := by simp [line]
    cases own : mine first.queue with
    | false =>
        left
        refine ⟨shadows.turn_other turn line own, ?_⟩
        intro running some
        exact ⟨first, head, runs running some, own⟩
    | true =>
        right
        obtain ⟨alike, too, kept, now⟩ := shadows.turn turn line own
        refine ⟨alike, wake?_of_turn too before, kept, now, ?_⟩
        intro running some
        exact ⟨first, head, runs running some, own⟩
  · have early := shadows.orderly.next next
    by_cases someone : ∃ posting ∈ agenda.sleepers, mine posting.queue = true ∧ posting.due ≤ due
    · right
      obtain ⟨posting, member, own, prompt⟩ := someone
      have ahead : agenda.now ≤ due :=
        Nat.le_trans (Nat.le_of_lt (shadows.orderly.asleep posting member)) prompt
      obtain ⟨kept, now⟩ := shadows.moveTo line early ahead
      refine ⟨_, wake?_of_next (shadows.line line) ?_ within, kept, now, by simp⟩
      exact shadows.next next member own prompt
    · left
      refine ⟨shadows.moveTo_other line early ?_, by simp⟩
      intro posting member own
      apply Nat.lt_of_not_le
      intro prompt
      exact someone ⟨posting, member, own, prompt⟩

/-- When nothing is to be done before a time, the shadow has nothing to do either. -/
theorem nobody (shadows : Shadows mine agenda lone) {before : Nat}
    (nobody : agenda.wake? before = none)
    : lone.wake? before = none := by
  obtain ⟨line, later⟩ := shadows.orderly.nobody nobody
  apply wake?_of_nobody (shadows.line line)
  intro posting member
  rw [shadows.sleepers] at member
  exact later posting (List.mem_filter.mp member).1

end Shadows

end Agenda

end UpdaterLaunch
