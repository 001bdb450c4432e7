import UpdaterLaunch.Proofs.Histories
import UpdaterLaunch.Proofs.PostingOrder

/-! The history of an agenda: what was posted, what was cancelled and what ran, in the order in
which it happened. Turns of tasks that do not run and steps of the clock leave no mark in it. A task
that was posted waits until it runs at its due time, unless its queue is cancelled first. On each
queue the tasks that run do so by due time, and those due at the same time as they were posted.
-/

namespace UpdaterLaunch

universe u

/-- Something that has happened on an agenda. -/
inductive Deed (τ : Type u)
  | posted (time delay : Nat) (posting : Posting τ)
  | cancelled (queue : Nat)
  | ran (time : Nat) (posting : Posting τ)

namespace Deed

variable {τ : Type u}

/-- The posted tasks of a history, first to last. -/
def postings (deeds : List (Deed τ)) : List (Posting τ) :=
  deeds.filterMap fun
    | .posted _ _ posting => some posting
    | _ => none

/-- The tasks of a history that ran, each with its time, first to last. -/
def runs (deeds : List (Deed τ)) : List (Nat × Posting τ) :=
  deeds.filterMap fun
    | .ran time posting => some (time, posting)
    | _ => none

/-- In the history since it was posted, a task was silenced if its queue was cancelled before it
ran.
-/
def Silences (since : List (Deed τ)) (posting : Posting τ) : Prop :=
  ∃ early late,
    since = early ++ .cancelled posting.queue :: late ∧ ∀ time, .ran time posting ∉ early

theorem mem_runs_iff {deeds : List (Deed τ)} {time : Nat} {posting : Posting τ}
    : (time, posting) ∈ runs deeds ↔ .ran time posting ∈ deeds := by
  simp only [runs, List.mem_filterMap]
  constructor
  · rintro ⟨deed, member, eq⟩
    cases deed with
    | ran => simp_all
    | posted => simp at eq
    | cancelled => simp at eq
  · intro member
    exact ⟨_, member, rfl⟩

section

variable (deeds : List (Deed τ)) (time delay queue : Nat) (posting : Posting τ)

@[simp]
theorem postings_posted
    : postings (deeds ++ [.posted time delay posting]) = postings deeds ++ [posting] := by
  simp [postings]

@[simp]
theorem postings_cancelled : postings (deeds ++ [.cancelled queue]) = postings deeds := by
  simp [postings]

@[simp]
theorem postings_ran : postings (deeds ++ [.ran time posting]) = postings deeds := by
  simp [postings]

@[simp]
theorem runs_posted : runs (deeds ++ [.posted time delay posting]) = runs deeds := by
  simp [runs]

@[simp]
theorem runs_cancelled : runs (deeds ++ [.cancelled queue]) = runs deeds := by
  simp [runs]

@[simp]
theorem runs_ran : runs (deeds ++ [.ran time posting]) = runs deeds ++ [(time, posting)] := by
  simp [runs]

end

theorem silences_concat_iff {since : List (Deed τ)} {deed : Deed τ} {posting : Posting τ}
    : Silences (since ++ [deed]) posting
      ↔ Silences since posting
        ∨ (deed = .cancelled posting.queue ∧ ∀ time, .ran time posting ∉ since) := by
  constructor
  · rintro ⟨early, late, eq, unrun⟩
    rcases split_concat eq with ⟨-, last, rfl⟩ | ⟨rest, -, eq⟩
    · exact .inr ⟨last.symm, unrun⟩
    · exact .inl ⟨early, rest, eq, unrun⟩
  · rintro (⟨early, late, rfl, unrun⟩ | ⟨rfl, unrun⟩)
    · exact ⟨early, late ++ [deed], by simp, unrun⟩
    · exact ⟨since, [], rfl, unrun⟩

end Deed

namespace Agenda

variable {τ : Type u} {start agenda after : Agenda τ} {deeds : List (Deed τ)}

/-- An agenda comes from another by the deeds of a history. The clock moves only while nobody is in
line, and no further than to the next due time.
-/
inductive Chronicle (start : Agenda τ) : List (Deed τ) → Agenda τ → Prop
  | start : Chronicle start [] start
  | post {deeds : List (Deed τ)} {agenda : Agenda τ} {queue : Nat} {q : Queue}
    (early : Chronicle start deeds agenda) (there : agenda.queues[queue]? = some q)
    (delay : Nat) (task : τ)
    : Chronicle start
        (deeds ++ [.posted agenda.now delay (agenda.newPosting queue q delay task)])
        (agenda.post queue delay task)
  | cancel {deeds : List (Deed τ)} {agenda : Agenda τ} (early : Chronicle start deeds agenda)
    (queue : Nat)
    : Chronicle start (deeds ++ [.cancelled queue]) (agenda.cancel queue)
  | run {deeds : List (Deed τ)} {agenda : Agenda τ} {first : Posting τ} {rest : List (Posting τ)}
    (early : Chronicle start deeds agenda) (line : agenda.ready = first :: rest)
    (live : agenda.isLive first = true) (due : first.due ≤ agenda.now)
    : Chronicle start (deeds ++ [.ran agenda.now first])
        ({ agenda with ready := rest }.strike first)
  | pass {deeds : List (Deed τ)} {agenda after : Agenda τ} (early : Chronicle start deeds agenda)
    (turn : agenda.Turn none after)
    : Chronicle start deeds after
  | clock {deeds : List (Deed τ)} {agenda : Agenda τ} (early : Chronicle start deeds agenda)
    (line : agenda.ready = []) (time : Nat)
    (nobody : ∀ posting ∈ agenda.sleepers, time ≤ posting.due)
    : Chronicle start deeds (agenda.moveTo time)

-----------------------------------------------------------------------------------------
-- What a history says of its tasks
-----------------------------------------------------------------------------------------

namespace Chronicle

theorem ranked (chronicle : Chronicle start deeds agenda) (idle : start.Idle) : agenda.Ranked := by
  induction chronicle with
  | start => exact idle.ranked
  | post early there delay task ih => exact ih.post there delay task
  | cancel early queue ih => exact ih.cancel queue
  | run early line live due ih => exact ih.turn (.runs line live due)
  | pass early turn ih => exact ih.turn turn
  | clock early line time nobody ih => exact ih.clock line nobody

/-- Whoever has run is past, by induction on the history. -/
theorem past (chronicle : Chronicle start deeds agenda) (idle : start.Idle) {time : Nat}
    {posting : Posting τ} (ran : .ran time posting ∈ deeds)
    : time = posting.due ∧ agenda.Past posting := by
  induction chronicle with
  | start => simp at ran
  | post early there delay task ih =>
      obtain ⟨punctual, past⟩ := ih (by simpa using ran)
      exact ⟨punctual, past.post there delay task⟩
  | @cancel _ agenda early queue ih =>
      obtain ⟨punctual, past⟩ := ih (by simpa using ran)
      exact ⟨punctual, past.of_subset (Nat.le_refl _) (nextId_cancel _ _ _)
        fun _ => mem_waiting_cancel⟩
  | @run _ agenda first rest early line live due ih =>
      have ranked := early.ranked idle
      have turn : agenda.Turn _ _ := .runs line live due
      rcases List.mem_append.mp ran with before | now
      · obtain ⟨punctual, past⟩ := ih before
        exact ⟨punctual, past.of_subset (Nat.le_refl _) (turn.nextId _) turn.waiting_subset⟩
      · obtain ⟨rfl, rfl⟩ := Deed.ran.inj (List.mem_singleton.mp now)
        refine ⟨?_, ranked.past_of_run line due⟩
        exact Nat.le_antisymm (ranked.line posting (by simp [line])) due
  | @pass _ agenda after early turn ih =>
      obtain ⟨punctual, past⟩ := ih ran
      exact ⟨punctual, past.of_subset (Nat.le_of_eq turn.now.symm) (turn.nextId _)
        turn.waiting_subset⟩
  | @clock _ agenda early line time nobody ih =>
      obtain ⟨punctual, past⟩ := ih ran
      refine ⟨punctual, past.of_subset (Nat.le_max_left _ _) rfl ?_⟩
      rw [waiting_moveTo]
      exact fun _ => id

/-- On each queue the tasks run in the order of their due times and posts. -/
theorem ordered (chronicle : Chronicle start deeds agenda) (idle : start.Idle)
    : (Deed.runs deeds).Pairwise fun run later =>
        run.2.queue = later.2.queue → run.2.Precedes later.2 := by
  induction chronicle with
  | start => exact .nil
  | post early there delay task ih => simpa using ih
  | cancel early queue ih => simpa using ih
  | @run deeds agenda first rest early line live due ih =>
      rw [Deed.runs_ran]
      refine List.pairwise_append.mpr ⟨ih, List.pairwise_singleton _ _, ?_⟩
      intro run member later new same
      rw [List.mem_singleton.mp new] at same ⊢
      obtain ⟨-, past⟩ := early.past idle (Deed.mem_runs_iff.mp member)
      exact past.first first (List.mem_append_left _ (by simp [line])) same.symm
  | pass early turn ih => exact ih
  | clock early line time nobody ih => exact ih

/-- The tasks of a queue are numbered as they are posted. -/
theorem numbered (chronicle : Chronicle start deeds agenda) (new : ∀ queue, start.nextId queue = 0)
    (queue : Nat)
    : ((Deed.postings deeds).filter (·.queue = queue)).map (·.id)
      = List.range (agenda.nextId queue) := by
  induction chronicle with
  | start => simp [new, Deed.postings]
  | @post deeds agenda own q early there delay task ih =>
      rw [Deed.postings_posted, nextId_post there, List.filter_append, List.map_append, ih]
      by_cases same : queue = own
      · subst same
        simp [newPosting, List.range_succ, nextId, there]
      · simp [newPosting, same, Ne.symm same]
  | cancel early own ih => simpa [nextId_cancel] using ih
  | run early line live due ih =>
      rw [(Turn.runs line live due).nextId]
      simpa using ih
  | pass early turn ih => rw [turn.nextId, ih]
  | clock early line time nobody ih => exact ih

/-- Nobody waits who was not posted. -/
theorem posted_of_waiting (chronicle : Chronicle start deeds agenda) (idle : start.Idle)
    {posting : Posting τ} (waits : posting ∈ agenda.waiting)
    : posting ∈ Deed.postings deeds := by
  induction chronicle with
  | start => simp [idle.waiting] at waits
  | @post deeds agenda own q early there delay task ih =>
      rw [Deed.postings_posted]
      rcases (mem_waiting_post_iff there).mp waits with rfl | old
      · exact List.mem_append_right _ (List.mem_singleton.mpr rfl)
      · exact List.mem_append_left _ (ih old)
  | cancel early own ih => simpa using ih (mem_waiting_cancel waits)
  | run early line live due ih =>
      simpa using ih ((Turn.runs line live due).waiting_subset _ waits)
  | pass early turn ih => exact ih (turn.waiting_subset _ waits)
  | clock early line time nobody ih => exact ih (by rwa [waiting_moveTo] at waits)

theorem posted_of_ran (chronicle : Chronicle start deeds agenda) (idle : start.Idle) {time : Nat}
    {posting : Posting τ} (ran : .ran time posting ∈ deeds)
    : posting ∈ Deed.postings deeds := by
  induction chronicle with
  | start => simp at ran
  | post early there delay task ih =>
      rw [Deed.postings_posted]
      exact List.mem_append_left _ (ih (by simpa using ran))
  | cancel early own ih => simpa using ih (by simpa using ran)
  | @run _ agenda first rest early line live due ih =>
      rcases List.mem_append.mp ran with before | now
      · simpa using ih before
      · obtain ⟨rfl, rfl⟩ := Deed.ran.inj (List.mem_singleton.mp now)
        have head : posting ∈ agenda.waiting := List.mem_append_left _ (by simp [line])
        simpa using early.posted_of_waiting idle head
  | pass early turn ih => exact ih ran
  | clock early line time nobody ih => exact ih ran

/-- A history goes on from each of its posts. -/
theorem split_post (chronicle : Chronicle start deeds agenda) {before later : List (Deed τ)}
    {time delay : Nat} {posting : Posting τ}
    (split : deeds = before ++ .posted time delay posting :: later)
    : ∃ middle queue q task,
        Chronicle start before middle
        ∧ middle.queues[queue]? = some q
        ∧ time = middle.now
        ∧ posting = middle.newPosting queue q delay task
        ∧ Chronicle (middle.post queue delay task) later agenda := by
  induction chronicle generalizing later with
  | start => simp at split
  | @post deeds agenda queue q early there delay task ih =>
      rcases split_concat split with ⟨rfl, same, rfl⟩ | ⟨rest, rfl, shorter⟩
      · obtain ⟨rfl, rfl, rfl⟩ := Deed.posted.inj same
        exact ⟨agenda, queue, q, task, early, there, rfl, rfl, .start⟩
      · obtain ⟨middle, queue, q, _, first, there', now, posted, second⟩ := ih shorter
        exact ⟨middle, queue, q, _, first, there', now, posted, second.post there delay task⟩
  | cancel early queue ih =>
      rcases split_concat split with ⟨-, same, -⟩ | ⟨rest, rfl, shorter⟩
      · cases same
      · obtain ⟨middle, own, q, task, first, there, now, posted, second⟩ := ih shorter
        exact ⟨middle, own, q, task, first, there, now, posted, second.cancel queue⟩
  | run early line live due ih =>
      rcases split_concat split with ⟨-, same, -⟩ | ⟨rest, rfl, shorter⟩
      · cases same
      · obtain ⟨middle, own, q, task, first, there, now, posted, second⟩ := ih shorter
        exact ⟨middle, own, q, task, first, there, now, posted, second.run line live due⟩
  | pass early turn ih =>
      obtain ⟨middle, own, q, task, first, there, now, posted, second⟩ := ih split
      exact ⟨middle, own, q, task, first, there, now, posted, second.pass turn⟩
  | clock early line time nobody ih =>
      obtain ⟨middle, own, q, task, first, there, now, posted, second⟩ := ih split
      exact ⟨middle, own, q, task, first, there, now, posted, second.clock line time nobody⟩

end Chronicle

-----------------------------------------------------------------------------------------
-- The fate of a task
-----------------------------------------------------------------------------------------

/-- The queue of a task was cancelled after the task was posted. -/
def Overtaken (agenda : Agenda τ) (posting : Posting τ) : Prop :=
  ∃ queue, agenda.queues[posting.queue]? = some queue ∧ posting.generation < queue.generation

theorem Overtaken.dead {posting : Posting τ} (overtaken : agenda.Overtaken posting)
    : agenda.isLive posting = false := by
  obtain ⟨queue, there, older⟩ := overtaken
  simp [isLive, there, Nat.ne_of_gt older]

theorem Overtaken.of_grown {posting : Posting τ} (overtaken : agenda.Overtaken posting)
    (grown
      : ∀ (number : Nat) (queue : Queue),
          agenda.queues[number]? = some queue
          → ∃ later : Queue,
              after.queues[number]? = some later ∧ queue.generation ≤ later.generation)
    : after.Overtaken posting := by
  obtain ⟨queue, there, older⟩ := overtaken
  obtain ⟨later, still, more⟩ := grown _ _ there
  exact ⟨later, still, Nat.lt_of_lt_of_le older more⟩

/-- What has become of a task since it was posted: it waits, it has run, or it was silenced. -/
inductive Fate (agenda : Agenda τ) (posting : Posting τ) (since : List (Deed τ)) : Prop
  | waits (place : posting ∈ agenda.waiting) (live : agenda.isLive posting = true)
    (unrun : ∀ time, .ran time posting ∉ since) (spared : ¬ Deed.Silences since posting)
  | runs (time : Nat) (ran : .ran time posting ∈ since)
    (spared : ¬ Deed.Silences since posting)
  | silenced (overtaken : agenda.Overtaken posting) (unrun : ∀ time, .ran time posting ∉ since)
    (silenced : Deed.Silences since posting)

theorem Turn.grown {task : Option τ} (turn : agenda.Turn task after) (number : Nat)
    (queue : Queue) (there : agenda.queues[number]? = some queue)
    : ∃ later : Queue,
        after.queues[number]? = some later ∧ queue.generation ≤ later.generation := by
  cases turn with
  | silenced => exact ⟨queue, there, Nat.le_refl _⟩
  | runs =>
      refine grown_modify ?_ number queue there
      exact fun queue => Nat.le_refl queue.generation
  | sleeps => exact ⟨queue, there, Nat.le_refl _⟩

/-- A turn takes a live task away only by running it. -/
theorem Turn.waits {task : Option τ} (turn : agenda.Turn task after) {posting : Posting τ}
    (place : posting ∈ agenda.waiting) (live : agenda.isLive posting = true)
    : posting ∈ after.waiting ∨ (∃ rest, agenda.ready = posting :: rest) ∧ task.isSome := by
  cases turn with
  | @silenced first rest line dead =>
      rw [waiting, line] at place
      rcases List.mem_cons.mp place with rfl | other
      · simp [live] at dead
      · exact .inl other
  | @runs first rest line =>
      rw [waiting, line] at place
      rcases List.mem_cons.mp place with rfl | other
      · exact .inr ⟨⟨rest, line⟩, rfl⟩
      · exact .inl other
  | @sleeps first rest line =>
      left
      rw [waiting, line] at place
      rcases List.mem_append.mp place with ready | asleep
      · rcases List.mem_cons.mp ready with rfl | behind
        · exact List.mem_append_right _ (mem_insertByDue_iff.mpr (.inl rfl))
        · exact List.mem_append_left _ behind
      · exact List.mem_append_right _ (mem_insertByDue_iff.mpr (.inr asleep))

theorem grown_post {queue : Nat} {q : Queue} (there : agenda.queues[queue]? = some q)
    (delay : Nat) (task : τ) (number : Nat) (own : Queue)
    (found : agenda.queues[number]? = some own)
    : ∃ later : Queue,
        (agenda.post queue delay task).queues[number]? = some later
        ∧ own.generation ≤ later.generation := by
  obtain ⟨inside, -⟩ := List.getElem?_eq_some_iff.mp there
  simp only [post, there]
  by_cases same : queue = number
  · subst same
    obtain rfl := Option.some.inj (there.symm.trans found)
    exact ⟨_, List.getElem?_set_self inside, Nat.le_refl _⟩
  · exact ⟨own, by rw [List.getElem?_set_ne same, found], Nat.le_refl _⟩

namespace Fate

variable {posting : Posting τ}

theorem post (fate : agenda.Fate posting deeds) {queue : Nat} {q : Queue}
    (there : agenda.queues[queue]? = some q) (delay : Nat) (task : τ) (time : Nat)
    (new : Posting τ)
    : (agenda.post queue delay task).Fate posting (deeds ++ [.posted time delay new]) := by
  cases fate with
  | waits place live unrun spared =>
      refine .waits ?_ ?_ (by simpa using unrun) (by simpa [Deed.silences_concat_iff])
      · exact (mem_waiting_post_iff there).mpr (.inr place)
      · rwa [isLive_post]
  | runs time ran spared =>
      exact .runs time (List.mem_append_left _ ran) (by simpa [Deed.silences_concat_iff])
  | silenced overtaken unrun silenced =>
      exact .silenced (overtaken.of_grown (grown_post there delay task)) (by simpa using unrun)
        (Deed.silences_concat_iff.mpr (.inl silenced))

/-- Cancelling silences whoever waits on the queue, and comes too late for whoever has run. -/
theorem cancel (fate : agenda.Fate posting deeds) (queue : Nat)
    : (agenda.cancel queue).Fate posting (deeds ++ [.cancelled queue]) := by
  cases fate with
  | waits place live unrun spared =>
      obtain ⟨q, there, same⟩
          : ∃ q, agenda.queues[posting.queue]? = some q ∧ q.generation = posting.generation := by
        simpa [isLive, Option.any_eq_true] using live
      by_cases own : queue = posting.queue
      · subst own
        refine .silenced ⟨{ q with generation := q.generation + 1, pending := [] }, ?_, ?_⟩
          (by simpa using unrun) (Deed.silences_concat_iff.mpr (.inr ⟨rfl, unrun⟩))
        · simp [Agenda.cancel, there]
        · simp [same]
      · refine .waits ?_ ?_ (by simpa using unrun) ?_
        · rcases List.mem_append.mp place with ready | asleep
          · exact List.mem_append_left _ ready
          · refine List.mem_append_right _ (List.mem_filter.mpr ⟨asleep, ?_⟩)
            simpa using Ne.symm own
        · rwa [isLive_cancel_of_ne _ own]
        · simpa [Deed.silences_concat_iff, own] using spared
  | runs time ran spared =>
      refine .runs time (List.mem_append_left _ ran) ?_
      intro silenced
      rcases Deed.silences_concat_iff.mp silenced with before | ⟨-, unrun⟩
      · exact spared before
      · exact unrun time ran
  | silenced overtaken unrun silenced =>
      exact .silenced (overtaken.of_grown (grown_modify fun _ => Nat.le_succ _))
        (by simpa using unrun) (Deed.silences_concat_iff.mpr (.inl silenced))

/-- A task that runs was live, so it was not silenced. -/
theorem run (fate : agenda.Fate posting deeds) {first : Posting τ} {rest : List (Posting τ)}
    (line : agenda.ready = first :: rest) (live : agenda.isLive first = true)
    (due : first.due ≤ agenda.now)
    : ({ agenda with ready := rest }.strike first).Fate posting
        (deeds ++ [Deed.ran agenda.now first]) := by
  have turn : agenda.Turn _ _ := .runs line live due
  cases fate with
  | waits place alive unrun spared =>
      have stillSpared : ¬ Deed.Silences (deeds ++ [Deed.ran agenda.now first]) posting := by
        simpa [Deed.silences_concat_iff] using spared
      by_cases own : posting = first
      · subst own
        exact .runs agenda.now (by simp) stillSpared
      · refine .waits ?_ ?_ ?_ stillSpared
        · rcases turn.waits place alive with still | ⟨⟨others, head⟩, -⟩
          · exact still
          · exact absurd (List.cons.inj (head.symm.trans line)).1 own
        · rwa [turn.isLive]
        · intro time member
          rcases List.mem_append.mp member with before | now
          · exact unrun time before
          · exact own (Deed.ran.inj (List.mem_singleton.mp now)).2
  | runs time ran spared =>
      exact .runs time (List.mem_append_left _ ran) (by simpa [Deed.silences_concat_iff])
  | silenced overtaken unrun silenced =>
      refine .silenced (overtaken.of_grown turn.grown) ?_
        (Deed.silences_concat_iff.mpr (.inl silenced))
      intro time member
      rcases List.mem_append.mp member with before | now
      · exact unrun time before
      · obtain ⟨-, rfl⟩ := Deed.ran.inj (List.mem_singleton.mp now)
        simp [overtaken.dead] at live

theorem pass (fate : agenda.Fate posting deeds) (turn : agenda.Turn none after)
    : after.Fate posting deeds := by
  cases fate with
  | waits place live unrun spared =>
      refine .waits ?_ ?_ unrun spared
      · rcases turn.waits place live with still | ⟨-, runs⟩
        · exact still
        · simp at runs
      · rwa [turn.isLive]
  | runs time ran spared => exact .runs time ran spared
  | silenced overtaken unrun silenced =>
      exact .silenced (overtaken.of_grown turn.grown) unrun silenced

theorem clock (fate : agenda.Fate posting deeds) (time : Nat)
    : (agenda.moveTo time).Fate posting deeds := by
  cases fate with
  | waits place live unrun spared =>
      refine .waits ?_ live unrun spared
      rwa [waiting_moveTo]
  | runs time ran spared => exact .runs time ran spared
  | silenced overtaken unrun silenced => exact .silenced overtaken unrun silenced

end Fate

/-- The fate of a task that waits at the start, by induction on the history. -/
theorem Chronicle.fate (chronicle : Chronicle start deeds agenda) {posting : Posting τ}
    (place : posting ∈ start.waiting) (live : start.isLive posting = true)
    : agenda.Fate posting deeds := by
  induction chronicle with
  | start =>
      refine .waits place live (by simp) ?_
      rintro ⟨early, late, split, -⟩
      simp at split
  | post early there delay task ih => exact ih.post there delay task _ _
  | cancel early queue ih => exact ih.cancel queue
  | run early line live due ih => exact ih.run line live due
  | pass early turn ih => exact ih.pass turn
  | clock early line time nobody ih => exact ih.clock time

-----------------------------------------------------------------------------------------
-- The law of histories
-----------------------------------------------------------------------------------------

/-- What holds of every history that starts with nothing to do. -/
structure Lawful (deeds : List (Deed τ)) (agenda : Agenda τ) : Prop where
  /-- Whoever runs was posted, and runs at its due time. -/
  punctual
    : ∀ time posting,
        .ran time posting ∈ deeds → time = posting.due ∧ posting ∈ Deed.postings deeds
  /-- No task runs twice, and on each queue they run by due time and then posting order. -/
  ordered
    : (Deed.runs deeds).Pairwise fun run later =>
        run.2 ≠ later.2 ∧ (run.2.queue = later.2.queue → run.2.Precedes later.2)
  /-- The tasks of a queue are numbered as they are posted. -/
  numbered
    : ∀ queue,
        ((Deed.postings deeds).filter (·.queue = queue)).map (·.id)
        = List.range (agenda.nextId queue)
  /-- Nobody is overdue. -/
  line : ∀ posting ∈ agenda.ready, agenda.now ≤ posting.due
  /-- A task is due after its delay. It has not run before it was posted. It has run since exactly
  if its due time has come and it has had its turn, and its queue was not cancelled before it ran.
  -/
  posts
    : ∀ before time delay posting later,
        deeds = before ++ .posted time delay posting :: later
        → posting.due = time + min delay longestSleep
          ∧ (∀ earlier, .ran earlier posting ∉ before)
          ∧ ((∃ later', .ran later' posting ∈ later)
            ↔ posting.due ≤ agenda.now
              ∧ posting ∉ agenda.ready
              ∧ ¬ Deed.Silences later posting)

/-- A history that starts with nothing to do keeps the law. -/
theorem Chronicle.lawful (chronicle : Chronicle start deeds agenda) (idle : start.Idle)
    (new : ∀ queue, start.nextId queue = 0)
    : Lawful deeds agenda where
  punctual time posting ran :=
    ⟨(chronicle.past idle ran).1, chronicle.posted_of_ran idle ran⟩
  ordered := by
    refine (chronicle.ordered idle).imp ?_
    intro run later precedes
    refine ⟨?_, precedes⟩
    intro same
    exact (precedes (by rw [same])).ne same
  numbered queue := chronicle.numbered new queue
  line := (chronicle.ranked idle).line
  posts before time delay posting later split := by
    obtain ⟨middle, queue, q, task, first, there, rfl, rfl, second⟩ := chronicle.split_post split
    have place := (waiting_post there delay task).mem_iff.mpr List.mem_cons_self
    have live : (middle.post queue delay task).isLive (middle.newPosting queue q delay task)
        = true := by
      rw [isLive_post]
      simp [isLive, newPosting, there]
    refine ⟨rfl, ?_, ?_⟩
    -- its number is new, and all that ran before has an older one
    · intro earlier ran
      obtain ⟨-, past⟩ := first.past idle ran
      have numbered := past.numbered
      simp [nextId, newPosting, there] at numbered
    · have ranked := chronicle.ranked idle
      have fate := second.fate place live
      constructor
      · rintro ⟨time, ran⟩
        obtain ⟨-, past⟩ := chronicle.past idle (by
          rw [split]
          exact List.mem_append_right _ (List.mem_cons_of_mem _ ran))
        refine ⟨past.due, ?_, ?_⟩
        · intro member
          exact (past.first _ (List.mem_append_left _ member) rfl).ne rfl
        · cases fate with
          | waits _ _ unrun _ => exact absurd ran (unrun time)
          | runs _ _ spared => exact spared
          | silenced _ unrun _ => exact absurd ran (unrun time)
      · rintro ⟨due, turned, spared⟩
        cases fate with
        | waits place _ _ _ =>
            rcases List.mem_append.mp place with ready | asleep
            · exact absurd ready turned
            · exact absurd (ranked.asleep _ asleep) (Nat.not_lt.mpr due)
        | runs time ran _ => exact ⟨time, ran⟩
        | silenced _ _ silenced => exact absurd silenced spared

end Agenda

end UpdaterLaunch
