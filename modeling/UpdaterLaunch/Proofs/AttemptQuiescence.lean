import UpdaterLaunch.Proofs.AttemptTracking

/-! An attempt comes to rest on every scheduler after the same cycles. An inline scheduler runs them
all in the call, a manual one runs one more each time it is fired, and a timed one runs one more
each time the delay is over.
-/

namespace UpdaterLaunch

namespace Attempt

variable (attempt : Attempt)

/-- The milliseconds from one cycle to the next on a timed scheduler. -/
def wait : Nat := min attempt.delay.ticks Agenda.longestSleep

/-- When the retry is due that is asleep after the first cycle and some more, if there is one. -/
def dues (count : Nat) : List Nat :=
  if count < attempt.last then [attempt.start + (count + 1) * attempt.wait] else []

/-- The retry that is in hand after the first cycle and some more, if there is one. -/
def hand (count : Nat) : List (Span × Nat) :=
  if count < attempt.last then [(attempt.delay, attempt.number)] else []

/-- How many retries have been made on a scheduler of some kind, when it was fired some times and
some milliseconds have passed.
-/
def made (fired elapsed : Nat) : Scheduler → Nat
  | .inline => attempt.last
  | .manual _ => min attempt.last fired
  | .timed => if attempt.wait = 0 then attempt.last else min attempt.last (elapsed / attempt.wait)

end Attempt

namespace World

variable {attempt : Attempt} {kind : Scheduler} {asleep : List (Posting Task)} {world after : World}
  {cycles count scheduler : Nat}

-----------------------------------------------------------------------------------------
-- While nothing of the attempt is on the agenda
-----------------------------------------------------------------------------------------

namespace Stands

theorem runBefore (stands : Stands attempt kind [] cycles world) (time : Nat)
    : Stands attempt kind [] cycles (world.runBefore time) := by
  refine exhaust_keeps (P := Stands attempt kind [] cycles) ?_ stands
  intro earlier later woken stands
  rcases stands.wake woken with still | ⟨posting, rest, taken, some, -⟩
  · exact still
  · exact absurd some.length_eq (by simp)

theorem advance (stands : Stands attempt kind [] cycles world) (ms : Nat)
    : Stands attempt kind [] cycles (world.advance ms) := by
  unfold World.advance
  split
  · exact stands
  · have ran := stands.runBefore (world.agenda.now + ms)
    obtain ⟨line, early, -⟩ := ran.later
    exact ran.moveTo line early

-----------------------------------------------------------------------------------------
-- Firing schedulers
-----------------------------------------------------------------------------------------

/-- To fire another scheduler tries none of the attempt's retries. -/
theorem fire_other (stands : Stands attempt kind asleep cycles world)
    (ne : scheduler ≠ attempt.scheduler)
    : Stands attempt kind asleep cycles (world.handle (.fire scheduler)).2 := by
  simp only [World.handle]
  split
  · rename_i queue there
    have foreign := stands.others scheduler queue there ne
    exact (stands.requeue_other ne (by simp)).attempts_other queue foreign
  · exact stands

theorem fire_timed (stands : Stands attempt .timed asleep cycles world) (scheduler : Nat)
    : Stands attempt .timed asleep cycles (world.handle (.fire scheduler)).2 := by
  by_cases own : scheduler = attempt.scheduler
  · subst own
    simpa only [World.handle, stands.timed] using stands
  · exact stands.fire_other own

theorem fire_inline (stands : Stands attempt .inline asleep cycles world) (scheduler : Nat)
    : Stands attempt .inline asleep cycles (world.handle (.fire scheduler)).2 := by
  by_cases own : scheduler = attempt.scheduler
  · subst own
    simpa only [World.handle, stands.inline] using stands
  · exact stands.fire_other own

/-- To fire the attempt's own scheduler tries what is in hand of it, once, in the midst of what
others have there.
-/
theorem fire_manual
    (stands : Stands attempt (.manual (attempt.hand count)) asleep (count + 1) world)
    (alive : attempt.first.alive = true) (within : count ≤ attempt.last)
    : let next := min attempt.last (count + 1)
      Stands attempt (.manual (attempt.hand next)) asleep (next + 1)
        (world.handle (.fire attempt.scheduler)).2 := by
  intro next
  obtain ⟨queue, there, own⟩ := stands.manual
  have emptied := stands.requeue there []
  simp only [World.handle, there]
  unfold World.fire
  by_cases early : count < attempt.last
  · have step : next = count + 1 := Nat.min_eq_right early
    rw [Attempt.hand, if_pos early] at own
    obtain ⟨front, back, rfl, before, -, behind⟩ := List.filter_eq_cons_iff.mp own
    rw [List.foldl_append, List.foldl_cons]
    have begun := emptied.attempts_other front (by simpa using before)
    have tried := begun.next_manual alive early
    rw [List.filter_nil, List.nil_append, ← step] at tried
    refine tried.attempts_other back ?_
    simpa using behind
  · obtain rfl : count = attempt.last := Nat.le_antisymm within (Nat.le_of_not_lt early)
    have step : next = attempt.last := Nat.min_eq_left (Nat.le_succ _)
    rw [step]
    rw [Attempt.hand, if_neg (Nat.lt_irrefl _)] at own ⊢
    refine emptied.attempts_other queue ?_
    simpa using own

end Stands

-----------------------------------------------------------------------------------------
-- On a timed scheduler
-----------------------------------------------------------------------------------------

/-- On a timed scheduler, after the first cycle and some more, the clock has come to the time of the
last of them, and the next is asleep until its time, if there is one.
-/
structure Sleeps (attempt : Attempt) (count : Nat) (world : World) : Prop where
  within : count ≤ attempt.last
  begun : attempt.start + count * attempt.wait ≤ world.agenda.now
  stands
    : ∃ asleep : List (Posting Task),
        asleep.map (·.due) = attempt.dues count
        ∧ Stands attempt .timed asleep (count + 1) world

/-- A cycle that is run at its time leaves the next one asleep, one delay later. -/
theorem Stands.sleeps (stands : Stands attempt .timed [] count world)
    (alive : attempt.first.alive = true) (within : count ≤ attempt.last)
    (now : world.agenda.now = attempt.start + count * attempt.wait)
    : Sleeps attempt count (world.attempt attempt.number) where
  within := within
  begun := Nat.le_of_eq (by rw [now_attempt, now])
  stands := by
    obtain ⟨asleep, dues, next⟩ := stands.next_timed alive within
    refine ⟨asleep, ?_, next⟩
    have due : attempt.start + (count + 1) * attempt.wait
        = world.agenda.dueAfter attempt.delay.ticks := by
      rw [Agenda.dueAfter, now, Nat.succ_mul, Nat.add_assoc, Attempt.wait]
    rw [dues, Attempt.dues, due]

namespace Sleeps

/-- Whatever wakes is something of others, or the next cycle at its time. -/
theorem wake (sleeps : Sleeps attempt count world) (alive : attempt.first.alive = true)
    {before : Nat} (early : world.agenda.now < before) (woken : world.wake? before = some after)
    : ∃ more, Sleeps attempt more after := by
  obtain ⟨asleep, dues, stands⟩ := sleeps.stands
  rcases stands.wake woken with still | ⟨posting, rest, taken, perm, next, -, now, rfl⟩
  · have later := (now_wake early woken).1
    exact ⟨count, sleeps.within, Nat.le_trans sleeps.begun later, asleep, dues, still⟩
  · have own := (perm.map (·.due)).symm
    rw [dues, Attempt.dues] at own
    split at own
    · rename_i notLast
      obtain ⟨due, nothing⟩ := List.cons.inj (List.perm_singleton.mp own)
      obtain rfl := List.map_eq_nil_iff.mp nothing
      exact ⟨count + 1, next.sleeps alive notLast (now.trans due)⟩
    · exact absurd own.length_eq (by simp)

/-- When all that is due before a time has run, the next cycle is not due before it. -/
theorem runBefore (sleeps : Sleeps attempt count world) (alive : attempt.first.alive = true)
    {before : Nat} (early : world.agenda.now < before)
    : ∃ more,
        Sleeps attempt more (world.runBefore before)
        ∧ ∀ due ∈ attempt.dues more, before ≤ due := by
  obtain ⟨⟨more, later⟩, -⟩
      : (∃ more, Sleeps attempt more (world.runBefore before))
        ∧ (world.runBefore before).agenda.now < before := by
    refine exhaust_keeps
      (P := fun later => (∃ more, Sleeps attempt more later) ∧ later.agenda.now < before)
      ?_ ⟨⟨count, sleeps⟩, early⟩
    rintro earlier later woken ⟨⟨more, sleeps⟩, early⟩
    exact ⟨sleeps.wake alive early woken, (now_wake early woken).2⟩
  obtain ⟨asleep, dues, stands⟩ := later.stands
  refine ⟨more, later, ?_⟩
  rw [← dues]
  intro due member
  obtain ⟨posting, waits, rfl⟩ := List.mem_map.mp member
  exact stands.later.2.2 posting waits

theorem settle (sleeps : Sleeps attempt count world) (alive : attempt.first.alive = true)
    : ∃ more,
        Sleeps attempt more world.settle
        ∧ ∀ due ∈ attempt.dues more, world.settle.agenda.now < due := by
  rw [now_settle]
  exact sleeps.runBefore alive (Nat.lt_succ_self _)

theorem advance (sleeps : Sleeps attempt count world) (alive : attempt.first.alive = true)
    (ms : Nat)
    : ∃ more, Sleeps attempt more (world.advance ms) := by
  unfold World.advance
  split
  · exact ⟨count, sleeps⟩
  · rename_i some
    have ahead : world.agenda.now < world.agenda.now + ms :=
      Nat.lt_add_of_pos_right (Nat.pos_of_ne_zero some)
    obtain ⟨more, later, -⟩ := sleeps.runBefore alive ahead
    obtain ⟨asleep, dues, stands⟩ := later.stands
    obtain ⟨line, early, -⟩ := stands.later
    refine ⟨more, later.within, ?_, asleep, dues, stands.moveTo line early⟩
    exact Nat.le_trans later.begun (Nat.le_max_left _ _)

/-- At rest, the time tells how many retries have been made. -/
theorem made (sleeps : Sleeps attempt count world)
    (rests : ∀ due ∈ attempt.dues count, world.agenda.now < due) (fired : Nat)
    : count = attempt.made fired (world.agenda.now - attempt.start) .timed := by
  have begun := sleeps.begun
  have ahead : count < attempt.last
      → world.agenda.now - attempt.start < (count + 1) * attempt.wait := by
    intro early
    have rests := rests (attempt.start + (count + 1) * attempt.wait) (by simp [Attempt.dues, early])
    omega
  simp only [Attempt.made]
  rcases Nat.lt_or_eq_of_le sleeps.within with early | last
  · have ahead := ahead early
    have some : attempt.wait ≠ 0 := by
      intro zero
      simp [zero] at ahead
    have reached : (world.agenda.now - attempt.start) / attempt.wait = count :=
      Nat.div_eq_of_lt_le (by omega) (by omega)
    simp only [some, ↓reduceIte, reached]
    omega
  · split
    · exact last
    · rename_i some
      have reached : count ≤ (world.agenda.now - attempt.start) / attempt.wait := by
        rw [Nat.le_div_iff_mul_le (Nat.pos_of_ne_zero some)]
        omega
      omega

end Sleeps

/-- Between two calls nothing of the attempt is due. -/
structure Paused (attempt : Attempt) (count : Nat) (world : World) : Prop
    extends Sleeps attempt count world where
  early : ∀ due ∈ attempt.dues count, world.agenda.now < due

theorem Sleeps.paused (sleeps : Sleeps attempt count world) (alive : attempt.first.alive = true)
    : ∃ more, Paused attempt more world.settle := by
  obtain ⟨more, later, early⟩ := sleeps.settle alive
  exact ⟨more, later, early⟩

theorem now_fire (world : World) (scheduler : Nat)
    : (world.handle (.fire scheduler)).2.agenda.now = world.agenda.now := by
  have attempts (queue : List (Span × Nat)) (world : World)
      : (queue.foldl (fun world retry => world.attempt retry.2) world).agenda.now
        = world.agenda.now := by
    induction queue generalizing world with
    | nil => rfl
    | cons retry rest ih => exact (ih _).trans (now_attempt world retry.2)
  simp only [World.handle]
  split
  · exact attempts _ _
  · rfl

-----------------------------------------------------------------------------------------
-- Waiting
-----------------------------------------------------------------------------------------

/-- Whether a call only waits for what is pending: it fires a scheduler or lets time pass. -/
def Call.waits : Call → Bool
  | .fire _ | .advance _ => true
  | _ => false

/-- Whether a call fires a scheduler. -/
def Call.fires (scheduler : Nat) : Call → Bool
  | .fire other => other = scheduler
  | _ => false

theorem Call.of_waits {call : Call} (waits : call.waits = true)
    : (∃ scheduler, call = .fire scheduler) ∨ ∃ ms, call = .advance ms := by
  cases call with
  | fire scheduler => exact .inl ⟨scheduler, rfl⟩
  | advance ms => exact .inr ⟨ms, rfl⟩
  | _ => simp [Call.waits] at waits

/-- What any call that waits does to all that stands, it does to a whole row of them, by induction.
-/
theorem takes_waiting (scheduler : Nat) {P : Nat → World → Prop}
    (step
      : ∀ fired world call,
          Call.waits call = true
          → P fired world
          → P (fired + if call.fires scheduler then 1 else 0) (world.take call).2)
    (fired : Nat) (begun : P fired world) {calls : List Call}
    (waits : ∀ call ∈ calls, call.waits = true)
    : P (fired + calls.countP (·.fires scheduler)) (world.takes calls) := by
  induction calls generalizing fired world with
  | nil => exact begun
  | cons call rest ih =>
      have first := step fired world call (waits call List.mem_cons_self) begun
      have later := ih _ first fun other member => waits other (List.mem_cons_of_mem _ member)
      rwa [Nat.add_assoc, Nat.add_comm (ite _ _ _), ← List.countP_cons] at later

theorem Stands.takes_inline (stands : Stands attempt .inline [] cycles world) {calls : List Call}
    (waits : ∀ call ∈ calls, call.waits = true)
    : Stands attempt .inline [] cycles (world.takes calls) := by
  refine takes_waiting 0 (P := fun _ later => Stands attempt .inline [] cycles later) ?_ 0 stands
    waits
  intro fired world call waits stands
  rcases Call.of_waits waits with ⟨scheduler, rfl⟩ | ⟨ms, rfl⟩
  · exact (stands.fire_inline scheduler).runBefore _
  · exact (stands.advance ms).runBefore _

theorem Stands.takes_manual
    (stands : Stands attempt (.manual (attempt.hand 0)) [] 1 world)
    (alive : attempt.first.alive = true) {calls : List Call}
    (waits : ∀ call ∈ calls, call.waits = true)
    : let count := min attempt.last (calls.countP (·.fires attempt.scheduler))
      Stands attempt (.manual (attempt.hand count)) [] (count + 1) (world.takes calls) := by
  rw [← Nat.zero_add (calls.countP _)]
  refine takes_waiting attempt.scheduler
    (P := fun fired later =>
      Stands attempt (.manual (attempt.hand (min attempt.last fired))) []
        (min attempt.last fired + 1) later)
    ?_ 0 (by simpa using stands) waits
  intro fired world call waits stands
  rcases Call.of_waits waits with ⟨scheduler, rfl⟩ | ⟨ms, rfl⟩
  · by_cases own : scheduler = attempt.scheduler
    · subst own
      have step : min attempt.last (min attempt.last fired + 1)
          = min attempt.last (fired + if (Call.fire attempt.scheduler).fires attempt.scheduler
            then 1 else 0) := by
        simp only [Call.fires, decide_true, ↓reduceIte]
        omega
      rw [← step]
      exact (stands.fire_manual alive (Nat.min_le_left _ _)).runBefore _
    · simp only [Call.fires, own, decide_false, Bool.false_eq_true, ↓reduceIte, Nat.add_zero]
      exact (stands.fire_other own).runBefore _
  · exact (stands.advance ms).runBefore _

theorem Paused.takes (paused : Paused attempt count world) (alive : attempt.first.alive = true)
    {calls : List Call} (waits : ∀ call ∈ calls, call.waits = true)
    : ∃ more, Paused attempt more (world.takes calls) := by
  refine takes_waiting 0 (P := fun _ later => ∃ more, Paused attempt more later) ?_ 0
    ⟨count, paused⟩ waits
  rintro fired world call waits ⟨count, paused⟩
  rcases Call.of_waits waits with ⟨scheduler, rfl⟩ | ⟨ms, rfl⟩
  · obtain ⟨asleep, dues, stands⟩ := paused.stands
    have fired : Sleeps attempt count (world.handle (.fire scheduler)).2 := by
      refine ⟨paused.within, ?_, asleep, dues, stands.fire_timed scheduler⟩
      rw [now_fire]
      exact paused.begun
    exact fired.paused alive
  · obtain ⟨more, later⟩ := paused.toSleeps.advance alive ms
    exact later.paused alive

-----------------------------------------------------------------------------------------
-- Coming to rest
-----------------------------------------------------------------------------------------

/-- A coordinator with nothing pending stands before the first cycle of its attempt. -/
theorem stands_of_clear {origin : World} (quiet : origin.Quiet) (calls : List Call)
    (served : (origin.takes calls).Served attempt.number)
    (registry : (origin.takes calls).registry = attempt.registry)
    (there : (origin.takes calls).coordinator? attempt.number = some attempt.first)
    (clear : (origin.takes calls).kept attempt.number = 0)
    (found : (origin.takes calls).schedulers[attempt.scheduler]? = some kind)
    : Stands attempt (kind.ofOne attempt.number) [] 0 (origin.takes calls) := by
  obtain ⟨-, handled⟩ := (quiet.handled fun _ => true).acts (stepwise calls)
  rw [← takes_eq_acts] at handled
  obtain ⟨unqueued, unposted⟩ := Nat.add_eq_zero_iff.mp clear
  refine ⟨registry, there, handled.shadows.agenda.orderly, ?_, ?_, by rw [found]; rfl, ?_, ?_⟩
  · rw [served.queues]
    exact (served.of_there there).1
  · intro posting member
    obtain ⟨other, isRetry, -⟩ := handled.apart.tasks posting member
    exact ⟨other, isRetry⟩
  · intro scheduler queue kept _ retry member
    have none := total_eq_zero_iff.mp unqueued _ (List.mem_of_getElem? kept)
    simpa using List.countP_eq_zero.mp none retry member
  · rw [List.countP_eq_length_filter] at unposted
    rw [List.length_eq_zero_iff.mp unposted]

/-- From its first cycle on, an attempt stands where its kind of scheduler has brought it. -/
theorem Stands.come (stands : Stands attempt (kind.ofOne attempt.number) [] 0 world)
    (alive : attempt.first.alive = true) (clear : kind.keeps attempt.number = 0)
    (now : world.agenda.now = attempt.start) {calls : List Call}
    (waits : ∀ call ∈ calls, call.waits = true)
    : let later := (world.attempt attempt.number).settle.takes calls
      let retries :=
        attempt.made (calls.countP (·.fires attempt.scheduler))
          (later.agenda.now - attempt.start) kind
      ∃ (rest : Scheduler) (asleep : List (Posting Task)),
        Stands attempt rest asleep (retries + 1) later
        ∧ rest.keeps attempt.number + asleep.length = if retries < attempt.last then 1 else 0 := by
  intro later retries
  cases kind with
  | inline =>
      have next :=
        (stands.next_inline alive).runBefore ((world.attempt attempt.number).agenda.now + 1)
      exact ⟨.inline, [], next.takes_inline waits, (if_neg (Nat.lt_irrefl _)).symm⟩
  | manual queue =>
      have nothing : queue.filter (·.2 = attempt.number) = [] := by
        rw [Scheduler.keeps, List.countP_eq_length_filter] at clear
        exact List.length_eq_zero_iff.mp clear
      rw [Scheduler.ofOne, nothing] at stands
      have next := (stands.next_manual alive (Nat.zero_le _)).runBefore
        ((world.attempt attempt.number).agenda.now + 1)
      refine ⟨_, [], next.takes_manual alive waits, ?_⟩
      unfold Attempt.hand
      split <;> simp_all [Scheduler.keeps, retries, Attempt.made]
  | timed =>
      have sleeps := stands.sleeps alive (Nat.zero_le _) (by simpa using now)
      obtain ⟨first, paused⟩ := sleeps.paused alive
      obtain ⟨count, paused⟩ := paused.takes alive waits
      obtain ⟨asleep, dues, last⟩ := paused.stands
      obtain rfl : count = retries := paused.made paused.early _
      refine ⟨.timed, asleep, last, ?_⟩
      rw [← List.length_map (f := (·.due)), dues, Attempt.dues]
      split <;> rfl

theorem now_advance (world : World) (ms : Nat)
    : (world.advance ms).agenda.now = world.agenda.now + ms := by
  unfold World.advance
  split
  · rename_i none
    rw [none, Nat.add_zero]
  · rename_i some
    have ahead : world.agenda.now < world.agenda.now + ms :=
      Nat.lt_add_of_pos_right (Nat.pos_of_ne_zero some)
    exact Nat.max_eq_right (Nat.le_of_lt (now_runBefore ahead).2)

/-- Enough firing, or enough time, and all retries have been made. -/
theorem exists_made (attempt : Attempt) (kind : Scheduler) (world : World)
    (later : attempt.start ≤ world.agenda.now)
    : ∃ calls : List Call,
        (∀ call ∈ calls, call.waits = true)
        ∧ attempt.made (calls.countP (·.fires attempt.scheduler))
            ((world.takes calls).agenda.now - attempt.start) kind
          = attempt.last := by
  cases kind with
  | inline => exact ⟨[], by simp, rfl⟩
  | manual queue =>
      refine ⟨List.replicate attempt.last (.fire attempt.scheduler), ?_, ?_⟩
      · intro call member
        rw [List.eq_of_mem_replicate member]
        rfl
      · simp [Attempt.made, List.countP_replicate, Call.fires]
  | timed =>
      refine ⟨[.advance (attempt.last * attempt.wait)], by simp [Call.waits], ?_⟩
      have now (ms : Nat) : (world.takes [.advance ms]).agenda.now = world.agenda.now + ms :=
        (now_settle _).trans (now_advance world ms)
      rw [now]
      simp only [Attempt.made]
      split
      · rfl
      · rename_i some
        apply Nat.min_eq_left
        rw [Nat.le_div_iff_mul_le (Nat.pos_of_ne_zero some)]
        omega

/-- An attempt comes to rest, and on every scheduler after the same cycles. In a world that had
nothing pending at first, after any calls, let a coordinator that has nothing pending be asked to
launch, and then let time pass and fire schedulers in any order. What the coordinator has become is
told by the number of retries made. All of them are made at once on an inline scheduler, one each
time it is fired on a manual one, and one each time the delay is over on a timed one; as long as
there are more to make, one is pending. They are as many as there are bad answers before the first
good one, but no more than the budget has left. Until the last cycle the coordinator has only
counted the retries; in the last one it emits one event.
-/
theorem attempt_comes_to_rest {origin : World} (quiet : origin.Quiet) (early : List Call)
    {number : Nat} (served : origin.Served number) {first : Coordinator}
    (live : (origin.takes early).live? number = some first)
    (clear : (origin.takes early).kept number = 0)
    : let world := origin.takes early
      let attempt : Attempt :=
        { number, first, registry := world.registry, start := world.agenda.now }
      let launched := (world.take (.command number .tryLaunch)).2
      (∃ kind,
        world.schedulers[first.scheduler]? = some kind
        ∧ ∀ calls : List Call,
            (∀ call ∈ calls, call.waits = true)
            → let later := launched.takes calls
              let retries :=
                attempt.made (calls.countP (·.fires first.scheduler))
                  (later.agenda.now - world.agenda.now) kind
              later.coordinator? number = some (attempt.after (retries + 1))
              ∧ later.kept number = if retries < attempt.last then 1 else 0)
      ∧ (∃ calls : List Call,
          (∀ call ∈ calls, call.waits = true) ∧ (launched.takes calls).kept number = 0)
      ∧ attempt.last ≤ first.launchesLeft
      ∧ (∀ count < attempt.last, first.answerTo world.registry count = false)
      ∧ (attempt.last < first.launchesLeft
          → first.answerTo world.registry attempt.last = true)
      ∧ (∀ count ≤ attempt.last, first.PutOff world.registry count (attempt.after count))
      ∧ first.Concluded world.registry (attempt.after (attempt.last + 1)) := by
  intro world attempt launched
  obtain ⟨there, alive⟩ := live?_eq_some_iff.mp live
  have served : world.Served number := by
    obtain ⟨called, -, lost, passage⟩ := served.acts (stepwise early)
    rw [← takes_eq_acts] at passage
    exact passage.served
  have inside := (served.of_there there).1
  obtain ⟨kind, found⟩ : ∃ kind, world.schedulers[first.scheduler]? = some kind :=
    ⟨_, List.getElem?_eq_getElem inside⟩
  have begun : Stands attempt (kind.ofOne number) [] 0 world :=
    stands_of_clear quiet early served rfl there clear found
  have launches : launched = (world.attempt number).settle := by
    simp only [launched, take, Call.request, handle, world, live]
    rfl
  have unkept : kind.keeps number = 0 :=
    total_eq_zero_iff.mp (Nat.add_eq_zero_iff.mp clear).1 _ (List.mem_of_getElem? found)
  rw [launches]
  have comes (calls : List Call) (waits : ∀ call ∈ calls, call.waits = true)
      : let later := (world.attempt number).settle.takes calls
        let retries :=
          attempt.made (calls.countP (·.fires first.scheduler))
            (later.agenda.now - world.agenda.now) kind
        later.coordinator? number = some (attempt.after (retries + 1))
        ∧ later.kept number = if retries < attempt.last then 1 else 0 := by
    obtain ⟨rest, asleep, stands, pending⟩ := begun.come alive unkept rfl waits
    exact ⟨stands.there, stands.kept.trans pending⟩
  refine ⟨⟨kind, found, comes⟩, ?_, ?_, ?_, ?_, ?_, ?_⟩
  · have later : attempt.start ≤ (world.attempt number).settle.agenda.now :=
      Nat.le_of_eq ((now_settle _).trans (now_attempt world number)).symm
    obtain ⟨calls, waits, all⟩ := exists_made attempt kind (world.attempt number).settle later
    refine ⟨calls, waits, (comes calls waits).2.trans (if_neg ?_)⟩
    exact Nat.not_lt.mpr (Nat.le_of_eq all.symm)
  · exact first.timesPutOff_le world.registry
  · exact fun count early => Coordinator.answerTo_of_lt early
  · exact Coordinator.answerTo_timesPutOff
  · exact fun count within => Coordinator.putOff_afterCycles within
  · exact first.concluded_afterCycles world.registry

/-- Two coordinators share a timed scheduler. One has a retry pending when the other is asked to
launch; the other gets two bad answers, and is ready 200 milliseconds later.
-/
theorem attempt_comes_to_rest_on_shared_scheduler
    : let coordinator (answers : List Bool) : Coordinator :=
        { budget := .ofMillis 4 1 100
          checker := .ofList answers
          factory := fun count => { action := toString count }
          scheduler := 0 }
      let origin : World :=
        { schedulers := [.timed]
          agenda := .ofQueues 1
          coordinators := [some (coordinator [false, false, true]), some (coordinator [])] }
      let early : List Call := [.command 1 .tryLaunch, .advance 70]
      let world := origin.takes early
      let later := (world.take (.command 0 .tryLaunch)).2.takes [.fire 0, .advance 150, .advance 50]
      origin.Quiet
      ∧ origin.Served 0
      ∧ world.live? 0 = some (coordinator [false, false, true])
      ∧ world.kept 0 = 0
      ∧ world.kept 1 = 1
      ∧ later.kept 0 = 0
      ∧ (later.coordinator? 0).map (·.hub.latest)
        = some (some (.launchRequested { action := "2" })) := by
  intro coordinator origin early world later
  have quiet : origin.Quiet := by
    refine ⟨⟨rfl, rfl⟩, ?_⟩
    intro scheduler queue there
    rcases scheduler with - | scheduler <;> cases there
  have served : origin.Served 0 := served_of_idle ⟨rfl, rfl⟩ rfl rfl Nat.zero_lt_one rfl
  have live : world.live? 0 = some (coordinator [false, false, true]) := by
    dsimp only [world, early, origin, coordinator]
    cbv
  have clear : world.kept 0 = 0 := by
    dsimp only [world, early, origin, coordinator]
    cbv
  have other : world.kept 1 = 1 := by
    dsimp only [world, early, origin, coordinator]
    cbv
  obtain ⟨⟨kind, found, comes⟩, -⟩ := attempt_comes_to_rest quiet early served live clear
  obtain ⟨there, kept⟩ := comes [.fire 0, .advance 150, .advance 50] (by simp [Call.waits])
  obtain rfl : kind = .timed := by
    refine Option.some.inj (found.symm.trans ?_)
    cbv
  refine ⟨quiet, served, live, clear, other, kept.trans ?_, ?_⟩
  · cbv
  · rw [there]
    cbv

/-- On a timed scheduler the next cycle is not always one delay later. It comes before a delay of
more than thirty years is over, and the cycle after it comes later than twice a delay of half a
millisecond.
-/
theorem cycle_not_at_delay
    : let world (delay : Span) : World :=
        { schedulers := [.timed]
          agenda := .ofQueues 1
          coordinators :=
            [some
              { budget := { launchMax := 2, updateMax := 0, delay }
                checker := .always false
                factory := fun _ => { action := "update" }
                scheduler := 0 }] }
      let cycles (delay : Span) (ms : Nat) : Option Nat :=
        (((world delay).takes [.command 0 .tryLaunch, .advance ms]).coordinator? 0).map (·.made)
      let long : Span := .ofMillis 946080000001
      let short : Span := { nanos := 500000, inRange := by decide }
      (946080000000 * nanosPerMilli < 1 * long.nanos ∧ cycles long 946080000000 = some (1 + 1))
      ∧ (1 * nanosPerMilli = 2 * short.nanos ∧ cycles short 1 ≠ some (2 + 1)) := by
  intro world cycles long short
  refine ⟨⟨by decide, ?_⟩, by decide, ?_⟩
  · dsimp only [cycles, long, world]
    cbv
  · dsimp only [cycles, short, world]
    cbv
    decide

end World

end UpdaterLaunch
