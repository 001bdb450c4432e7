import UpdaterLaunch.Proofs.PartyShadows

/-! As the clock runs, whatever wakes is nothing to a party, or wakes in the party's own world as
well. The two clocks may stop at different times on the way, and agree again when they arrive.
-/

namespace UpdaterLaunch.World

variable {party : Party} {world lone after : World} {task : Option Task}
  {agenda alike : Agenda Task}

-----------------------------------------------------------------------------------------
-- Waking
-----------------------------------------------------------------------------------------

namespace Apart

theorem withAgenda (apart : world.Apart party) {agenda : Agenda Task}
    (subset : ∀ posting ∈ agenda.waiting, posting ∈ world.agenda.waiting)
    : ({ world with agenda } : World).Apart party :=
  ⟨apart.users, apart.queued, fun posting member => apart.tasks posting (subset posting member)⟩

theorem resume (apart : world.Apart party) (turn : world.agenda.Turn task agenda)
    : (world.resume (task, agenda)).Apart party := by
  have moved := apart.withAgenda turn.waiting_subset
  cases task with
  | none => exact moved
  | some running =>
      obtain ⟨first, rest, line, runs⟩ := turn.line
      obtain ⟨number, retry, -⟩ := apart.tasks first (List.mem_append_left _ (by simp [line]))
      obtain rfl : running = .retry number := by rw [← runs running rfl, retry]
      exact moved.attempt number

theorem wake (apart : world.Apart party) {before : Nat} (woken : world.wake? before = some after)
    : after.Apart party := by
  obtain ⟨⟨task, agenda⟩, next, rfl⟩ := Option.map_eq_some_iff.mp woken
  rcases Agenda.wake?_cases next with turn | ⟨rfl, line, due, first, within, rfl⟩
  · exact apart.resume turn
  · apply apart.withAgenda
    intro posting member
    rwa [Agenda.waiting_moveTo] at member

end Apart

/-- A task of others that runs is nothing to the party. -/
theorem Shadows.resume_other (shadows : world.Shadows party lone) (apart : world.Apart party)
    (moved : ({ world with agenda } : World).Apart party)
    (kept : agenda.Shadows party.schedulers lone.agenda)
    (foreign
      : ∀ running ∈ task,
          ∃ posting ∈ world.agenda.ready,
            posting.task = running ∧ party.schedulers posting.queue = false)
    : (world.resume (task, agenda)).Shadows party lone := by
  have unseen : ({ world with agenda } : World).Shadows party lone :=
    { shadows with agenda := kept }
  cases task with
  | none => exact unseen
  | some running =>
      obtain ⟨posting, member, rfl, other⟩ := foreign running rfl
      obtain ⟨number, retry, side⟩ := apart.tasks posting (List.mem_append_left _ member)
      rw [retry]
      exact unseen.attempt_other moved (side.trans other)

/-- A task of the party that runs in both worlds comes to the same in both. -/
theorem Shadows.resume (shadows : world.Shadows party lone) (apart : world.Apart party)
    (moved : ({ world with agenda } : World).Apart party)
    (kept : agenda.Shadows party.schedulers alike) (now : alike.now = agenda.now)
    (own
      : ∀ running ∈ task,
          ∃ posting ∈ world.agenda.ready,
            posting.task = running ∧ party.schedulers posting.queue = true)
    : (world.resume (task, agenda)).Shadows party (lone.resume (task, alike)) := by
  have seen : ({ world with agenda } : World).Shadows party { lone with agenda := alike } :=
    { shadows with agenda := kept }
  cases task with
  | none => exact seen
  | some running =>
      obtain ⟨posting, member, rfl, mine⟩ := own running rfl
      obtain ⟨number, retry, side⟩ := apart.tasks posting (List.mem_append_left _ member)
      rw [retry]
      exact seen.attempt moved now (side.trans mine)

/-- What is woken is nothing to the party, or happens in its own world as well. -/
theorem Shadows.wake (shadows : world.Shadows party lone) (apart : world.Apart party)
    {before : Nat} (woken : world.wake? before = some after)
    : after.Shadows party lone
      ∨ ∃ alike, lone.wake? before = some alike ∧ after.Shadows party alike := by
  obtain ⟨⟨task, agenda⟩, next, rfl⟩ := Option.map_eq_some_iff.mp woken
  have moved : ({ world with agenda } : World).Apart party := by
    apply apart.withAgenda
    rcases Agenda.wake?_cases next with turn | ⟨-, -, due, -, -, rfl⟩
    · exact turn.waiting_subset
    · intro posting member
      rwa [Agenda.waiting_moveTo] at member
  rcases shadows.agenda.wake next with ⟨kept, foreign⟩ | ⟨alike, too, kept, now, own⟩
  · exact .inl (shadows.resume_other apart moved kept foreign)
  · right
    refine ⟨lone.resume (task, alike), by simp only [World.wake?, too, Option.map_some], ?_⟩
    exact shadows.resume apart moved kept now own

theorem wake?_runBefore (world : World) (before : Nat)
    : (world.runBefore before).wake? before = none :=
  step_exhaust world

/-- So what runs before a time is, for the party, what runs in its own world. -/
theorem Shadows.runBefore (shadows : world.Shadows party lone) (apart : world.Apart party)
    (before : Nat)
    : (world.runBefore before).Shadows party (lone.runBefore before)
      ∧ (world.runBefore before).Apart party := by
  obtain ⟨alike, shadows, apart, same⟩
      : ∃ alike : World,
          (world.runBefore before).Shadows party alike
          ∧ (world.runBefore before).Apart party
          ∧ lone.runBefore before = alike.runBefore before := by
    refine exhaust_keeps (P := fun later : World => ∃ alike : World,
      later.Shadows party alike ∧ later.Apart party
      ∧ lone.runBefore before = alike.runBefore before) ?_ ⟨lone, shadows, apart, rfl⟩
    rintro world after woken ⟨alike, shadows, apart, same⟩
    rcases shadows.wake apart woken with unseen | ⟨next, too, seen⟩
    · exact ⟨alike, unseen, apart.wake woken, same⟩
    · exact ⟨next, seen, apart.wake woken, same.trans (exhaust_of_some too)⟩
  have rests := Option.map_eq_none_iff.mp (world.wake?_runBefore before)
  have restsToo : alike.wake? before = none := by
    simp only [World.wake?, shadows.agenda.nobody rests, Option.map_none]
  have stays : alike.runBefore before = alike := exhaust_of_none restsToo
  rw [same, stays]
  exact ⟨shadows, apart⟩

-----------------------------------------------------------------------------------------
-- The clock
-----------------------------------------------------------------------------------------

theorem now_run (world : World) (task : Task) : (world.run task).agenda.now = world.agenda.now := by
  cases task with
  | retry number => exact now_attempt world number
  | change change => rfl

theorem now_resume (world : World) (task : Option Task) (agenda : Agenda Task)
    : (world.resume (task, agenda)).agenda.now = agenda.now := by
  cases task with
  | none => rfl
  | some running => exact now_run _ running

theorem now_wake {before : Nat} (early : world.agenda.now < before)
    (woken : world.wake? before = some after)
    : world.agenda.now ≤ after.agenda.now ∧ after.agenda.now < before := by
  obtain ⟨⟨task, agenda⟩, next, rfl⟩ := Option.map_eq_some_iff.mp woken
  rcases Agenda.wake?_cases next with turn | ⟨rfl, -, due, -, within, rfl⟩
  · rw [now_resume, turn.now]
    exact ⟨Nat.le_refl _, early⟩
  · exact ⟨Nat.le_max_left _ _, Nat.max_lt.mpr ⟨early, within⟩⟩

/-- Running what is due before a time moves the clock on, but not up to that time. -/
theorem now_runBefore {before : Nat} (early : world.agenda.now < before)
    : world.agenda.now ≤ (world.runBefore before).agenda.now
      ∧ (world.runBefore before).agenda.now < before := by
  refine exhaust_keeps (P := fun later : World => world.agenda.now ≤ later.agenda.now
    ∧ later.agenda.now < before) ?_ ⟨Nat.le_refl _, early⟩
  rintro earlier later woken ⟨le, lt⟩
  obtain ⟨more, less⟩ := now_wake lt woken
  exact ⟨Nat.le_trans le more, less⟩

theorem now_settle (world : World) : world.settle.agenda.now = world.agenda.now := by
  have bounds := now_runBefore (Nat.lt_succ_self world.agenda.now)
  exact Nat.le_antisymm (Nat.le_of_lt_succ bounds.2) bounds.1

/-- Where nobody is in line, and the sleepers are due later, nothing is due. -/
theorem settle_of_line (line : world.agenda.ready = [])
    (asleep : ∀ posting ∈ world.agenda.sleepers, world.agenda.now < posting.due)
    : world.settle = world := by
  apply exhaust_of_none
  simp only [World.wake?, Agenda.wake?_of_nobody line asleep, Option.map_none]

/-- When all that is due has run, nothing more is due. -/
theorem settle_settle (world : World) : world.settle.settle = world.settle := by
  apply exhaust_of_none
  rw [now_settle]
  exact world.wake?_runBefore _

/-- When all that is due has run, nobody is in line. -/
theorem ready_settle (world : World) : world.settle.agenda.ready = [] := by
  have rests := Option.map_eq_none_iff.mp (world.wake?_runBefore (world.agenda.now + 1))
  exact (Agenda.of_wake?_eq_none rests).1

/-- When the clocks of both worlds have come to a time, they agree. -/
theorem Shadows.advance (shadows : world.Shadows party lone) (apart : world.Apart party)
    (now : lone.agenda.now = world.agenda.now) (ms : Nat)
    : (world.advance ms).Shadows party (lone.advance ms)
      ∧ (world.advance ms).Apart party
      ∧ (lone.advance ms).agenda.now = (world.advance ms).agenda.now := by
  unfold World.advance
  rw [now]
  split
  · exact ⟨shadows, apart, now⟩
  · rename_i some
    dsimp only
    obtain ⟨ran, stays⟩ := shadows.runBefore apart (world.agenda.now + ms)
    have rests := Option.map_eq_none_iff.mp (world.wake?_runBefore (world.agenda.now + ms))
    obtain ⟨line, nobody⟩ := ran.agenda.orderly.nobody rests
    have early : (world.runBefore (world.agenda.now + ms)).agenda.now < world.agenda.now + ms :=
      (now_runBefore (Nat.lt_add_of_pos_right (Nat.pos_of_ne_zero some))).2
    obtain ⟨moved, agree⟩ := ran.agenda.moveTo line nobody (Nat.le_of_lt early)
    refine ⟨{ ran with agenda := moved }, ?_, agree⟩
    apply stays.withAgenda
    intro posting member
    rwa [Agenda.waiting_moveTo] at member

end UpdaterLaunch.World
