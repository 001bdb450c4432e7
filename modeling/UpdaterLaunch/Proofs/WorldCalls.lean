import UpdaterLaunch.Proofs.LastingInvariants

/-! What callers do in a world, and what happens meanwhile. After a call everything may run that is
due by then, which makes a step of the world; but also the next call may come first, or some of
those in line have their turn and others have not.
-/

namespace UpdaterLaunch.World

-----------------------------------------------------------------------------------------
-- Calls
-----------------------------------------------------------------------------------------

/-- What a caller asks of a world. A caller knows a subscription by its coordinator and its number
there, whatever others have subscribed to.
-/
inductive Call
  | command (coordinator : Nat) (command : Command)
  | fire (scheduler : Nat)
  | fireAt (scheduler index : Nat)
  | cancel (scheduler : Nat)
  | advance (ms : Nat)
  | change (change : Registry.Change)
  | mail (coordinator slot : Nat) (request : Hub.Mail)

/-- The request that a call makes of a world, where subscriptions have numbers of their own. -/
def Call.request (world : World) : Call → Request
  | .command number order => .command number order
  | .fire scheduler => .fire scheduler
  | .fireAt scheduler index => .fireAt scheduler index
  | .cancel scheduler => .cancel scheduler
  | .advance ms => .advance ms
  | .change what => .change what
  | .mail number slot request => .mail (world.subscriptions.idxOf (number, slot)) request

/-- What the caller hears: of a new subscription, its number at the coordinator. -/
def Call.heard (after : World) : Call → Answer → Answer
  | .command _ .subscribe, .number subscription =>
      ((after.subscriptions[subscription]?).map (.number ·.2)).getD (.number subscription)
  | _, answer => answer

/-- The answer to a call. -/
def Call.answer (world : World) (call : Call) : Answer :=
  let (answer, after) := world.handle (call.request world)
  call.heard after answer

/-- Answers a call and lets everything run that is due by then. -/
def take (world : World) (call : Call) : Answer × World :=
  let (answer, after) := world.handle (call.request world)
  (call.heard after answer, after.settle)

/-- To take a call is a step of the world. -/
theorem take_eq_step (world : World) (call : Call)
    : (world.take call).2 = (world.step (call.request world)).2 :=
  rfl

/-- The world after some calls. -/
def takes (world : World) (calls : List Call) : World :=
  calls.foldl (fun world call => (world.take call).2) world

/-- The answers to those of some calls that are listened to. -/
def answers (listens : Call → Bool) (world : World) : List Call → List Answer
  | [] => []
  | call :: rest =>
      let (answer, after) := world.take call
      if listens call then answer :: answers listens after rest else answers listens after rest

-----------------------------------------------------------------------------------------
-- Acts
-----------------------------------------------------------------------------------------

/-- What happens in a world: a call by itself, everything that is due by now, or the turn of whoever
is first in line. The clock is moved by calls only.
-/
inductive Act
  | call (call : Call)
  | settle
  | turn

/-- The move that an act is. -/
def Act.move (world : World) : Act → Move
  | .call asked => .request (asked.request world)
  | .settle => .settle
  | .turn => .turn

/-- The world after an act. -/
def act (world : World) (act : Act) : World := world.move (act.move world)

/-- The world after some acts. -/
def acts (world : World) (acts : List Act) : World := acts.foldl act world

/-- The answer to an act, if it is a call that is listened to. -/
def Act.reply (listens : Call → Bool) (world : World) : Act → List Answer
  | .call asked => if listens asked then [asked.answer world] else []
  | .settle | .turn => []

/-- The answers to those calls among some acts that are listened to. -/
def replies (listens : Call → Bool) (world : World) : List Act → List Answer
  | [] => []
  | act :: rest => act.reply listens world ++ replies listens (world.act act) rest

variable {world : World}

theorem acts_append (world : World) (acts more : List Act)
    : world.acts (acts ++ more) = (world.acts acts).acts more :=
  List.foldl_append

theorem replies_append (listens : Call → Bool) (world : World) (acts more : List Act)
    : world.replies listens (acts ++ more)
      = world.replies listens acts ++ (world.acts acts).replies listens more := by
  induction acts generalizing world with
  | nil => rfl
  | cons act rest ih =>
      simp only [List.cons_append, replies, ih, List.append_assoc]
      rfl

/-- The moves that acts are. -/
def movesOf (world : World) : List Act → List Move
  | [] => []
  | act :: rest => act.move world :: movesOf (world.act act) rest

/-- Acts are a run. -/
theorem acts_eq_after (world : World) (acts : List Act)
    : world.acts acts = world.after (world.movesOf acts) := by
  induction acts generalizing world with
  | nil => rfl
  | cons act rest ih => exact ih (world.act act)

/-- Only the calls among some acts give commands. -/
theorem command_of_mem_movesOf {acts : List Act} {number : Nat} {command : Command}
    (member : .request (.command number command) ∈ world.movesOf acts)
    : .call (.command number command) ∈ acts := by
  induction acts generalizing world with
  | nil => cases member
  | cons act rest ih =>
      rcases List.mem_cons.mp member with first | later
      · cases act with
        | call call =>
            cases call with
            | command other order =>
                obtain ⟨rfl, rfl⟩ := Request.command.inj (Move.request.inj first)
                exact List.mem_cons_self
            | fire | fireAt | cancel | advance | change | mail => cases Move.request.inj first
        | settle | turn => cases first
      · exact List.mem_cons_of_mem _ (ih later)

/-- What lasts, lasts through acts. -/
theorem Lasting.acts {barred : Nat → Command → Prop} {P : World → Prop}
    (lasting : Lasting barred P) (holds : P world) {acts : List Act}
    (allowed
      : ∀ number command, .call (.command number command) ∈ acts → ¬ barred number command)
    : P (world.acts acts) := by
  rw [acts_eq_after]
  apply lasting.after holds
  exact fun number command member => allowed number command (command_of_mem_movesOf member)

-----------------------------------------------------------------------------------------
-- Calls one step after the other
-----------------------------------------------------------------------------------------

/-- Calls one step after the other: after each, everything runs that is due by then. -/
def stepwise (calls : List Call) : List Act := calls.flatMap fun call => [.call call, .settle]

/-- The world after calls one step after the other. -/
theorem takes_eq_acts (world : World) (calls : List Call)
    : world.takes calls = world.acts (stepwise calls) := by
  induction calls generalizing world with
  | nil => rfl
  | cons call rest ih => exact ih (world.take call).2

/-- The answers to calls one step after the other. -/
theorem answers_eq_replies (listens : Call → Bool) (world : World) (calls : List Call)
    : world.answers listens calls = world.replies listens (stepwise calls) := by
  induction calls generalizing world with
  | nil => rfl
  | cons call rest ih =>
      have first
          : world.replies listens (stepwise (call :: rest))
            = (if listens call then [(world.take call).1] else [])
              ++ (world.take call).2.replies listens (stepwise rest) :=
        rfl
      rw [first, ← ih]
      simp only [answers]
      split <;> rfl

theorem mem_stepwise_iff {call : Call} {calls : List Call}
    : .call call ∈ stepwise calls ↔ call ∈ calls := by
  simp [stepwise]

end UpdaterLaunch.World
