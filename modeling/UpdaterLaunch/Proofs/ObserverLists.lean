import Mathlib.Data.List.Induction
import Mathlib.Data.Set.Card
import UpdaterLaunch.Proofs.EventDelivery
import UpdaterLaunch.Proofs.Histories

/-! Whom a hub lists is told by its history alone. Those who stay are all listed; besides them only
those are who went after the last emission, since it takes an emission to notice that they are gone.
The list is in the order in which they came, and no emission changes that.
-/

namespace UpdaterLaunch.Hub

variable {hub : Hub} {requests : List Request} {slot : Nat}

-----------------------------------------------------------------------------------------
-- What a history says of a subscription
-----------------------------------------------------------------------------------------

/-- A subscription was made, with the number of those before it, and was not dropped since. -/
def Stays (requests : List Request) (slot : Nat) : Prop :=
  Since (fun early request => request = .subscribe ∧ early.count .subscribe = slot)
    (· ≠ .mail slot .unsubscribe) requests

/-- A subscription that stayed was dropped, and no event was emitted since. -/
def Lapsed (requests : List Request) (slot : Nat) : Prop :=
  Since (fun early request => request = .mail slot .unsubscribe ∧ Stays early slot)
    (fun request => ∀ event, request ≠ .emit event) requests

theorem stays_concat_iff {request : Request}
    : Stays (requests ++ [request]) slot
      ↔ (request = .subscribe ∧ requests.count .subscribe = slot)
        ∨ (Stays requests slot ∧ request ≠ .mail slot .unsubscribe) :=
  since_concat_iff

theorem lapsed_concat_iff {request : Request}
    : Lapsed (requests ++ [request]) slot
      ↔ (request = .mail slot .unsubscribe ∧ Stays requests slot)
        ∨ (Lapsed requests slot ∧ ∀ event, request ≠ .emit event) :=
  since_concat_iff

/-- A list names the subscriptions of a kind in the order in which they came, each once. -/
structure Lists (slots : List Nat) (kind : Nat → Prop) : Prop where
  ordered : slots.Pairwise (· < ·)
  member : ∀ slot, slot ∈ slots ↔ kind slot

namespace Lists

variable {slots : List Nat} {kind other : Nat → Prop}

/-- As many are named as there are. -/
theorem ncard_eq (lists : Lists slots kind) : {slot | kind slot}.ncard = slots.length := by
  have same : {slot | kind slot} = (slots.toFinset : Set Nat) := by
    ext slot
    simp [lists.member]
  have distinct : slots.Nodup := lists.ordered.imp Nat.ne_of_lt
  rw [same, Set.ncard_coe_finset, List.toFinset_card_of_nodup distinct]

/-- Those of a list that pass a test are a kind of their own. -/
theorem filter (lists : Lists slots kind) {passes : Nat → Bool}
    (same : ∀ slot, kind slot ∧ passes slot = true ↔ other slot)
    : Lists (slots.filter passes) other where
  ordered := lists.ordered.filter _
  member slot := by rw [List.mem_filter, lists.member, same]

end Lists

-----------------------------------------------------------------------------------------
-- What requests do to the subscriptions
-----------------------------------------------------------------------------------------

theorem isLive_subscribe (hub : Hub) (slot : Nat)
    : hub.subscribe.isLive slot = (hub.isLive slot || decide (hub.backlogs.length = slot)) := by
  rw [isLive, backlog?_subscribe]
  by_cases new : slot = hub.backlogs.length
  · simp [new]
  · simp [new, Ne.symm new, isLive]

theorem Sound.isLive_emit (sound : hub.Sound) (opened : hub.isOpen = true) (event : Event)
    (slot : Nat)
    : (hub.emit event).isLive slot = hub.isLive slot := by
  rw [isLive, sound.backlog?_emit opened, Option.isSome_map, isLive]

/-- Of what subscribers do, only a drop ends a subscription, and just the one. -/
theorem isLive_mail (hub : Hub) (asking : Nat) (own : Mail) (slot : Nat)
    : (hub.mail asking own).2.isLive slot
      = (hub.isLive slot && decide (Request.mail asking own ≠ .mail slot .unsubscribe)) := by
  cases there : hub.backlog? asking with
  | none =>
      rw [mail_of_gone there]
      by_cases same : asking = slot
      · simp [isLive, ← same, there]
      · simp [same]
  | some backlog =>
      rw [isLive, backlog?_mail there]
      by_cases same : slot = asking
      · subst same
        cases own <;> simp [Mail.leaves, isLive, there]
      · simp [same, Ne.symm same, isLive]

-----------------------------------------------------------------------------------------
-- The list is true to the history
-----------------------------------------------------------------------------------------

/-- What an open hub keeps of its subscriptions agrees with the history of its requests. Of those
who are gone it lists the ones that it has not noticed yet.
-/
structure Roll (requests : List Request) (hub : Hub) : Prop where
  opened : hub.isOpen = true
  sound : hub.Sound
  made : hub.backlogs.length = requests.count .subscribe
  ordered : hub.observers.Pairwise (· < ·)
  live : ∀ slot, hub.isLive slot = true ↔ Stays requests slot
  gone : ∀ slot, slot ∈ hub.observers ∧ hub.isLive slot = false ↔ Lapsed requests slot

namespace Roll

theorem new : Roll [] {} where
  opened := rfl
  sound := sound_empty
  made := rfl
  ordered := .nil
  live slot := by simp [isLive, backlog?, Stays, Since]
  gone slot := by simp [Lapsed, Since]

/-- Whoever comes gets a number above all others, at the end of the list. -/
theorem subscribe (roll : Roll requests hub) : Roll (requests ++ [.subscribe]) hub.subscribe where
  opened := roll.opened
  sound := roll.sound.subscribe
  made := by simp [Hub.subscribe, roll.made]
  ordered := by
    refine List.pairwise_append.mpr ⟨roll.ordered, List.pairwise_singleton _ _, ?_⟩
    intro old listed new member
    rw [List.mem_singleton.mp member]
    exact roll.sound.bounded old listed
  live slot := by
    rw [isLive_subscribe, stays_concat_iff, ← roll.live, ← roll.made]
    simp [or_comm]
  gone slot := by
    have older := roll.sound.bounded slot
    rw [isLive_subscribe, lapsed_concat_iff, ← roll.gone]
    simp only [Hub.subscribe, List.mem_append, List.mem_singleton]
    grind

/-- An emission notices who is gone, and takes those off the list. -/
theorem emit (roll : Roll requests hub) (event : Event)
    : Roll (requests ++ [.emit event]) (hub.emit event) where
  opened := roll.opened
  sound := roll.sound.emit event
  made := by simp [Hub.emit, length_foldl_deliver, roll.made]
  ordered := roll.ordered.filter _
  live slot := by
    rw [roll.sound.isLive_emit roll.opened, stays_concat_iff, ← roll.live]
    simp
  gone slot := by
    rw [roll.sound.isLive_emit roll.opened, lapsed_concat_iff]
    simp [Hub.emit]

/-- Whoever goes was live before, hence listed, and stays so for the time being. -/
theorem mail (roll : Roll requests hub) (asking : Nat) (own : Mail)
    : Roll (requests ++ [.mail asking own]) (hub.mail asking own).2 where
  opened := (mail_fixed hub asking own).1.trans roll.opened
  sound := roll.sound.mail asking own
  made := by simp [(mail_unheard hub asking own).2, roll.made]
  ordered := by
    rw [(mail_unheard hub asking own).1]
    exact roll.ordered
  live slot := by
    rw [isLive_mail, stays_concat_iff, ← roll.live]
    simp only [Bool.and_eq_true, decide_eq_true_eq, reduceCtorEq, false_and, false_or]
  gone slot := by
    have listed := roll.sound.listed roll.opened slot
    rw [isLive_mail, (mail_unheard hub asking own).1, lapsed_concat_iff, ← roll.gone, ← roll.live]
    grind

theorem latest (roll : Roll requests hub) : Roll (requests ++ [.latest]) hub where
  opened := roll.opened
  sound := roll.sound
  made := by simp [roll.made]
  ordered := roll.ordered
  live slot := by simp [stays_concat_iff, roll.live]
  gone slot := by simp [lapsed_concat_iff, roll.gone]

/-- A request that does not end the hub keeps the roll true. -/
theorem handle (roll : Roll requests hub) {request : Request} (goesOn : request ≠ .close)
    : Roll (requests ++ [request]) (hub.handle request).2 := by
  cases request with
  | subscribe => simpa [Hub.handle, roll.opened] using roll.subscribe
  | emit event => simpa [Hub.handle, roll.opened] using roll.emit event
  | latest => simpa [Hub.handle, roll.opened] using roll.latest
  | close => exact absurd rfl goesOn
  | mail asking own => exact roll.mail asking own

/-- As long as it is not ended a hub keeps a true roll, by induction on the history from its end. -/
theorem after (lasting : .close ∉ requests) : Roll requests (({} : Hub).after requests) := by
  induction requests using List.reverseRecOn with
  | nil => exact new
  | append_singleton earlier request ih =>
      have before : .close ∉ earlier := fun member => lasting (List.mem_append_left _ member)
      have goesOn : request ≠ .close := by
        rintro rfl
        exact lasting (by simp)
      rw [after_append]
      exact (ih before).handle goesOn

/-- Whoever is listed stays or has gone unnoticed, and nobody else is listed. -/
theorem lists (roll : Roll requests hub)
    : Lists hub.observers (fun slot => Stays requests slot ∨ Lapsed requests slot) where
  ordered := roll.ordered
  member slot := by
    have listed := roll.sound.listed roll.opened slot
    rw [← roll.live, ← roll.gone]
    cases live : hub.isLive slot <;> simp_all

/-- Of those who are listed the live ones stay. -/
theorem listsLive (roll : Roll requests hub)
    : Lists (hub.observers.filter hub.isLive) (Stays requests) :=
  roll.lists.filter fun slot => by
    rw [roll.live]
    exact and_iff_right_of_imp .inl

/-- The others have gone unnoticed. -/
theorem listsGone (roll : Roll requests hub)
    : Lists (hub.observers.filter (! hub.isLive ·)) (Lapsed requests) :=
  roll.lists.filter fun slot => by
    rw [← roll.lists.member, ← roll.gone, Bool.not_eq_true']

end Roll

/-- At any time before its end a hub lists, in the order in which they came and each once, those
who stay and of the others just those who went after the last emission. An emission reaches all
who stay, whatever it takes off the list, leaves them in their order, and lists exactly them; their
number is what goes into the log.
-/
theorem observers_of_history (lasting : .close ∉ requests)
    : let hub := ({} : Hub).after requests
      hub.handle .subscribe = (.number (requests.count .subscribe), hub.subscribe)
      ∧ (∀ slot, hub.isLive slot = true ↔ Stays requests slot)
      ∧ Lists hub.observers (fun slot => Stays requests slot ∨ Lapsed requests slot)
      ∧ hub.observers.length
        = {slot | Stays requests slot}.ncard + {slot | Lapsed requests slot}.ncard
      ∧ ∀ event,
          let told := hub.emit event
          hub.handle (.emit event) = (.done, told)
          ∧ Lists told.observers (Stays requests)
          ∧ (∀ slot, told.isLive slot = hub.isLive slot)
          ∧ told.observers.Sublist hub.observers
          ∧ (∀ slot, told.backlog? slot = (hub.backlog? slot).map (· ++ [event]))
          ∧ hub.emission event = .eventEmitted event {slot | Stays requests slot}.ncard
          ∧ hub.report (.emit event) = [hub.emission event] := by
  intro hub
  have roll : Roll requests hub := .after lasting
  refine ⟨?_, roll.live, roll.lists, ?_, fun event => ?_⟩
  · simp [handle, roll.opened, roll.made]
  · rw [roll.listsLive.ncard_eq, roll.listsGone.ncard_eq]
    exact List.length_eq_length_filter_add _
  · refine ⟨?_, roll.listsLive, ?_, List.filter_sublist, ?_, ?_, ?_⟩
    · simp [handle, roll.opened]
    · exact roll.sound.isLive_emit roll.opened event
    · exact roll.sound.backlog?_emit roll.opened event
    · rw [roll.listsLive.ncard_eq]
      rfl
    · simp [report, roll.opened]

/-- Of four who came, one went before an emission and two after it, one of whom had come only then.
These two are still listed, beside the one who stays, and the next emission is taken by him alone.
-/
theorem observers_of_history_between_emissions
    : let requests : List Request :=
        [.mail 0 .unsubscribe, .subscribe, .subscribe, .subscribe, .mail 0 .unsubscribe,
          .emit (.failed .updateRetries), .mail 1 .unsubscribe, .subscribe, .mail 3 .unsubscribe,
          .mail 2 .drain]
      let hub := ({} : Hub).after requests
      .close ∉ requests
      ∧ hub.observers = [1, 2, 3]
      ∧ Lapsed requests 3
      ∧ {slot | Stays requests slot}.ncard = 1
      ∧ {slot | Lapsed requests slot}.ncard = 2 := by
  intro requests hub
  have lasting : .close ∉ requests := by decide
  have listed : hub.observers = [1, 2, 3] := by decide +kernel
  obtain ⟨-, live, lists, count, told⟩ := observers_of_history lasting
  obtain ⟨-, -, -, -, -, taken, -⟩ := told (.failed .updateRetries)
  have one : {slot | Stays requests slot}.ncard = 1 :=
    (Notice.eventEmitted.inj (taken.symm.trans rfl)).2
  have gone : ¬ Stays requests 3 := by
    rw [← live]
    decide +kernel
  have member : 3 ∈ hub.observers := by simp [listed]
  have lapsed : Lapsed requests 3 := ((lists.member 3).mp member).resolve_left gone
  refine ⟨lasting, listed, lapsed, one, ?_⟩
  rw [listed, one] at count
  exact (Nat.add_left_cancel count).symm

end UpdaterLaunch.Hub
