import UpdaterLaunch.Hub

/-! Every subscription hears exactly the events that it is owed: the latest one from before it came,
and then all that are emitted until it goes or the hub ends, each once and in order. What others do
with their subscriptions makes no difference to it.
-/

namespace UpdaterLaunch.Hub

/-- The hub after a list of requests. -/
def after (hub : Hub) (requests : List Request) : Hub :=
  requests.foldl (fun hub request => (hub.handle request).2) hub

/-- The events that a hub which is open at first emits; with its end, emissions are over. -/
def emissions : List Request → List Event
  | [] => []
  | .emit event :: rest => event :: emissions rest
  | .close :: _ => []
  | _ :: rest => emissions rest

/-- Whether a request is one of a given subscription. -/
def Request.isOf (slot : Nat) : Request → Bool
  | .mail asking _ => asking = slot
  | _ => false

/-- The answers to the requests of one subscription. -/
def heard (slot : Nat) (hub : Hub) : List Request → List Answer
  | [] => []
  | request :: rest =>
      let (answer, hub) := hub.handle request
      if request.isOf slot then answer :: heard slot hub rest else heard slot hub rest

/-- The events that an answer hands over. -/
def handedOver : Answer → List Event
  | .event (some event) => [event]
  | .events events => events
  | _ => []

/-- The events that one subscription has received. -/
def received (slot : Nat) (hub : Hub) (requests : List Request) : List Event :=
  (heard slot hub requests).flatMap handedOver

/-- A request as it concerns one subscription if that is the only one, with number 0; nothing if
it does not concern it.
-/
def Request.alone? (slot : Nat) : Request → Option Request
  | .emit event => some (.emit event)
  | .close => some .close
  | .mail asking request => if asking = slot then some (.mail 0 request) else none
  | .subscribe | .latest => none

/-- Requests in two parts lead to where the second part leads from the first. -/
theorem after_append (hub : Hub) (requests more : List Request)
    : hub.after (requests ++ more) = (hub.after requests).after more :=
  List.foldl_append

-----------------------------------------------------------------------------------------
-- A hub lists its live subscriptions
-----------------------------------------------------------------------------------------

/-- An open hub sends to every live subscription, once, and only to those that were made. -/
structure Sound (hub : Hub) : Prop where
  nodup : hub.observers.Nodup
  bounded : ∀ slot ∈ hub.observers, slot < hub.backlogs.length
  listed : hub.isOpen = true → ∀ slot, hub.isLive slot = true → slot ∈ hub.observers

/-- A new hub has nobody to send to. -/
theorem sound_empty : ({} : Hub).Sound where
  nodup := List.nodup_nil
  bounded := by simp
  listed := by simp [isLive, backlog?]

/-- A live subscription was made before. -/
theorem lt_of_isLive {hub : Hub} {slot : Nat} (live : hub.isLive slot = true)
    : slot < hub.backlogs.length := by
  unfold isLive backlog? at live
  cases there : hub.backlogs[slot]? with
  | none => simp [there] at live
  | some backlog => exact (List.getElem?_eq_some_iff.mp there).1

/-- Every delivery to a subscription goes to the end of its backlog, and nowhere else. -/
theorem backlog?_foldl_deliver (event : Event) (slots : List Nat)
    (backlogs : List (Option (List Event))) (slot : Nat)
    : ((slots.foldl (deliver event) backlogs)[slot]?).join
      = ((backlogs[slot]?).join).map (· ++ List.replicate (slots.count slot) event) := by
  induction slots generalizing backlogs with
  | nil => simp
  | cons first rest ih =>
      rw [List.foldl_cons, ih, deliver, List.getElem?_modify]
      by_cases own : first = slot
      · subst own
        cases backlogs[first]? with
        | none => rfl
        | some backlog =>
            cases backlog with
            | none => simp
            | some events => simp [List.replicate_succ]
      · simp [own]

/-- An emission adds one event to every backlog, if the hub is sound and open. -/
theorem Sound.backlog?_emit {hub : Hub} (sound : hub.Sound) (opened : hub.isOpen = true)
    (event : Event) (slot : Nat)
    : (hub.emit event).backlog? slot = (hub.backlog? slot).map (· ++ [event]) := by
  have delivered := backlog?_foldl_deliver event (hub.observers.filter hub.isLive) hub.backlogs slot
  simp only [emit, backlog?] at delivered ⊢
  rw [delivered]
  cases live : hub.isLive slot with
  | false =>
      have gone : (hub.backlogs[slot]?).join = none := by
        simpa [isLive, backlog?] using live
      rw [gone]
      rfl
  | true =>
      have taking : slot ∈ hub.observers.filter hub.isLive :=
        List.mem_filter.mpr ⟨sound.listed opened slot live, live⟩
      have once : (hub.observers.filter hub.isLive).count slot = 1 := by
        rw [List.Nodup.count (sound.nodup.filter hub.isLive), if_pos taking]
      rw [once]
      rfl

/-- Deliveries make no subscription and end none. -/
theorem length_foldl_deliver (event : Event) (slots : List Nat)
    (backlogs : List (Option (List Event)))
    : (slots.foldl (deliver event) backlogs).length = backlogs.length := by
  induction slots generalizing backlogs with
  | nil => rfl
  | cons first rest ih => rw [List.foldl_cons, ih, deliver, List.length_modify]

/-- An emission keeps a hub sound: whoever is live was listed, and still is. -/
theorem Sound.emit {hub : Hub} (sound : hub.Sound) (event : Event) : (hub.emit event).Sound where
  nodup := sound.nodup.filter _
  bounded slot member := by
    have within := sound.bounded slot (List.mem_filter.mp member).1
    simpa only [Hub.emit, length_foldl_deliver] using within
  listed opened slot live := by
    have before : hub.isLive slot = true := by
      simpa [isLive, sound.backlog?_emit opened event slot] using live
    exact List.mem_filter.mpr ⟨sound.listed opened slot before, before⟩

/-- A new subscription is live, with the latest event in its backlog, and changes no other. -/
theorem backlog?_subscribe (hub : Hub) (slot : Nat)
    : hub.subscribe.backlog? slot
      = if slot = hub.backlogs.length then some hub.latest.toList else hub.backlog? slot := by
  simp only [subscribe, backlog?]
  split
  · rename_i new
    subst new
    simp
  · rename_i old
    by_cases inside : slot < hub.backlogs.length
    · rw [List.getElem?_append_left inside]
    · have beyond : (hub.backlogs ++ [some hub.latest.toList]).length ≤ slot := by
        rw [List.length_append, List.length_singleton]
        omega
      rw [List.getElem?_eq_none beyond, List.getElem?_eq_none (Nat.le_of_not_lt inside)]

/-- A new subscription keeps a hub sound: it is listed, under a number that is new. -/
theorem Sound.subscribe {hub : Hub} (sound : hub.Sound) : hub.subscribe.Sound where
  nodup := by
    refine List.nodup_append.mpr ⟨sound.nodup, by simp, ?_⟩
    intro slot member other last same
    have new : other = hub.backlogs.length := List.mem_singleton.mp last
    have old := sound.bounded slot member
    omega
  bounded slot member := by
    simp only [Hub.subscribe, List.length_append, List.length_singleton]
    rcases List.mem_append.mp member with old | new
    · exact Nat.lt_succ_of_lt (sound.bounded slot old)
    · rw [List.mem_singleton.mp new]
      exact Nat.lt_succ_self _
  listed opened slot live := by
    by_cases new : slot = hub.backlogs.length
    · exact List.mem_append_right _ (List.mem_singleton.mpr new)
    · rw [isLive, backlog?_subscribe, if_neg new] at live
      exact List.mem_append_left _ (sound.listed opened slot live)

/-- A changed backlog is that of its own subscription. -/
theorem backlog?_withBacklog {hub : Hub} {slot : Nat} (made : slot < hub.backlogs.length)
    (backlog : Option (List Event)) (other : Nat)
    : (hub.withBacklog slot backlog).backlog? other
      = if other = slot then backlog else hub.backlog? other := by
  simp only [withBacklog, backlog?]
  split
  · rename_i own
    rw [own, List.getElem?_set_self made, Option.join_some]
  · rename_i ne
    rw [List.getElem?_set_ne (Ne.symm ne)]

/-- A live subscription may take from its backlog or end, and the hub stays sound. -/
theorem Sound.withBacklog {hub : Hub} (sound : hub.Sound) {slot : Nat}
    (live : hub.isLive slot = true) (backlog : Option (List Event))
    : (hub.withBacklog slot backlog).Sound where
  nodup := sound.nodup
  bounded other member := by
    simpa only [Hub.withBacklog, List.length_set] using sound.bounded other member
  listed opened other still := by
    by_cases own : other = slot
    · rw [own]
      exact sound.listed opened slot live
    · rw [isLive, backlog?_withBacklog (lt_of_isLive live), if_neg own] at still
      exact sound.listed opened other still

/-- What a request leaves of a backlog; nothing is left if the subscription ends. -/
def Mail.leaves : Mail → List Event → Option (List Event)
  | .drain, _ => some []
  | .tryRecv, backlog | .recv, backlog => some backlog.tail
  | .unsubscribe, _ => none

/-- A request to a subscription that is gone is refused and changes nothing. -/
theorem mail_of_gone {hub : Hub} {slot : Nat} (gone : hub.backlog? slot = none) (request : Mail)
    : hub.mail slot request = (.refused .noSubscriber, hub) := by
  simp only [mail, gone]

/-- A request changes the backlog of its own subscription and nothing else. -/
theorem backlog?_mail {hub : Hub} {slot : Nat} {backlog : List Event}
    (there : hub.backlog? slot = some backlog) (request : Mail) (other : Nat)
    : (hub.mail slot request).2.backlog? other
      = if other = slot then request.leaves backlog else hub.backlog? other := by
  have made : slot < hub.backlogs.length := lt_of_isLive (by simp [isLive, there])
  have untouched (empty : backlog = [])
      : hub.backlog? other = if other = slot then some [] else hub.backlog? other := by
    split
    · rename_i own
      rw [own, there, empty]
    · rfl
  simp only [mail, there]
  cases request with
  | drain => exact backlog?_withBacklog made _ other
  | unsubscribe => exact backlog?_withBacklog made _ other
  | tryRecv =>
      cases backlog with
      | nil => exact untouched rfl
      | cons event rest => exact backlog?_withBacklog made _ other
  | recv =>
      cases backlog with
      | nil => exact untouched rfl
      | cons event rest => exact backlog?_withBacklog made _ other

/-- A request neither ends the hub nor emits anything. -/
theorem mail_fixed (hub : Hub) (slot : Nat) (request : Mail)
    : (hub.mail slot request).2.isOpen = hub.isOpen
      ∧ (hub.mail slot request).2.latest = hub.latest := by
  unfold mail
  split
  · exact ⟨rfl, rfl⟩
  · split <;> exact ⟨rfl, rfl⟩

/-- The hub does not hear of what its subscribers do. -/
theorem mail_unheard (hub : Hub) (slot : Nat) (request : Mail)
    : (hub.mail slot request).2.observers = hub.observers
      ∧ (hub.mail slot request).2.backlogs.length = hub.backlogs.length := by
  unfold mail
  split
  · exact ⟨rfl, rfl⟩
  · split <;> simp [withBacklog]

/-- A subscriber's request keeps a hub sound. -/
theorem Sound.mail {hub : Hub} (sound : hub.Sound) (slot : Nat) (request : Mail)
    : (hub.mail slot request).2.Sound := by
  unfold Hub.mail
  split
  · exact sound
  · rename_i backlog there
    have live : hub.isLive slot = true := by simp [isLive, there]
    split
    · exact sound.withBacklog live _
    · exact sound.withBacklog live _
    · exact sound
    · exact sound
    · exact sound.withBacklog live _
    · exact sound.withBacklog live _

/-- What a request hands over, followed by what it leaves, is the backlog. -/
theorem handedOver_mail {hub : Hub} {slot : Nat} {backlog : List Event}
    (there : hub.backlog? slot = some backlog) {request : Mail} (stays : request ≠ .unsubscribe)
    : ∃ rest,
        request.leaves backlog = some rest
        ∧ handedOver (hub.mail slot request).1 ++ rest = backlog := by
  simp only [mail, there]
  cases request with
  | drain => exact ⟨[], rfl, List.append_nil _⟩
  | unsubscribe => exact absurd rfl stays
  | tryRecv => cases backlog <;> exact ⟨_, rfl, rfl⟩
  | recv =>
      cases backlog with
      | nil => cases opened : hub.isOpen <;> exact ⟨_, rfl, by simp [handedOver]⟩
      | cons event rest => exact ⟨rest, rfl, rfl⟩

/-- The answer to a request depends on the backlog and on whether the hub has ended. -/
theorem mail_answer_congr {hub other : Hub} {slot number : Nat}
    (opened : other.isOpen = hub.isOpen) (same : other.backlog? number = hub.backlog? slot)
    (request : Mail)
    : (other.mail number request).1 = (hub.mail slot request).1 := by
  unfold mail
  rw [same, opened]
  split
  · rfl
  · split <;> rfl

/-- Waiting for an event is over for good exactly if the hub has ended and nothing is left. -/
theorem recv_eq_closed_iff {hub : Hub} {slot : Nat} {backlog : List Event}
    (there : hub.backlog? slot = some backlog)
    : (hub.mail slot .recv).1 = .closed ↔ hub.isOpen = false ∧ backlog = [] := by
  simp only [mail, there]
  cases backlog with
  | nil => cases opened : hub.isOpen <;> simp
  | cons event rest => simp

/-- Every request keeps a hub sound. -/
theorem Sound.handle {hub : Hub} (sound : hub.Sound) (request : Request)
    : (hub.handle request).2.Sound := by
  cases request with
  | subscribe =>
      simp only [Hub.handle]
      split
      · exact sound.subscribe
      · exact sound
  | emit event =>
      simp only [Hub.handle]
      split
      · exact sound.emit event
      · exact sound
  | latest =>
      simp only [Hub.handle]
      split <;> exact sound
  | close =>
      simp only [Hub.handle]
      split
      · exact ⟨List.nodup_nil, by simp [close], by simp [close]⟩
      · exact sound
  | mail slot request => exact sound.mail slot request

/-- Every list of requests keeps a hub sound. -/
theorem Sound.after {hub : Hub} (sound : hub.Sound) (requests : List Request)
    : (hub.after requests).Sound := by
  induction requests generalizing hub with
  | nil => exact sound
  | cons request rest ih => exact ih (sound.handle request)

/-- What a request does to the backlog of a subscription that was made: events are added, its own
requests take from it, and nothing else matters.
-/
theorem Sound.backlog?_handle {hub : Hub} (sound : hub.Sound) {slot : Nat}
    (made : slot < hub.backlogs.length) (request : Request)
    : (hub.handle request).2.backlog? slot
      = match request with
        | .emit event => (hub.backlog? slot).map (· ++ if hub.isOpen then [event] else [])
        | .mail asking own =>
            if asking = slot then (hub.backlog? slot).bind own.leaves else hub.backlog? slot
        | _ => hub.backlog? slot := by
  cases request with
  | subscribe =>
      simp only [Hub.handle]
      split
      · rw [backlog?_subscribe, if_neg (Nat.ne_of_lt made)]
      · rfl
  | emit event =>
      simp only [Hub.handle]
      split
      · rename_i opened
        rw [sound.backlog?_emit opened]
      · cases hub.backlog? slot <;> simp
  | latest =>
      simp only [Hub.handle]
      split <;> rfl
  | close =>
      simp only [Hub.handle]
      split <;> rfl
  | mail asking own =>
      simp only [Hub.handle]
      cases asked : hub.backlog? asking with
      | none =>
          rw [mail_of_gone asked]
          split
          · rename_i same
            rw [← same, asked, Option.bind_none]
          · rfl
      | some theirs =>
          rw [backlog?_mail asked]
          by_cases same : asking = slot
          · rw [if_pos same.symm, if_pos same, ← same, asked, Option.bind_some]
          · rw [if_neg (Ne.symm same), if_neg same]

/-- No request makes a subscription as if it had never been made. -/
theorem length_handle_le (hub : Hub) (request : Request)
    : hub.backlogs.length ≤ (hub.handle request).2.backlogs.length := by
  cases request with
  | subscribe =>
      simp only [handle]
      split
      · simp [subscribe]
      · exact Nat.le_refl _
  | emit event =>
      simp only [handle]
      split
      · simp [emit, length_foldl_deliver]
      · exact Nat.le_refl _
  | latest =>
      simp only [handle]
      split <;> exact Nat.le_refl _
  | close =>
      simp only [handle]
      split <;> exact Nat.le_refl _
  | mail slot request => exact Nat.le_of_eq (hub.mail_unheard slot request).2.symm

/-- Only its end makes a hub end. -/
theorem isOpen_handle (hub : Hub) (request : Request)
    : (hub.handle request).2.isOpen = (hub.isOpen && decide (request ≠ .close)) := by
  cases request with
  | subscribe => cases opened : hub.isOpen <;> simp [handle, opened, subscribe]
  | emit event => cases opened : hub.isOpen <;> simp [handle, opened, emit]
  | latest => cases opened : hub.isOpen <;> simp [handle, opened]
  | close => cases opened : hub.isOpen <;> simp [handle, opened, close]
  | mail slot request => simp [handle, (mail_fixed hub slot request).1]

/-- A hub is open for as long as it was open at first and is not ended. -/
theorem isOpen_after (hub : Hub) (requests : List Request)
    : (hub.after requests).isOpen = (hub.isOpen && decide (.close ∉ requests)) := by
  induction requests generalizing hub with
  | nil => simp [after]
  | cons request rest ih =>
      have later := ih (hub.handle request).2
      rw [isOpen_handle] at later
      simp only [after, List.foldl_cons] at later ⊢
      rw [later, Bool.and_assoc, ← Bool.decide_and]
      simp only [List.mem_cons, not_or, ne_eq, eq_comm]

/-- The latest event of an open hub is the last that was emitted, if any was. -/
theorem latest_after {hub : Hub} (opened : hub.isOpen = true) (requests : List Request)
    (lasts : .close ∉ requests)
    : (hub.after requests).latest = (emissions requests).getLast?.or hub.latest := by
  induction requests generalizing hub with
  | nil => rfl
  | cons request rest ih =>
      have goesOn : request ≠ .close := fun ends => lasts (by simp [ends])
      have still : (hub.handle request).2.isOpen = true := by
        rw [isOpen_handle, opened]
        simpa using goesOn
      have later := ih still fun member => lasts (List.mem_cons_of_mem _ member)
      simp only [after, List.foldl_cons] at later ⊢
      rw [later]
      cases request with
      | subscribe => simp [handle, opened, subscribe, emissions]
      | emit event =>
          simp only [handle, opened, ↓reduceIte, emit, emissions, List.getLast?_cons]
          cases (emissions rest).getLast? <;> rfl
      | latest => simp [handle, opened, emissions]
      | close => exact absurd rfl goesOn
      | mail slot request => simp [handle, (mail_fixed hub slot request).2, emissions]

-----------------------------------------------------------------------------------------
-- Delivery is exact
-----------------------------------------------------------------------------------------

/-- What is received first comes from the first request, if that is one's own. -/
theorem received_cons (slot : Nat) (hub : Hub) (request : Request) (rest : List Request)
    : received slot hub (request :: rest)
      = (if request.isOf slot then handedOver (hub.handle request).1 else [])
        ++ received slot (hub.handle request).2 rest := by
  simp only [received, heard]
  split <;> simp

/-- What a live subscription receives, followed by what it has not read yet, is what it had not read
at first, followed by all that is emitted. By induction on the requests: an emission adds to the
end, and a request of its own only moves events from what is unread to what is received.
-/
theorem Sound.received_append_backlog {hub : Hub} (sound : hub.Sound) {slot : Nat}
    {backlog : List Event} (there : hub.backlog? slot = some backlog) (requests : List Request)
    (stays : .mail slot .unsubscribe ∉ requests)
    : ∃ unread,
        (hub.after requests).backlog? slot = some unread
        ∧ received slot hub requests ++ unread
          = backlog ++ if hub.isOpen then emissions requests else [] := by
  induction requests generalizing hub backlog with
  | nil => exact ⟨backlog, there, by simp [received, heard, emissions]⟩
  | cons request rest ih =>
      have later := stays ∘ List.mem_cons_of_mem request
      have made : slot < hub.backlogs.length := lt_of_isLive (by simp [isLive, there])
      have here := sound.backlog?_handle made request
      rw [there] at here
      have opened := isOpen_handle hub request
      have next {now : List Event} (found : (hub.handle request).2.backlog? slot = some now)
          : ∃ unread,
              (hub.after (request :: rest)).backlog? slot = some unread
              ∧ received slot hub (request :: rest) ++ unread
                = (if request.isOf slot then handedOver (hub.handle request).1 else []) ++ now
                  ++ if hub.isOpen && decide (request ≠ .close) then emissions rest else [] := by
        obtain ⟨unread, left, all⟩ := ih (sound.handle request) found later
        rw [opened] at all
        exact ⟨unread, left, by rw [received_cons, List.append_assoc, all, List.append_assoc]⟩
      -- the end of the backlog is the front of what is still to be emitted; an emission fits both
      cases request with
      | subscribe => simpa [Request.isOf, emissions] using next here
      | emit event =>
          obtain ⟨unread, left, all⟩ := next here
          refine ⟨unread, left, all.trans ?_⟩
          cases hub.isOpen <;> simp [Request.isOf, emissions]
      | latest => simpa [Request.isOf, emissions] using next here
      | close => simpa [Request.isOf, emissions] using next here
      | mail asking own =>
          by_cases same : asking = slot
          · subst same
            have remains : own ≠ .unsubscribe := by
              rintro rfl
              exact stays List.mem_cons_self
            obtain ⟨left, leaves, parts⟩ := handedOver_mail there remains
            simp only [↓reduceIte, Option.bind_some, leaves] at here
            have whole : handedOver (hub.handle (.mail asking own)).1 ++ left = backlog := parts
            simpa [Request.isOf, emissions, whole] using next here
          · simp only [same, ↓reduceIte] at here
            simpa [Request.isOf, same, emissions] using next here

/-- Once a subscription is gone, nothing more is received. -/
theorem Sound.received_of_gone {hub : Hub} (sound : hub.Sound) {slot : Nat}
    (made : slot < hub.backlogs.length) (gone : hub.backlog? slot = none)
    (requests : List Request)
    : received slot hub requests = [] := by
  induction requests generalizing hub with
  | nil => rfl
  | cons request rest ih =>
      have here := sound.backlog?_handle made request
      have still : (hub.handle request).2.backlog? slot = none := by
        rw [here, gone]
        cases request with
        | mail asking own => simp
        | _ => rfl
      rw [received_cons,
        ih (sound.handle request) (Nat.lt_of_lt_of_le made (hub.length_handle_le request)) still,
        List.append_nil]
      cases request with
      | mail asking own =>
          simp only [Request.isOf, decide_eq_true_eq]
          split
          · rename_i same
            have refused := mail_of_gone (same ▸ gone) own
            exact congrArg (fun reply => handedOver reply.1) refused
          · rfl
      | _ => rfl

/-- A subscription hears what it would hear if it were the only one of a hub that is like its own
in what it shows to it. By induction on the requests, of which those that do not concern the
subscription change nothing for it.
-/
theorem Sound.heard_eq_alone {hub lone : Hub} (sound : hub.Sound) (soundLone : lone.Sound)
    {slot : Nat} (made : slot < hub.backlogs.length) (madeLone : 0 < lone.backlogs.length)
    (opened : lone.isOpen = hub.isOpen) (same : lone.backlog? 0 = hub.backlog? slot)
    (requests : List Request)
    : heard slot hub requests = heard 0 lone (requests.filterMap (Request.alone? slot)) := by
  induction requests generalizing hub lone with
  | nil => rfl
  | cons request rest ih =>
      have soundNext := sound.handle request
      have madeNext := Nat.lt_of_lt_of_le made (hub.length_handle_le request)
      have here := sound.backlog?_handle made request
      have openHere := isOpen_handle hub request
      -- a request that does not concern the subscription leaves the lone hub where it is
      have ignored (unlike : request.alone? slot = none)
          (unchanged : (hub.handle request).2.backlog? slot = hub.backlog? slot)
          (goesOn : request ≠ .close)
          : heard slot (hub.handle request).2 rest
            = heard 0 lone ((request :: rest).filterMap (Request.alone? slot)) := by
        rw [List.filterMap_cons_none unlike]
        refine ih soundNext soundLone madeNext madeLone ?_ ?_
        · rw [openHere, opened]
          simp [goesOn]
        · rw [unchanged, same]
      -- one that does concern it goes to both hubs
      have shared (alone : Request) (like : request.alone? slot = some alone)
          (openLike : (lone.handle alone).2.isOpen = (hub.handle request).2.isOpen)
          (backlogLike : (lone.handle alone).2.backlog? 0 = (hub.handle request).2.backlog? slot)
          : heard slot (hub.handle request).2 rest
            = heard 0 (lone.handle alone).2 (rest.filterMap (Request.alone? slot)) :=
        ih soundNext (soundLone.handle alone) madeNext
          (Nat.lt_of_lt_of_le madeLone (lone.length_handle_le alone)) openLike backlogLike
      cases request with
      | subscribe => exact ignored rfl here (by simp)
      | latest => exact ignored rfl here (by simp)
      | emit event =>
          refine shared (.emit event) rfl ?_ ?_
          · rw [isOpen_handle, openHere, opened]
          · rw [soundLone.backlog?_handle madeLone, here, same, opened]
      | close =>
          refine shared .close rfl ?_ ?_
          · rw [isOpen_handle, openHere, opened]
          · rw [soundLone.backlog?_handle madeLone, here, same]
      | mail asking own =>
          by_cases own? : asking = slot
          · subst own?
            have like : (Request.mail asking own).alone? asking = some (.mail 0 own) := by
              simp [Request.alone?]
            have answer : (lone.handle (.mail 0 own)).1 = (hub.handle (.mail asking own)).1 :=
              mail_answer_congr opened same own
            have next := shared (.mail 0 own) like
              (by rw [isOpen_handle, openHere, opened]; simp)
              (by rw [soundLone.backlog?_handle madeLone, here, same]; simp)
            rw [List.filterMap_cons_some like]
            simp only [heard, Request.isOf, decide_true, ↓reduceIte, answer, next]
          · have unlike : (Request.mail asking own).alone? slot = none := by
              simp [Request.alone?, own?]
            have next := ignored unlike (by rw [here]; simp [own?]) (by simp)
            rw [← next]
            simp [heard, Request.isOf, own?]

/-- Nothing is received after the own end of a subscription, nor by it. -/
theorem Sound.received_takeWhile {hub : Hub} (sound : hub.Sound) {slot : Nat}
    (made : slot < hub.backlogs.length) (requests : List Request)
    : received slot hub requests
      = received slot hub (requests.takeWhile (· ≠ .mail slot .unsubscribe)) := by
  induction requests generalizing hub with
  | nil => rfl
  | cons request rest ih =>
      have madeNext := Nat.lt_of_lt_of_le made (hub.length_handle_le request)
      by_cases ends : request = .mail slot .unsubscribe
      · subst ends
        have gone : (hub.handle (.mail slot .unsubscribe)).2.backlog? slot = none := by
          rw [sound.backlog?_handle made]
          cases hub.backlog? slot <;> simp [Mail.leaves]
        have answer : handedOver (hub.handle (.mail slot .unsubscribe)).1 = [] := by
          simp only [Hub.handle, Hub.mail]
          split <;> rfl
        rw [received_cons, (sound.handle _).received_of_gone madeNext gone, answer]
        simp [received, heard]
      · rw [List.takeWhile_cons_of_pos (by simpa using ends), received_cons, received_cons,
          ih (sound.handle request) madeNext]

/-- A hub that is not ended is open. -/
theorem isOpen_after_of_lasting {requests : List Request} (lasting : .close ∉ requests)
    : (({} : Hub).after requests).isOpen = true := by
  rw [isOpen_after]
  simpa using lasting

/-- In a hub on which at most one event was emitted before anybody came, the first subscription
starts with that event.
-/
theorem backlog?_after_seed (seed : Option Event)
    : ((({} : Hub).after (seed.toList.map .emit ++ [.subscribe])).isOpen = true)
      ∧ (({} : Hub).after (seed.toList.map .emit ++ [.subscribe])).backlog? 0
        = some seed.toList := by
  cases seed <;> exact ⟨rfl, rfl⟩

/-- Delivery is exact. A subscription that comes after some requests gets a number of its own, and
whatever happens later: up to its own end, what it has received and what it has not read yet are
together the latest event from before it came and all events emitted since, in order; it hears
that the hub has ended exactly when that is so and nothing is unread, and otherwise it gets what
is unread first; and it hears what it would hear if nobody else had ever subscribed. The latest
event is the last one emitted. By simulation of the hub with others by the hub without.
-/
theorem delivery_exact {early : List Request} (lasting : .close ∉ early) (late : List Request)
    : let hub := ({} : Hub).after early
      let slot := hub.backlogs.length
      let joined := hub.subscribe
      let seed := (emissions early).getLast?
      let stay := late.takeWhile (· ≠ .mail slot .unsubscribe)
      hub.handle .latest = (.event seed, hub)
      ∧ hub.handle .subscribe = (.number slot, joined)
      ∧ (∃ unread,
          (joined.after stay).backlog? slot = some unread
          ∧ received slot joined late ++ unread = seed.toList ++ emissions stay
          ∧ (((joined.after stay).mail slot .recv).1 = .closed
            ↔ .close ∈ stay ∧ unread = [])
          ∧ ∀ event rest, unread = event :: rest →
              ((joined.after stay).mail slot .recv).1 = .event (some event)
              ∧ ((joined.after stay).mail slot .recv).2.backlog? slot = some rest)
      ∧ heard slot joined late
        = heard 0 (({} : Hub).after (seed.toList.map .emit ++ [.subscribe]))
            (late.filterMap (Request.alone? slot)) := by
  intro hub slot joined seed stay
  have opened : hub.isOpen = true := isOpen_after_of_lasting lasting
  have latest : hub.latest = seed := by
    have last : hub.latest = seed.or none := latest_after rfl early lasting
    rwa [Option.or_none] at last
  have sound : joined.Sound := (sound_empty.after early).subscribe
  have there : joined.backlog? slot = some seed.toList := by
    rw [backlog?_subscribe, if_pos rfl, latest]
  have made : slot < joined.backlogs.length := lt_of_isLive (by simp [isLive, there])
  have remains : .mail slot .unsubscribe ∉ stay := fun member => by
    simpa using List.all_eq_true.mp List.all_takeWhile _ member
  refine ⟨by simp [handle, opened, latest], by simp [handle, opened, slot, joined], ?_, ?_⟩
  -- nothing is received after the own end, so it is enough to look at the requests before it
  · obtain ⟨unread, left, all⟩ := sound.received_append_backlog there stay remains
    refine ⟨unread, left, ?_, ?_, ?_⟩
    · have openJoined : joined.isOpen = true := opened
      rw [sound.received_takeWhile made late, all, openJoined, if_pos rfl]
    · rw [recv_eq_closed_iff left, isOpen_after]
      have openJoined : joined.isOpen = true := opened
      simp [openJoined]
    · rintro event rest rfl
      refine ⟨by simp [mail, left], ?_⟩
      rw [backlog?_mail left, if_pos rfl]
      rfl
  -- all that the subscription sees of the early requests is the seed and that the hub is open
  · obtain ⟨openLone, thereLone⟩ := backlog?_after_seed seed
    refine sound.heard_eq_alone (sound_empty.after _) made
      (lt_of_isLive (by simp [isLive, thereLone])) ?_ ?_ late
    · exact openLone.trans opened.symm
    · rw [thereLone, there]

/-- The second of two subscriptions comes after two events and reads one before the hub ends: it
gets the later of the two first, and the event emitted since from what is left of its backlog.
-/
theorem delivery_exact_second_subscriber
    : let early : List Request :=
        [.subscribe, .emit (.launchRequested { action := "old" }), .emit (.failed .updateRetries)]
      let late : List Request :=
        [.emit (.launchRequested { action := "new" }), .mail 1 .tryRecv, .mail 0 .unsubscribe,
          .close, .mail 1 .recv, .mail 1 .recv]
      .close ∉ early
      ∧ received 1 (({} : Hub).after early).subscribe late
        = [.failed .updateRetries, .launchRequested { action := "new" }] := by
  intro early late
  have lasting : .close ∉ early := by decide
  obtain ⟨-, -, ⟨unread, left, all, -⟩, -⟩ := delivery_exact lasting late
  have read : some [] = some unread := Eq.trans (by decide +kernel) left
  rw [← Option.some.inj read, List.append_nil] at all
  exact ⟨lasting, all⟩

end UpdaterLaunch.Hub
