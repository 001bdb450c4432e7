import Mathlib.Data.List.Forall2
import Mathlib.Data.List.Induction
import UpdaterLaunch.Proofs.Histories
import UpdaterLaunch.Registry

/-! What a registry answers, told from all that was ever done to it. For each name the last change
that settled what is installed under it counts, and of the suspensions after it the last; nothing
else does, and of the changes to other names nothing at all.
-/

namespace UpdaterLaunch

namespace Registry

-----------------------------------------------------------------------------------------
-- Histories
-----------------------------------------------------------------------------------------

/-- The registry after a row of changes. -/
def after (registry : Registry) (changes : List Change) : Registry := changes.foldl apply registry

/-- The name of the package that a change is about. -/
def Change.subject : Change → String
  | .install package => package.name
  | .uninstall name | .suspend name _ => name

/-- Whether a change puts a package under a name or takes it away. -/
def Change.settles (name : String) : Change → Bool
  | .install package => package.name = name
  | .uninstall other => other = name
  | .suspend .. => false

/-- Whether a change suspends the package of a name or wakes it up, if it does either. -/
def Change.suspends? (name : String) : Change → Option Bool
  | .suspend other suspended => if other = name then some suspended else none
  | _ => none

/-- The last change that settled what is installed under a name put a package there; it was
followed by the changes `since`.
-/
structure LastInstall (history : List Change) (name : String) (package : Package)
    (since : List Change) : Prop where
  named : package.name = name
  placed : ∃ before, history = before ++ .install package :: since
  unsettled : ∀ change ∈ since, change.settles name = false

/-- Whether the last change that suspended the package of a name or woke it up suspended it; no
such change leaves it awake.
-/
def suspendedBy (since : List Change) (name : String) : Bool :=
  (since.filterMap (·.suspends? name)).getLast?.getD false

/-- By a history, the package of a name starts a component for an action. -/
def Offers (history : List Change) (name action : String) : Prop :=
  ∃ package since,
    LastInstall history name package since
    ∧ action ∈ package.handledActions
    ∧ suspendedBy since name = false

-----------------------------------------------------------------------------------------
-- What changes do to one name
-----------------------------------------------------------------------------------------

/-- What a change makes of the package of a name. -/
def Change.effect (name : String) (change : Change) (now : Option Installed) : Option Installed :=
  match change with
  | .install package =>
      if package.name = name then
        some { handledActions := package.handledActions, stub := package.stub }
      else now
  | .uninstall other => if other = name then none else now
  | .suspend other suspended =>
      if other = name then now.map fun package => { package with suspended } else now

theorem get?_erase (registry : Registry) (name other : String)
    : (registry.erase name).get? other
      = if name = other then none else registry.get? other := by
  unfold erase get?
  dsimp only
  induction registry.packages with
  | nil => simp
  | cons entry rest ih =>
      obtain ⟨key, package⟩ := entry
      by_cases own : key = name
      · simp only [own, List.filter_cons, bne_self_eq_false, Bool.false_eq_true, ↓reduceIte, ih,
          lookup_cons_if]
        split <;> rfl
      · simp only [own, List.filter_cons, bne_iff_ne, ne_eq, not_false_eq_true, ↓reduceIte, ih,
          lookup_cons_if]
        by_cases seen : key = other
        · simp [← seen, Ne.symm own]
        · simp [seen]

theorem get?_put (registry : Registry) (name other : String) (package : Installed)
    : (registry.put name package).get? other
      = if name = other then some package else registry.get? other := by
  have rest := registry.get?_erase name other
  unfold get? at rest ⊢
  rw [put, lookup_cons_if, rest]
  split <;> rfl

/-- A change has its effect on each name. -/
theorem get?_apply (registry : Registry) (change : Change) (name : String)
    : (registry.apply change).get? name = change.effect name (registry.get? name) := by
  cases change with
  | install package => exact registry.get?_put ..
  | uninstall other => exact registry.get?_erase ..
  | suspend other suspended =>
      simp only [apply, suspend, Change.effect]
      by_cases own : other = name
      · subst own
        cases there : registry.get? other with
        | none => simp [there]
        | some package => simp [get?_put]
      · cases registry.get? other <;> simp [own, get?_put]

theorem ofPackages_eq (packages : List Package)
    : ofPackages packages = ({} : Registry).after (packages.map .install) := by
  rw [after, List.foldl_map]
  rfl

theorem after_append (registry : Registry) (changes more : List Change)
    : (registry.after changes).after more = registry.after (changes ++ more) := by
  rw [after, after, after, List.foldl_append]

-----------------------------------------------------------------------------------------
-- What is left of a history
-----------------------------------------------------------------------------------------

theorem suspendedBy_concat (since : List Change) (change : Change) (name : String)
    : suspendedBy (since ++ [change]) name
      = (change.suspends? name).getD (suspendedBy since name) := by
  rw [suspendedBy, suspendedBy, List.filterMap_append, List.getLast?_append]
  cases word : change.suspends? name <;> simp [word]

/-- A change that settles nothing for a name suspends its package at most. -/
theorem Change.effect_of_not_settles {change : Change} {name : String}
    (unsettling : change.settles name = false) (now : Option Installed)
    : change.effect name now
      = now.map fun package =>
          { package with suspended := (change.suspends? name).getD package.suspended } := by
  cases change with
  | install package => simp_all [settles, effect, suspends?]
  | uninstall other => simp_all [settles, effect, suspends?]
  | suspend other suspended => by_cases own : other = name <;> simp [effect, suspends?, own]

/-- With one more change, either that is the last install, or it settles nothing and the last
install is the one before.
-/
theorem lastInstall_concat {history : List Change} {change : Change} {name : String}
    {package : Package} {since : List Change}
    : LastInstall (history ++ [change]) name package since
      ↔ (package.name = name ∧ change = .install package ∧ since = [])
        ∨ (change.settles name = false
          ∧ ∃ earlier, since = earlier ++ [change] ∧ LastInstall history name package earlier) := by
  constructor
  · rintro ⟨named, ⟨before, placed⟩, unsettled⟩
    rcases split_concat placed with ⟨rfl, install, -⟩ | ⟨earlier, rfl, first⟩
    · exact .inl ⟨named, install.symm, rfl⟩
    · exact .inr ⟨unsettled _ (by simp), earlier, rfl, named, ⟨before, first⟩,
        fun change member => unsettled change (by simp [member])⟩
  · rintro (⟨named, rfl, rfl⟩ | ⟨unsettling, earlier, rfl, named, ⟨before, rfl⟩, unsettled⟩)
    · exact ⟨named, ⟨history, rfl⟩, by simp⟩
    · refine ⟨named, ⟨before, by simp⟩, ?_⟩
      intro change member
      rcases List.mem_append.mp member with member | member
      · exact unsettled change member
      · exact List.mem_singleton.mp member ▸ unsettling

/-- What is installed under a name is what the last install of a history put there, suspended as
the changes since then have it. By induction on the history from its end.
-/
theorem get?_of_history (history : List Change) (name : String) (installed : Installed)
    : (({} : Registry).after history).get? name = some installed
      ↔ ∃ package since,
          LastInstall history name package since
          ∧ installed
            = { handledActions := package.handledActions
                stub := package.stub
                suspended := suspendedBy since name } := by
  induction history using List.reverseRecOn generalizing installed with
  | nil =>
      constructor
      · intro absent
        cases absent
      · rintro ⟨package, since, ⟨-, ⟨before, placed⟩, -⟩, -⟩
        simp at placed
  | append_singleton history change ih =>
      have step : (({} : Registry).after (history ++ [change])).get? name
          = change.effect name ((({} : Registry).after history).get? name) := by
        rw [← after_append]
        exact get?_apply ..
      rw [step]
      simp only [lastInstall_concat]
      cases settled : change.settles name with
      | true =>
          cases change with
          | install package =>
              obtain named : package.name = name := by simpa [Change.settles] using settled
              simp [Change.effect, named, eq_comm, suspendedBy]
          | uninstall other =>
              obtain named : other = name := by simpa [Change.settles] using settled
              simp [Change.effect, named]
          | suspend other suspended => simp [Change.settles] at settled
      | false =>
          rw [Change.effect_of_not_settles settled]
          constructor
          · intro changed
            obtain ⟨prior, there, rfl⟩ := Option.map_eq_some_iff.mp changed
            obtain ⟨package, since, last, rfl⟩ := (ih prior).mp there
            exact ⟨package, since ++ [change], .inr ⟨rfl, since, rfl, last⟩,
              by rw [suspendedBy_concat]⟩
          · rintro ⟨package, since, ⟨named, rfl, rfl⟩ | ⟨-, earlier, rfl, last⟩, rfl⟩
            · simp [Change.settles, named] at settled
            · rw [(ih _).mpr ⟨package, earlier, last, rfl⟩, suspendedBy_concat]
              rfl

-----------------------------------------------------------------------------------------
-- All names at once
-----------------------------------------------------------------------------------------

/-- No name stands twice in a registry. -/
def Distinct (registry : Registry) : Prop := (registry.packages.map (·.1)).Nodup

theorem Distinct.erase {registry : Registry} (distinct : registry.Distinct) (name : String)
    : (registry.erase name).Distinct :=
  (List.filter_sublist.map _).nodup distinct

theorem Distinct.put {registry : Registry} (distinct : registry.Distinct) (name : String)
    (package : Installed)
    : (registry.put name package).Distinct := by
  refine List.nodup_cons.mpr ⟨?_, distinct.erase name⟩
  simp [Registry.erase]

theorem Distinct.apply {registry : Registry} (distinct : registry.Distinct) (change : Change)
    : (registry.apply change).Distinct := by
  cases change with
  | install package => exact distinct.put ..
  | uninstall name => exact distinct.erase name
  | suspend name suspended =>
      simp only [Registry.apply, suspend]
      split
      · exact distinct.put ..
      · exact distinct

/-- Changes keep names distinct, by induction on the row. -/
theorem Distinct.after {registry : Registry} (distinct : registry.Distinct)
    (changes : List Change)
    : (registry.after changes).Distinct := by
  induction changes generalizing registry with
  | nil => exact distinct
  | cons change rest ih => exact ih (distinct.apply change)

/-- Where names are distinct, what stands under a name is what is found there. -/
theorem Distinct.mem_packages_iff {registry : Registry} (distinct : registry.Distinct)
    (name : String) (package : Installed)
    : (name, package) ∈ registry.packages ↔ registry.get? name = some package :=
  mem_iff_lookup distinct name package

/-- A target that is not pinned is started if the package of some name starts it. -/
theorem Distinct.resolves_iff {registry : Registry} (distinct : registry.Distinct)
    (action : String) (extras : Extras)
    : registry.resolves { action, package := none, extras } = true
      ↔ ∃ name, registry.resolves { action, package := some name, extras } = true := by
  simp only [resolves, List.any_eq_true, Option.any_eq_true, Prod.exists, distinct.mem_packages_iff]

/-- A change that does not find its package is none. -/
theorem apply_of_not_finds {registry : Registry} {change : Change}
    (missing : registry.finds change = false)
    : registry.apply change = registry := by
  cases change with
  | install package => simp [finds] at missing
  | uninstall name =>
      have absent : registry.packages.lookup name = none := by simpa [finds, get?] using missing
      rw [apply, erase, List.filter_eq_self.mpr]
      intro entry member
      have other := List.lookup_eq_none_iff.mp absent entry member
      simpa using Ne.symm (bne_iff_ne.mp other)
  | suspend name suspended =>
      have absent : registry.get? name = none := by simpa [finds] using missing
      simp [apply, suspend, absent]

-----------------------------------------------------------------------------------------
-- Histories that make no difference
-----------------------------------------------------------------------------------------

/-- Two packages that differ in the order of their actions at most, or in how often one stands. -/
structure AlikePackages (one other : Package) : Prop where
  name : one.name = other.name
  stub : one.stub = other.stub
  actions : ∀ action, action ∈ one.handledActions ↔ action ∈ other.handledActions

/-- Two changes that differ in the installed packages at most, which are alike. -/
inductive AlikeChanges : Change → Change → Prop
  | install {one other : Package} (alike : AlikePackages one other) :
      AlikeChanges (.install one) (.install other)
  | uninstall (name : String) : AlikeChanges (.uninstall name) (.uninstall name)
  | suspend (name : String) (suspended : Bool) :
      AlikeChanges (.suspend name suspended) (.suspend name suspended)

/-- Two installed packages that answer every question alike. -/
structure AlikeInstalled (one other : Installed) : Prop where
  stub : one.stub = other.stub
  suspended : one.suspended = other.suspended
  actions : ∀ action, action ∈ one.handledActions ↔ action ∈ other.handledActions

theorem AlikeInstalled.resolves {one other : Installed} (alike : AlikeInstalled one other)
    (action : String)
    : one.resolves action = other.resolves action := by
  rw [Installed.resolves, Installed.resolves, alike.suspended, Bool.eq_iff_iff]
  simp [alike.actions action]

/-- Changes that are alike have effects that are alike. -/
theorem AlikeChanges.effect {one other : Change} (alike : AlikeChanges one other) (name : String)
    {now next : Option Installed} (start : Option.Rel AlikeInstalled now next)
    : Option.Rel AlikeInstalled (one.effect name now) (other.effect name next) := by
  cases alike with
  | install alike =>
      simp only [Change.effect, alike.name]
      split
      · exact .some ⟨alike.stub, rfl, alike.actions⟩
      · exact start
  | uninstall other =>
      simp only [Change.effect]
      split
      · exact .none
      · exact start
  | suspend other suspended =>
      simp only [Change.effect]
      split
      · cases start with
        | none => exact .none
        | some alike => exact .some ⟨alike.stub, rfl, alike.actions⟩
      · exact start

/-- A change has no effect on other names. -/
theorem Change.effect_of_ne (change : Change) {name : String} (other : change.subject ≠ name)
    (now : Option Installed)
    : change.effect name now = now := by
  cases change <;> exact if_neg other

/-- Only the changes to a name have effects on it, by induction on the row. -/
theorem get?_after_filter (changes : List Change) {one other : Registry} {name : String}
    (start : one.get? name = other.get? name)
    : (one.after (changes.filter (·.subject = name))).get? name
      = (other.after changes).get? name := by
  induction changes generalizing one other with
  | nil => exact start
  | cons change rest ih =>
      rw [List.filter_cons]
      by_cases own : change.subject = name
      · simp only [own, decide_true, ↓reduceIte]
        refine ih ?_
        rw [get?_apply, get?_apply, start]
      · simp only [own, decide_false, Bool.false_eq_true, ↓reduceIte]
        refine ih ?_
        rw [get?_apply, change.effect_of_ne own, start]

/-- Rows of changes that are alike leave packages that are alike, by induction on the rows. -/
theorem get?_after_of_alike {changes others : List Change}
    (alike : List.Forall₂ AlikeChanges changes others) (name : String) {one other : Registry}
    (start : Option.Rel AlikeInstalled (one.get? name) (other.get? name))
    : Option.Rel AlikeInstalled ((one.after changes).get? name)
        ((other.after others).get? name) := by
  induction alike generalizing one other with
  | nil => exact start
  | cons first _ ih =>
      apply ih
      rw [get?_apply, get?_apply]
      exact first.effect name start

/-- Two devices that answer all questions about a name alike. -/
structure AgreeOn (name : String) (one other : Device) : Prop where
  isInstalled : one.isInstalled name = other.isInstalled name
  isStub : one.isStub name = other.isStub name
  resolves (action : String) (extras : Extras) (user : User) :
    one.resolves { action, package := some name, extras } user
      = other.resolves { action, package := some name, extras } user

theorem agreeOn_of_alike {one other : Registry} {name : String}
    (alike : Option.Rel AlikeInstalled (one.get? name) (other.get? name))
    : AgreeOn name one.device other.device := by
  generalize here : one.get? name = first at alike
  generalize there : other.get? name = second at alike
  cases alike with
  | none => constructor <;> simp [device, isInstalled, isStub, resolves, here, there]
  | some alike =>
      constructor
      · simp [device, isInstalled, here, there]
      · simp [device, isStub, here, there, alike.stub]
      · simp [device, resolves, here, there, alike.resolves]

/-- Devices with distinct names that agree on each of them agree on everything. -/
theorem answer_of_agree {one other : Registry} (distinct : one.Distinct)
    (others : other.Distinct) (agree : ∀ name, AgreeOn name one.device other.device)
    (query : Query)
    : one.device.answer query = other.device.answer query := by
  cases query with
  | isInstalled package => exact (agree package).isInstalled
  | isStub package => exact (agree package).isStub
  | resolves target user =>
      obtain ⟨action, package, extras⟩ := target
      cases package with
      | some name => exact (agree name).resolves action extras user
      | none =>
          have each (name : String)
              : one.resolves { action, package := some name, extras }
                = other.resolves { action, package := some name, extras } :=
            (agree name).resolves action extras user
          rw [Device.answer, Device.answer, device, device, Bool.eq_iff_iff,
            distinct.resolves_iff, others.resolves_iff]
          simp only [each]

-----------------------------------------------------------------------------------------
-- The law of the last write
-----------------------------------------------------------------------------------------

theorem distinct_empty : ({} : Registry).Distinct := List.nodup_nil

/-- A package of a name is there if the last change that settled the name put one there. -/
theorem isSome_get?_of_history (history : List Change) (name : String)
    : ((({} : Registry).after history).get? name).isSome = true
      ↔ ∃ package since, LastInstall history name package since := by
  rw [Option.isSome_iff_exists]
  constructor
  · rintro ⟨installed, there⟩
    obtain ⟨package, since, last, -⟩ := (get?_of_history history name installed).mp there
    exact ⟨package, since, last⟩
  · rintro ⟨package, since, last⟩
    exact ⟨_, (get?_of_history history name _).mpr ⟨package, since, last, rfl⟩⟩

/-- What holds of the package of a name holds of the last one installed, as it is by then. -/
theorem any_get?_of_history (history : List Change) (name : String) (test : Installed → Bool)
    : ((({} : Registry).after history).get? name).any test = true
      ↔ ∃ package since,
          LastInstall history name package since
          ∧ test
              { handledActions := package.handledActions
                stub := package.stub
                suspended := suspendedBy since name } := by
  rw [Option.any_eq_true]
  constructor
  · rintro ⟨installed, there, holds⟩
    obtain ⟨package, since, last, rfl⟩ := (get?_of_history history name installed).mp there
    exact ⟨package, since, last, holds⟩
  · rintro ⟨package, since, last, holds⟩
    exact ⟨_, (get?_of_history history name _).mpr ⟨package, since, last, rfl⟩, holds⟩

/-- A target pinned to a name is started if the name offers its action. -/
theorem resolves_of_history (history : List Change) (name action : String) (extras : Extras)
    : (({} : Registry).after history).resolves { action, package := some name, extras } = true
      ↔ Offers history name action := by
  rw [resolves, any_get?_of_history]
  simp [Installed.resolves, Offers, and_comm]

/-- The last write counts. A registry is filled with packages and changed at will; then a package of
a name is installed if the last change that put one there or took it away put one there, and that
one is or is no stub. A pinned target is started if that package handles its action and the last
suspension since then, if there was one, is lifted; one that is not pinned is started if the package
of some name does so. A package is found for a change exactly if it is installed by then, and a
change that does not find it changes nothing. Neither user nor extras make a difference, nor order
or repetition of the actions that a package handles, nor, for what is asked about one name, the
changes to all others.
-/
theorem answers_of_history (packages : List Package) (changes : List Change)
    : let history := packages.map .install ++ changes
      let registry := (ofPackages packages).after changes
      let device := registry.device
      (∀ name, device.isInstalled name = true
        ↔ ∃ package since, LastInstall history name package since)
      ∧ (∀ name, device.isStub name = true
        ↔ ∃ package since, LastInstall history name package since ∧ package.stub = true)
      ∧ (∀ name action extras user,
          device.resolves { action, package := some name, extras } user = true
          ↔ Offers history name action)
      ∧ (∀ action extras user,
          device.resolves { action, package := none, extras } user = true
          ↔ ∃ name, Offers history name action)
      ∧ (∀ name change, change = .uninstall name ∨ (∃ suspended, change = .suspend name suspended)
          → (registry.finds change = true
              ↔ ∃ package since, LastInstall history name package since)
            ∧ (registry.finds change = false → registry.apply change = registry))
      ∧ ∀ otherPackages otherChanges,
          let others := otherPackages.map .install ++ otherChanges
          let other := ((ofPackages otherPackages).after otherChanges).device
          (List.Forall₂ AlikeChanges history others
            → ∀ query, device.answer query = other.answer query)
          ∧ ∀ name,
              List.Forall₂ AlikeChanges (history.filter (·.subject = name))
                (others.filter (·.subject = name))
              → AgreeOn name device other := by
  intro history registry device
  have filled (packages changes)
      : (ofPackages packages).after changes
        = ({} : Registry).after (packages.map .install ++ changes) := by
    rw [ofPackages_eq, after_append]
  have reached : registry = ({} : Registry).after history := filled packages changes
  refine ⟨?_, ?_, ?_, ?_, ?_, ?_⟩
  · intro name
    rw [← isSome_get?_of_history, ← reached]
    rfl
  · intro name
    rw [← any_get?_of_history history name (·.stub), ← reached]
    rfl
  · intro name action extras user
    rw [← resolves_of_history history name action extras, ← reached]
    rfl
  · intro action extras user
    have distinct : registry.Distinct := reached ▸ distinct_empty.after history
    simp only [← resolves_of_history history _ action extras, ← reached]
    exact distinct.resolves_iff action extras
  · intro name change about
    refine ⟨?_, apply_of_not_finds⟩
    rw [← isSome_get?_of_history, ← reached]
    rcases about with rfl | ⟨suspended, rfl⟩ <;> rfl
  · intro otherPackages otherChanges others other
    have there := filled otherPackages otherChanges
    have emptied (name : String)
        : Option.Rel AlikeInstalled (({} : Registry).get? name) (({} : Registry).get? name) :=
      .none
    constructor
    · intro alike
      refine answer_of_agree (reached ▸ distinct_empty.after history)
        (there ▸ distinct_empty.after others) fun name => agreeOn_of_alike ?_
      rw [reached, there]
      exact get?_after_of_alike alike name (emptied name)
    · intro name alike
      refine agreeOn_of_alike ?_
      rw [reached, there, ← get?_after_filter history rfl, ← get?_after_filter others rfl]
      exact get?_after_of_alike alike name (emptied name)

/-- A stub is suspended, then replaced by a package that is suspended and woken up, while the only
other package goes: the new one is started, pinned or not. Without the other package, and with the
actions in another order and one of them twice, the answers about the name are the same.
-/
theorem answers_of_history_replaced
    : let stub : Package := { name := "holder", handledActions := ["wait"], stub := true }
      let packages : List Package := [stub, { name := "other" }]
      let changes : List Change :=
        [.suspend "holder" true,
          .install { name := "holder", handledActions := ["run", "stop"] },
          .suspend "holder" true, .uninstall "other", .suspend "holder" false]
      let others : List Change :=
        [.suspend "holder" true,
          .install { name := "holder", handledActions := ["stop", "run", "stop"] },
          .suspend "holder" true, .suspend "holder" false]
      let registry := (ofPackages packages).after changes
      let other := (ofPackages [stub]).after others
      Offers (packages.map .install ++ changes) "holder" "run"
      ∧ (∀ user, registry.device.resolves { action := "run", package := some "holder" } user = true)
      ∧ (∀ user, registry.device.resolves { action := "run" } user = true)
      ∧ registry.finds (.suspend "other" true) = false
      ∧ registry.apply (.suspend "other" true) = registry
      ∧ AgreeOn "holder" registry.device other.device := by
  intro stub packages changes others registry other
  obtain ⟨-, -, pinned, free, found, same⟩ := answers_of_history packages changes
  have offers : Offers (packages.map .install ++ changes) "holder" "run" :=
    ⟨{ name := "holder", handledActions := ["run", "stop"] },
      [.suspend "holder" true, .uninstall "other", .suspend "holder" false],
      ⟨rfl, ⟨[.install stub, .install { name := "other" }, .suspend "holder" true], rfl⟩,
        by decide⟩,
      by decide, by decide⟩
  have missing : registry.finds (.suspend "other" true) = false := by decide
  refine ⟨offers, fun user => (pinned _ _ _ user).mpr offers,
    fun user => (free _ _ user).mpr ⟨_, offers⟩, missing,
    (found "other" _ (.inr ⟨true, rfl⟩)).2 missing, (same [stub] others).2 "holder" ?_⟩
  have alike : AlikePackages { name := "holder", handledActions := ["run", "stop"] }
      { name := "holder", handledActions := ["stop", "run", "stop"] } :=
    ⟨rfl, rfl, by grind⟩
  exact .cons (.install ⟨rfl, rfl, fun _ => .rfl⟩)
    (.cons (.suspend ..) (.cons (.install alike) (.cons (.suspend ..) (.cons (.suspend ..) .nil))))

end Registry

end UpdaterLaunch
