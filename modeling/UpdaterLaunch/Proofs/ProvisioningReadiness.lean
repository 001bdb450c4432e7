import UpdaterLaunch.Delegation
import UpdaterLaunch.Registry

/-! The role holder is asked to take over only where it can. What a readiness check looks for on a
device covers every target that is made for the role holder afterwards, and nothing else stands in
its way. The check asks its questions in a fixed order, and none whose answer it does not need.
-/

namespace UpdaterLaunch

/-- All questions are answered with yes if none of them is denied, by induction on the questions. -/
theorem Device.askAll_iff (device : Device) (queries : List Query)
    : (device.askAll queries).2 = true ↔ ∀ query ∈ queries, device.answer query = true := by
  induction queries with
  | nil => simp [askAll]
  | cons query rest ih =>
      rw [askAll, List.forall_mem_cons, ← ih]
      cases device.answer query <;> simp

/-- What the role holder does instead of a provisioning action is required of it. -/
theorem Action.delegated?_required {action mapped : String}
    (delegated : delegated? action = some mapped)
    : mapped ∈ requiredOfRoleHolder := by
  unfold delegated? at delegated
  split at delegated
  · obtain rfl := Option.some.inj delegated
    exact List.mem_cons_self
  · split at delegated
    · obtain rfl := Option.some.inj delegated
      exact List.mem_cons_of_mem _ List.mem_cons_self
    · cases delegated

/-- Finalization is required of the role holder, too. -/
theorem Action.roleHolderFinalization_required
    : roleHolderFinalization ∈ requiredOfRoleHolder :=
  List.mem_cons_of_mem _ (List.mem_cons_of_mem _ List.mem_cons_self)

namespace RoleHolder

variable {holder : RoleHolder} {provisioning : Target}

/-- The role holder is ready if nothing that a readiness check looks at speaks against it. -/
theorem ready_iff (holder : RoleHolder) (device : Device) (provisioning : Target)
    : (holder.readiness device provisioning).ready = true
      ↔ holder.delegation = true
        ∧ (Action.delegated? provisioning.action).isSome = true
        ∧ device.isInstalled holder.package = true
        ∧ device.isStub holder.package = false
        ∧ ∀ action ∈ Action.requiredOfRoleHolder,
            device.resolves (holder.target action) holder.user = true := by
  have required : (device.askAll holder.actionQueries).2 = true
      ↔ ∀ action ∈ Action.requiredOfRoleHolder,
          device.resolves (holder.target action) holder.user = true := by
    rw [Device.askAll_iff, actionQueries, List.forall_mem_map]
    rfl
  rw [← required, Readiness.ready, readiness]
  cases on : holder.delegation with
  | false => simp
  | true =>
      cases mapped : Action.delegated? provisioning.action with
      | none => simp
      | some action =>
          cases there : device.isInstalled holder.package with
          | false => simp
          | true =>
              cases stub : device.isStub holder.package with
              | true => simp
              | false => cases all : (device.askAll holder.actionQueries).2 <;> simp [all]

/-- The target for a provisioning action that is handed over: the role holder's own action, pinned,
with all extras that were there.
-/
theorem provisioningTarget_of_delegated (holder : RoleHolder) {action : String}
    (delegated : Action.delegated? provisioning.action = some action)
    : holder.provisioningTarget provisioning
      = .ok { action, package := some holder.package, extras := provisioning.extras } := by
  have extras : Extras.empty.merge provisioning.extras = provisioning.extras :=
    Extras.ofList_entries _
  simp only [provisioningTarget, delegated, target, Target.withPackage, Target.withExtras, extras]

/-- There is no target exactly for the provisioning actions that are not handed over. -/
theorem provisioningTarget_cases (holder : RoleHolder) (provisioning : Target)
    : (∃ action,
        Action.delegated? provisioning.action = some action
        ∧ holder.provisioningTarget provisioning
          = .ok { action, package := some holder.package, extras := provisioning.extras })
      ∨ (Action.delegated? provisioning.action = none
        ∧ holder.provisioningTarget provisioning
          = .error (.unsupportedProvisioningAction provisioning.action)) := by
  cases delegated : Action.delegated? provisioning.action with
  | some action => exact .inl ⟨action, rfl, holder.provisioningTarget_of_delegated delegated⟩
  | none => exact .inr ⟨rfl, by simp only [provisioningTarget, delegated]⟩

/-- Readiness and targets agree on every device. There is a role holder for every name that is not
empty. If it is ready for a provisioning, then there is a target for it, and the packages start that
target and the one for finalization, for every user. If delegation is on, there is a target, and the
role holder is installed, no stub, not suspended and handles all that is required, then it is ready.
A target is pinned to the role holder, whatever the provisioning was pinned to, with exactly the
extras of the provisioning. Where there is none, the error names the provisioning action, and the
role holder is ready on no device.
-/
theorem readiness_agrees {package : String} (named : package ≠ "") (delegation : Bool) (user : User)
    (registry : Registry) (provisioning : Target)
    : ∃ holder,
        ofName package delegation user = .ok holder
        ∧ ((holder.readiness registry.device provisioning).ready = true
          → ∃ target,
              holder.provisioningTarget provisioning = .ok target
              ∧ ∀ anyone,
                  registry.device.resolves target anyone = true
                  ∧ registry.device.resolves holder.finalizationTarget anyone = true)
        ∧ (∀ target installed,
            delegation = true
            → holder.provisioningTarget provisioning = .ok target
            → registry.get? package = some installed
            → installed.stub = false
            → installed.suspended = false
            → (∀ action ∈ Action.requiredOfRoleHolder, action ∈ installed.handledActions)
            → (holder.readiness registry.device provisioning).ready = true)
        ∧ (∀ target,
            holder.provisioningTarget provisioning = .ok target
            → target.package = some package ∧ target.extras = provisioning.extras)
        ∧ ∀ error,
            holder.provisioningTarget provisioning = .error error
            → error = .unsupportedProvisioningAction provisioning.action
              ∧ ∀ device, (holder.readiness device provisioning).ready = false := by
  refine ⟨⟨package, named, delegation, user⟩, dif_neg named, ?_, ?_, ?_, ?_⟩
  · intro ready
    obtain ⟨-, delegated, -, -, resolved⟩ := (ready_iff _ _ _).mp ready
    obtain ⟨action, delegated⟩ := Option.isSome_iff_exists.mp delegated
    refine ⟨_, provisioningTarget_of_delegated _ delegated, fun anyone => ⟨?_, ?_⟩⟩
    · exact resolved action (Action.delegated?_required delegated)
    · exact resolved _ Action.roleHolderFinalization_required
  · intro target installed on made there stub awake handled
    obtain ⟨action, delegated, -⟩ | ⟨-, failed⟩ := provisioningTarget_cases _ provisioning
    · refine (ready_iff _ _ _).mpr ⟨on, by simp [delegated], ?_, ?_, ?_⟩
      · simp [Registry.device, Registry.isInstalled, there]
      · simp [Registry.device, Registry.isStub, there, stub]
      · intro action required
        have starts : installed.resolves action = true := by
          simpa [Installed.resolves, awake] using handled action required
        simp [Registry.device, Registry.resolves, RoleHolder.target, Target.withPackage, there,
          starts]
    · cases failed.symm.trans made
  · intro target made
    obtain ⟨action, -, is⟩ | ⟨-, failed⟩ := provisioningTarget_cases _ provisioning
    · obtain rfl := Except.ok.inj (is.symm.trans made)
      exact ⟨rfl, rfl⟩
    · cases failed.symm.trans made
  · intro error failed
    obtain ⟨action, -, is⟩ | ⟨missing, fails⟩ := provisioningTarget_cases _ provisioning
    · cases is.symm.trans failed
    · refine ⟨(Except.error.inj (fails.symm.trans failed)).symm, fun device => ?_⟩
      refine eq_false_of_ne_true fun ready => ?_
      obtain ⟨-, delegated, -⟩ := (ready_iff _ _ _).mp ready
      simp [missing] at delegated

/-- A role holder that was a stub is replaced, suspended and woken up again: a provisioning that was
pinned elsewhere is handed over to it, with its extras. Financing a device is not.
-/
theorem readiness_agrees_once_awake
    : let holder : RoleHolder := ⟨"holder", by decide, true, .system⟩
      let installed : List Package :=
        [{ name := "holder", stub := true },
          { name := "holder", handledActions := Action.requiredOfRoleHolder }]
      let registry :=
        ((Registry.ofPackages installed).suspend "holder" true).suspend "holder" false
      let provisioning : Target :=
        { action := Action.managedProfile
          package := some "elsewhere"
          extras := .ofList [("b", "2"), ("a", "1")] }
      let financed : Target := { action := Action.financedDevice }
      ofName "holder" true .system = .ok holder
      ∧ (holder.readiness registry.device provisioning).ready = true
      ∧ (∃ target,
          holder.provisioningTarget provisioning = .ok target
          ∧ target.package = some "holder"
          ∧ target.extras = provisioning.extras
          ∧ ∀ anyone, registry.device.resolves target anyone = true)
      ∧ holder.provisioningTarget financed
        = .error (.unsupportedProvisioningAction financed.action)
      ∧ ∀ device, (holder.readiness device financed).ready = false := by
  intro holder installed registry provisioning financed
  have made : ofName "holder" true .system = .ok holder := rfl
  obtain ⟨one, madeOne, only, ready, pinned, -⟩ :=
    readiness_agrees holder.nonempty true .system registry provisioning
  obtain ⟨other, madeOther, -, -, -, refused⟩ :=
    readiness_agrees holder.nonempty true .system registry financed
  obtain rfl : holder = one := Except.ok.inj (made.symm.trans madeOne)
  obtain rfl : holder = other := Except.ok.inj (made.symm.trans madeOther)
  have delegated : Action.delegated? provisioning.action
      = some Action.roleHolderManagedProfile := by
    decide
  have target := holder.provisioningTarget_of_delegated delegated
  have there : registry.get? "holder"
      = some { handledActions := Action.requiredOfRoleHolder, stub := false } := by
    decide
  have able := ready _ _ rfl target there rfl rfl fun _ => id
  have fails : holder.provisioningTarget financed
      = .error (.unsupportedProvisioningAction financed.action) :=
    rfl
  obtain ⟨same, is, resolved⟩ := only able
  exact ⟨made, able, ⟨same, is, (pinned same is).1, (pinned same is).2,
    fun anyone => (resolved anyone).1⟩, fails, (refused _ fails).2⟩

end RoleHolder

-----------------------------------------------------------------------------------------
-- What a readiness check asks
-----------------------------------------------------------------------------------------

/-- What is asked of questions in a row: all of them if none is denied, or else those up to the
first that is denied, with this one.
-/
def Device.AsksInOrder (device : Device) (queries asked : List Query) : Prop :=
  ((∀ query ∈ queries, device.answer query = true) ∧ asked = queries)
  ∨ ∃ granted denied rest,
      queries = granted ++ denied :: rest
      ∧ (∀ query ∈ granted, device.answer query = true)
      ∧ device.answer denied = false
      ∧ asked = granted ++ [denied]

/-- By induction on the questions: one that is granted comes before what is asked of the rest. -/
theorem Device.askAll_inOrder (device : Device) (queries : List Query)
    : device.AsksInOrder queries (device.askAll queries).1 := by
  induction queries with
  | nil => exact .inl ⟨by simp, rfl⟩
  | cons query rest ih =>
      rw [askAll]
      cases answer : device.answer query with
      | false => exact .inr ⟨[], query, rest, rfl, by simp, answer, rfl⟩
      | true =>
          rcases ih with ⟨all, asked⟩ | ⟨granted, denied, unasked, split, all, no, asked⟩
          · refine .inl ⟨List.forall_mem_cons.mpr ⟨answer, all⟩, ?_⟩
            simp [asked]
          · refine .inr ⟨query :: granted, denied, unasked, by rw [split, List.cons_append],
              List.forall_mem_cons.mpr ⟨answer, all⟩, no, ?_⟩
            simp [asked]

/-- A device that answers what is asked alike is asked alike, by induction on the questions. -/
theorem Device.askAll_congr {device other : Device} {queries : List Query}
    (alike : ∀ query ∈ (device.askAll queries).1, other.answer query = device.answer query)
    : other.askAll queries = device.askAll queries := by
  induction queries with
  | nil => rfl
  | cons query rest ih =>
      rw [askAll] at alike ⊢
      rw [askAll]
      cases answer : device.answer query with
      | false =>
          rw [answer] at alike
          have first : other.answer query = device.answer query :=
            alike query (List.mem_singleton.mpr rfl)
          rw [first, answer]
          rfl
      | true =>
          rw [answer] at alike
          obtain ⟨first, later⟩ := List.forall_mem_cons.mp alike
          rw [first, answer, ih later]

theorem Action.delegated?_isSome_iff (action : String)
    : (delegated? action).isSome = true ↔ action = managedProfile ∨ action = trustedSource := by
  unfold delegated?
  split
  · simp [*]
  · split <;> simp [*]

namespace RoleHolder

variable {holder : RoleHolder} {device : Device} {provisioning : Target}

/-- A provisioning that is not handed over at all takes no question, whatever the device is. -/
theorem readiness_of_not_delegated
    (unasked
      : ¬ (holder.delegation = true ∧ (Action.delegated? provisioning.action).isSome = true))
    : ∃ cause, ∀ device, holder.readiness device provisioning = { cause := some cause } := by
  cases on : holder.delegation with
  | false => exact ⟨.delegationOff, fun device => by simp [readiness, on]⟩
  | true =>
      have unmapped : Action.delegated? provisioning.action = none := by simpa [on] using unasked
      exact ⟨.unsupportedAction provisioning.action,
        fun device => by simp [readiness, on, unmapped]⟩

/-- A provisioning that may be handed over takes the questions whether the role holder is installed,
is a stub and handles what is required, each only if the answers so far leave it open.
-/
theorem queries_of_delegated (on : holder.delegation = true)
    (mapped : (Action.delegated? provisioning.action).isSome = true)
    : (holder.readiness device provisioning).queries
      = .isInstalled holder.package
        :: if device.isInstalled holder.package = true then
            .isStub holder.package
              :: if device.isStub holder.package = true then []
                else (device.askAll holder.actionQueries).1
          else [] := by
  obtain ⟨action, mapped⟩ := Option.isSome_iff_exists.mp mapped
  simp only [readiness, on, mapped, Bool.not_true, Option.isNone_some, Bool.false_eq_true,
    ↓reduceIte]
  cases device.isInstalled holder.package with
  | false => rfl
  | true => cases device.isStub holder.package <;> rfl

/-- On a device that answers the questions alike the check takes the same course. -/
theorem readiness_congr {other : Device}
    (alike
      : ∀ query ∈ (holder.readiness device provisioning).queries,
          other.answer query = device.answer query)
    : holder.readiness other provisioning = holder.readiness device provisioning := by
  by_cases asked : holder.delegation = true
      ∧ (Action.delegated? provisioning.action).isSome = true
  · obtain ⟨on, mapped⟩ := asked
    rw [queries_of_delegated on mapped] at alike
    obtain ⟨action, mapped⟩ := Option.isSome_iff_exists.mp mapped
    obtain ⟨installed, alike⟩ := List.forall_mem_cons.mp alike
    have installed : other.isInstalled holder.package = device.isInstalled holder.package :=
      installed
    simp only [readiness, on, mapped, Bool.not_true, Option.isNone_some, Bool.false_eq_true,
      ↓reduceIte, installed]
    cases there : device.isInstalled holder.package with
    | false => rfl
    | true =>
        rw [if_pos there] at alike
        obtain ⟨stub, alike⟩ := List.forall_mem_cons.mp alike
        have stub : other.isStub holder.package = device.isStub holder.package := stub
        rw [stub]
        cases hollow : device.isStub holder.package with
        | true => rfl
        | false =>
            rw [if_neg (by simp [hollow])] at alike
            rw [Device.askAll_congr alike]
  · obtain ⟨cause, course⟩ := readiness_of_not_delegated asked
    rw [course, course]

/-- A readiness check and its questions. The role holder of a name is ready exactly if delegation is
on, the provisioning action is one of the two that are handed over, and the role holder is
installed, no stub, and handles all that is required for its user. The questions come in this order,
and none is asked that is not needed: nothing of a provisioning that is not handed over, whether it
is a stub only if it is installed, and what it handles only if it is no stub, action by action up to
the first one refused. So what else the device would answer makes no difference; nor does what the
provisioning is pinned to, or its extras.
-/
theorem readiness_asks_in_order {package : String} (named : package ≠ "") (delegation : Bool)
    (user : User) (device : Device) (provisioning : Target)
    : let handedOver :=
        delegation = true
        ∧ (provisioning.action = Action.managedProfile
          ∨ provisioning.action = Action.trustedSource)
      let required (action : String) : Target := { action, package := some package }
      ∃ holder,
        ofName package delegation user = .ok holder
        ∧ ((holder.readiness device provisioning).ready = true
          ↔ handedOver
            ∧ device.isInstalled package = true
            ∧ device.isStub package = false
            ∧ ∀ action ∈ Action.requiredOfRoleHolder,
                device.resolves (required action) user = true)
        ∧ (¬ handedOver → (holder.readiness device provisioning).queries = [])
        ∧ (handedOver
          → device.isInstalled package = false
          → (holder.readiness device provisioning).queries = [.isInstalled package])
        ∧ (handedOver
          → device.isInstalled package = true
          → device.isStub package = true
          → (holder.readiness device provisioning).queries
            = [.isInstalled package, .isStub package])
        ∧ (handedOver
          → device.isInstalled package = true
          → device.isStub package = false
          → ∃ asked,
              device.AsksInOrder
                (Action.requiredOfRoleHolder.map fun action => .resolves (required action) user)
                asked
              ∧ (holder.readiness device provisioning).queries
                = .isInstalled package :: .isStub package :: asked)
        ∧ (∀ other : Device,
            (∀ query ∈ (holder.readiness device provisioning).queries,
              other.answer query = device.answer query)
            → holder.readiness other provisioning = holder.readiness device provisioning)
        ∧ ∀ other : Target,
            other.action = provisioning.action
            → holder.readiness device other = holder.readiness device provisioning := by
  intro handedOver required
  let holder : RoleHolder := ⟨package, named, delegation, user⟩
  have delegated : handedOver
      ↔ holder.delegation = true
        ∧ (Action.delegated? provisioning.action).isSome = true := by
    rw [Action.delegated?_isSome_iff]
  refine ⟨holder, dif_neg named, ?_, ?_, ?_, ?_, ?_, fun _ => readiness_congr, ?_⟩
  · rw [ready_iff, delegated, and_assoc]
    rfl
  · intro unasked
    obtain ⟨cause, course⟩ := readiness_of_not_delegated (mt delegated.mpr unasked)
    rw [course]
  · intro asked missing
    obtain ⟨on, mapped⟩ := delegated.mp asked
    rw [queries_of_delegated on mapped, if_neg (by simpa using missing)]
  · intro asked installed stub
    obtain ⟨on, mapped⟩ := delegated.mp asked
    rw [queries_of_delegated on mapped, if_pos installed, if_pos stub]
  · intro asked installed real
    obtain ⟨on, mapped⟩ := delegated.mp asked
    refine ⟨_, device.askAll_inOrder holder.actionQueries, ?_⟩
    rw [queries_of_delegated on mapped, if_pos installed, if_neg (by simpa using real)]
  · intro other same
    simp only [readiness, same]

/-- A role holder that handles the first required action only is asked for the second one, too, but
not for the third. The provisioning is pinned elsewhere and has an extra.
-/
theorem readiness_asks_in_order_until_refused
    : let device : Device :=
        { isInstalled := fun package => package = "holder"
          isStub := fun _ => false
          resolves := fun target _ => target.action = Action.roleHolderManagedProfile }
      let provisioning : Target :=
        { action := Action.trustedSource
          package := some "elsewhere"
          extras := .ofList [("key", "value")] }
      let question (action : String) : Query :=
        .resolves { action, package := some "holder" } .system
      ∃ holder,
        ofName "holder" true .system = .ok holder
        ∧ (holder.readiness device provisioning).ready = false
        ∧ (∃ asked,
            device.AsksInOrder (Action.requiredOfRoleHolder.map question) asked
            ∧ (holder.readiness device provisioning).queries
              = .isInstalled "holder" :: .isStub "holder" :: asked
            ∧ asked
              = [question Action.roleHolderManagedProfile,
                question Action.roleHolderTrustedSource])
        ∧ holder.readiness device { action := Action.trustedSource }
          = holder.readiness device provisioning := by
  intro device provisioning question
  have named : "holder" ≠ "" := by decide
  obtain ⟨holder, made, ready, -, -, -, asks, -, same⟩ :=
    readiness_asks_in_order named true .system device provisioning
  obtain ⟨asked, inOrder, queries⟩ := asks ⟨rfl, .inr rfl⟩ (by decide) rfl
  have refused : device.answer (question Action.roleHolderTrustedSource) = false := by decide
  refine ⟨holder, made, ?_, ⟨asked, inOrder, queries, ?_⟩, same _ rfl⟩
  · refine eq_false_of_ne_true fun able => ?_
    have resolved := (ready.mp able).2.2.2 Action.roleHolderTrustedSource (by decide)
    exact absurd (resolved.symm.trans refused) (by decide)
  · obtain rfl : (⟨"holder", named, true, .system⟩ : RoleHolder) = holder := Except.ok.inj made
    have course : [.isInstalled "holder", .isStub "holder",
        question Action.roleHolderManagedProfile, question Action.roleHolderTrustedSource]
        = .isInstalled "holder" :: .isStub "holder" :: asked := queries
    exact (List.cons.inj (List.cons.inj course).2).2.symm

end RoleHolder

end UpdaterLaunch
