/-
Module: Nsrm.RuleOrder
Purpose: Along runs of additions and deletions the lists of selection rules and of bypass
  rules are the lists that the same insertions and deletions make of a list; the counters
  are behind by the deletions.
Trusted boundary: none
-/
import OpenFlowController.Library.Run
import OpenFlowController.Nsrm.RuleTableOrder
import OpenFlowController.Nsrm.RuleTable

namespace OpenFlowController.Nsrm

open Library Option Utils RuleSystem

/-! ## What the calls ask for -/

/-- The chain set a key names. -/
def RuleSystem.nschainsetOf (state : RuleSystem) (key : RuleKey) : Option (LinkedNode Nat) :=
  key.ownerName.bind (state.nschainsets.named NschainsetObject.name)

/-- The chain a key names. -/
def RuleSystem.nschainOf (state : RuleSystem) (key : RuleKey) : Option (LinkedNode Nat) :=
  key.ownerName.bind (state.nschains.named NschainObject.name)

/-- A call on the list of an owner, when it is the owner that the key names. -/
def callOn (owner : Nat) (named : Option (LinkedNode Nat)) (name : Option Name)
    (call : Name → ListCall) : Option ListCall :=
  match named, name with
  | some entry, some name => if entry.node = owner then some (call name) else none
  | _, _ => none

/-- What a call asks of the selection rules of a chain set. -/
def RuleEvent.onSelection (start : RuleSystem) (owner : Nat) : RuleEvent → Option ListCall
  | .addSelection key config _ =>
    callOn owner (start.nschainsetOf key) key.name
      (fun name => .add name (placeOf key.location config.relativeName))
  | .delSelection key => callOn owner (start.nschainsetOf key) key.name .delete
  | _ => none

/-- What a call asks of the bypass rules of a chain. -/
def RuleEvent.onBypass (start : RuleSystem) (owner : Nat) : RuleEvent → Option ListCall
  | .addBypass key config _ =>
    callOn owner (start.nschainOf key) key.name
      (fun name => .add name (placeOf key.location config.relativeName))
  | .delBypass key => callOn owner (start.nschainOf key) key.name .delete
  | _ => none

/-- The list after a call that returned a status, and how many rules were deleted from it. -/
def recordListCall (ledger : Option (List Name) × Nat) (call : Option ListCall)
    (status : NsrmStatus) : Option (List Name) × Nat :=
  match call, status with
  | some (.add name place), .success =>
    (ledger.1.bind (fun names => (ListCall.add name place).apply names), ledger.2)
  | some (.delete name), .success =>
    (ledger.1.bind (fun names => (ListCall.delete name).apply names), ledger.2 + 1)
  | _, _ => ledger

/-- The list that the successful calls make, starting from the empty list. -/
def ledgerOf (on : RuleEvent → Option ListCall) (history : List (RuleEvent × NsrmStatus)) :
    Option (List Name) × Nat :=
  history.foldl (fun ledger call => recordListCall ledger (on call.1) call.2) (some [], 0)

/-- The lists of one kind of rules: each is the list of its ledger, with distinct names, and
its counter is its length. -/
structure ListsInOrder {ρ : Type} (nameOf : ρ → Name) (table : RuleTable ρ)
    (on : Nat → RuleEvent → Option ListCall) (history : List (RuleEvent × NsrmStatus)) : Prop where
  refines : ∀ owner, (ledgerOf (on owner) history).1 = some (table.namesOf nameOf owner)
  distinct : ∀ owner, (table.namesOf nameOf owner).Nodup
  counted : ∀ owner, (table.noOfRules owner).toNat = (table.namesOf nameOf owner).length

/-- The lists of all chain sets and of all chains are as the calls made them. -/
structure InRuleOrder (start : RuleSystem) (run : RuleRun) : Prop where
  defined : run.state.undefined = false
  selection : ListsInOrder SelectionRule.name run.state.selection (RuleEvent.onSelection start)
    run.history
  bypass : ListsInOrder BypassRule.name run.state.bypass (RuleEvent.onBypass start) run.history

/-- All lists, counters and pools, and the use counts of the chains, are as they were. -/
structure UnchangedRules (state after : RuleSystem) : Prop where
  selection : SameRules SelectionRule.name state.selection after.selection
  bypass : SameRules BypassRule.name state.bypass after.bypass
  uses : ∀ nschain, (after.nschains.objects nschain).nschainUsageCount =
    (state.nschains.objects nschain).nschainUsageCount

/-- A call that returns an error changes nothing. -/
def FailsUnchangedRules (run : RuleRun) (event : RuleEvent) : Prop :=
  (applyRuleEvent run.state event).2 ≠ .success →
    UnchangedRules run.state (applyRuleEvent run.state event).1

/-- The chain set, and the chain if one is named, exist for a tenant that exists. -/
def RuleSystem.admitsSelection (state : RuleSystem) (key : RuleKey) (config : RuleConfig) : Prop :=
  (∃ tenant, key.tenantName = some tenant ∧ state.tenants tenant) ∧
    ∀ nschainName, config.nschainObjectName = some nschainName →
      (state.nschains.named NschainObject.name nschainName).isSome

/-- When a call does to the lists what it asks for. -/
def RuleEvent.Sound (run : RuleRun) : RuleEvent → Prop
  | .addSelection key config supply =>
    ∀ name nschainset, key.name = some name → run.state.nschainsetOf key = some nschainset →
      run.state.admitsSelection key config →
      TakesBlock SelectionRule.name run.state.selection nschainset.node name supply →
        run.state.selection.lists nschainset.node ≠ .zeroed ∧
        config.nschainObjectName.isSome ∧ config.ranges.ofSelection.valid ∧
        Placeable SelectionRule.name run.state.selection nschainset.node key.location
          config.relativeName
  | .delSelection key =>
    ∀ name, key.name = some name → key.ownerName.isSome ∧
      ∀ nschainset, run.state.nschainsetOf key = some nschainset →
        run.state.selection.lists nschainset.node ≠ .null
  | .addBypass key config supply =>
    ∀ name nschain, key.name = some name → run.state.nschainOf key = some nschain →
      (∃ tenant, key.tenantName = some tenant ∧ run.state.tenants tenant) →
      TakesBlock BypassRule.name run.state.bypass nschain.node name supply →
        run.state.bypass.lists nschain.node ≠ .zeroed ∧ config.ranges.ofBypass.valid ∧
        Placeable BypassRule.name run.state.bypass nschain.node key.location config.relativeName
  | .delBypass key =>
    ∀ name, key.name = some name → key.ownerName.isSome ∧
      ∀ nschain, run.state.nschainOf key = some nschain →
        run.state.bypass.lists nschain.node ≠ .null
  | .reclaimSelection _ | .reclaimBypass _ => True

/-- A deletion finds no rule of its name. -/
def RuleEvent.RemovesNothing (run : RuleRun) : RuleEvent → Prop
  | .delSelection key =>
    ∀ name nschainset, key.name = some name → run.state.nschainsetOf key = some nschainset →
      name ∉ run.state.selection.namesOf SelectionRule.name nschainset.node
  | .delBypass key =>
    ∀ name nschain, key.name = some name → run.state.nschainOf key = some nschain →
      name ∉ run.state.bypass.namesOf BypassRule.name nschain.node
  | _ => True

/-- When a call also leaves the counters right. -/
def RuleEvent.Meets (run : RuleRun) (event : RuleEvent) : Prop :=
  event.Sound run ∧ event.RemovesNothing run

/-- Tenants, chain sets and chains are registered, and there are no rules yet. -/
structure NoRules (state : RuleSystem) : Prop where
  selectionBlocks : state.selection.pool.maxBlocks = nsrmMaxSelectionRuleEntries.1
  bypassBlocks : state.bypass.pool.maxBlocks = nsrmMaxBypassRuleEntries.1
  selectionPool : state.selection.pool.retired = []
  bypassPool : state.bypass.pool.retired = []
  selectionLists : ∀ owner, state.selection.lists owner = .null ∧ state.selection.noOfRules owner = 0
  bypassLists : ∀ owner, state.bypass.lists owner = .null ∧ state.bypass.noOfRules owner = 0
  defined : state.undefined = false

/-! ## The calls, one by one -/

/-- No null pointer was followed, and the tables of both kinds are well formed. -/
structure SystemInv (state : RuleSystem) : Prop where
  defined : state.undefined = false
  selection : TableInv SelectionRule.name nsrmMaxSelectionRuleEntries state.selection
  bypass : TableInv BypassRule.name nsrmMaxBypassRuleEntries state.bypass

/-- The same tenants, chain sets and chains are registered. -/
structure SameOwners (state after : RuleSystem) : Prop where
  tenants : after.tenants = state.tenants
  nschainsets : after.nschainsets = state.nschainsets
  nschains : ∀ name, after.nschains.named NschainObject.name name =
    state.nschains.named NschainObject.name name

theorem SameOwners.rfl (state : RuleSystem) : SameOwners state state :=
  ⟨Eq.refl _, Eq.refl _, fun _ => Eq.refl _⟩

variable {state after : RuleSystem}

theorem SameOwners.trans {middle : RuleSystem} (first : SameOwners state middle)
    (second : SameOwners middle after) : SameOwners state after where
  tenants := second.tenants.trans first.tenants
  nschainsets := second.nschainsets.trans first.nschainsets
  nschains name := (second.nschains name).trans (first.nschains name)

theorem SameOwners.nschainsetOf (same : SameOwners state after) (key : RuleKey) :
    after.nschainsetOf key = state.nschainsetOf key := by
  rw [RuleSystem.nschainsetOf, RuleSystem.nschainsetOf, same.nschainsets]

theorem SameOwners.nschainOf (same : SameOwners state after) (key : RuleKey) :
    after.nschainOf key = state.nschainOf key := by
  rw [RuleSystem.nschainOf, RuleSystem.nschainOf, funext same.nschains]

theorem SameOwners.setSelection (state : RuleSystem) (table : RuleTable SelectionRule) :
    SameOwners state { state with selection := table } :=
  ⟨Eq.refl _, Eq.refl _, fun _ => Eq.refl _⟩

theorem SameOwners.setBypass (state : RuleSystem) (table : RuleTable BypassRule) :
    SameOwners state { state with bypass := table } :=
  ⟨Eq.refl _, Eq.refl _, fun _ => Eq.refl _⟩

theorem SameOwners.countUse (state : RuleSystem) (nschain : Nat) (change : UInt8 → UInt8) :
    SameOwners state (state.countUse nschain change) where
  tenants := Eq.refl _
  nschainsets := Eq.refl _
  nschains name := by
    dsimp only [RuleSystem.countUse]
    exact Registry.change_named (Eq.refl _) name

theorem UnchangedRules.rfl (state : RuleSystem) : UnchangedRules state state :=
  ⟨SameRules.rfl _, SameRules.rfl _, fun _ => Eq.refl _⟩

/-- How a call ends: with an error that changes nothing, or with success and an effect. -/
inductive RuleOutcome (state after : RuleSystem) (status : NsrmStatus) (effect : Prop) : Prop where
  | failed (error : status ≠ .success) (unchanged : UnchangedRules state after)
  | done (success : status = .success) (effect : effect)

/-- What a call does: it keeps the invariant and the registered names, and ends one way or
the other. -/
structure CallSpec (state : RuleSystem) (result : RuleSystem × NsrmStatus)
    (effect : RuleSystem → Prop) : Prop where
  inv : SystemInv result.1
  owners : SameOwners state result.1
  outcome : RuleOutcome state result.1 result.2 (effect result.1)

theorem CallSpec.refused {state : RuleSystem} (inv : SystemInv state) {status : NsrmStatus}
    {result : RuleSystem × NsrmStatus} {effect : RuleSystem → Prop}
    (ends : result = (state, status)) (error : status ≠ .success := by nofun) :
    CallSpec state result effect := by
  subst ends
  exact ⟨inv, SameOwners.rfl state, .failed error (UnchangedRules.rfl state)⟩

/-- What a call on the selection rules of a chain set does when it succeeds. -/
structure SelectionEffect (state : RuleSystem) (owner : Nat) (call : ListCall)
    (counted : UInt8 → UInt8) (after : RuleSystem) : Prop where
  effect : Effect SelectionRule.name state.selection after.selection owner call counted
  bypass : after.bypass = state.bypass

/-- What a call on the bypass rules of a chain does when it succeeds. -/
structure BypassEffect (state : RuleSystem) (owner : Nat) (call : ListCall)
    (counted : UInt8 → UInt8) (after : RuleSystem) : Prop where
  effect : Effect BypassRule.name state.bypass after.bypass owner call counted
  selection : after.selection = state.selection

variable {nschainset : LinkedNode Nat} {nschain : Option (LinkedNode Nat)} {name : Name}
  {location : Location} {config : RuleConfig}

theorem selectionRuleOf_some {rule : SelectionRule}
    (written : selectionRuleOf nschainset nschain name location config = some rule) :
    rule.name = name ∧ nschain.isSome := by
  unfold selectionRuleOf at written
  split at written
  · cases written
    exact ⟨Eq.refl _, Eq.refl _⟩
  · cases written

theorem selectionRuleOf_isSome (named : config.nschainObjectName.isSome) (found : nschain.isSome) :
    (selectionRuleOf nschainset nschain name location config).isSome := by
  obtain ⟨nschainName, named⟩ := isSome_iff_exists.mp named
  obtain ⟨chain, rfl⟩ := isSome_iff_exists.mp found
  simp only [selectionRuleOf, named]
  rfl

section Calls

variable {state : RuleSystem} (inv : SystemInv state)

include inv

variable {config : RuleConfig} {supply : Supply}

/-- Adding a selection rule is exact. -/
theorem addSelectionRule_spec {nschainset : LinkedNode Nat} {nschain : Option (LinkedNode Nat)}
    {name : Name} {location : Location} (given : config.nschainObjectName.isSome → nschain.isSome)
    (right : TakesBlock SelectionRule.name state.selection nschainset.node name supply →
      state.selection.lists nschainset.node ≠ .zeroed ∧ config.nschainObjectName.isSome ∧
        config.ranges.ofSelection.valid ∧
        Placeable SelectionRule.name state.selection nschainset.node location config.relativeName) :
    CallSpec state (addSelectionRule state nschainset nschain name location config supply)
      (SelectionEffect state nschainset.node (.add name (placeOf location config.relativeName))
        (· + 1)) := by
  unfold addSelectionRule
  dsimp only
  obtain ⟨after, addition, added, afterInv, outcome⟩ :=
    @TableInv.add_spec _ _ _ state.selection nschainset.node name
      (selectionRuleOf nschainset nschain name location config)
      config.ranges.ofSelection.valid location config.relativeName inv.selection supply
      (fun filled written => (selectionRuleOf_some written).1) (by
        intro takes
        obtain ⟨list, named, ranges, place⟩ := right takes
        exact ⟨list, selectionRuleOf_isSome named (given named), ranges, place⟩)
  rw [added]
  have placedInv : SystemInv { state with selection := after } :=
    ⟨inv.defined, afterInv, inv.bypass⟩
  rcases outcome with ⟨early, same⟩ | ⟨placement, rfl, links, written, effect⟩
  · have ends : finishSelection { state with selection := after } nschain addition =
        ({ state with selection := after }, .failure) := by
      rcases early with rfl | rfl | rfl <;> rfl
    rw [ends]
    exact ⟨placedInv, SameOwners.setSelection _ _,
      .failed nofun ⟨same, SameRules.rfl _, fun _ => rfl⟩⟩
  obtain ⟨rule, written⟩ := isSome_iff_exists.mp written
  obtain ⟨chain, rfl⟩ := isSome_iff_exists.mp (selectionRuleOf_some written).2
  cases placement with
  | noRelative => exact absurd rfl links.1
  | unlinked => exact absurd rfl links.2
  | insertedBefore => exact ⟨placedInv, SameOwners.setSelection _ _, .done rfl ⟨effect, rfl⟩⟩
  | appended | insertedAfter =>
  have owners := (SameOwners.setSelection state after).trans
    (SameOwners.countUse { state with selection := after } chain.node (· + 1))
  exact ⟨⟨inv.defined, afterInv, inv.bypass⟩, owners, .done rfl ⟨effect, rfl⟩⟩

variable {key : RuleKey}

/-- What adding a selection rule does. -/
theorem addSelection_spec
    (right : ∀ name nschainset, key.name = some name → state.nschainsetOf key = some nschainset →
      state.admitsSelection key config →
      TakesBlock SelectionRule.name state.selection nschainset.node name supply →
        state.selection.lists nschainset.node ≠ .zeroed ∧
        config.nschainObjectName.isSome ∧ config.ranges.ofSelection.valid ∧
        Placeable SelectionRule.name state.selection nschainset.node key.location
          config.relativeName) :
    CallSpec state (addNschainSelectionRuleToNschainset state key config supply) (fun after =>
      ∃ name nschainset, key.name = some name ∧ state.nschainsetOf key = some nschainset ∧
        SelectionEffect state nschainset.node (.add name (placeOf key.location config.relativeName))
          (· + 1) after) := by
  unfold addNschainSelectionRuleToNschainset
  cases name : key.name with
  | none => exact CallSpec.refused inv rfl
  | some ruleName =>
  cases ownerName : key.ownerName with
  | none => exact CallSpec.refused inv rfl
  | some nschainsetName =>
  cases tenantName : key.tenantName with
  | none => exact CallSpec.refused inv rfl
  | some tenant =>
  by_cases known : state.tenants tenant
  case neg =>
    simp only [known]
    exact CallSpec.refused inv rfl
  case pos =>
  simp only [known, if_true]
  cases found : state.nschainsets.named NschainsetObject.name nschainsetName with
  | none => exact CallSpec.refused inv rfl
  | some nschainset =>
  have owner : state.nschainsetOf key = some nschainset := by
    rw [RuleSystem.nschainsetOf, ownerName]
    exact found
  -- the addition behind the checks, for the chain that was found
  have behind : ∀ nschain, (config.nschainObjectName.isSome → nschain.isSome) →
      (∀ nschainName, config.nschainObjectName = some nschainName →
        (state.nschains.named NschainObject.name nschainName).isSome) →
      CallSpec state (addSelectionRule state nschainset nschain ruleName key.location config supply)
        (fun after => ∃ name nschainset, some ruleName = some name ∧
          state.nschainsetOf key = some nschainset ∧
          SelectionEffect state nschainset.node
            (.add name (placeOf key.location config.relativeName)) (· + 1) after) := by
    intro nschain given admitted
    obtain ⟨afterInv, owners, outcome⟩ := addSelectionRule_spec inv given
      (right ruleName nschainset name owner ⟨⟨tenant, tenantName, known⟩, admitted⟩)
    refine ⟨afterInv, owners, ?_⟩
    cases outcome with
    | failed error unchanged => exact .failed error unchanged
    | done success effect => exact .done success ⟨ruleName, nschainset, rfl, owner, effect⟩
  cases chainName : config.nschainObjectName with
  | none =>
    apply behind none
    · rw [chainName]
      exact nofun
    · rw [chainName]
      exact nofun
  | some nschainName =>
  cases chain : state.nschains.named NschainObject.name nschainName with
  | none =>
    simp only [chain]
    exact CallSpec.refused inv rfl
  | some nschain =>
  simp only [chain]
  apply behind (some nschain)
  · exact fun _ => rfl
  · rw [chainName]
    rintro _ ⟨⟩
    rw [chain]
    rfl

/-- Deleting a selection rule is exact. -/
theorem delSelection_spec (right : ∀ name, key.name = some name → key.ownerName.isSome ∧
      ∀ nschainset, state.nschainsetOf key = some nschainset →
        state.selection.lists nschainset.node ≠ .null) :
    CallSpec state (delNschainSelectionRuleFromNschainset state key) (fun after =>
      ∃ name nschainset, key.name = some name ∧ state.nschainsetOf key = some nschainset ∧
        SelectionEffect state nschainset.node (.delete name) id after) := by
  unfold delNschainSelectionRuleFromNschainset
  cases name : key.name with
  | none => exact CallSpec.refused inv rfl
  | some ruleName =>
  obtain ⟨given, tables⟩ := right ruleName name
  obtain ⟨nschainsetName, ownerName⟩ := isSome_iff_exists.mp given
  rw [ownerName]
  dsimp only
  cases found : state.nschainsets.named NschainsetObject.name nschainsetName with
  | none => exact CallSpec.refused inv rfl
  | some nschainset =>
  have owner : state.nschainsetOf key = some nschainset := by
    rw [RuleSystem.nschainsetOf, ownerName]
    exact found
  obtain ⟨after, deletion, removed, afterInv, outcome⟩ :=
    @TableInv.remove_spec _ _ _ _ _ ruleName inv.selection (tables nschainset owner)
      (fun rule => (state.nschains.named NschainObject.name rule.nschainObjectName).isNone)
  dsimp only
  rw [removed]
  rcases outcome with ⟨rfl, -, rfl⟩ | ⟨rfl, rfl⟩ | ⟨block, rfl, accepted, effect⟩
  · exact CallSpec.refused inv rfl
  · exact CallSpec.refused inv rfl
  -- the chain of the rule was found before the rule was unlinked
  cases leads : state.nschains.named NschainObject.name (after.rules block).nschainObjectName with
  | none =>
    rw [leads] at accepted
    cases accepted
  | some chain =>
  have owners := (SameOwners.setSelection state after).trans
    (SameOwners.countUse { state with selection := after } chain.node (· - 1))
  simp only [finishSelectionDeletion, leads]
  exact ⟨⟨inv.defined, afterInv, inv.bypass⟩, owners,
    .done rfl ⟨ruleName, nschainset, rfl, owner, effect, rfl⟩⟩

/-- Adding a bypass rule is exact. -/
theorem addBypass_spec
    (right : ∀ name nschain, key.name = some name → state.nschainOf key = some nschain →
      (∃ tenant, key.tenantName = some tenant ∧ state.tenants tenant) →
      TakesBlock BypassRule.name state.bypass nschain.node name supply →
        state.bypass.lists nschain.node ≠ .zeroed ∧ config.ranges.ofBypass.valid ∧
        Placeable BypassRule.name state.bypass nschain.node key.location config.relativeName) :
    CallSpec state (addNwserviceBypassRuleToNschainObject state key config supply) (fun after =>
      ∃ name nschain, key.name = some name ∧ state.nschainOf key = some nschain ∧
        BypassEffect state nschain.node (.add name (placeOf key.location config.relativeName))
          (· + 1) after) := by
  unfold addNwserviceBypassRuleToNschainObject
  cases name : key.name with
  | none => exact CallSpec.refused inv rfl
  | some ruleName =>
  cases ownerName : key.ownerName with
  | none => exact CallSpec.refused inv rfl
  | some nschainName =>
  cases tenantName : key.tenantName with
  | none => exact CallSpec.refused inv rfl
  | some tenant =>
  by_cases known : state.tenants tenant
  case neg =>
    simp only [known]
    exact CallSpec.refused inv rfl
  case pos =>
  simp only [known, if_true]
  cases found : state.nschains.named NschainObject.name nschainName with
  | none => exact CallSpec.refused inv rfl
  | some nschain =>
  have owner : state.nschainOf key = some nschain := by
    rw [RuleSystem.nschainOf, ownerName]
    exact found
  dsimp only
  generalize written : (some
    { name := ruleName
      nschainObjectSaferef := nschain.noderef
      ranges := config.ranges.ofBypass
      location := key.location
      relativeName := config.relativeName : BypassRule } : Option BypassRule) = rule
  obtain ⟨after, addition, added, afterInv, outcome⟩ :=
    @TableInv.add_spec _ _ _ state.bypass nschain.node ruleName rule
      config.ranges.ofBypass.valid key.location config.relativeName inv.bypass supply
      (by
        rintro filled rfl
        cases written
        rfl)
      (by
        intro takes
        obtain ⟨list, ranges, place⟩ :=
          right ruleName nschain name owner ⟨tenant, tenantName, known⟩ takes
        refine ⟨list, ?_, ranges, place⟩
        rw [← written]
        rfl)
  rw [added]
  have placedInv : SystemInv { state with bypass := after } :=
    ⟨inv.defined, inv.selection, afterInv⟩
  rcases outcome with ⟨early, same⟩ | ⟨placement, rfl, links, -, effect⟩
  · have ends : finishBypass { state with bypass := after } addition =
        ({ state with bypass := after }, .failure) := by
      rcases early with rfl | rfl | rfl <;> rfl
    rw [ends]
    exact ⟨placedInv, SameOwners.setBypass _ _, .failed nofun ⟨SameRules.rfl _, same, fun _ => rfl⟩⟩
  cases placement with
  | noRelative => exact absurd rfl links.1
  | unlinked => exact absurd rfl links.2
  | insertedBefore | appended | insertedAfter =>
    exact ⟨placedInv, SameOwners.setBypass _ _,
      .done rfl ⟨ruleName, nschain, rfl, owner, effect, rfl⟩⟩

/-- Deleting a bypass rule is exact. -/
theorem delBypass_spec (right : ∀ name, key.name = some name → key.ownerName.isSome ∧
      ∀ nschain, state.nschainOf key = some nschain →
        state.bypass.lists nschain.node ≠ .null) :
    CallSpec state (delNwserviceBypassRuleFromNschainObject state key) (fun after =>
      ∃ name nschain, key.name = some name ∧ state.nschainOf key = some nschain ∧
        BypassEffect state nschain.node (.delete name) id after) := by
  unfold delNwserviceBypassRuleFromNschainObject
  cases name : key.name with
  | none => exact CallSpec.refused inv rfl
  | some ruleName =>
  obtain ⟨given, tables⟩ := right ruleName name
  obtain ⟨nschainName, ownerName⟩ := isSome_iff_exists.mp given
  rw [ownerName]
  dsimp only
  cases found : state.nschains.named NschainObject.name nschainName with
  | none => exact CallSpec.refused inv rfl
  | some nschain =>
  have owner : state.nschainOf key = some nschain := by
    rw [RuleSystem.nschainOf, ownerName]
    exact found
  obtain ⟨after, deletion, removed, afterInv, outcome⟩ :=
    @TableInv.remove_spec _ _ _ _ _ ruleName inv.bypass (tables nschain owner)
      (fun rule => rule.noOfNwserviceObjects ≠ 0)
  dsimp only
  rw [removed]
  rcases outcome with ⟨rfl, -, rfl⟩ | ⟨rfl, rfl⟩ | ⟨block, rfl, -, effect⟩
  · exact CallSpec.refused inv rfl
  · exact CallSpec.refused inv rfl
  · exact ⟨⟨inv.defined, inv.selection, afterInv⟩, SameOwners.setBypass _ _,
      .done rfl ⟨ruleName, nschain, rfl, owner, effect, rfl⟩⟩

end Calls

/-! ## Runs -/

/-- The lists of one kind of rules are those of the ledgers; a counter is ahead of its list
by the rules that were deleted from it. -/
structure Recorded {ρ : Type} (nameOf : ρ → Name) (table : RuleTable ρ)
    (on : Nat → RuleEvent → Option ListCall) (history : List (RuleEvent × NsrmStatus)) : Prop where
  refines : ∀ owner, (ledgerOf (on owner) history).1 = some (table.namesOf nameOf owner)
  counted : ∀ owner, table.noOfRules owner =
    UInt8.ofNat ((table.namesOf nameOf owner).length + (ledgerOf (on owner) history).2)

theorem ledgerOf_append (on : RuleEvent → Option ListCall)
    (history : List (RuleEvent × NsrmStatus)) (event : RuleEvent) (status : NsrmStatus) :
    ledgerOf on (history ++ [(event, status)]) =
      recordListCall (ledgerOf on history) (on event) status := by
  rw [ledgerOf, List.foldl_append]
  rfl

variable {status : NsrmStatus}

theorem recordListCall_failed {ledger : Option (List Name) × Nat} {call : Option ListCall}
    (error : status ≠ .success) : recordListCall ledger call status = ledger := by
  unfold recordListCall
  split
  · exact absurd rfl error
  · exact absurd rfl error
  · rfl

theorem recordListCall_none (ledger : Option (List Name) × Nat) (status : NsrmStatus) :
    recordListCall ledger none status = ledger := by
  cases status <;> rfl

variable {on : Nat → RuleEvent → Option ListCall} {history : List (RuleEvent × NsrmStatus)}

theorem Recorded.same {ρ : Type} {nameOf : ρ → Name} {table after : RuleTable ρ}
    (recorded : Recorded nameOf table on history) {event : RuleEvent} {status : NsrmStatus}
    (names : ∀ owner, after.namesOf nameOf owner = table.namesOf nameOf owner)
    (counters : ∀ owner, after.noOfRules owner = table.noOfRules owner)
    (idle : status ≠ .success ∨ ∀ owner, on owner event = none) :
    Recorded nameOf after on (history ++ [(event, status)]) := by
  have ledger : ∀ owner, ledgerOf (on owner) (history ++ [(event, status)]) =
      ledgerOf (on owner) history := by
    intro owner
    rw [ledgerOf_append]
    rcases idle with error | none
    · exact recordListCall_failed error
    · rw [none]
      exact recordListCall_none _ _
  constructor
  case refines =>
    intro owner
    rw [ledger, names]
    exact recorded.refines owner
  case counted =>
    intro owner
    rw [ledger, names, counters]
    exact recorded.counted owner

/-- How a call changes the counter. -/
def ListCall.counted : ListCall → UInt8 → UInt8
  | add _ _ => (· + 1)
  | delete _ => id

/-- The effect of a call on a list is what its history records. -/
theorem Recorded.effect {ρ : Type} {nameOf : ρ → Name} {table after : RuleTable ρ}
    (recorded : Recorded nameOf table on history) {event : RuleEvent} {owner : Nat}
    {call : ListCall} (effect : Effect nameOf table after owner call call.counted)
    (asked : on owner event = some call) (others : ∀ other, other ≠ owner → on other event = none) :
    Recorded nameOf after on (history ++ [(event, .success)]) := by
  have elsewhere : ∀ other, other ≠ owner →
      ledgerOf (on other) (history ++ [(event, .success)]) = ledgerOf (on other) history := by
    intro other apart
    rw [ledgerOf_append, others other apart]
    exact recordListCall_none _ _
  have names := effect.names
  have counter := recorded.counted owner
  constructor
  case refines =>
    intro other
    rcases eq_or_ne other owner with rfl | apart
    · rw [ledgerOf_append, asked]
      cases call with
      | add name place =>
        simp only [recordListCall, recorded.refines, bind_some]
        exact names
      | delete name =>
        simp only [recordListCall, recorded.refines, bind_some]
        exact names
    · rw [elsewhere other apart, effect.otherNames other apart]
      exact recorded.refines other
  case counted =>
    intro other
    rcases eq_or_ne other owner with rfl | apart
    · rw [ledgerOf_append, asked, effect.counter, counter]
      cases call with
      | add name place =>
        obtain ⟨place, -, inserted⟩ := bind_eq_some_iff.mp names
        have longer := (Place.insert_perm inserted).length_eq
        rw [longer, List.length_cons, Nat.add_right_comm, UInt8.ofNat_add _ 1]
        rfl
      | delete name =>
      have present : name ∈ table.namesOf nameOf other := by
        by_contra absent
        rw [ListCall.apply, if_neg absent] at names
        cases names
      rw [ListCall.apply, if_pos present] at names
      have shorter := List.length_erase_add_one present
      rw [some.inj names] at shorter
      simp only [ListCall.counted, recordListCall, id]
      congr 1
      omega
    · rw [elsewhere other apart, effect.otherNames other apart, effect.otherCounters other apart]
      exact recorded.counted other

/-- What holds in every state of a run. -/
structure TrackedRules (start : RuleSystem) (run : RuleRun) : Prop where
  inv : SystemInv run.state
  owners : SameOwners start run.state
  selection : Recorded SelectionRule.name run.state.selection (RuleEvent.onSelection start)
    run.history
  bypass : Recorded BypassRule.name run.state.bypass (RuleEvent.onBypass start) run.history

theorem Recorded.call {ρ : Type} {nameOf : ρ → Name} {table after : RuleTable ρ}
    (recorded : Recorded nameOf table on history) {event : RuleEvent} {entry : LinkedNode Nat}
    {name : Name} (call : Name → ListCall)
    (asks : ∀ owner, on owner event = callOn owner (some entry) (some name) call)
    (effect : Effect nameOf table after entry.node (call name) (call name).counted) :
    Recorded nameOf after on (history ++ [(event, .success)]) := by
  apply recorded.effect effect
  · rw [asks]
    exact if_pos rfl
  · intro other apart
    rw [asks]
    exact if_neg (Ne.symm apart)

namespace TrackedRules

variable {start : RuleSystem} {run : RuleRun} {event : RuleEvent}

section

variable (tracked : TrackedRules start run)

include tracked

/-- A call that is exact keeps the history tracked. -/
theorem next (event : RuleEvent) {effect : RuleSystem → Prop}
    (spec : CallSpec run.state (applyRuleEvent run.state event) effect)
    (records : ∀ after, effect after →
      Recorded SelectionRule.name after.selection (RuleEvent.onSelection start)
          (run.history ++ [(event, .success)]) ∧
        Recorded BypassRule.name after.bypass (RuleEvent.onBypass start)
          (run.history ++ [(event, .success)])) :
    TrackedRules start (run.step event) ∧ FailsUnchangedRules run event := by
  obtain ⟨inv, owners, outcome⟩ := spec
  cases outcome with
  | failed error unchanged =>
    constructor
    · constructor
      case inv => exact inv
      case owners => exact tracked.owners.trans owners
      case selection =>
        exact tracked.selection.same unchanged.selection.names unchanged.selection.counters
          (.inl error)
      case bypass =>
        exact tracked.bypass.same unchanged.bypass.names unchanged.bypass.counters (.inl error)
    · exact fun _ => unchanged
  | done success done =>
  obtain ⟨selection, bypass⟩ := records _ done
  constructor
  · constructor
    case inv => exact inv
    case owners => exact tracked.owners.trans owners
    case selection =>
      change Recorded _ _ _ (run.history ++ [(event, (applyRuleEvent run.state event).2)])
      rw [success]
      exact selection
    case bypass =>
      change Recorded _ _ _ (run.history ++ [(event, (applyRuleEvent run.state event).2)])
      rw [success]
      exact bypass
  · exact fun error => absurd success error

theorem bypass_same {table : RuleTable BypassRule} (same : table = run.state.bypass)
    (idle : ∀ owner, event.onBypass start owner = none) :
    Recorded BypassRule.name table (RuleEvent.onBypass start)
      (run.history ++ [(event, .success)]) := by
  subst same
  exact tracked.bypass.same (fun _ => rfl) (fun _ => rfl) (.inr idle)

theorem selection_same {table : RuleTable SelectionRule} (same : table = run.state.selection)
    (idle : ∀ owner, event.onSelection start owner = none) :
    Recorded SelectionRule.name table (RuleEvent.onSelection start)
      (run.history ++ [(event, .success)]) := by
  subst same
  exact tracked.selection.same (fun _ => rfl) (fun _ => rfl) (.inr idle)

/-- A sound event keeps the history, and fails without effect. -/
theorem step (sound : event.Sound run) :
    TrackedRules start (run.step event) ∧ FailsUnchangedRules run event := by
  cases event with
  | addSelection key config supply =>
    apply tracked.next (.addSelection key config supply) (addSelection_spec tracked.inv sound)
    rintro after ⟨name, nschainset, named, owner, effect⟩
    rw [tracked.owners.nschainsetOf] at owner
    constructor
    · apply tracked.selection.call (fun name => .add name (placeOf key.location config.relativeName)) _
        effect.effect
      intro other
      rw [RuleEvent.onSelection, owner, named]
    · exact tracked.bypass_same effect.bypass (fun _ => rfl)
  | delSelection key =>
    apply tracked.next (.delSelection key) (delSelection_spec tracked.inv sound)
    rintro after ⟨name, nschainset, named, owner, effect⟩
    rw [tracked.owners.nschainsetOf] at owner
    constructor
    · apply tracked.selection.call .delete _ effect.effect
      intro other
      rw [RuleEvent.onSelection, owner, named]
    · exact tracked.bypass_same effect.bypass (fun _ => rfl)
  | addBypass key config supply =>
    apply tracked.next (.addBypass key config supply) (addBypass_spec tracked.inv sound)
    rintro after ⟨name, nschain, named, owner, effect⟩
    rw [tracked.owners.nschainOf] at owner
    constructor
    · exact tracked.selection_same effect.selection (fun _ => rfl)
    · apply tracked.bypass.call (fun name => .add name (placeOf key.location config.relativeName)) _
        effect.effect
      intro other
      rw [RuleEvent.onBypass, owner, named]
  | delBypass key =>
    apply tracked.next (.delBypass key) (delBypass_spec tracked.inv sound)
    rintro after ⟨name, nschain, named, owner, effect⟩
    rw [tracked.owners.nschainOf] at owner
    constructor
    · exact tracked.selection_same effect.selection (fun _ => rfl)
    · apply tracked.bypass.call .delete _ effect.effect
      intro other
      rw [RuleEvent.onBypass, owner, named]
  | reclaimSelection block =>
    have inv : SystemInv (applyRuleEvent run.state (.reclaimSelection block)).1 :=
      ⟨tracked.inv.defined, tracked.inv.selection.reclaim block, tracked.inv.bypass⟩
    have spec : CallSpec run.state (applyRuleEvent run.state (.reclaimSelection block))
        (fun after => after = (applyRuleEvent run.state (.reclaimSelection block)).1) :=
      ⟨inv, SameOwners.setSelection _ _, .done rfl rfl⟩
    apply tracked.next _ spec
    rintro after rfl
    constructor
    · exact tracked.selection.same (fun _ => rfl) (fun _ => rfl) (.inr fun _ => rfl)
    · exact tracked.bypass_same rfl (fun _ => rfl)
  | reclaimBypass block =>
  have inv : SystemInv (applyRuleEvent run.state (.reclaimBypass block)).1 :=
    ⟨tracked.inv.defined, tracked.inv.selection, tracked.inv.bypass.reclaim block⟩
  have spec : CallSpec run.state (applyRuleEvent run.state (.reclaimBypass block))
      (fun after => after = (applyRuleEvent run.state (.reclaimBypass block)).1) :=
    ⟨inv, SameOwners.setBypass _ _, .done rfl rfl⟩
  apply tracked.next _ spec
  rintro after rfl
  constructor
  · exact tracked.selection_same rfl (fun _ => rfl)
  · exact tracked.bypass.same (fun _ => rfl) (fun _ => rfl) (.inr fun _ => rfl)

end

end TrackedRules

variable {start : RuleSystem}

/-- Without rules the empty history is tracked. -/
theorem NoRules.tracked (none : NoRules start) :
    TrackedRules start { state := start, history := [] } := by
  constructor
  case inv =>
    exact ⟨none.defined,
      TableInv.empty none.selectionBlocks none.selectionPool
        (fun owner => (none.selectionLists owner).1),
      TableInv.empty none.bypassBlocks none.bypassPool (fun owner => (none.bypassLists owner).1)⟩
  case owners => exact SameOwners.rfl start
  case selection =>
    have names : ∀ owner, start.selection.namesOf SelectionRule.name owner = [] := by
      intro owner
      rw [RuleTable.namesOf, (none.selectionLists owner).1]
      rfl
    constructor
    case refines =>
      intro owner
      rw [names]
      rfl
    case counted =>
      intro owner
      rw [names, (none.selectionLists owner).2]
      rfl
  case bypass =>
    have names : ∀ owner, start.bypass.namesOf BypassRule.name owner = [] := by
      intro owner
      rw [RuleTable.namesOf, (none.bypassLists owner).1]
      rfl
    constructor
    case refines =>
      intro owner
      rw [names]
      rfl
    case counted =>
      intro owner
      rw [names, (none.bypassLists owner).2]
      rfl

/-! ## Runs that delete nothing -/

/-- No rule was deleted from any list. -/
structure NothingDeleted (start : RuleSystem) (run : RuleRun) : Prop where
  selection : ∀ owner, (ledgerOf (RuleEvent.onSelection start owner) run.history).2 = 0
  bypass : ∀ owner, (ledgerOf (RuleEvent.onBypass start owner) run.history).2 = 0

variable {event : RuleEvent}

/-- A tracked run without deletions has its rules in order. -/
theorem TrackedRules.inOrder {run : RuleRun} (tracked : TrackedRules start run)
    (nothing : NothingDeleted start run) : InRuleOrder start run := by
  have fits : ∀ length, length ≤ 64 → (UInt8.ofNat (length + 0)).toNat = length := by
    intro length within
    exact Nat.mod_eq_of_lt (by omega)
  constructor
  case defined => exact tracked.inv.defined
  case selection =>
    constructor
    case refines => exact tracked.selection.refines
    case distinct => exact tracked.inv.selection.distinct
    case counted =>
      intro owner
      rw [tracked.selection.counted, nothing.selection]
      exact fits _ (tracked.inv.selection.names_length owner)
  case bypass =>
    constructor
    case refines => exact tracked.bypass.refines
    case distinct => exact tracked.inv.bypass.distinct
    case counted =>
      intro owner
      rw [tracked.bypass.counted, nothing.bypass]
      exact fits _ (tracked.inv.bypass.names_length owner)

end OpenFlowController.Nsrm
