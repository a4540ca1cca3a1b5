/-
Module: Nsrm.InstanceRegistry
Purpose: Along runs of launches, de-launches and queries every instance is recorded under
  the pair of chain and service it named, and the queries return what is recorded, as long
  as the service is attached, the instance is known, and the handle of the service leads to
  its own node in the table of the chain.
Trusted boundary: none
-/
import OpenFlowController.Nsrm.ServiceChain
import OpenFlowController.Nsrm.RuleTableOrder
import OpenFlowController.Nsrm.ServiceChainOrder

namespace OpenFlowController.Nsrm

open Library List Option Function Utils ServiceInstances

/-! ## What the calls ask for -/

/-- The chain and the service that a key names. -/
def NwserviceInstanceKey.pair (key : NwserviceInstanceKey) : NwserviceAttachKey where
  name := key.nwserviceObjectName
  nschainObjectName := key.nschainObjectName
  sequenceNumber := 0

/-- Whether a key names a chain, by its block, and a service, by its handle. -/
def NwserviceInstanceKey.names (key : NwserviceInstanceKey) (chains : ServiceChains)
    (nschain : Nat) (nwservice : MchashNoderef) : Bool :=
  match chains.target key.pair with
  | some (chain, service) => chain.node = nschain ∧ service.noderef = nwservice
  | none => false

/-- The instances of a pair after a further call, by what the call returned. -/
def recordInstance (chains : ServiceChains) (nschain : Nat) (nwservice : MchashNoderef)
    (nwserviceInstances : List NwserviceInstance) :
    InstanceEvent × NsrmStatus → List NwserviceInstance
  | (.launch key answers _, .success) =>
    if key.names chains nschain nwservice then
      nwserviceInstances ++ (key.launched answers).toList
    else nwserviceInstances
  | (.delaunch key, .success) =>
    if key.names chains nschain nwservice then
      nwserviceInstances.filter (fun recorded => some recorded.name ≠ key.nwserviceInstanceName)
    else nwserviceInstances
  | _ => nwserviceInstances

/-- The instances launched for a pair and not since de-launched. -/
def recordedSince (chains : ServiceChains) (nschain : Nat) (nwservice : MchashNoderef)
    (history : List (InstanceEvent × NsrmStatus)) : List NwserviceInstance :=
  history.foldl (recordInstance chains nschain nwservice) []

/-- The instances that are found under a pair. -/
def ServiceInstances.instancesOf (state : ServiceInstances) (nschain : Nat)
    (nwservice : MchashNoderef) : List NwserviceInstance :=
  match state.chains.attachedEntry nschain nwservice with
  | some entry => state.instances.rulesOf entry.node
  | none => []

/-- The instances under every pair are those that were launched for it and not de-launched,
with distinct names; the instance count is their number; and every instance stores the names
of its pair. -/
structure InstancesRecorded (start : ServiceInstances) (run : InstanceRun) : Prop where
  defined : run.state.undefined = false
  exactly : ∀ nschain nwservice, run.state.instancesOf nschain nwservice =
    recordedSince start.chains nschain nwservice run.history
  distinct : ∀ nschain nwservice, ((run.state.instancesOf nschain nwservice).map (·.name)).Nodup
  counted : ∀ nschain nwservice entry,
    run.state.chains.attachedEntry nschain nwservice = some entry →
      (run.state.instances.noOfRules entry.node).toNat =
        (run.state.instancesOf nschain nwservice).length
  labelled : ∀ nschain nwservice, ∀ recorded ∈ run.state.instancesOf nschain nwservice,
    ∃ chain service,
      start.chains.nschains.named NschainObject.name recorded.nschainObjectName = some chain ∧
      start.chains.nwservices.named NwserviceObject.name recorded.nwserviceObjectName =
        some service ∧
      chain.node = nschain ∧ service.noderef = nwservice

/-- All instances, the instance counts and the pool are as they were. -/
structure UnchangedInstances (state after : ServiceInstances) : Prop where
  chains : after.chains = state.chains
  instances : ∀ attached, after.instances.rulesOf attached = state.instances.rulesOf attached
  counters : ∀ attached, after.instances.noOfRules attached = state.instances.noOfRules attached
  pool : after.instances.pool = state.instances.pool

/-- A call that returns an error changes nothing. -/
def FailsUnchangedInstances (run : InstanceRun) (event : InstanceEvent) : Prop :=
  (applyInstanceEvent run.state event).2 ≠ .success →
    UnchangedInstances run.state (applyInstanceEvent run.state event).1

/-- A launch succeeds only for a service that is attached to the chain it names, and a de-launch
only for an instance that is recorded under its pair. -/
def SucceedsKnown (start : ServiceInstances) (run : InstanceRun) (event : InstanceEvent) : Prop :=
  (applyInstanceEvent run.state event).2 = .success →
    match event with
    | .launch key _ _ => ∃ nschain nwservice, key.names start.chains nschain nwservice = true ∧
        (start.chains.attachedEntry nschain nwservice).isSome
    | .delaunch key => ∃ nschain nwservice, key.names start.chains nschain nwservice = true ∧
        ∃ recorded ∈ recordedSince start.chains nschain nwservice run.history,
          some recorded.name = key.nwserviceInstanceName
    | _ => True

/-- A page of records: as many as were asked for, or all that there are, unless there is
none. -/
structure PageOf (nwserviceInstances : List NwserviceInstance) (requested : UInt32)
    (answer : InstanceAnswer) : Prop where
  none : nwserviceInstances = [] → answer.status ≠ .success
  some : nwserviceInstances ≠ [] → answer.status = .success ∧
    answer.records = (nwserviceInstances.take requested.toNat).map NwserviceInstance.record ∧
    answer.returned = UInt32.ofNat (min requested.toNat nwserviceInstances.length)

/-- What a query for the recorded instances of a pair is to answer. -/
def InstanceQuery.Answers (nwserviceInstances : List NwserviceInstance)
    (answer : InstanceAnswer) : InstanceQuery → Prop
  | first requested => PageOf nwserviceInstances requested answer
  | next relative requested =>
    PageOf (nwserviceInstances.dropWhile (fun recorded => recorded.name ≠ relative)).tail
      requested answer
  | exact name =>
    (∀ recorded ∈ nwserviceInstances, recorded.name = name →
      answer.status = .success ∧ answer.records = [recorded.record]) ∧
    ((∀ recorded ∈ nwserviceInstances, recorded.name ≠ name) → answer.status ≠ .success)

/-- A query returns the instances that are recorded under the pair it names. -/
def QueryExact (start : ServiceInstances) (run : InstanceRun) : InstanceEvent → Prop
  | .query nschainName nwserviceName asked =>
    ∃ answer, run.state.query nschainName nwserviceName asked = some answer ∧
      match start.chains.nschains.named NschainObject.name nschainName,
        start.chains.nwservices.named NwserviceObject.name nwserviceName with
      | some nschain, some nwservice =>
        asked.Answers (recordedSince start.chains nschain.node nwservice.noderef run.history) answer
      | _, _ => answer.status ≠ .success
  | _ => True

/-! ## When the calls do it -/

/-- A launch comes to its scan: all names are given, the tenant is the one of the chain, and
the virtual machine exists. -/
structure AdmitsLaunch (state : ServiceInstances) (key : NwserviceInstanceKey)
    (answers : VmAnswers) (nschain : LinkedNode Nat) (nwserviceName : Name) : Prop where
  given : key.nwserviceInstanceName.isSome ∧ key.vmName.isSome
  service : key.nwserviceObjectName = some nwserviceName
  vm : answers.vmHandle.isSome
  tenant : ∃ tenantName, key.tenantName = some tenantName ∧ state.tenants tenantName ∧
    state.tenantOf nschain.node = tenantName
  chain : ∃ nschainName, key.nschainObjectName = some nschainName ∧
    state.chains.nschains.named NschainObject.name nschainName = some nschain

/-- A de-launch comes to its scan. -/
structure AdmitsDelaunch (state : ServiceInstances) (key : NwserviceInstanceKey) (name : Name)
    (nschain : LinkedNode Nat) (nwserviceName : Name) : Prop where
  given : key.nwserviceInstanceName = some name
  service : key.nwserviceObjectName = some nwserviceName
  tenant : ∃ tenantName, key.tenantName = some tenantName ∧ state.tenants tenantName ∧
    state.tenantOf nschain.node = tenantName
  chain : ∃ nschainName, key.nschainObjectName = some nschainName ∧
    state.chains.nschains.named NschainObject.name nschainName = some nschain
  list : state.chains.listOf nschain.node ≠ .null

/-- The instances in the table of an attached service, if there is one. -/
def ServiceInstances.instancesAt (state : ServiceInstances) (attached : Option Nat) :
    List NwserviceInstance :=
  match attached with
  | some attached => state.instances.rulesOf attached
  | none => []

/-- A page is asked for that there is. -/
def InstanceQuery.Within (nwserviceInstances : List NwserviceInstance) : InstanceQuery → Prop
  | first requested =>
    nwserviceInstances = [] ∨
      0 < requested.toNat ∧ requested.toNat ≤ nwserviceInstances.length
  | next relative requested =>
    afterRelative relative nwserviceInstances = [] ∨
      0 < requested.toNat ∧
        requested.toNat ≤ (afterRelative relative nwserviceInstances).length
  | exact _ => True

/-- When a call does what it is for.  A launch that comes to its scan finds a chain that has
services, and when it takes a block the service is attached; a de-launch that comes to its
scan finds a chain that has services, and under a service with instances it finds its own;
the handle of a service that is asked for leads to the node of that service in the table of
the chain, or there are no instances at either. -/
def InstanceEvent.Meets (run : InstanceRun) : InstanceEvent → Prop
  | .launch key answers supply =>
    ∀ nschain nwserviceName, AdmitsLaunch run.state key answers nschain nwserviceName →
      (run.state.chains.listOf nschain.node).linked ≠ [] ∧
      ∀ nwservice entry launched,
        run.state.chains.nwservices.named NwserviceObject.name nwserviceName =
          some nwservice →
        run.state.chains.scanFor nschain.node nwserviceName = .stopped entry →
        key.launched answers = some launched →
        TakesBlock NwserviceInstance.name run.state.instances entry.node launched.name supply →
          run.state.chains.attachedEntry nschain.node nwservice.noderef = some entry ∧
          run.state.instances.lists entry.node ≠ .zeroed
  | .delaunch key =>
    ∀ name nschain nwserviceName, AdmitsDelaunch run.state key name nschain nwserviceName →
      (run.state.chains.listOf nschain.node).linked ≠ [] ∧
      ∀ nwservice entry,
        run.state.chains.nwservices.named NwserviceObject.name nwserviceName =
          some nwservice →
        run.state.chains.scanFor nschain.node nwserviceName = .stopped entry →
        run.state.instances.noOfRules entry.node ≠ 0 →
          run.state.chains.attachedEntry nschain.node nwservice.noderef = some entry ∧
          name ∈ run.state.instances.namesOf NwserviceInstance.name entry.node
  | .query nschainName nwserviceName asked =>
    ∀ nschain nwservice,
      run.state.chains.nschains.named NschainObject.name nschainName = some nschain →
      run.state.chains.nwservices.named NwserviceObject.name nwserviceName = some nwservice →
      ∃ entries, run.state.chains.listOf nschain.node = .table entries ∧
        (let own := (run.state.chains.attachedEntry nschain.node nwservice.noderef).map (·.node)
         let led := match entries.access nwservice.noderef with
           | .valid attached => attached
           | _ => none
         (led = own ∨ run.state.instancesAt led = [] ∧ run.state.instancesAt own = []) ∧
         asked.Within (run.state.instancesAt own))
  | .reclaim _ => True

/-- Services are attached to chains in order, and nothing was launched yet. -/
structure NoInstances (state : ServiceInstances) : Prop where
  chains : ChainsInv state.chains
  blocks : state.instances.pool.maxBlocks = nsrmMaxNwserviceInstanceEntries.1
  pool : state.instances.pool.retired = []
  lists : ∀ attached, state.instances.lists attached = .null
  counters : ∀ attached, state.instances.noOfRules attached = 0
  defined : state.undefined = false

/-! ## The calls at an attached service -/

/-- The tables of the instances are well formed, and every count is the length of its list. -/
structure InstancesInv (state : ServiceInstances) : Prop where
  defined : state.undefined = false
  table : TableInv NwserviceInstance.name nsrmMaxNwserviceInstanceEntries state.instances
  counted : ∀ attached, (state.instances.noOfRules attached).toNat =
    (state.instances.rulesOf attached).length

/-- The instances of one attached service were changed, with their count, and no others. -/
structure InstancesChanged (state after : ServiceInstances) (attached : Nat)
    (change : List NwserviceInstance → List NwserviceInstance) : Prop where
  chains : after.chains = state.chains
  own : after.instances.rulesOf attached = change (state.instances.rulesOf attached)
  others : ∀ other, other ≠ attached →
    after.instances.rulesOf other = state.instances.rulesOf other

variable (state : ServiceInstances)

@[simp]
theorem instances_setInstances (instances : RuleTable NwserviceInstance) :
    (state.setInstances instances).instances = instances :=
  rfl

theorem UnchangedInstances.rfl : UnchangedInstances state state :=
  ⟨Eq.refl _, fun _ => Eq.refl _, fun _ => Eq.refl _, Eq.refl _⟩

/-- How a call ends: with an error that changes nothing, or with success and a change. -/
inductive InstanceOutcome (state : ServiceInstances) (result : ServiceInstances × NsrmStatus)
    (change : ServiceInstances → Prop) : Prop where
  | failed (error : result.2 ≠ .success) (unchanged : UnchangedInstances state result.1)
  | done (success : result.2 = .success) (changed : change result.1)

/-- A call that succeeds has made the change. -/
theorem InstanceOutcome.changed_of_success {state : ServiceInstances}
    {result : ServiceInstances × NsrmStatus} {change : ServiceInstances → Prop}
    (outcome : InstanceOutcome state result change) (success : result.2 = .success) :
    change result.1 := by
  cases outcome with
  | failed error unchanged => exact absurd success error
  | done success changed => exact changed

namespace InstancesInv

open RuleTable

variable {state : ServiceInstances} {attached : Nat}

theorem relist (inv : InstancesInv state) {list : ListPtr}
    (before : (state.instances.lists attached).linked = []) (after : list.linked = [])
    (sizes : ∀ entries, list = .table entries →
      entries.free.length + entries.linked.length = nsrmMaxNwserviceInstanceEntries.1) :
    InstancesInv (state.setInstances (state.instances.setList attached list)) ∧
      UnchangedInstances state (state.setInstances (state.instances.setList attached list)) := by
  have rules : ∀ other, (state.instances.setList attached list).rulesOf other =
      state.instances.rulesOf other := by
    intro other
    apply rulesOf_congr
    case linked =>
      rcases eq_or_ne other attached with rfl | apart
      · rw [lists_setList_self, before, after]
      · rw [lists_setList_ne apart]
    case rules => exact fun _ _ => rfl
  constructor
  · constructor
    case defined => exact inv.defined
    case table => exact (inv.table.relist before after sizes).1
    case counted =>
      intro other
      rw [instances_setInstances, rules other]
      exact inv.counted other
  · exact ⟨rfl, rules, fun _ => rfl, rfl⟩

theorem count_room (inv : InstancesInv state) {entries : RefTable Nat}
    (list : state.instances.lists attached = .table entries) (room : entries.free ≠ []) :
    (state.instances.noOfRules attached).toNat < 64 := by
  have sizes := inv.table.sizes attached entries list
  have free := length_pos_iff.mpr room
  rw [inv.counted, rulesOf, list, length_map]
  change entries.linked.length < 64
  change _ = 64 at sizes
  omega

/-- An instance linked at the end of the list of an attached service. -/
theorem linked (inv : InstancesInv state) {entries : RefTable Nat}
    (list : state.instances.lists attached = .table entries) {launched : NwserviceInstance}
    (absent : launched.name ∉ state.instances.namesOf NwserviceInstance.name attached)
    {choice : Option Nat} {pool : BlockPool} {block : Nat}
    (got : state.instances.pool.get choice = some (pool, block)) :
    ∃ after,
      (state.instances.fill pool block launched).linkRule attached
        ((ListPtr.table entries).append block) .appended = (after, .appended) ∧
      InstancesInv (state.setInstances after) ∧
      InstancesChanged state (state.setInstances after) attached (· ++ [launched]) := by
  have room := inv.table.room list (BlockPool.get_room got).1
  obtain ⟨grown, noderef, appended, cut, sizes⟩ := @ListPtr.append_inserted _ block room
  have link : RuleLinked NwserviceInstance.name state.instances attached block launched pool
      entries grown entries.linked [] noderef :=
    ⟨list, (append_nil _).symm, cut, sizes, ⟨choice, got⟩, absent⟩
  obtain ⟨old, new⟩ := link.rules_cut inv.table
  rw [map_nil, append_nil] at old
  rw [map_nil, ← old] at new
  have others : ∀ other, other ≠ attached →
      (state.instances.withRule pool block launched attached (.table grown)).rulesOf other =
        state.instances.rulesOf other :=
    fun other apart => RuleLinked.rulesOf_ne inv.table link.unused apart
  refine ⟨state.instances.withRule pool block launched attached (.table grown), ?_, ?_, ?_⟩
  · rw [appended]
    rfl
  · constructor
    case defined => exact inv.defined
    case table => exact link.inv inv.table
    case counted =>
      intro other
      rcases eq_or_ne other attached with rfl | apart
      · have room := inv.count_room list room
        have counted := inv.counted other
        have one : (state.instances.withRule pool block launched other (.table grown)).noOfRules
            other = state.instances.noOfRules other + 1 :=
          Function.update_self _ _ _
        rw [instances_setInstances, one, new, length_append, UInt8.toNat_add, ← counted]
        exact Nat.mod_eq_of_lt (by change _ + 1 < 256; omega)
      have same : (state.instances.withRule pool block launched attached
          (.table grown)).noOfRules other = state.instances.noOfRules other :=
        Function.update_of_ne apart _ _
      rw [instances_setInstances, same, others other apart]
      exact inv.counted other
  · exact ⟨rfl, new, others⟩

/-- What a launch at an attached service does, when the table it takes a block for is one. -/
theorem launchAt_spec (inv : InstancesInv state) {name : Name}
    {launched : Option NwserviceInstance} {supply : Supply}
    (bears : ∀ new, launched = some new → new.name = name)
    (right : ∀ new, launched = some new →
      TakesBlock NwserviceInstance.name state.instances attached name supply →
        state.instances.lists attached ≠ .zeroed) :
    InstancesInv (launchAt state attached name launched supply).1 ∧
      InstanceOutcome state (launchAt state attached name launched supply) (fun after =>
        ∃ new, launched = some new ∧
          TakesBlock NwserviceInstance.name state.instances attached name supply ∧
          InstancesChanged state after attached (· ++ [new])) := by
  -- the launch with a table that is there
  have onTable : ∀ list, InstancesInv (state.setInstances (state.instances.setList attached list)) →
      UnchangedInstances state (state.setInstances (state.instances.setList attached list)) →
      (state.instances.lists attached).ensure nsrmMaxNwserviceInstanceEntries supply =
        (list, true) →
      (state.instances.lists attached = .null → supply.created) →
      ((state.instances.lists attached ≠ .zeroed → ∃ entries, list = .table entries)) →
      InstancesInv (launchAt state attached name launched supply).1 ∧
        InstanceOutcome state (launchAt state attached name launched supply) (fun after =>
          ∃ new, launched = some new ∧
            TakesBlock NwserviceInstance.name state.instances attached name supply ∧
            InstancesChanged state after attached (· ++ [new])) := by
    intro list listInv same ensured created usable
    have names : (state.instances.setList attached list).namesOf NwserviceInstance.name attached =
        state.instances.namesOf NwserviceInstance.name attached := by
      rw [namesOf_eq_map, namesOf_eq_map]
      exact congrArg _ (same.instances attached)
    unfold launchAt
    rw [ensured]
    dsimp only
    rw [names]
    by_cases listed : name ∈ state.instances.namesOf NwserviceInstance.name attached
    case pos =>
      rw [if_pos listed]
      exact ⟨listInv, .failed (by simp) same⟩
    case neg =>
    rw [if_neg listed]
    cases launched with
    | none => exact ⟨listInv, .failed nofun same⟩
    | some new =>
    cases got : (state.instances.setList attached list).pool.get supply.block with
    | none => exact ⟨listInv, .failed nofun same⟩
    | some taken =>
    have takes : TakesBlock NwserviceInstance.name state.instances attached name supply :=
      ⟨listed, isSome_iff_exists.mpr ⟨_, got⟩, created⟩
    obtain ⟨entries, rfl⟩ := usable (right new rfl takes)
    obtain rfl := bears new rfl
    obtain ⟨after, links, afterInv, changed⟩ :=
      @linked _ _ listInv entries lists_setList_self new (by
        rw [← names] at listed
        exact listed) _ _ _ got
    rw [instances_setInstances] at links
    simp only [links]
    refine ⟨afterInv, .done rfl ⟨new, rfl, takes, ?_⟩⟩
    constructor
    case chains => exact changed.chains
    case own =>
      rw [← same.instances]
      exact changed.own
    case others =>
      intro other apart
      rw [← same.instances]
      exact changed.others other apart
  cases list : state.instances.lists attached with
  | null =>
    have empty : (state.instances.lists attached).linked = [] := by
      rw [list]
      rfl
    cases created : supply.created with
    | true =>
      obtain ⟨listInv, same⟩ := @relist _ attached inv
        (.table (RefTable.create nsrmMaxNwserviceInstanceEntries)) empty rfl (by
          intro entries equal
          cases equal
          simp [RefTable.create])
      apply onTable _ listInv same
      · rw [list]
        simp only [ListPtr.ensure, created, if_true]
      · exact fun _ => created
      · exact fun _ => ⟨_, rfl⟩
    | false =>
    obtain ⟨listInv, same⟩ := @relist _ attached inv
      (if supply.allocated then .zeroed else .null) empty (by split <;> rfl) (by
        intro entries equal
        split at equal <;> cases equal)
    unfold launchAt
    simp only [list, ListPtr.ensure, created]
    exact ⟨listInv, .failed (by simp) same⟩
  | zeroed =>
    have empty : (state.instances.lists attached).linked = [] := by
      rw [list]
      rfl
    obtain ⟨listInv, same⟩ := @relist _ attached inv .zeroed empty rfl (by simp)
    apply onTable _ listInv same
    · rw [list]
      rfl
    · rw [list]
      simp
    · rw [list]
      exact fun table => absurd rfl table
  | table entries =>
  have kept : state.instances.setList attached (.table entries) = state.instances := by
    rw [← list]
    exact setList_lists
  apply onTable (.table entries)
  · rw [kept]
    exact inv
  · rw [kept]
    exact UnchangedInstances.rfl state
  · rw [list]
    rfl
  · rw [list]
    simp
  · exact fun _ => ⟨entries, rfl⟩

theorem filter_cut {before behind : List NwserviceInstance} {found : NwserviceInstance}
    (distinct : ((before ++ found :: behind).map (·.name)).Nodup) :
    (before ++ found :: behind).filter (fun recorded => recorded.name ≠ found.name) =
      before ++ behind := by
  rw [map_append, map_cons] at distinct
  have fresh := (nodup_cons.mp (nodup_middle.mp distinct)).1
  have others : ∀ recorded ∈ before ++ behind, recorded.name ≠ found.name := by
    intro recorded member same
    rw [← map_append] at fresh
    exact fresh (mem_map.mpr ⟨recorded, member, same⟩)
  rw [filter_append, filter_cons_of_neg (by simp)]
  rw [filter_eq_self.mpr (fun recorded member =>
      decide_eq_true (others recorded (mem_append_left _ member))),
    filter_eq_self.mpr (fun recorded member =>
      decide_eq_true (others recorded (mem_append_right _ member)))]

/-- A de-launch on a service whose lists name it is exact. -/
theorem delaunchAt_spec (inv : InstancesInv state) {name : Name}
    (right : state.instances.noOfRules attached ≠ 0 →
      name ∈ state.instances.namesOf NwserviceInstance.name attached) :
    InstancesInv (delaunchAt state attached name).1 ∧
      InstanceOutcome state (delaunchAt state attached name) (fun after =>
        InstancesChanged state after attached
            (fun recorded => recorded.filter (fun recorded => recorded.name ≠ name)) ∧
          ∃ recorded ∈ state.instances.rulesOf attached, recorded.name = name) := by
  unfold delaunchAt
  by_cases none : state.instances.noOfRules attached = 0
  case pos =>
    rw [if_pos none]
    exact ⟨inv, .failed nofun (UnchangedInstances.rfl state)⟩
  case neg =>
  rw [if_neg none]
  -- the scan stops at the instance of the name
  have listed := right none
  obtain ⟨entry, found⟩ : ∃ entry, (state.instances.lists attached).linked.find?
      (fun entry => (state.instances.rules entry.node).name = name) = some entry := by
    obtain ⟨entry, member, same⟩ := mem_map.mp listed
    apply isSome_iff_exists.mp
    exact find?_isSome.mpr ⟨entry, member, decide_eq_true same⟩
  have member := mem_of_find?_eq_some found
  have named : (state.instances.rules entry.node).name = name := by
    have held := find?_some found
    exact of_decide_eq_true held
  obtain ⟨last, ends⟩ : ∃ last, (state.instances.lists attached).linked.getLast? = some last := by
    apply isSome_iff_exists.mp
    rw [getLast?_isSome]
    exact ne_nil_of_mem member
  obtain ⟨entries, final, before, behind, list, deleted, cut, rest, sizes⟩ :=
    ListPtr.deleteByRef_cut member
  have unlink : RuleUnlinked state.instances attached entries final before entry behind :=
    ⟨list, cut, rest, sizes⟩
  obtain ⟨old, new⟩ := unlink.rules_cut
  rw [list] at found ends deleted
  simp only [list, ends, found, getD_some, deleted]
  have others : ∀ other, other ≠ attached →
      (state.instances.withoutRule attached (.table final) entry.node).rulesOf other =
        state.instances.rulesOf other :=
    fun other apart => RuleUnlinked.rulesOf_ne state.instances apart
  have unlinked := unlink.inv inv.table
  constructor
  · constructor
    case defined => exact inv.defined
    case table =>
      exact ⟨unlinked.pool, unlinked.blocks, unlinked.sizes, unlinked.distinct, unlinked.owned,
        unlinked.apart⟩
    case counted =>
      intro other
      have counted := inv.counted other
      rcases eq_or_ne other attached with rfl | apart
      · have shorter : (state.instances.rulesOf other).length =
            ((state.instances.withoutRule other (.table final) entry.node).rulesOf
              other).length + 1 := by
          rw [old, new]
          simp only [length_append, length_cons]
          omega
        have one : (1 : UInt8) ≤ state.instances.noOfRules other := by
          apply UInt8.le_iff_toNat_le.mpr
          rw [counted, shorter]
          exact Nat.le_add_left _ _
        have lowered : (update state.instances.noOfRules other
            (state.instances.noOfRules other - 1)) other =
              state.instances.noOfRules other - 1 := Function.update_self _ _ _
        change ((update state.instances.noOfRules other
          (state.instances.noOfRules other - 1)) other).toNat = _
        rw [lowered, UInt8.toNat_sub_of_le _ _ one, counted, shorter]
        rfl
      · have same : (update state.instances.noOfRules attached
            (state.instances.noOfRules attached - 1)) other = state.instances.noOfRules other :=
          Function.update_of_ne apart _ _
        change ((update state.instances.noOfRules attached
          (state.instances.noOfRules attached - 1)) other).toNat = _
        rw [same, counted]
        exact congrArg List.length (others other apart).symm
  · apply InstanceOutcome.done rfl
    refine ⟨?_, mem_map.mp (RuleTable.namesOf_eq_map _ _ _ ▸ listed)⟩
    constructor
    case chains => rfl
    case own =>
      have distinct := inv.table.distinct attached
      rw [namesOf_eq_map, old] at distinct
      rw [← named, old, filter_cut distinct]
      exact new
    case others => exact others

end InstancesInv

/-! ## The calls -/

variable {key : NwserviceInstanceKey}

theorem launched_names {answers : VmAnswers} {new : NwserviceInstance}
    (launched : key.launched answers = some new) :
    key.nwserviceInstanceName = some new.name ∧
      key.nschainObjectName = some new.nschainObjectName ∧
      key.nwserviceObjectName = some new.nwserviceObjectName := by
  simp only [NwserviceInstanceKey.launched, Option.bind_eq_bind, bind_eq_some_iff] at launched
  obtain ⟨name, named, tenantName, -, nschainName, chain, nwserviceName, service, vmName, -,
    vmSaferef, -, portSaferef, -, port, -, ready⟩ := launched
  split at ready
  · cases ready
    exact ⟨named, chain, service⟩
  · cases ready

theorem scanFor_stopped {chains : ServiceChains} {nschain : Nat} {name : Name}
    (services : (chains.listOf nschain).linked ≠ []) :
    chains.scanFor nschain name = .unknownService ∨
      ∃ entry nwservice, chains.scanFor nschain name = .stopped entry ∧
        chains.nwservices.named NwserviceObject.name name = some nwservice := by
  obtain ⟨last, ends⟩ := isSome_iff_exists.mp (getLast?_isSome.mpr services)
  unfold ServiceChains.scanFor
  rw [ends]
  cases chains.nwservices.named NwserviceObject.name name with
  | none => exact .inl rfl
  | some nwservice => exact .inr ⟨_, nwservice, rfl, rfl⟩

variable {chains : ServiceChains} {nschain nwservice : LinkedNode Nat}

theorem target_pair {nschainName nwserviceName : Name}
    (chain : key.nschainObjectName = some nschainName)
    (service : key.nwserviceObjectName = some nwserviceName)
    (found : chains.nschains.named NschainObject.name nschainName = some nschain)
    (known : chains.nwservices.named NwserviceObject.name nwserviceName = some nwservice) :
    chains.target key.pair = some (nschain, nwservice) := by
  simp only [ServiceChains.target, NwserviceInstanceKey.pair, chain, service, found, known]

theorem names_target (target : chains.target key.pair = some (nschain, nwservice)) (chain : Nat)
    (service : MchashNoderef) :
    key.names chains chain service = true ↔ nschain.node = chain ∧ nwservice.noderef = service := by
  rw [NwserviceInstanceKey.names, target]
  exact decide_eq_true_iff

/-- What a call with a key changes: the instances at the service that the key names. -/
def ChangedUnder (state : ServiceInstances) (key : NwserviceInstanceKey)
    (change : List NwserviceInstance → List NwserviceInstance) (after : ServiceInstances) :
    Prop :=
  ∃ nschain nwservice entry, state.chains.target key.pair = some (nschain, nwservice) ∧
    state.chains.attachedEntry nschain.node nwservice.noderef = some entry ∧
    InstancesChanged state after entry.node change

namespace InstancesInv

variable {state : ServiceInstances}

theorem refused (inv : InstancesInv state) {result : ServiceInstances × NsrmStatus}
    {status : NsrmStatus} {change : ServiceInstances → Prop} (ends : result = (state, status))
    (error : status ≠ .success := by nofun) :
    InstancesInv result.1 ∧ InstanceOutcome state result change := by
  subst ends
  exact ⟨inv, .failed error (UnchangedInstances.rfl state)⟩

/-- A launch that is admitted right is exact. -/
theorem launch_spec (inv : InstancesInv state) {key : NwserviceInstanceKey} {answers : VmAnswers}
    {supply : Supply}
    (right : ∀ nschain nwserviceName, AdmitsLaunch state key answers nschain nwserviceName →
      (state.chains.listOf nschain.node).linked ≠ [] ∧
      ∀ nwservice entry launched,
        state.chains.nwservices.named NwserviceObject.name nwserviceName = some nwservice →
        state.chains.scanFor nschain.node nwserviceName = .stopped entry →
        key.launched answers = some launched →
        TakesBlock NwserviceInstance.name state.instances entry.node launched.name supply →
          state.chains.attachedEntry nschain.node nwservice.noderef = some entry ∧
          state.instances.lists entry.node ≠ .zeroed) :
    InstancesInv (registerLaunchedNwserviceObjectInstance state key answers supply).1 ∧
      InstanceOutcome state (registerLaunchedNwserviceObjectInstance state key answers supply)
        (fun after => ∃ new, key.launched answers = some new ∧
          ChangedUnder state key (· ++ [new]) after) := by
  unfold registerLaunchedNwserviceObjectInstance
  cases name : key.nwserviceInstanceName with
  | none => exact inv.refused rfl
  | some instanceName =>
  cases tenant : key.tenantName with
  | none => exact inv.refused rfl
  | some tenantName =>
  cases chain : key.nschainObjectName with
  | none => exact inv.refused rfl
  | some nschainName =>
  cases service : key.nwserviceObjectName with
  | none => exact inv.refused rfl
  | some nwserviceName =>
  cases machine : key.vmName with
  | none => exact inv.refused rfl
  | some vmName =>
  by_cases known : state.tenants tenantName
  case neg =>
    simp only [known]
    exact inv.refused rfl
  case pos =>
  simp only [known, if_true]
  cases vm : answers.vmHandle with
  | none => exact inv.refused rfl
  | some vmHandle =>
  cases found : state.chains.nschains.named NschainObject.name nschainName with
  | none => exact inv.refused rfl
  | some nschain =>
  by_cases same : state.tenantOf nschain.node = tenantName
  case neg =>
    simp only [same]
    exact inv.refused rfl
  case pos =>
  simp only [same, if_true]
  have admitted : AdmitsLaunch state key answers nschain nwserviceName := by
    constructor
    case given =>
      rw [name, machine]
      exact ⟨rfl, rfl⟩
    case service => exact service
    case vm =>
      rw [vm]
      rfl
    case tenant => exact ⟨tenantName, tenant, known, same⟩
    case chain => exact ⟨nschainName, chain, found⟩
  obtain ⟨services, attached⟩ := right nschain nwserviceName admitted
  rcases @scanFor_stopped _ _ nwserviceName services with
    unknown | ⟨entry, nwservice, stopped, registered⟩
  · rw [unknown]
    exact inv.refused rfl
  rw [stopped]
  have bears : ∀ new, key.launched answers = some new → new.name = instanceName := by
    intro new launched
    rw [(launched_names launched).1] at name
    exact some.inj name
  obtain ⟨afterInv, outcome⟩ := @launchAt_spec _ entry.node inv instanceName
    (key.launched answers) supply bears (by
      intro new launched takes
      rw [← bears new launched] at takes
      exact (attached nwservice entry new registered stopped launched takes).2)
  refine ⟨afterInv, ?_⟩
  cases outcome with
  | failed error unchanged => exact .failed error unchanged
  | done success changed =>
  obtain ⟨new, launched, takes, changed⟩ := changed
  rw [← bears new launched] at takes
  have own := (attached nwservice entry new registered stopped launched takes).1
  exact .done success ⟨new, launched, nschain, nwservice, entry,
    target_pair chain service found registered, own, changed⟩

/-- What registering a de-launched instance does. -/
theorem delaunch_spec (inv : InstancesInv state) {key : NwserviceInstanceKey}
    (right : ∀ name nschain nwserviceName, AdmitsDelaunch state key name nschain nwserviceName →
      (state.chains.listOf nschain.node).linked ≠ [] ∧
      ∀ nwservice entry,
        state.chains.nwservices.named NwserviceObject.name nwserviceName = some nwservice →
        state.chains.scanFor nschain.node nwserviceName = .stopped entry →
        state.instances.noOfRules entry.node ≠ 0 →
          state.chains.attachedEntry nschain.node nwservice.noderef = some entry ∧
          name ∈ state.instances.namesOf NwserviceInstance.name entry.node) :
    InstancesInv (registerDelaunchNwserviceObjectInstance state key).1 ∧
      InstanceOutcome state (registerDelaunchNwserviceObjectInstance state key)
        (fun after => ChangedUnder state key (fun recorded => recorded.filter
            (fun recorded => some recorded.name ≠ key.nwserviceInstanceName)) after ∧
          ∃ nschain nwservice, key.names state.chains nschain nwservice = true ∧
            ∃ recorded ∈ state.instancesOf nschain nwservice,
              some recorded.name = key.nwserviceInstanceName) := by
  unfold registerDelaunchNwserviceObjectInstance
  cases name : key.nwserviceInstanceName with
  | none => exact inv.refused rfl
  | some instanceName =>
  cases tenant : key.tenantName with
  | none => exact inv.refused rfl
  | some tenantName =>
  cases chain : key.nschainObjectName with
  | none => exact inv.refused rfl
  | some nschainName =>
  cases service : key.nwserviceObjectName with
  | none => exact inv.refused rfl
  | some nwserviceName =>
  by_cases known : state.tenants tenantName
  case neg =>
    simp only [known]
    exact inv.refused rfl
  case pos =>
  simp only [known, if_true]
  cases found : state.chains.nschains.named NschainObject.name nschainName with
  | none => exact inv.refused rfl
  | some nschain =>
  by_cases empty : state.chains.listOf nschain.node = .null
  case pos =>
    simp only [empty]
    exact inv.refused rfl
  case neg =>
  by_cases same : state.tenantOf nschain.node = tenantName
  case neg =>
    simp only [same]
    exact inv.refused rfl
  case pos =>
  simp only [same, if_true]
  have admitted : AdmitsDelaunch state key instanceName nschain nwserviceName :=
    ⟨name, service, ⟨tenantName, tenant, known, same⟩, ⟨nschainName, chain, found⟩, empty⟩
  obtain ⟨services, attached⟩ := right instanceName nschain nwserviceName admitted
  rcases @scanFor_stopped _ _ nwserviceName services with
    unknown | ⟨entry, nwservice, stopped, registered⟩
  · rw [unknown]
    exact inv.refused rfl
  rw [stopped]
  by_cases counted : state.instances.noOfRules entry.node = 0
  case pos => exact inv.refused (if_pos counted)
  case neg =>
  have own := (attached nwservice entry registered stopped counted).1
  obtain ⟨afterInv, outcome⟩ := @delaunchAt_spec _ entry.node inv instanceName
    (fun counted => (attached nwservice entry registered stopped counted).2)
  refine ⟨afterInv, ?_⟩
  cases outcome with
  | failed error unchanged => exact .failed error unchanged
  | done success changed =>
  obtain ⟨changed, recorded, member, named⟩ := changed
  have target := target_pair chain service found registered
  apply InstanceOutcome.done success
  constructor
  · refine ⟨nschain, nwservice, entry, target, own, ?_⟩
    simpa only [Option.some.injEq, ne_eq] using changed
  · refine ⟨nschain.node, nwservice.noderef, (names_target target _ _).mpr ⟨rfl, rfl⟩,
      recorded, ?_, congrArg some named⟩
    rw [ServiceInstances.instancesOf, own]
    exact member

end InstancesInv

/-! ## Queries -/

variable {requested : UInt32}

/-- The records copied are the first that were asked for. -/
theorem copyRecords_take (some : 0 < requested.toNat) (nwserviceInstances : List NwserviceInstance) :
    copyRecords requested nwserviceInstances =
      (nwserviceInstances.take requested.toNat).map NwserviceInstance.record := by
  induction nwserviceInstances generalizing requested with
  | nil => simp [copyRecords]
  | cons head rest ih =>
  have one : (1 : UInt32) ≤ requested := UInt32.le_iff_toNat_le.mpr some
  have less : (requested - 1).toNat = requested.toNat - 1 :=
    UInt32.toNat_sub_of_le _ _ one
  obtain ⟨before, counted⟩ := Nat.exists_eq_add_of_lt some
  rw [copyRecords, counted, Nat.zero_add, take_succ_cons, map_cons]
  congr 1
  by_cases last : requested - 1 = 0
  case pos =>
    rw [if_pos last]
    rw [last] at less
    have none : before = 0 := by
      change 0 = _ at less
      omega
    rw [none]
    rfl
  case neg =>
    have more : 0 < (requested - 1).toNat := by
      apply Nat.pos_of_ne_zero
      exact fun zero => last (UInt32.toNat_inj.mp zero)
    rw [if_neg last, ih more, less, counted]
    congr 2
    omega

variable {nwserviceInstances : List NwserviceInstance}

/-- A page asked for within the list is answered. -/
theorem answerPage_within (within : nwserviceInstances = [] ∨
      0 < requested.toNat ∧ requested.toNat ≤ nwserviceInstances.length) :
    ∃ answer, answerPage requested nwserviceInstances = some answer ∧
      PageOf nwserviceInstances requested answer := by
  rcases within with rfl | ⟨positive, fits⟩
  · unfold answerPage
    rw [copyRecords]
    dsimp only [length_nil]
    rw [if_neg (Nat.not_lt_zero _)]
    split
    · exact ⟨_, rfl, fun _ => nofun, fun more => absurd rfl more⟩
    · exact ⟨_, rfl, fun _ => nofun, fun more => absurd rfl more⟩
  have length : (copyRecords requested nwserviceInstances).length = requested.toNat := by
    rw [copyRecords_take positive, length_map, length_take, Nat.min_eq_left fits]
  have whole : requested = UInt32.ofNat requested.toNat := UInt32.ofNat_toNat.symm
  have copied : copyRecords requested nwserviceInstances ≠ [] := by
    rw [← length_pos_iff, length]
    exact positive
  unfold answerPage
  dsimp only
  rw [length, if_neg (Nat.lt_irrefl _), if_neg (fun apart => apart whole), if_neg copied]
  refine ⟨_, rfl, ?_, fun _ => ⟨rfl, copyRecords_take positive _, ?_⟩⟩
  · rintro rfl
    exact absurd (Nat.lt_of_lt_of_le positive fits) (Nat.lt_irrefl 0)
  · rw [Nat.min_eq_left fits]

theorem afterRelative_eq (relative : Name) (nwserviceInstances : List NwserviceInstance) :
    afterRelative relative nwserviceInstances =
      (nwserviceInstances.dropWhile (fun recorded => recorded.name ≠ relative)).tail := by
  induction nwserviceInstances with
  | nil => rfl
  | cons head rest ih =>
  rw [afterRelative, dropWhile_cons]
  by_cases same : head.name = relative
  case pos => simp [same]
  case neg =>
    rw [if_neg same, ih, if_pos (decide_eq_true same)]

/-- A query within the list answers it in order. -/
theorem InstanceQuery.scan_answers {query : InstanceQuery}
    (distinct : (nwserviceInstances.map (·.name)).Nodup) (within : query.Within nwserviceInstances) :
    ∃ answer, query.scan nwserviceInstances = some answer ∧
      query.Answers nwserviceInstances answer := by
  cases query with
  | first requested => exact answerPage_within within
  | next relative requested =>
    obtain ⟨answer, answered, page⟩ := answerPage_within within
    rw [afterRelative_eq] at page
    exact ⟨answer, answered, page⟩
  | exact name =>
  unfold InstanceQuery.scan
  dsimp only
  cases found : nwserviceInstances.find? (fun recorded => recorded.name = name) with
  | none =>
    refine ⟨_, rfl, ?_, fun _ => by nofun⟩
    intro recorded member same
    exact absurd (decide_eq_true same) (find?_eq_none.mp found recorded member)
  | some first =>
  have listed := mem_of_find?_eq_some found
  have named : first.name = name := by
    have held := find?_some found
    exact of_decide_eq_true held
  refine ⟨_, rfl, ?_, fun absent => absurd named (absent first listed)⟩
  intro recorded member same
  have once : recorded = first :=
    inj_on_of_nodup_map distinct member listed (same.trans named.symm)
  rw [once]
  exact ⟨rfl, rfl⟩

theorem InstanceQuery.answers_nothing {answer : InstanceAnswer} (error : answer.status ≠ .success)
    (query : InstanceQuery) : query.Answers [] answer := by
  cases query with
  | first requested => exact ⟨fun _ => error, fun more => absurd rfl more⟩
  | next relative requested => exact ⟨fun _ => error, fun more => absurd rfl more⟩
  | exact name => exact ⟨fun recorded member => absurd member not_mem_nil, fun _ => error⟩

theorem access_handle (inv : ChainsInv chains) {name : Name} {nschain : Nat}
    {nwservice : LinkedNode Nat} {entries : RefTable Nat}
    (known : chains.nwservices.named NwserviceObject.name name = some nwservice)
    (list : chains.listOf nschain = .table entries) :
    entries.access nwservice.noderef = .invalid ∨
      ∃ attached, entries.access nwservice.noderef = .valid (some attached) := by
  have linked := mem_of_find?_eq_some known
  have magic := chains.nwservices.table.magics_ne nwservice linked
  have below : nwservice.noderef.index < nsrmMaxNschainNwserviceObjectEntries.1 := by
    have bound := chains.nwservices.table.entriesBound nwservice.noderef.index
      (mem_append_right _ (mem_map.mpr ⟨nwservice, linked, rfl⟩))
    rw [inv.size] at bound
    exact bound
  have wide : nwservice.noderef.index < entries.maxNodes.1 := by
    have sizes := inv.sizes nschain entries list
    rw [← sizes] at below
    exact Nat.lt_of_lt_of_le below entries.entries_le
  unfold RefTable.access
  rw [if_pos wide]
  split
  · split
    · exact .inr ⟨_, rfl⟩
    · exact .inl rfl
  · rw [if_neg magic]
    exact .inl rfl

theorem instancesAt_own (nschain : Nat) (nwservice : MchashNoderef) :
    state.instancesAt ((state.chains.attachedEntry nschain nwservice).map (·.node)) =
      state.instancesOf nschain nwservice := by
  unfold ServiceInstances.instancesAt ServiceInstances.instancesOf
  cases state.chains.attachedEntry nschain nwservice <;> rfl

/-- What a query for a registered chain and service answers, when the handle leads right. -/
theorem InstancesInv.query_spec {state : ServiceInstances} (inv : InstancesInv state)
    (chains : ChainsInv state.chains) {nschainName nwserviceName : Name}
    {nschain nwservice : LinkedNode Nat} {entries : RefTable Nat} {asked : InstanceQuery}
    (found : state.chains.nschains.named NschainObject.name nschainName = some nschain)
    (known : state.chains.nwservices.named NwserviceObject.name nwserviceName = some nwservice)
    (list : state.chains.listOf nschain.node = .table entries)
    (right :
      let own := (state.chains.attachedEntry nschain.node nwservice.noderef).map (·.node)
      let led := match entries.access nwservice.noderef with
        | .valid attached => attached
        | _ => none
      (led = own ∨ state.instancesAt led = [] ∧ state.instancesAt own = []) ∧
        asked.Within (state.instancesAt own)) :
    ∃ answer, state.query nschainName nwserviceName asked = some answer ∧
      asked.Answers (state.instancesOf nschain.node nwservice.noderef) answer := by
  unfold ServiceInstances.query
  rw [found, known]
  simp only [ServiceChains.getAttachedNwserviceByhandle, list]
  obtain ⟨leads, within⟩ := right
  rw [instancesAt_own] at leads within
  rcases access_handle chains known list with invalid | ⟨attached, valid⟩
  · rw [invalid] at leads ⊢
    have nothing : state.instancesOf nschain.node nwservice.noderef = [] := by
      rcases leads with same | ⟨-, empty⟩
      · rw [← instancesAt_own, ← same]
        rfl
      · exact empty
    rw [nothing]
    exact ⟨_, rfl, InstanceQuery.answers_nothing (by nofun) asked⟩
  rw [valid] at leads ⊢
  dsimp only at leads ⊢
  -- the instances that the scan sees are those of the pair, or there are none at all
  have seen : state.instances.rulesOf attached =
      state.instancesOf nschain.node nwservice.noderef := by
    rcases leads with same | ⟨empty, nothing⟩
    · rw [← instancesAt_own, ← same]
      rfl
    · exact empty.trans nothing.symm
  have distinct := inv.table.distinct attached
  rw [RuleTable.namesOf_eq_map] at distinct
  rw [← seen] at within ⊢
  cases table : state.instances.lists attached with
  | null =>
    have nothing : state.instances.rulesOf attached = [] := by
      rw [RuleTable.rulesOf, table]
      rfl
    rw [nothing]
    exact ⟨_, rfl, InstanceQuery.answers_nothing (by nofun) asked⟩
  | zeroed => exact InstanceQuery.scan_answers distinct within
  | table bucket => exact InstanceQuery.scan_answers distinct within

/-! ## Runs -/

theorem recordedSince_append (chains : ServiceChains) (nschain : Nat) (nwservice : MchashNoderef)
    (history : List (InstanceEvent × NsrmStatus)) (call : InstanceEvent × NsrmStatus) :
    recordedSince chains nschain nwservice (history ++ [call]) =
      recordInstance chains nschain nwservice (recordedSince chains nschain nwservice history)
        call := by
  rw [recordedSince, foldl_append]
  rfl

theorem recordInstance_failed {nschain : Nat} {nwservice : MchashNoderef}
    {recorded : List NwserviceInstance} {event : InstanceEvent} {status : NsrmStatus}
    (error : status ≠ .success) :
    recordInstance chains nschain nwservice recorded (event, status) = recorded := by
  cases status with
  | success => exact absurd rfl error
  | _ => cases event <;> rfl

theorem attachedEntry_stores {nschain : Nat} {nwservice : MchashNoderef} {entry : LinkedNode Nat}
    (found : chains.attachedEntry nschain nwservice = some entry) :
    entry ∈ (chains.listOf nschain).linked ∧
      (chains.attached entry.node).nwserviceObjectSaferef = nwservice := by
  have held := find?_some found
  exact ⟨mem_of_find?_eq_some found, of_decide_eq_true held⟩

/-- A change under a key changes the instances of that service alone. -/
theorem instancesOf_changed {state after : ServiceInstances} (inv : ChainsInv state.chains)
    {key : NwserviceInstanceKey} {change : List NwserviceInstance → List NwserviceInstance}
    (changed : ChangedUnder state key change after) (nschain : Nat) (nwservice : MchashNoderef) :
    after.instancesOf nschain nwservice =
      if key.names state.chains nschain nwservice then
        change (state.instancesOf nschain nwservice)
      else state.instancesOf nschain nwservice := by
  obtain ⟨chain, service, entry, target, own, effect⟩ := changed
  unfold ServiceInstances.instancesOf
  rw [effect.chains]
  by_cases named : key.names state.chains nschain nwservice
  case pos =>
    obtain ⟨rfl, rfl⟩ := (names_target target nschain nwservice).mp named
    rw [if_pos named, own]
    exact effect.own
  case neg =>
  rw [if_neg named]
  cases found : state.chains.attachedEntry nschain nwservice with
  | none => rfl
  | some held =>
  apply effect.others
  -- one node is not in two lists, nor for two services in one
  intro same
  obtain ⟨heldLinked, heldStores⟩ := attachedEntry_stores found
  obtain ⟨ownLinked, ownStores⟩ := attachedEntry_stores own
  obtain ⟨sameChain, rfl⟩ :=
    inv.apart nschain chain.node held heldLinked entry ownLinked same
  exact named ((names_target target nschain nwservice).mpr
    ⟨sameChain.symm, ownStores.symm.trans heldStores⟩)

/-- What holds in every state of a run. -/
structure TrackedInstances (start : ServiceInstances) (run : InstanceRun) : Prop where
  inv : InstancesInv run.state
  chains : run.state.chains = start.chains
  exactly : ∀ nschain nwservice, run.state.instancesOf nschain nwservice =
    recordedSince start.chains nschain nwservice run.history

namespace TrackedInstances

variable {start : ServiceInstances} {run : InstanceRun}

theorem unchanged (tracked : TrackedInstances start run) {event : InstanceEvent}
    (inv : InstancesInv (applyInstanceEvent run.state event).1)
    (chains : (applyInstanceEvent run.state event).1.chains = run.state.chains)
    (instances : ∀ attached, (applyInstanceEvent run.state event).1.instances.rulesOf attached =
      run.state.instances.rulesOf attached)
    (idle : ∀ nschain nwservice recorded, recordInstance start.chains nschain nwservice recorded
      (event, (applyInstanceEvent run.state event).2) = recorded) :
    TrackedInstances start (run.step event) := by
  constructor
  case inv => exact inv
  case chains => exact chains.trans tracked.chains
  case exactly =>
    intro nschain nwservice
    change ServiceInstances.instancesOf (applyInstanceEvent run.state event).1 nschain nwservice =
      recordedSince _ _ _ (run.history ++ [_])
    rw [recordedSince_append, idle, ← tracked.exactly]
    unfold ServiceInstances.instancesOf
    rw [chains]
    split
    · exact instances _
    · rfl

/-- A call that is exact keeps the history tracked. -/
theorem next (chains : ChainsInv start.chains) (tracked : TrackedInstances start run)
    (event : InstanceEvent) {key : NwserviceInstanceKey} {done : ServiceInstances → Prop}
    (spec : InstancesInv (applyInstanceEvent run.state event).1 ∧
      InstanceOutcome run.state (applyInstanceEvent run.state event) done)
    (records : ∀ after, done after → ∃ change, ChangedUnder run.state key change after ∧
      ∀ nschain nwservice recorded,
        recordInstance start.chains nschain nwservice recorded (event, .success) =
          if key.names start.chains nschain nwservice then change recorded else recorded) :
    TrackedInstances start (run.step event) ∧ FailsUnchangedInstances run event := by
  obtain ⟨inv, outcome⟩ := spec
  cases outcome with
  | failed error same =>
    constructor
    · exact tracked.unchanged inv same.chains same.instances
        (fun _ _ _ => recordInstance_failed error)
    · exact fun _ => same
  | done success changed =>
  obtain ⟨change, under, recorded⟩ := records _ changed
  refine ⟨?_, fun error => absurd success error⟩
  constructor
  case inv => exact inv
  case chains =>
    obtain ⟨_, _, _, -, -, effect⟩ := under
    exact effect.chains.trans tracked.chains
  case exactly =>
    intro nschain nwservice
    change ServiceInstances.instancesOf (applyInstanceEvent run.state event).1 nschain
      nwservice = recordedSince _ _ _ (run.history ++ [_])
    have same := tracked.chains
    rw [← same] at chains
    rw [recordedSince_append, success, recorded, ← tracked.exactly,
      instancesOf_changed chains under, same]

/-- An event that meets its condition keeps the history, and fails without effect. -/
theorem step (chains : ChainsInv start.chains) (tracked : TrackedInstances start run)
    {event : InstanceEvent} (met : event.Meets run) :
    TrackedInstances start (run.step event) ∧ FailsUnchangedInstances run event ∧
      SucceedsKnown start run event ∧ QueryExact start run event := by
  cases event with
  | launch key answers supply =>
    have spec := tracked.inv.launch_spec met
    have stepped := tracked.next chains (.launch key answers supply) spec (by
      rintro after ⟨new, launched, under⟩
      refine ⟨(· ++ [new]), under, ?_⟩
      intro nschain nwservice recorded
      rw [recordInstance, launched]
      rfl)
    refine ⟨stepped.1, stepped.2, fun success => ?_, trivial⟩
    obtain ⟨new, -, nschain, nwservice, entry, target, own, -⟩ :=
      spec.2.changed_of_success success
    rw [tracked.chains] at target own
    refine ⟨nschain.node, nwservice.noderef, (names_target target _ _).mpr ⟨rfl, rfl⟩, ?_⟩
    rw [own]
    rfl
  | delaunch key =>
    have spec := tracked.inv.delaunch_spec met
    have stepped := tracked.next chains (.delaunch key) spec
      (fun after changed => ⟨_, changed.1, fun _ _ _ => rfl⟩)
    refine ⟨stepped.1, stepped.2, fun success => ?_, trivial⟩
    obtain ⟨-, nschain, nwservice, named, recorded⟩ := spec.2.changed_of_success success
    rw [tracked.chains] at named
    rw [tracked.exactly] at recorded
    exact ⟨nschain, nwservice, named, recorded⟩
  | query nschainName nwserviceName asked =>
    have chainsInv := chains
    rw [← tracked.chains] at chainsInv
    obtain ⟨answer, answered, right⟩ : QueryExact start run
        (.query nschainName nwserviceName asked) := by
      unfold QueryExact
      dsimp only
      rw [← tracked.chains]
      cases found : run.state.chains.nschains.named NschainObject.name nschainName with
      | none =>
        refine ⟨{ status := .failure, records := [], returned := none }, ?_, nofun⟩
        simp only [ServiceInstances.query, found]
      | some nschain =>
      cases known : run.state.chains.nwservices.named NwserviceObject.name nwserviceName with
      | none =>
        refine ⟨{ status := .failure, records := [], returned := none }, ?_, nofun⟩
        simp only [ServiceInstances.query, found, known]
      | some nwservice =>
      obtain ⟨entries, list, leads⟩ := met nschain nwservice found known
      obtain ⟨answer, answered, right⟩ :=
        tracked.inv.query_spec chainsInv found known list leads
      rw [tracked.exactly] at right
      rw [← tracked.chains] at right
      exact ⟨answer, answered, right⟩
    have same : applyInstanceEvent run.state (.query nschainName nwserviceName asked) =
        (run.state, answer.status) := by
      rw [applyInstanceEvent, answered]
    refine ⟨?_, ?_, fun _ => trivial, answer, answered, right⟩
    · apply tracked.unchanged
      case inv =>
        rw [same]
        exact tracked.inv
      case chains => rw [same]
      case instances =>
        rw [same]
        exact fun _ => rfl
      case idle => exact fun _ _ _ => rfl
    · rw [FailsUnchangedInstances, same]
      exact fun _ => UnchangedInstances.rfl _
  | reclaim block =>
  have inv : InstancesInv (applyInstanceEvent run.state (.reclaim block)).1 :=
    ⟨tracked.inv.defined, tracked.inv.table.reclaim block, tracked.inv.counted⟩
  exact ⟨tracked.unchanged inv rfl (fun _ => rfl) (fun _ _ _ => rfl),
    fun error => absurd rfl error, fun _ => trivial, trivial⟩

end TrackedInstances

variable {start : ServiceInstances}

/-- Without instances the empty history is tracked. -/
theorem NoInstances.tracked (none : NoInstances start) :
    TrackedInstances start { state := start, history := [] } := by
  have empty : ∀ attached, start.instances.rulesOf attached = [] := by
    intro attached
    rw [RuleTable.rulesOf, none.lists]
    rfl
  constructor
  case inv =>
    constructor
    case defined => exact none.defined
    case table => exact TableInv.empty none.blocks none.pool none.lists
    case counted =>
      intro attached
      rw [none.counters, empty]
      rfl
  case chains => rfl
  case exactly =>
    intro nschain nwservice
    unfold ServiceInstances.instancesOf
    split
    · exact empty _
    · rfl

/-- What is recorded is under the names of its chain and service. -/
theorem recordedSince_labelled (chains : ServiceChains) (nschain : Nat)
    (nwservice : MchashNoderef) (history : List (InstanceEvent × NsrmStatus)) :
    ∀ recorded ∈ recordedSince chains nschain nwservice history,
      ∃ chain service,
        chains.nschains.named NschainObject.name recorded.nschainObjectName = some chain ∧
        chains.nwservices.named NwserviceObject.name recorded.nwserviceObjectName =
          some service ∧
        chain.node = nschain ∧ service.noderef = nwservice := by
  induction history using List.reverseRecOn with
  | nil => exact fun recorded member => absurd member not_mem_nil
  | append_singleton history call ih =>
  intro recorded member
  rw [recordedSince_append] at member
  unfold recordInstance at member
  split at member
  · rename_i key answers supply
    split at member
    · rename_i named
      rcases mem_append.mp member with old | new
      · exact ih recorded old
      have launched : key.launched answers = some recorded := Option.mem_toList.mp new
      obtain ⟨-, chainName, serviceName⟩ := launched_names launched
      unfold NwserviceInstanceKey.names ServiceChains.target NwserviceInstanceKey.pair at named
      rw [chainName, serviceName] at named
      dsimp only at named
      cases found : chains.nschains.named NschainObject.name recorded.nschainObjectName with
      | none =>
        rw [found] at named
        cases named
      | some chain =>
      cases known : chains.nwservices.named NwserviceObject.name recorded.nwserviceObjectName with
      | none =>
        rw [found, known] at named
        cases named
      | some service =>
      rw [found, known] at named
      obtain ⟨sameChain, sameService⟩ := of_decide_eq_true named
      exact ⟨chain, service, rfl, rfl, sameChain, sameService⟩
    · exact ih recorded member
  · split at member
    · exact ih recorded (mem_of_mem_filter member)
    · exact ih recorded member
  · exact ih recorded member

/-- A tracked run has recorded its instances. -/
theorem TrackedInstances.recorded {run : InstanceRun} (tracked : TrackedInstances start run) :
    InstancesRecorded start run := by
  constructor
  case defined => exact tracked.inv.defined
  case exactly => exact tracked.exactly
  case distinct =>
    intro nschain nwservice
    unfold ServiceInstances.instancesOf
    split
    · rename_i entry found
      have distinct := tracked.inv.table.distinct entry.node
      rw [RuleTable.namesOf_eq_map] at distinct
      exact distinct
    · exact nodup_nil
  case counted =>
    intro nschain nwservice entry found
    unfold ServiceInstances.instancesOf
    rw [found]
    exact tracked.inv.counted entry.node
  case labelled =>
    intro nschain nwservice recorded member
    rw [tracked.exactly] at member
    exact recordedSince_labelled start.chains nschain nwservice run.history recorded member

end OpenFlowController.Nsrm
