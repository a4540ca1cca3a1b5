/-
Module: Nsrm.ServiceChainOrder
Purpose: The table of services of every chain is in the order of the sequence numbers and
  holds what was attached and not since detached, along runs that do not detach from a
  chain without a table nor attach to one whose table could not be created.
Trusted boundary: none
-/
import OpenFlowController.Library.Run
import OpenFlowController.Nsrm.Objects
import OpenFlowController.Nsrm.ServiceChain

namespace OpenFlowController.Nsrm

open Library Utils ServiceChains

/-! ## What the calls are for -/

/-- The chain and the service a key names, when both are registered. -/
def ServiceChains.target (state : ServiceChains) (key : NwserviceAttachKey) :
    Option (LinkedNode Nat × LinkedNode Nat) :=
  match key.name, key.nschainObjectName with
  | some name, some nschainName =>
    match state.nschains.named NschainObject.name nschainName,
      state.nwservices.named NwserviceObject.name name with
    | some nschain, some nwservice => some (nschain, nwservice)
    | _, _ => none
  | _, _ => none

/-- The services attached to a chain after a further call, by what the call returned. -/
def recordCall (start : ServiceChains) (nschain : Nat) (services : List (Name × UInt16)) :
    ChainEvent × NsrmStatus → List (Name × UInt16)
  | (.attach key _, .success) =>
    match start.target key with
    | some (chain, nwservice) =>
      if chain.node = nschain then
        ((start.nwservices.objects nwservice.node).name, key.sequenceNumber) :: services
      else services
    | none => services
  | (.detach key, .success) =>
    match start.target key with
    | some (chain, nwservice) =>
      if chain.node = nschain then
        services.filter (fun service => service.1 ≠ (start.nwservices.objects nwservice.node).name)
      else services
    | none => services
  | _ => services

/-- The services attached to a chain and not since detached. -/
def attachedSince (start : ServiceChains) (nschain : Nat)
    (history : List (ChainEvent × NsrmStatus)) : List (Name × UInt16) :=
  history.foldl (recordCall start nschain) []

/-- Every chain's list is strictly increasing by sequence number, has distinct names and
exactly the services attached and not since detached, and its counter is its length. -/
structure InOrder (start : ServiceChains) (run : ChainRun) : Prop where
  defined : run.state.undefined = false
  increasing : ∀ nschain, (run.state.servicesOf nschain).Pairwise
    (fun first second => first.sequenceNumber < second.sequenceNumber)
  distinct : ∀ nschain, ((run.state.servicesOf nschain).map (·.name)).Nodup
  exactly : ∀ nschain service,
    service ∈ (run.state.servicesOf nschain).map (fun entry => (entry.name, entry.sequenceNumber)) ↔
      service ∈ attachedSince start nschain run.history
  counted : ∀ nschain, (run.state.nschains.objects nschain).noOfNwServiceObjects.toNat =
    (run.state.servicesOf nschain).length

/-- The lists, the counters, the attach statuses and the pool are as they were. -/
structure Unchanged (state after : ServiceChains) : Prop where
  lists : ∀ nschain, (after.listOf nschain).linked = (state.listOf nschain).linked
  services : ∀ nschain, after.servicesOf nschain = state.servicesOf nschain
  counters : ∀ nschain, (after.nschains.objects nschain).noOfNwServiceObjects =
    (state.nschains.objects nschain).noOfNwServiceObjects
  statuses : ∀ nwservice, (after.nwservices.objects nwservice).attachStatus =
    (state.nwservices.objects nwservice).attachStatus
  pool : after.attachedPool = state.attachedPool

theorem Unchanged.rfl (state : ServiceChains) : Unchanged state state :=
  ⟨fun _ => Eq.refl _, fun _ => Eq.refl _, fun _ => Eq.refl _, fun _ => Eq.refl _, Eq.refl _⟩

/-- An attach or detach that returns an error changes nothing. -/
def FailsUnchanged (run : ChainRun) (event : ChainEvent) : Prop :=
  (applyEvent run.state event).2 ≠ .success → Unchanged run.state (applyEvent run.state event).1

/-- When a call does what it is for: an attachment that gets a block finds a table, or
creates it; a detachment that comes to its scan finds one. -/
def ChainEvent.Meets (run : ChainRun) : ChainEvent → Prop
  | .attach key supply =>
    match run.state.target key with
    | some (nschain, _) =>
      run.state.listOf nschain.node = .zeroed → run.state.attachedPool.get supply.block = none
    | none => True
  | .detach key =>
    match run.state.target key with
    | some (nschain, nwservice) =>
      (run.state.nwservices.objects nwservice.node).attachStatus ≠ 0 →
      (run.state.nwservices.objects nwservice.node).bypassAttachCount = 0 →
      run.state.listOf nschain.node ≠ .null
    | none => True
  | .reclaim _ => True

/-- Services and chains are registered, and nothing was attached yet. -/
structure Unattached (state : ServiceChains) : Prop where
  size : state.nwservices.table.maxNodes = nsrmMaxNwserviceObjectEntries
  lists : ∀ nschain, state.listOf nschain = .null
  counters : ∀ nschain, (state.nschains.objects nschain).noOfNwServiceObjects = 0
  pool : state.attachedPool.retired = []
  defined : state.undefined = false

/-! ## What the parts of a call leave alone -/

section Frames

variable {state : ServiceChains} {nschain nwservice : Nat} {list : ListPtr}
  {change : UInt8 → UInt8}

attribute [local simp] Registry.change

@[simp]
theorem listOf_setList_self : (state.setList nschain list).listOf nschain = list := by
  simp [listOf, setList]

theorem listOf_setList_ne {other : Nat} (apart : other ≠ nschain) :
    (state.setList nschain list).listOf other = state.listOf other := by
  simp [listOf, setList, apart]

@[simp]
theorem listOf_setList :
    (state.setList nschain list).listOf = Function.update state.listOf nschain list :=
  Function.eq_update_iff.mpr ⟨listOf_setList_self, fun _ apart => listOf_setList_ne apart⟩

variable (other : Nat)

theorem listOf_count : (state.count nschain change).listOf other = state.listOf other := by
  rcases eq_or_ne other nschain with rfl | apart
  · simp [listOf, count]
  · simp [listOf, count, apart]

@[simp]
theorem counter_setList :
    ((state.setList nschain list).nschains.objects other).noOfNwServiceObjects =
      (state.nschains.objects other).noOfNwServiceObjects := by
  rcases eq_or_ne other nschain with rfl | apart
  · simp [setList]
  · simp [setList, apart]

@[simp]
theorem counter_count_self :
    ((state.count nschain change).nschains.objects nschain).noOfNwServiceObjects =
      change (state.nschains.objects nschain).noOfNwServiceObjects := by
  simp [count]

theorem counter_count_ne {other : Nat} (apart : other ≠ nschain) :
    ((state.count nschain change).nschains.objects other).noOfNwServiceObjects =
      (state.nschains.objects other).noOfNwServiceObjects := by
  simp [count, apart]

variable (name : Name)

theorem nschains_named_setList :
    (state.setList nschain list).nschains.named NschainObject.name name =
      state.nschains.named NschainObject.name name := by
  dsimp only [setList]
  exact Registry.change_named rfl name

theorem nschains_named_count :
    (state.count nschain change).nschains.named NschainObject.name name =
      state.nschains.named NschainObject.name name := by
  dsimp only [count]
  exact Registry.change_named rfl name

theorem nwservices_named_markAttached :
    (state.markAttached nwservice).nwservices.named NwserviceObject.name name =
      state.nwservices.named NwserviceObject.name name := by
  dsimp only [markAttached]
  exact Registry.change_named rfl name

theorem name_markAttached :
    ((state.markAttached nwservice).nwservices.objects other).name =
      (state.nwservices.objects other).name := by
  rcases eq_or_ne other nwservice with rfl | apart
  · simp [markAttached]
  · simp [markAttached, apart]

theorem setList_listOf (state : ServiceChains) (nschain : Nat) :
    state.setList nschain (state.listOf nschain) = state := by
  have same : Function.update state.nschains.objects nschain (state.nschains.objects nschain) =
      state.nschains.objects := Function.update_eq_self _ _
  dsimp only [setList, listOf, Registry.change]
  rw [same]

variable {after : ServiceChains}

theorem servicesOf_congr (linked : (after.listOf nschain).linked = (state.listOf nschain).linked)
    (attached : ∀ entry ∈ (state.listOf nschain).linked,
      after.attached entry.node = state.attached entry.node) :
    after.servicesOf nschain = state.servicesOf nschain := by
  rw [servicesOf, servicesOf, linked]
  exact List.map_congr_left attached

theorem target_congr (nschains : ∀ name, after.nschains.named NschainObject.name name =
      state.nschains.named NschainObject.name name)
    (nwservices : ∀ name, after.nwservices.named NwserviceObject.name name =
      state.nwservices.named NwserviceObject.name name) (key : NwserviceAttachKey) :
    after.target key = state.target key := by
  simp only [target, nschains, nwservices]

end Frames

/-! ## The invariant -/

/-- The lists as above, linking blocks of their own that are in use, with the references of
the services that bear the names. -/
structure ChainsInv (state : ServiceChains) : Prop where
  defined : state.undefined = false
  size : state.nwservices.table.maxNodes = nsrmMaxNwserviceObjectEntries
  pool : state.attachedPool.Sound
  sizes : ∀ nschain entries, state.listOf nschain = .table entries →
    entries.free.length + entries.linked.length = nsrmMaxNschainNwserviceObjectEntries.1
  increasing : ∀ nschain, (state.servicesOf nschain).Pairwise
    (fun first second => first.sequenceNumber < second.sequenceNumber)
  distinct : ∀ nschain, ((state.servicesOf nschain).map (·.name)).Nodup
  counted : ∀ nschain, (state.nschains.objects nschain).noOfNwServiceObjects.toNat =
    (state.servicesOf nschain).length
  known : ∀ nschain, ∀ service ∈ state.servicesOf nschain, ∃ nwservice,
    state.nwservices.named NwserviceObject.name service.name = some nwservice ∧
      service.nwserviceObjectSaferef = nwservice.noderef
  owned : ∀ nschain, ∀ entry ∈ (state.listOf nschain).linked,
    entry.node ∈ state.attachedPool.inUse ∧ entry.node ∉ state.attachedPool.retired
  apart : ∀ first second, ∀ entry ∈ (state.listOf first).linked,
    ∀ other ∈ (state.listOf second).linked, entry.node = other.node → first = second ∧ entry = other

variable {state : ServiceChains}

/-- Chains without services have the invariant. -/
theorem Unattached.inv (start : Unattached state) : ChainsInv state := by
  have linked : ∀ nschain, (state.listOf nschain).linked = [] := by
    intro nschain
    rw [start.lists nschain]
    rfl
  have services : ∀ nschain, state.servicesOf nschain = [] := by
    intro nschain
    rw [servicesOf, linked nschain]
    rfl
  constructor
  case defined => exact start.defined
  case size => exact start.size
  case pool =>
    constructor
    case pending =>
      rw [start.pool]
      exact fun block member => absurd member List.not_mem_nil
    case once =>
      rw [start.pool]
      exact List.nodup_nil
  case sizes =>
    intro nschain entries held
    rw [start.lists nschain] at held
    cases held
  case counted =>
    intro nschain
    rw [start.counters nschain, services nschain]
    rfl
  all_goals simp [linked, services]

namespace ChainsInv

variable {state : ServiceChains}

theorem blockLists (inv : ChainsInv state) :
    BlockLists state.listOf state.attachedPool nsrmMaxNschainNwserviceObjectEntries.1 :=
  ⟨inv.pool, inv.sizes, inv.owned, inv.apart⟩

/-- A service that is not attached finds a free entry in the list. -/
theorem room (inv : ChainsInv state) {nschain : Nat} {entries : RefTable Nat}
    (list : state.listOf nschain = .table entries) {name : Name} {nwservice : LinkedNode Nat}
    (named : state.nwservices.named NwserviceObject.name name = some nwservice)
    (absent : ∀ service ∈ state.servicesOf nschain, service.name ≠ name) :
    entries.free ≠ [] := by
  have registered : ∀ {other : Name} {entry : LinkedNode Nat},
      state.nwservices.named NwserviceObject.name other = some entry →
      other ∈ state.nwservices.table.linked.map
        (fun entry => (state.nwservices.objects entry.node).name) := by
    intro other entry found
    have bears := (Registry.named_access found).2
    exact List.mem_map.mpr ⟨entry, List.mem_of_find?_eq_some found, bears⟩
  have nodup : (name :: (state.servicesOf nschain).map (·.name)).Nodup := by
    refine List.nodup_cons.mpr ⟨?_, inv.distinct nschain⟩
    intro member
    obtain ⟨service, serviceMem, same⟩ := List.mem_map.mp member
    exact absent service serviceMem same
  have within : (name :: (state.servicesOf nschain).map (·.name)) ⊆
      state.nwservices.table.linked.map
        (fun entry => (state.nwservices.objects entry.node).name) := by
    intro other member
    rcases List.mem_cons.mp member with rfl | listed
    · exact registered named
    · obtain ⟨service, serviceMem, rfl⟩ := List.mem_map.mp listed
      obtain ⟨entry, found, -⟩ := inv.known nschain service serviceMem
      exact registered found
  have fewer := (nodup.subperm within).length_le
  have bound := state.nwservices.table.length_linked_le
  rw [inv.size] at bound
  have sizes := inv.sizes nschain entries list
  intro full
  rw [full] at sizes
  rw [List.length_cons, List.length_map, List.length_map, servicesOf, list, List.length_map] at fewer
  simp only [ListPtr.linked, List.length_nil, nsrmMaxNwserviceObjectEntries,
    nsrmMaxNschainNwserviceObjectEntries] at *
  omega

end ChainsInv

/-! ## An insertion -/

/-- The state after a block was filled with a service and linked in the list of a chain. -/
def ServiceChains.withAttached (state : ServiceChains) (pool : BlockPool) (block : Nat)
    (service : NschainNwserviceObject) (nwservice nschain : Nat) (list : ListPtr) :
    ServiceChains :=
  let filled :=
    { state with
      attachedPool := pool
      attached := Function.update state.attached block service }
  ((filled.markAttached nwservice).setList nschain list).count nschain (· + 1)

/-- What an insertion of a service found and did: a block that was not in use, and a place
between the smaller and the larger sequence numbers. -/
structure Insertion (state : ServiceChains) (nschain block : Nat)
    (service : NschainNwserviceObject) (pool : BlockPool) (entries after : RefTable Nat)
    (before behind : List (LinkedNode Nat)) (noderef : MchashNoderef) : Prop where
  list : state.listOf nschain = .table entries
  cut : entries.linked = before ++ behind
  linked : after.linked = before ++ { noderef := noderef, node := block } :: behind
  sizes : after.free.length + after.linked.length = entries.free.length + entries.linked.length
  unused : block ∉ state.attachedPool.inUse
  inUse : pool.inUse = block :: state.attachedPool.inUse
  retired : pool.retired = state.attachedPool.retired
  sound : pool.Sound
  below : ∀ entry ∈ before, (state.attached entry.node).sequenceNumber < service.sequenceNumber
  above : ∀ entry ∈ behind, service.sequenceNumber < (state.attached entry.node).sequenceNumber
  absent : ∀ other ∈ state.servicesOf nschain, other.name ≠ service.name
  known : ∃ nwservice, state.nwservices.named NwserviceObject.name service.name = some nwservice ∧
    service.nwserviceObjectSaferef = nwservice.noderef

namespace Insertion

variable {state : ServiceChains} {nschain nwservice block : Nat}
  {service : NschainNwserviceObject} {pool : BlockPool} {entries after : RefTable Nat}
  {before behind : List (LinkedNode Nat)} {noderef : MchashNoderef}

theorem listOf_self (state : ServiceChains) :
    (state.withAttached pool block service nwservice nschain (.table after)).listOf nschain =
      .table after := by
  rw [withAttached, listOf_count, listOf_setList_self]

theorem listOf_other (state : ServiceChains) {other : Nat} (apart : other ≠ nschain) :
    (state.withAttached pool block service nwservice nschain (.table after)).listOf other =
      state.listOf other := by
  rw [withAttached, listOf_count, listOf_setList_ne apart]
  rfl

theorem attached_old (inv : ChainsInv state) (unused : block ∉ state.attachedPool.inUse)
    {other : Nat} {entry : LinkedNode Nat} (member : entry ∈ (state.listOf other).linked) :
    (state.withAttached pool block service nwservice nschain (.table after)).attached entry.node =
      state.attached entry.node := by
  apply Function.update_of_ne
  rintro rfl
  exact unused (inv.owned other entry member).1

theorem servicesOf_other (inv : ChainsInv state) (unused : block ∉ state.attachedPool.inUse)
    {other : Nat} (apart : other ≠ nschain) :
    (state.withAttached pool block service nwservice nschain (.table after)).servicesOf other =
      state.servicesOf other := by
  apply servicesOf_congr
  case linked => rw [listOf_other state apart]
  case attached => exact fun entry member => attached_old inv unused member

variable (insertion : Insertion state nschain block service pool entries after before behind noderef)

include insertion

theorem services_cut (inv : ChainsInv state) :
    state.servicesOf nschain =
        before.map (fun entry => state.attached entry.node) ++
          behind.map (fun entry => state.attached entry.node) ∧
      (state.withAttached pool block service nwservice nschain (.table after)).servicesOf nschain =
        before.map (fun entry => state.attached entry.node) ++
          service :: behind.map (fun entry => state.attached entry.node) := by
  rw [servicesOf, servicesOf, listOf_self]
  exact inv.blockLists.map_link insertion.list insertion.cut insertion.linked insertion.unused
    state.attached service

theorem increasing (inv : ChainsInv state) :
    ((state.withAttached pool block service nwservice nschain (.table after)).servicesOf
      nschain).Pairwise (fun first second => first.sequenceNumber < second.sequenceNumber) := by
  obtain ⟨old, new⟩ := insertion.services_cut inv
  have sorted := inv.increasing nschain
  rw [old] at sorted
  obtain ⟨front, back, across⟩ := List.pairwise_append.mp sorted
  rw [new]
  apply List.pairwise_append.mpr
  refine ⟨front, List.pairwise_cons.mpr ⟨?_, back⟩, ?_⟩
  · intro other member
    obtain ⟨entry, entryMem, rfl⟩ := List.mem_map.mp member
    exact insertion.above entry entryMem
  intro first firstMem second secondMem
  rcases List.mem_cons.mp secondMem with rfl | later
  · obtain ⟨entry, entryMem, rfl⟩ := List.mem_map.mp firstMem
    exact insertion.below entry entryMem
  · exact across first firstMem second later

theorem perm (inv : ChainsInv state) :
    ((state.withAttached pool block service nwservice nschain (.table after)).servicesOf
      nschain).Perm (service :: state.servicesOf nschain) := by
  obtain ⟨old, new⟩ := insertion.services_cut inv
  rw [old, new]
  exact List.perm_middle

theorem length_lt (inv : ChainsInv state) : (state.servicesOf nschain).length < 64 := by
  have sizes := inv.sizes nschain entries insertion.list
  have grown := insertion.sizes
  have added : after.linked.length = entries.linked.length + 1 := by
    rw [insertion.linked, insertion.cut, List.length_append, List.length_append, List.length_cons]
    omega
  rw [servicesOf, insertion.list, List.length_map]
  simp only [ListPtr.linked, nsrmMaxNschainNwserviceObjectEntries] at *
  omega

/-- The chains keep their invariant. -/
theorem inv (inv : ChainsInv state) :
    ChainsInv (state.withAttached pool block service nwservice nschain (.table after)) := by
  have named : ∀ name,
      (state.withAttached pool block service nwservice nschain (.table after)).nwservices.named
        NwserviceObject.name name = state.nwservices.named NwserviceObject.name name :=
    fun name => nwservices_named_markAttached name
  have lists := inv.blockLists.link insertion.list insertion.cut insertion.linked insertion.sizes
    insertion.unused insertion.inUse insertion.retired insertion.sound
  rw [← Function.eq_update_iff.mpr ⟨@listOf_self nschain nwservice block service pool after state,
    fun _ apart => listOf_other state apart⟩] at lists
  constructor
  case defined => exact inv.defined
  case size => exact inv.size
  case pool => exact insertion.sound
  case sizes => exact lists.sizes
  case increasing =>
    intro other
    rcases eq_or_ne other nschain with rfl | apart
    · exact insertion.increasing inv
    · rw [servicesOf_other inv insertion.unused apart]
      exact inv.increasing other
  case distinct =>
    intro other
    rcases eq_or_ne other nschain with rfl | apart
    · apply ((insertion.perm inv).map (·.name)).nodup_iff.mpr
      refine List.nodup_cons.mpr ⟨?_, inv.distinct other⟩
      intro member
      obtain ⟨old, oldMem, same⟩ := List.mem_map.mp member
      exact insertion.absent old oldMem same
    · rw [servicesOf_other inv insertion.unused apart]
      exact inv.distinct other
  case counted =>
    intro other
    rcases eq_or_ne other nschain with rfl | apart
    · rw [(insertion.perm inv).length_eq, List.length_cons, withAttached, counter_count_self,
        counter_setList]
      have small := insertion.length_lt inv
      have before := inv.counted other
      change ((state.nschains.objects other).noOfNwServiceObjects + 1).toNat = _
      rw [UInt8.toNat_add, before]
      change (_ + 1) % 256 = _
      exact Nat.mod_eq_of_lt (by omega)
    · rw [servicesOf_other inv insertion.unused apart, withAttached, counter_count_ne apart,
        counter_setList]
      exact inv.counted other
  case known =>
    intro other held member
    rw [named]
    rcases eq_or_ne other nschain with rfl | apart
    · rcases List.mem_cons.mp ((insertion.perm inv).mem_iff.mp member) with rfl | old
      · exact insertion.known
      · exact inv.known other held old
    · rw [servicesOf_other inv insertion.unused apart] at member
      exact inv.known other held member
  case owned => exact lists.owned
  case apart => exact lists.apart

end Insertion

/-- The state in which `insertAttached` starts: a block was taken, and filled with a
service that is marked as attached. -/
def ServiceChains.filled (state : ServiceChains) (pool : BlockPool) (block : Nat)
    (service : NschainNwserviceObject) (nwservice : Nat) : ServiceChains :=
  ({ state with
      attachedPool := pool
      attached := Function.update state.attached block service } : ServiceChains).markAttached
    nwservice

section Insert

variable {state : ServiceChains} {nschain block : Nat} {nwservice : LinkedNode Nat}
  {service : NschainNwserviceObject} {pool : BlockPool} {entries : RefTable Nat}

/-- Where the scan stops: behind the smaller sequence numbers and before the larger ones. -/
theorem nextOf_cut (inv : ChainsInv state) (list : state.listOf nschain = .table entries)
    (unused : block ∉ state.attachedPool.inUse)
    (absent : ∀ other ∈ state.servicesOf nschain, other.sequenceNumber ≠ service.sequenceNumber) :
    ∃ before behind, entries.linked = before ++ behind ∧
      (∀ entry ∈ before, (state.attached entry.node).sequenceNumber < service.sequenceNumber) ∧
      (∀ entry ∈ behind, service.sequenceNumber < (state.attached entry.node).sequenceNumber) ∧
      (state.filled pool block service nwservice.node).nextOf nschain service.sequenceNumber =
        behind.head? := by
  have old : ∀ entry ∈ entries.linked,
      (state.filled pool block service nwservice.node).attached entry.node =
        state.attached entry.node := by
    intro entry member
    apply Function.update_of_ne
    rintro rfl
    exact unused (inv.owned nschain entry (by rw [list]; exact member)).1
  have listed : ∀ entry ∈ entries.linked, state.attached entry.node ∈ state.servicesOf nschain := by
    intro entry member
    rw [servicesOf, list]
    exact List.mem_map.mpr ⟨entry, member, rfl⟩
  have counted := inv.counted nschain
  by_cases empty : (state.nschains.objects nschain).noOfNwServiceObjects = 0
  case pos =>
    rw [empty, servicesOf, list, List.length_map] at counted
    have none : entries.linked = [] := List.length_eq_zero_iff.mp counted.symm
    refine ⟨[], [], none, by simp, by simp, ?_⟩
    exact if_neg (not_not.mpr empty)
  case neg =>
    have scan : (state.filled pool block service nwservice.node).nextOf nschain
        service.sequenceNumber =
        entries.linked.find? (fun entry =>
          ¬ ((state.filled pool block service nwservice.node).attached
            entry.node).sequenceNumber < service.sequenceNumber) := by
      rw [nextOf, if_pos]
      case hc => exact empty
      change (state.listOf nschain).linked.find? _ = _
      rw [list]
      rfl
    rw [scan]
    cases found : entries.linked.find? (fun entry =>
        ¬ ((state.filled pool block service nwservice.node).attached
          entry.node).sequenceNumber < service.sequenceNumber) with
    | none =>
      refine ⟨entries.linked, [], (List.append_nil _).symm, ?_, by simp, rfl⟩
      intro entry member
      have passed := List.find?_eq_none.mp found entry member
      rw [old entry member] at passed
      simpa using passed
    | some next =>
    obtain ⟨stops, before, rest, cut, passed⟩ := List.find?_eq_some_iff_append.mp found
    have sorted := inv.increasing nschain
    rw [servicesOf, list] at sorted
    change (entries.linked.map _).Pairwise _ at sorted
    rw [cut] at sorted
    have nextMem : next ∈ entries.linked := by
      rw [cut]
      exact List.mem_append_right _ List.mem_cons_self
    rw [old next nextMem] at stops
    have larger : service.sequenceNumber < (state.attached next.node).sequenceNumber := by
      apply UInt16.lt_of_le_of_ne
      · exact UInt16.not_lt.mp (of_decide_eq_true stops)
      · exact (absent _ (listed next nextMem)).symm
    refine ⟨before, next :: rest, cut, ?_, ?_, rfl⟩
    · intro entry member
      have stepped := passed entry member
      rw [old entry (cut ▸ List.mem_append_left _ member)] at stepped
      simpa using stepped
    intro entry member
    rcases List.mem_cons.mp member with rfl | later
    · exact larger
    · have ordered := (List.pairwise_append.mp (List.pairwise_map.mp sorted)).2.1
      exact UInt16.lt_trans larger ((List.pairwise_cons.mp ordered).1 entry later)

/-- The second half of an attachment inserts the service in its place. -/
theorem insertAttached_spec (inv : ChainsInv state)
    (list : state.listOf nschain = .table entries) {choice : Option Nat}
    (got : state.attachedPool.get choice = some (pool, block))
    (absent : ∀ other ∈ state.servicesOf nschain,
      other.sequenceNumber ≠ service.sequenceNumber ∧ other.name ≠ service.name)
    (named : state.nwservices.named NwserviceObject.name service.name = some nwservice)
    (saferef : service.nwserviceObjectSaferef = nwservice.noderef) :
    ∃ after before behind noderef,
      insertAttached (state.filled pool block service nwservice.node) nschain block =
        (state.withAttached pool block service nwservice.node nschain (.table after), .success) ∧
      Insertion state nschain block service pool entries after before behind noderef := by
  obtain ⟨unused, inUse, retired⟩ := BlockPool.get_some got
  obtain ⟨before, behind, cut, below, above, stops⟩ :=
    nextOf_cut inv list unused (fun other member => (absent other member).1)
  have room := inv.room list named (fun other member => (absent other member).2)
  have filledSeq : ((state.filled pool block service nwservice.node).attached
      block).sequenceNumber = service.sequenceNumber :=
    congrArg NschainNwserviceObject.sequenceNumber (Function.update_self _ _ _)
  have filledList : (state.filled pool block service nwservice.node).listOf nschain =
      .table entries := list
  have insertion : ∀ result, ListPtr.Inserted entries before behind block result →
      ∃ after noderef, result = (.table after, some noderef) ∧
        Insertion state nschain block service pool entries after before behind noderef := by
    rintro _ ⟨after, noderef, rfl, linked, sizes⟩
    exact ⟨after, noderef, rfl, list, cut, linked, sizes, unused, inUse, retired,
      inv.pool.get got, below, above, fun other member => (absent other member).2, nwservice,
      named, saferef⟩
  rw [insertAttached, filledSeq, stops]
  cases behind with
  | nil =>
    have whole : entries.linked = before := by rw [cut, List.append_nil]
    obtain ⟨after, noderef, appended, inserted⟩ :=
      insertion _ (whole ▸ ListPtr.append_inserted room)
    refine ⟨after, before, [], noderef, ?_, inserted⟩
    simp only [List.head?_nil, filledList, appended]
    rfl
  | cons next rest =>
  obtain ⟨after, noderef, placed, inserted⟩ :=
    insertion _ (ListPtr.insertBefore_inserted room cut)
  refine ⟨after, before, next :: rest, noderef, ?_, inserted⟩
  simp only [List.head?_cons, filledList, placed]
  rfl

end Insert

/-! ## An attachment -/

/-- The same names are registered for the same services and chains. -/
structure SameRegistries (state after : ServiceChains) : Prop where
  nschains : ∀ name, after.nschains.named NschainObject.name name =
    state.nschains.named NschainObject.name name
  nwservices : ∀ name, after.nwservices.named NwserviceObject.name name =
    state.nwservices.named NwserviceObject.name name
  names : ∀ nwservice, (after.nwservices.objects nwservice).name =
    (state.nwservices.objects nwservice).name

namespace SameRegistries

variable {state middle after : ServiceChains}

theorem rfl (state : ServiceChains) : SameRegistries state state :=
  ⟨fun _ => Eq.refl _, fun _ => Eq.refl _, fun _ => Eq.refl _⟩

theorem trans (first : SameRegistries state middle) (second : SameRegistries middle after) :
    SameRegistries state after where
  nschains name := (second.nschains name).trans (first.nschains name)
  nwservices name := (second.nwservices name).trans (first.nwservices name)
  names nwservice := (second.names nwservice).trans (first.names nwservice)

theorem target (same : SameRegistries state after) (key : NwserviceAttachKey) :
    after.target key = state.target key :=
  target_congr same.nschains same.nwservices key

theorem setList (state : ServiceChains) (nschain : Nat) (list : ListPtr) :
    SameRegistries state (state.setList nschain list) where
  nschains := nschains_named_setList
  nwservices := fun _ => Eq.refl _
  names := fun _ => Eq.refl _

theorem count (state : ServiceChains) (nschain : Nat) (change : UInt8 → UInt8) :
    SameRegistries state (state.count nschain change) where
  nschains := nschains_named_count
  nwservices := fun _ => Eq.refl _
  names := fun _ => Eq.refl _

theorem withAttached (state : ServiceChains) (pool : BlockPool) (block : Nat)
    (service : NschainNwserviceObject) (nwservice nschain : Nat) (list : ListPtr) :
    SameRegistries state (state.withAttached pool block service nwservice nschain list) where
  nschains := by
    intro name
    rw [ServiceChains.withAttached, nschains_named_count, nschains_named_setList]
    exact Eq.refl _
  nwservices := fun name => nwservices_named_markAttached name
  names := fun other => name_markAttached other

end SameRegistries

/-- What a successful attachment does to the lists. -/
structure Attached (state after : ServiceChains) (nschain : Nat) (name : Name)
    (sequenceNumber : UInt16) : Prop where
  perm : ∃ service : NschainNwserviceObject,
    service.name = name ∧ service.sequenceNumber = sequenceNumber ∧
      (after.servicesOf nschain).Perm (service :: state.servicesOf nschain)
  others : ∀ other, other ≠ nschain → after.servicesOf other = state.servicesOf other

/-- A chain whose list is made anew, and empty, keeps the invariant. -/
theorem relist {state : ServiceChains} (inv : ChainsInv state) {nschain : Nat} {list : ListPtr}
    (before : (state.listOf nschain).linked = []) (after : list.linked = [])
    (sizes : ∀ entries, list = .table entries →
      entries.free.length + entries.linked.length = nsrmMaxNschainNwserviceObjectEntries.1) :
    ChainsInv (state.setList nschain list) ∧ Unchanged state (state.setList nschain list) := by
  have lists := inv.blockLists.relist before after sizes
  have linked := BlockLists.linked_relist before after
  rw [← listOf_setList] at lists linked
  have services : ∀ other, (state.setList nschain list).servicesOf other =
      state.servicesOf other := by
    intro other
    exact servicesOf_congr (linked other) (fun _ _ => rfl)
  constructor
  · constructor
    case defined => exact inv.defined
    case size => exact inv.size
    case pool => exact inv.pool
    case sizes => exact lists.sizes
    case increasing =>
      intro other
      rw [services]
      exact inv.increasing other
    case distinct =>
      intro other
      rw [services]
      exact inv.distinct other
    case counted =>
      intro other
      rw [services, counter_setList]
      exact inv.counted other
    case known =>
      intro other service member
      rw [services] at member
      exact inv.known other service member
    case owned => exact lists.owned
    case apart => exact lists.apart
  · exact ⟨linked, services, counter_setList, fun _ => rfl, rfl⟩

/-- An attach with memory is exact. -/
theorem attachToNschain_spec (inv : ChainsInv state) {nschain : Nat} {name : Name}
    {nwservice : LinkedNode Nat} {sequenceNumber : UInt16} {supply : Supply}
    (usable : (∃ entries, state.listOf nschain = .table entries) ∨
      state.attachedPool.get supply.block = none)
    (named : state.nwservices.named NwserviceObject.name name = some nwservice) :
    (attachToNschain state nschain nwservice name sequenceNumber supply = (state, .failure)) ∨
    (∃ after, attachToNschain state nschain nwservice name sequenceNumber supply =
        (after, .success) ∧
      ChainsInv after ∧ SameRegistries state after ∧
      Attached state after nschain name sequenceNumber) := by
  have bears := (Registry.named_access named).2
  unfold attachToNschain
  split
  · exact .inl rfl
  rename_i unoccupied
  cases got : state.attachedPool.get supply.block with
  | none => exact .inl rfl
  | some taken =>
  obtain ⟨pool, block⟩ := taken
  right
  obtain ⟨entries, list⟩ := usable.resolve_right (by rw [got]; exact nofun)
  have absent : ∀ other ∈ state.servicesOf nschain,
      other.sequenceNumber ≠ sequenceNumber ∧ other.name ≠ name := by
    intro other member
    have passed := unoccupied
    rw [List.any_eq_true] at passed
    constructor
    · exact fun same => passed ⟨other, member, decide_eq_true (.inl same)⟩
    · exact fun same => passed ⟨other, member, decide_eq_true (.inr same)⟩
  obtain ⟨final, before, behind, noderef, inserted, insertion⟩ :=
    @insertAttached_spec state nschain block nwservice
      ⟨(state.nwservices.objects nwservice.node).name, nwservice.noderef, sequenceNumber⟩
      pool entries inv list _ got (by rw [bears]; exact absent)
      (by rw [bears]; exact named) rfl
  refine ⟨_, inserted, insertion.inv inv, SameRegistries.withAttached .., ?_⟩
  constructor
  case perm => exact ⟨_, bears, rfl, insertion.perm inv⟩
  case others =>
    exact fun other apart => Insertion.servicesOf_other inv insertion.unused apart

/-- The name of the service that a linked node of the registry stands for. -/
def ServiceChains.serviceName (state : ServiceChains) (nwservice : LinkedNode Nat) : Name :=
  (state.nwservices.objects nwservice.node).name

/-- A call keeps the invariant; it fails and changes nothing, or it succeeds and what it is for
is done to the chain and the service of its key. -/
abbrev CallOutcome (state : ServiceChains) (key : NwserviceAttachKey)
    (Done : LinkedNode Nat → LinkedNode Nat → ServiceChains → Prop)
    (result : ServiceChains × NsrmStatus) : Prop :=
  ∃ after status, result = (after, status) ∧ ChainsInv after ∧ SameRegistries state after ∧
    ((status ≠ .success ∧ Unchanged state after) ∨
      (status = .success ∧ ∃ nschain nwservice, state.target key = some (nschain, nwservice) ∧
        Done nschain nwservice after))

theorem refused_outcome (inv : ChainsInv state) {key : NwserviceAttachKey}
    {Done : LinkedNode Nat → LinkedNode Nat → ServiceChains → Prop} (status : NsrmStatus)
    (error : status ≠ .success) : CallOutcome state key Done (state, status) :=
  ⟨state, status, rfl, inv, SameRegistries.rfl state, .inl ⟨error, Unchanged.rfl state⟩⟩

def AttachedBy (state : ServiceChains) (key : NwserviceAttachKey)
    (nschain nwservice : LinkedNode Nat) (after : ServiceChains) : Prop :=
  Attached state after nschain.node (state.serviceName nwservice) key.sequenceNumber

/-- An attach that meets its condition is exact. -/
theorem attach_spec (inv : ChainsInv state) (key : NwserviceAttachKey) (supply : Supply)
    (meets : ∀ nschain nwservice, state.target key = some (nschain, nwservice) →
      state.listOf nschain.node = .zeroed → state.attachedPool.get supply.block = none) :
    CallOutcome state key (AttachedBy state key)
      (attachNwserviceObjectToNschainObject state key supply) := by
  have refused := @refused_outcome state inv key (AttachedBy state key)
  unfold attachNwserviceObjectToNschainObject
  cases keyName : key.name with
  | none => exact refused _ nofun
  | some name =>
  cases keyChain : key.nschainObjectName with
  | none => exact refused _ nofun
  | some nschainName =>
  dsimp only
  cases chainFound : state.nschains.named NschainObject.name nschainName with
  | none => exact refused _ nofun
  | some nschain =>
  dsimp only
  cases serviceFound : state.nwservices.named NwserviceObject.name name with
  | none => exact refused _ nofun
  | some nwservice =>
  have targeted : state.target key = some (nschain, nwservice) := by
    simp only [target, keyName, keyChain, chainFound, serviceFound]
  have bears : state.serviceName nwservice = name := (Registry.named_access serviceFound).2
  -- the call on the table, once the table is there
  have onTable : ∀ list, ChainsInv (state.setList nschain.node list) →
      Unchanged state (state.setList nschain.node list) →
      ((∃ entries, list = .table entries) ∨ state.attachedPool.get supply.block = none) →
      CallOutcome state key (AttachedBy state key)
        (attachToNschain (state.setList nschain.node list) nschain.node nwservice name
          key.sequenceNumber supply) := by
    intro list listInv unchanged usable
    have same := SameRegistries.setList state nschain.node list
    have named : (state.setList nschain.node list).nwservices.named NwserviceObject.name name =
        some nwservice := (same.nwservices name).trans serviceFound
    have held : (state.setList nschain.node list).listOf nschain.node = list :=
      listOf_setList_self
    rw [← held] at usable
    rcases attachToNschain_spec listInv usable named with failed |
      ⟨after, done, afterInv, afterSame, attached⟩
    · exact ⟨_, _, failed, listInv, same, .inl ⟨nofun, unchanged⟩⟩
    refine ⟨_, _, done, afterInv, same.trans afterSame, .inr ⟨rfl, nschain, nwservice, targeted, ?_⟩⟩
    rw [AttachedBy, bears]
    constructor
    case perm =>
      obtain ⟨service, nameEq, seqEq, perm⟩ := attached.perm
      rw [unchanged.services] at perm
      exact ⟨service, nameEq, seqEq, perm⟩
    case others =>
      intro other apart
      rw [attached.others other apart, unchanged.services]
  cases list : state.listOf nschain.node with
  | null =>
    have empty : (state.listOf nschain.node).linked = [] := by
      rw [list]
      rfl
    cases created : supply.created with
    | true =>
      simp only [ListPtr.ensure, created, if_true]
      obtain ⟨listInv, unchanged⟩ :=
        @relist state inv nschain.node
          (.table (RefTable.create nsrmMaxNschainNwserviceObjectEntries)) empty rfl (by
            intro entries same
            cases same
            simp [RefTable.create])
      exact onTable _ listInv unchanged (.inl ⟨_, rfl⟩)
    | false =>
    simp only [ListPtr.ensure, created]
    obtain ⟨listInv, unchanged⟩ :=
      @relist state inv nschain.node (if supply.allocated then .zeroed else .null) empty
        (by split <;> rfl) (by
          intro entries same
          split at same <;> cases same)
    exact ⟨_, _, rfl, listInv, SameRegistries.setList .., .inl ⟨nofun, unchanged⟩⟩
  | zeroed =>
    have empty : (state.listOf nschain.node).linked = [] := by
      rw [list]
      rfl
    obtain ⟨listInv, unchanged⟩ := @relist state inv nschain.node .zeroed empty rfl nofun
    exact onTable _ listInv unchanged (.inr (meets nschain nwservice targeted list))
  | table entries =>
  simp only [ListPtr.ensure]
  have kept : state.setList nschain.node (.table entries) = state := by
    rw [← list]
    exact setList_listOf state nschain.node
  have onState := onTable (.table entries)
  rw [kept] at onState ⊢
  exact onState inv (Unchanged.rfl state) (.inl ⟨_, rfl⟩)

/-! ## A detachment -/

/-- What a successful detachment does to the lists. -/
structure Detached (state after : ServiceChains) (nschain : Nat) (name : Name) : Prop where
  removed : ∃ before service behind,
    service.name = name ∧ state.servicesOf nschain = before ++ service :: behind ∧
      after.servicesOf nschain = before ++ behind
  others : ∀ other, other ≠ nschain → after.servicesOf other = state.servicesOf other

/-- The state after a node was unlinked from the list of a chain and handed to the free
function. -/
def ServiceChains.withDetached (state : ServiceChains) (nschain : Nat) (list : ListPtr)
    (block : Nat) : ServiceChains :=
  { (state.setList nschain list).count nschain (· - 1) with
    attachedPool := state.attachedPool.retire block }

/-- What a removal finds and does. -/
structure Removal (state : ServiceChains) (nschain : Nat) (entries after : RefTable Nat)
    (before : List (LinkedNode Nat)) (entry : LinkedNode Nat)
    (behind : List (LinkedNode Nat)) : Prop where
  list : state.listOf nschain = .table entries
  cut : entries.linked = before ++ entry :: behind
  linked : after.linked = before ++ behind
  sizes : after.free.length + after.linked.length = entries.free.length + entries.linked.length

namespace Removal

variable {state : ServiceChains} {nschain : Nat} {entries after : RefTable Nat}
  {before behind : List (LinkedNode Nat)} {entry : LinkedNode Nat}

theorem listOf_self (state : ServiceChains) :
    (state.withDetached nschain (.table after) entry.node).listOf nschain = .table after := by
  change ((state.setList nschain (.table after)).count nschain (· - 1)).listOf nschain = _
  rw [listOf_count, listOf_setList_self]

theorem listOf_other (state : ServiceChains) {other : Nat} (apart : other ≠ nschain) :
    (state.withDetached nschain (.table after) entry.node).listOf other = state.listOf other := by
  change ((state.setList nschain (.table after)).count nschain (· - 1)).listOf other = _
  rw [listOf_count, listOf_setList_ne apart]

theorem servicesOf_other (state : ServiceChains) {other : Nat} (apart : other ≠ nschain) :
    (state.withDetached nschain (.table after) entry.node).servicesOf other =
      state.servicesOf other := by
  apply servicesOf_congr
  case linked => rw [listOf_other state apart]
  case attached => exact fun _ _ => rfl

variable (removal : Removal state nschain entries after before entry behind)

include removal

theorem services_cut :
    state.servicesOf nschain =
        before.map (fun entry => state.attached entry.node) ++
          state.attached entry.node :: behind.map (fun entry => state.attached entry.node) ∧
      (state.withDetached nschain (.table after) entry.node).servicesOf nschain =
        before.map (fun entry => state.attached entry.node) ++
          behind.map (fun entry => state.attached entry.node) := by
  constructor
  · rw [servicesOf, removal.list]
    change entries.linked.map _ = _
    rw [removal.cut, List.map_append, List.map_cons]
  · rw [servicesOf, listOf_self]
    change after.linked.map _ = _
    rw [removal.linked, List.map_append]
    rfl

theorem sublist :
    ((state.withDetached nschain (.table after) entry.node).servicesOf nschain).Sublist
      (state.servicesOf nschain) := by
  obtain ⟨old, new⟩ := removal.services_cut
  rw [old, new]
  exact (List.Sublist.refl _).append (List.sublist_cons_self _ _)

/-- A detached service keeps the invariant. -/
theorem inv (inv : ChainsInv state) :
    ChainsInv (state.withDetached nschain (.table after) entry.node) := by
  have lists := inv.blockLists.unlink removal.list removal.cut removal.linked removal.sizes
  rw [← Function.eq_update_iff.mpr ⟨@listOf_self nschain after entry state,
    fun _ apart => listOf_other state apart⟩] at lists
  constructor
  case defined => exact inv.defined
  case size => exact inv.size
  case pool => exact lists.sound
  case sizes => exact lists.sizes
  case increasing =>
    intro other
    rcases eq_or_ne other nschain with rfl | apart
    · exact (inv.increasing other).sublist removal.sublist
    · rw [servicesOf_other state apart]
      exact inv.increasing other
  case distinct =>
    intro other
    rcases eq_or_ne other nschain with rfl | apart
    · exact (inv.distinct other).sublist (removal.sublist.map _)
    · rw [servicesOf_other state apart]
      exact inv.distinct other
  case counted =>
    intro other
    rcases eq_or_ne other nschain with rfl | apart
    · obtain ⟨old, new⟩ := removal.services_cut
      have counted := inv.counted other
      have counter : ((state.withDetached other (.table after) entry.node).nschains.objects
          other).noOfNwServiceObjects = (state.nschains.objects other).noOfNwServiceObjects - 1 := by
        change (((state.setList other (.table after)).count other (· - 1)).nschains.objects
          other).noOfNwServiceObjects = _
        rw [counter_count_self, counter_setList]
      rw [old, List.length_append, List.length_cons] at counted
      rw [counter, new, List.length_append]
      have positive : (1 : UInt8) ≤ (state.nschains.objects other).noOfNwServiceObjects := by
        rw [UInt8.le_iff_toNat_le, counted]
        change 1 ≤ _
        omega
      rw [UInt8.toNat_sub_of_le _ _ positive, counted]
      change _ - 1 = _
      omega
    · rw [servicesOf_other state apart]
      change (((state.setList nschain (.table after)).count nschain (· - 1)).nschains.objects
        other).noOfNwServiceObjects.toNat = _
      rw [counter_count_ne apart, counter_setList]
      exact inv.counted other
  case known =>
    intro other service member
    rcases eq_or_ne other nschain with rfl | apart
    · exact inv.known other service (removal.sublist.mem member)
    · rw [servicesOf_other state apart] at member
      exact inv.known other service member
  case owned => exact lists.owned
  case apart => exact lists.apart

end Removal

theorem removeAttached_spec (inv : ChainsInv state) {nschain : Nat} {entry : LinkedNode Nat}
    (member : entry ∈ (state.listOf nschain).linked) :
    ∃ after, removeAttached state nschain entry = (after, .success) ∧
      ChainsInv after ∧ SameRegistries state after ∧
      Detached state after nschain (state.attached entry.node).name := by
  obtain ⟨entries, final, before, behind, list, deleted, cut, rest, sizes⟩ :=
    ListPtr.deleteByRef_cut member
  have removal : Removal state nschain entries final before entry behind :=
    ⟨list, cut, rest, sizes⟩
  refine ⟨state.withDetached nschain (.table final) entry.node, ?_, removal.inv inv, ?_, ?_⟩
  · simp only [removeAttached, deleted]
    rfl
  · have counted := SameRegistries.count (state.setList nschain (.table final)) nschain (· - 1)
    exact (SameRegistries.setList state nschain (.table final)).trans
      ⟨counted.nschains, counted.nwservices, counted.names⟩
  · obtain ⟨old, new⟩ := removal.services_cut
    constructor
    case removed => exact ⟨_, _, _, rfl, old, new⟩
    case others => exact fun other apart => Removal.servicesOf_other state apart

def DetachedBy (state : ServiceChains) (nschain nwservice : LinkedNode Nat)
    (after : ServiceChains) : Prop :=
  Detached state after nschain.node (state.serviceName nwservice)

/-- A detachment keeps the invariant; it fails and changes nothing, or it succeeds and the
service is not in the list of the chain any more. -/
theorem detach_spec (inv : ChainsInv state) (key : NwserviceAttachKey)
    (meets : ∀ nschain nwservice, state.target key = some (nschain, nwservice) →
      (state.nwservices.objects nwservice.node).attachStatus ≠ 0 →
      (state.nwservices.objects nwservice.node).bypassAttachCount = 0 →
      state.listOf nschain.node ≠ .null) :
    CallOutcome state key (DetachedBy state)
      (detachNwserviceObjectFromNschainObject state key) := by
  have refused := @refused_outcome state inv key (DetachedBy state)
  unfold detachNwserviceObjectFromNschainObject
  cases keyName : key.name with
  | none => exact refused _ (by simp)
  | some name =>
  cases keyChain : key.nschainObjectName with
  | none => exact refused _ (by simp)
  | some nschainName =>
  dsimp only
  cases serviceFound : state.nwservices.named NwserviceObject.name name with
  | none => exact refused _ (by simp)
  | some nwservice =>
  dsimp only
  by_cases attached : (state.nwservices.objects nwservice.node).attachStatus = 0
  case pos =>
    rw [if_pos attached]
    exact refused _ (by simp)
  rw [if_neg attached]
  by_cases bypassed : (state.nwservices.objects nwservice.node).bypassAttachCount ≠ 0
  case pos =>
    rw [if_pos bypassed]
    exact refused _ (by simp)
  rw [if_neg bypassed]
  cases chainFound : state.nschains.named NschainObject.name nschainName with
  | none => exact refused _ (by simp)
  | some nschain =>
  dsimp only
  have targeted : state.target key = some (nschain, nwservice) := by
    simp only [target, keyName, keyChain, chainFound, serviceFound]
  have bears : state.serviceName nwservice = name := (Registry.named_access serviceFound).2
  have present := meets nschain nwservice targeted attached (not_not.mp bypassed)
  cases found : (state.listOf nschain.node).linked.find? (fun entry =>
      (state.attached entry.node).name = name ∧
        (state.attached entry.node).nwserviceObjectSaferef = nwservice.noderef) with
  | none =>
    simp only [detachFromNschain, found]
    exact refused _ (by simp)
  | some entry =>
  have held := List.find?_some found
  have named : (state.attached entry.node).name = name := (of_decide_eq_true held).1
  obtain ⟨after, removed, afterInv, same, detached⟩ :=
    removeAttached_spec inv (List.mem_of_find?_eq_some found)
  refine ⟨after, .success, ?_, afterInv, same, .inr ⟨rfl, nschain, nwservice, targeted, ?_⟩⟩
  · simp only [detachFromNschain, found]
    exact removed
  rw [DetachedBy, bears, ← named]
  exact detached

/-! ## Runs -/

theorem reclaim_spec (inv : ChainsInv state) (block : Nat) :
    ChainsInv { state with attachedPool := state.attachedPool.reclaim block } where
  defined := inv.defined
  size := inv.size
  pool := inv.pool.reclaim block
  sizes := inv.sizes
  increasing := inv.increasing
  distinct := inv.distinct
  counted := inv.counted
  known := inv.known
  owned := (inv.blockLists.reclaim block).owned
  apart := inv.apart

/-- The services of a list as the ledger has them. -/
def ServiceChains.entriesOf (state : ServiceChains) (nschain : Nat) : List (Name × UInt16) :=
  (state.servicesOf nschain).map (fun service => (service.name, service.sequenceNumber))

variable {after : ServiceChains} {nschain : Nat} {name : Name}

theorem Attached.mem_entriesOf {sequenceNumber : UInt16}
    (attached : Attached state after nschain name sequenceNumber) (service : Name × UInt16) :
    service ∈ after.entriesOf nschain ↔
      service ∈ (name, sequenceNumber) :: state.entriesOf nschain := by
  obtain ⟨added, rfl, rfl, perm⟩ := attached.perm
  exact (perm.map (fun service => (service.name, service.sequenceNumber))).mem_iff

/-- A detach takes the named service away, and no other. -/
theorem Detached.mem_entriesOf (inv : ChainsInv state)
    (detached : Detached state after nschain name) (service : Name × UInt16) :
    service ∈ after.entriesOf nschain ↔
      service ∈ (state.entriesOf nschain).filter (fun entry => entry.1 ≠ name) := by
  obtain ⟨before, removed, behind, rfl, old, new⟩ := detached.removed
  have distinct := inv.distinct nschain
  rw [old, List.map_append, List.map_cons] at distinct
  have gone := (List.nodup_cons.mp (List.nodup_middle.mp distinct)).1
  rw [← List.map_append] at gone
  have differ : ∀ entry ∈ before ++ behind, entry.name ≠ removed.name :=
    fun entry member same => gone (List.mem_map.mpr ⟨entry, member, same⟩)
  rw [List.mem_filter, entriesOf, entriesOf, new, old]
  constructor
  · intro member
    obtain ⟨entry, entryMem, rfl⟩ := List.mem_map.mp member
    refine ⟨List.mem_map.mpr ⟨entry, ?_, rfl⟩, decide_eq_true (differ entry entryMem)⟩
    simp only [List.mem_append, List.mem_cons] at entryMem ⊢
    tauto
  rintro ⟨member, other⟩
  obtain ⟨entry, entryMem, rfl⟩ := List.mem_map.mp member
  refine List.mem_map.mpr ⟨entry, ?_, rfl⟩
  have apart : entry ≠ removed := by
    rintro rfl
    exact of_decide_eq_true other rfl
  simp only [List.mem_append, List.mem_cons] at entryMem ⊢
  tauto

/-- What holds along a run: the invariant, the registries of its start, and the lists that
its history tells. -/
structure Tracked (start : ServiceChains) (run : ChainRun) : Prop where
  inv : ChainsInv run.state
  registries : SameRegistries start run.state
  exactly : ∀ nschain service, service ∈ run.state.entriesOf nschain ↔
    service ∈ attachedSince start nschain run.history

namespace Tracked

variable {start : ServiceChains} {run : ChainRun}

theorem attachedSince_step (event : ChainEvent) (nschain : Nat) :
    attachedSince start nschain (run.step event).history =
      recordCall start nschain (attachedSince start nschain run.history)
        (event, (applyEvent run.state event).2) := by
  simp only [attachedSince, ChainRun.step, List.foldl_append, List.foldl_cons, List.foldl_nil]

theorem unchanged (tracked : Tracked start run) {event : ChainEvent}
    {after : ServiceChains} {status : NsrmStatus}
    (applied : applyEvent run.state event = (after, status)) (error : status ≠ .success)
    (same : Unchanged run.state after) (nschain : Nat) (service : Name × UInt16) :
    service ∈ after.entriesOf nschain ↔
      service ∈ attachedSince start nschain (run.step event).history := by
  have recorded : recordCall start nschain (attachedSince start nschain run.history)
      (event, status) = attachedSince start nschain run.history := by
    cases status with
    | success => exact absurd rfl error
    | _ => cases event <;> rfl
  rw [attachedSince_step, applied, recorded, ← tracked.exactly, entriesOf, same.services]
  rfl

theorem serviceName_eq (tracked : Tracked start run) (nwservice : LinkedNode Nat) :
    (start.nwservices.objects nwservice.node).name = run.state.serviceName nwservice :=
  (tracked.registries.names nwservice.node).symm

theorem called (tracked : Tracked start run) {event : ChainEvent} {key : NwserviceAttachKey}
    {Done : LinkedNode Nat → LinkedNode Nat → ServiceChains → Prop}
    (outcome : CallOutcome run.state key Done (applyEvent run.state event))
    (recorded : ∀ nschain nwservice after, start.target key = some (nschain, nwservice) →
      Done nschain nwservice after → ∀ other service, service ∈ after.entriesOf other ↔
        service ∈ recordCall start other (attachedSince start other run.history)
          (event, .success)) :
    Tracked start (run.step event) ∧ FailsUnchanged run event := by
  obtain ⟨after, status, result, inv, same, outcome⟩ := outcome
  have stateEq : (run.step event).state = after := congrArg Prod.fst result
  rw [FailsUnchanged, result]
  rcases outcome with ⟨error, unchanged⟩ | ⟨rfl, nschain, nwservice, targeted, done⟩
  · refine ⟨⟨stateEq ▸ inv, stateEq ▸ tracked.registries.trans same, ?_⟩, fun _ => unchanged⟩
    rw [stateEq]
    exact tracked.unchanged result error unchanged
  refine ⟨⟨stateEq ▸ inv, stateEq ▸ tracked.registries.trans same, ?_⟩,
    fun error => absurd rfl error⟩
  intro other service
  have startTarget := (tracked.registries.target key).symm.trans targeted
  rw [stateEq, attachedSince_step, result]
  exact recorded nschain nwservice after startTarget done other service

/-- An event that meets its condition keeps the history, and fails without effect. -/
theorem step (tracked : Tracked start run) {event : ChainEvent} (meets : event.Meets run) :
    Tracked start (run.step event) ∧ FailsUnchanged run event := by
  cases event with
  | attach key supply =>
    refine tracked.called (attach_spec tracked.inv key supply ?_) ?_
    · intro nschain nwservice targeted
      simp only [ChainEvent.Meets, targeted] at meets
      exact meets
    intro nschain nwservice after startTarget attached other service
    simp only [recordCall, startTarget, tracked.serviceName_eq]
    split
    · rename_i addressed
      subst addressed
      rw [attached.mem_entriesOf, List.mem_cons, List.mem_cons, tracked.exactly]
    · rename_i elsewhere
      rw [entriesOf, attached.others other (Ne.symm elsewhere)]
      exact tracked.exactly other service
  | detach key =>
    refine tracked.called (detach_spec tracked.inv key ?_) ?_
    · intro nschain nwservice targeted
      simp only [ChainEvent.Meets, targeted] at meets
      exact meets
    intro nschain nwservice after startTarget detached other service
    simp only [recordCall, startTarget, tracked.serviceName_eq]
    split
    · rename_i addressed
      subst addressed
      rw [detached.mem_entriesOf tracked.inv, List.mem_filter, List.mem_filter, tracked.exactly]
    · rename_i elsewhere
      rw [entriesOf, detached.others other (Ne.symm elsewhere)]
      exact tracked.exactly other service
  | reclaim block =>
  refine ⟨⟨reclaim_spec tracked.inv block, ?_, ?_⟩, fun error => absurd rfl error⟩
  · exact ⟨tracked.registries.nschains, tracked.registries.nwservices, tracked.registries.names⟩
  · intro other service
    rw [attachedSince_step]
    exact tracked.exactly other service

theorem inOrder (tracked : Tracked start run) : InOrder start run where
  defined := tracked.inv.defined
  increasing := tracked.inv.increasing
  distinct := tracked.inv.distinct
  exactly := tracked.exactly
  counted := tracked.inv.counted

end Tracked

theorem Unattached.tracked {start : ServiceChains} (unattached : Unattached start) :
    Tracked start { state := start, history := [] } where
  inv := unattached.inv
  registries := SameRegistries.rfl start
  exactly := by
    intro nschain service
    have empty : start.entriesOf nschain = [] := by
      rw [entriesOf, servicesOf, unattached.lists nschain]
      rfl
    rw [empty]
    exact Iff.rfl

def detachEvent (nschain : Name) : ChainEvent :=
  .detach { name := some [102], nschainObjectName := some nschain, sequenceNumber := 0 }

end OpenFlowController.Nsrm
