/-
Module: Dprm.Enumeration
Purpose: The calls that list the registered switches, domains and datapaths and the ports of a
  datapath, one entry a call, and when they list every entry once and then end.
Source: dprm/dprmapi.c, include/mchash.h
Trusted boundary: the strings that a call copies fit the caller's buffers
-/
import OpenFlowController.Dprm.RegistryHandles
import OpenFlowController.Dprm.RegistryInvariant
import OpenFlowController.Library.Enumeration
import OpenFlowController.Utils.RefTableRefinement

namespace OpenFlowController.Dprm

open Library Utils

/-! ## What the calls read -/

/-- The return values of the calls other than `DPRM_SUCCESS`; `undefined` is an access through
a null pointer or beyond an array. -/
inductive ListingStatus where
  | undefined
  | failure
  | errorNoMoreEntries
  | errorInvalidSwitchHandle
  | errorInvalidDomainHandle
  | errorInvalidDatapathHandle
  | errorInvalidPortHandle

/-- What a switch entry holds beside its name, its handle and its datapaths. -/
structure SwitchDetails where
  switchType : Nat
  switchFqdn : List Nat
  ipv4AddrSet : Bool
  ipv4Addr : Nat
  numberOfAttributes : Nat

/-- What a domain entry holds beside its name, its handle and its datapaths. -/
structure DomainDetails where
  ttpName : List Nat
  expectedSubjectName : List Nat
  numberOfAttributes : Nat

/-- What a datapath entry holds beside its id, its handles and its links. -/
structure DatapathDetails where
  expectedSubjectName : List Nat
  datapathName : List Nat
  numberOfAttributes : Nat
  multiNamespaces : Nat

/-- How the registries came to be: the calls on the three global tables, and the reports that
the ports of each datapath block followed. -/
structure RegistryHistory where
  datapathSize : TableSize
  switchSize : TableSize
  domainSize : TableSize
  swnodeEntriesMax : TableSize
  dmnodeEntriesMax : TableSize
  calls : List DprmCall
  portHash : PortHash
  portEntriesMax : TableSize
  datapathEntryP : Nat → List UInt8
  portEvents : Nat → List PortEvent

namespace RegistryHistory

def state (history : RegistryHistory) : DprmState :=
  history.calls.foldl dprmStep
    (DprmState.initial history.datapathSize history.switchSize history.domainSize
      history.swnodeEntriesMax history.dmnodeEntriesMax)

/-- The ports of the datapath in a block. -/
def ports (history : RegistryHistory) (block : Nat) : DatapathPorts :=
  ((history.portEvents block).foldl (PortDatabase.step history.portHash)
    (PortDatabase.create (history.datapathEntryP block) history.portEntriesMax)).ports

end RegistryHistory

/-- The registries with the hash tables behind them, which may have any distribution over the
buckets. -/
structure Registries extends RegistryHistory where
  switchDetails : Nat → SwitchDetails
  domainDetails : Nat → DomainDetails
  datapathDetails : Nat → DatapathDetails
  switchTable : HashTable toRegistryHistory.state.switches.table
  domainTable : HashTable toRegistryHistory.state.domains.table
  datapathTable : HashTable toRegistryHistory.state.datapathTable
  portTable : ∀ block, HashTable (toRegistryHistory.ports block).table

/-! ## The answers -/

/-- `struct dprm_switch_info` and `struct dprm_switch_runtime_info`. -/
structure SwitchListing where
  name : List Nat
  numberOfDatapaths : Nat
  details : SwitchDetails

/-- `struct dprm_distributed_forwarding_domain_info` and its runtime information. -/
structure DomainListing where
  name : List Nat
  numberOfDatapaths : Nat
  details : DomainDetails

/-- `struct dprm_datapath_general_info` and `struct dprm_datapath_runtime_info`. -/
structure DatapathListing where
  dpid : Nat
  domainName : List Nat
  switchName : List Nat
  numberOfPorts : Nat
  details : DatapathDetails

/-- `struct dprm_port_info`. -/
structure PortListing where
  portId : UInt32
  portName : List UInt8
  portDesc : OflPortDescInfo

/-- The name of the owner that a handle names. -/
def OwnerRegistry.nameOf (registry : OwnerRegistry) (handle : MchashNoderef) : List Nat :=
  match registry.table.access handle with
  | .valid (some owner) => (registry.entries owner).name
  | _ => []

namespace Registries

variable (registries : Registries)

/-- The two calls for switches. -/
def switchCalls : Enumeration Nat MchashNoderef SwitchListing ListingStatus where
  key := fun block => (registries.state.switches.entries block).handle
  info := fun block =>
    { name := (registries.state.switches.entries block).name
      numberOfDatapaths := (registries.state.switches.entries block).numberOfDatapaths
      details := registries.switchDetails block }
  noMore := .errorNoMoreEntries
  invalid := .errorInvalidSwitchHandle
  answer := fun block =>
    .found (registries.state.switches.entries block).handle
      { name := (registries.state.switches.entries block).name
        numberOfDatapaths := (registries.state.switches.entries block).numberOfDatapaths
        details := registries.switchDetails block }

def dprmGetFirstSwitch : Reply MchashNoderef SwitchListing ListingStatus :=
  registries.switchCalls.first (mchashTableScan registries.switchTable.table)

def dprmGetNextSwitch (switchHandle : MchashNoderef) :
    Reply MchashNoderef SwitchListing ListingStatus :=
  registries.switchCalls.next (mchashTableScan registries.switchTable.table) switchHandle

/-- The two calls for domains. -/
def domainCalls : Enumeration Nat MchashNoderef DomainListing ListingStatus where
  key := fun block => (registries.state.domains.entries block).handle
  info := fun block =>
    { name := (registries.state.domains.entries block).name
      numberOfDatapaths := (registries.state.domains.entries block).numberOfDatapaths
      details := registries.domainDetails block }
  noMore := .errorNoMoreEntries
  invalid := .errorInvalidDomainHandle
  answer := fun block =>
    .found (registries.state.domains.entries block).handle
      { name := (registries.state.domains.entries block).name
        numberOfDatapaths := (registries.state.domains.entries block).numberOfDatapaths
        details := registries.domainDetails block }

def dprmGetFirstForwardingDomain : Reply MchashNoderef DomainListing ListingStatus :=
  registries.domainCalls.first (mchashTableScan registries.domainTable.table)

def dprmGetNextForwardingDomain (domainHandle : MchashNoderef) :
    Reply MchashNoderef DomainListing ListingStatus :=
  registries.domainCalls.next (mchashTableScan registries.domainTable.table) domainHandle

/-- What a call tells of a datapath. -/
def datapathListing (block : Nat) : DatapathListing where
  dpid := (registries.state.datapaths block).dpid
  domainName :=
    registries.state.domains.nameOf (registries.state.datapaths block).domainLink.handle
  switchName :=
    registries.state.switches.nameOf (registries.state.datapaths block).switchLink.handle
  numberOfPorts := (registries.ports block).numberOfPorts
  details := registries.datapathDetails block

/-- The answer made of a datapath: its domain and its switch are looked up by the handles it
stores, and their names are copied. -/
def datapathAnswer (block : Nat) : Reply MchashNoderef DatapathListing ListingStatus :=
  match registries.state.domains.table.access (registries.state.datapaths block).domainLink.handle,
      registries.state.switches.table.access
        (registries.state.datapaths block).switchLink.handle with
  | .fault, _ => .ended .undefined
  | .invalid, _ => .ended .failure
  | .valid _, .fault => .ended .undefined
  | .valid _, .invalid => .ended .failure
  | .valid (some _), .valid (some _) =>
    .found (registries.state.datapaths block).datapathHandle (registries.datapathListing block)
  | .valid _, .valid _ => .ended .undefined

/-- The two calls for datapaths. -/
def datapathCalls : Enumeration Nat MchashNoderef DatapathListing ListingStatus where
  key := fun block => (registries.state.datapaths block).datapathHandle
  info := registries.datapathListing
  noMore := .errorNoMoreEntries
  invalid := .errorInvalidDatapathHandle
  answer := registries.datapathAnswer

def dprmGetFirstDatapath : Reply MchashNoderef DatapathListing ListingStatus :=
  registries.datapathCalls.first (mchashTableScan registries.datapathTable.table)

def dprmGetNextDatapath (datapathHandle : MchashNoderef) :
    Reply MchashNoderef DatapathListing ListingStatus :=
  registries.datapathCalls.next (mchashTableScan registries.datapathTable.table) datapathHandle

/-- The two calls for the ports of the datapath in a block. -/
def portCalls (block : Nat) : Enumeration Nat MchashNoderef PortListing ListingStatus where
  key := fun port => ((registries.ports block).entries port).handle
  info := fun port =>
    { portId := ((registries.ports block).entries port).portId
      portName := ((registries.ports block).entries port).portName
      portDesc := ((registries.ports block).entries port).portInfo }
  noMore := .errorNoMoreEntries
  invalid := .errorInvalidPortHandle
  answer := fun port =>
    .found ((registries.ports block).entries port).handle
      { portId := ((registries.ports block).entries port).portId
        portName := ((registries.ports block).entries port).portName
        portDesc := ((registries.ports block).entries port).portInfo }

/-- A call on the datapath that a handle names; the port table of an entry that is not there
is read through a null pointer. -/
def withDatapath (datapathHandle : MchashNoderef)
    (call : Nat → Reply MchashNoderef PortListing ListingStatus) :
    Reply MchashNoderef PortListing ListingStatus :=
  match registries.state.datapathTable.access datapathHandle with
  | .valid (some block) => call block
  | .invalid => .ended .errorInvalidDatapathHandle
  | .valid none => .ended .undefined
  | .fault => .ended .undefined

def dprmGetFirstDatapathPort (datapathHandle : MchashNoderef) :
    Reply MchashNoderef PortListing ListingStatus :=
  registries.withDatapath datapathHandle fun block =>
    (registries.portCalls block).first (mchashTableScan (registries.portTable block).table)

def dprmGetNextDatapathPort (datapathHandle portHandle : MchashNoderef) :
    Reply MchashNoderef PortListing ListingStatus :=
  registries.withDatapath datapathHandle fun block =>
    (registries.portCalls block).next (mchashTableScan (registries.portTable block).table)
      portHandle

end Registries

/-! ## What an enumeration promises -/

/-- The first call and next calls list every node of a table once, under its own handle and
with its own information, and then report that there are no more; a next call from a handle
that is not in the table reports an invalid handle. -/
def ListsOnce {ι : Type*} (refs : RefTable Nat) (info : Nat → ι)
    (first : Reply MchashNoderef ι ListingStatus)
    (next : MchashNoderef → Reply MchashNoderef ι ListingStatus) (invalid : ListingStatus) :
    Prop :=
  (∃ order, order.Perm (refs.linked.map fun entry => (entry.noderef, info entry.node)) ∧
    Enumerates next first order .errorNoMoreEntries) ∧
  ∀ handle, handle ∉ refs.linked.map (·.noderef) → next handle = .ended invalid

/-- A handle names a registered switch (or domain). -/
def OwnerRegistry.Names (registry : OwnerRegistry) (handle : MchashNoderef) : Prop :=
  ∃ owner, registry.table.access handle = .valid (some owner)

namespace Registries

/-- The registries are enumerated: the ports are those of the datapath that a handle names,
and without one the calls for ports report the handle. -/
structure Enumerated (registries : Registries) (datapathHandle : MchashNoderef) : Prop where
  defined : registries.state.undefined = false
  allocated : ∀ block ∈ registries.state.datapathTable.nodes, block ∉ registries.state.releases
  switches : ListsOnce registries.state.switches.table registries.switchCalls.info
    registries.dprmGetFirstSwitch registries.dprmGetNextSwitch .errorInvalidSwitchHandle
  domains : ListsOnce registries.state.domains.table registries.domainCalls.info
    registries.dprmGetFirstForwardingDomain registries.dprmGetNextForwardingDomain
    .errorInvalidDomainHandle
  datapaths : ListsOnce registries.state.datapathTable registries.datapathListing
    registries.dprmGetFirstDatapath registries.dprmGetNextDatapath .errorInvalidDatapathHandle
  ports : ∀ block, registries.state.datapathTable.access datapathHandle = .valid (some block) →
    (registries.ports block).undefined = false ∧
    ListsOnce (registries.ports block).table (registries.portCalls block).info
      (registries.dprmGetFirstDatapathPort datapathHandle)
      (registries.dprmGetNextDatapathPort datapathHandle) .errorInvalidPortHandle
  noDatapath :
    (∀ block, registries.state.datapathTable.access datapathHandle ≠ .valid (some block)) →
      registries.dprmGetFirstDatapathPort datapathHandle = .ended .errorInvalidDatapathHandle ∧
      ∀ portHandle, registries.dprmGetNextDatapathPort datapathHandle portHandle =
        .ended .errorInvalidDatapathHandle

/-- The condition for it: the stored handles of every datapath name a registered switch and a
registered domain, and the handle whose ports are asked for stays inside the table. -/
structure Enumerable (registries : Registries) (datapathHandle : MchashNoderef) : Prop where
  defined : registries.state.undefined = false
  allocated : ∀ block ∈ registries.state.datapathTable.nodes, block ∉ registries.state.releases
  owned : ∀ block ∈ registries.state.datapathTable.nodes,
    registries.state.switches.Names (registries.state.datapaths block).switchLink.handle ∧
      registries.state.domains.Names (registries.state.datapaths block).domainLink.handle
  addressed : Addressed registries.state.datapathTable datapathHandle
  portsDefined : ∀ block,
    registries.state.datapathTable.access datapathHandle = .valid (some block) →
      (registries.ports block).undefined = false

end Registries

/-! ## One table -/

section OneTable

variable {ι : Type*} {refs : RefTable Nat} {calls : Enumeration Nat MchashNoderef ι ListingStatus}

theorem keys_stored (stored : ∀ entry ∈ refs.linked, calls.key entry.node = entry.noderef) :
    refs.nodes.map calls.key = refs.linked.map (·.noderef) := by
  rw [RefTable.nodes, List.map_map]
  exact List.map_congr_left stored

theorem keys_nodup (stored : ∀ entry ∈ refs.linked, calls.key entry.node = entry.noderef) :
    (refs.nodes.map calls.key).Nodup := by
  rw [keys_stored stored]
  apply List.Nodup.map_on _ RefTable.linked_nodup
  intro first firstMem second secondMem same
  exact RefTable.index_inj firstMem secondMem (congrArg MchashNoderef.index same)

variable (hashed : HashTable refs)

theorem listsOnce_iff (stored : ∀ entry ∈ refs.linked, calls.key entry.node = entry.noderef)
    (noMore : calls.noMore = .errorNoMoreEntries) (fails : ∀ block, ¬ calls.Shown block →
      ∃ code, code ≠ calls.noMore ∧ calls.answer block = .ended code) :
    ListsOnce refs calls.info (calls.first (mchashTableScan hashed.table))
        (calls.next (mchashTableScan hashed.table)) calls.invalid ↔
      ∀ block ∈ refs.nodes, calls.Shown block := by
  have pairs : refs.linked.map (fun entry => (entry.noderef, calls.info entry.node)) =
      refs.nodes.map calls.pair := by
    rw [RefTable.nodes, List.map_map]
    apply List.map_congr_left
    intro entry member
    rw [Function.comp_apply, Enumeration.pair, stored entry member]
  have scanned := hashed.scan_perm
  have visits := Enumeration.enumerates_iff (keys_nodup stored) scanned fails
  unfold ListsOnce
  rw [pairs, ← noMore, visits]
  refine and_iff_left ?_
  intro handle missing
  apply Enumeration.next_missing
  rw [← keys_stored stored] at missing
  exact fun inside => missing ((scanned.map calls.key).mem_iff.mp inside)

theorem listsOnce_of_shown (stored : ∀ entry ∈ refs.linked, calls.key entry.node = entry.noderef)
    (noMore : calls.noMore = .errorNoMoreEntries) (shown : ∀ block, calls.Shown block) :
    ListsOnce refs calls.info (calls.first (mchashTableScan hashed.table))
      (calls.next (mchashTableScan hashed.table)) calls.invalid :=
  (listsOnce_iff hashed stored noMore fun block not => absurd (shown block) not).mpr
    fun block _ => shown block

end OneTable

/-! ## The four registries -/

namespace Registries

variable (registries : Registries)

theorem handles : RegistryHandles registries.state :=
  (RegistryHandles.initial _ _ _ _ _).run registries.calls

variable (block : Nat)

theorem portHandles : PortHandles (registries.ports block) :=
  PortHandles.run (PortHandles.create _ _) (registries.portEvents block)

theorem switches_listed :
    ListsOnce registries.state.switches.table registries.switchCalls.info
      registries.dprmGetFirstSwitch registries.dprmGetNextSwitch .errorInvalidSwitchHandle :=
  listsOnce_of_shown registries.switchTable
    (fun entry member => (registries.handles.switches entry member).1) rfl fun _ => rfl

theorem domains_listed :
    ListsOnce registries.state.domains.table registries.domainCalls.info
      registries.dprmGetFirstForwardingDomain registries.dprmGetNextForwardingDomain
      .errorInvalidDomainHandle :=
  listsOnce_of_shown registries.domainTable
    (fun entry member => (registries.handles.domains entry member).1) rfl fun _ => rfl

theorem datapath_shown_iff :
    registries.datapathCalls.Shown block ↔
      registries.state.switches.Names (registries.state.datapaths block).switchLink.handle ∧
        registries.state.domains.Names (registries.state.datapaths block).domainLink.handle := by
  unfold Enumeration.Shown OwnerRegistry.Names datapathCalls datapathAnswer
  dsimp only
  cases registries.state.domains.table.access
      (registries.state.datapaths block).domainLink.handle with
  | fault => simp
  | invalid => simp
  | valid domain =>
  cases registries.state.switches.table.access
      (registries.state.datapaths block).switchLink.handle with
  | fault => simp
  | invalid => simp
  | valid switch => cases domain <;> cases switch <;> simp

theorem datapath_hidden (hidden : ¬ registries.datapathCalls.Shown block) :
    ∃ code, code ≠ registries.datapathCalls.noMore ∧
      registries.datapathCalls.answer block = .ended code := by
  revert hidden
  unfold Enumeration.Shown datapathCalls datapathAnswer
  dsimp only
  cases registries.state.domains.table.access
      (registries.state.datapaths block).domainLink.handle with
  | fault => exact fun _ => ⟨.undefined, nofun, rfl⟩
  | invalid => exact fun _ => ⟨.failure, nofun, rfl⟩
  | valid domain =>
  cases registries.state.switches.table.access
      (registries.state.datapaths block).switchLink.handle with
  | fault => exact fun _ => ⟨.undefined, nofun, rfl⟩
  | invalid => exact fun _ => ⟨.failure, nofun, rfl⟩
  | valid switch =>
  cases domain with
  | none => cases switch <;> exact fun _ => ⟨.undefined, nofun, rfl⟩
  | some _ =>
  cases switch with
  | none => exact fun _ => ⟨.undefined, nofun, rfl⟩
  | some _ => exact fun hidden => absurd rfl hidden

theorem datapaths_listed_iff :
    ListsOnce registries.state.datapathTable registries.datapathListing
        registries.dprmGetFirstDatapath registries.dprmGetNextDatapath
        .errorInvalidDatapathHandle ↔
      ∀ block ∈ registries.state.datapathTable.nodes,
        registries.state.switches.Names (registries.state.datapaths block).switchLink.handle ∧
          registries.state.domains.Names (registries.state.datapaths block).domainLink.handle := by
  have listed : ListsOnce registries.state.datapathTable registries.datapathListing
        registries.dprmGetFirstDatapath registries.dprmGetNextDatapath
        .errorInvalidDatapathHandle ↔
      ∀ block ∈ registries.state.datapathTable.nodes, registries.datapathCalls.Shown block :=
    listsOnce_iff registries.datapathTable
      (fun entry member => (registries.handles.datapaths entry member).1) rfl
      registries.datapath_hidden
  rw [listed]
  exact forall₂_congr fun block _ => registries.datapath_shown_iff block

variable {datapathHandle : MchashNoderef}

theorem ports_listed {block : Nat}
    (named : registries.state.datapathTable.access datapathHandle = .valid (some block)) :
    ListsOnce (registries.ports block).table (registries.portCalls block).info
      (registries.dprmGetFirstDatapathPort datapathHandle)
      (registries.dprmGetNextDatapathPort datapathHandle) .errorInvalidPortHandle := by
  have first : registries.dprmGetFirstDatapathPort datapathHandle =
      (registries.portCalls block).first
        (mchashTableScan (registries.portTable block).table) := by
    rw [dprmGetFirstDatapathPort, withDatapath, named]
  have next : registries.dprmGetNextDatapathPort datapathHandle =
      (registries.portCalls block).next (mchashTableScan (registries.portTable block).table) := by
    funext portHandle
    rw [dprmGetNextDatapathPort, withDatapath, named]
  rw [first, next]
  exact listsOnce_of_shown (registries.portTable block)
    (fun entry member => (registries.portHandles block entry member).1) rfl fun _ => rfl

theorem noDatapath_iff (unnamed : ∀ block,
      registries.state.datapathTable.access datapathHandle ≠ .valid (some block)) :
    (registries.dprmGetFirstDatapathPort datapathHandle = .ended .errorInvalidDatapathHandle ∧
        ∀ portHandle, registries.dprmGetNextDatapathPort datapathHandle portHandle =
          .ended .errorInvalidDatapathHandle) ↔
      Addressed registries.state.datapathTable datapathHandle := by
  unfold dprmGetFirstDatapathPort dprmGetNextDatapathPort withDatapath Addressed
  cases looked : registries.state.datapathTable.access datapathHandle with
  | fault => simp
  | invalid => simp
  | valid found =>
  cases found with
  | none => simp
  | some block => exact absurd looked (unnamed block)

/-- The registries are enumerated in exactly the states where the datapaths' owners are
registered, and for a datapath handle that can be looked up. -/
theorem registries_enumerated_iff (datapathHandle : MchashNoderef) :
    registries.Enumerated datapathHandle ↔ registries.Enumerable datapathHandle := by
  constructor
  · intro listed
    constructor
    case defined => exact listed.defined
    case allocated => exact listed.allocated
    case owned => exact registries.datapaths_listed_iff.mp listed.datapaths
    case addressed =>
      by_cases named : ∃ block,
          registries.state.datapathTable.access datapathHandle = .valid (some block)
      · obtain ⟨block, found⟩ := named
        rw [Addressed, found]
        simp
      · have unnamed := not_exists.mp named
        exact (registries.noDatapath_iff unnamed).mp (listed.noDatapath unnamed)
    case portsDefined => exact fun block named => (listed.ports block named).1
  · intro enumerable
    exact
      { defined := enumerable.defined
        allocated := enumerable.allocated
        switches := registries.switches_listed
        domains := registries.domains_listed
        datapaths := registries.datapaths_listed_iff.mpr enumerable.owned
        ports := fun block named =>
          ⟨enumerable.portsDefined block named, registries.ports_listed named⟩
        noDatapath := fun unnamed =>
          (registries.noDatapath_iff unnamed).mpr enumerable.addressed }

end Registries

/-- A hash table with one bucket and nothing in it. -/
def emptyHashTable (size : TableSize) : HashTable (RefTable.create size : RefTable Nat) where
  table := mchashTableCreate 1 size.1 (fun _ => { prev := none, next := none })
    (fun _ => { index := 0, key := 0 })
  shows := Shows.create size 1 _ _

/-- The same with one node appended. -/
def singleHashTable (size : TableSize) (block : Nat) :
    HashTable ((RefTable.create size : RefTable Nat).append block).1 where
  table := (mchashAppendNode (emptyHashTable size).table 0 block).1
  shows :=
    ((emptyHashTable size).shows.append Nat.one_pos (by
      rintro index - owned
      exact absurd owned nofun)).1

def fourEntries : TableSize :=
  ⟨4, four_bounds⟩

/-- A datapath was updated to a switch handle that was never given out. -/
def danglingHistory : RegistryHistory where
  datapathSize := fourEntries
  switchSize := fourEntries
  domainSize := fourEntries
  swnodeEntriesMax := fourEntries
  dmnodeEntriesMax := fourEntries
  calls := updateToNoSwitch
  portHash := { buckets := 1, ofName := fun _ => 0, inside := fun _ => Nat.one_pos }
  portEntriesMax := fourEntries
  datapathEntryP := fun _ => []
  portEvents := fun _ => []

theorem danglingHistory_switches :
    danglingHistory.state.switches.table = ((RefTable.create fourEntries).append 0).1 := rfl

theorem danglingHistory_domains :
    danglingHistory.state.domains.table = ((RefTable.create fourEntries).append 0).1 := rfl

theorem danglingHistory_datapaths :
    danglingHistory.state.datapathTable = ((RefTable.create fourEntries).append 0).1 := rfl

def danglingRegistries : Registries where
  toRegistryHistory := danglingHistory
  switchDetails := fun _ =>
    { switchType := 1, switchFqdn := [], ipv4AddrSet := true, ipv4Addr := 0
      numberOfAttributes := 0 }
  domainDetails := fun _ => { ttpName := [], expectedSubjectName := [], numberOfAttributes := 0 }
  datapathDetails := fun _ =>
    { expectedSubjectName := [], datapathName := [], numberOfAttributes := 0
      multiNamespaces := 0 }
  switchTable := danglingHistory_switches ▸ singleHashTable fourEntries 0
  domainTable := danglingHistory_domains ▸ singleHashTable fourEntries 0
  datapathTable := danglingHistory_datapaths ▸ singleHashTable fourEntries 0
  portTable := fun _ => emptyHashTable fourEntries

/-- The listing of the datapaths ends in a failure before the only one. -/
theorem dangling_datapath_not_listed :
    ¬ danglingRegistries.Enumerated { index := 0, magic := 1 } := by
  intro listed
  have registered : 0 ∈ danglingHistory.state.datapathTable.nodes := by decide
  have owned := danglingRegistries.datapaths_listed_iff.mp listed.datapaths 0 registered
  obtain ⟨switch, honoured⟩ := owned.1
  cases honoured

end OpenFlowController.Dprm
