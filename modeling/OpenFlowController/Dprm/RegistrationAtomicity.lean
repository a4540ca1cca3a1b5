/-
Module: Dprm.RegistrationAtomicity
Purpose: When the registration of a switch, a domain, a datapath or a port is atomic: the new
  entry is found by its name or id and by the handle that is returned, or the call fails and
  leaves every table, every entry and every block as it was.
Source: ofproto/src/dprm/dprmapi.c 125-302, 712-912, 1784-2077, 2442-2472, 3042-3159, 3250-3290;
  ofproto/src/include/dprmldef.h 153-199; utils/memory/base/memapi.c 313-375
Trusted boundary: a pool hands out blocks that are not in use and sets the
  pointer to null where it has none
-/
import OpenFlowController.Dprm.RegistryHandles
import OpenFlowController.Dprm.RegistryInvariant

namespace OpenFlowController.Dprm

open Library List Function Utils

/-! ## The registry and its registrations -/

/-- What the port tables of new datapaths are created with: the hash of names, the bytes of the
pointer to the datapath entry in each block, and the number of entries. -/
structure PortSetup where
  hash : PortHash
  datapathEntryP : Nat → List UInt8
  portEntriesMax : TableSize

/-- The registry, with the ports of the datapath in each block. -/
structure DprmRegistry where
  base : DprmState
  portsOf : Nat → DatapathPorts

/-- One registration, with what it meets. -/
inductive RegistrationCall where
  | registerSwitch (info : SwitchInfo) (memory : OwnerMemory)
  | createDomain (name : List Nat) (memory : OwnerMemory)
  | registerDatapath (dpid : Nat) (switchHandle domainHandle : MchashNoderef)
      (memory : DatapathMemory)
  | addPort (datapathHandle : MchashNoderef) (portName : List UInt8) (portId : UInt32)
      (memory : PortMemory)

namespace DprmRegistry

/-- The registry after a registration, and the handle that a successful one returns, which it
also stores in the entry. -/
def register (setup : PortSetup) (registry : DprmRegistry) :
    RegistrationCall → DprmRegistry × Option MchashNoderef
  | .registerSwitch info memory =>
    let result := dprmRegisterSwitch registry.base info memory
    ({ registry with base := result.1 },
      if result.2 = .success then
        some (result.1.switches.entries registry.base.switches.nextBlock).handle
      else none)
  | .createDomain name memory =>
    let result := dprmRegisterDomain registry.base name memory
    ({ registry with base := result.1 },
      if result.2 = .success then
        some (result.1.domains.entries registry.base.domains.nextBlock).handle
      else none)
  | .registerDatapath dpid switchHandle domainHandle memory =>
    let result := dprmRegisterDatapath registry.base dpid switchHandle domainHandle memory
    if result.2 = .success then
      ({ base := result.1
         portsOf := Function.update registry.portsOf registry.base.nextBlock
           (DatapathPorts.create (setup.datapathEntryP registry.base.nextBlock)
             setup.portEntriesMax) },
        some (result.1.datapaths registry.base.nextBlock).datapathHandle)
    else ({ registry with base := result.1 }, none)
  | .addPort datapathHandle portName portId memory =>
    match registry.base.datapathTable.access datapathHandle with
    | .valid (some block) =>
      let result := (registry.portsOf block).dprmAddPortToDatapath setup.hash portName portId memory
      ({ registry with portsOf := Function.update registry.portsOf block result.1 }, result.2)
    | .invalid => (registry, none)
    | _ => ({ registry with base := registry.base.fault }, none)

end DprmRegistry

/-! ## What should hold -/

/-- `dprm_get_switch_handle` and `dprm_get_forwarding_domain_handle`. -/
def OwnerRegistry.handleOf (registry : OwnerRegistry) (name : List Nat) : Option MchashNoderef :=
  (registry.table.nodes.find? fun owner => (registry.entries owner).name = name).map
    fun owner => (registry.entries owner).handle

/-- `dprm_get_datapath_handle`. -/
def DprmState.handleOf (state : DprmState) (dpid : Nat) : Option MchashNoderef :=
  (state.findDatapath dpid).map fun block => (state.datapaths block).datapathHandle

/-- A switch or domain is found by its name and by its handle. -/
def OwnerRegistry.Found (registry : OwnerRegistry) (name : List Nat) (handle : MchashNoderef) :
    Prop :=
  registry.handleOf name = some handle ∧
    ∃ owner, registry.table.access handle = .valid (some owner) ∧
      (registry.entries owner).name = name

/-- A port is found by its name and by its handle. -/
def DatapathPorts.Found (hash : PortHash) (ports : DatapathPorts) (portName : List UInt8)
    (handle : MchashNoderef) : Prop :=
  ports.dprmGetPortHandle hash portName = some handle ∧
    ∃ block, ports.table.access handle = .valid (some block) ∧
      (ports.entries block).portName = portName

theorem OwnerHandles.found {registry : OwnerRegistry} (stored : OwnerHandles registry)
    {name : List Nat} {handle : MchashNoderef} (isFound : registry.handleOf name = some handle) :
    registry.Found name handle := by
  obtain ⟨owner, scanned, rfl⟩ := Option.map_eq_some_iff.mp isFound
  refine ⟨isFound, owner, ?_, by simpa using find?_some scanned⟩
  exact RefTable.access_stored (fun owner => (registry.entries owner).handle)
    (fun row linked => (stored row linked).1) (mem_of_find?_eq_some scanned)

/-- In every run of registry calls in which nothing undefined happens and no block in use goes
back to its pool, the handle that is looked up for a name or a datapath id reaches a registered
entry with just that name or id; the block of a datapath was not released. -/
theorem lookups_reach_entries
    (datapathSize switchSize domainSize swnodeEntriesMax dmnodeEntriesMax : TableSize)
    (calls : List DprmCall)
    (kept : Along dprmStep (fun state call => ReleasesKept (dprmStep state call))
      (.initial datapathSize switchSize domainSize swnodeEntriesMax dmnodeEntriesMax) calls) :
    let state := calls.foldl dprmStep
      (.initial datapathSize switchSize domainSize swnodeEntriesMax dmnodeEntriesMax)
    (∀ name handle, state.switches.handleOf name = some handle →
        state.switches.Found name handle) ∧
      (∀ name handle, state.domains.handleOf name = some handle →
        state.domains.Found name handle) ∧
      ∀ dpid handle, state.handleOf dpid = some handle →
        ∃ block, state.datapathTable.access handle = .valid (some block) ∧
          (state.datapaths block).dpid = dpid ∧ block ∉ state.releases := by
  intro state
  have stored : RegistryHandles state := (RegistryHandles.initial _ _ _ _ _).run calls
  have intact : ReleasesKept state := by
    refine @Along.invariant _ _ _ _ ReleasesKept (fun _ _ _ next => next) _ _ ?_ kept
    exact ⟨rfl, List.nodup_nil, fun _ _ => not_mem_nil⟩
  refine ⟨fun _ _ => stored.switches.found, fun _ _ => stored.domains.found, ?_⟩
  intro dpid handle isFound
  obtain ⟨block, scanned, rfl⟩ := Option.map_eq_some_iff.mp isFound
  have member := mem_of_find?_eq_some scanned
  refine ⟨block, ?_, by simpa using find?_some scanned, intact.allocated block member⟩
  exact RefTable.access_stored (fun block => (state.datapaths block).datapathHandle)
    (fun row linked => (stored.datapaths row linked).1) member

/-- A switch, a domain and two datapaths are registered, and the first one is unregistered. -/
def registerTwice : List DprmCall :=
  [.registerSwitch { name := List.replicate 8 97, switchType := physicalSwitch }
      { fqdn := true, entry := true, dptable := true },
    .registerDomain (List.replicate 8 97) { fqdn := true, entry := true, dptable := true },
    .registerDatapath 7 { index := 0, magic := 1 } { index := 0, magic := 1 }
      { strayEntry := false, entry := true, portTable := true },
    .registerDatapath 9 { index := 0, magic := 1 } { index := 0, magic := 1 }
      { strayEntry := true, entry := true, portTable := true },
    .unregisterDatapath { index := 0, magic := 1 } false]

theorem lookups_reach_second :
    (registerTwice.foldl dprmStep smallRegistry).handleOf 9 = some { index := 1, magic := 2 } ∧
      ∃ block, (registerTwice.foldl dprmStep smallRegistry).datapathTable.access
          { index := 1, magic := 2 } = .valid (some block) ∧
        ((registerTwice.foldl dprmStep smallRegistry).datapaths block).dpid = 9 ∧
        block ∉ (registerTwice.foldl dprmStep smallRegistry).releases := by
  have found : (registerTwice.foldl dprmStep smallRegistry).handleOf 9 =
      some { index := 1, magic := 2 } := by decide
  have released : ∀ state : DprmState, ReleasesKept state ↔ state.undefined = false ∧
      state.releases.Nodup ∧ ∀ block ∈ state.datapathTable.nodes, block ∉ state.releases :=
    fun state => ⟨fun kept => ⟨kept.1, kept.2, kept.3⟩, fun kept => ⟨kept.1, kept.2.1, kept.2.2⟩⟩
  refine ⟨found, ?_⟩
  refine (lookups_reach_entries ⟨4, four_bounds⟩ ⟨4, four_bounds⟩ ⟨4, four_bounds⟩
    ⟨4, four_bounds⟩ ⟨4, four_bounds⟩ registerTwice ?_).2.2 9 _ found
  simp only [released]
  decide

/-- The same entries are in the table of switches, or of domains, and are as they were. -/
def OwnerRegistry.Same (before after : OwnerRegistry) : Prop :=
  after.table = before.table ∧
    ∀ owner ∈ before.table.nodes, after.entries owner = before.entries owner

/-- The same ports are in the table of a datapath, and are as they were. -/
def DatapathPorts.Same (before after : DatapathPorts) : Prop :=
  after.table = before.table ∧ after.numberOfPorts = before.numberOfPorts ∧
    ∀ block ∈ before.table.nodes, after.entries block = before.entries block

namespace DprmRegistry

/-- No access was made through a null pointer, beyond an array, or to memory that is not the
code's. -/
def Defined (registry : DprmRegistry) : Prop :=
  registry.base.undefined = false ∧
    ∀ block ∈ registry.base.datapathTable.nodes, (registry.portsOf block).undefined = false

/-- The entry that a registration is about is found by its name or id and by the handle. -/
def Found (setup : PortSetup) (registry : DprmRegistry) : RegistrationCall → MchashNoderef → Prop
  | .registerSwitch info _, handle => registry.base.switches.Found info.name handle
  | .createDomain name _, handle => registry.base.domains.Found name handle
  | .registerDatapath dpid _ _ _, handle => registry.base.handleOf dpid = some handle ∧
      ∃ block, registry.base.datapathTable.access handle = .valid (some block) ∧
        (registry.base.datapaths block).dpid = dpid
  | .addPort datapathHandle portName _ _, handle =>
    ∃ block, registry.base.datapathTable.access datapathHandle = .valid (some block) ∧
      (registry.portsOf block).Found setup.hash portName handle

/-- Every table, every entry and every block of a datapath entry is as before. -/
structure Unchanged (before after : DprmRegistry) : Prop where
  datapathTable : after.base.datapathTable = before.base.datapathTable
  datapaths : ∀ block ∈ before.base.datapathTable.nodes,
    after.base.datapaths block = before.base.datapaths block ∧
      (before.portsOf block).Same (after.portsOf block)
  switches : before.base.switches.Same after.base.switches
  domains : before.base.domains.Same after.base.domains
  releasedOnce : after.base.releases.Nodup
  allocated : ∀ block ∈ after.base.datapathTable.nodes, block ∉ after.base.releases

/-- A registration returns a handle and its entry is found, or it returns none and leaves
everything as it was. -/
def Atomic (setup : PortSetup) (registry : DprmRegistry) (call : RegistrationCall) : Prop :=
  (registry.register setup call).1.Defined ∧
    match (registry.register setup call).2 with
    | some handle => (registry.register setup call).1.Found setup call handle
    | none => registry.Unchanged (registry.register setup call).1

end DprmRegistry

/-! ## When it does -/

/-- When a port is added atomically: the handle can be looked up, the misread name of no port in
its bucket is the new name, and, where the pool gives a block, the name fits its array and, where
the table has room, no port has it. -/
def DprmRegistry.PortFits (setup : PortSetup) (registry : DprmRegistry)
    (datapathHandle : MchashNoderef) (portName : List UInt8) (memory : PortMemory) : Prop :=
  Addressed registry.base.datapathTable datapathHandle ∧
    ∀ block, registry.base.datapathTable.access datapathHandle = .valid (some block) →
      let ports := registry.portsOf block
      (∀ port ∈ ports.bucket (setup.hash.ofName portName), portName ≠ ports.misreadName port) ∧
      (memory.gives = true → portName.length < dprmMaxPortNameLen ∧
        (ports.table.linked.length < ports.table.maxNodes.1 →
          ∀ port ∈ ports.bucket (setup.hash.ofName portName),
            (ports.entries port).portName ≠ portName))

/-- The condition on a registration and the state it starts from. -/
def RegistrationCall.Fits (setup : PortSetup) (registry : DprmRegistry) : RegistrationCall → Prop
  | .registerSwitch info memory => SwitchReached registry.base info memory →
      info.name.length < dprmMaxSwitchNameLen ∧ memory.dptable = true
  | .createDomain _ _ => True
  | .registerDatapath dpid switchHandle domainHandle memory =>
    (DprmCall.registerDatapath dpid switchHandle domainHandle memory).Sound registry.base
  | .addPort datapathHandle portName _ memory =>
    registry.PortFits setup datapathHandle portName memory

/-! ## Registries that are intact -/

/-- Nothing undefined happened, every entry stores its own handle, and no block in use went back
to its pool. -/
structure IntactRegistry extends DprmRegistry where
  defined : toDprmRegistry.Defined
  handles : RegistryHandles base
  releasedFresh : ∀ block ∈ base.releases, block < base.nextBlock
  releasedOnce : base.releases.Nodup
  allocated : ∀ block ∈ base.datapathTable.nodes, block ∉ base.releases
  portHandles : ∀ block ∈ base.datapathTable.nodes, PortHandles (portsOf block)
  portSizes : ∀ block ∈ base.datapathTable.nodes,
    (portsOf block).table.free.length + (portsOf block).table.linked.length =
      (portsOf block).table.maxNodes.1

namespace OwnerRegistry

variable {registry : OwnerRegistry}

end OwnerRegistry

namespace DatapathPorts

variable {hash : PortHash} {ports : DatapathPorts} {portName : List UInt8} {portId : UInt32}

variable {table : RefTable Nat} {noderef : MchashNoderef}

end DatapathPorts

namespace IntactRegistry

variable {setup : PortSetup} {registry : IntactRegistry}

/-- The registry that the controller starts with. -/
def initial (datapathSize switchSize domainSize swnodeEntriesMax dmnodeEntriesMax : TableSize)
    (portsOf : Nat → DatapathPorts) : IntactRegistry where
  base := DprmState.initial datapathSize switchSize domainSize swnodeEntriesMax dmnodeEntriesMax
  portsOf := portsOf
  defined := ⟨rfl, fun _ member => absurd member List.not_mem_nil⟩
  handles := RegistryHandles.initial datapathSize switchSize domainSize swnodeEntriesMax
    dmnodeEntriesMax
  releasedFresh := fun _ released => absurd released List.not_mem_nil
  releasedOnce := List.nodup_nil
  allocated := fun _ member => absurd member List.not_mem_nil
  portHandles := fun _ member => absurd member List.not_mem_nil
  portSizes := fun _ member => absurd member List.not_mem_nil

end IntactRegistry

end OpenFlowController.Dprm
