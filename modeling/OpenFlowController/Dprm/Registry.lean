/-
Module: Dprm.Registry
Purpose: The registry of switches, forwarding domains and datapaths: the three
  global tables, the table of datapaths in every switch and every domain, and the
  calls that register, update and unregister.
Source: dprm/dprmapi.c, dprm/dprm.c, include/dprmldef.h
Trusted boundary: a pool hands out blocks that are not in use, the deferred callback of a
  deletion has run before its link is deleted again, and the notifications to applications
  do not call back into the registry
-/
import OpenFlowController.Utils.RefTable

namespace OpenFlowController.Dprm

open Library Utils

/-! ## The entries

A handle is 64 bits wide, the magic number in the upper half and the index in the
lower; it is kept here as the safe reference it encodes. -/

/-- What a datapath entry stores about its switch, and likewise about its domain:
the owner's handle (`sw_handle_magic`, `sw_handle_index`) and its own reference in
the owner's table (`swnode_dp_output_handle_p`, which `swnode_dp_saferef_magic` and
`swnode_dp_saferef_index` repeat). -/
structure OwnerLink where
  handle : MchashNoderef
  noderef : MchashNoderef

/-- `dprm_datapath_entry`. -/
structure DatapathEntry where
  dpid : Nat
  datapathHandle : MchashNoderef
  switchLink : OwnerLink
  domainLink : OwnerLink

/-- `dprm_switch_entry` and `dprm_domain_entry`: `switch_handle` or
`domain_handle`, and `dprm_swnode_dptable_p` or `dprm_dmnode_dptable_p`. -/
structure OwnerEntry where
  name : List Nat
  handle : MchashNoderef
  dptable : RefTable Nat
  numberOfDatapaths : Nat

/-- The global table of switches, or of domains, with the entries behind the
blocks it links. -/
structure OwnerRegistry where
  dptableEntriesMax : TableSize
  table : RefTable Nat
  entries : Nat → OwnerEntry
  nextBlock : Nat

structure DprmState where
  datapathTable : RefTable Nat
  datapaths : Nat → DatapathEntry
  nextBlock : Nat
  switches : OwnerRegistry
  domains : OwnerRegistry
  /-- the blocks of datapath entries given back to their pool so far -/
  releases : List Nat
  /-- an access through a null pointer or beyond an array was made -/
  undefined : Bool

/-- The return values of the calls; `poolError` and `tableError` stand for what the
memory pool and `mchash_table_create` returned. -/
inductive DprmStatus where
  | success
  | failure
  | poolError
  | tableError
  | errorNoMem
  | errorNameLengthNotEnough
  | errorInvalidSwitchType
  | errorDuplicateResource
  | errorResourceNotempty
  | errorInvalidSwitchHandle
  | errorInvalidDomainHandle
  | errorInvalidDatapathHandle
deriving DecidableEq

namespace OwnerRegistry

def create (size dptableEntriesMax : TableSize) : OwnerRegistry where
  dptableEntriesMax := dptableEntriesMax
  table := RefTable.create size
  entries := fun _ =>
    { name := []
      handle := { index := 0, magic := 0 }
      dptable := RefTable.create dptableEntriesMax
      numberOfDatapaths := 0 }
  nextBlock := 0

/-- The scan for an entry of the same name. -/
def named (registry : OwnerRegistry) (name : List Nat) : Bool :=
  registry.table.nodes.any (fun owner => (registry.entries owner).name = name)

/-- The entry behind a block rewritten by `change`. -/
def changeEntry (registry : OwnerRegistry) (owner : Nat)
    (change : OwnerEntry → OwnerEntry) : OwnerRegistry :=
  { registry with
    entries := Function.update registry.entries owner (change (registry.entries owner)) }

/-- A new entry with an empty table of datapaths, when the global table has room;
otherwise its block and its table are released again. -/
def register (registry : OwnerRegistry) (name : List Nat) : OwnerRegistry × DprmStatus :=
  let block := registry.nextBlock
  match registry.table.append block with
  | (_, none) => ({ registry with nextBlock := block + 1 }, .failure)
  | (table, some noderef) =>
    ({ registry with
        table := table
        nextBlock := block + 1
        entries := Function.update registry.entries block
          { name := name
            handle := noderef
            dptable := RefTable.create registry.dptableEntriesMax
            numberOfDatapaths := 0 } }, .success)

/-- `MCHASH_APPEND_NODE` on the datapath table of an owner. -/
def appendDatapath (registry : OwnerRegistry) (owner block : Nat) :
    OwnerRegistry × Option MchashNoderef :=
  let appended := (registry.entries owner).dptable.append block
  (registry.changeEntry owner (fun entry => { entry with dptable := appended.1 }), appended.2)

/-- `MCHASH_DELETE_NODE_BY_REF` on the datapath table of an owner; the free
function of that table only prints. -/
def deleteDatapath (registry : OwnerRegistry) (owner : Nat) (noderef : MchashNoderef) :
    OwnerRegistry × DeleteResult Nat :=
  let deleted := (registry.entries owner).dptable.deleteByRef noderef
  (registry.changeEntry owner (fun entry => { entry with dptable := deleted.1 }), deleted.2)

/-- `number_of_datapaths++`, and with `uint32Pred` `number_of_datapaths--`. -/
def count (registry : OwnerRegistry) (owner : Nat) (change : Nat → Nat) : OwnerRegistry :=
  registry.changeEntry owner
    (fun entry => { entry with numberOfDatapaths := change entry.numberOfDatapaths })

/-- Deletes a datapath from the table of its owner and takes it off the counter,
whatever the deletion reports.  True when the deletion was no defined access. -/
def withdraw (registry : OwnerRegistry) (owner : Nat) (noderef : MchashNoderef) :
    OwnerRegistry × Bool :=
  let deleted := registry.deleteDatapath owner noderef
  (deleted.1.count owner uint32Pred, deleted.2 = .fault)

/-- Appends a datapath to the table of its new owner and puts it on the counter,
whatever the append reports. -/
def join (registry : OwnerRegistry) (owner block : Nat) (link : OwnerLink) :
    OwnerRegistry × OwnerLink :=
  let appended := registry.appendDatapath owner block
  (appended.1.count owner uint32Succ,
    match appended.2 with
    | some noderef => { link with noderef := noderef }
    | none => link)

/-- The second half of `move`: the datapath goes to the owner the new handle names,
if it names one.  `undefined` says whether an access before was not defined. -/
def enter (registry : OwnerRegistry) (link : OwnerLink) (block : Nat)
    (newHandle : MchashNoderef) (undefined : Bool) : OwnerRegistry × OwnerLink × Bool :=
  match registry.table.access newHandle with
  | .valid (some new) =>
    let joined := registry.join new block link
    (joined.1, joined.2, undefined)
  | .invalid => (registry, link, undefined)
  | _ => (registry, link, true)

/-- The part of `dprm_update_datapath` that is made once for the switch and once
for the domain: the datapath leaves the owner its stored handle names and goes to
the owner the new handle names.  The new handle is stored before it is looked up.
True when an access was not defined; a stored handle that names no owner leaves
null the pointer that is read after the update. -/
def move (registry : OwnerRegistry) (link : OwnerLink) (block : Nat)
    (newHandle : MchashNoderef) : OwnerRegistry × OwnerLink × Bool :=
  match registry.table.access link.handle with
  | .valid (some old) =>
    if (registry.entries old).handle = newHandle then
      (registry, link, false)
    else
      let left := registry.withdraw old link.noderef
      left.1.enter { link with handle := newHandle } block newHandle left.2
  | _ => (registry, link, true)

/-- `dprm_unregister_switch` and
`dprm_unregister_distributed_forwarding_domain`; `attributes` says whether the
entry has attributes.  The third component is true when an access was not
defined. -/
def unregister (registry : OwnerRegistry) (handle : MchashNoderef) (attributes : Bool)
    (invalidHandle : DprmStatus) : OwnerRegistry × DprmStatus × Bool :=
  match registry.table.access handle with
  | .valid (some owner) =>
    if (registry.entries owner).numberOfDatapaths ≠ 0 ∨ attributes then
      (registry, .errorResourceNotempty, false)
    else
      match registry.table.deleteByRef handle with
      | (table, .deleted _) => ({ registry with table := table }, .success, false)
      | (table, .notDeleted) => ({ registry with table := table }, .failure, false)
      | (table, .fault) => ({ registry with table := table }, .failure, true)
  | .invalid => (registry, invalidHandle, false)
  | _ => (registry, invalidHandle, true)

end OwnerRegistry

namespace DprmState

def initial (datapathSize switchSize domainSize : TableSize)
    (swnodeEntriesMax dmnodeEntriesMax : TableSize) : DprmState where
  datapathTable := RefTable.create datapathSize
  datapaths := fun _ =>
    { dpid := 0
      datapathHandle := { index := 0, magic := 0 }
      switchLink :=
        { handle := { index := 0, magic := 0 }, noderef := { index := 0, magic := 0 } }
      domainLink :=
        { handle := { index := 0, magic := 0 }, noderef := { index := 0, magic := 0 } } }
  nextBlock := 0
  switches := OwnerRegistry.create switchSize swnodeEntriesMax
  domains := OwnerRegistry.create domainSize dmnodeEntriesMax
  releases := []
  undefined := false

/-- The state after an access that is not defined; nothing is said about it. -/
def fault (state : DprmState) : DprmState :=
  { state with undefined := true }

/-- The scan of the global table for an id. -/
def findDatapath (state : DprmState) (dpid : Nat) : Option Nat :=
  state.datapathTable.nodes.find? (fun block => (state.datapaths block).dpid = dpid)

end DprmState

/-! ## Switches and domains -/

def virtualSwitch : Nat := 0

def physicalSwitch : Nat := 1

/-- What `dprm_register_switch` reads of `dprm_switch_info`; a name is its bytes before
the terminator.  `switch_fqdn` is an array of the record: its address is never null, so
that the check for a name or an address passes whatever it holds, and it is only copied,
into memory of its length. -/
structure SwitchInfo where
  name : List Nat
  switchType : Nat

def dprmMaxSwitchNameLen : Nat := 128

/-- Which allocations of a registration succeed. -/
structure OwnerMemory where
  fqdn : Bool
  entry : Bool
  dptable : Bool

def dprmRegisterSwitch (state : DprmState) (info : SwitchInfo) (memory : OwnerMemory) :
    DprmState × DprmStatus :=
  if info.name.length < 8 then
    (state, .errorNameLengthNotEnough)
  else if info.switchType ≠ virtualSwitch ∧ info.switchType ≠ physicalSwitch then
    (state, .errorInvalidSwitchType)
  else if memory.fqdn = false then
    (state, .errorNoMem)
  else if state.switches.named info.name then
    (state, .errorDuplicateResource)
  else if memory.entry = false then
    (state, .poolError)
  else if dprmMaxSwitchNameLen ≤ info.name.length then
    -- the array of the entry has no room for the terminator
    (state.fault, .failure)
  else if memory.dptable = false then
    -- the exit path deletes the table that was not created
    (state.fault, .tableError)
  else
    let registered := state.switches.register info.name
    ({ state with switches := registered.1 }, registered.2)

def dprmUnregisterSwitch (state : DprmState) (handle : MchashNoderef) (attributes : Bool) :
    DprmState × DprmStatus :=
  let done := state.switches.unregister handle attributes .errorInvalidSwitchHandle
  ({ state with switches := done.1, undefined := state.undefined || done.2.2 }, done.2.1)

/-- `dprm_register_distributed_forwarding_domain`; `cntlr_domain_init` always
succeeds, and the exit path looks before it deletes the table. -/
def dprmRegisterDomain (state : DprmState) (name : List Nat) (memory : OwnerMemory) :
    DprmState × DprmStatus :=
  if name.length < 8 then
    (state, .errorNameLengthNotEnough)
  else if state.domains.named name then
    (state, .errorDuplicateResource)
  else if memory.entry = false then
    (state, .poolError)
  else if memory.dptable = false then
    (state, .tableError)
  else
    let registered := state.domains.register name
    ({ state with domains := registered.1 }, registered.2)

def dprmUnregisterDomain (state : DprmState) (handle : MchashNoderef) (attributes : Bool) :
    DprmState × DprmStatus :=
  let done := state.domains.unregister handle attributes .errorInvalidDomainHandle
  ({ state with domains := done.1, undefined := state.undefined || done.2.2 }, done.2.1)

/-! ## Datapaths -/

/-- What a registration meets: whether the local `datapath_entry_p`, which nothing
initialises, holds something other than null, and which allocations succeed.
`mempool_create_pool` returns success even where it made no pool of ports. -/
structure DatapathMemory where
  strayEntry : Bool
  entry : Bool
  portTable : Bool

/-- A deletion of the exit path: the table of the owner, by a pointer that may be
null, and the reference at hand. -/
abbrev ExitDeletion := Option (Option Nat × MchashNoderef)

/-- An exit deletion made on the switches or on the domains. -/
def OwnerRegistry.exitDelete (registry : OwnerRegistry) : ExitDeletion → OwnerRegistry × Bool
  | none => (registry, false)
  | some (none, _) => (registry, true)
  | some (some owner, noderef) =>
    let deleted := registry.deleteDatapath owner noderef
    (deleted.1, deleted.2 = .fault)

/-- `DPRMEXIT3` after the entry was appended to the global table.  The free
function of the global table releases the block of the node it deletes, and the
exit path releases the block of the entry itself. -/
def registerExit (state : DprmState) (block : Nat) (inSwitch inDomain : ExitDeletion)
    (noderef : MchashNoderef) : DprmState :=
  let switches := state.switches.exitDelete inSwitch
  let domains := state.domains.exitDelete inDomain
  let deleted := state.datapathTable.deleteByRef noderef
  { state with
    switches := switches.1
    domains := domains.1
    datapathTable := deleted.1
    releases := block :: match deleted.2 with
      | .deleted freed => freed :: state.releases
      | _ => state.releases
    undefined := state.undefined || switches.2 || domains.2 || (deleted.2 = .fault) }

/-- `dprm_register_datapath` from the look-up of the two handles on; `noderef` is
the entry's reference in the global table. -/
def registerWithOwners (state : DprmState) (block : Nat) (noderef : MchashNoderef)
    (switchHandle domainHandle : MchashNoderef) : DprmState × DprmStatus :=
  match state.switches.table.access switchHandle, state.domains.table.access domainHandle with
  | .fault, _ => (state.fault, .failure)
  | _, .fault => (state.fault, .failure)
  | .valid (some switch), .valid (some domain) =>
    let inSwitch := state.switches.appendDatapath switch block
    let inDomain := state.domains.appendDatapath domain block
    let appended := { state with switches := inSwitch.1, domains := inDomain.1 }
    match inSwitch.2, inDomain.2 with
    | some switchRef, some domainRef =>
      let entry := state.datapaths block
      ({ appended with
          datapaths := Function.update state.datapaths block
            { entry with
              switchLink := { entry.switchLink with noderef := switchRef }
              domainLink := { entry.domainLink with noderef := domainRef } }
          switches := appended.switches.count switch uint32Succ
          domains := appended.domains.count domain uint32Succ }, .success)
    | some switchRef, none =>
      -- the append to the switch has overwritten the reference in the global
      -- table, and the switch is asked to delete by its own handle
      (registerExit appended block (some (some switch, switchHandle)) none switchRef, .failure)
    | none, some _ =>
      (registerExit appended block none (some (some domain, domainHandle)) noderef, .failure)
    | none, none => (registerExit appended block none none noderef, .failure)
  | .valid none, .valid _ => (state.fault, .failure)
  | .valid (some _), .valid none => (state.fault, .failure)
  | .valid switch, .invalid =>
    (registerExit state block (some (switch, switchHandle)) none noderef, .failure)
  | .invalid, .valid domain =>
    (registerExit state block none (some (domain, domainHandle)) noderef, .failure)
  | .invalid, .invalid => (registerExit state block none none noderef, .failure)

/-- `dprm_register_datapath`; `cntlr_datapath_init` always succeeds. -/
def dprmRegisterDatapath (state : DprmState) (dpid : Nat)
    (switchHandle domainHandle : MchashNoderef) (memory : DatapathMemory) :
    DprmState × DprmStatus :=
  if (state.findDatapath dpid).isSome then
    -- the exit path works on the entry that was never allocated
    if memory.strayEntry then
      (state.fault, .errorDuplicateResource)
    else
      (state, .errorDuplicateResource)
  else if memory.entry = false then
    (state, .poolError)
  else
    let block := state.nextBlock
    let taken := { state with nextBlock := block + 1 }
    if memory.portTable = false then
      ({ taken with releases := block :: state.releases }, .tableError)
    else
      match state.datapathTable.append block with
      | (_, none) => ({ taken with releases := block :: state.releases }, .failure)
      | (table, some noderef) =>
        let stored : DatapathEntry :=
          { dpid := dpid
            datapathHandle := noderef
            switchLink :=
              { handle := switchHandle, noderef := { index := 0, magic := 0 } }
            domainLink :=
              { handle := domainHandle, noderef := { index := 0, magic := 0 } } }
        registerWithOwners
          { taken with
            datapathTable := table
            datapaths := Function.update state.datapaths block stored }
          block noderef switchHandle domainHandle

def dprmUpdateDatapath (state : DprmState) (dpid : Nat)
    (switchHandle domainHandle : MchashNoderef) : DprmState × DprmStatus :=
  match state.findDatapath dpid with
  | none => (state, .errorInvalidDatapathHandle)
  | some block =>
    let entry := state.datapaths block
    let inSwitch := state.switches.move entry.switchLink block switchHandle
    let inDomain := state.domains.move entry.domainLink block domainHandle
    ({ state with
        switches := inSwitch.1
        domains := inDomain.1
        datapaths := Function.update state.datapaths block
          { entry with switchLink := inSwitch.2.1, domainLink := inDomain.2.1 }
        undefined := state.undefined || inSwitch.2.2 || inDomain.2.2 }, .success)

/-- `dprm_unregister_datapath`; `attached` says whether the entry has ports or
attributes. -/
def dprmUnregisterDatapath (state : DprmState) (handle : MchashNoderef) (attached : Bool) :
    DprmState × DprmStatus :=
  match state.datapathTable.access handle with
  | .valid (some block) =>
    if attached then
      (state, .errorResourceNotempty)
    else
      let entry := state.datapaths block
      match state.switches.table.access entry.switchLink.handle with
      | .valid (some switch) =>
        let inSwitch := state.switches.withdraw switch entry.switchLink.noderef
        let state :=
          { state with
            switches := inSwitch.1, undefined := state.undefined || inSwitch.2 }
        match state.domains.table.access entry.domainLink.handle with
        | .valid (some domain) =>
          let inDomain := state.domains.withdraw domain entry.domainLink.noderef
          let state :=
            { state with
              domains := inDomain.1, undefined := state.undefined || inDomain.2 }
          match state.datapathTable.deleteByRef handle with
          | (table, .deleted freed) =>
            ({ state with
                datapathTable := table
                releases := freed :: state.releases }, .success)
          | (_, .notDeleted) => (state, .failure)
          | (_, .fault) => (state.fault, .failure)
        | .invalid => (state, .errorInvalidDomainHandle)
        | _ => (state.fault, .errorInvalidDomainHandle)
      | .invalid => (state, .errorInvalidSwitchHandle)
      | _ => (state.fault, .errorInvalidSwitchHandle)
  | .invalid => (state, .errorInvalidDatapathHandle)
  | _ => (state.fault, .errorInvalidDatapathHandle)

/-! ## Runs -/

/-- One call, with what it meets. -/
inductive DprmCall where
  | registerSwitch (info : SwitchInfo) (memory : OwnerMemory)
  | unregisterSwitch (handle : MchashNoderef) (attributes : Bool)
  | registerDomain (name : List Nat) (memory : OwnerMemory)
  | unregisterDomain (handle : MchashNoderef) (attributes : Bool)
  | registerDatapath (dpid : Nat) (switchHandle domainHandle : MchashNoderef)
      (memory : DatapathMemory)
  | updateDatapath (dpid : Nat) (switchHandle domainHandle : MchashNoderef)
  | unregisterDatapath (handle : MchashNoderef) (attached : Bool)

def dprmStep (state : DprmState) : DprmCall → DprmState
  | .registerSwitch info memory => (dprmRegisterSwitch state info memory).1
  | .unregisterSwitch handle attributes => (dprmUnregisterSwitch state handle attributes).1
  | .registerDomain name memory => (dprmRegisterDomain state name memory).1
  | .unregisterDomain handle attributes => (dprmUnregisterDomain state handle attributes).1
  | .registerDatapath dpid switchHandle domainHandle memory =>
    (dprmRegisterDatapath state dpid switchHandle domainHandle memory).1
  | .updateDatapath dpid switchHandle domainHandle =>
    (dprmUpdateDatapath state dpid switchHandle domainHandle).1
  | .unregisterDatapath handle attached => (dprmUnregisterDatapath state handle attached).1

end OpenFlowController.Dprm
