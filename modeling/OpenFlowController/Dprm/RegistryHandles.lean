/-
Module: Dprm.RegistryHandles
Purpose: What every run of registry calls and of port reports keeps, whatever the calls
  return: each entry that a table links stores its own safe reference.
Trusted boundary: none
-/
import OpenFlowController.Dprm.PortDatabase
import OpenFlowController.Dprm.Registry

namespace OpenFlowController.Dprm

open Library Function Utils

/-! ## Switches and domains -/

/-- Every registered switch (or domain) stores its own reference, in a block that was handed
out. -/
def OwnerHandles (registry : OwnerRegistry) : Prop :=
  ∀ owner ∈ registry.table.linked,
    (registry.entries owner.node).handle = owner.noderef ∧ owner.node < registry.nextBlock

/-- The same owners are registered, under the same handles. -/
structure SameOwners (before after : OwnerRegistry) : Prop where
  table : after.table = before.table
  nextBlock : after.nextBlock = before.nextBlock
  handle : ∀ owner, (after.entries owner).handle = (before.entries owner).handle

namespace SameOwners

theorem refl (registry : OwnerRegistry) : SameOwners registry registry :=
  ⟨rfl, rfl, fun _ => rfl⟩

theorem trans {first second third : OwnerRegistry} (one : SameOwners first second)
    (two : SameOwners second third) : SameOwners first third where
  table := two.table.trans one.table
  nextBlock := two.nextBlock.trans one.nextBlock
  handle := fun owner => (two.handle owner).trans (one.handle owner)

theorem handles {before after : OwnerRegistry} (same : SameOwners before after)
    (stored : OwnerHandles before) : OwnerHandles after := by
  intro owner member
  rw [same.table] at member
  rw [same.handle, same.nextBlock]
  exact stored owner member

section

variable (registry : OwnerRegistry)

include registry

variable (owner : Nat)

theorem changeEntry {change : OwnerEntry → OwnerEntry}
    (kept : ∀ entry, (change entry).handle = entry.handle) :
    SameOwners registry (registry.changeEntry owner change) where
  table := rfl
  nextBlock := rfl
  handle := by
    intro other
    dsimp only [OwnerRegistry.changeEntry]
    by_cases same : other = owner
    · rw [same, update_self, kept]
    · rw [update_of_ne same]

theorem appendDatapath (owner block : Nat) :
    SameOwners registry (registry.appendDatapath owner block).1 := by
  dsimp only [OwnerRegistry.appendDatapath]
  apply changeEntry
  intro entry
  rfl

theorem deleteDatapath (noderef : MchashNoderef) :
    SameOwners registry (registry.deleteDatapath owner noderef).1 := by
  dsimp only [OwnerRegistry.deleteDatapath]
  apply changeEntry
  intro entry
  rfl

theorem count (change : Nat → Nat) : SameOwners registry (registry.count owner change) := by
  refine changeEntry registry owner ?_
  intro entry
  rfl

theorem withdraw (noderef : MchashNoderef) :
    SameOwners registry (registry.withdraw owner noderef).1 :=
  (deleteDatapath registry owner noderef).trans (count _ owner uint32Pred)

theorem join (owner block : Nat) (link : OwnerLink) :
    SameOwners registry (registry.join owner block link).1 :=
  (appendDatapath registry owner block).trans (count _ owner uint32Succ)

variable (link : OwnerLink)

theorem enter (block : Nat) (newHandle : MchashNoderef) (undefined : Bool) :
    SameOwners registry (registry.enter link block newHandle undefined).1 := by
  unfold OwnerRegistry.enter
  split
  · exact join registry _ block link
  · exact refl registry
  · exact refl registry

theorem move (block : Nat) (newHandle : MchashNoderef) :
    SameOwners registry (registry.move link block newHandle).1 := by
  unfold OwnerRegistry.move
  split
  · split
    · exact refl registry
    · exact (withdraw registry _ link.noderef).trans (enter _ _ block newHandle _)
  · exact refl registry

theorem exitDelete (deletion : ExitDeletion) :
    SameOwners registry (registry.exitDelete deletion).1 := by
  unfold OwnerRegistry.exitDelete
  split
  · exact refl registry
  · exact refl registry
  · exact deleteDatapath registry _ _

end

end SameOwners

namespace OwnerHandles

variable {registry : OwnerRegistry}

section

variable (stored : OwnerHandles registry)

include stored

theorem of_subset {table : RefTable Nat} (fewer : table.linked ⊆ registry.table.linked) :
    OwnerHandles { registry with table := table } :=
  fun owner member => stored owner (fewer member)

/-- A new owner keeps the handles of the owners. -/
theorem register (name : List Nat) : OwnerHandles (registry.register name).1 := by
  by_cases room : registry.table.free = []
  · rw [OwnerRegistry.register, RefTable.append_full room]
    exact fun owner member =>
      ⟨(stored owner member).1, Nat.lt_succ_of_lt (stored owner member).2⟩
  obtain ⟨after, noderef, appended, linked, -⟩ :=
    RefTable.append_free room registry.nextBlock
  rw [OwnerRegistry.register, appended]
  intro owner member
  dsimp only at member ⊢
  rw [linked] at member
  rcases List.mem_append.mp member with known | new
  · obtain ⟨handle, bound⟩ := stored owner known
    rw [update_of_ne (Nat.ne_of_lt bound)]
    exact ⟨handle, Nat.lt_succ_of_lt bound⟩
  · rw [List.mem_singleton.mp new, update_self]
    exact ⟨rfl, Nat.lt_succ_self _⟩

/-- An owner that leaves keeps the handles of the others. -/
theorem unregister (handle : MchashNoderef) (attributes : Bool) (status : DprmStatus) :
    OwnerHandles (registry.unregister handle attributes status).1 := by
  unfold OwnerRegistry.unregister
  split
  · split
    · exact stored
    · have fewer := registry.table.deleteByRef_subset handle
      split
      · rename_i table freed deleted
        rw [deleted] at fewer
        exact stored.of_subset fewer
      · rename_i table deleted
        rw [deleted] at fewer
        exact stored.of_subset fewer
      · rename_i table deleted
        rw [deleted] at fewer
        exact stored.of_subset fewer
  · exact stored
  · exact stored

end

end OwnerHandles

/-! ## The registry -/

/-- Every registered datapath stores its own reference. -/
def DatapathHandles (state : DprmState) : Prop :=
  ∀ row ∈ state.datapathTable.linked,
    (state.datapaths row.node).datapathHandle = row.noderef ∧ row.node < state.nextBlock

/-- Every entry of the three global tables stores its own reference. -/
structure RegistryHandles (state : DprmState) : Prop where
  switches : OwnerHandles state.switches
  domains : OwnerHandles state.domains
  datapaths : DatapathHandles state

namespace RegistryHandles

variable {state : DprmState}

theorem initial (datapathSize switchSize domainSize swnodeEntriesMax dmnodeEntriesMax : TableSize) :
    RegistryHandles (DprmState.initial datapathSize switchSize domainSize swnodeEntriesMax
      dmnodeEntriesMax) where
  switches := fun _ member => absurd member List.not_mem_nil
  domains := fun _ member => absurd member List.not_mem_nil
  datapaths := fun _ member => absurd member List.not_mem_nil

section

variable (stored : RegistryHandles state)

include stored

theorem fault : RegistryHandles state.fault :=
  ⟨stored.switches, stored.domains, stored.datapaths⟩

theorem registerExit (block : Nat) (inSwitch inDomain : ExitDeletion) (noderef : MchashNoderef) :
    RegistryHandles (registerExit state block inSwitch inDomain noderef) where
  switches := (SameOwners.exitDelete state.switches inSwitch).handles stored.switches
  domains := (SameOwners.exitDelete state.domains inDomain).handles stored.domains
  datapaths := fun row member =>
    stored.datapaths row (state.datapathTable.deleteByRef_subset noderef member)

/-- A datapath under its own handle keeps the handles. -/
theorem appended {table : RefTable Nat} {noderef : MchashNoderef} {entry : DatapathEntry}
    (linked : table.linked =
      state.datapathTable.linked ++ [{ noderef := noderef, node := state.nextBlock }])
    (handle : entry.datapathHandle = noderef) :
    RegistryHandles
      { state with
        nextBlock := state.nextBlock + 1
        datapathTable := table
        datapaths := update state.datapaths state.nextBlock entry } where
  switches := stored.switches
  domains := stored.domains
  datapaths := by
    intro row member
    dsimp only at member ⊢
    rw [linked] at member
    rcases List.mem_append.mp member with known | new
    · obtain ⟨own, bound⟩ := stored.datapaths row known
      rw [update_of_ne (Nat.ne_of_lt bound)]
      exact ⟨own, Nat.lt_succ_of_lt bound⟩
    · rw [List.mem_singleton.mp new, update_self]
      exact ⟨handle, Nat.lt_succ_self _⟩

/-- An entry rewritten with its handle keeps the handles. -/
theorem rewritten {switches domains : OwnerRegistry}
    (sameSwitches : SameOwners state.switches switches)
    (sameDomains : SameOwners state.domains domains) (block : Nat) {entry : DatapathEntry}
    (kept : entry.datapathHandle = (state.datapaths block).datapathHandle) (undefined : Bool) :
    RegistryHandles
      { state with
        switches := switches
        domains := domains
        datapaths := update state.datapaths block entry
        undefined := undefined } where
  switches := sameSwitches.handles stored.switches
  domains := sameDomains.handles stored.domains
  datapaths := by
    intro row member
    obtain ⟨own, bound⟩ := stored.datapaths row member
    refine ⟨?_, bound⟩
    dsimp only
    by_cases same : row.node = block
    · rw [same, update_self, kept, ← same, own]
    · rw [update_of_ne same, own]

/-- Registering with both owners keeps the handles. -/
theorem registerWithOwners (block : Nat) (noderef switchHandle domainHandle : MchashNoderef) :
    RegistryHandles (registerWithOwners state block noderef switchHandle domainHandle).1 := by
  unfold Dprm.registerWithOwners
  split
  · exact stored.fault
  · exact stored.fault
  · rename_i switch domain _ _
    have inSwitch := SameOwners.appendDatapath state.switches switch block
    have inDomain := SameOwners.appendDatapath state.domains domain block
    have between : RegistryHandles
        { state with
          switches := (state.switches.appendDatapath switch block).1
          domains := (state.domains.appendDatapath domain block).1 } :=
      ⟨inSwitch.handles stored.switches, inDomain.handles stored.domains, stored.datapaths⟩
    dsimp only
    split
    · refine stored.rewritten (inSwitch.trans (SameOwners.count _ switch uint32Succ))
        (inDomain.trans (SameOwners.count _ domain uint32Succ)) block ?_ _
      rfl
    · exact between.registerExit block _ _ _
    · exact between.registerExit block _ _ _
    · exact between.registerExit block _ _ _
  · exact stored.fault
  · exact stored.fault
  · exact stored.registerExit block _ _ _
  · exact stored.registerExit block _ _ _
  · exact stored.registerExit block _ _ _

/-- A registration keeps the handles. -/
theorem registerDatapath (dpid : Nat) (switchHandle domainHandle : MchashNoderef)
    (memory : DatapathMemory) :
    RegistryHandles (dprmRegisterDatapath state dpid switchHandle domainHandle memory).1 := by
  have taken : ∀ releases, RegistryHandles
      { state with nextBlock := state.nextBlock + 1, releases := releases } := by
    intro releases
    refine ⟨stored.switches, stored.domains, ?_⟩
    intro row member
    obtain ⟨own, bound⟩ := stored.datapaths row member
    exact ⟨own, Nat.lt_succ_of_lt bound⟩
  unfold dprmRegisterDatapath
  split
  · split
    · exact stored.fault
    · exact stored
  split
  · exact stored
  dsimp only
  split
  · exact taken _
  by_cases room : state.datapathTable.free = []
  · rw [RefTable.append_full room]
    exact taken _
  obtain ⟨after, noderef, made, linked, -⟩ :=
    RefTable.append_free room state.nextBlock
  rw [made]
  apply RegistryHandles.registerWithOwners
  exact stored.appended linked rfl

theorem updateDatapath (dpid : Nat) (switchHandle domainHandle : MchashNoderef) :
    RegistryHandles (dprmUpdateDatapath state dpid switchHandle domainHandle).1 := by
  unfold dprmUpdateDatapath
  split
  · exact stored
  · refine stored.rewritten (SameOwners.move _ _ _ _) (SameOwners.move _ _ _ _) _ ?_ _
    rfl

/-- An unregistration keeps the handles. -/
theorem unregisterDatapath (handle : MchashNoderef) (attached : Bool) :
    RegistryHandles (dprmUnregisterDatapath state handle attached).1 := by
  unfold dprmUnregisterDatapath
  split
  · rename_i block _
    split
    · exact stored
    dsimp only
    split
    · rename_i switch _
      have inSwitch := SameOwners.withdraw state.switches switch
        (state.datapaths block).switchLink.noderef
      split
      · rename_i domain _
        have inDomain := SameOwners.withdraw state.domains domain
          (state.datapaths block).domainLink.noderef
        have fewer := state.datapathTable.deleteByRef_subset handle
        split
        · rename_i table freed deleted
          rw [deleted] at fewer
          exact ⟨inSwitch.handles stored.switches, inDomain.handles stored.domains,
            fun row member => stored.datapaths row (fewer member)⟩
        · exact ⟨inSwitch.handles stored.switches, inDomain.handles stored.domains,
            stored.datapaths⟩
        · exact ⟨inSwitch.handles stored.switches, inDomain.handles stored.domains,
            stored.datapaths⟩
      · exact ⟨inSwitch.handles stored.switches, stored.domains, stored.datapaths⟩
      · exact ⟨inSwitch.handles stored.switches, stored.domains, stored.datapaths⟩
    · exact stored
    · exact stored.fault
  · exact stored
  · exact stored.fault

/-- Every call keeps the handles. -/
theorem step (call : DprmCall) : RegistryHandles (dprmStep state call) := by
  cases call with
  | registerSwitch info memory =>
    show RegistryHandles (dprmRegisterSwitch state info memory).1
    unfold dprmRegisterSwitch
    repeat' split
    all_goals first
      | exact stored
      | exact stored.fault
      | exact ⟨stored.switches.register info.name, stored.domains, stored.datapaths⟩
  | unregisterSwitch handle attributes =>
    exact ⟨stored.switches.unregister handle attributes _, stored.domains, stored.datapaths⟩
  | registerDomain name memory =>
    show RegistryHandles (dprmRegisterDomain state name memory).1
    unfold dprmRegisterDomain
    repeat' split
    all_goals first
      | exact stored
      | exact ⟨stored.switches, stored.domains.register name, stored.datapaths⟩
  | unregisterDomain handle attributes =>
    exact ⟨stored.switches, stored.domains.unregister handle attributes _, stored.datapaths⟩
  | registerDatapath dpid switchHandle domainHandle memory =>
    exact stored.registerDatapath dpid switchHandle domainHandle memory
  | updateDatapath dpid switchHandle domainHandle =>
    exact stored.updateDatapath dpid switchHandle domainHandle
  | unregisterDatapath handle attached => exact stored.unregisterDatapath handle attached

end

theorem run (stored : RegistryHandles state) (calls : List DprmCall) :
    RegistryHandles (calls.foldl dprmStep state) :=
  List.foldlRecOn calls dprmStep stored fun _ before call _ => before.step call

end RegistryHandles

/-! ## The ports of a datapath -/

/-- Every port stores its own reference. -/
def PortHandles (ports : DatapathPorts) : Prop :=
  ∀ port ∈ ports.table.linked,
    (ports.entries port.node).handle = port.noderef ∧ port.node < ports.nextBlock

namespace PortHandles

variable {ports : DatapathPorts} {hash : PortHash}

theorem create (datapathEntryP : List UInt8) (size : TableSize) :
    PortHandles (DatapathPorts.create datapathEntryP size) :=
  fun _ member => absurd member List.not_mem_nil

section

variable (stored : PortHandles ports)

include stored

variable (handle : MchashNoderef)

/-- A port rewritten with its handle keeps the handles. -/
theorem changePort {change : PortEntry → PortEntry}
    (kept : ∀ entry, (change entry).handle = entry.handle) :
    PortHandles (ports.changePort handle change).1 := by
  unfold DatapathPorts.changePort
  split
  · rename_i block _
    intro port member
    obtain ⟨own, bound⟩ := stored port member
    refine ⟨?_, bound⟩
    dsimp only
    by_cases same : port.node = block
    · rw [same, update_self, kept, ← same, own]
    · rw [update_of_ne same, own]
  · exact stored

/-- An added port keeps the handles of the ports. -/
theorem addPort (portName : List UInt8) (portId : UInt32) (memory : PortMemory) :
    PortHandles (ports.dprmAddPortToDatapath hash portName portId memory).1 := by
  unfold DatapathPorts.dprmAddPortToDatapath
  dsimp only
  split
  · exact stored
  split
  · exact stored
  split
  · exact stored
  by_cases room : ports.table.free = []
  · rw [RefTable.append_full room]
    exact fun port member =>
      ⟨(stored port member).1, Nat.lt_succ_of_lt (stored port member).2⟩
  obtain ⟨after, noderef, made, linked, -⟩ := RefTable.append_free room ports.nextBlock
  rw [made]
  intro port member
  dsimp only at member ⊢
  rw [linked] at member
  rcases List.mem_append.mp member with known | new
  · obtain ⟨own, bound⟩ := stored port known
    rw [update_of_ne (Nat.ne_of_lt bound)]
    exact ⟨own, Nat.lt_succ_of_lt bound⟩
  · rw [List.mem_singleton.mp new, update_self]
    exact ⟨rfl, Nat.lt_succ_self _⟩

/-- A port that the switch adds keeps the handles. -/
theorem ofAddPort (portDesc : OflPortDescInfo) (memory : PortMemory) :
    PortHandles (ports.ofAddPortToDp hash portDesc memory).1 := by
  unfold DatapathPorts.ofAddPortToDp
  split
  · exact stored.changePort _ fun _ => rfl
  split
  · exact stored
  · have added : PortHandles
        (ports.dprmAddPortToDatapath hash (cString portDesc.name) portDesc.portNo memory).1 :=
      stored.addPort _ _ _
    split
    · rename_i made
      rw [made] at added
      exact added.changePort _ fun _ => rfl
    · rename_i made
      rw [made] at added
      exact added

/-- A deleted port keeps the handles of the others. -/
theorem deletePort : PortHandles (ports.dprmDeletePortFromDatapath handle).1 := by
  unfold DatapathPorts.dprmDeletePortFromDatapath
  split
  · split
    · exact stored
    · have fewer := ports.table.deleteByRef_subset handle
      split
      · rename_i table freed deleted
        rw [deleted] at fewer
        exact fun port member => stored port (fewer member)
      · exact stored
      · exact stored
  · exact stored
  · exact stored
  · exact stored

/-- The clean-up loop keeps the handles. -/
theorem cleanLoop (fuel : Nat) : PortHandles (DatapathPorts.cleanLoop hash fuel ports).1 := by
  induction fuel generalizing ports with
  | zero => exact stored
  | succ fuel ih =>
  unfold DatapathPorts.cleanLoop
  split
  · exact stored
  rename_i handle _
  have deleted := stored.deletePort handle
  split
  · rename_i after made
    rw [made] at deleted
    exact ih deleted
  · rename_i after made
    rw [made] at deleted
    exact deleted

end

/-- Every call keeps the handles of the ports. -/
theorem step {db : PortDatabase} (stored : PortHandles db.ports) (event : PortEvent) :
    PortHandles (db.step hash event).ports := by
  cases event with
  | portDesc portDesc memory => exact stored.ofAddPort portDesc memory
  | portStatus reason portInfo memory =>
    show PortHandles (db.ports.dpPortStatusChangeEvent hash reason portInfo memory).1
    unfold DatapathPorts.dpPortStatusChangeEvent
    split
    · exact stored.ofAddPort portInfo memory
    split
    · split
      · exact stored.deletePort _
      · exact stored
    · exact stored
  | detach => exact stored.cleanLoop _

theorem run {db : PortDatabase} (stored : PortHandles db.ports) (events : List PortEvent) :
    PortHandles (events.foldl (PortDatabase.step hash) db).ports :=
  List.foldlRecOn events (PortDatabase.step hash) (motive := fun db => PortHandles db.ports)
    stored fun _ before event _ => before.step event

end PortHandles

end OpenFlowController.Dprm
