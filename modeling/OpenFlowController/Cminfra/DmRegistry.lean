/-
Module: Cminfra.DmRegistry
Purpose: The instances of every table stay apart: what the additions, the deletions and the
  look-ups leave of ids and keys.
Trusted boundary: none beyond the modules of the model
-/
import OpenFlowController.Cminfra.DmKeys
import OpenFlowController.Cminfra.RolePermission

namespace OpenFlowController.Cminfra.Dm

open Library List Function Option

/-! ## The invariant -/

/-- Two instances with different ids and different keys. -/
def Apart (dm : Dm) (a b : Nat) : Prop :=
  ∀ first second, dm.instances a = some first → dm.instances b = some second →
    first.map.instanceId ≠ second.map.instanceId ∧
      sameKeys first.map.keyNvPairs second.map.keyNvPairs = false

/-- The instances of every table are there, know their table and have distinct ids and
distinct keys; addresses are given out upwards, and the root is no table. -/
structure Registry (dm : Dm) : Prop where
  root : ∃ found, dm.inodes dm.instTree = some found ∧ dm.isTable found.dmNode = false ∧
    found.parent = none
  listed : ∀ inode found, dm.inodes inode = some found →
    ∀ child ∈ found.childAccess, child < dm.nextAddress
  fresh : ∀ address, dm.nextAddress ≤ address →
    dm.instances address = none ∧ dm.inodes address = none
  present : ∀ inode, ∀ address ∈ dm.tableInstances inode,
    ∃ found, dm.instances address = some found ∧ found.inode = inode
  distinct : ∀ inode, (dm.tableInstances inode).Pairwise dm.Apart

variable {dm : Dm} {inode address : Nat}

theorem mem_tableInstances :
    address ∈ dm.tableInstances inode ↔
      ∃ found, dm.inodes inode = some found ∧ dm.isTable found.dmNode = true ∧
        address ∈ found.childAccess := by
  rw [tableInstances]
  cases dm.inodes inode with
  | none => simp
  | some found =>
    split <;> simp [*]

theorem tableInstances_of_table {found : Inode} (there : dm.inodes inode = some found)
    (table : dm.isTable found.dmNode = true) : dm.tableInstances inode = found.childAccess := by
  rw [tableInstances, there]
  exact if_pos table

variable {dm' : Dm}

theorem isTable_of_elements (same : dm'.elements = dm.elements) (node : Nat) :
    dm'.isTable node = dm.isTable node := by
  rw [isTable, isTable, same]

/-! ## Steps that only remove -/

/-- Nodes, instances and list members are gone or as they were, and what a table lists is
there. -/
structure Shrinks (dm dm' : Dm) : Prop where
  elements : dm'.elements = dm.elements
  instTree : dm'.instTree = dm.instTree
  nextAddress : dm'.nextAddress = dm.nextAddress
  inodes : ∀ inode found', dm'.inodes inode = some found' →
    ∃ found, dm.inodes inode = some found ∧ found'.dmNode = found.dmNode ∧
      found'.parent = found.parent ∧ found'.childAccess.Sublist found.childAccess
  instances : ∀ address found', dm'.instances address = some found' →
    ∃ found, dm.instances address = some found ∧ found'.map = found.map ∧
      found'.inode = found.inode
  root : dm'.inodes dm.instTree ≠ none
  kept : ∀ inode, ∀ address ∈ dm'.tableInstances inode, dm'.instances address ≠ none

namespace Shrinks

variable {dm dm' : Dm}

theorem isTable (shrinks : Shrinks dm dm') (node : Nat) : dm'.isTable node = dm.isTable node :=
  isTable_of_elements shrinks.elements node

theorem tableInstances (shrinks : Shrinks dm dm') (inode : Nat) :
    (dm'.tableInstances inode).Sublist (dm.tableInstances inode) := by
  rw [Dm.tableInstances]
  cases there : dm'.inodes inode with
  | none => exact nil_sublist _
  | some found' =>
  obtain ⟨found, before, node, -, sublist⟩ := shrinks.inodes inode found' there
  dsimp only
  rw [shrinks.isTable, node]
  by_cases table : dm.isTable found.dmNode = true
  · rw [if_pos table, tableInstances_of_table before table]
    exact sublist
  · rw [if_neg table]
    exact nil_sublist _

theorem apart (shrinks : Shrinks dm dm') {a b : Nat} (apart : dm.Apart a b) : dm'.Apart a b := by
  intro first second there there'
  obtain ⟨first', before, map, -⟩ := shrinks.instances a first there
  obtain ⟨second', before', map', -⟩ := shrinks.instances b second there'
  rw [map, map']
  exact apart first' second' before before'

end Shrinks

/-- What only takes instances away keeps the registry. -/
theorem Registry.of_shrinks (registry : dm.Registry) (shrinks : Shrinks dm dm') : dm'.Registry := by
  constructor
  case root =>
    obtain ⟨found, there, noTable, noParent⟩ := registry.root
    obtain ⟨found', there'⟩ := ne_none_iff_exists'.mp shrinks.root
    obtain ⟨_, before, node, parent, -⟩ := shrinks.inodes _ _ there'
    obtain rfl : found = _ := some.inj (there.symm.trans before)
    refine ⟨found', by rw [shrinks.instTree, there'], ?_, parent.trans noParent⟩
    rw [shrinks.isTable, node, noTable]
  case listed =>
    intro inode found' there child within
    obtain ⟨found, before, -, -, sublist⟩ := shrinks.inodes inode found' there
    rw [shrinks.nextAddress]
    exact registry.listed inode found before child (sublist.subset within)
  case fresh =>
    intro address beyond
    rw [shrinks.nextAddress] at beyond
    obtain ⟨noInstance, noInode⟩ := registry.fresh address beyond
    constructor
    · rw [eq_none_iff_forall_ne_some]
      intro found' there
      obtain ⟨found, before, -⟩ := shrinks.instances address found' there
      rw [noInstance] at before
      exact absurd before nofun
    rw [eq_none_iff_forall_ne_some]
    intro found' there
    obtain ⟨found, before, -⟩ := shrinks.inodes address found' there
    rw [noInode] at before
    exact absurd before nofun
  case present =>
    intro inode address within
    obtain ⟨found, before, back⟩ :=
      registry.present inode address ((shrinks.tableInstances inode).subset within)
    obtain ⟨found', there⟩ := ne_none_iff_exists'.mp (shrinks.kept inode address within)
    obtain ⟨_, before', -, back'⟩ := shrinks.instances address found' there
    obtain rfl : found = _ := some.inj (before.symm.trans before')
    exact ⟨found', there, back'.trans back⟩
  case distinct =>
    intro inode
    exact ((registry.distinct inode).sublist (shrinks.tableInstances inode)).imp shrinks.apart

theorem Registry.shrinks_refl (registry : dm.Registry) : Shrinks dm dm := by
  obtain ⟨root, there, -⟩ := registry.root
  refine ⟨rfl, rfl, rfl, fun inode found there => ⟨found, there, rfl, rfl, .refl _⟩,
    fun address found there => ⟨found, there, rfl, rfl⟩, by rw [there]; exact nofun, ?_⟩
  intro inode address within
  obtain ⟨found, there, -⟩ := registry.present inode address within
  rw [there]
  exact nofun

/-! ## Deleting -/

section

variable (dm : Dm) (owner : Parent) (child : Nat)

@[simp]
theorem detachChild_elements : (dm.detachChild owner child).elements = dm.elements := by
  cases owner <;> rw [detachChild] <;> split <;> rfl

@[simp]
theorem detachChild_instTree : (dm.detachChild owner child).instTree = dm.instTree := by
  cases owner <;> rw [detachChild] <;> split <;> rfl

@[simp]
theorem detachChild_nextAddress : (dm.detachChild owner child).nextAddress = dm.nextAddress := by
  cases owner <;> rw [detachChild] <;> split <;> rfl

theorem detachChild_inodes (inode : Nat) :
    (dm.detachChild owner child).inodes inode =
      (dm.inodes inode).map fun found =>
        if owner = .inode inode then
          { found with childAccess := found.childAccess.filter (· ≠ child) }
        else found := by
  cases owner with
  | inode address =>
    rw [detachChild]
    cases there : dm.inodes address with
    | none =>
      by_cases same : inode = address
      · subst same
        simp [there]
      · simp [Ne.symm same]
    | some found =>
    by_cases same : inode = address
    · subst same
      simp [there]
    · simp [same, Ne.symm same]
  | inst address =>
    rw [detachChild]
    split <;> simp

theorem detachChild_instances (address : Nat) :
    ((dm.detachChild owner child).instances address).map (fun found => (found.map, found.inode)) =
      (dm.instances address).map fun found => (found.map, found.inode) := by
  cases owner with
  | inode inode =>
    rw [detachChild]
    split <;> rfl
  | inst other =>
  rw [detachChild]
  cases there : dm.instances other with
  | none => rfl
  | some found =>
  by_cases same : address = other
  · subst same
    simp [there]
  · simp [same]

end

/-- Removing a list member, and then a node and an instance, only shrinks the tree. -/
theorem Registry.detach_shrinks (registry : dm.Registry) {dm' : Dm} {owner : Parent} {child : Nat}
    (elements : dm'.elements = dm.elements) (instTree : dm'.instTree = dm.instTree)
    (nextAddress : dm'.nextAddress = dm.nextAddress)
    (inodes : ∀ inode, dm'.inodes inode = (dm.detachChild owner child).inodes inode ∨
      inode ≠ dm.instTree ∧ dm'.inodes inode = none) (instances : ∀ address,
      dm'.instances address = (dm.detachChild owner child).instances address ∨
        (∀ inode, address ∉ dm'.tableInstances inode) ∧ dm'.instances address = none) :
    Shrinks dm dm' := by
  have nodes : ∀ inode found', dm'.inodes inode = some found' →
      ∃ found, dm.inodes inode = some found ∧ found'.dmNode = found.dmNode ∧
        found'.parent = found.parent ∧ found'.childAccess.Sublist found.childAccess := by
    intro inode found' there
    rcases inodes inode with same | ⟨-, gone⟩
    · rw [same, detachChild_inodes, map_eq_some_iff] at there
      obtain ⟨found, before, rfl⟩ := there
      refine ⟨found, before, ?_⟩
      split
      · exact ⟨rfl, rfl, filter_sublist⟩
      · exact ⟨rfl, rfl, .refl _⟩
    · rw [gone] at there
      exact absurd there nofun
  have entries : ∀ address found', dm'.instances address = some found' →
      ∃ found, dm.instances address = some found ∧ found'.map = found.map ∧
        found'.inode = found.inode := by
    intro address found' there
    rcases instances address with same | ⟨-, gone⟩
    · have kept := dm.detachChild_instances owner child address
      rw [← same, there] at kept
      obtain ⟨found, before, equal⟩ := map_eq_some_iff.mp kept.symm
      obtain ⟨map, back⟩ := Prod.mk.inj equal
      exact ⟨found, before, map.symm, back.symm⟩
    · rw [gone] at there
      exact absurd there nofun
  obtain ⟨root, there, -⟩ := registry.root
  have rootKept : dm'.inodes dm.instTree ≠ none := by
    rcases inodes dm.instTree with same | ⟨other, -⟩
    · rw [same, detachChild_inodes, there]
      exact nofun
    · exact absurd rfl other
  have sublist : ∀ inode address, address ∈ dm'.tableInstances inode →
      address ∈ dm.tableInstances inode := by
    intro inode address within
    obtain ⟨found', there', table, listed⟩ := mem_tableInstances.mp within
    obtain ⟨found, before, node, -, smaller⟩ := nodes inode found' there'
    refine mem_tableInstances.mpr ⟨found, before, ?_, smaller.subset listed⟩
    rw [isTable_of_elements elements, node] at table
    exact table
  refine ⟨elements, instTree, nextAddress, nodes, entries, rootKept, ?_⟩
  intro inode address within
  rcases instances address with same | ⟨unlisted, -⟩
  · have kept := dm.detachChild_instances owner child address
    obtain ⟨found, before, -⟩ := registry.present inode address (sublist inode address within)
    rw [← same, before] at kept
    intro gone
    rw [gone] at kept
    exact absurd kept nofun
  · exact absurd within (unlisted inode)

theorem Registry.freeInode_shrinks (registry : dm.Registry) (inode : Nat) :
    Shrinks dm (dm.freeInode inode) := by
  rw [freeInode]
  split
  · exact registry.shrinks_refl
  rename_i found there
  split
  · exact registry.shrinks_refl
  rename_i owner parent
  obtain ⟨root, rootThere, -, noParent⟩ := registry.root
  refine registry.detach_shrinks (dm.detachChild_elements owner inode)
    (dm.detachChild_instTree owner inode) (dm.detachChild_nextAddress owner inode)
    (fun other => ?_) (fun address => .inl rfl)
  by_cases same : other = inode
  · subst same
    refine .inr ⟨?_, update_self ..⟩
    rintro rfl
    obtain rfl : root = found := some.inj (rootThere.symm.trans there)
    rw [noParent] at parent
    exact absurd parent nofun
  · exact .inl (update_of_ne same ..)

theorem freeInode_instances (dm : Dm) (inode address : Nat) :
    ((dm.freeInode inode).instances address).map Instance.map =
      (dm.instances address).map Instance.map := by
  rw [freeInode]
  split
  · rfl
  split
  · rfl
  · rename_i owner _
    have kept := congrArg (Option.map Prod.fst) (dm.detachChild_instances owner inode address)
    rw [Option.map_map, Option.map_map] at kept
    exact kept

/-- Freeing an instance only takes instances away. -/
theorem Registry.freeInstance_shrinks (registry : dm.Registry) {inode address : Nat}
    (within : address ∈ dm.tableInstances inode) : Shrinks dm (dm.freeInstance inode address) := by
  refine registry.detach_shrinks (dm.detachChild_elements _ address)
    (dm.detachChild_instTree _ address) (dm.detachChild_nextAddress _ address)
    (fun other => .inl rfl) (fun other => ?_)
  by_cases same : other = address
  · subst same
    refine .inr ⟨fun table listed => ?_, update_self ..⟩
    obtain ⟨found', there', isTable, still⟩ := mem_tableInstances.mp listed
    have node : (dm.detachChild (.inode inode) other).inodes table = some found' := there'
    rw [detachChild_inodes, map_eq_some_iff] at node
    obtain ⟨found, before, rfl⟩ := node
    by_cases own : inode = table
    · subst own
      simp at still
    rw [if_neg (fun equal => own (Parent.inode.inj equal))] at still isTable
    have table' : dm.isTable found.dmNode = true :=
      (isTable_of_elements (dm.detachChild_elements _ other) found.dmNode).symm.trans isTable
    obtain ⟨record, there, back⟩ := registry.present inode other within
    obtain ⟨record', again, back'⟩ := registry.present table other
      (mem_tableInstances.mpr ⟨found, before, table', still⟩)
    obtain rfl : record = record' := some.inj (there.symm.trans again)
    exact own (back.symm.trans back')
  · exact .inl (update_of_ne same ..)

/-! ## Adding -/

section

variable (dm : Dm) (owner : Parent) (child : Nat)

@[simp]
theorem appendChild_elements : (dm.appendChild owner child).elements = dm.elements := by
  cases owner <;> rw [appendChild] <;> split <;> rfl

@[simp]
theorem appendChild_instTree : (dm.appendChild owner child).instTree = dm.instTree := by
  cases owner <;> rw [appendChild] <;> split <;> rfl

theorem appendChild_inodes (inode : Nat) :
    (dm.appendChild owner child).inodes inode =
      (dm.inodes inode).map fun found =>
        if owner = .inode inode then
          { found with childAccess := found.childAccess ++ [child] }
        else found := by
  cases owner with
  | inode address =>
    rw [appendChild]
    cases there : dm.inodes address with
    | none =>
      by_cases same : inode = address
      · subst same
        simp [there]
      · simp [Ne.symm same]
    | some found =>
    by_cases same : inode = address
    · subst same
      simp [there]
    · simp [same, Ne.symm same]
  | inst address =>
    rw [appendChild]
    split <;> simp

theorem appendChild_instances (address : Nat) :
    ((dm.appendChild owner child).instances address).map (fun found => (found.map, found.inode)) =
      (dm.instances address).map fun found => (found.map, found.inode) := by
  cases owner with
  | inode inode =>
    rw [appendChild]
    split <;> rfl
  | inst other =>
  rw [appendChild]
  cases there : dm.instances other with
  | none => rfl
  | some found =>
  by_cases same : address = other
  · subst same
    simp [there]
  · simp [same]

end

/-- A list for internal nodes: that of an instance, or of a node that is no table. -/
def OwnerOpen (dm : Dm) (owner : Parent) : Prop :=
  ∀ inode, owner = .inode inode → dm.inodeIsTable inode = false

theorem apart_of_same {a b : Nat}
    (same : (dm'.instances a).map (fun found => (found.map, found.inode)) =
      (dm.instances a).map fun found => (found.map, found.inode))
    (same' : (dm'.instances b).map (fun found => (found.map, found.inode)) =
      (dm.instances b).map fun found => (found.map, found.inode)) (apart : dm.Apart a b) :
    dm'.Apart a b := by
  intro first second there there'
  rw [there] at same
  rw [there'] at same'
  obtain ⟨first', before, equal⟩ := map_eq_some_iff.mp same.symm
  obtain ⟨second', before', equal'⟩ := map_eq_some_iff.mp same'.symm
  rw [← (Prod.mk.inj equal).1, ← (Prod.mk.inj equal').1]
  exact apart first' second' before before'

theorem present_of_same
    (same : (dm'.instances address).map (fun found => (found.map, found.inode)) =
      (dm.instances address).map fun found => (found.map, found.inode))
    (present : ∃ found, dm.instances address = some found ∧ found.inode = inode) :
    ∃ found, dm'.instances address = some found ∧ found.inode = inode := by
  obtain ⟨found, there, back⟩ := present
  rw [there] at same
  obtain ⟨found', there', equal⟩ := map_eq_some_iff.mp same
  exact ⟨found', there', (Prod.mk.inj equal).2.trans back⟩

/-- A new address enters the list of `owner`, as an empty node or as an instance. -/
structure Appends (dm : Dm) (owner : Parent) (dm' : Dm) : Prop where
  elements : dm'.elements = dm.elements
  instTree : dm'.instTree = dm.instTree
  nextAddress : dm'.nextAddress = dm.nextAddress + 1
  nodes : ∀ inode, inode ≠ dm.nextAddress →
    dm'.inodes inode = (dm.appendChild owner dm.nextAddress).inodes inode
  newNode : ∀ found, dm'.inodes dm.nextAddress = some found → found.childAccess = []
  entries : ∀ address, address ≠ dm.nextAddress →
    (dm'.instances address).map (fun found => (found.map, found.inode)) =
      (dm.instances address).map fun found => (found.map, found.inode)

namespace Appends

variable {dm dm' : Dm} {owner : Parent}

/-- A new instance apart from the others keeps the registry. -/
theorem registry (appends : Appends dm owner dm') (registry : dm.Registry)
    (present : ∀ inode, ∀ address ∈ dm'.tableInstances inode,
      ∃ found, dm'.instances address = some found ∧ found.inode = inode)
    (distinct : ∀ inode, (dm'.tableInstances inode).Pairwise dm'.Apart) : dm'.Registry := by
  constructor
  case root =>
    obtain ⟨root, there, noTable, noParent⟩ := registry.root
    have old : dm.instTree ≠ dm.nextAddress := by
      intro same
      have none' := (registry.fresh _ (Nat.le_of_eq same.symm)).2
      rw [there] at none'
      exact absurd none' nofun
    have found := appends.nodes dm.instTree old
    rw [appendChild_inodes, there] at found
    refine ⟨_, (congrArg _ appends.instTree).trans found, ?_, ?_⟩
    · rw [isTable_of_elements appends.elements]
      split <;> exact noTable
    · split <;> exact noParent
  case listed =>
    intro inode found there member within
    rw [appends.nextAddress]
    by_cases new : inode = dm.nextAddress
    · subst new
      rw [appends.newNode found there] at within
      exact absurd within not_mem_nil
    rw [appends.nodes inode new, appendChild_inodes, map_eq_some_iff] at there
    obtain ⟨before, old, rfl⟩ := there
    by_cases owned : owner = .inode inode
    · rw [if_pos owned] at within
      rcases mem_append.mp within with earlier | last
      · exact Nat.lt_succ_of_lt (registry.listed inode before old member earlier)
      · rw [mem_singleton.mp last]
        exact Nat.lt_succ_self _
    · rw [if_neg owned] at within
      exact Nat.lt_succ_of_lt (registry.listed inode before old member within)
  case fresh =>
    intro address beyond
    rw [appends.nextAddress] at beyond
    obtain ⟨noInstance, noInode⟩ := registry.fresh address (by omega)
    constructor
    · have same := appends.entries address (by omega)
      rw [noInstance] at same
      exact map_eq_none_iff.mp same
    · rw [appends.nodes address (by omega), appendChild_inodes, noInode]
      rfl
  case present => exact present
  case distinct => exact distinct

end Appends

theorem Registry.listed_old (registry : dm.Registry) {inode address : Nat}
    (within : address ∈ dm.tableInstances inode) : address ≠ dm.nextAddress := by
  rintro rfl
  obtain ⟨found, there, -⟩ := registry.present inode _ within
  rw [(registry.fresh _ (Nat.le_refl _)).1] at there
  exact absurd there nofun

theorem createInode_appends (dm : Dm) (owner : Parent) (node : Nat) :
    Appends dm owner (dm.createInode owner node) := by
  constructor
  case elements => exact dm.appendChild_elements owner _
  case instTree => exact dm.appendChild_instTree owner _
  case nextAddress => rfl
  case nodes => exact fun inode old => update_of_ne old ..
  case newNode =>
    intro found there
    rw [createInode_fresh] at there
    rw [← some.inj there]
  case entries => exact fun address _ => dm.appendChild_instances owner dm.nextAddress address

theorem createInode_tableInstances_eq (registry : dm.Registry) {owner : Parent}
    (isOpen : dm.OwnerOpen owner) (node inode : Nat) :
    (dm.createInode owner node).tableInstances inode = dm.tableInstances inode := by
  have appends := dm.createInode_appends owner node
  by_cases new : inode = dm.nextAddress
  · subst new
    rw [createInode_tableInstances, tableInstances, (registry.fresh _ (Nat.le_refl _)).2]
  rw [tableInstances, tableInstances, appends.nodes inode new, appendChild_inodes]
  cases there : dm.inodes inode with
  | none => rfl
  | some found =>
  simp only [map_some]
  rw [isTable_of_elements appends.elements]
  by_cases owned : owner = .inode inode
  · have noTable := isOpen inode owned
    rw [inodeIsTable, there] at noTable
    rw [if_pos owned, if_neg (by simpa using noTable), if_neg (by simpa using noTable)]
  · rw [if_neg owned]

theorem createInode_registry (registry : dm.Registry) {owner : Parent} (isOpen : dm.OwnerOpen owner)
    (node : Nat) : (dm.createInode owner node).Registry := by
  have appends := dm.createInode_appends owner node
  refine appends.registry registry ?_ ?_
  · intro inode address within
    rw [createInode_tableInstances_eq registry isOpen] at within
    exact present_of_same (appends.entries address (registry.listed_old within))
      (registry.present inode address within)
  intro inode
  rw [createInode_tableInstances_eq registry isOpen]
  exact (registry.distinct inode).imp_of_mem fun here there apart =>
    apart_of_same (appends.entries _ (registry.listed_old here))
      (appends.entries _ (registry.listed_old there)) apart

theorem ownerOpen_inode (noTable : dm.inodeIsTable inode = false) :
    dm.OwnerOpen (.inode inode) := by
  rintro _ ⟨⟩
  exact noTable

theorem ownerOpen_inst (dm : Dm) (address : Nat) : dm.OwnerOpen (.inst address) := by
  rintro _ ⟨⟩

variable {memory : InodeMemory} {found : Option Nat}

/-- Walking a path, which may create nodes, keeps the registry. -/
theorem walkInodes_registry {created current : Nat} {owner : Parent} {prevTokenIsTable : Bool}
    {tokens : List PathToken} (registry : dm.Registry)
    (isOpen : prevTokenIsTable = false → dm.OwnerOpen owner)
    (walked : walkInodes memory created dm current owner prevTokenIsTable tokens =
      some (dm', found)) : dm'.Registry := by
  induction tokens generalizing dm created current owner prevTokenIsTable with
  | nil =>
    cases walked
    exact registry
  | cons token rest ih =>
  rw [walkInodes] at walked
  split at walked
  · split at walked
    · cases walked
    · cases walked
      exact registry
    · cases walked
      exact registry
    · exact ih registry (fun _ => dm.ownerOpen_inst _) walked
  rename_i noTable
  split at walked
  · exact ih registry ownerOpen_inode walked
  split at walked
  · split at walked
    · cases walked
      exact registry
    · rename_i node _
      refine ih (createInode_registry registry (isOpen (by simpa using noTable)) node)
        (fun table => ownerOpen_inode ?_) walked
      rw [inodeIsTable, createInode_fresh, map_some]
      exact (isTable_of_elements (dm.appendChild_elements owner _) node).trans table
  · cases walked
    exact registry

theorem Registry.root_noTable (registry : dm.Registry) : dm.inodeIsTable dm.instTree = false := by
  obtain ⟨root, there, noTable, -⟩ := registry.root
  rw [inodeIsTable, there]
  exact noTable

theorem getInodeByNamePath_registry {path : CString} (registry : dm.Registry)
    (searched : dm.getInodeByNamePath memory path = some (dm', found)) : dm'.Registry := by
  rw [getInodeByNamePath] at searched
  split at searched
  · cases searched
    exact registry
  split at searched
  · cases searched
    exact registry
  split at searched
  · cases searched
    exact registry
  · exact walkInodes_registry registry (fun _ => ownerOpen_inode registry.root_noTable) searched

/-- No instance of the table has the id or the keys of `map`. -/
def Unused (dm : Dm) (inode : Nat) (map : InstanceMap) : Prop :=
  ∀ address ∈ dm.tableInstances inode, ∀ found, dm.instances address = some found →
    found.map.instanceId ≠ map.instanceId ∧ dm.hasKeys map.keyNvPairs address = false

/-- The tree with a new instance at the end of a table. -/
def withInstance (dm : Dm) (inode : Nat) (map : InstanceMap) : Dm :=
  let appended := dm.appendChild (.inode inode) dm.nextAddress
  { appended with
    instances := Function.update appended.instances dm.nextAddress (some { map, inode })
    nextAddress := dm.nextAddress + 1 }

theorem addInstanceMapToInode_eq (dm : Dm) (memory : Bool) (inode : Nat) (map : InstanceMap) :
    dm.addInstanceMapToInode memory inode map =
      if dm.inodeIsTable inode = true ∧ memory = true then (dm.withInstance inode map, ofSuccess)
      else (dm, ofFailure) := by
  rw [addInstanceMapToInode]
  cases dm.inodeIsTable inode with
  | false => simp
  | true =>
  cases memory with
  | false => simp
  | true => rfl

theorem withInstance_new (dm : Dm) (inode : Nat) (map : InstanceMap) :
    (dm.withInstance inode map).instances dm.nextAddress = some { map, inode } :=
  update_self ..

theorem withInstance_appends (registry : dm.Registry) (inode : Nat) (map : InstanceMap) :
    Appends dm (.inode inode) (dm.withInstance inode map) := by
  constructor
  case elements => exact dm.appendChild_elements _ _
  case instTree => exact dm.appendChild_instTree _ _
  case nextAddress => rfl
  case nodes => exact fun _ _ => rfl
  case newNode =>
    intro found there
    have free : (dm.appendChild (.inode inode) dm.nextAddress).inodes dm.nextAddress =
        some found := there
    rw [appendChild_inodes, (registry.fresh _ (Nat.le_refl _)).2] at free
    exact absurd free nofun
  case entries =>
    intro address old
    have same : (dm.withInstance inode map).instances address =
        (dm.appendChild (.inode inode) dm.nextAddress).instances address :=
      update_of_ne old ..
    rw [same]
    exact dm.appendChild_instances _ _ address

/-- A new instance is listed last in its own table only. -/
theorem withInstance_tableInstances (table : dm.inodeIsTable inode = true) (map : InstanceMap)
    (other : Nat) :
    (dm.withInstance inode map).tableInstances other =
      dm.tableInstances other ++ if other = inode then [dm.nextAddress] else [] := by
  have nodes : (dm.withInstance inode map).inodes =
      (dm.appendChild (.inode inode) dm.nextAddress).inodes := rfl
  have elements : (dm.withInstance inode map).elements = dm.elements :=
    dm.appendChild_elements _ _
  rw [tableInstances, nodes, appendChild_inodes, tableInstances]
  cases there : dm.inodes other with
  | none =>
    have other' : other ≠ inode := by
      rintro rfl
      rw [inodeIsTable, there] at table
      cases table
    simp [other']
  | some found =>
  simp only [map_some, Parent.inode.injEq]
  by_cases same : other = inode
  · subst same
    rw [inodeIsTable, there] at table
    have isTable : dm.isTable found.dmNode = true := table
    rw [if_pos rfl, if_pos rfl, isTable_of_elements elements, if_pos isTable, if_pos isTable]
  · rw [if_neg (Ne.symm same), if_neg same, isTable_of_elements elements, append_nil]

/-- An unused instance keeps the registry. -/
theorem withInstance_registry (registry : dm.Registry) {inode : Nat} {map : InstanceMap}
    (unused : dm.Unused inode map) (table : dm.inodeIsTable inode = true) :
    (dm.withInstance inode map).Registry := by
  have appends := withInstance_appends registry inode map
  have new := dm.withInstance_new inode map
  refine appends.registry registry ?_ ?_
  · intro other address within
    rw [withInstance_tableInstances table] at within
    rcases mem_append.mp within with earlier | last
    · exact present_of_same (appends.entries address (registry.listed_old earlier))
        (registry.present other address earlier)
    split at last
    · rename_i same
      rw [mem_singleton.mp last]
      exact ⟨_, new, same.symm⟩
    · exact absurd last not_mem_nil
  · intro other
    rw [withInstance_tableInstances table, pairwise_append]
    refine ⟨?_, ?_, ?_⟩
    · exact (registry.distinct other).imp_of_mem fun here there apart =>
        apart_of_same (appends.entries _ (registry.listed_old here))
          (appends.entries _ (registry.listed_old there)) apart
    · split
      · exact pairwise_singleton _ _
      · exact .nil
    intro a within b last
    split at last
    · rename_i same
      subst same
      rw [mem_singleton.mp last]
      intro first second there there'
      rw [new] at there'
      obtain rfl := some.inj there'
      have kept := appends.entries a (registry.listed_old within)
      rw [there] at kept
      obtain ⟨before, was, equal⟩ := map_eq_some_iff.mp kept.symm
      obtain ⟨ids, keys⟩ := unused a within before was
      rw [hasKeys, was] at keys
      rw [← (Prod.mk.inj equal).1]
      exact ⟨ids, Bool.eq_false_iff.mpr fun equal' =>
        Bool.eq_false_iff.mp keys (sameKeys_symm equal')⟩
    · exact absurd last not_mem_nil

end OpenFlowController.Cminfra.Dm
