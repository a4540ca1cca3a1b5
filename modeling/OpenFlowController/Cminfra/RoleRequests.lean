/-
Module: Cminfra.RoleRequests
Purpose: Runs of requests on role entries, of sessions that add and delete instances and of
  decisions: each node and instance holds one entry per role, and who creates or changes an
  entry.
Source: cminfra/infra/dm/basic/dmrole.c 144-237, 437-502, 733-891, 1145-1228;
  cminfra/infra/je/basic/jecfgses.c 4610-4645, 4915-4948, 6405-6480
Trusted boundary: a request that faults leaves the trees as they are
-/
import OpenFlowController.Cminfra.RolePermission

namespace OpenFlowController.Cminfra

open Library List Option

/-! ## Steps -/

/-- What happens to the trees: the requests on role entries, the decision, whose look-ups
create internal nodes, and the instances that sessions add and delete. -/
inductive RoleStep where
  | verify (memory : VerifyMemory) (path role : CString) (command : SubCommand)
  | setNode (memory : RoleMemory) (path requester : CString) (perm : RolePermission)
  | delNode (memory : RoleMemory) (path requester role : CString)
  | setInstance (memory : RoleMemory) (path requester : CString) (perm : RolePermission)
  | delInstance (memory : RoleMemory) (path requester role : CString)
  | addInstance (memory : InodeMemory) (entryMemory : Bool) (path : CString)
      (map : InstanceMap)
  | setRoleToInstance (memory : RoleMemory) (path role : CString) (keys : List NvPair)
  | deleteInstance (inode : Nat) (keys : List NvPair)

/-- The role that asks for a change of entries. -/
def RoleStep.requester : RoleStep → Option CString
  | .setNode _ _ requester _ | .delNode _ _ requester _ | .setInstance _ _ requester _
  | .delInstance _ _ requester _ => some requester
  | .setRoleToInstance _ _ role _ => some role
  | _ => none

namespace Dm

/-- The trees after a step. -/
def step (dm : Dm) : RoleStep → Dm
  | .verify memory path role command =>
    ((dm.cmVerifyRolePermissions memory (some path) (some role) command).map Prod.fst).getD dm
  | .setNode memory path requester perm => (dm.setRolePermissions memory path requester perm).1
  | .delNode memory path requester role => (dm.delPermissionsByRole memory path requester role).1
  | .setInstance memory path requester perm =>
    ((dm.setInstanceRolePermissions memory path requester perm).map Prod.fst).getD dm
  | .delInstance memory path requester role =>
    ((dm.delInstancePermissionsByRole memory path requester role).map Prod.fst).getD dm
  | .addInstance memory entryMemory path map =>
    ((dm.addInstanceMapEntryUsingNamePath memory entryMemory path map).map Prod.fst).getD dm
  | .setRoleToInstance memory path role keys =>
    ((dm.setRoleToInstance memory path role keys).map Prod.fst).getD dm
  | .deleteInstance inode keys => (dm.deleteInstanceUsingKeyArray inode keys).1

/-! ## What should hold -/

/-- Every node and every instance holds at most one entry per role. -/
structure RolesUnique (dm : Dm) : Prop where
  node : ∀ node, ((dm.nodeRoles node).map RolePermission.role).Nodup
  onInstance : ∀ address, ((dm.instanceRoles address).map RolePermission.role).Nodup

/-- An entry that allows role changes. -/
def AllowsRoleChanges (entry : Option RolePermission) : Prop :=
  ∃ found, entry = some found ∧ found.permissions = cmPermissionReadWriteRoleperm

/-- Every entry that a step creates or changes was asked for by a role whose own nearest
entry allows role changes there, and is not the entry of that role. -/
structure EntriesByRight (before : Dm) (event : RoleStep) (after : Dm) : Prop where
  node : ∀ node, ∀ entry ∈ after.nodeRoles node, entry ∉ before.nodeRoles node →
    ∃ requester, event.requester = some requester ∧ entry.role ≠ requester ∧
      AllowsRoleChanges (before.nearestNodeEntry node requester)
  onInstance : ∀ address, ∀ entry ∈ after.instanceRoles address,
    entry ∉ before.instanceRoles address →
      ∃ requester inode, event.requester = some requester ∧ entry.role ≠ requester ∧
        address ∈ before.tableInstances inode ∧
          AllowsRoleChanges (before.entryAbove inode address requester)

/-- The requester passes the check of the instance routines. -/
def MaySetOnInstance (dm : Dm) (memory : RoleMemory) (path : CString) (address : Nat)
    (requester : CString) : Prop :=
  dm.verifyInstanceRoleSetPrivileges address requester = true ∨
    dm.verifyRoleSetPrivileges (dm.getDmNodeFromInstancePath memory.node path) requester = true

/-- What a step must not do: create an entry of the requester's own role, set a role on an
instance on the strength of the template where the instances above say otherwise, or give
the instance of a session the entry of its role. -/
def StepFits (dm : Dm) : RoleStep → Prop
  | .setNode memory path requester perm =>
    ∀ node, dm.getNodeByNamepath memory.node (removeKeysFromPath path) = some node →
      dm.verifyRoleSetPrivileges (some node) requester = true → requester = perm.role →
        (getRolePermsEntryByRole (dm.nodeRoles node) perm.role).isSome = true
  | .setInstance memory path requester perm =>
    ∀ inode address, dm.addressedInstance path = some (inode, address) →
      dm.MaySetOnInstance memory path address requester →
        (requester = perm.role →
          (getRolePermsEntryByRole (dm.instanceRoles address) perm.role).isSome = true) ∧
        AllowsRoleChanges (dm.entryAbove inode address requester)
  | .setRoleToInstance _ path _ keys =>
    ∀ inode address, dm.locateInode path = some inode →
      dm.getInstanceUsingKeyArray inode (keys.map some) ≠ some (some address)
  | _ => True

/-! ## Steps that leave the entries -/

/-- The entries of the nodes are kept, and those of the instances are kept or gone. -/
structure EntriesKept (dm dm' : Dm) : Prop where
  elements : dm'.elements = dm.elements
  onInstance : ∀ address,
    dm'.instanceRoles address = dm.instanceRoles address ∨ dm'.instanceRoles address = []

namespace EntriesKept

variable {dm dm' dm'' : Dm}

theorem refl (dm : Dm) : EntriesKept dm dm :=
  ⟨rfl, fun _ => .inl rfl⟩

theorem trans (first : EntriesKept dm dm') (second : EntriesKept dm' dm'') :
    EntriesKept dm dm'' := by
  refine ⟨second.elements.trans first.elements, fun address => ?_⟩
  rcases second.onInstance address with same | gone
  · rw [same]
    exact first.onInstance address
  · exact .inr gone

section

variable (kept : EntriesKept dm dm')

include kept

theorem nodeRoles (node : Nat) : dm'.nodeRoles node = dm.nodeRoles node := by
  rw [Dm.nodeRoles, Dm.nodeRoles, kept.elements]

theorem rolesUnique (unique : dm.RolesUnique) : dm'.RolesUnique := by
  constructor
  case node =>
    intro node
    rw [kept.nodeRoles]
    exact unique.node node
  case onInstance =>
  intro address
  rcases kept.onInstance address with same | gone
  · rw [same]
    exact unique.onInstance address
  · rw [gone]
    exact nodup_nil

theorem entriesByRight (event : RoleStep) : EntriesByRight dm event dm' := by
  constructor
  case node =>
    intro node entry within changed
    rw [kept.nodeRoles] at within
    exact absurd within changed
  case onInstance =>
  intro address entry within changed
  rcases kept.onInstance address with same | gone
  · rw [same] at within
    exact absurd within changed
  · rw [gone] at within
    exact absurd within (not_mem_nil)

end

end EntriesKept

variable {dm : Dm} {address : Nat}

theorem instanceRoles_update {found changed : Instance} (there : dm.instances address = some found)
    (other : Nat) :
    (((Function.update dm.instances address (some changed)) other).map
        Instance.rolePermList).getD [] =
      if other = address then changed.rolePermList else dm.instanceRoles other := by
  by_cases same : other = address
  · subst same
    simp
  · rw [if_neg same, Function.update_of_ne same]
    rfl

theorem appendChild_kept (dm : Dm) (owner : Parent) (child : Nat) :
    EntriesKept dm (dm.appendChild owner child) := by
  cases owner with
  | inode address =>
    rw [appendChild]
    split
    · exact .refl dm
    · exact ⟨rfl, fun _ => .inl rfl⟩
  | inst address =>
  rw [appendChild]
  split
  · exact .refl dm
  rename_i found there
  refine ⟨rfl, fun other => .inl ?_⟩
  refine (instanceRoles_update there other).trans ?_
  split
  · rename_i same
    rw [same, instanceRoles, there]
    rfl
  · rfl

theorem detachChild_kept (dm : Dm) (owner : Parent) (child : Nat) :
    EntriesKept dm (dm.detachChild owner child) := by
  cases owner with
  | inode address =>
    rw [detachChild]
    split
    · exact .refl dm
    · exact ⟨rfl, fun _ => .inl rfl⟩
  | inst address =>
  rw [detachChild]
  split
  · exact .refl dm
  rename_i found there
  refine ⟨rfl, fun other => .inl ?_⟩
  refine (instanceRoles_update there other).trans ?_
  split
  · rename_i same
    rw [same, instanceRoles, there]
    rfl
  · rfl

theorem createInode_kept (dm : Dm) (owner : Parent) (node : Nat) :
    EntriesKept dm (dm.createInode owner node) := by
  have appended := dm.appendChild_kept owner dm.nextAddress
  exact ⟨appended.elements, appended.onInstance⟩

variable {found : Option Nat} {dm' : Dm} {memory : InodeMemory}

/-- Walking a path keeps the entries. -/
theorem walkInodes_kept {created current : Nat} {owner : Parent} {prevTokenIsTable : Bool}
    {tokens : List PathToken}
    (walked : walkInodes memory created dm current owner prevTokenIsTable tokens =
      some (dm', found)) : EntriesKept dm dm' := by
  induction tokens generalizing dm created current owner prevTokenIsTable with
  | nil =>
    cases walked
    exact .refl _
  | cons token rest ih =>
  rw [walkInodes] at walked
  split at walked
  · split at walked
    · cases walked
    · cases walked
      exact .refl _
    · cases walked
      exact .refl _
    · exact ih walked
  split at walked
  · exact ih walked
  split at walked
  · split at walked
    · cases walked
      exact .refl _
    · exact (dm.createInode_kept _ _).trans (ih walked)
  · cases walked
    exact .refl _

variable {path : CString}

theorem getInodeByNamePath_kept (searched : dm.getInodeByNamePath memory path = some (dm', found)) :
    EntriesKept dm dm' := by
  rw [getInodeByNamePath] at searched
  split at searched
  · cases searched
    exact .refl _
  split at searched
  · cases searched
    exact .refl _
  · split at searched
    · cases searched
      exact .refl _
    · exact walkInodes_kept searched

variable {keys : List NvPair}

theorem isInstanceMapEntry_kept {there : Bool}
    (checked : dm.isInstanceMapEntry memory path keys = some (dm', there)) :
    EntriesKept dm dm' := by
  rw [isInstanceMapEntry] at checked
  split at checked
  · cases checked
  · rename_i searched
    cases checked
    exact getInodeByNamePath_kept searched
  rename_i searched
  split at checked
  · cases checked
  · cases checked
    exact getInodeByNamePath_kept searched

variable {memory : RoleMemory}

/-- Searching an instance keeps the entries. -/
theorem findInstance_kept {result : Int ⊕ Nat × Nat}
    (found : dm.findInstance memory path = some (dm', result)) : EntriesKept dm dm' := by
  rw [findInstance] at found
  split at found
  · cases found
  · cases found
    exact .refl _
  split at found
  · cases found
  · rename_i checked
    cases found
    exact isInstanceMapEntry_kept checked
  rename_i checked
  have first := isInstanceMapEntry_kept checked
  split at found
  · cases found
  · rename_i searched
    cases found
    exact first.trans (getInodeByNamePath_kept searched)
  rename_i searched
  have second := first.trans (getInodeByNamePath_kept searched)
  split at found
  · cases found
  · cases found
    exact second
  · cases found
    exact second

variable {requester role : CString} {permissions : Nat}

/-- Reading the permissions of an instance keeps the entries. -/
theorem getInstanceRolePermissionsByRole_kept {result : Int × Nat}
    (found : dm.getInstanceRolePermissionsByRole memory path requester role permissions =
      some (dm', result)) : EntriesKept dm dm' := by
  rw [getInstanceRolePermissionsByRole] at found
  split at found
  · cases found
  · rename_i start
    cases found
    exact findInstance_kept start
  rename_i start
  have kept := findInstance_kept start
  split at found
  · cases found
    exact kept
  split at found
  · cases found
    exact kept
  split at found
  · cases found
    exact kept
  · split at found <;>
    · cases found
      exact kept

/-- A check keeps the entries. -/
theorem verify_kept (dm : Dm) (memory : VerifyMemory) (path role : CString)
    (command : SubCommand) : EntriesKept dm (dm.step (.verify memory path role command)) := by
  rw [step]
  cases made : dm.cmVerifyRolePermissions memory (some path) (some role) command with
  | none => exact .refl dm
  | some result =>
  rw [cmVerifyRolePermissions] at made
  dsimp only at made
  by_cases named : role = []
  · rw [if_pos named] at made
    cases made
    exact .refl _
  rw [if_neg named] at made
  by_cases long : tplPathSize ≤ (removeKeysFromPath path).length
  · rw [if_pos long] at made
    cases made
  rw [if_neg long] at made
  by_cases out : memory.rolePerm = false
  · rw [if_pos out] at made
    cases made
    exact .refl _
  rw [if_neg out] at made
  by_cases longRole : ucmdmAdminRoleMaxLen < role.length
  · rw [if_pos longRole] at made
    cases made
  rw [if_neg longRole] at made
  by_cases empty : path = []
  · rw [if_pos empty] at made
    cases made
  rw [if_neg empty] at made
  by_cases template : scansAsInstance path = false ∨ command = .addParams
  · rw [if_pos template] at made
    split at made
    · cases made
      exact .refl _
    · split at made <;>
      · cases made
        exact .refl _
  rw [if_neg template] at made
  split at made
  · cases made
  rename_i looked
  have kept := getInstanceRolePermissionsByRole_kept looked
  split at made <;>
  · cases made
    exact kept

attribute [local simp] instanceRoles

theorem addInstanceMapToInode_kept (dm : Dm) (memory : Bool) (inode : Nat)
    (map : InstanceMap) : EntriesKept dm (dm.addInstanceMapToInode memory inode map).1 := by
  rw [addInstanceMapToInode]
  split
  · exact .refl dm
  split
  · exact .refl dm
  have appended := dm.appendChild_kept (.inode inode) dm.nextAddress
  refine ⟨appended.elements, fun address => ?_⟩
  by_cases new : address = dm.nextAddress
  · right
    subst new
    simp
  rcases appended.onInstance address with same | gone
  · left
    rw [← same]
    simp [Function.update_of_ne new]
  · right
    rw [← gone]
    simp [Function.update_of_ne new]

/-- A new instance keeps the entries of the others. -/
theorem addInstance_kept (dm : Dm) (memory : InodeMemory) (entryMemory : Bool)
    (path : CString) (map : InstanceMap) :
    EntriesKept dm (dm.step (.addInstance memory entryMemory path map)) := by
  rw [step]
  cases made : dm.addInstanceMapEntryUsingNamePath memory entryMemory path map with
  | none => exact .refl dm
  | some result =>
  obtain ⟨dm', status⟩ := result
  rw [addInstanceMapEntryUsingNamePath] at made
  split at made
  · exact absurd made nofun
  split at made
  · cases made
    exact .refl _
  split at made
  · exact absurd made nofun
  · rename_i searched
    cases made
    exact getInodeByNamePath_kept searched
  rename_i searched
  have kept := getInodeByNamePath_kept searched
  split at made
  · cases made
    exact kept
  split at made
  · exact absurd made nofun
  · cases made
    exact kept
  · rw [← (Prod.mk.inj (some.inj made)).1]
    exact kept.trans (addInstanceMapToInode_kept _ _ _ _)

theorem freeInode_kept (dm : Dm) (inode : Nat) : EntriesKept dm (dm.freeInode inode) := by
  rw [freeInode]
  split
  · exact .refl dm
  split
  · exact .refl dm
  · rename_i owner _
    have detached := dm.detachChild_kept owner inode
    exact ⟨detached.elements, detached.onInstance⟩

theorem freeInstance_kept (dm : Dm) (inode address : Nat) :
    EntriesKept dm (dm.freeInstance inode address) := by
  have detached := dm.detachChild_kept (.inode inode) address
  refine ⟨detached.elements, fun other => ?_⟩
  by_cases freed : other = address
  · right
    subst freed
    simp [freeInstance]
  have same : (dm.freeInstance inode address).instanceRoles other =
      (dm.detachChild (.inode inode) address).instanceRoles other := by
    simp [freeInstance, Function.update_of_ne freed]
  rw [same]
  exact detached.onInstance other

theorem deleteInstance_kept (dm : Dm) (inode : Nat) (keys : List NvPair) :
    EntriesKept dm (dm.step (.deleteInstance inode keys)) := by
  rw [step, deleteInstanceUsingKeyArray]
  split
  · exact .refl dm
  rename_i address _
  dsimp only
  have freed := dm.freeInstance_kept inode address
  split
  · exact freed.trans (freeInode_kept _ inode)
  · exact freed

/-- A role that fits is set without touching the entries. -/
theorem setRoleToInstance_kept (fits : dm.StepFits (.setRoleToInstance memory path role keys)) :
    EntriesKept dm (dm.step (.setRoleToInstance memory path role keys)) := by
  rw [step]
  cases made : dm.setRoleToInstance memory path role keys with
  | none => exact .refl dm
  | some result =>
  rw [setRoleToInstance] at made
  split at made
  · cases made
    exact .refl _
  split at made
  · exact absurd made nofun
  split at made
  · cases made
    exact .refl _
  dsimp only at made
  split at made
  · exact absurd made nofun
  · rename_i searched
    cases made
    exact getInodeByNamePath_kept searched
  rename_i inode searched
  split at made
  · exact absurd made nofun
  · cases made
    exact getInodeByNamePath_kept searched
  rename_i address selected
  rcases getInodeByNamePath_located searched with empty | ⟨rfl, located⟩
  · rw [getInstanceUsingKeyArray_empty empty] at selected
    exact absurd selected nofun
  · exact absurd selected (fits inode address located)

/-! ## Changing the entries -/

theorem updateNodeRoles_roles (dm : Dm) (node : Nat)
    (change : List RolePermission → List RolePermission) (other : Nat) :
    (dm.updateNodeRoles node change).nodeRoles other = dm.nodeRoles other ∨
      other = node ∧
        (dm.updateNodeRoles node change).nodeRoles other = change (dm.nodeRoles node) := by
  rw [nodeRoles, updateNodeRoles, nodeRoles]
  rw [getElem?_modify]
  by_cases same : node = other
  · subst same
    rw [nodeRoles]
    cases dm.elements[node]? with
    | none => exact .inl rfl
    | some element => exact .inr ⟨rfl, by simp⟩
  · left
    simp [same]

theorem updateInstanceRoles_roles (dm : Dm) (address : Nat)
    (change : List RolePermission → List RolePermission) (other : Nat) :
    (dm.updateInstanceRoles address change).instanceRoles other = dm.instanceRoles other ∨
      other = address ∧
        (dm.updateInstanceRoles address change).instanceRoles other =
          change (dm.instanceRoles address) := by
  rw [updateInstanceRoles]
  split
  · exact .inl rfl
  rename_i found there
  by_cases same : other = address
  · right
    subst same
    refine ⟨rfl, (instanceRoles_update there other).trans ?_⟩
    rw [if_pos rfl, instanceRoles, there]
    rfl
  · left
    refine (instanceRoles_update there other).trans ?_
    rw [if_neg same]

theorem updateInstanceRoles_nodeRoles (dm : Dm) (address : Nat)
    (change : List RolePermission → List RolePermission) (node : Nat) :
    (dm.updateInstanceRoles address change).nodeRoles node = dm.nodeRoles node := by
  rw [updateInstanceRoles]
  split <;> rfl

theorem overwritePermissions_roles (role : CString) (permissions : Nat)
    (entries : List RolePermission) :
    (overwritePermissions role permissions entries).map RolePermission.role =
      entries.map RolePermission.role := by
  induction entries with
  | nil => rfl
  | cons entry rest ih =>
  rw [overwritePermissions]
  split
  · rfl
  · rw [map_cons, map_cons, ih]

variable {entry : RolePermission}

theorem mem_overwritePermissions {entries : List RolePermission}
    (within : entry ∈ overwritePermissions role permissions entries) :
    entry ∈ entries ∨ entry.role = role := by
  induction entries with
  | nil => exact absurd within (not_mem_nil)
  | cons first rest ih =>
  rw [overwritePermissions] at within
  split at within
  · rename_i same
    rcases mem_cons.mp within with rfl | later
    · exact .inr same
    · exact .inl (mem_cons_of_mem _ later)
  rcases mem_cons.mp within with rfl | later
  · exact .inl mem_cons_self
  · rcases ih later with old | same
    · exact .inl (mem_cons_of_mem _ old)
    · exact .inr same

theorem getRolePermsEntryByRole_none {entries : List RolePermission}
    (absent : getRolePermsEntryByRole entries role = none) :
    role ∉ entries.map RolePermission.role := by
  intro within
  obtain ⟨entry, there, same⟩ := mem_map.mp within
  have other := find?_eq_none.mp absent entry there
  exact other (by simpa using same)

/-- What the request changes a list of entries into: one entry for its role is overwritten or
appended, or removed. -/
inductive ListChange (perm : RolePermission) :
    List RolePermission → List RolePermission → Prop where
  | overwritten (entries) : ListChange perm entries
      (overwritePermissions perm.role perm.permissions entries)
  | appended (entries) (absent : getRolePermsEntryByRole entries perm.role = none) :
      ListChange perm entries (entries ++ [perm])

variable {perm : RolePermission}

theorem ListChange.nodup {entries entries' : List RolePermission}
    (change : ListChange perm entries entries') (unique : (entries.map RolePermission.role).Nodup) :
    (entries'.map RolePermission.role).Nodup := by
  cases change with
  | overwritten => rwa [overwritePermissions_roles]
  | appended absent =>
  rw [map_append, map_singleton]
  refine nodup_append.mpr ⟨unique, pairwise_singleton _ _, ?_⟩
  intro role within other single same
  rw [mem_singleton.mp single] at same
  exact getRolePermsEntryByRole_none absent (same ▸ within)

theorem ListChange.mem {entries entries' : List RolePermission}
    (change : ListChange perm entries entries') (within : entry ∈ entries')
    (changed : entry ∉ entries) : entry.role = perm.role := by
  cases change with
  | overwritten =>
    rcases mem_overwritePermissions within with old | same
    · exact absurd old changed
    · exact same
  | appended =>
  rcases mem_append.mp within with old | new
  · exact absurd old changed
  · rw [mem_singleton.mp new]

/-- Setting a role on a node leaves the tree, or an entry of another role is overwritten, or
one is appended; the requester's nearest entry there allows that. -/
theorem setRolePermissions_cases (dm : Dm) (memory : RoleMemory) (path requester : CString)
    (perm : RolePermission) :
    (dm.setRolePermissions memory path requester perm).1 = dm ∨
      ∃ node change, dm.getNodeByNamepath memory.node (removeKeysFromPath path) = some node ∧
        dm.verifyRoleSetPrivileges (some node) requester = true ∧
        (dm.setRolePermissions memory path requester perm).1 =
          dm.updateNodeRoles node change ∧
        ListChange perm (dm.nodeRoles node) (change (dm.nodeRoles node)) ∧
        (requester = perm.role → getRolePermsEntryByRole (dm.nodeRoles node) perm.role = none) := by
  rw [setRolePermissions]
  split
  · exact .inl rfl
  split
  · exact .inl rfl
  cases found : dm.getNodeByNamepath memory.node (removeKeysFromPath path) with
  | none => exact .inl rfl
  | some node =>
  dsimp only
  split
  · exact .inl rfl
  rename_i privileged
  split
  · exact .inl rfl
  cases there : getRolePermsEntryByRole (dm.nodeRoles node) perm.role with
  | some entry =>
    dsimp only
    split
    · exact .inl rfl
    · rename_i other
      exact .inr ⟨node, _, rfl, by simpa using privileged, rfl,
        .overwritten _, fun same => absurd same other⟩
  | none =>
  dsimp only
  split
  · exact .inl rfl
  · exact .inr ⟨node, (· ++ [perm]), rfl, by simpa using privileged, rfl,
      .appended _ there, fun _ => there⟩

/-- Permissions are set by a role that may, or nothing changes. -/
theorem setInstanceRolePermissions_cases {status : Int}
    (made : dm.setInstanceRolePermissions memory path requester perm = some (dm', status)) :
    EntriesKept dm dm' ∨
      ∃ inode address change, dm.addressedInstance path = some (inode, address) ∧
        dm.MaySetOnInstance memory path address requester ∧
        dm' = dm.updateInstanceRoles address change ∧
        ListChange perm (dm.instanceRoles address) (change (dm.instanceRoles address)) ∧
        (requester = perm.role →
          getRolePermsEntryByRole (dm.instanceRoles address) perm.role = none) := by
  rw [setInstanceRolePermissions] at made
  cases start : dm.findInstance memory path with
  | none =>
    rw [start] at made
    exact absurd made nofun
  | some begun =>
  obtain ⟨dm₁, result⟩ := begun
  have kept := findInstance_kept start
  rw [start] at made
  rcases findInstance_cases start with rfl | ⟨inode, address, addressed, rfl, rfl | rfl⟩
  · cases made
    exact .inl kept
  · cases made
    exact .inl kept
  dsimp only at made
  split at made
  · cases made
    exact .inl kept
  rename_i privileged
  have may : dm₁.MaySetOnInstance memory path address requester := by
    rw [MaySetOnInstance]
    by_contra neither
    rw [not_or] at neither
    exact privileged ⟨by simpa using neither.1, by simpa using neither.2⟩
  split at made
  · cases made
    exact .inl kept
  cases there : getRolePermsEntryByRole (dm₁.instanceRoles address) perm.role with
  | some entry =>
    rw [there] at made
    dsimp only at made
    split at made
    · cases made
      exact .inl kept
    · rename_i other
      cases made
      exact .inr ⟨inode, address, _, addressed, may, rfl, .overwritten _,
        fun same => absurd same other⟩
  | none =>
  rw [there] at made
  dsimp only at made
  split at made
  · cases made
    exact .inl kept
  · cases made
    exact .inr ⟨inode, address, (· ++ [perm]), addressed, may, rfl,
      .appended _ there, fun _ => there⟩

theorem scanInstances_mem {given : List (Option NvPair)} {addresses : List Nat}
    (selected : dm.scanInstances given addresses = some (some address)) : address ∈ addresses := by
  induction addresses with
  | nil => exact absurd selected nofun
  | cons first rest ih =>
  rw [scanInstances] at selected
  split at selected
  · exact mem_cons_of_mem _ (ih selected)
  split at selected
  · split at selected
    · cases selected
    · rw [← some.inj (some.inj selected)]
      exact mem_cons_self
    · exact mem_cons_of_mem _ (ih selected)
  · exact mem_cons_of_mem _ (ih selected)

theorem addressedInstance_mem {inode : Nat}
    (addressed : dm.addressedInstance path = some (inode, address)) :
    address ∈ dm.tableInstances inode := by
  rw [addressedInstance] at addressed
  split at addressed
  · split at addressed
    · cases addressed
    · split at addressed
      · rename_i selected
        cases addressed
        exact scanInstances_mem selected
      · cases addressed
  · cases addressed

/-! ## One step -/

theorem delNode_sublist (dm : Dm) (memory : RoleMemory) (path requester role : CString)
    (node : Nat) :
    ((dm.step (.delNode memory path requester role)).nodeRoles node).Sublist
      (dm.nodeRoles node) := by
  rw [step, delPermissionsByRole]
  split
  · exact .refl _
  split
  · exact .refl _
  rename_i found _
  split
  · exact .refl _
  split
  · rcases dm.updateNodeRoles_roles found
        (·.eraseP fun entry => entry.role = role) node with same | ⟨rfl, removed⟩
    · rw [same]
    · rw [removed]
      exact eraseP_sublist
  · exact .refl _

theorem delNode_instanceRoles (dm : Dm) (memory : RoleMemory) (path requester role : CString)
    (address : Nat) :
    (dm.step (.delNode memory path requester role)).instanceRoles address =
      dm.instanceRoles address := by
  rw [step, delPermissionsByRole]
  split
  · rfl
  split
  · rfl
  · split
    · rfl
    · split <;> rfl

/-- A deletion only takes entries away. -/
theorem delInstance_sublist (dm : Dm) (memory : RoleMemory) (path requester role : CString) :
    (∀ node, (dm.step (.delInstance memory path requester role)).nodeRoles node =
      dm.nodeRoles node) ∧
    ∀ address, ((dm.step (.delInstance memory path requester role)).instanceRoles
      address).Sublist (dm.instanceRoles address) := by
  have ofKept : ∀ {dm' : Dm}, EntriesKept dm dm' →
      (∀ node, dm'.nodeRoles node = dm.nodeRoles node) ∧
        ∀ address, (dm'.instanceRoles address).Sublist (dm.instanceRoles address) := by
    intro dm' kept
    refine ⟨kept.nodeRoles, fun address => ?_⟩
    rcases kept.onInstance address with same | gone
    · rw [same]
    · rw [gone]
      exact nil_sublist _
  rw [step]
  cases made : dm.delInstancePermissionsByRole memory path requester role with
  | none => exact ofKept (.refl dm)
  | some result =>
  obtain ⟨dm', status⟩ := result
  show (∀ node, dm'.nodeRoles node = dm.nodeRoles node) ∧
    ∀ address, (dm'.instanceRoles address).Sublist (dm.instanceRoles address)
  rw [delInstancePermissionsByRole] at made
  split at made
  · exact absurd made nofun
  · rename_i start
    cases made
    exact ofKept (findInstance_kept start)
  rename_i found start
  have kept := ofKept (findInstance_kept start)
  split at made
  · cases made
    exact kept
  split at made
  · cases made
    constructor
    · intro node
      rw [updateInstanceRoles_nodeRoles]
      exact kept.1 node
    intro address
    rcases updateInstanceRoles_roles _ found
        (·.eraseP fun entry => entry.role = role) address with same | ⟨rfl, removed⟩
    · rw [same]
      exact kept.2 address
    · rw [removed]
      exact eraseP_sublist.trans (kept.2 address)
  · cases made
    exact kept

/-- Every request that fits keeps one entry for each role. -/
theorem rolesUnique_step (dm : Dm) (event : RoleStep) (unique : dm.RolesUnique)
    (fits : dm.StepFits event) : (dm.step event).RolesUnique := by
  cases event with
  | verify memory path role command =>
    exact (dm.verify_kept memory path role command).rolesUnique unique
  | setNode memory path requester perm =>
    rw [step]
    rcases dm.setRolePermissions_cases memory path requester perm with
      same | ⟨node, change, -, -, set, changed, -⟩
    · rw [same]
      exact unique
    rw [set]
    constructor
    case node =>
      intro other
      rcases dm.updateNodeRoles_roles node change other with same | ⟨rfl, new⟩
      · rw [same]
        exact unique.node other
      · rw [new]
        exact changed.nodup (unique.node other)
    case onInstance => exact unique.onInstance
  | delNode memory path requester role =>
    constructor
    case node =>
      intro node
      exact (unique.node node).sublist ((dm.delNode_sublist memory path requester role node).map _)
    case onInstance =>
      intro address
      rw [delNode_instanceRoles]
      exact unique.onInstance address
  | setInstance memory path requester perm =>
    rw [step]
    cases made : dm.setInstanceRolePermissions memory path requester perm with
    | none => exact unique
    | some result =>
    obtain ⟨dm', status⟩ := result
    show dm'.RolesUnique
    rcases setInstanceRolePermissions_cases made with
      kept | ⟨inode, address, change, -, -, rfl, changed, -⟩
    · exact kept.rolesUnique unique
    constructor
    case node =>
      intro node
      rw [updateInstanceRoles_nodeRoles]
      exact unique.node node
    case onInstance =>
    intro other
    rcases dm.updateInstanceRoles_roles address change other with same | ⟨rfl, new⟩
    · rw [same]
      exact unique.onInstance other
    · rw [new]
      exact changed.nodup (unique.onInstance other)
  | delInstance memory path requester role =>
    obtain ⟨nodes, instances⟩ := dm.delInstance_sublist memory path requester role
    constructor
    case node =>
      intro node
      rw [nodes]
      exact unique.node node
    case onInstance =>
      intro address
      exact (unique.onInstance address).sublist ((instances address).map _)
  | addInstance memory entryMemory path map =>
    exact (dm.addInstance_kept memory entryMemory path map).rolesUnique unique
  | setRoleToInstance memory path role keys =>
    exact (setRoleToInstance_kept fits).rolesUnique unique
  | deleteInstance inode keys => exact (dm.deleteInstance_kept inode keys).rolesUnique unique

/-- Every request that fits changes the entries only by right. -/
theorem entriesByRight_step (dm : Dm) (event : RoleStep) (fits : dm.StepFits event) :
    EntriesByRight dm event (dm.step event) := by
  cases event with
  | verify memory path role command =>
    exact (dm.verify_kept memory path role command).entriesByRight _
  | setNode memory path requester perm =>
    rw [step]
    rcases dm.setRolePermissions_cases memory path requester perm with
      same | ⟨node, change, found, privileged, set, changed, own⟩
    · rw [same]
      exact (EntriesKept.refl dm).entriesByRight _
    rw [set]
    constructor
    case node =>
      intro other entry within new
      rcases dm.updateNodeRoles_roles node change other with same | ⟨rfl, list⟩
      · rw [same] at within
        exact absurd within new
      rw [list] at within
      have role := changed.mem within new
      refine ⟨requester, rfl, ?_, ?_⟩
      · intro same
        have absent := own (by rw [← same, role])
        have there := fits other found privileged (by rw [← same, role])
        rw [absent] at there
        exact absurd there nofun
      rw [verifyRoleSetPrivileges] at privileged
      rw [nodeRolePerm_eq] at privileged
      cases nearest : dm.nearestNodeEntry other requester with
      | none =>
        rw [nearest] at privileged
        exact absurd privileged nofun
      | some entry =>
        rw [nearest] at privileged
        exact ⟨entry, rfl, by simpa using privileged⟩
    case onInstance =>
      intro address entry within new
      exact absurd within new
  | delNode memory path requester role =>
    constructor
    case node =>
      intro node entry within new
      exact absurd ((dm.delNode_sublist memory path requester role node).subset within) new
    case onInstance =>
      intro address entry within new
      rw [delNode_instanceRoles] at within
      exact absurd within new
  | setInstance memory path requester perm =>
    rw [step]
    cases made : dm.setInstanceRolePermissions memory path requester perm with
    | none => exact (EntriesKept.refl dm).entriesByRight _
    | some result =>
    obtain ⟨dm', status⟩ := result
    show EntriesByRight dm _ dm'
    rcases setInstanceRolePermissions_cases made with
      kept | ⟨inode, address, change, addressed, may, rfl, changed, own⟩
    · exact kept.entriesByRight _
    obtain ⟨ownThere, allows⟩ := fits inode address addressed may
    constructor
    case node =>
      intro node entry within new
      rw [updateInstanceRoles_nodeRoles] at within
      exact absurd within new
    case onInstance =>
    intro other entry within new
    rcases dm.updateInstanceRoles_roles address change other with same | ⟨rfl, list⟩
    · rw [same] at within
      exact absurd within new
    rw [list] at within
    have role := changed.mem within new
    refine ⟨requester, inode, rfl, ?_, addressedInstance_mem addressed, allows⟩
    intro same
    have absent := own (by rw [← same, role])
    have there := ownThere (by rw [← same, role])
    rw [absent] at there
    exact absurd there nofun
  | delInstance memory path requester role =>
    obtain ⟨nodes, instances⟩ := dm.delInstance_sublist memory path requester role
    constructor
    case node =>
      intro node entry within new
      rw [nodes] at within
      exact absurd within new
    case onInstance =>
      intro address entry within new
      exact absurd ((instances address).subset within) new
  | addInstance memory entryMemory path map =>
    exact (dm.addInstance_kept memory entryMemory path map).entriesByRight _
  | setRoleToInstance memory path role keys =>
    exact (setRoleToInstance_kept fits).entriesByRight _
  | deleteInstance inode keys => exact (dm.deleteInstance_kept inode keys).entriesByRight _

end Dm

/-! ## Decisions and runs -/

/-- The decision on a role, a path and a command is that of the nearest entry exactly where
`VerifyFits` holds; and along a run whose steps all fit, every node and instance keeps one
entry per role and entries are created and changed by right only. -/
theorem role_permissions_iff (dm : Dm) (path role : CString) (command : SubCommand)
    (events : List RoleStep) :
    (VerifyRight dm path role command ↔ VerifyFits dm path role command) ∧
      (dm.RolesUnique → Along Dm.step Dm.StepFits dm events →
        (events.foldl Dm.step dm).RolesUnique ∧
          Along Dm.step (fun before event => Dm.EntriesByRight before event (before.step event))
            dm events) := by
  refine ⟨verify_right_iff dm path role command, fun unique along => ⟨?_, ?_⟩⟩
  · exact along.invariant (fun before event => before.rolesUnique_step event) unique
  · exact along.mono fun before event => before.entriesByRight_step event

/-- A table whose keys are addresses, open to guests, with one instance closed to them. -/
def closedInstance : Dm :=
  { elements :=
      [{ name := "on".toList, elementType := .anchor, childList := [1] },
        { name := "t".toList, elementType := .table, childList := [2], parent := some 0,
          rolePermList := [⟨"GuestRole".toList, cmPermissionReadWrite, by decide⟩] },
        { name := "ip".toList, elementType := .scalarVar, isKey := true, dataType := .ipaddr,
          parent := some 1 }]
    instTree := 0
    inodes := fun address =>
      match address with
      | 0 => some { dmNode := 0, parent := none, childAccess := [1] }
      | 1 => some { dmNode := 0, parent := some (.inode 0), childAccess := [2] }
      | 2 => some { dmNode := 1, parent := some (.inode 1), childAccess := [3] }
      | _ => none
    instances := fun address =>
      match address with
      | 3 =>
        some
          { map :=
              { instanceId := 1
                keyNvPairs := [⟨"ip".toList, .ipaddr, "10.0.0.1".toList⟩] }
            inode := 2
            rolePermList := [⟨"GuestRole".toList, cmPermissionNoaccess, by decide⟩] }
      | _ => none
    nextAddress := 4 }

/-- The dots of the key hide its brace from the scan: guests may set parameters of the
instance that is closed to them. -/
theorem closedInstance_open :
    ¬ VerifyRight closedInstance "on.t{10.0.0.1}".toList "GuestRole".toList .setParams := by
  rw [verify_right_iff, VerifyFits, if_neg (by decide)]
  rintro ⟨-, -, -, same⟩
  have template : closedInstance.templateEntry "on.t{10.0.0.1}".toList "GuestRole".toList =
      some ⟨"GuestRole".toList, cmPermissionReadWrite, by decide⟩ := by
    decide
  have nearest : closedInstance.nearestEntry "on.t{10.0.0.1}".toList "GuestRole".toList =
      some ⟨"GuestRole".toList, cmPermissionNoaccess, by decide⟩ := by
    decide
  rw [template, nearest, entryAllows_some, entryAllows_some] at same
  obtain ⟨need, needs, enough⟩ := same.mp ⟨cmPermissionReadWrite, rfl, Nat.le_refl _⟩
  have positive := neededPermission_pos needs
  exact absurd enough (Nat.not_le.mpr positive)

/-- The same trees, with an administrator on the table. -/
def administered : Dm :=
  { closedInstance with
    elements := closedInstance.elements.modify 1 fun table =>
      { table with
        rolePermList := table.rolePermList ++
          [⟨"AdminRole".toList, cmPermissionReadWriteRoleperm, by decide⟩] } }

/-- A request for an entry of the users on the table. -/
def usersRequest (requester : CString) (permissions : Nat) : RoleStep :=
  .setNode .full "on.t".toList requester ⟨"UserRole".toList, permissions, by decide⟩

/-- A guest asks in vain; the administrator gives the users an entry, raises it, and takes the one
of the guests away. -/
def roleRequests : List RoleStep :=
  [usersRequest "GuestRole".toList cmPermissionReadOnly,
    usersRequest "AdminRole".toList cmPermissionReadOnly,
    usersRequest "AdminRole".toList cmPermissionReadWrite,
    .delNode .full "on.t".toList "AdminRole".toList "GuestRole".toList]

/-- The administrator's requests, and what they leave on the table. -/
theorem role_permissions_administered :
    ((roleRequests.foldl Dm.step administered).nodeRoles 1).map RolePermission.role =
        ["AdminRole".toList, "UserRole".toList] ∧
      (roleRequests.foldl Dm.step administered).RolesUnique ∧
      Along Dm.step (fun before event => Dm.EntriesByRight before event (before.step event))
        administered roleRequests := by
  refine ⟨by decide, (role_permissions_iff administered "on.t".toList "GuestRole".toList
    .getDmNodeInfo roleRequests).2 ?_ ?_⟩
  · constructor
    case node =>
      intro node
      match node with
      | 0 => decide
      | 1 => decide
      | 2 => decide
      | node + 3 => exact nodup_nil
    case onInstance =>
      intro address
      match address with
      | 0 => exact nodup_nil
      | 1 => exact nodup_nil
      | 2 => exact nodup_nil
      | 3 => decide
      | address + 4 => exact nodup_nil
  · exact ⟨fun _ _ _ same => absurd same (by decide), fun _ _ _ same => absurd same (by decide),
      fun _ _ _ same => absurd same (by decide), trivial, trivial⟩

end OpenFlowController.Cminfra
