/-
Module: Cminfra.DmRegistryRuns
Purpose: Runs of additions, deletions, look-ups and searches by position on the instance
  tree: the instances of every table stay apart, and when each request means its keys.
Source: cminfra/infra/dm/basic/dminst.c 157-201, 682-945, 1366-1800, 1893-2016, 2406-2434,
  3066-3210
Trusted boundary: a request that faults leaves the tree as it is, the number of a freed node is
  not given again (nothing compares numbers of different nodes), and the look-up's read of a
  whole `ulong` at the text of a key, whose value it does not use, is inside the key's memory
-/
import OpenFlowController.Cminfra.DmRegistry

namespace OpenFlowController.Cminfra

open Library List

/-! ## Steps -/

/-- The requests on the instances of the tree. -/
inductive RegistryStep where
  | add (memory : InodeMemory) (entryMemory : Bool) (path : CString) (map : InstanceMap)
  | lookUpPath (memory : InodeMemory) (path : CString)
  | lookUpKeyArray (inode : Nat) (keys : List NvPair)
  | lookUpId (inode : Nat) (instanceId : UInt32)
  | getFirst (inode : Nat)
  | getNext (inode : Nat) (keys : List NvPair)
  | deleteKeyArray (inode : Nat) (keys : List NvPair)
  | deleteKey (inode : Nat) (key : CString) (keyType : DataType)
  | deleteId (inode : Nat) (instanceId : UInt32)
  | deleteInode (inode : Nat)

namespace Dm

/-- `cmi_dm_delete_instance` on what `cmi_dm_get_instance_using_id` finds. -/
def deleteInstanceById (dm : Dm) (inode : Nat) (instanceId : UInt32) : Option (Dm × Int) :=
  match dm.getInstanceUsingId inode instanceId with
  | none => some (dm, ofFailure)
  | some address => dm.deleteInstance address

/-- The tree after a request. -/
def registryStep (dm : Dm) : RegistryStep → Dm
  | .add memory entryMemory path map =>
    ((dm.addInstanceMapEntryUsingNamePath memory entryMemory path map).map Prod.fst).getD dm
  | .lookUpPath memory path => ((dm.getInodeByNamePath memory path).map Prod.fst).getD dm
  | .deleteKeyArray inode keys => (dm.deleteInstanceUsingKeyArray inode keys).1
  | .deleteKey inode key keyType =>
    ((dm.deleteInstanceUsingKey inode key keyType).map Prod.fst).getD dm
  | .deleteId inode instanceId =>
    ((dm.deleteInstanceById inode instanceId).map Prod.fst).getD dm
  | .deleteInode inode => ((dm.deleteInode inode).map Prod.fst).getD dm
  | .lookUpKeyArray .. | .lookUpId .. | .getFirst .. | .getNext .. => dm

/-! ## The invariant along runs -/

variable {dm : Dm} {instanceId : UInt32} {inode : Nat}

theorem getInstanceUsingId_none (absent : dm.getInstanceUsingId inode instanceId = none)
    {address : Nat} (within : address ∈ dm.tableInstances inode) {found : Instance}
    (there : dm.instances address = some found) : found.map.instanceId ≠ instanceId := by
  rw [getInstanceUsingId, find?_eq_none] at absent
  have other := absent address within
  rw [there] at other
  simpa using other

variable {map : InstanceMap}

theorem unused_of_checks (noId : dm.getInstanceUsingId inode map.instanceId = none)
    (noKeys : dm.getInstanceUsingKeyArray inode (map.keyNvPairs.map some) = some none) :
    dm.Unused inode map := by
  intro address within found there
  refine ⟨getInstanceUsingId_none noId within there, ?_⟩
  rw [getInstanceUsingKeyArray, scanInstances_eq_scan] at noKeys
  have refused := scan_none_iff.mp noKeys address within
  rw [← Bool.not_eq_true]
  intro has
  rw [lookUpTest_of_hasKeys has] at refused
  cases refused

variable {memory : InodeMemory} {entryMemory : Bool}

/-- An addition by path keeps the registry, whatever memory is left. -/
theorem addInstance_registry {dm' : Dm} {path : CString} {status : Int} (registry : dm.Registry)
    (added : dm.addInstanceMapEntryUsingNamePath memory entryMemory path map =
      some (dm', status)) : dm'.Registry := by
  rw [addInstanceMapEntryUsingNamePath] at added
  split at added
  · exact absurd added nofun
  split at added
  · cases added
    exact registry
  split at added
  · exact absurd added nofun
  · rename_i searched
    cases added
    exact getInodeByNamePath_registry registry searched
  rename_i inode searched
  have later := getInodeByNamePath_registry registry searched
  split at added
  · cases added
    exact later
  rename_i noId
  split at added
  · exact absurd added nofun
  · cases added
    exact later
  rename_i noKeys
  rw [addInstanceMapToInode_eq] at added
  split at added
  · rename_i table
    cases added
    exact withInstance_registry later (unused_of_checks (by simpa using noId) noKeys) table.1
  · cases added
    exact later

/-- Taking an instance out of its table and, where it was the last, the node of the table. -/
def removeInstance (dm : Dm) (inode address : Nat) : Dm :=
  let removed := dm.freeInstance inode address
  if removed.tableInstances inode = [] then removed.freeInode inode else removed

theorem removeInstance_registry (registry : dm.Registry) {inode address : Nat}
    (within : address ∈ dm.tableInstances inode) : (dm.removeInstance inode address).Registry := by
  have removed := registry.of_shrinks (registry.freeInstance_shrinks within)
  rw [removeInstance]
  split
  · exact removed.of_shrinks (removed.freeInode_shrinks inode)
  · exact removed

/-- What the deletion by a key array makes of one instance. -/
def deleteTest (dm : Dm) (keys : List NvPair) (address : Nat) : Bool :=
  ((dm.instances address).map fun found => keyArrayEquals keys found.map.keyNvPairs).getD false

theorem deleteInstanceUsingKeyArray_eq (dm : Dm) (inode : Nat) (keys : List NvPair) :
    dm.deleteInstanceUsingKeyArray inode keys =
      ((dm.tableInstances inode).find? (dm.deleteTest keys)).elim (dm, ofFailure)
        fun address => (dm.removeInstance inode address, ofSuccess) := by
  show (match (dm.tableInstances inode).find? (dm.deleteTest keys) with
    | none => _
    | some address => _) = _
  cases (dm.tableInstances inode).find? (dm.deleteTest keys) with
  | none => rfl
  | some address =>
  rw [Option.elim_some, removeInstance]
  dsimp only
  split <;> rfl

/-- What the deletion by a key string makes of one instance. -/
def deleteKeyTest (dm : Dm) (key : CString) (keyType : DataType) (address : Nat) :
    Option Bool :=
  match dm.instances address with
  | none => some false
  | some found => keyStringMatches key keyType found.map

theorem scanKeyStrings_eq_scan (dm : Dm) (key : CString) (keyType : DataType)
    (addresses : List Nat) :
    dm.scanKeyStrings key keyType addresses = scan (dm.deleteKeyTest key keyType) addresses := by
  induction addresses with
  | nil => rfl
  | cons address rest ih =>
  rw [scanKeyStrings, scan, deleteKeyTest]
  cases dm.instances address with
  | none => exact ih
  | some found =>
  dsimp only
  cases keyStringMatches key keyType found.map with
  | none => rfl
  | some met =>
  cases met with
  | true => rfl
  | false => exact ih

theorem deleteInstanceUsingKey_eq (dm : Dm) (inode : Nat) (key : CString) (keyType : DataType) :
    dm.deleteInstanceUsingKey inode key keyType =
      (scan (dm.deleteKeyTest key keyType) (dm.tableInstances inode)).map fun found =>
        found.elim (dm, ofFailure) fun address => (dm.removeInstance inode address, ofSuccess) := by
  rw [deleteInstanceUsingKey, scanKeyStrings_eq_scan]
  cases scan (dm.deleteKeyTest key keyType) (dm.tableInstances inode) with
  | none => rfl
  | some found =>
  cases found with
  | none => rfl
  | some address =>
  rw [Option.map_some, Option.elim_some, removeInstance]
  dsimp only
  split <;> rfl

variable {address : Nat}

theorem deleteInstance_of_present (registry : dm.Registry)
    (within : address ∈ dm.tableInstances inode) :
    dm.deleteInstance address = some (dm.freeInstance inode address, ofSuccess) := by
  obtain ⟨found, there, back⟩ := registry.present inode address within
  obtain ⟨owner, node, table, listed⟩ := mem_tableInstances.mp within
  rw [deleteInstance, there]
  dsimp only
  rw [back, node]
  dsimp only
  rw [table, if_neg nofun, if_pos listed]

theorem deleteInstanceById_eq (registry : dm.Registry) (inode : Nat) (instanceId : UInt32) :
    dm.deleteInstanceById inode instanceId =
      some ((dm.getInstanceUsingId inode instanceId).elim (dm, ofFailure)
        fun address => (dm.freeInstance inode address, ofSuccess)) := by
  rw [deleteInstanceById]
  cases found : dm.getInstanceUsingId inode instanceId with
  | none => rfl
  | some address =>
    exact deleteInstance_of_present registry (mem_of_find?_eq_some found)

/-- Every request keeps the registry. -/
theorem registry_step (dm : Dm) (event : RegistryStep) (registry : dm.Registry) :
    (dm.registryStep event).Registry := by
  cases event with
  | add memory entryMemory path map =>
    rw [registryStep]
    cases added : dm.addInstanceMapEntryUsingNamePath memory entryMemory path map with
    | none => exact registry
    | some result => exact addInstance_registry registry added
  | lookUpPath memory path =>
    rw [registryStep]
    cases searched : dm.getInodeByNamePath memory path with
    | none => exact registry
    | some result => exact getInodeByNamePath_registry registry searched
  | lookUpKeyArray inode keys => exact registry
  | lookUpId inode instanceId => exact registry
  | getFirst inode => exact registry
  | getNext inode keys => exact registry
  | deleteKeyArray inode keys =>
    rw [registryStep, deleteInstanceUsingKeyArray_eq]
    cases found : (dm.tableInstances inode).find? (dm.deleteTest keys) with
    | none => exact registry
    | some address =>
      exact removeInstance_registry registry (mem_of_find?_eq_some found)
  | deleteKey inode key keyType =>
    rw [registryStep, deleteInstanceUsingKey_eq]
    cases scanned : scan (dm.deleteKeyTest key keyType) (dm.tableInstances inode) with
    | none => exact registry
    | some found =>
    cases found with
    | none => exact registry
    | some address => exact removeInstance_registry registry (scan_some scanned).1
  | deleteId inode instanceId =>
    rw [registryStep, deleteInstanceById_eq registry]
    cases found : dm.getInstanceUsingId inode instanceId with
    | none => exact registry
    | some address =>
      exact registry.of_shrinks (registry.freeInstance_shrinks (mem_of_find?_eq_some found))
  | deleteInode inode =>
  rw [registryStep, deleteInode]
  split
  · exact registry
  split
  · exact registry
  · split
    · exact registry
    · exact registry.of_shrinks (registry.freeInode_shrinks inode)

/-! ## What each request should do -/

/-- The instance at an address has the given id. -/
def hasId (dm : Dm) (instanceId : UInt32) (address : Nat) : Bool :=
  (dm.instances address).map (·.map.instanceId) = some instanceId

/-- The instance at an address has the single key `key`. -/
def hasKeyString (dm : Dm) (key : CString) (keyType : DataType) (address : Nat) : Bool :=
  ((dm.instances address).map fun found =>
    match found.map.keyNvPairs with
    | [pair] => sameValue { name := pair.name, valueType := keyType, value := key } pair
    | _ => false).getD false

/-- A look-up answers an instance if and only if the instance is meant. -/
def LookUpMeant (dm : Dm) (inode : Nat) (meant : Nat → Bool)
    (answer : Option (Option Nat)) : Prop :=
  answer ≠ none ∧ ∀ address, answer = some (some address) ↔
    address ∈ dm.tableInstances inode ∧ meant address = true

/-- A search by path follows equal keys and leaves the tree as it is. -/
def PathMeant (dm : Dm) (memory : InodeMemory) (path : CString) : Prop :=
  dm.getInodeByNamePath memory path = dm.inodeByKeys memory path ∧
    ∃ found, dm.getInodeByNamePath memory path = some (dm, found)

/-- The neighbour at the head of what is left of a table, a null pointer at its end. -/
def neighbourOf (rest : List Nat) : Neighbour :=
  rest.head?.elim .absent .found

/-- From the instance that has the keys the search goes to the one after it, and ends after
the last. -/
def NextMeant (dm : Dm) (inode : Nat) (keys : List NvPair) : Prop :=
  (∀ before address after, dm.tableInstances inode = before ++ address :: after →
    dm.hasKeys keys address = true → dm.getNextInstance inode keys = neighbourOf after) ∧
  ((∀ address ∈ dm.tableInstances inode, dm.hasKeys keys address = false) →
    dm.getNextInstance inode keys = .absent)

/-- From an internal node upwards, the nodes left empty are removed: up to the root, a node
that still holds something or an instance. -/
inductive Pruned : Dm → Nat → Dm → Prop
  | root {dm : Dm} : Pruned dm dm.instTree dm
  | inUse {dm : Dm} {inode : Nat} {found : Inode} (there : dm.inodes inode = some found)
      (holds : found.childAccess ≠ []) : Pruned dm inode dm
  | underInstance {dm : Dm} {inode address : Nat} {found : Inode}
      (there : dm.inodes inode = some found) (empty : found.childAccess = [])
      (parent : found.parent = some (.inst address)) : Pruned dm inode (dm.freeInode inode)
  | underInode {dm dm' : Dm} {inode above : Nat} {found : Inode}
      (there : dm.inodes inode = some found) (empty : found.childAccess = [])
      (parent : found.parent = some (.inode above))
      (later : Pruned (dm.freeInode inode) above dm') : Pruned dm inode dm'

/-- The instance is gone, with the internal nodes that it leaves empty, and no internal node
hangs from it any more. -/
def Removed (dm : Dm) (inode address : Nat) (dm' : Dm) : Prop :=
  Pruned (dm.freeInstance inode address) inode dm' ∧
    ∀ node found, dm'.inodes node = some found → found.parent ≠ some (.inst address)

/-- A deletion removes the instance that is meant, and changes nothing where none is. -/
def DeleteMeant (dm : Dm) (inode : Nat) (meant : Nat → Bool) (answer : Option (Dm × Int)) : Prop :=
  ((∃ address ∈ dm.tableInstances inode, meant address = true) →
    ∃ address ∈ dm.tableInstances inode, meant address = true ∧
      ∃ dm', answer = some (dm', ofSuccess) ∧ Removed dm inode address dm') ∧
  ((∀ address ∈ dm.tableInstances inode, meant address = false) → answer = some (dm, ofFailure))

/-- The addition with equal keys. -/
def addedByKeys (dm : Dm) (memory : InodeMemory) (entryMemory : Bool) (path : CString)
    (map : InstanceMap) : Option (Dm × Int) :=
  if path.getLast? = some '}' then some (dm, ofFailure)
  else
    match dm.inodeByKeys memory path with
    | none => none
    | some (dm', none) => some (dm', ofFailure)
    | some (dm', some inode) =>
      if (dm'.tableInstances inode).any fun address =>
          dm'.hasId map.instanceId address || dm'.hasKeys map.keyNvPairs address then
        some (dm', ofFailure)
      else some (dm'.addInstanceMapToInode entryMemory inode map)

/-- What a request should do: select by equal keys, remove what it selects and what that
leaves empty, go through a table once, and create nothing where it only looks. -/
def StepMeant (dm : Dm) : RegistryStep → Prop
  | .add memory entryMemory path map =>
    dm.addInstanceMapEntryUsingNamePath memory entryMemory path map ≠ none ∧
      dm.addInstanceMapEntryUsingNamePath memory entryMemory path map =
        dm.addedByKeys memory entryMemory path map
  | .lookUpPath memory path => dm.PathMeant memory path
  | .lookUpKeyArray inode keys =>
    dm.LookUpMeant inode (dm.hasKeys keys) (dm.getInstanceUsingKeyArray inode (keys.map some))
  | .lookUpId inode instanceId =>
    dm.LookUpMeant inode (dm.hasId instanceId) (some (dm.getInstanceUsingId inode instanceId))
  | .getFirst inode => dm.getFirstInstance inode = neighbourOf (dm.tableInstances inode)
  | .getNext inode keys => dm.NextMeant inode keys
  | .deleteKeyArray inode keys =>
    dm.DeleteMeant inode (dm.hasKeys keys) (some (dm.deleteInstanceUsingKeyArray inode keys))
  | .deleteKey inode key keyType =>
    dm.DeleteMeant inode (dm.hasKeyString key keyType) (dm.deleteInstanceUsingKey inode key keyType)
  | .deleteId inode instanceId =>
    dm.DeleteMeant inode (dm.hasId instanceId) (dm.deleteInstanceById inode instanceId)
  | .deleteInode inode =>
    ∀ address, ((dm.registryStep (.deleteInode inode)).instances address).map Instance.map =
      (dm.instances address).map Instance.map

/-! ## When it does -/

/-- What the deletion makes of one instance agrees with what is meant, up to the first one
that is. -/
structure SelectFits (dm : Dm) (inode : Nat) (meant : Nat → Bool)
    (test : Nat → Option Bool) : Prop where
  before : ∀ address ∈ (dm.tableInstances inode).takeWhile (fun address => !meant address),
    test address = some false
  accepts : ∀ address, (dm.tableInstances inode).find? meant = some address →
    test address = some true

/-- No internal node hangs from the instance that is meant. -/
def Bare (dm : Dm) (inode : Nat) (meant : Nat → Bool) : Prop :=
  ∀ address, (dm.tableInstances inode).find? meant = some address →
    ∀ node found, dm.inodes node = some found → found.parent ≠ some (.inst address)

/-- Where the instance that is meant is the last, the node of its table hangs from an
instance, from the root or from a node that holds others. -/
def LastFits (dm : Dm) (inode : Nat) (meant : Nat → Bool) : Prop :=
  ∀ address, (dm.tableInstances inode).find? meant = some address →
    (∀ other ∈ dm.tableInstances inode, other = address) →
      ∀ found, dm.inodes inode = some found →
        (∃ above, found.parent = some (.inst above)) ∨
        found.parent = some (.inode dm.instTree) ∨
        ∃ above node, found.parent = some (.inode above) ∧ above ≠ inode ∧
          dm.inodes above = some node ∧ ∃ other ∈ node.childAccess, other ≠ inode

/-- What the search for the next instance makes of one instance. -/
def nextTest (dm : Dm) (keys : List NvPair) (address : Nat) : Bool :=
  ((dm.instances address).map fun found => firstKeyMatches keys found.map.keyNvPairs).getD false

/-- When a request does what it should. -/
def StepUnambiguous (dm : Dm) : RegistryStep → Prop
  | .add memory _ path map =>
    path ≠ [] ∧ (path.getLast? ≠ some '}' → dm.SearchFits memory true path ∧
      ∀ dm' inode, dm.inodeByKeys memory path = some (dm', some inode) →
        dm'.Unused inode map → ∀ address ∈ dm'.tableInstances inode,
          dm'.lookUpTest (map.keyNvPairs.map some) address = some false)
  | .lookUpPath memory path => dm.SearchFits memory false path
  | .lookUpKeyArray inode keys => dm.LookUpFits inode keys
  | .lookUpId _ _ => True
  | .getFirst inode => dm.inodeIsTable inode = true → dm.tableInstances inode ≠ []
  | .getNext inode keys =>
    (∀ address ∈ (dm.tableInstances inode).takeWhile fun address => !dm.hasKeys keys address,
      dm.nextTest keys address = false) ∧
    ∀ before address after, dm.tableInstances inode = before ++ address :: after →
      dm.hasKeys keys address = true → dm.nextTest keys address = true ∧ after ≠ []
  | .deleteKeyArray inode keys =>
    dm.SelectFits inode (dm.hasKeys keys) (fun address => some (dm.deleteTest keys address)) ∧
      dm.Bare inode (dm.hasKeys keys) ∧ dm.LastFits inode (dm.hasKeys keys)
  | .deleteKey inode key keyType =>
    dm.SelectFits inode (dm.hasKeyString key keyType) (dm.deleteKeyTest key keyType) ∧
      dm.Bare inode (dm.hasKeyString key keyType) ∧
        dm.LastFits inode (dm.hasKeyString key keyType)
  | .deleteId inode instanceId =>
    dm.Bare inode (dm.hasId instanceId) ∧
      ∀ address, (dm.tableInstances inode).find? (dm.hasId instanceId) = some address →
        ∃ other ∈ dm.tableInstances inode, other ≠ address
  | .deleteInode _ => True

/-! ## Selection in a registry -/

variable {dm : Dm} {inode : Nat} {keys : List NvPair}

theorem hasKeys_iff :
    dm.hasKeys keys address = true ↔
      ∃ found, dm.instances address = some found ∧ sameKeys keys found.map.keyNvPairs = true := by
  rw [hasKeys]
  cases dm.instances address with
  | none => simp
  | some found => simp

theorem hasId_iff :
    dm.hasId instanceId address = true ↔
      ∃ found, dm.instances address = some found ∧ found.map.instanceId = instanceId := by
  rw [hasId]
  cases dm.instances address with
  | none => simp
  | some found => simp

theorem Apart.not_hasKeys {a b : Nat} (apart : dm.Apart a b) (has : dm.hasKeys keys b = true) :
    dm.hasKeys keys a = false := by
  rw [← Bool.not_eq_true]
  intro has'
  obtain ⟨first, there, same⟩ := hasKeys_iff.mp has'
  obtain ⟨second, there', same'⟩ := hasKeys_iff.mp has
  have different := (apart first second there there').2
  rw [sameKeys_trans (sameKeys_symm same) same'] at different
  exact absurd different nofun

theorem Apart.not_hasId {a b : Nat} (apart : dm.Apart a b) (has : dm.hasId instanceId b = true) :
    dm.hasId instanceId a = false := by
  rw [← Bool.not_eq_true]
  intro has'
  obtain ⟨first, there, same⟩ := hasId_iff.mp has'
  obtain ⟨second, there', same'⟩ := hasId_iff.mp has
  exact (apart first second there there').1 (same.trans same'.symm)

variable {meant : Nat → Bool}

theorem find?_eq_some_of_unique {l : List Nat}
    (pairwise : l.Pairwise fun a b => meant b = true → meant a = false) {address : Nat} :
    l.find? meant = some address ↔ address ∈ l ∧ meant address = true := by
  constructor
  · intro found
    exact ⟨mem_of_find?_eq_some found, find?_some found⟩
  rintro ⟨within, has⟩
  obtain ⟨before, after, rfl⟩ := append_of_mem within
  rw [find?_eq_some_iff_append]
  refine ⟨has, before, after, rfl, fun other earlier => ?_⟩
  have apart := (pairwise_append.mp pairwise).2.2 other earlier address mem_cons_self
  simp [apart has]

theorem Registry.pairwise_hasKeys (registry : dm.Registry) (keys : List NvPair) :
    (dm.tableInstances inode).Pairwise fun a b =>
      dm.hasKeys keys b = true → dm.hasKeys keys a = false :=
  (registry.distinct inode).imp Apart.not_hasKeys

theorem Registry.pairwise_hasId (registry : dm.Registry) (instanceId : UInt32) :
    (dm.tableInstances inode).Pairwise fun a b =>
      dm.hasId instanceId b = true → dm.hasId instanceId a = false :=
  (registry.distinct inode).imp Apart.not_hasId

theorem lookUp_meant {answer : Option (Option Nat)}
    (pairwise : (dm.tableInstances inode).Pairwise fun a b => meant b = true → meant a = false)
    (found : answer = some ((dm.tableInstances inode).find? meant)) :
    dm.LookUpMeant inode meant answer := by
  subst found
  refine ⟨nofun, fun address => ?_⟩
  rw [Option.some.injEq]
  exact find?_eq_some_of_unique pairwise

/-! ## Deletion -/

theorem mem_freeInstance {other : Nat} :
    other ∈ (dm.freeInstance inode address).tableInstances inode ↔
      other ∈ dm.tableInstances inode ∧ other ≠ address := by
  have elements : (dm.freeInstance inode address).elements = dm.elements :=
    dm.detachChild_elements _ _
  have nodes : (dm.freeInstance inode address).inodes =
      (dm.detachChild (.inode inode) address).inodes := rfl
  rw [mem_tableInstances, mem_tableInstances, nodes, detachChild_inodes]
  cases dm.inodes inode with
  | none => simp
  | some found =>
    simp [isTable_of_elements elements, and_assoc]

/-- The code prunes as it should where what it leaves above is not empty. -/
theorem removeInstance_removed (registry : dm.Registry) (within : address ∈ dm.tableInstances inode)
    (bare : ∀ node found, dm.inodes node = some found → found.parent ≠ some (.inst address))
    (last : (∀ other ∈ dm.tableInstances inode, other = address) →
      ∀ found, dm.inodes inode = some found →
        (∃ above, found.parent = some (.inst above)) ∨
        found.parent = some (.inode dm.instTree) ∨
        ∃ above node, found.parent = some (.inode above) ∧ above ≠ inode ∧
          dm.inodes above = some node ∧ ∃ other ∈ node.childAccess, other ≠ inode) :
    dm.Removed inode address (dm.removeInstance inode address) := by
  have shrinks := registry.freeInstance_shrinks within
  have removed := registry.of_shrinks shrinks
  have shrinks' := removed.freeInode_shrinks inode
  have bare' : ∀ node found, (dm.freeInstance inode address).inodes node = some found →
      found.parent ≠ some (.inst address) := by
    intro node found there
    obtain ⟨before, was, -, parent, -⟩ := shrinks.inodes node found there
    rw [parent]
    exact bare node before was
  obtain ⟨found, there, table, listed⟩ := mem_tableInstances.mp within
  have after : (dm.freeInstance inode address).inodes inode =
      some { found with childAccess := found.childAccess.filter (· ≠ address) } := by
    show (dm.detachChild (.inode inode) address).inodes inode = _
    rw [detachChild_inodes, there]
    simp
  have table' : (dm.freeInstance inode address).isTable found.dmNode = true :=
    (shrinks.isTable _).trans table
  rw [removeInstance]
  by_cases empty : (dm.freeInstance inode address).tableInstances inode = []
  · rw [if_pos empty]
    have listEmpty : found.childAccess.filter (· ≠ address) = [] :=
      (tableInstances_of_table after table').symm.trans empty
    have only : ∀ other ∈ dm.tableInstances inode, other = address := by
      intro other listed'
      by_contra different
      have still := mem_freeInstance.mpr ⟨listed', different⟩
      rw [empty] at still
      exact absurd still not_mem_nil
    constructor
    · rcases last only found there with ⟨above, parent⟩ | parent | ⟨above, node, parent, other,
        was, sibling, listed', different⟩
      · exact .underInstance after listEmpty parent
      · refine .underInode after listEmpty parent ?_
        have root : ((dm.freeInstance inode address).freeInode inode).instTree = dm.instTree :=
          shrinks'.instTree.trans shrinks.instTree
        rw [← root]
        exact .root
      · refine .underInode after listEmpty parent ?_
        have kept : (dm.freeInstance inode address).inodes above = some node := by
          show (dm.detachChild (.inode inode) address).inodes above = _
          rw [detachChild_inodes, was]
          simp [Ne.symm other]
        have left : ((dm.freeInstance inode address).freeInode inode).inodes above =
            some { node with childAccess := node.childAccess.filter (· ≠ inode) } := by
          rw [freeInode, after]
          rw [parent]
          dsimp only
          rw [Function.update_of_ne other, detachChild_inodes, kept]
          simp
        refine .inUse left ?_
        exact ne_nil_of_mem (mem_filter.mpr ⟨listed', by simpa using different⟩)
    · intro node found' there'
      obtain ⟨before, was, -, parent, -⟩ := shrinks'.inodes node found' there'
      rw [parent]
      exact bare' node before was
  · rw [if_neg empty]
    refine ⟨.inUse after ?_, bare'⟩
    rw [tableInstances_of_table after table'] at empty
    exact empty

theorem delete_meant {test : Nat → Option Bool} {answer : Option (Dm × Int)}
    (registry : dm.Registry) (made : answer = (scan test (dm.tableInstances inode)).map fun found =>
      found.elim (dm, ofFailure) fun address => (dm.removeInstance inode address, ofSuccess))
    (fits : dm.SelectFits inode meant test) (bare : dm.Bare inode meant)
    (last : dm.LastFits inode meant) : dm.DeleteMeant inode meant answer := by
  rw [scan_eq_find?_iff.mpr ⟨fits.before, fits.accepts⟩, Option.map_some] at made
  subst made
  constructor
  · rintro ⟨address, within, has⟩
    obtain ⟨chosen, found⟩ : ∃ chosen, (dm.tableInstances inode).find? meant = some chosen :=
      Option.isSome_iff_exists.mp (find?_isSome.mpr ⟨address, within, has⟩)
    refine ⟨chosen, mem_of_find?_eq_some found, find?_some found,
      dm.removeInstance inode chosen, ?_, ?_⟩
    · rw [found, Option.elim_some]
    · exact removeInstance_removed registry (mem_of_find?_eq_some found)
        (bare chosen found) (last chosen found)
  intro absent
  have none' : (dm.tableInstances inode).find? meant = none := by
    rw [find?_eq_none]
    intro address within
    simp [absent address within]
  rw [none', Option.elim_none]

/-- A delete by id removes the instance with this id. -/
theorem deleteId_meant (registry : dm.Registry) (bare : dm.Bare inode (dm.hasId instanceId))
    (other : ∀ address, (dm.tableInstances inode).find? (dm.hasId instanceId) = some address →
      ∃ other ∈ dm.tableInstances inode, other ≠ address) :
    dm.DeleteMeant inode (dm.hasId instanceId) (dm.deleteInstanceById inode instanceId) := by
  rw [deleteInstanceById_eq registry]
  have same : dm.getInstanceUsingId inode instanceId =
      (dm.tableInstances inode).find? (dm.hasId instanceId) := rfl
  rw [same]
  constructor
  · rintro ⟨address, within, has⟩
    have found := (find?_eq_some_of_unique (registry.pairwise_hasId instanceId)).mpr ⟨within, has⟩
    refine ⟨address, within, has, dm.freeInstance inode address, ?_, ?_⟩
    · rw [found, Option.elim_some]
    obtain ⟨stays, listed, different⟩ := other address found
    have still := mem_freeInstance.mpr ⟨listed, different⟩
    obtain ⟨node, there, table, within'⟩ := mem_tableInstances.mp still
    refine ⟨.inUse there (ne_nil_of_mem within'), fun node found' there' => ?_⟩
    obtain ⟨before, was, -, parent, -⟩ :=
      (registry.freeInstance_shrinks within).inodes node found' there'
    rw [parent]
    exact bare address found node before was
  · intro absent
    have none' : (dm.tableInstances inode).find? (dm.hasId instanceId) = none := by
      rw [find?_eq_none]
      intro address within
      simp [absent address within]
    rw [none', Option.elim_none]

/-! ## Going through a table -/

theorem scanNext_absent {l : List Nat} (refused : ∀ address ∈ l, dm.nextTest keys address = false) :
    dm.scanNext keys l = .absent := by
  induction l with
  | nil => rfl
  | cons address rest ih =>
  rw [scanNext]
  have here := refused address mem_cons_self
  have later := ih fun other within =>
    refused other (mem_cons_of_mem _ within)
  rw [nextTest] at here
  cases there : dm.instances address with
  | none => exact later
  | some found =>
  rw [there] at here
  dsimp only
  rw [if_neg (by simpa using here)]
  exact later

/-- The enumeration goes to the entry behind the first accepted one. -/
theorem scanNext_found {before after : List Nat}
    (refused : ∀ address ∈ before, dm.nextTest keys address = false)
    (accepted : dm.nextTest keys address = true) :
    dm.scanNext keys (before ++ address :: after) = listMember after.head? := by
  induction before with
  | nil =>
    rw [nil_append, scanNext]
    rw [nextTest] at accepted
    cases there : dm.instances address with
    | none =>
      rw [there] at accepted
      exact absurd accepted nofun
    | some found =>
      rw [there] at accepted
      exact if_pos accepted
  | cons other rest ih =>
  rw [cons_append, scanNext]
  have here := refused other mem_cons_self
  have later := ih fun other within =>
    refused other (mem_cons_of_mem _ within)
  rw [nextTest] at here
  cases there : dm.instances other with
  | none => exact later
  | some found =>
  rw [there] at here
  dsimp only
  rw [if_neg (by simpa using here)]
  exact later

theorem Registry.takeWhile_before (registry : dm.Registry) {keys : List NvPair}
    {before after : List Nat} {address : Nat}
    (table : dm.tableInstances inode = before ++ address :: after)
    (has : dm.hasKeys keys address = true) :
    (dm.tableInstances inode).takeWhile (fun address => !dm.hasKeys keys address) = before := by
  have pairwise : (dm.tableInstances inode).Pairwise fun a b =>
      dm.hasKeys keys b = true → dm.hasKeys keys a = false :=
    registry.pairwise_hasKeys keys
  rw [table] at pairwise ⊢
  have others : ∀ other ∈ before, (!dm.hasKeys keys other) = true := by
    intro other earlier
    have apart := (pairwise_append.mp pairwise).2.2 other earlier address mem_cons_self
    simp [apart has]
  rw [takeWhile_append_of_pos others, takeWhile_cons_of_neg (by simp [has]), append_nil]

theorem next_meant (registry : dm.Registry)
    (refused : ∀ address ∈ (dm.tableInstances inode).takeWhile
      fun address => !dm.hasKeys keys address, dm.nextTest keys address = false)
    (accepted : ∀ before address after,
      dm.tableInstances inode = before ++ address :: after →
        dm.hasKeys keys address = true → dm.nextTest keys address = true ∧ after ≠ []) :
    dm.NextMeant inode keys := by
  constructor
  · intro before address after table has
    obtain ⟨taken, more⟩ := accepted before address after table has
    rw [registry.takeWhile_before table has] at refused
    rw [getNextInstance, table, scanNext_found refused taken]
    cases after with
    | nil => exact absurd rfl more
    | cons next rest => rfl
  intro absent
  refine scanNext_absent fun address within => refused address ?_
  rw [takeWhile_eq_self_iff.mpr fun other within => by simp [absent other within]]
  exact within

/-! ## Addition -/

theorem Registry.unused_iff (registry : dm.Registry) {map : InstanceMap} :
    dm.Unused inode map ↔ ((dm.tableInstances inode).any fun address =>
      dm.hasId map.instanceId address || dm.hasKeys map.keyNvPairs address) = false := by
  rw [any_eq_false, Unused]
  refine forall₂_congr fun address within => ?_
  obtain ⟨found, there, -⟩ := registry.present inode address within
  rw [hasId, there]
  simp

theorem lookUp_none_of_unused (unused : dm.Unused inode map)
    (refused : ∀ address ∈ dm.tableInstances inode,
      dm.lookUpTest (map.keyNvPairs.map some) address = some false) :
    dm.getInstanceUsingId inode map.instanceId = none ∧
      dm.getInstanceUsingKeyArray inode (map.keyNvPairs.map some) = some none := by
  constructor
  · rw [getInstanceUsingId, find?_eq_none]
    intro address within same
    obtain ⟨found, there, equal⟩ := Option.map_eq_some_iff.mp (of_decide_eq_true same)
    exact (unused address within found there).1 equal
  · rw [getInstanceUsingKeyArray, scanInstances_eq_scan]
    exact scan_none_iff.mpr refused

theorem lookUp_of_used (used : ¬ dm.Unused inode map)
    (noId : dm.getInstanceUsingId inode map.instanceId = none) :
    dm.getInstanceUsingKeyArray inode (map.keyNvPairs.map some) ≠ some none :=
  fun noKeys => used (unused_of_checks noId noKeys)

/-- An addition that fits adds exactly the instance. -/
theorem add_meant {path : CString} (registry : dm.Registry) (named : path ≠ [])
    (fits : path.getLast? ≠ some '}' → dm.SearchFits memory true path ∧
      ∀ dm' inode, dm.inodeByKeys memory path = some (dm', some inode) →
        dm'.Unused inode map → ∀ address ∈ dm'.tableInstances inode,
          dm'.lookUpTest (map.keyNvPairs.map some) address = some false) :
    dm.addInstanceMapEntryUsingNamePath memory entryMemory path map ≠ none ∧
      dm.addInstanceMapEntryUsingNamePath memory entryMemory path map =
        dm.addedByKeys memory entryMemory path map := by
  rw [addInstanceMapEntryUsingNamePath, addedByKeys, if_neg named]
  by_cases ends : path.getLast? = some '}'
  · rw [if_pos ends, if_pos ends]
    exact ⟨nofun, rfl⟩
  rw [if_neg ends, if_neg ends]
  obtain ⟨searchFits, loose⟩ := fits ends
  have byKeys := (getInodeByNamePath_byKeys searchFits).1
  rw [← byKeys] at loose ⊢
  cases searched : dm.getInodeByNamePath memory path with
  | none => exact absurd searched (getInodeByNamePath_byKeys searchFits).2.1
  | some result =>
  obtain ⟨dm', found⟩ := result
  have registry' := getInodeByNamePath_registry registry searched
  cases found with
  | none => exact ⟨nofun, rfl⟩
  | some inode =>
  dsimp only
  by_cases unused : dm'.Unused inode map
  · obtain ⟨noId, noKeys⟩ := lookUp_none_of_unused unused (loose dm' inode searched unused)
    rw [noId, noKeys, registry'.unused_iff.mp unused]
    exact ⟨nofun, rfl⟩
  have used : ((dm'.tableInstances inode).any fun address =>
      dm'.hasId map.instanceId address || dm'.hasKeys map.keyNvPairs address) =
        true := by
    rw [← Bool.not_eq_false]
    exact fun none' => unused (registry'.unused_iff.mpr none')
  rw [if_pos used]
  cases noId : dm'.getInstanceUsingId inode map.instanceId with
  | some address => exact ⟨nofun, rfl⟩
  | none =>
  have someKeys := lookUp_of_used unused noId
  have parsed := dm'.getInstanceUsingKeyArray_parsed inode map.keyNvPairs
  cases keys : dm'.getInstanceUsingKeyArray inode (map.keyNvPairs.map some) with
  | none => exact absurd keys parsed
  | some answer =>
  cases answer with
  | none => exact absurd keys someKeys
  | some address => exact ⟨nofun, rfl⟩

/-! ## One step and whole runs -/

/-- Every request that meets its condition does what it says. -/
theorem step_meant (dm : Dm) (event : RegistryStep) (registry : dm.Registry)
    (fits : dm.StepUnambiguous event) : dm.StepMeant event := by
  cases event with
  | add memory entryMemory path map => exact add_meant registry fits.1 fits.2
  | lookUpPath memory path =>
    obtain ⟨byKeys, -, unchanged⟩ := getInodeByNamePath_byKeys fits
    exact ⟨byKeys, unchanged rfl⟩
  | lookUpKeyArray inode keys =>
    exact lookUp_meant (registry.pairwise_hasKeys keys) (lookUp_eq_selected_iff.mpr fits)
  | lookUpId inode instanceId => exact lookUp_meant (registry.pairwise_hasId instanceId) rfl
  | getFirst inode =>
    show dm.getFirstInstance inode = _
    rw [getFirstInstance]
    by_cases table : dm.inodeIsTable inode = true
    · rw [if_pos table]
      have some' := fits table
      cases listed : dm.tableInstances inode with
      | nil => exact absurd listed some'
      | cons first rest => rfl
    rw [if_neg table]
    have empty : dm.tableInstances inode = [] := by
      rw [inodeIsTable] at table
      rw [tableInstances]
      cases there : dm.inodes inode with
      | none => rfl
      | some found =>
        rw [there] at table
        exact if_neg table
    rw [empty]
    rfl
  | getNext inode keys => exact next_meant registry fits.1 fits.2
  | deleteKeyArray inode keys =>
    refine delete_meant registry ?_ fits.1 fits.2.1 fits.2.2
    rw [scan_pure, deleteInstanceUsingKeyArray_eq]
    rfl
  | deleteKey inode key keyType =>
    exact delete_meant registry (deleteInstanceUsingKey_eq dm inode key keyType) fits.1
      fits.2.1 fits.2.2
  | deleteId inode instanceId => exact deleteId_meant registry fits.1 fits.2
  | deleteInode inode =>
  intro address
  have kept := dm.freeInode_instances inode address
  rw [registryStep, deleteInode]
  split
  · rfl
  split
  · rfl
  · split
    · rfl
    · exact kept

end Dm

/-- The trees after `cmi_dm_create_root_instance`: the root of the templates is an anchor. -/
def emptyTree (root : DataElement) (others : List DataElement) : Dm where
  elements := { root with elementType := .anchor } :: others
  instTree := 0
  inodes := fun address => if address = 0 then some { dmNode := 0, parent := none } else none
  instances := fun _ => none
  nextAddress := 1

/-- The empty tree is a registry. -/
theorem emptyTree_registry (root : DataElement) (others : List DataElement) :
    (emptyTree root others).Registry := by
  have noTables : ∀ inode, (emptyTree root others).tableInstances inode = [] := by
    intro inode
    rw [Dm.tableInstances]
    by_cases same : inode = 0
    · subst same
      rfl
    · have none' : (emptyTree root others).inodes inode = none := if_neg same
      rw [none']
  constructor
  case root => exact ⟨_, rfl, rfl, rfl⟩
  case listed =>
    intro inode found there child within
    by_cases same : inode = 0
    · subst same
      obtain rfl := Option.some.inj there
      exact absurd within not_mem_nil
    · have none' : (emptyTree root others).inodes inode = none := if_neg same
      rw [none'] at there
      cases there
  case fresh =>
    intro address beyond
    have positive : 1 ≤ address := beyond
    exact ⟨rfl, if_neg (by omega)⟩
  case present =>
    intro inode address within
    rw [noTables] at within
    exact absurd within not_mem_nil
  case distinct =>
    intro inode
    rw [noTables]
    exact .nil

/-- In every run from the empty tree the instances of every table have distinct ids and
distinct keys; along a run whose requests are all unambiguous, every request does what it
should: look-ups, duplicate checks, deletions and searches by position all go by equal
keys. -/
theorem instance_registry_runs (root : DataElement) (others : List DataElement)
    (events : List RegistryStep) :
    (events.foldl Dm.registryStep (emptyTree root others)).Registry ∧
      (Along Dm.registryStep Dm.StepUnambiguous (emptyTree root others) events →
        Along Dm.registryStep Dm.StepMeant (emptyTree root others) events) := by
  have start := emptyTree_registry root others
  constructor
  · exact List.foldlRecOn events Dm.registryStep start
      fun before registry event _ => before.registry_step event registry
  · exact Along.mono_of_invariant
      (fun before event registry _ => before.registry_step event registry)
      Dm.step_meant start

/-- Templates with a table of two keys, and no instances yet. -/
def twoKeyTree : Dm :=
  emptyTree { name := "on".toList, elementType := .anchor, childList := [1] }
    [{ name := "t".toList, elementType := .table, childList := [2, 3], parent := some 0 },
      { name := "a".toList, elementType := .scalarVar, isKey := true, dataType := .string,
        parent := some 1 },
      { name := "b".toList, elementType := .scalarVar, isKey := true, dataType := .string,
        parent := some 1 }]

/-- The keys of an instance of that table. -/
def twoKeys (a b : CString) : List NvPair :=
  [⟨"a".toList, .string, a⟩, ⟨"b".toList, .string, b⟩]

/-- An instance with two keys is added. -/
def addTwoKeys : RegistryStep :=
  .add { start := true, create := fun _ => true } true "on.t".toList
    { instanceId := 1, keyNvPairs := twoKeys "1".toList "5".toList }

/-- A deletion of other keys, both equal to one stored value, removes the instance. -/
theorem twoKeyTree_removed :
    ¬ Along Dm.registryStep Dm.StepMeant twoKeyTree
      [addTwoKeys, .deleteKeyArray 2 (twoKeys "1".toList "1".toList)] := by
  rintro ⟨-, ⟨-, absent⟩, -⟩
  have unchanged := absent (by decide)
  have status := congrArg (Option.map Prod.snd) unchanged
  exact absurd status (by decide)

/-- The addition with two keys meets its condition. -/
theorem addTwoKeys_unambiguous : twoKeyTree.StepUnambiguous addTwoKeys := by
  refine ⟨by decide, fun _ => ⟨fun _ _ _ => ?_, ?_⟩⟩
  · have tokens : pathTokens "on.t".toList =
        [⟨"on".toList, "on.".toList⟩, ⟨"t".toList, "on.t".toList⟩] := by
      decide
    intro _ node found
    have root : twoKeyTree.getDmNodeFromInstancePath true "on.".toList = some 0 := by decide
    obtain rfl : 0 = node := Option.some.inj (root.symm.trans found)
    refine ⟨rfl, ?_⟩
    intro _ node _
    exact ⟨rfl, trivial⟩
  · intro dm' inode searched _ address within
    have found : (twoKeyTree.inodeByKeys { start := true, create := fun _ => true }
        "on.t".toList).map (fun result => (result.2, result.2.map result.1.tableInstances)) =
          some (some 2, some []) := by
      decide
    rw [searched] at found
    obtain ⟨same, empty⟩ := Prod.mk.inj (Option.some.inj found)
    have none' : dm'.tableInstances inode = [] := Option.some.inj empty
    rw [none'] at within
    exact absurd within not_mem_nil

/-- The instance is added and found again. -/
theorem twoKeyTree_found :
    Along Dm.registryStep Dm.StepMeant twoKeyTree
      [addTwoKeys, .lookUpKeyArray 2 (twoKeys "1".toList "5".toList)] :=
  (instance_registry_runs _ _ _).2
    ⟨addTwoKeys_unambiguous, by
      show ∀ address ∈ _, _
      decide, trivial⟩

end OpenFlowController.Cminfra
