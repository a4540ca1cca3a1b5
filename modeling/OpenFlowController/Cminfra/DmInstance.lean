/-
Module: Cminfra.DmInstance
Purpose: How an instance enters the instance tree, how it leaves it, and how the instances
  of a table are gone through.
Source: cminfra/infra/dm/basic/dminst.c 157-201, 1366-1800, 2251-2293, 3066-3210
Trusted boundary: a freed node is one that its address no longer leads to, and its numbers are not
  used again; a node hangs in the list of its parent
-/
import OpenFlowController.Cminfra.DmTree

namespace OpenFlowController.Cminfra.Dm

/-! ## Adding -/

/-- `cmi_dm_add_instance_map_to_inode`; `memory` says whether the entry is allocated. -/
def addInstanceMapToInode (dm : Dm) (memory : Bool) (inode : Nat) (map : InstanceMap) : Dm × Int :=
  if dm.inodeIsTable inode = false then (dm, ofFailure)
  else if memory = false then (dm, ofFailure)
  else
    let appended := dm.appendChild (.inode inode) dm.nextAddress
    ({ appended with
        instances := Function.update appended.instances dm.nextAddress (some { map, inode })
        nextAddress := dm.nextAddress + 1 }, ofSuccess)

/-- `cmi_dm_add_instance_map_entry_using_name_path`; an empty path is read before its start. -/
def addInstanceMapEntryUsingNamePath (dm : Dm) (memory : InodeMemory) (entryMemory : Bool)
    (path : CString) (map : InstanceMap) : Option (Dm × Int) :=
  if path = [] then none
  else if path.getLast? = some '}' then some (dm, ofFailure)
  else
    match dm.getInodeByNamePath memory path with
    | none => none
    | some (dm', none) => some (dm', ofFailure)
    | some (dm', some inode) =>
      if (dm'.getInstanceUsingId inode map.instanceId).isSome then some (dm', ofFailure)
      else
        match dm'.getInstanceUsingKeyArray inode (map.keyNvPairs.map some) with
        | none => none
        | some (some _) => some (dm', ofFailure)
        | some none => some (dm'.addInstanceMapToInode entryMemory inode map)

/-! ## Deleting -/

/-- The comparison in the delete routines: some stored value is the same string. -/
def keyArrayEquals (given stored : List NvPair) : Bool :=
  given.length = stored.length ∧ given.all fun pair => stored.any fun other =>
    pair.value = other.value

/-- `CM_DLLQ_DELETE_NODE` on the child list of an internal node or an instance. -/
def detachChild (dm : Dm) (owner : Parent) (child : Nat) : Dm :=
  match owner with
  | .inode address =>
    match dm.inodes address with
    | none => dm
    | some found =>
      { dm with
        inodes := Function.update dm.inodes address
          (some { found with childAccess := found.childAccess.filter (· ≠ child) }) }
  | .inst address =>
    match dm.instances address with
    | none => dm
    | some found =>
      { dm with
        instances := Function.update dm.instances address
          (some { found with
            childInodeList := found.childInodeList.filter (· ≠ child) }) }

/-- An internal node leaves its parent's list and is freed. -/
def freeInode (dm : Dm) (inode : Nat) : Dm :=
  match dm.inodes inode with
  | none => dm
  | some found =>
    match found.parent with
    | none => dm
    | some owner =>
      let detached := dm.detachChild owner inode
      { detached with inodes := Function.update detached.inodes inode none }

/-- An instance leaves its table, its role entries are freed and then itself. -/
def freeInstance (dm : Dm) (inode address : Nat) : Dm :=
  let detached := dm.detachChild (.inode inode) address
  { detached with instances := Function.update detached.instances address none }

/-- `cmi_dm_delete_instance_using_keyArray`. -/
def deleteInstanceUsingKeyArray (dm : Dm) (inode : Nat) (keys : List NvPair) : Dm × Int :=
  match (dm.tableInstances inode).find? fun address =>
      ((dm.instances address).map fun found =>
        keyArrayEquals keys found.map.keyNvPairs).getD false with
  | none => (dm, ofFailure)
  | some address =>
    let removed := dm.freeInstance inode address
    if removed.tableInstances inode = [] then (removed.freeInode inode, ofSuccess)
    else (removed, ofSuccess)

/-- The types that the routines for one key, and the search for the next instance, tell
apart. -/
def comparedTypes : List DataType := [.int, .uint, .int64, .uint64, .string, .ipaddr]

/-- The comparison of `cmi_dm_delete_instance_using_key` with the single key of an instance,
a null pointer where it has none. -/
def keyStringMatches (key : CString) (keyType : DataType) (map : InstanceMap) : Option Bool :=
  if keyType ∈ comparedTypes ∧ map.keyType = keyType then
    map.key.map fun stored => key = stored
  else some false

/-- The scan of `cmi_dm_delete_instance_using_key`; the outer `none` is a fault. -/
def scanKeyStrings (dm : Dm) (key : CString) (keyType : DataType) : List Nat → Option (Option Nat)
  | [] => some none
  | address :: rest =>
    match dm.instances address with
    | none => scanKeyStrings dm key keyType rest
    | some found =>
      match keyStringMatches key keyType found.map with
      | none => none
      | some true => some (some address)
      | some false => scanKeyStrings dm key keyType rest

/-- `cmi_dm_delete_instance_using_key`. -/
def deleteInstanceUsingKey (dm : Dm) (inode : Nat) (key : CString) (keyType : DataType) :
    Option (Dm × Int) :=
  match dm.scanKeyStrings key keyType (dm.tableInstances inode) with
  | none => none
  | some none => some (dm, ofFailure)
  | some (some address) =>
    let removed := dm.freeInstance inode address
    if removed.tableInstances inode = [] then some (removed.freeInode inode, ofSuccess)
    else some (removed, ofSuccess)

/-- `cmi_dm_delete_instance`, which leaves the internal node. -/
def deleteInstance (dm : Dm) (address : Nat) : Option (Dm × Int) :=
  match dm.instances address with
  | none => none
  | some found =>
    match dm.inodes found.inode with
    | none => none
    | some owner =>
      if dm.isTable owner.dmNode = false then some (dm, ofFailure)
      else if address ∈ owner.childAccess then
        some (dm.freeInstance found.inode address, ofSuccess)
      else some (dm, ofFailure)

/-- `cmi_dm_delete_inode`; the root has no parent to read. -/
def deleteInode (dm : Dm) (inode : Nat) : Option (Dm × Int) :=
  match dm.inodes inode with
  | none => none
  | some found =>
    if found.childAccess ≠ [] then some (dm, ofFailure)
    else if found.parent = none then none
    else some (dm.freeInode inode, ofSuccess)

/-! ## Going through a table -/

/-- What a search by position returns: a null pointer, an instance, or the pointer that
`CM_DLLQ_LIST_MEMBER` makes of a null list node. -/
inductive Neighbour where
  | absent
  | found (address : Nat)
  | wild

/-- `CM_DLLQ_LIST_MEMBER` on what a list answers. -/
def listMember : Option Nat → Neighbour
  | none => .wild
  | some address => .found address

/-- `cmi_dm_get_first_instance`. -/
def getFirstInstance (dm : Dm) (inode : Nat) : Neighbour :=
  if dm.inodeIsTable inode then listMember (dm.tableInstances inode).head? else .absent

/-- The comparison in `cmi_dm_get_next_instance`: its counter stays at the first pair of the
instance, which any given pair may equal. -/
def firstKeyMatches (given : List NvPair) : List NvPair → Bool
  | [] => given = []
  | first :: others =>
    (first :: others).length = given.length ∧ given.any fun pair =>
      first.valueType ∈ comparedTypes ∧ pair.valueType = first.valueType ∧
        first.value = pair.value

/-- The scan of `cmi_dm_get_next_instance`. -/
def scanNext (dm : Dm) (given : List NvPair) : List Nat → Neighbour
  | [] => .absent
  | address :: rest =>
    match dm.instances address with
    | none => scanNext dm given rest
    | some found =>
      if firstKeyMatches given found.map.keyNvPairs then listMember rest.head?
      else scanNext dm given rest

/-- `cmi_dm_get_next_instance`. -/
def getNextInstance (dm : Dm) (inode : Nat) (keys : List NvPair) : Neighbour :=
  dm.scanNext keys (dm.tableInstances inode)

end OpenFlowController.Cminfra.Dm
