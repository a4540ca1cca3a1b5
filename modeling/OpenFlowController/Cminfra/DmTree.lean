/-
Module: Cminfra.DmTree
Purpose: The data-model tree of templates and the tree of instances over it: how a path finds
  its template node, its keys, its internal nodes, which the search creates where they are
  missing, and its instance.
Source: cminfra/infra/dm/basic/dmtree.c 2611-2695, 2923-2950, 4362-4530; dminst.c 682-945,
  1334-1364, 1893-2115, 2406-2434; cminfra/infra/dm/include/dmldef.h 61-135;
  cminfra/include/infra/dm/dmgdef.h 278-293, 489-545
Trusted boundary: nodes, internal nodes and instances are addressed by numbers, and a larger
  number was allocated later; whether an allocation succeeds is an answer of the caller's memory,
  and a fault is a read past a string or of a null pointer
-/
import OpenFlowController.Cminfra.DmPath

namespace OpenFlowController.Cminfra

/-! ## Status -/

def ofSuccess : Int := 0
def ofFailure : Int := -1

def cmDmErrorBase : Int := 1000 + 1000

def cmDmErrInvalidInputs : Int := cmDmErrorBase + 0
def cmDmErrPathDoesNotExists : Int := cmDmErrorBase + 3
def cmDmErrMemResources : Int := cmDmErrorBase + 4

/-! ## Records -/

def ucmdmAdminRoleMaxLen : Nat := 32

/-- `struct cm_dm_role_permission` and `ucmdm_RolePermission_t`: the array of the name has one
byte more than the longest name. -/
structure RolePermission where
  role : CString
  permissions : Nat
  role_le : role.length ≤ ucmdmAdminRoleMaxLen
deriving DecidableEq

/-- `CM_DMNODE_TYPE_*`. -/
inductive ElementType where
  | anchor
  | table
  | scalarVar
  | invalid
deriving DecidableEq

/-- What the routines here read of `struct cm_dm_data_element`. -/
structure DataElement where
  name : CString
  elementType : ElementType
  isKey : Bool := false
  dataType : DataType := .unknown
  childList : List Nat := []
  parent : Option Nat := none
  rolePermList : List RolePermission := []
deriving DecidableEq

/-- `struct cm_dm_instance_map`; `key` is the single key of the older look-ups. -/
structure InstanceMap where
  instanceId : UInt32
  keyType : DataType := .unknown
  key : Option CString := none
  keyNvPairs : List NvPair

/-- What an internal node hangs from: `uiParentType` and `ParentAccess`. -/
inductive Parent where
  | inode (address : Nat)
  | inst (address : Nat)
deriving DecidableEq

/-- `UCMDM_Inode_t`; `childAccess` is the union of the lists, instances for a table and
internal nodes for any other node. -/
structure Inode where
  dmNode : Nat
  parent : Option Parent
  childAccess : List Nat := []
  nextFreeId : UInt32 := 1
  idWrapped : Bool := false

/-- `UCMDM_Instance_t`. -/
structure Instance where
  map : InstanceMap
  inode : Nat
  childInodeList : List Nat := []
  rolePermList : List RolePermission := []

/-- The two trees; `elements[0]` is the root of the templates. -/
structure Dm where
  elements : List DataElement
  instTree : Nat
  inodes : Nat → Option Inode
  instances : Nat → Option Instance
  nextAddress : Nat

/-- What the memory answers one search for an internal node: the buffers at the start, and
each node that the search creates. -/
structure InodeMemory where
  start : Bool
  create : Nat → Bool

namespace Dm

/-- The name of a template node. -/
def nameOf (dm : Dm) (node : Nat) : CString :=
  (dm.elements[node]?.map DataElement.name).getD []

/-- Whether a template node is a table. -/
def isTable (dm : Dm) (node : Nat) : Bool :=
  dm.elements[node]?.map DataElement.elementType = some .table

/-- The roles on a template node. -/
def nodeRoles (dm : Dm) (node : Nat) : List RolePermission :=
  (dm.elements[node]?.map DataElement.rolePermList).getD []

/-- The roles on an instance. -/
def instanceRoles (dm : Dm) (address : Nat) : List RolePermission :=
  ((dm.instances address).map Instance.rolePermList).getD []

/-! ## Template nodes -/

/-- `cmi_dm_get_child_by_name`. -/
def getChildByName (dm : Dm) (parent : Nat) (childName : CString) : Option Nat :=
  (dm.elements[parent]?.map DataElement.childList).getD [] |>.find? fun child =>
    dm.nameOf child = childName

/-- The loop of `cmi_dm_get_node_by_namepath` over the tokens.  The name of the root may
come first; below it a child of the same name as its parent is not found. -/
def walkNodes (dm : Dm) : Nat → List PathToken → Option Nat
  | node, [] => some node
  | node, token :: rest =>
    if dm.nameOf node = token.text then
      if node ≠ 0 then none else walkNodes dm node rest
    else
      match dm.getChildByName node token.text with
      | none => none
      | some child => walkNodes dm child rest

/-- `cmi_dm_get_node_by_namepath`; `memory` says whether its two buffers are allocated. -/
def getNodeByNamepath (dm : Dm) (memory : Bool) (path : CString) : Option Nat :=
  if path = [] then none
  else if memory = false then none
  else if dm.elements = [] then none
  else if path = dm.nameOf 0 then some 0
  else dm.walkNodes 0 (pathTokens path)

/-- `cmi_dm_get_dm_node_from_instance_path` for the whole string. -/
def getDmNodeFromInstancePath (dm : Dm) (memory : Bool) (path : CString) : Option Nat :=
  dm.getNodeByNamepath memory (removeKeysFromPath path)

/-- The names and types of the key children of a table; none for another node. -/
def keyChildren (dm : Dm) (node : Nat) : List (CString × DataType) :=
  if dm.isTable node then
    ((dm.elements[node]?.map DataElement.childList).getD []).filterMap fun child =>
      match dm.elements[child]? with
      | none => none
      | some element => if element.isKey then some (element.name, element.dataType) else none
  else []

/-! ## The keys of a path -/

/-- The loop of `cmi_dm_get_instance_keys_from_name_path`: the node it ends at, null where it
breaks off, and the last table with the key token that follows it. -/
def walkKeys (dm : Dm) : Option (Nat × CString) → Bool → Nat → List PathToken →
    Option Nat × Option (Nat × CString)
  | last, _, node, [] => (some node, last)
  | last, prevTokenIsTable, node, token :: rest =>
    if token.isKey then
      if prevTokenIsTable then walkKeys dm (some (node, token.text)) false node rest
      else walkKeys dm last prevTokenIsTable node rest
    else if dm.nameOf node = token.text then
      if node ≠ 0 then (none, last) else walkKeys dm last prevTokenIsTable node rest
    else
      match dm.getChildByName node token.text with
      | none => (none, last)
      | some child => walkKeys dm last (dm.isTable child) child rest

/-- `cmi_dm_get_instance_keys_from_name_path`.  Its count of the keys runs past a token that
does not close its brace. -/
def getInstanceKeysFromNamePath (dm : Dm) (memory : Bool) (path : CString) : KeyParse :=
  if dm.elements = [] then .failed []
  else if memory = false then .failed []
  else
    match dm.walkKeys none false 0 (pathTokens path) with
    | (some node, some (table, token)) =>
      if node ≠ table then .failed []
      else if '}' ∉ token then .fault
      else getKeyArrayFromNamepathToken token (dm.keyChildren table)
    | _ => .failed []

/-! ## Instances of a table -/

/-- The comparison of a given array with the pairs of one instance: each given pair must
equal some stored one.  A given pair that was never filled is a null pointer. -/
def keyArrayMatches : List (Option NvPair) → List NvPair → Option Bool
  | [], _ => some true
  | none :: _, stored => if stored = [] then some false else none
  | some given :: rest, stored =>
    if stored.any (keyValueMatches given) then keyArrayMatches rest stored else some false

/-- The scan of `cmi_dm_get_instance_using_keyArray`; the outer `none` is a fault. -/
def scanInstances (dm : Dm) (given : List (Option NvPair)) : List Nat → Option (Option Nat)
  | [] => some none
  | address :: rest =>
    match dm.instances address with
    | none => scanInstances dm given rest
    | some found =>
      if found.map.keyNvPairs.length = given.length then
        match keyArrayMatches given found.map.keyNvPairs with
        | none => none
        | some true => some (some address)
        | some false => scanInstances dm given rest
      else scanInstances dm given rest

/-- The instances of an internal node, if it is of a table. -/
def tableInstances (dm : Dm) (inode : Nat) : List Nat :=
  match dm.inodes inode with
  | none => []
  | some found => if dm.isTable found.dmNode then found.childAccess else []

/-- `cmi_dm_get_instance_using_keyArray`. -/
def getInstanceUsingKeyArray (dm : Dm) (inode : Nat) (given : List (Option NvPair)) :
    Option (Option Nat) :=
  dm.scanInstances given (dm.tableInstances inode)

/-- `cmi_dm_get_instance_using_id`. -/
def getInstanceUsingId (dm : Dm) (inode : Nat) (instanceId : UInt32) : Option Nat :=
  (dm.tableInstances inode).find? fun address =>
    (dm.instances address).map (·.map.instanceId) = some instanceId

/-! ## Internal nodes -/

/-- The list of child nodes of an internal node or an instance. -/
def childInodes (dm : Dm) : Parent → List Nat
  | .inode address => ((dm.inodes address).map Inode.childAccess).getD []
  | .inst address => ((dm.instances address).map Instance.childInodeList).getD []

/-- `cmi_dm_get_child_inode_by_name`. -/
def getChildInodeByName (dm : Dm) (owner : Parent) (childName : CString) : Option Nat :=
  (dm.childInodes owner).find? fun address =>
    match dm.inodes address with
    | none => false
    | some found => dm.nameOf found.dmNode = childName

/-- `CM_DLLQ_APPEND_NODE` on the child list of an internal node or an instance. -/
def appendChild (dm : Dm) (owner : Parent) (child : Nat) : Dm :=
  match owner with
  | .inode address =>
    match dm.inodes address with
    | none => dm
    | some found =>
      { dm with
        inodes := Function.update dm.inodes address
          (some { found with childAccess := found.childAccess ++ [child] }) }
  | .inst address =>
    match dm.instances address with
    | none => dm
    | some found =>
      { dm with
        instances := Function.update dm.instances address
          (some { found with childInodeList := found.childInodeList ++ [child] }) }

/-- A new internal node for `node` under `owner`, appended to its list. -/
def createInode (dm : Dm) (owner : Parent) (node : Nat) : Dm :=
  let appended := dm.appendChild owner dm.nextAddress
  { appended with
    inodes := Function.update appended.inodes dm.nextAddress
      (some { dmNode := node, parent := some owner })
    nextAddress := dm.nextAddress + 1 }

/-- The array of pairs that a key of `count` pairs leaves where its parse is not checked. -/
def givenOf (count : Nat) : KeyParse → Option (List (Option NvPair))
  | .fault => none
  | .failed filled => some (filled.map some ++ List.replicate (count - filled.length) none)
  | .parsed pairs => some (pairs.map some)

/-- The pairs that `cmi_dm_get_inode_by_name_path` counts in a key without braces. -/
def keyCount (key : CString) : Nat :=
  if key = [] then 0 else (key.filter (· = ',')).length + 1

/-- What a key token does in `cmi_dm_get_inode_by_name_path`. -/
inductive KeyStep where
  | fault
  | stop
  | select (address : Option Nat)

/-- A key token at the internal node `inode`: one that is not a single closed key stops the
search where it stands, any other selects an instance by its pairs or by its id. -/
def selectByToken (dm : Dm) (inode : Nat) (token : PathToken) : KeyStep :=
  if token.isKey then
    let key := token.text.drop 1
    if '{' ∈ key then .stop
    else if '}' ∉ key then .stop
    else if '}' ∈ (key.dropWhile (· ≠ '}')).drop 1 then .stop
    else
      let text := key.takeWhile (· ≠ '}')
      let node := ((dm.inodes inode).map Inode.dmNode).getD 0
      match givenOf (keyCount text) (getKeyArrayFromNamepathToken text (dm.keyChildren node)) with
      | none => .fault
      | some given =>
        match dm.getInstanceUsingKeyArray inode given with
        | none => .fault
        | some selected => .select selected
  else .select (dm.getInstanceUsingId inode (ofAtoi token.text))

/-- The table that an internal node is of. -/
def inodeIsTable (dm : Dm) (inode : Nat) : Bool :=
  ((dm.inodes inode).map fun found => dm.isTable found.dmNode).getD false

/-- The loop of `cmi_dm_get_inode_by_name_path`: `created` nodes were created so far, `current`
is the internal node, `owner` holds the list for the next name.  The outer `none` is a
fault. -/
def walkInodes (memory : InodeMemory) : Nat → Dm → Nat → Parent → Bool → List PathToken →
    Option (Dm × Option Nat)
  | _, dm, current, _, _, [] => some (dm, some current)
  | created, dm, current, owner, prevTokenIsTable, token :: rest =>
    if prevTokenIsTable then
      match dm.selectByToken current token with
      | .fault => none
      | .stop => some (dm, some current)
      | .select none => some (dm, none)
      | .select (some address) =>
        walkInodes memory created dm current (.inst address) false rest
    else
      match dm.getChildInodeByName owner token.text with
      | some child =>
        walkInodes memory created dm child (.inode child) (dm.inodeIsTable child) rest
      | none =>
        if memory.create created then
          match dm.getDmNodeFromInstancePath true token.upTo with
          | none => some (dm, none)
          | some node =>
            walkInodes memory (created + 1) (dm.createInode owner node) dm.nextAddress
              (.inode dm.nextAddress) (dm.isTable node) rest
        else some (dm, none)

/-- `cmi_dm_get_inode_by_name_path`. -/
def getInodeByNamePath (dm : Dm) (memory : InodeMemory) (path : CString) :
    Option (Dm × Option Nat) :=
  if path = [] then some (dm, none)
  else if memory.start = false then some (dm, none)
  else
    match dm.getDmNodeFromInstancePath true path with
    | none => some (dm, none)
    | some _ =>
      walkInodes memory 0 dm dm.instTree (.inode dm.instTree) false (pathTokens path)

/-- `cmi_dm_is_instance_map_entry_using_key_array_and_name_path`. -/
def isInstanceMapEntry (dm : Dm) (memory : InodeMemory) (path : CString)
    (keys : List NvPair) : Option (Dm × Bool) :=
  match dm.getInodeByNamePath memory path with
  | none => none
  | some (dm', none) => some (dm', false)
  | some (dm', some inode) =>
    match dm'.getInstanceUsingKeyArray inode (keys.map some) with
    | none => none
    | some selected => some (dm', selected.isSome)

end Dm

end OpenFlowController.Cminfra
