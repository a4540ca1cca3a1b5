/-
Module: Cminfra.DmRole
Purpose: The role entries on template nodes and on instances: how the nearest one is found
  upwards, who may read and set them, and how they are set, read and deleted.
Source: cminfra/infra/dm/basic/dmrole.c 144-237, 387-435, 437-502, 600-1005, 1145-1228,
  1395-1630; cminfra/infra/je/basic/jecfgses.c 6405-6480 (cm_je_set_role_to_instance)
Trusted boundary: what the memory answers is a parameter, and the pointers that the callers pass
  are not null
-/
import OpenFlowController.Cminfra.DmInstance

namespace OpenFlowController.Cminfra

/-! ## Permissions -/

def cmPermissionNoaccess : Nat := 0
def cmPermissionReadOnly : Nat := 1
def cmPermissionReadWrite : Nat := 2
def cmPermissionReadRoleperm : Nat := 3
def cmPermissionReadWriteRoleperm : Nat := 4

/-- `cmi_dm_verify_role_permissions`. -/
def verifyRolePermissionsValue (permissions : Nat) : Bool :=
  permissions = cmPermissionNoaccess ∨ permissions = cmPermissionReadOnly ∨
    permissions = cmPermissionReadWrite ∨ permissions = cmPermissionReadRoleperm ∨
    permissions = cmPermissionReadWriteRoleperm

/-- `cmi_dm_get_role_perms_entry_by_role`, and the same on an instance. -/
def getRolePermsEntryByRole (entries : List RolePermission) (role : CString) :
    Option RolePermission :=
  entries.find? fun entry => entry.role = role

/-- The entry found for a role gets new permissions. -/
def overwritePermissions (role : CString) (permissions : Nat) :
    List RolePermission → List RolePermission
  | [] => []
  | entry :: rest =>
    if entry.role = role then { entry with permissions } :: rest
    else entry :: overwritePermissions role permissions rest

/-- The array into which the path without its keys is written. -/
def tplPathSize : Nat := 1024

/-- The name that `of_strncpy` leaves in the array of a role. -/
def roleName (role : CString) : CString :=
  role.take ucmdmAdminRoleMaxLen

/-- What the memory answers a routine on role entries. -/
structure RoleMemory where
  token : Bool
  node : Bool
  keys : Bool
  inode : Nat → InodeMemory
  entry : Bool

namespace Dm

/-! ## The nearest entry -/

/-- The loop over a template node and its ancestors. -/
def walkUpNodes (dm : Dm) (role : CString) : Nat → Nat → Option RolePermission
  | 0, _ => none
  | fuel + 1, node =>
    match getRolePermsEntryByRole (dm.nodeRoles node) role with
    | some entry => some entry
    | none =>
      match dm.elements[node]? with
      | none => none
      | some element =>
        match element.parent with
        | none => none
        | some parent => walkUpNodes dm role fuel parent

/-- The entry that the loop finds from `node`; an ancestor was registered before its child. -/
def nodeRolePerm (dm : Dm) (node : Nat) (role : CString) : Option RolePermission :=
  dm.walkUpNodes role dm.elements.length node

/-- From an internal node to the instance above it. -/
def enclosingInstance (dm : Dm) : Nat → Nat → Option Nat
  | 0, _ => none
  | fuel + 1, inode =>
    match dm.inodes inode with
    | none => none
    | some found =>
      match found.parent with
      | none => none
      | some (.inst address) => some address
      | some (.inode parent) => enclosingInstance dm fuel parent

/-- The loop of `cmi_dm_get_instance_tree_role_perm_by_role`. -/
def walkUpInstances (dm : Dm) (role : CString) : Nat → Nat → Option RolePermission
  | 0, _ => none
  | fuel + 1, address =>
    match getRolePermsEntryByRole (dm.instanceRoles address) role with
    | some entry => some entry
    | none =>
      match dm.instances address with
      | none => none
      | some found =>
        match dm.enclosingInstance dm.nextAddress found.inode with
        | none => none
        | some above => walkUpInstances dm role fuel above

/-- `cmi_dm_get_instance_tree_role_perm_by_role`. -/
def instanceTreeRolePerm (dm : Dm) (address : Nat) (role : CString) : Option RolePermission :=
  dm.walkUpInstances role dm.nextAddress address

/-! ## Privileges -/

/-- `cmi_dm_verify_role_set_privileges`. -/
def verifyRoleSetPrivileges (dm : Dm) (node : Option Nat) (requester : CString) : Bool :=
  match node with
  | none => false
  | some node =>
    match dm.nodeRolePerm node requester with
    | none => false
    | some entry => entry.permissions = cmPermissionReadWriteRoleperm

/-- `cmi_dm_verify_role_get_privileges`. -/
def verifyRoleGetPrivileges (dm : Dm) (node : Option Nat) (requester : CString) : Bool :=
  match node with
  | none => false
  | some node =>
    match dm.nodeRolePerm node requester with
    | none => false
    | some entry =>
      entry.permissions = cmPermissionReadWriteRoleperm ∨
        entry.permissions = cmPermissionReadRoleperm

/-- `cmi_dm_verify_instance_role_set_privileges`. -/
def verifyInstanceRoleSetPrivileges (dm : Dm) (address : Nat) (requester : CString) : Bool :=
  match dm.instanceTreeRolePerm address requester with
  | none => false
  | some entry => entry.permissions = cmPermissionReadWriteRoleperm

/-- `cmi_dm_verify_instance_role_get_privileges`. -/
def verifyInstanceRoleGetPrivileges (dm : Dm) (address : Nat) (requester : CString) : Bool :=
  match dm.instanceTreeRolePerm address requester with
  | none => false
  | some entry => cmPermissionReadRoleperm ≤ entry.permissions

/-! ## Template nodes -/

/-- The role list of a template node is changed. -/
def updateNodeRoles (dm : Dm) (node : Nat)
    (change : List RolePermission → List RolePermission) : Dm :=
  { dm with
    elements := dm.elements.modify node fun element =>
      { element with rolePermList := change element.rolePermList } }

/-- The role list of an instance is changed. -/
def updateInstanceRoles (dm : Dm) (address : Nat)
    (change : List RolePermission → List RolePermission) : Dm :=
  match dm.instances address with
  | none => dm
  | some found =>
    { dm with
      instances := Function.update dm.instances address
        (some { found with rolePermList := change found.rolePermList }) }

/-- `cmi_dm_set_role_permissions`. -/
def setRolePermissions (dm : Dm) (memory : RoleMemory) (path requester : CString)
    (perm : RolePermission) : Dm × Int :=
  if perm.role = [] then (dm, cmDmErrInvalidInputs)
  else if memory.token = false then (dm, ofFailure)
  else
    match dm.getNodeByNamepath memory.node (removeKeysFromPath path) with
    | none => (dm, cmDmErrPathDoesNotExists)
    | some node =>
      if dm.verifyRoleSetPrivileges (some node) requester = false then (dm, ofFailure)
      else if verifyRolePermissionsValue perm.permissions = false then
        (dm, cmDmErrInvalidInputs)
      else
        match getRolePermsEntryByRole (dm.nodeRoles node) perm.role with
        | some _ =>
          if requester = perm.role then (dm, ofFailure)
          else
            (dm.updateNodeRoles node (overwritePermissions perm.role perm.permissions), ofSuccess)
        | none =>
          if memory.entry = false then (dm, cmDmErrMemResources)
          else (dm.updateNodeRoles node (· ++ [perm]), ofSuccess)

/-- `cmi_dm_get_permissions`: the status and the permissions that the caller's structure
holds, zero unless an entry is found. -/
def getPermissions (dm : Dm) (memory : Bool) (path role : CString) : Int × Nat :=
  match dm.getNodeByNamepath memory path with
  | none => (cmDmErrPathDoesNotExists, 0)
  | some node =>
    match dm.nodeRolePerm node role with
    | some entry => (ofSuccess, entry.permissions)
    | none => (ofFailure, 0)

/-- `cmi_dm_del_permissions_by_role`. -/
def delPermissionsByRole (dm : Dm) (memory : RoleMemory) (path requester role : CString) :
    Dm × Int :=
  if memory.token = false then (dm, ofFailure)
  else
    match dm.getNodeByNamepath memory.node (removeKeysFromPath path) with
    | none => (dm, cmDmErrPathDoesNotExists)
    | some node =>
      if dm.verifyRoleSetPrivileges (some node) requester = false then (dm, ofFailure)
      else
        match getRolePermsEntryByRole (dm.nodeRoles node) role with
        | some _ =>
          (dm.updateNodeRoles node (·.eraseP fun entry => entry.role = role), ofSuccess)
        | none => (dm, ofFailure)

/-! ## Instances -/

/-- The statements with which the routines on the roles of an instance start: the keys of
the path, the check that the instance is there, its internal node and the instance.  The
result is the status where they return, and the node and the instance otherwise. -/
def findInstance (dm : Dm) (memory : RoleMemory) (path : CString) :
    Option (Dm × (Int ⊕ Nat × Nat)) :=
  match dm.getInstanceKeysFromNamePath memory.keys path with
  | .fault => none
  | .failed _ => some (dm, .inl ofFailure)
  | .parsed keys =>
    match dm.isInstanceMapEntry (memory.inode 0) path keys with
    | none => none
    | some (dm', false) => some (dm', .inl ofFailure)
    | some (dm', true) =>
      match dm'.getInodeByNamePath (memory.inode 1) path with
      | none => none
      | some (dm'', none) => some (dm'', .inl cmDmErrPathDoesNotExists)
      | some (dm'', some inode) =>
        match dm''.getInstanceUsingKeyArray inode (keys.map some) with
        | none => none
        | some none => some (dm'', .inl cmDmErrPathDoesNotExists)
        | some (some address) => some (dm'', .inr (inode, address))

/-- `cmi_dm_set_instance_role_permissions`. -/
def setInstanceRolePermissions (dm : Dm) (memory : RoleMemory) (path requester : CString)
    (perm : RolePermission) : Option (Dm × Int) :=
  match dm.findInstance memory path with
  | none => none
  | some (dm', .inl status) => some (dm', status)
  | some (dm', .inr (_, address)) =>
    if dm'.verifyInstanceRoleSetPrivileges address requester = false ∧
        dm'.verifyRoleSetPrivileges (dm'.getDmNodeFromInstancePath memory.node path)
          requester = false then
      some (dm', ofFailure)
    else if verifyRolePermissionsValue perm.permissions = false then
      some (dm', cmDmErrInvalidInputs)
    else
      match getRolePermsEntryByRole (dm'.instanceRoles address) perm.role with
      | some _ =>
        if requester = perm.role then some (dm', ofFailure)
        else
          some (dm'.updateInstanceRoles address
            (overwritePermissions perm.role perm.permissions), ofSuccess)
      | none =>
        if memory.entry = false then some (dm', cmDmErrMemResources)
        else some (dm'.updateInstanceRoles address (· ++ [perm]), ofSuccess)

/-- `cmi_dm_get_instance_role_permissions_by_role`; `permissions` is what the caller's
structure holds before and, unless an entry is found, after. -/
def getInstanceRolePermissionsByRole (dm : Dm) (memory : RoleMemory)
    (path requester role : CString) (permissions : Nat) : Option (Dm × Int × Nat) :=
  match dm.findInstance memory path with
  | none => none
  | some (dm', .inl status) => some (dm', status, permissions)
  | some (dm', .inr (inode, address)) =>
    if dm'.verifyInstanceRoleGetPrivileges address requester = false ∧
        dm'.verifyRoleGetPrivileges (dm'.getDmNodeFromInstancePath memory.node path)
          requester = false then
      some (dm', ofFailure, permissions)
    else if verifyRolePermissionsValue permissions = false then
      some (dm', cmDmErrInvalidInputs, permissions)
    else
      match dm'.instanceTreeRolePerm address role with
      | some entry => some (dm', ofSuccess, entry.permissions)
      | none =>
        match (dm'.inodes inode).bind fun found => dm'.nodeRolePerm found.dmNode role with
        | some entry => some (dm', ofSuccess, entry.permissions)
        | none => some (dm', ofFailure, permissions)

/-- `cmi_dm_del_instance_permissions_by_role`. -/
def delInstancePermissionsByRole (dm : Dm) (memory : RoleMemory)
    (path requester role : CString) : Option (Dm × Int) :=
  match dm.findInstance memory path with
  | none => none
  | some (dm', .inl status) => some (dm', status)
  | some (dm', .inr (_, address)) =>
    if dm'.verifyInstanceRoleSetPrivileges address requester = false ∧
        dm'.verifyRoleSetPrivileges (dm'.getDmNodeFromInstancePath memory.node path)
          requester = false then
      some (dm', ofFailure)
    else
      match getRolePermsEntryByRole (dm'.instanceRoles address) role with
      | some _ =>
        some (dm'.updateInstanceRoles address (·.eraseP fun entry => entry.role = role), ofSuccess)
      | none => some (dm', ofFailure)

/-! ## The entry of a new instance -/

def ucmjeDmerrorSetDmInstanceRoleAttribsFailed : Int := 1000 + 145

/-- `cm_je_set_role_to_instance`: an instance that a session adds gets an entry for the role
of the session, with the permissions of the template, or all where the template has none. -/
def setRoleToInstance (dm : Dm) (memory : RoleMemory) (path role : CString)
    (keys : List NvPair) : Option (Dm × Int) :=
  if path = [] then some (dm, ofFailure)
  else if tplPathSize ≤ (removeKeysFromPath path).length then none
  else if memory.entry = false then some (dm, ofFailure)
  else
    let (status, found) :=
      dm.getPermissions memory.node (removeKeysFromPath path) (roleName role)
    let entry : RolePermission :=
      { role := roleName role
        permissions := if status = ofFailure then cmPermissionReadWriteRoleperm else found
        role_le := List.length_take_le _ _ }
    match dm.getInodeByNamePath (memory.inode 0) path with
    | none => none
    | some (dm', none) => some (dm', ucmjeDmerrorSetDmInstanceRoleAttribsFailed)
    | some (dm', some inode) =>
      match dm'.getInstanceUsingKeyArray inode (keys.map some) with
      | none => none
      | some none => some (dm', ucmjeDmerrorSetDmInstanceRoleAttribsFailed)
      | some (some address) => some (dm'.updateInstanceRoles address (· ++ [entry]), ofSuccess)

end Dm

end OpenFlowController.Cminfra
