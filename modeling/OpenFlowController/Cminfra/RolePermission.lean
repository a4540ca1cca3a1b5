/-
Module: Cminfra.RolePermission
Purpose: The decision whether a role may run a command on a path, and exactly when it is the
  decision of the nearest role entry above what the path addresses, whatever the memory answers.
Source: cminfra/infra/je/basic/roleperm.c 51-298; cminfra/include/infra/je/jegdef.h 44-130;
  cminfra/infra/dm/basic/dmrole.c 893-1005; dminst.c 707-945
Trusted boundary: the two buffers of fixed size are written past their end where the model faults
-/
import OpenFlowController.Cminfra.DmRole

namespace OpenFlowController.Cminfra

/-! ## Commands -/

/-- The sub-commands that the decision tells apart; every other one is `other`. -/
inductive SubCommand where
  | addParams
  | setParams
  | delParams
  | cancelTransCmd
  | execTransCmd
  | cancelPrevCmd
  | compareParam
  | getConfigSession
  | setParamToDefault
  | setDefaults
  | loadConfig
  | saveConfig
  | resetToFactoryDefaults
  | getFirstNRecs
  | getNextNRecs
  | getExactRec
  | getFirstNLogs
  | getNextNLogs
  | getDmNodeInfo
  | getDmNodeAndChildInfo
  | getDmKeyChildInfo
  | getDmKeyChilds
  | getDmFirstNodeInfo
  | getDmNextNodeInfo
  | getDmKeysArray
  | getDmChildNodeInfo
  | getDmChildNodeCount
  | isDmChildNode
  | getDmNextTableAnchorNodeInfo
  | getDmNodeRoleAttribs
  | getDmNodeRoleAttribsByRole
  | setDmNodeRoleAttribsByRole
  | delDmNodeRoleAttribsByRole
  | getDmInstanceRoleAttribs
  | getDmInstanceRoleAttribsByRole
  | setDmInstanceRoleAttribsByRole
  | delDmInstanceRoleAttribsByRole
  | getDmInstanceMaplistByNamepath
  | isDmInstanceUsingNamepathAndKey
  | getSaveFileName
  | getSaveDirectoryName
  | getDeltaVersionHistory
  | getVersions
  | notifyJe
  | other
deriving DecidableEq

/-- The last switch of `cm_verify_role_permissions`. -/
def commandGranted (permissions : Nat) : SubCommand → Bool
  | .loadConfig | .saveConfig | .resetToFactoryDefaults => cmPermissionReadWrite ≤ permissions
  | .notifyJe => cmPermissionReadOnly ≤ permissions
  | .getDeltaVersionHistory => cmPermissionReadWrite ≤ permissions
  | .addParams => cmPermissionReadWrite ≤ permissions
  | .setParams | .cancelTransCmd | .execTransCmd | .delParams | .cancelPrevCmd
  | .setParamToDefault | .setDefaults => cmPermissionReadWrite ≤ permissions
  | .getConfigSession | .compareParam | .getVersions => cmPermissionReadOnly ≤ permissions
  | .getFirstNLogs | .getNextNLogs | .getFirstNRecs | .getNextNRecs | .getExactRec =>
    cmPermissionReadOnly ≤ permissions
  | .getDmNodeInfo | .getDmKeyChildInfo | .getDmFirstNodeInfo | .getDmNextNodeInfo
  | .getDmNextTableAnchorNodeInfo => cmPermissionReadOnly ≤ permissions
  | .getDmNodeAndChildInfo | .getDmKeyChilds => cmPermissionReadOnly ≤ permissions
  | .getDmKeysArray => cmPermissionReadOnly ≤ permissions
  | .getDmInstanceMaplistByNamepath => cmPermissionReadOnly ≤ permissions
  | .isDmInstanceUsingNamepathAndKey => cmPermissionReadOnly ≤ permissions
  | .isDmChildNode => cmPermissionReadOnly ≤ permissions
  | .getSaveFileName | .getSaveDirectoryName => cmPermissionReadOnly ≤ permissions
  | .getDmChildNodeInfo | .getDmChildNodeCount => true
  | .getDmNodeRoleAttribsByRole | .getDmInstanceRoleAttribsByRole =>
    cmPermissionReadRoleperm ≤ permissions
  | .setDmNodeRoleAttribsByRole | .delDmNodeRoleAttribsByRole
  | .setDmInstanceRoleAttribsByRole | .delDmInstanceRoleAttribsByRole =>
    cmPermissionReadWriteRoleperm ≤ permissions
  | .getDmNodeRoleAttribs | .getDmInstanceRoleAttribs => cmPermissionReadWrite ≤ permissions
  | .other => false

/-- The two commands that the switch grants whatever the permissions are. -/
def SubCommand.isChildInfo : SubCommand → Bool
  | .getDmChildNodeInfo | .getDmChildNodeCount => true
  | _ => false

/-! ## The decision -/

def cmVortiqaSuperuserRole : CString := "VortiQaRole".toList

/-- What the memory answers the decision. -/
structure VerifyMemory where
  rolePerm : Bool
  templateNode : Bool
  role : RoleMemory

/-- `iResult`, and `return_value` where a look-up was made. -/
structure Decision where
  iResult : Int
  returnValue : Option Int

/-- The backward scan for `{`, which ends at the last dot and never looks at the first
character. -/
def scansAsInstance (path : CString) : Bool :=
  '{' ∈ ((path.drop 1).reverse.takeWhile (· ≠ '.'))

namespace Dm

/-- `cm_verify_role_permissions`; `none` is a fault.  For `ADD_PARAMS` the path is taken as one
of a template, so that the branch for instances never sees this command. -/
def cmVerifyRolePermissions (memory : VerifyMemory) (dm : Dm) (path role : Option CString)
    (command : SubCommand) : Option (Dm × Decision) :=
  match path, role with
  | none, _ => some (dm, ⟨ofFailure, none⟩)
  | some _, none => some (dm, ⟨ofFailure, none⟩)
  | some path, some role =>
    if role = [] then some (dm, ⟨ofFailure, none⟩)
    else if tplPathSize ≤ (removeKeysFromPath path).length then none
    else if memory.rolePerm = false then some (dm, ⟨ofFailure, none⟩)
    else if ucmdmAdminRoleMaxLen < role.length then none
    else if path = [] then none
    else if scansAsInstance path = false ∨ command = .addParams then
      let (status, permissions) :=
        dm.getPermissions memory.templateNode (removeKeysFromPath path) role
      if status = ofFailure then some (dm, ⟨ofFailure, some status⟩)
      else if permissions = cmPermissionNoaccess then some (dm, ⟨ofFailure, some status⟩)
      else
        some (dm,
          ⟨if commandGranted permissions command then ofSuccess else ofFailure, some status⟩)
    else
      match dm.getInstanceRolePermissionsByRole memory.role path cmVortiqaSuperuserRole role 0 with
      | none => none
      | some (dm', status, permissions) =>
        if status = ofFailure then some (dm', ⟨ofFailure, some status⟩)
        else
          some (dm',
            ⟨if commandGranted permissions command then ofSuccess else ofFailure, some status⟩)

end Dm

/-! ## What the decision should be -/

/-- The permission that a command needs; unknown commands are never granted, and to read
about children is to read. -/
def neededPermission : SubCommand → Option Nat
  | .loadConfig | .saveConfig | .resetToFactoryDefaults | .getDeltaVersionHistory | .addParams
  | .setParams | .cancelTransCmd | .execTransCmd | .delParams | .cancelPrevCmd
  | .setParamToDefault | .setDefaults | .getDmNodeRoleAttribs | .getDmInstanceRoleAttribs =>
    some cmPermissionReadWrite
  | .getDmNodeRoleAttribsByRole | .getDmInstanceRoleAttribsByRole =>
    some cmPermissionReadRoleperm
  | .setDmNodeRoleAttribsByRole | .delDmNodeRoleAttribsByRole
  | .setDmInstanceRoleAttribsByRole | .delDmInstanceRoleAttribsByRole =>
    some cmPermissionReadWriteRoleperm
  | .other => none
  | _ => some cmPermissionReadOnly

/-- A path whose last token is a key addresses an instance. -/
def endsInInstance (path : CString) : Bool :=
  ((pathTokens path).getLast?.map PathToken.isKey).getD false

namespace Dm

/-- A template node and its ancestors. -/
def nodeChain (dm : Dm) : Nat → Nat → List Nat
  | 0, _ => []
  | fuel + 1, node =>
    node ::
      match dm.elements[node]? with
      | none => []
      | some element =>
        match element.parent with
        | none => []
        | some parent => nodeChain dm fuel parent

/-- An instance and the instances above it. -/
def instanceChain (dm : Dm) : Nat → Nat → List Nat
  | 0, _ => []
  | fuel + 1, address =>
    address ::
      match dm.instances address with
      | none => []
      | some found =>
        match dm.enclosingInstance dm.nextAddress found.inode with
        | none => []
        | some above => instanceChain dm fuel above

/-- The first entry for `role` on a template node or above it. -/
def nearestNodeEntry (dm : Dm) (node : Nat) (role : CString) : Option RolePermission :=
  (dm.nodeChain dm.elements.length node).findSome? fun ancestor =>
    getRolePermsEntryByRole (dm.nodeRoles ancestor) role

/-- The first entry for `role` on an instance or on one above it. -/
def nearestInstanceEntry (dm : Dm) (address : Nat) (role : CString) : Option RolePermission :=
  (dm.instanceChain dm.nextAddress address).findSome? fun ancestor =>
    getRolePermsEntryByRole (dm.instanceRoles ancestor) role

/-- The internal node that the tokens lead to where nothing has to be created. -/
def locateFrom (dm : Dm) : Nat → Parent → Bool → List PathToken → Option Nat
  | current, _, _, [] => some current
  | current, owner, prevTokenIsTable, token :: rest =>
    if prevTokenIsTable then
      match dm.selectByToken current token with
      | .fault => none
      | .stop => some current
      | .select none => none
      | .select (some address) => locateFrom dm current (.inst address) false rest
    else
      match dm.getChildInodeByName owner token.text with
      | some child => locateFrom dm child (.inode child) (dm.inodeIsTable child) rest
      | none => none

/-- The internal node of a path in the tree as it is. -/
def locateInode (dm : Dm) (path : CString) : Option Nat :=
  if path = [] then none
  else
    match dm.getDmNodeFromInstancePath true path with
    | none => none
    | some _ => dm.locateFrom dm.instTree (.inode dm.instTree) false (pathTokens path)

/-- The internal node and the instance that a path addresses. -/
def addressedInstance (dm : Dm) (path : CString) : Option (Nat × Nat) :=
  match dm.getInstanceKeysFromNamePath true path with
  | .parsed keys =>
    match dm.locateInode path with
    | none => none
    | some inode =>
      match dm.getInstanceUsingKeyArray inode (keys.map some) with
      | some (some address) => some (inode, address)
      | _ => none
  | _ => none

/-- The nearest entry for `role` on the template node of a path or above it. -/
def templateEntry (dm : Dm) (path role : CString) : Option RolePermission :=
  (dm.getDmNodeFromInstancePath true path).bind fun node => dm.nearestNodeEntry node role

/-- The nearest entry for `role`: from the instance that the path addresses through the
instances above it, then from its template node upwards. -/
def nearestEntry (dm : Dm) (path role : CString) : Option RolePermission :=
  if endsInInstance path then
    (dm.addressedInstance path).bind fun (inode, address) =>
      (dm.nearestInstanceEntry address role).or
        ((dm.inodes inode).bind fun found => dm.nearestNodeEntry found.dmNode role)
  else dm.templateEntry path role

end Dm

/-- An entry that carries the permission a command needs. -/
def EntryAllows (entry : Option RolePermission) (command : SubCommand) : Prop :=
  ∃ found need, entry = some found ∧ neededPermission command = some need ∧
    need ≤ found.permissions

/-- Every allocation succeeds. -/
def InodeMemory.full : InodeMemory := { start := true, create := fun _ => true }

def RoleMemory.full : RoleMemory :=
  { token := true, node := true, keys := true, inode := fun _ => .full, entry := true }

def VerifyMemory.full : VerifyMemory :=
  { rolePerm := true, templateNode := true, role := .full }

/-- Whatever the memory answers, the decision is made, it grants only where a look-up found
the nearest entry and that allows the command, and with memory enough it grants there. -/
def VerifyRight (dm : Dm) (path role : CString) (command : SubCommand) : Prop :=
  (∀ memory, ∃ dm' decision,
    dm.cmVerifyRolePermissions memory (some path) (some role) command = some (dm', decision) ∧
      (decision.iResult = ofSuccess →
        decision.returnValue = some ofSuccess ∧
          EntryAllows (dm.nearestEntry path role) command)) ∧
  (EntryAllows (dm.nearestEntry path role) command →
    ∃ dm' decision,
      dm.cmVerifyRolePermissions .full (some path) (some role) command =
          some (dm', decision) ∧ decision.iResult = ofSuccess)

open List Option

/-! ## What a command needs -/

variable {command : SubCommand}

theorem commandGranted_iff {permissions : Nat}
    (enough : command.isChildInfo = false ∨ permissions ≠ cmPermissionNoaccess) :
    commandGranted permissions command = true ↔
      ∃ need, neededPermission command = some need ∧ need ≤ permissions := by
  cases command <;>
    simp_all [commandGranted, neededPermission, SubCommand.isChildInfo, cmPermissionReadOnly,
      cmPermissionNoaccess, Nat.one_le_iff_ne_zero]

theorem neededPermission_pos {need : Nat} (needs : neededPermission command = some need) :
    0 < need := by
  cases command <;>
    simp_all [neededPermission, cmPermissionReadOnly, cmPermissionReadWrite,
      cmPermissionReadRoleperm, cmPermissionReadWriteRoleperm] <;> omega

variable {entry : RolePermission}

theorem entryAllows_some :
    EntryAllows (some entry) command ↔
      ∃ need, neededPermission command = some need ∧ need ≤ entry.permissions := by
  constructor
  · rintro ⟨found, need, same, needs, enough⟩
    exact ⟨need, needs, by rw [some.inj same]; exact enough⟩
  · rintro ⟨need, needs, enough⟩
    exact ⟨entry, need, rfl, needs, enough⟩

theorem not_entryAllows_none : ¬ EntryAllows none command := by
  rintro ⟨found, need, absent, -, -⟩
  exact absurd absent nofun

theorem EntryAllows.permissions_pos (allows : EntryAllows (some entry) command) :
    entry.permissions ≠ cmPermissionNoaccess := by
  obtain ⟨need, needs, enough⟩ := entryAllows_some.mp allows
  have positive := neededPermission_pos needs
  show entry.permissions ≠ 0
  omega

namespace Dm

/-! ## The searches find the nearest entry -/

theorem walkUpNodes_eq (dm : Dm) (role : CString) (fuel node : Nat) :
    dm.walkUpNodes role fuel node =
      (dm.nodeChain fuel node).findSome? fun ancestor =>
        getRolePermsEntryByRole (dm.nodeRoles ancestor) role := by
  induction fuel generalizing node with
  | zero => rfl
  | succ fuel ih =>
  rw [walkUpNodes, nodeChain, findSome?_cons]
  cases getRolePermsEntryByRole (dm.nodeRoles node) role with
  | some entry => rfl
  | none =>
  cases dm.elements[node]? with
  | none => rfl
  | some element =>
  dsimp only
  cases element.parent with
  | none => rfl
  | some parent => exact ih parent

theorem nodeRolePerm_eq (dm : Dm) (node : Nat) (role : CString) :
    dm.nodeRolePerm node role = dm.nearestNodeEntry node role :=
  dm.walkUpNodes_eq role _ node

theorem walkUpInstances_eq (dm : Dm) (role : CString) (fuel address : Nat) :
    dm.walkUpInstances role fuel address =
      (dm.instanceChain fuel address).findSome? fun ancestor =>
        getRolePermsEntryByRole (dm.instanceRoles ancestor) role := by
  induction fuel generalizing address with
  | zero => rfl
  | succ fuel ih =>
  rw [walkUpInstances, instanceChain, findSome?_cons]
  cases getRolePermsEntryByRole (dm.instanceRoles address) role with
  | some entry => rfl
  | none =>
  cases dm.instances address with
  | none => rfl
  | some found =>
  dsimp only
  cases dm.enclosingInstance dm.nextAddress found.inode with
  | none => rfl
  | some above => exact ih above

theorem instanceTreeRolePerm_eq (dm : Dm) (address : Nat) (role : CString) :
    dm.instanceTreeRolePerm address role = dm.nearestInstanceEntry address role :=
  dm.walkUpInstances_eq role _ address

/-! ## The search for an internal node -/

theorem keyArrayMatches_parsed (keys stored : List NvPair) :
    keyArrayMatches (keys.map some) stored ≠ none := by
  induction keys with
  | nil => simp [keyArrayMatches]
  | cons key rest ih =>
  rw [map_cons, keyArrayMatches]
  split
  · exact ih
  · exact nofun

theorem scanInstances_parsed (dm : Dm) (keys : List NvPair) (addresses : List Nat) :
    dm.scanInstances (keys.map some) addresses ≠ none := by
  induction addresses with
  | nil => simp [scanInstances]
  | cons address rest ih =>
  rw [scanInstances]
  split
  · exact ih
  rename_i found _
  split
  · have compared := keyArrayMatches_parsed keys found.map.keyNvPairs
    split
    · exact absurd ‹_› compared
    · exact nofun
    · exact ih
  · exact ih

theorem getInstanceUsingKeyArray_parsed (dm : Dm) (inode : Nat) (keys : List NvPair) :
    dm.getInstanceUsingKeyArray inode (keys.map some) ≠ none :=
  dm.scanInstances_parsed keys _

variable {dm : Dm}

theorem getInstanceUsingKeyArray_empty {inode : Nat} (empty : dm.tableInstances inode = [])
    (given : List (Option NvPair)) : dm.getInstanceUsingKeyArray inode given = some none := by
  rw [getInstanceUsingKeyArray, empty, scanInstances]

theorem selectByToken_empty {inode : Nat} (empty : dm.tableInstances inode = []) (token : PathToken)
    (address : Nat) : dm.selectByToken inode token ≠ .select (some address) := by
  rw [selectByToken]
  split
  · dsimp only
    split
    · exact nofun
    split
    · exact nofun
    split
    · exact nofun
    · split
      · exact nofun
      · rw [getInstanceUsingKeyArray_empty empty]
        exact nofun
  · rw [getInstanceUsingId, empty]
    exact nofun

variable {memory : InodeMemory} {created current found : Nat} {prevTokenIsTable : Bool}
  {tokens : List PathToken} {owner : Parent}

/-- The walk follows the nodes that are there, and creates none. -/
theorem locate_walks (located : dm.locateFrom current owner prevTokenIsTable tokens = some found) :
    walkInodes memory created dm current owner prevTokenIsTable tokens =
      some (dm, some found) := by
  induction tokens generalizing current owner prevTokenIsTable with
  | nil =>
    rw [walkInodes, some.inj located]
  | cons token rest ih =>
  rw [locateFrom] at located
  rw [walkInodes]
  split at located
  case isTrue isTable =>
    rw [if_pos isTable]
    generalize dm.selectByToken current token = selected at located
    cases selected with
    | fault => exact absurd located nofun
    | stop => rw [← some.inj located]
    | select chosen =>
    cases chosen with
    | none => exact absurd located nofun
    | some address => exact ih located
  case isFalse noTable =>
    rw [if_neg noTable]
    generalize dm.getChildInodeByName owner token.text = child at located
    cases child with
    | none => exact absurd located nofun
    | some child => exact ih located

theorem createInode_fresh (dm : Dm) (owner : Parent) (node : Nat) :
    (dm.createInode owner node).inodes dm.nextAddress =
      some { dmNode := node, parent := some owner } := by
  simp [createInode]

theorem createInode_tableInstances (dm : Dm) (owner : Parent) (node : Nat) :
    (dm.createInode owner node).tableInstances dm.nextAddress = [] := by
  rw [tableInstances, createInode_fresh]
  simp

theorem createInode_childInodes (dm : Dm) (owner : Parent) (node : Nat) :
    (dm.createInode owner node).childInodes (.inode dm.nextAddress) = [] := by
  rw [childInodes, createInode_fresh]
  rfl

/-- Below a node without children the walk ends at a table without instances. -/
theorem walk_fresh {dm' : Dm} (noInstances : dm.tableInstances current = [])
    (noChildren : dm.childInodes (.inode current) = [])
    (walked : walkInodes memory created dm current (.inode current) prevTokenIsTable tokens =
      some (dm', some found)) : dm'.tableInstances found = [] := by
  induction tokens generalizing dm created current prevTokenIsTable with
  | nil =>
    rw [walkInodes] at walked
    obtain ⟨rfl, rfl⟩ : dm = dm' ∧ current = found := by simpa using walked
    exact noInstances
  | cons token rest ih =>
  rw [walkInodes] at walked
  split at walked
  case isTrue =>
    have empty := selectByToken_empty noInstances token
    generalize dm.selectByToken current token = selected at walked empty
    cases selected with
    | fault => exact absurd walked nofun
    | stop =>
      obtain ⟨rfl, rfl⟩ : dm = dm' ∧ current = found := by simpa using walked
      exact noInstances
    | select chosen =>
    cases chosen with
    | none => simp at walked
    | some address => exact absurd rfl (empty address)
  case isFalse =>
    have absent : dm.getChildInodeByName (.inode current) token.text = none := by
      rw [getChildInodeByName, noChildren]
      rfl
    rw [absent] at walked
    dsimp only at walked
    split at walked
    · split at walked
      · simp at walked
      · exact ih (dm.createInode_tableInstances _ _) (dm.createInode_childInodes _ _) walked
    · simp at walked

/-- The walk ends at an empty table, or changes nothing. -/
theorem walk_located {dm' : Dm}
    (walked : walkInodes memory created dm current owner prevTokenIsTable tokens =
      some (dm', some found)) :
    dm'.tableInstances found = [] ∨
      dm' = dm ∧ dm.locateFrom current owner prevTokenIsTable tokens = some found := by
  induction tokens generalizing created current owner prevTokenIsTable with
  | nil =>
    rw [walkInodes] at walked
    obtain ⟨rfl, rfl⟩ : dm = dm' ∧ current = found := by simpa using walked
    exact .inr ⟨rfl, rfl⟩
  | cons token rest ih =>
  rw [walkInodes] at walked
  rw [locateFrom]
  split at walked
  case isTrue isTable =>
    rw [if_pos isTable]
    generalize dm.selectByToken current token = selected at walked
    cases selected with
    | fault => exact absurd walked nofun
    | stop =>
      obtain ⟨rfl, rfl⟩ : dm = dm' ∧ current = found := by simpa using walked
      exact .inr ⟨rfl, rfl⟩
    | select chosen =>
    cases chosen with
    | none => simp at walked
    | some address => exact ih walked
  case isFalse noTable =>
    rw [if_neg noTable]
    generalize dm.getChildInodeByName owner token.text = child at walked
    cases child with
    | some child => exact ih walked
    | none =>
    dsimp only at walked
    split at walked
    · split at walked
      · simp at walked
      · exact .inl (walk_fresh (dm.createInode_tableInstances _ _)
          (dm.createInode_childInodes _ _) walked)
    · simp at walked

/-- More memory does not avoid a fault of the walk. -/
theorem walk_fault
    (fault : walkInodes memory created dm current owner prevTokenIsTable tokens = none) :
    walkInodes .full created dm current owner prevTokenIsTable tokens = none := by
  induction tokens generalizing dm created current owner prevTokenIsTable with
  | nil =>
    exact absurd fault nofun
  | cons token rest ih =>
  rw [walkInodes] at fault ⊢
  split at fault
  case isTrue isTable =>
    rw [if_pos isTable]
    generalize dm.selectByToken current token = selected at fault
    cases selected with
    | fault => rfl
    | stop => exact absurd fault nofun
    | select chosen =>
    cases chosen with
    | none => exact absurd fault nofun
    | some address => exact ih fault
  case isFalse noTable =>
    rw [if_neg noTable]
    generalize dm.getChildInodeByName owner token.text = child at fault
    cases child with
    | some child => exact ih fault
    | none =>
    dsimp only at fault ⊢
    split at fault
    · split at fault
      · exact absurd fault nofun
      · exact ih fault
    · exact absurd fault nofun

end Dm

/-! ## The scan and the tokens -/

theorem scanToken_leaves_brace (instStart instEnd : Bool) (front back : CString) :
    ∃ front', (scanToken instStart instEnd (front ++ '{' :: back)).2 = front' ++ '{' :: back := by
  induction front generalizing instEnd with
  | nil => exact ⟨[], by simp [scanToken]⟩
  | cons c front ih =>
  rw [List.cons_append, scanToken]
  split
  · exact ⟨front, rfl⟩
  · split
    · exact ⟨c :: front, rfl⟩
    · exact ih _

theorem scanToken_to_end {instStart instEnd : Bool} {text : CString} (noDot : '.' ∉ text)
    (noBrace : '{' ∉ text) : scanToken instStart instEnd text = (text, []) := by
  induction text generalizing instEnd with
  | nil => rfl
  | cons c rest ih =>
  rw [List.mem_cons, not_or] at noDot noBrace
  rw [scanToken, if_neg (by rintro ⟨rfl, -⟩; exact noDot.1 rfl),
    if_neg (fun same => noBrace.1 same.symm)]
  rw [ih noDot.2 noBrace.2]

/-- A path that ends in a key has a key for its last token. -/
theorem tokensFrom_last_key {path front back : CString} {fuel : Nat}
    (enough : (front ++ '{' :: back).length < fuel) (noDot : '.' ∉ back)
    (noBrace : '{' ∉ back) :
    ((tokensFrom path fuel (front ++ '{' :: back)).getLast?.map PathToken.isKey).getD false
      = true := by
  induction fuel generalizing front with
  | zero => exact absurd enough (Nat.not_lt_zero _)
  | succ fuel ih =>
  rw [tokensFrom]
  cases front with
  | nil =>
    have scanned : getPathToken ('{' :: back) = ('{' :: back, []) := by
      rw [getPathToken, if_neg (by decide), scanToken_to_end noDot noBrace]
    rw [List.nil_append, scanned]
    rfl
  | cons c front =>
  have left : ∃ front', (getPathToken (c :: front ++ '{' :: back)).2 = front' ++ '{' :: back := by
    rw [List.cons_append, getPathToken]
    split
    · exact ⟨front, rfl⟩
    · exact scanToken_leaves_brace _ _ front back
  obtain ⟨front', left⟩ := left
  have shorter := getPathToken_length_lt (show c :: front ++ '{' :: back ≠ [] by simp)
  have nonempty : (getPathToken (c :: front ++ '{' :: back)).2 ≠ [] := by
    rw [left]
    simp
  have later := @ih front' (by rw [← left]; omega)
  rw [if_neg nonempty, left, List.getLast?_cons]
  cases last : (tokensFrom path fuel (front' ++ '{' :: back)).getLast? with
  | none =>
    rw [last] at later
    cases later
  | some token =>
    rw [last] at later
    exact later

/-- What scans as an instance ends in one. -/
theorem endsInInstance_of_scan {path : CString} (scanned : scansAsInstance path = true) :
    endsInInstance path = true := by
  have brace : '{' ∈ (path.drop 1).reverse.takeWhile (· ≠ '.') := by
    simpa [scansAsInstance] using scanned
  obtain ⟨earlier, later, split, noBrace⟩ := eq_append_cons_of_mem brace
  have noDot : ∀ c ∈ earlier, c ≠ '.' := by
    intro c within
    have taken : c ∈ (path.drop 1).reverse.takeWhile (· ≠ '.') := by
      rw [split]
      exact mem_append_left _ within
    simpa using mem_takeWhile_imp taken
  obtain ⟨after, whole⟩ : ∃ after, (path.drop 1).reverse = earlier ++ '{' :: after := by
    refine ⟨later ++ (path.drop 1).reverse.dropWhile (· ≠ '.'), ?_⟩
    conv => lhs; rw [← takeWhile_append_dropWhile (p := (· ≠ '.'))
      (l := (path.drop 1).reverse), split]
    simp
  have dropped : path.drop 1 = after.reverse ++ '{' :: earlier.reverse := by
    rw [← reverse_reverse (path.drop 1), whole]
    simp
  have joined : path = (path.take 1 ++ after.reverse) ++ '{' :: earlier.reverse := by
    conv => lhs; rw [← take_append_drop 1 path, dropped]
    simp
  rw [endsInInstance, pathTokens]
  generalize fuelDef : path.length + 1 = fuel
  have enough : ((path.take 1 ++ after.reverse) ++ '{' :: earlier.reverse).length < fuel := by
    rw [← joined, ← fuelDef]
    exact Nat.lt_succ_self _
  generalize path.take 1 ++ after.reverse = front at joined enough
  rw [show tokensFrom path fuel path = tokensFrom path fuel (front ++ '{' :: earlier.reverse) by
    rw [← joined]]
  refine tokensFrom_last_key enough ?_ ?_
  · intro within
    exact noDot '.' (mem_reverse.mp within) rfl
  · intro within
    exact noBrace (mem_reverse.mp within)

/-! ## The look-up on an instance -/

namespace Dm

variable {dm dm' : Dm} {memory : InodeMemory} {path : CString} {inode : Nat}

theorem getInodeByNamePath_located
    (found : dm.getInodeByNamePath memory path = some (dm', some inode)) :
    dm'.tableInstances inode = [] ∨ dm' = dm ∧ dm.locateInode path = some inode := by
  rw [getInodeByNamePath] at found
  rw [locateInode]
  split at found
  · simp at found
  rename_i nonempty
  rw [if_neg nonempty]
  split at found
  · simp at found
  · generalize dm.getDmNodeFromInstancePath true path = node at found
    cases node with
    | none => simp at found
    | some node => exact walk_located found

theorem locateInode_search (located : dm.locateInode path = some inode)
    (start : memory.start = true) : dm.getInodeByNamePath memory path = some (dm, some inode) := by
  rw [locateInode] at located
  rw [getInodeByNamePath]
  split at located
  · exact absurd located nofun
  rename_i nonempty
  rw [if_neg nonempty, if_neg (by simp [start])]
  generalize dm.getDmNodeFromInstancePath true path = node at located
  cases node with
  | none => exact absurd located nofun
  | some node => exact locate_walks located

theorem getInodeByNamePath_out (out : memory.start = false) (path : CString) :
    dm.getInodeByNamePath memory path = some (dm, none) := by
  rw [getInodeByNamePath, out]
  simp

theorem getInodeByNamePath_fault (fault : dm.getInodeByNamePath memory path = none) :
    dm.getInodeByNamePath .full path = none := by
  rw [getInodeByNamePath] at fault ⊢
  split at fault
  · exact absurd fault nofun
  rename_i nonempty
  rw [if_neg nonempty, if_neg (show ¬ InodeMemory.full.start = false from nofun)]
  split at fault
  · exact absurd fault nofun
  · generalize dm.getDmNodeFromInstancePath true path = node at fault
    cases node with
    | none => exact absurd fault nofun
    | some node => exact walk_fault fault

variable {keys : List NvPair}

theorem isInstanceMapEntry_true
    (checked : dm.isInstanceMapEntry memory path keys = some (dm', true)) :
    ∃ inode address, dm.locateInode path = some inode ∧
      dm.getInstanceUsingKeyArray inode (keys.map some) = some (some address) ∧ dm' = dm := by
  rw [isInstanceMapEntry] at checked
  split at checked
  · exact absurd checked nofun
  · simp at checked
  rename_i dm₂ inode searched
  split at checked
  · exact absurd checked nofun
  rename_i selected chosen
  obtain ⟨rfl, isSome⟩ : dm₂ = dm' ∧ selected.isSome = true := by simpa using checked
  obtain ⟨address, rfl⟩ := isSome_iff_exists.mp isSome
  rcases getInodeByNamePath_located searched with empty | ⟨rfl, located⟩
  · rw [getInstanceUsingKeyArray_empty empty] at chosen
    exact absurd chosen nofun
  · exact ⟨inode, address, located, chosen, rfl⟩

theorem isInstanceMapEntry_fault (fault : dm.isInstanceMapEntry memory path keys = none) :
    dm.getInodeByNamePath memory path = none := by
  rw [isInstanceMapEntry] at fault
  split at fault
  · assumption
  · exact absurd fault nofun
  · split at fault
    · exact absurd ‹_› (getInstanceUsingKeyArray_parsed _ _ keys)
    · exact absurd fault nofun

variable {memory : RoleMemory}

/-- The search answers the addressed instance, or an error. -/
theorem findInstance_cases {result : Int ⊕ Nat × Nat}
    (found : dm.findInstance memory path = some (dm', result)) :
    result = .inl ofFailure ∨
      ∃ inode address, dm.addressedInstance path = some (inode, address) ∧ dm' = dm ∧
        (result = .inl cmDmErrPathDoesNotExists ∨ result = .inr (inode, address)) := by
  rw [findInstance] at found
  cases keysOk : memory.keys with
  | false =>
    have failed : dm.getInstanceKeysFromNamePath memory.keys path = .failed [] := by
      rw [getInstanceKeysFromNamePath, keysOk]
      simp
    rw [failed] at found
    left
    simpa using (congrArg Prod.snd (some.inj found)).symm
  | true =>
  rw [keysOk] at found
  rw [addressedInstance]
  generalize dm.getInstanceKeysFromNamePath true path = parsed at found
  cases parsed with
  | fault => exact absurd found nofun
  | failed filled =>
    left
    simpa using (congrArg Prod.snd (some.inj found)).symm
  | parsed keys =>
  dsimp only at found ⊢
  cases first : dm.isInstanceMapEntry (memory.inode 0) path keys with
  | none =>
    rw [first] at found
    exact absurd found nofun
  | some checked =>
  obtain ⟨dm₁, there⟩ := checked
  rw [first] at found
  cases there with
  | false =>
    left
    simpa using (congrArg Prod.snd (some.inj found)).symm
  | true =>
  obtain ⟨inode, address, located, selected, rfl⟩ :=
    isInstanceMapEntry_true first
  right
  rw [located]
  dsimp only at found ⊢
  rw [selected]
  refine ⟨inode, address, rfl, ?_⟩
  cases start : (memory.inode 1).start with
  | false =>
    rw [getInodeByNamePath_out start] at found
    cases found
    exact ⟨rfl, .inl rfl⟩
  | true =>
  rw [locateInode_search located start] at found
  dsimp only at found
  rw [selected] at found
  cases found
  exact ⟨rfl, .inr rfl⟩

/-- An addressed instance is found, unless the memory is out at the second search. -/
theorem findInstance_addressed {dm : Dm} {memory : RoleMemory} {path : CString}
    {inode address : Nat} (addressed : dm.addressedInstance path = some (inode, address))
    (keysOk : memory.keys = true) (start : (memory.inode 0).start = true) :
    dm.findInstance memory path =
      some (dm, if (memory.inode 1).start = false then .inl cmDmErrPathDoesNotExists
        else .inr (inode, address)) := by
  rw [addressedInstance] at addressed
  rw [findInstance, keysOk]
  generalize dm.getInstanceKeysFromNamePath true path = parsed at addressed
  cases parsed with
  | fault => exact absurd addressed nofun
  | failed filled => exact absurd addressed nofun
  | parsed keys =>
  dsimp only at addressed ⊢
  cases located : dm.locateInode path with
  | none =>
    rw [located] at addressed
    exact absurd addressed nofun
  | some found =>
  rw [located] at addressed
  dsimp only at addressed
  split at addressed
  · rename_i selected
    obtain ⟨rfl, rfl⟩ : found = inode ∧ _ = address := by simpa using addressed
    have checked : dm.isInstanceMapEntry (memory.inode 0) path keys = some (dm, true) := by
      rw [isInstanceMapEntry, locateInode_search located start]
      dsimp only
      rw [selected]
      rfl
    rw [checked]
    dsimp only
    cases again : (memory.inode 1).start with
    | false =>
      rw [getInodeByNamePath_out again]
      rfl
    | true =>
    rw [locateInode_search located again]
    dsimp only
    rw [selected]
    rfl
  · exact absurd addressed nofun

/-- The look-ups of the path read no string past its end and no null pointer. -/
def PathReadable (dm : Dm) (path : CString) : Prop :=
  dm.getInstanceKeysFromNamePath true path ≠ .fault ∧
    ∀ keys, dm.getInstanceKeysFromNamePath true path = .parsed keys →
      dm.getInodeByNamePath .full path ≠ none

/-- A readable path is searched without a fault. -/
theorem findInstance_defined (readable : dm.PathReadable path) (memory : RoleMemory) :
    ∃ result, dm.findInstance memory path = some result := by
  rw [findInstance]
  cases keysOk : memory.keys with
  | false =>
    have failed : dm.getInstanceKeysFromNamePath false path = .failed [] := by
      rw [getInstanceKeysFromNamePath]
      simp
    rw [failed]
    exact ⟨_, rfl⟩
  | true =>
  cases parsed : dm.getInstanceKeysFromNamePath true path with
  | fault => exact absurd parsed readable.1
  | failed filled => exact ⟨_, rfl⟩
  | parsed keys =>
  dsimp only
  cases checked : dm.isInstanceMapEntry (memory.inode 0) path keys with
  | none =>
    have fault := getInodeByNamePath_fault (isInstanceMapEntry_fault checked)
    exact absurd fault (readable.2 keys parsed)
  | some result =>
  obtain ⟨dm', there⟩ := result
  cases there with
  | false => exact ⟨_, rfl⟩
  | true =>
  obtain ⟨inode, address, located, selected, rfl⟩ :=
    isInstanceMapEntry_true checked
  dsimp only
  cases start : (memory.inode 1).start with
  | false =>
    rw [getInodeByNamePath_out start]
    exact ⟨_, rfl⟩
  | true =>
  rw [locateInode_search located start]
  dsimp only
  rw [selected]
  exact ⟨_, rfl⟩

theorem readable_of_findInstance {result : Dm × (Int ⊕ Nat × Nat)}
    (found : dm.findInstance .full path = some result) : dm.PathReadable path := by
  rw [findInstance] at found
  constructor
  · intro fault
    rw [show RoleMemory.full.keys = true from rfl, fault] at found
    exact absurd found nofun
  intro keys parsed fault
  rw [show RoleMemory.full.keys = true from rfl, parsed] at found
  dsimp only at found
  rw [isInstanceMapEntry, show RoleMemory.full.inode 0 = .full from rfl, fault] at found
  exact absurd found nofun

/-! ## The permissions of an instance -/

/-- The role with the top permissions may read the roles of an instance: on the instance or
above it, or on its template node or above that. -/
def superuserMayRead (dm : Dm) (path : CString) (address : Nat) : Prop :=
  dm.verifyInstanceRoleGetPrivileges address cmVortiqaSuperuserRole = true ∨
    dm.verifyRoleGetPrivileges (dm.getDmNodeFromInstancePath true path)
      cmVortiqaSuperuserRole = true

/-- The nearest entry above an instance, given with its internal node. -/
def entryAbove (dm : Dm) (inode address : Nat) (role : CString) : Option RolePermission :=
  (dm.nearestInstanceEntry address role).or
    ((dm.inodes inode).bind fun found => dm.nearestNodeEntry found.dmNode role)

variable {role : CString}

theorem nearestEntry_instance {address : Nat} (ends : endsInInstance path = true)
    (addressed : dm.addressedInstance path = some (inode, address)) :
    dm.nearestEntry path role = dm.entryAbove inode address role := by
  rw [nearestEntry, if_pos ends, addressed]
  rfl

theorem nearestEntry_absent (ends : endsInInstance path = true)
    (absent : dm.addressedInstance path = none) : dm.nearestEntry path role = none := by
  rw [nearestEntry, if_pos ends, absent]
  rfl

theorem entryAbove_search (dm : Dm) (inode address : Nat) (role : CString) (permissions : Nat) :
    (match dm.instanceTreeRolePerm address role with
      | some entry => some (dm, ofSuccess, entry.permissions)
      | none =>
        match (dm.inodes inode).bind fun found => dm.nodeRolePerm found.dmNode role with
        | some entry => some (dm, ofSuccess, entry.permissions)
        | none => some (dm, ofFailure, permissions)) =
      match dm.entryAbove inode address role with
      | some entry => some (dm, ofSuccess, entry.permissions)
      | none => some (dm, ofFailure, permissions) := by
  rw [entryAbove, instanceTreeRolePerm_eq]
  simp only [nodeRolePerm_eq]
  cases dm.nearestInstanceEntry address role with
  | some entry => rfl
  | none => rfl

/-- A look-up for an instance that does not fail found the instance; then it is out of
memory, or it yields the nearest entry. -/
theorem byRole_cases {requester : CString} {status : Int} {permissions : Nat}
    (found : dm.getInstanceRolePermissionsByRole memory path requester role 0 =
      some (dm', status, permissions)) :
    status = ofFailure ∨
      ∃ inode address, dm.addressedInstance path = some (inode, address) ∧
        (status = cmDmErrPathDoesNotExists ∧ permissions = 0 ∨
          status = ofSuccess ∧ ∃ entry, dm.entryAbove inode address role = some entry ∧
            permissions = entry.permissions) := by
  rw [getInstanceRolePermissionsByRole] at found
  cases start : dm.findInstance memory path with
  | none =>
    rw [start] at found
    exact absurd found nofun
  | some begun =>
  obtain ⟨dm₁, result⟩ := begun
  rw [start] at found
  rcases findInstance_cases start with rfl | ⟨inode, address, addressed, rfl, rfl | rfl⟩
  · left
    exact (congrArg (fun outcome => outcome.2.1) (some.inj found)).symm
  · right
    refine ⟨inode, address, addressed, .inl ⟨?_, ?_⟩⟩
    · exact (congrArg (fun outcome => outcome.2.1) (some.inj found)).symm
    · exact (congrArg (fun outcome => outcome.2.2) (some.inj found)).symm
  dsimp only at found
  split at found
  · left
    exact (congrArg (fun outcome => outcome.2.1) (some.inj found)).symm
  replace found := (entryAbove_search dm₁ inode address role 0).symm.trans found
  cases above : dm₁.entryAbove inode address role with
  | none =>
    rw [above] at found
    left
    exact (congrArg (fun outcome => outcome.2.1) (some.inj found)).symm
  | some entry =>
  rw [above] at found
  right
  refine ⟨inode, address, addressed, .inr ⟨?_, entry, above, ?_⟩⟩
  · exact (congrArg (fun outcome => outcome.2.1) (some.inj found)).symm
  · exact (congrArg (fun outcome => outcome.2.2) (some.inj found)).symm

theorem byRole_full {address : Nat} (addressed : dm.addressedInstance path = some (inode, address)) :
    dm.getInstanceRolePermissionsByRole .full path cmVortiqaSuperuserRole role 0 =
      open Classical in
      if dm.superuserMayRead path address then
        match dm.entryAbove inode address role with
        | some entry => some (dm, ofSuccess, entry.permissions)
        | none => some (dm, ofFailure, 0)
      else some (dm, ofFailure, 0) := by
  have found := @findInstance_addressed dm .full path inode address addressed rfl rfl
  rw [if_neg (show ¬ (RoleMemory.full.inode 1).start = false from nofun)] at found
  rw [getInstanceRolePermissionsByRole, found]
  dsimp only
  by_cases mayRead : dm.superuserMayRead path address
  · rw [if_pos mayRead, if_neg, if_neg (by decide)]
    · exact entryAbove_search dm inode address role 0
    · rintro ⟨notThere, notAbove⟩
      rcases mayRead with there | above
      · rw [there] at notThere
        exact absurd notThere nofun
      · rw [show RoleMemory.full.node = true from rfl, above] at notAbove
        exact absurd notAbove nofun
  · rw [if_neg mayRead, if_pos]
    rw [superuserMayRead, not_or] at mayRead
    exact ⟨Bool.eq_false_iff.mpr mayRead.1, Bool.eq_false_iff.mpr mayRead.2⟩

end Dm

/-! ## The decision -/

/-- When the decision is that of the nearest entry: the two buffers of fixed size hold the
path and the role; a path that is taken as one of a template leads to the same decision
there as where it leads; and for an instance the look-ups stay within their strings, the
commands about children ask for none that is there, and the role with the top permissions
may read the roles wherever the command is allowed. -/
def VerifyFits (dm : Dm) (path role : CString) (command : SubCommand) : Prop :=
  if role = [] then ¬ EntryAllows (dm.nearestEntry path role) command
  else
    (removeKeysFromPath path).length < tplPathSize ∧ role.length ≤ ucmdmAdminRoleMaxLen ∧
      path ≠ [] ∧
      if scansAsInstance path = false ∨ command = .addParams then
        (EntryAllows (dm.templateEntry path role) command ↔
          EntryAllows (dm.nearestEntry path role) command)
      else
        dm.PathReadable path ∧
          (command.isChildInfo = true → dm.addressedInstance path = none) ∧
          ∀ inode address, dm.addressedInstance path = some (inode, address) →
            EntryAllows (dm.nearestEntry path role) command → dm.superuserMayRead path address

section decision

variable {dm : Dm} {path role : CString} {command : SubCommand}

theorem getPermissions_out : dm.getPermissions false path role =
    (cmDmErrPathDoesNotExists, 0) := by
  have absent : dm.getNodeByNamepath false path = none := by
    rw [Dm.getNodeByNamepath]
    simp
  rw [Dm.getPermissions, absent]

theorem getPermissions_of_entry {entry : RolePermission}
    (template : dm.templateEntry path role = some entry) :
    dm.getPermissions true (removeKeysFromPath path) role = (ofSuccess, entry.permissions) := by
  rw [Dm.templateEntry, Dm.getDmNodeFromInstancePath] at template
  obtain ⟨node, found, nearest⟩ := bind_eq_some_iff.mp template
  rw [Dm.getPermissions, found]
  dsimp only
  rw [Dm.nodeRolePerm_eq, nearest]

theorem getPermissions_cases {memory : Bool} :
    (dm.getPermissions memory (removeKeysFromPath path) role).1 = ofFailure ∨
      (dm.getPermissions memory (removeKeysFromPath path) role).2 = cmPermissionNoaccess ∨
      ∃ entry, dm.templateEntry path role = some entry ∧
        dm.getPermissions memory (removeKeysFromPath path) role =
          (ofSuccess, entry.permissions) := by
  cases memory with
  | false =>
    rw [getPermissions_out]
    exact .inr (.inl rfl)
  | true =>
  cases template : dm.templateEntry path role with
  | some entry => exact .inr (.inr ⟨entry, rfl, getPermissions_of_entry template⟩)
  | none =>
  rw [Dm.templateEntry, Dm.getDmNodeFromInstancePath] at template
  rw [Dm.getPermissions]
  cases found : dm.getNodeByNamepath true (removeKeysFromPath path) with
  | none => exact .inr (.inl rfl)
  | some node =>
  rw [found] at template
  have absent : dm.nearestNodeEntry node role = none := template
  dsimp only
  rw [Dm.nodeRolePerm_eq, absent]
  exact .inl rfl

/-- What the decision does with a template path. -/
def templateDecision (memory : Bool) (dm : Dm) (path role : CString) (command : SubCommand) :
    Decision :=
  let found := dm.getPermissions memory (removeKeysFromPath path) role
  if found.1 = ofFailure then ⟨ofFailure, some found.1⟩
  else if found.2 = cmPermissionNoaccess then ⟨ofFailure, some found.1⟩
  else ⟨if commandGranted found.2 command then ofSuccess else ofFailure, some found.1⟩

theorem verify_template {memory : VerifyMemory} (named : role ≠ [])
    (fits : (removeKeysFromPath path).length < tplPathSize)
    (shortRole : role.length ≤ ucmdmAdminRoleMaxLen) (nonempty : path ≠ [])
    (template : scansAsInstance path = false ∨ command = .addParams) :
    dm.cmVerifyRolePermissions memory (some path) (some role) command =
      some (dm, if memory.rolePerm = false then ⟨ofFailure, none⟩
        else templateDecision memory.templateNode dm path role command) := by
  rw [Dm.cmVerifyRolePermissions]
  dsimp only
  rw [if_neg named, if_neg (Nat.not_le.mpr fits)]
  by_cases out : memory.rolePerm = false
  · rw [if_pos out, if_pos out]
  rw [if_neg out, if_neg out, if_neg (Nat.not_lt.mpr shortRole), if_neg nonempty,
    if_pos template, templateDecision]
  split
  · rfl
  · split <;> rfl

theorem templateDecision_grants {memory : Bool}
    (grants : (templateDecision memory dm path role command).iResult = ofSuccess) :
    (templateDecision memory dm path role command).returnValue = some ofSuccess ∧
      EntryAllows (dm.templateEntry path role) command := by
  rw [templateDecision] at grants ⊢
  rcases @getPermissions_cases dm path role memory with failed | noaccess | found
  · rw [if_pos failed] at grants
    exact absurd grants (show ofFailure ≠ ofSuccess by decide)
  · rw [if_pos noaccess, ite_self] at grants
    exact absurd grants (show ofFailure ≠ ofSuccess by decide)
  obtain ⟨entry, template, found⟩ := found
  rw [found] at grants ⊢
  rw [if_neg (show ofSuccess ≠ ofFailure by decide)] at grants ⊢
  split at grants
  · exact absurd grants (show ofFailure ≠ ofSuccess by decide)
  rename_i access
  rw [if_neg access, template, entryAllows_some]
  refine ⟨rfl, (commandGranted_iff (.inr access)).mp ?_⟩
  by_contra denied
  rw [if_neg denied] at grants
  exact absurd grants (show ofFailure ≠ ofSuccess by decide)

theorem templateDecision_full (allows : EntryAllows (dm.templateEntry path role) command) :
    (templateDecision true dm path role command).iResult = ofSuccess := by
  cases template : dm.templateEntry path role with
  | none =>
    rw [template] at allows
    exact absurd allows not_entryAllows_none
  | some entry =>
  rw [template] at allows
  have access := allows.permissions_pos
  rw [templateDecision, getPermissions_of_entry template]
  rw [if_neg (show ofSuccess ≠ ofFailure by decide), if_neg access,
    if_pos ((commandGranted_iff (.inr access)).mpr (entryAllows_some.mp allows))]

/-- On a template the check is right when its entry allows what the nearest entry allows. -/
theorem template_right_iff (named : role ≠ [])
    (fits : (removeKeysFromPath path).length < tplPathSize)
    (shortRole : role.length ≤ ucmdmAdminRoleMaxLen) (nonempty : path ≠ [])
    (template : scansAsInstance path = false ∨ command = .addParams) :
    VerifyRight dm path role command ↔
      (EntryAllows (dm.templateEntry path role) command ↔
        EntryAllows (dm.nearestEntry path role) command) := by
  have decided := fun memory : VerifyMemory =>
    @verify_template dm path role command memory named fits shortRole nonempty template
  constructor
  · intro right
    constructor
    · intro allows
      obtain ⟨dm', decision, made, only⟩ := right.1 .full
      rw [decided] at made
      cases made
      exact (only (templateDecision_full allows)).2
    intro allows
    obtain ⟨dm', decision, made, grants⟩ := right.2 allows
    rw [decided] at made
    cases made
    exact (templateDecision_grants grants).2
  · intro same
    constructor
    · intro memory
      refine ⟨_, _, decided memory, fun grants => ?_⟩
      split at grants
      · exact absurd grants (show ofFailure ≠ ofSuccess by decide)
      · rename_i enough
        rw [if_neg enough]
        have sound := templateDecision_grants grants
        exact ⟨sound.1, same.mp sound.2⟩
    · intro allows
      exact ⟨_, _, decided .full, templateDecision_full (same.mpr allows)⟩

/-- What the decision does with the outcome of the look-up of an instance. -/
def instanceDecision (command : SubCommand) : Option (Dm × Int × Nat) → Option (Dm × Decision)
  | none => none
  | some (dm', status, permissions) =>
    if status = ofFailure then some (dm', ⟨ofFailure, some status⟩)
    else
      some (dm', ⟨if commandGranted permissions command then ofSuccess else ofFailure, some status⟩)

theorem verify_instance {memory : VerifyMemory} (named : role ≠ [])
    (fits : (removeKeysFromPath path).length < tplPathSize)
    (enough : memory.rolePerm = true) (shortRole : role.length ≤ ucmdmAdminRoleMaxLen)
    (nonempty : path ≠ []) (onInstance : ¬ (scansAsInstance path = false ∨ command = .addParams)) :
    dm.cmVerifyRolePermissions memory (some path) (some role) command =
      instanceDecision command
        (dm.getInstanceRolePermissionsByRole memory.role path cmVortiqaSuperuserRole role 0) := by
  rw [Dm.cmVerifyRolePermissions]
  rw [if_neg named, if_neg (Nat.not_le.mpr fits), if_neg (by simp [enough]),
    if_neg (Nat.not_lt.mpr shortRole), if_neg nonempty, if_neg onInstance]
  rfl

theorem getInstanceRolePermissionsByRole_none {memory : RoleMemory} {requester : CString}
    {permissions : Nat} :
    dm.getInstanceRolePermissionsByRole memory path requester role permissions = none ↔
      dm.findInstance memory path = none := by
  rw [Dm.getInstanceRolePermissionsByRole]
  cases dm.findInstance memory path with
  | none => simp
  | some begun =>
  obtain ⟨dm', result⟩ := begun
  cases result with
  | inl status => simp
  | inr address =>
  constructor
  · intro absurd'
    dsimp only at absurd'
    split at absurd'
    · exact absurd absurd' nofun
    split at absurd'
    · exact absurd absurd' nofun
    · split at absurd'
      · exact absurd absurd' nofun
      · split at absurd' <;> exact absurd absurd' nofun
  · exact nofun

/-- A memory that is out when the internal node is searched for the second time. -/
def outAtSecondSearch : VerifyMemory :=
  { VerifyMemory.full with
    role :=
      { RoleMemory.full with
        inode := fun search => { InodeMemory.full with start := search = 0 } } }

theorem childInfo_granted {inode address : Nat} (named : role ≠ [])
    (fits : (removeKeysFromPath path).length < tplPathSize)
    (shortRole : role.length ≤ ucmdmAdminRoleMaxLen) (nonempty : path ≠ [])
    (onInstance : ¬ (scansAsInstance path = false ∨ command = .addParams))
    (childInfo : command.isChildInfo = true)
    (addressed : dm.addressedInstance path = some (inode, address)) :
    dm.cmVerifyRolePermissions outAtSecondSearch (some path) (some role) command =
      some (dm, ⟨ofSuccess, some cmDmErrPathDoesNotExists⟩) := by
  have found := @Dm.findInstance_addressed dm outAtSecondSearch.role path inode address
    addressed rfl rfl
  rw [if_pos (show (outAtSecondSearch.role.inode 1).start = false from rfl)] at found
  rw [verify_instance named fits rfl shortRole nonempty onInstance,
    Dm.getInstanceRolePermissionsByRole, found]
  have granted : commandGranted 0 command = true := by
    cases command <;> first | rfl | exact absurd childInfo nofun
  dsimp only [instanceDecision]
  rw [if_neg (show cmDmErrPathDoesNotExists ≠ ofFailure by decide), granted]
  rfl

/-- The check on an instance is right when its path is read and the superuser may read it. -/
theorem instance_right_iff (named : role ≠ [])
    (fits : (removeKeysFromPath path).length < tplPathSize)
    (shortRole : role.length ≤ ucmdmAdminRoleMaxLen) (nonempty : path ≠ [])
    (onInstance : ¬ (scansAsInstance path = false ∨ command = .addParams)) :
    VerifyRight dm path role command ↔
      dm.PathReadable path ∧
        (command.isChildInfo = true → dm.addressedInstance path = none) ∧
        ∀ inode address, dm.addressedInstance path = some (inode, address) →
          EntryAllows (dm.nearestEntry path role) command →
            dm.superuserMayRead path address := by
  have ends : endsInInstance path = true := by
    refine endsInInstance_of_scan ?_
    rw [not_or] at onInstance
    simpa using onInstance.1
  constructor
  · intro right
    refine ⟨?_, ?_, ?_⟩
    · obtain ⟨dm', decision, made, -⟩ := right.1 .full
      rw [verify_instance named fits rfl shortRole nonempty onInstance] at made
      cases start : dm.findInstance .full path with
      | none =>
        rw [show VerifyMemory.full.role = .full from rfl,
          getInstanceRolePermissionsByRole_none.mpr start] at made
        exact absurd made nofun
      | some result => exact Dm.readable_of_findInstance start
    · intro childInfo
      cases addressed : dm.addressedInstance path with
      | none => rfl
      | some pair =>
      obtain ⟨dm', decision, made, only⟩ := right.1 outAtSecondSearch
      rw [childInfo_granted named fits shortRole nonempty onInstance childInfo addressed] at made
      cases made
      have lookedUp := (only rfl).1
      exact absurd lookedUp (by decide)
    · intro inode address addressed allows
      obtain ⟨dm', decision, made, grants⟩ := right.2 allows
      rw [verify_instance named fits rfl shortRole nonempty onInstance,
        show VerifyMemory.full.role = .full from rfl, Dm.byRole_full addressed] at made
      by_contra mayNot
      rw [if_neg mayNot] at made
      cases made
      exact absurd grants (show ofFailure ≠ ofSuccess by decide)
  · rintro ⟨readable, noChildInfo, mayRead⟩
    constructor
    · intro memory
      cases enough : memory.rolePerm with
      | false =>
        refine ⟨dm, ⟨ofFailure, none⟩, ?_, fun grants =>
          absurd grants (show ofFailure ≠ ofSuccess by decide)⟩
        rw [Dm.cmVerifyRolePermissions]
        rw [if_neg named, if_neg (Nat.not_le.mpr fits), if_pos enough]
      | true =>
      rw [verify_instance named fits enough shortRole nonempty onInstance]
      cases looked : dm.getInstanceRolePermissionsByRole memory.role path
          cmVortiqaSuperuserRole role 0 with
      | none =>
        have fault := getInstanceRolePermissionsByRole_none.mp looked
        obtain ⟨result, defined⟩ := Dm.findInstance_defined readable memory.role
        rw [fault] at defined
        exact absurd defined nofun
      | some result =>
      obtain ⟨dm', status, permissions⟩ := result
      rw [instanceDecision]
      by_cases failed : status = ofFailure
      · rw [if_pos failed]
        exact ⟨_, _, rfl, fun grants =>
          absurd grants (show ofFailure ≠ ofSuccess by decide)⟩
      rw [if_neg failed]
      refine ⟨_, _, rfl, fun grants => ?_⟩
      have granted : commandGranted permissions command = true := by
        by_contra denied
        rw [if_neg denied] at grants
        exact absurd grants (show ofFailure ≠ ofSuccess by decide)
      rcases Dm.byRole_cases looked with rfl |
        ⟨inode, address, addressed, ⟨rfl, rfl⟩ | ⟨rfl, entry, above, rfl⟩⟩
      · exact absurd rfl failed
      all_goals
        have noInfo : command.isChildInfo = false := by
          rw [Bool.eq_false_iff]
          intro childInfo
          rw [noChildInfo childInfo] at addressed
          exact absurd addressed nofun
      · obtain ⟨need, needs, enough⟩ := (commandGranted_iff (.inl noInfo)).mp granted
        have positive := neededPermission_pos needs
        omega
      · refine ⟨rfl, ?_⟩
        rw [Dm.nearestEntry_instance ends addressed, above]
        exact entryAllows_some.mpr ((commandGranted_iff (.inl noInfo)).mp granted)
    · intro allows
      cases addressed : dm.addressedInstance path with
      | none =>
        rw [Dm.nearestEntry_absent ends addressed] at allows
        exact absurd allows not_entryAllows_none
      | some pair =>
      obtain ⟨inode, address⟩ := pair
      have reads := mayRead inode address addressed allows
      rw [verify_instance named fits rfl shortRole nonempty onInstance,
        show VerifyMemory.full.role = .full from rfl, Dm.byRole_full addressed,
        if_pos reads]
      rw [Dm.nearestEntry_instance ends addressed] at allows
      cases above : dm.entryAbove inode address role with
      | none =>
        rw [above] at allows
        exact absurd allows not_entryAllows_none
      | some entry =>
      rw [above] at allows
      dsimp only [instanceDecision]
      rw [if_neg (show ofSuccess ≠ ofFailure by decide),
        if_pos ((commandGranted_iff (.inr allows.permissions_pos)).mpr
          (entryAllows_some.mp allows))]
      exact ⟨_, _, rfl, rfl⟩

end decision

/-- The check is right exactly when the request fits. -/
theorem verify_right_iff (dm : Dm) (path role : CString) (command : SubCommand) :
    VerifyRight dm path role command ↔ VerifyFits dm path role command := by
  rw [VerifyFits]
  by_cases named : role = []
  · have denied : ∀ memory, dm.cmVerifyRolePermissions memory (some path) (some role) command =
        some (dm, ⟨ofFailure, none⟩) := by
      intro memory
      rw [Dm.cmVerifyRolePermissions]
      rw [if_pos named]
    rw [if_pos named]
    constructor
    · rintro ⟨-, complete⟩ allows
      obtain ⟨dm', decision, made, grants⟩ := complete allows
      rw [denied] at made
      cases made
      exact absurd grants (show ofFailure ≠ ofSuccess by decide)
    · intro notAllowed
      refine ⟨fun memory => ⟨_, _, denied memory, fun grants => ?_⟩, fun allows => ?_⟩
      · exact absurd grants (show ofFailure ≠ ofSuccess by decide)
      · exact absurd allows notAllowed
  · rw [if_neg named]
    have faults : ∀ memory, (dm.cmVerifyRolePermissions memory (some path) (some role) command =
        none) → ¬ VerifyRight dm path role command := by
      rintro memory fault ⟨defined, -⟩
      obtain ⟨dm', decision, made, -⟩ := defined memory
      rw [fault] at made
      exact absurd made nofun
    by_cases fits : (removeKeysFromPath path).length < tplPathSize
    · by_cases shortRole : role.length ≤ ucmdmAdminRoleMaxLen
      · by_cases nonempty : path = []
        · refine iff_of_false (faults .full ?_) (fun all => all.2.2.1 nonempty)
          rw [Dm.cmVerifyRolePermissions]
          rw [if_neg named, if_neg (Nat.not_le.mpr fits), if_neg (by decide),
            if_neg (Nat.not_lt.mpr shortRole), if_pos nonempty]
        · by_cases template : scansAsInstance path = false ∨ command = .addParams
          · rw [if_pos template, template_right_iff named fits shortRole nonempty template]
            exact ⟨fun same => ⟨fits, shortRole, nonempty, same⟩, fun all => all.2.2.2⟩
          · rw [if_neg template, instance_right_iff named fits shortRole nonempty template]
            exact ⟨fun same => ⟨fits, shortRole, nonempty, same⟩, fun all => all.2.2.2⟩
      · refine iff_of_false (faults .full ?_) (fun all => shortRole all.2.1)
        rw [Dm.cmVerifyRolePermissions]
        rw [if_neg named, if_neg (Nat.not_le.mpr fits), if_neg (by decide),
          if_pos (Nat.not_le.mp shortRole)]
    · refine iff_of_false (faults .full ?_) (fun all => fits all.1)
      rw [Dm.cmVerifyRolePermissions]
      rw [if_neg named, if_pos (Nat.not_lt.mp fits)]

end OpenFlowController.Cminfra
