/-
Module: Cminfra.DmTraversal
Purpose: The data-model tree with the ids of its nodes: id paths, the first and next calls of the
  two traversals, in both directions of the child lists, the traversal that calls a callback at
  each node, and which traversals visit the subtree of their head, each node once and in order.
Source: cminfra/infra/dm/basic/dmtree.c 1293-1404, 1420-1709, 1897-2000, 2249-2495, 2840-2910,
  3201-3381, 4130-4176; cminfra/include/infra/dm/dmgdef.h 520-542
Trusted boundary: whether an allocation succeeds is an answer of the caller's memory, and the node
  information that a call fills is the node itself
-/
import OpenFlowController.Cminfra.DmTree
import OpenFlowController.Library.OrderedTree
import OpenFlowController.Library.Scan

namespace OpenFlowController.Cminfra

open Library

/-! ## Trees -/

/-- The template nodes, with `id_ui` of each. -/
structure DmIdTree where
  dm : Dm
  idOf : Nat → UInt32

/-- `UCMDM_TRAVERSAL_TYPE_*`. -/
inductive TraversalType where
  | topToBottom
  | bottomToTop
  | other

/-- The end of a child list at which a traversal starts: `CM_DLLQ_FIRST` with `CM_DLLQ_NEXT`, or
`CM_DLLQ_LAST` with `CM_DLLQ_PREV`. -/
inductive ChildEnd where
  | first
  | last

/-- What the memory answers one call: the buffer for the path of the head and those of the
look-up, the id path, and the node information. -/
structure DmCallMemory where
  token : Bool
  lookup : Bool
  idPath : Bool
  nodeInfo : Bool

/-- Memory for everything. -/
def DmCallMemory.enough : DmCallMemory where
  token := true
  lookup := true
  idPath := true
  nodeInfo := true

namespace DmIdTree

variable (tree : DmIdTree)

def childList (node : Nat) : List Nat :=
  (tree.dm.elements[node]?.map DataElement.childList).getD []

def parentOf (node : Nat) : Option Nat :=
  tree.dm.elements[node]?.bind DataElement.parent

/-- The child list, from the end at which a traversal starts. -/
def childrenFrom (childEnd : ChildEnd) (node : Nat) : List Nat :=
  match childEnd with
  | .first => tree.childList node
  | .last => (tree.childList node).reverse

/-- `CM_DLLQ_NEXT` or `CM_DLLQ_PREV` in the child list of the parent.  The root is in no list,
and its links are null. -/
def siblingOf (childEnd : ChildEnd) (node : Nat) : Option Nat :=
  (tree.parentOf node).bind fun above => following node (tree.childrenFrom childEnd above)

/-! ## Id paths -/

/-- The nodes from the root down to a node, going up at most `fuel` times. -/
def nodesUp : Nat → Nat → List Nat
  | 0, _ => []
  | fuel + 1, node =>
    match tree.parentOf node with
    | none => [node]
    | some above => nodesUp fuel above ++ [node]

/-- The ids from the root down to a node, going up at most `fuel` times. -/
def idsUp : Nat → Nat → List UInt32
  | 0, _ => []
  | fuel + 1, node =>
    match tree.parentOf node with
    | none => [tree.idOf node]
    | some above => idsUp fuel above ++ [tree.idOf node]

/-- `cmi_dm_create_id_path_from_node`. -/
def createIdPathFromNode (node : Nat) : List UInt32 :=
  tree.idsUp (node + 1) node

/-- `cmi_dm_get_child_by_id`. -/
def getChildById (above : Nat) (id : UInt32) : Option Nat :=
  (tree.childList above).find? fun child => tree.idOf child = id

/-- The loop of `cmi_dm_get_node_by_idpath` below the root. -/
def walkIds : Nat → List UInt32 → Option Nat
  | node, [] => some node
  | node, id :: rest =>
    match tree.getChildById node id with
    | none => none
    | some child => walkIds child rest

/-- `cmi_dm_get_node_by_idpath`. -/
def getNodeByIdpath (ids : List UInt32) : Option Nat :=
  match ids with
  | [] => none
  | first :: rest =>
    if tree.dm.elements = [] ∨ first ≠ tree.idOf 0 then none else tree.walkIds 0 rest

/-! ## The two traversals, call by call -/

/-- The head of a traversal by calls: the root without a path, else the node of the path
without its keys. -/
def headOfCalls (path : Option CString) (memory : DmCallMemory) : Except Int Nat :=
  match path with
  | none | some [] => .ok 0
  | some path =>
    if memory.token = false then .error ofFailure
    else
      match tree.dm.getNodeByNamepath memory.lookup (removeKeysFromPath path) with
      | none => .error cmDmErrPathDoesNotExists
      | some head => .ok head

/-- Down the child lists, at most `fuel` times, to a node without children. -/
def bottomMost (childEnd : ChildEnd) : Nat → Nat → Nat
  | 0, node => node
  | fuel + 1, node =>
    match tree.childrenFrom childEnd node with
    | [] => node
    | child :: _ => bottomMost childEnd fuel child

/-- The bottom-most node below a node; a way down is no longer than the tree has nodes. -/
def bottomOf (childEnd : ChildEnd) (node : Nat) : Nat :=
  tree.bottomMost childEnd tree.dm.elements.length node

/-- The loop over the parents in a top-to-bottom call, from a node without a sibling beside it.
The head ends it before its own siblings are looked at. -/
def climb (childEnd : ChildEnd) (head : Nat) : Nat → Nat → Option Nat
  | 0, _ => none
  | fuel + 1, node =>
    match tree.parentOf node with
    | none => none
    | some above =>
      if above = head then none
      else
        match tree.siblingOf childEnd above with
        | some beside => some beside
        | none => climb childEnd head fuel above

/-- The node after `node` from top to bottom: its first child, the sibling beside it, or the
sibling beside one of its parents. -/
def nextDown (childEnd : ChildEnd) (head node : Nat) : Option Nat :=
  match tree.childrenFrom childEnd node with
  | child :: _ => some child
  | [] =>
    match tree.siblingOf childEnd node with
    | some beside => if beside = head then none else some beside
    | none => tree.climb childEnd head (node + 1) node

/-- The node after `node` from bottom to top: the bottom-most node below the sibling beside it.
Without a sibling it is `node` itself, unless that is the head or the root: the id path is made
from the node and not from its parent. -/
def nextUp (childEnd : ChildEnd) (head node : Nat) : Option Nat :=
  match tree.siblingOf childEnd node with
  | some beside => some (tree.bottomOf childEnd beside)
  | none =>
    match tree.parentOf node with
    | none => none
    | some _ => if node = head then none else some node

/-- The end of a call: the id path of the node, and its node information. -/
def reply (idPathMemory infoMemory : Bool) (idPathCode : Int) (node : Option Nat) :
    Reply (List UInt32) Nat Int :=
  match node with
  | none => .ended ofFailure
  | some node =>
    if idPathMemory = false then .ended idPathCode
    else if infoMemory = false then .ended ofFailure
    else .found (tree.createIdPathFromNode node) node

/-- A first call. -/
def getFirst (childEnd : ChildEnd) (path : Option CString) (traversal : TraversalType)
    (memory : DmCallMemory) : Reply (List UInt32) Nat Int :=
  match tree.headOfCalls path memory with
  | .error code => .ended code
  | .ok head =>
    match traversal with
    | .topToBottom =>
      tree.reply memory.idPath memory.nodeInfo cmDmErrPathDoesNotExists (some head)
    | .bottomToTop =>
      tree.reply memory.idPath memory.nodeInfo cmDmErrPathDoesNotExists
        (some (tree.bottomOf childEnd head))
    | .other => .ended cmDmErrInvalidInputs

/-- A next call, which is given the id path of the node that the call before it found. -/
def getNext (childEnd : ChildEnd) (path : Option CString) (traversal : TraversalType)
    (memory : DmCallMemory) (ids : List UInt32) : Reply (List UInt32) Nat Int :=
  match tree.headOfCalls path memory with
  | .error code => .ended code
  | .ok head =>
    match tree.getNodeByIdpath ids with
    | none => .ended cmDmErrPathDoesNotExists
    | some node =>
      match traversal with
      | .topToBottom =>
        tree.reply memory.idPath memory.nodeInfo ofFailure (tree.nextDown childEnd head node)
      | .bottomToTop =>
        tree.reply memory.idPath memory.nodeInfo ofFailure (tree.nextUp childEnd head node)
      | .other => .ended ofFailure

def cmiDmGetFirstNodeInfo (path : Option CString) (traversal : TraversalType)
    (memory : DmCallMemory) : Reply (List UInt32) Nat Int :=
  tree.getFirst .first path traversal memory

def cmiDmGetNextNodeInfo (path : Option CString) (traversal : TraversalType)
    (memory : DmCallMemory) (ids : List UInt32) : Reply (List UInt32) Nat Int :=
  tree.getNext .first path traversal memory ids

/-- `cmi_dm_get_first_last_child_element_info`, which answers the element itself. -/
def cmiDmGetFirstLastChildElementInfo (path : Option CString) (traversal : TraversalType)
    (memory : DmCallMemory) : Reply (List UInt32) Nat Int :=
  tree.getFirst .last path traversal { memory with nodeInfo := true }

def cmiDmGetNextLastChildElementInfo (path : Option CString) (traversal : TraversalType)
    (memory : DmCallMemory) (ids : List UInt32) : Reply (List UInt32) Nat Int :=
  tree.getNext .last path traversal { memory with nodeInfo := true } ids

/-! ## The traversal with a callback -/

/-- The loop over the parents in `cmi_dm_traverse_dm_tree` from top to bottom: `none` when it
comes to the head, and where the outer loop goes on otherwise, which is the root when there
are no more parents. -/
def climbBack (head : Nat) : Nat → Nat → Option Nat
  | 0, node => some node
  | fuel + 1, node =>
    match tree.parentOf node with
    | none => some node
    | some above =>
      match tree.siblingOf .first above with
      | some beside => some beside
      | none => if above = head then none else climbBack head fuel above

/-- Where the outer loop from top to bottom goes on from a node without children. -/
def goOn (head node : Nat) : Option Nat :=
  match tree.siblingOf .first node with
  | some beside => some beside
  | none => tree.climbBack head (node + 1) node

/-- The loops of `cmi_dm_traverse_dm_tree` from top to bottom, with the nodes given to the
callback so far.  The loop over the first children does at each of them what the outer loop
does at its node.  `memory` says whether there is node information for the callback with that
number. -/
def traverseDown (head : Nat) (memory : Nat → Bool) : Nat → Nat → List Nat →
    Option (Int × List Nat)
  | 0, _, _ => none
  | fuel + 1, node, visited =>
    if memory visited.length = false then some (ofFailure, visited)
    else
      match tree.childList node with
      | child :: _ => traverseDown head memory fuel child (visited ++ [node])
      | [] =>
        match tree.goOn head node with
        | none => some (ofSuccess, visited ++ [node])
        | some next => traverseDown head memory fuel next (visited ++ [node])

/-- The loops of `cmi_dm_traverse_dm_tree` from bottom to top.  `climbing` is the loop over the
parents, which gives its own node to the callback, and leaves for the sibling of the parent
without the parent. -/
def traverseUp (head : Nat) (memory : Nat → Bool) : Nat → Bool → Nat → List Nat →
    Option (Int × List Nat)
  | 0, _, _, _ => none
  | fuel + 1, false, node, visited =>
    if memory visited.length = false then some (ofFailure, visited)
    else
      let leaf := tree.bottomOf .first node
      match tree.siblingOf .first leaf with
      | some beside => traverseUp head memory fuel false beside (visited ++ [leaf])
      | none => traverseUp head memory fuel true leaf (visited ++ [leaf])
  | fuel + 1, true, node, visited =>
    match tree.parentOf node with
    | none => traverseUp head memory fuel false node visited
    | some above =>
      if memory visited.length = false then some (ofFailure, visited)
      else
        match tree.siblingOf .first above with
        | some beside => traverseUp head memory fuel false beside (visited ++ [node])
        | none =>
          if above = head then some (ofSuccess, visited ++ [node])
          else traverseUp head memory fuel true above (visited ++ [node])

/-- The head of a traversal with a callback; keys in the path are not removed. -/
def headOfCallbacks (path : Option CString) (lookupMemory : Bool) : Option Nat :=
  match path with
  | none | some [] => some 0
  | some path => tree.dm.getNodeByNamepath lookupMemory path

/-- `cmi_dm_traverse_dm_tree` with a callback: its status and the nodes given to the callback,
unless it takes more than `fuel` steps. -/
def cmiDmTraverseDmTree (path : Option CString) (traversal : TraversalType)
    (lookupMemory : Bool) (memory : Nat → Bool) (fuel : Nat) : Option (Int × List Nat) :=
  match tree.headOfCallbacks path lookupMemory with
  | none => some (cmDmErrPathDoesNotExists, [])
  | some head =>
    match traversal with
    | .topToBottom => tree.traverseDown head memory fuel head []
    | .bottomToTop => tree.traverseUp head memory fuel false head []
    | .other => some (ofSuccess, [])

/-! ## Well-formed trees -/

/-- The root has no parent, a child comes after its parent and points back to it, and, as the
comment on `id_ui` has it, an id is unique within siblings. -/
structure Formed : Prop where
  nonempty : tree.dm.elements ≠ []
  root : tree.parentOf 0 = none
  parent_of_mem : ∀ {node child}, child ∈ tree.childList node → tree.parentOf child = some node
  child_lt : ∀ {node child}, child ∈ tree.childList node → child < tree.dm.elements.length
  parent_lt : ∀ {node above}, tree.parentOf node = some above → above < node
  ids_nodup : ∀ node, ((tree.childList node).map tree.idOf).Nodup

end DmIdTree

/-- A tree that is well-formed. -/
structure FormedTree extends DmIdTree where
  formed : toDmIdTree.Formed

open List Option

/-! ## Id paths find their node -/

namespace DmIdTree

/-- A node that the root reaches through the child lists. -/
inductive Attached (tree : DmIdTree) : Nat → Prop where
  | root : Attached tree 0
  | child {node child : Nat} : Attached tree node → child ∈ tree.childList node →
      Attached tree child

variable {tree : DmIdTree}

theorem nodesUp_fuel (formed : tree.Formed) {fuel more node : Nat} (enough : node < fuel)
    (enough' : node < more) : tree.nodesUp fuel node = tree.nodesUp more node := by
  refine fuel_enough id (fun {fuel more node} ih => ?_) enough enough'
  rw [nodesUp, nodesUp]
  cases parent : tree.parentOf node with
  | none => rfl
  | some above =>
    dsimp only
    rw [ih above (formed.parent_lt parent)]

theorem nodesUp_root (formed : tree.Formed) : tree.nodesUp 1 0 = [0] := by
  rw [nodesUp, formed.root]

theorem nodesUp_child (formed : tree.Formed) {node child : Nat}
    (mem : child ∈ tree.childList node) :
    tree.nodesUp (child + 1) child = tree.nodesUp (node + 1) node ++ [child] := by
  have parent := formed.parent_of_mem mem
  rw [nodesUp, parent]
  dsimp only
  rw [nodesUp_fuel formed (formed.parent_lt parent) (Nat.lt_succ_self node)]

theorem idsUp_eq (fuel node : Nat) :
    tree.idsUp fuel node = (tree.nodesUp fuel node).map tree.idOf := by
  induction fuel generalizing node with
  | zero => rfl
  | succ fuel ih =>
  rw [idsUp, nodesUp]
  cases tree.parentOf node with
  | none => rfl
  | some above => simp [ih]

theorem createIdPathFromNode_root (formed : tree.Formed) :
    tree.createIdPathFromNode 0 = [tree.idOf 0] := by
  rw [createIdPathFromNode, idsUp_eq, nodesUp_root formed, map_singleton]

theorem createIdPathFromNode_child (formed : tree.Formed) {node child : Nat}
    (mem : child ∈ tree.childList node) :
    tree.createIdPathFromNode child = tree.createIdPathFromNode node ++ [tree.idOf child] := by
  rw [createIdPathFromNode, idsUp_eq, nodesUp_child formed mem, map_append, ← idsUp_eq,
    map_singleton]
  rfl

theorem walkIds_append (node : Nat) (front back : List UInt32) :
    tree.walkIds node (front ++ back) =
      (tree.walkIds node front).bind fun reached => tree.walkIds reached back := by
  induction front generalizing node with
  | nil => rfl
  | cons id rest ih =>
  rw [cons_append, walkIds, walkIds]
  cases tree.getChildById node id with
  | none => rfl
  | some child => exact ih child

theorem getNodeByIdpath_createIdPathFromNode (formed : tree.Formed) {node : Nat}
    (attached : tree.Attached node) :
    tree.getNodeByIdpath (tree.createIdPathFromNode node) = some node := by
  have walked : ∃ rest, tree.createIdPathFromNode node = tree.idOf 0 :: rest ∧
      tree.walkIds 0 rest = some node := by
    induction attached with
    | root => exact ⟨[], createIdPathFromNode_root formed, rfl⟩
    | @child node child _ mem ih =>
    obtain ⟨rest, path, walk⟩ := ih
    refine ⟨rest ++ [tree.idOf child], ?_, ?_⟩
    · rw [createIdPathFromNode_child formed mem, path, cons_append]
    · have found : tree.getChildById node (tree.idOf child) = some child :=
        find?_of_nodup_map (formed.ids_nodup node) mem
      rw [walkIds_append, walk, bind_some, walkIds, found]
      rfl
  obtain ⟨rest, path, walk⟩ := walked
  rw [path, getNodeByIdpath, if_neg (by simp [formed.nonempty]), walk]

end DmIdTree

/-! ## The tree behind the pointers -/

namespace FormedTree

variable (tree : FormedTree)

/-- The child lists, with the pointers to the parents. -/
def forward : OrderedTree Nat where
  kids := tree.childList
  parent := tree.parentOf
  height node := tree.dm.elements.length - node
  depth := id
  kids_nodup node := (tree.formed.ids_nodup node).of_map _
  parent_of_mem := tree.formed.parent_of_mem
  height_lt mem := by
    have below := tree.formed.child_lt mem
    have above := tree.formed.parent_lt (tree.formed.parent_of_mem mem)
    omega
  depth_lt := tree.formed.parent_lt

/-- The tree as a traversal from one end of the child lists sees it. -/
def ordered : ChildEnd → OrderedTree Nat
  | .first => tree.forward
  | .last => tree.forward.mirror

@[simp]
theorem kids_ordered (childEnd : ChildEnd) :
    (tree.ordered childEnd).kids = tree.childrenFrom childEnd := by
  cases childEnd <;> rfl

@[simp]
theorem parent_ordered (childEnd : ChildEnd) : (tree.ordered childEnd).parent = tree.parentOf := by
  cases childEnd <;> rfl

@[simp]
theorem nextSibling_ordered (childEnd : ChildEnd) :
    (tree.ordered childEnd).nextSibling = tree.siblingOf childEnd := by
  cases childEnd <;> rfl

/-! ## What should hold -/

/-- The orders that are supported. -/
inductive Order where
  | topToBottom
  | bottomToTop

def Order.traversalType : Order → TraversalType
  | .topToBottom => .topToBottom
  | .bottomToTop => .bottomToTop

/-- A node and what is below it, in an order; from the last child it is mirrored. -/
def listing (childEnd : ChildEnd) (order : Order) (head : Nat) : List Nat :=
  match order with
  | .topToBottom => (tree.ordered childEnd).preorder head
  | .bottomToTop => (tree.ordered childEnd).postorder head

/-- A traversal: call by call from one end of the child lists, or with a callback. -/
inductive Traversal where
  | calls (childEnd : ChildEnd) (order : Order)
  | callback (order : Order)

/-- The first call. -/
def firstCall : ChildEnd → Option CString → TraversalType → Reply (List UInt32) Nat Int
  | .first, path, traversal => tree.cmiDmGetFirstNodeInfo path traversal .enough
  | .last, path, traversal => tree.cmiDmGetFirstLastChildElementInfo path traversal .enough

/-- A next call. -/
def nextCall : ChildEnd → Option CString → TraversalType → List UInt32 →
    Reply (List UInt32) Nat Int
  | .first, path, traversal => tree.cmiDmGetNextNodeInfo path traversal .enough
  | .last, path, traversal => tree.cmiDmGetNextLastChildElementInfo path traversal .enough

/-- A traversal visits the subtree of its head in order and ends. -/
def TraversalRight (path : Option CString) : Traversal → Prop
  | .calls childEnd order => ∀ head, tree.headOfCalls path .enough = .ok head →
      Enumerates (tree.nextCall childEnd path order.traversalType)
        (tree.firstCall childEnd path order.traversalType)
        ((tree.listing childEnd order head).map fun node =>
          (tree.createIdPathFromNode node, node)) ofFailure
  | .callback order => ∀ head, tree.headOfCallbacks path true = some head →
      ∃ fuel, tree.cmiDmTraverseDmTree path order.traversalType true (fun _ => true) fuel =
        some (ofSuccess, tree.listing .first order head)

/-! ## When it does -/

/-- Nothing stands beside a node or one of its parents. -/
def LastInOrder (childEnd : ChildEnd) (node : Nat) : Prop :=
  ∀ above, Relation.ReflTransGen (fun below next => tree.parentOf below = some next) node above →
    tree.siblingOf childEnd above = none

/-- When a traversal visits the subtree of its head in order.  From top to bottom by calls: the
head has children, or is the last node of the whole tree in that order.  From bottom to top by
calls: the head has no children and no sibling beside it.  With a callback from top to bottom:
the head has children and no sibling after it; from bottom to top never. -/
def TraversalFits (path : Option CString) : Traversal → Prop
  | .calls childEnd .topToBottom => ∀ head, tree.headOfCalls path .enough = .ok head →
      tree.childList head ≠ [] ∨ tree.LastInOrder childEnd head
  | .calls childEnd .bottomToTop => ∀ head, tree.headOfCalls path .enough = .ok head →
      tree.childList head = [] ∧ tree.siblingOf childEnd head = none
  | .callback .topToBottom => ∀ head, tree.headOfCallbacks path true = some head →
      tree.childList head ≠ [] ∧ tree.siblingOf .first head = none
  | .callback .bottomToTop => tree.headOfCallbacks path true = none

/-! ## Calls from top to bottom -/

variable {tree} {childEnd : ChildEnd} {head node : Nat}

theorem childrenFrom_eq_nil_iff :
    tree.childrenFrom childEnd node = [] ↔ tree.childList node = [] := by
  cases childEnd <;> simp [DmIdTree.childrenFrom]

theorem siblingOf_ne {beside : Nat} (next : tree.siblingOf childEnd node = some beside) :
    beside ≠ node := by
  rw [DmIdTree.siblingOf, bind_eq_some_iff] at next
  obtain ⟨above, -, next⟩ := next
  have nodup := (tree.ordered childEnd).kids_nodup above
  rw [kids_ordered] at nodup
  rintro rfl
  exact following_ne nodup next rfl

variable {fuel more : Nat}

theorem climb_fuel (enough : node < fuel) (enough' : node < more) :
    tree.climb childEnd head fuel node = tree.climb childEnd head more node := by
  refine fuel_enough id (fun {fuel more node} ih => ?_) enough enough'
  rw [DmIdTree.climb, DmIdTree.climb]
  cases parent : tree.parentOf node with
  | none => rfl
  | some above =>
    dsimp only
    rw [ih above (tree.formed.parent_lt parent)]

/-- Where a top-to-bottom call goes from a node without children. -/
def finishDown (tree : FormedTree) (childEnd : ChildEnd) (head node : Nat) : Option Nat :=
  match tree.siblingOf childEnd node with
  | some beside => some beside
  | none => tree.climb childEnd head (node + 1) node

theorem climb_above {above : Nat} (parent : tree.parentOf node = some above) :
    tree.climb childEnd head (node + 1) node =
      if above = head then none else tree.finishDown childEnd head above := by
  have lower := tree.formed.parent_lt parent
  have further : tree.climb childEnd head node above =
      tree.climb childEnd head (above + 1) above :=
    climb_fuel lower (Nat.lt_succ_self above)
  rw [DmIdTree.climb, parent, finishDown]
  cases beside : tree.siblingOf childEnd above with
  | some next => simp [beside]
  | none => simp [beside, further]

/-- The walk down goes through the tree in pre-order. -/
theorem runsThrough_nextDown :
    (tree.ordered childEnd).RunsThrough (tree.nextDown childEnd head)
      (tree.finishDown childEnd head) head none := by
  constructor
  case down =>
    intro node first rest kids
    rw [kids_ordered] at kids
    rw [DmIdTree.nextDown, kids]
  case leaf =>
    intro node below kids
    rw [kids_ordered] at kids
    rw [DmIdTree.nextDown, kids, finishDown]
    cases next : tree.siblingOf childEnd node with
    | none => rfl
    | some beside =>
    have besideBelow := below.nextSibling (by rw [nextSibling_ordered, next])
    dsimp only
    rw [if_neg besideBelow.ne]
  case sibling =>
    intro node beside _ next
    rw [nextSibling_ordered] at next
    rw [finishDown, next]
  case up =>
    intro node above _ next parent
    rw [nextSibling_ordered] at next
    rw [parent_ordered] at parent
    rw [finishDown, next]
    exact climb_above parent

theorem lastInOrder_iff :
    tree.LastInOrder childEnd node ↔
      tree.siblingOf childEnd node = none ∧
        ∀ above, tree.parentOf node = some above → tree.LastInOrder childEnd above := by
  constructor
  case mp =>
    intro last
    exact ⟨last node .refl, fun above parent further reached => last further (.head parent reached)⟩
  case mpr =>
    rintro ⟨beside, above⟩ further reached
    rcases reached.cases_head with rfl | ⟨next, parent, rest⟩
    · exact beside
    · exact above next parent further rest

theorem climb_eq_none_iff (upward : node ≤ head) :
    tree.climb childEnd head (node + 1) node = none ↔
      ∀ above, tree.parentOf node = some above → tree.LastInOrder childEnd above := by
  induction node using Nat.strongRecOn with
  | ind node ih =>
  cases parent : tree.parentOf node with
  | none => simp [DmIdTree.climb, parent]
  | some above =>
  have lower := tree.formed.parent_lt parent
  have notHead : above ≠ head := by omega
  have aboveIff := ih above lower (by omega)
  rw [climb_above parent, if_neg notHead, finishDown]
  simp only [Option.some.injEq, forall_eq', @lastInOrder_iff tree childEnd above]
  cases tree.siblingOf childEnd above with
  | none => simpa using aboveIff
  | some beside => simp

theorem nextDown_head_iff (leaf : tree.childList head = []) :
    tree.nextDown childEnd head head = none ↔ tree.LastInOrder childEnd head := by
  have kids := (@childrenFrom_eq_nil_iff tree childEnd head).mpr leaf
  rw [DmIdTree.nextDown, kids, lastInOrder_iff]
  cases next : tree.siblingOf childEnd head with
  | some beside => simp [siblingOf_ne next]
  | none => simpa using climb_eq_none_iff (Nat.le_refl head)

theorem steps_nextDown_iff :
    Steps (tree.nextDown childEnd head) none ((tree.ordered childEnd).preorder head) ↔
      tree.childList head ≠ [] ∨ tree.LastInOrder childEnd head := by
  by_cases leaf : tree.childList head = []
  · have kids : (tree.ordered childEnd).kids head = [] := by
      rw [kids_ordered, childrenFrom_eq_nil_iff, leaf]
    rw [OrderedTree.preorder_eq, kids]
    simp only [flatMap_nil, Steps, head?_nil, Option.or_none, and_true,
      nextDown_head_iff leaf, leaf, ne_eq, not_true_eq_false, false_or]
  · have kids : (tree.ordered childEnd).kids head ≠ [] := by
      rw [kids_ordered, ne_eq, childrenFrom_eq_nil_iff]
      exact leaf
    exact iff_of_true (runsThrough_nextDown.steps kids) (.inl leaf)

/-! ## Calls from bottom to top -/

/-- The walk up visits the post-order exactly below a childless head without siblings. -/
theorem steps_nextUp_iff :
    some (tree.bottomOf childEnd head) = ((tree.ordered childEnd).postorder head).head? ∧
        Steps (tree.nextUp childEnd head) none ((tree.ordered childEnd).postorder head) ↔
      tree.childList head = [] ∧ tree.siblingOf childEnd head = none := by
  by_cases leaf : tree.childList head = []
  · have kids := (@childrenFrom_eq_nil_iff tree childEnd head).mpr leaf
    have bottom : tree.bottomOf childEnd head = head := by
      rw [DmIdTree.bottomOf]
      cases tree.dm.elements.length with
      | zero => rfl
      | succ count => rw [DmIdTree.bottomMost, kids]
    have next : tree.nextUp childEnd head head = none ↔ tree.siblingOf childEnd head = none := by
      rw [DmIdTree.nextUp]
      cases tree.siblingOf childEnd head with
      | some beside => simp
      | none => cases tree.parentOf head <;> simp
    rw [OrderedTree.postorder_eq, kids_ordered, kids]
    simp only [flatMap_nil, nil_append, bottom, head?_cons, Steps, head?_nil,
      Option.or_none, next, and_true, true_and, leaf]
  · refine iff_of_false ?_ fun fits => leaf fits.1
    rintro ⟨-, steps⟩
    have some' : tree.childrenFrom childEnd head ≠ [] := fun kids =>
      leaf (childrenFrom_eq_nil_iff.mp kids)
    obtain ⟨front, final, kids⟩ : ∃ front final, tree.childrenFrom childEnd head =
        front ++ [final] := ⟨_, _, (dropLast_append_getLast some').symm⟩
    -- the last child comes right before the head, and its next call answers itself
    rw [OrderedTree.postorder_eq, kids_ordered, kids, flatMap_append, flatMap_singleton,
      OrderedTree.postorder_eq _ final, steps_append, steps_append, steps_append] at steps
    have goes : tree.nextUp childEnd head final = some head := by
      simpa [Steps] using steps.1.2.2
    have mem : final ∈ (tree.ordered childEnd).kids head := by simp [kids]
    have parent : tree.parentOf final = some head := by
      rw [← parent_ordered tree childEnd]
      exact (tree.ordered childEnd).parent_of_mem mem
    have nodup := (tree.ordered childEnd).kids_nodup head
    rw [kids_ordered, kids] at nodup
    have beside : tree.siblingOf childEnd final = none := by
      rw [DmIdTree.siblingOf, parent, bind_some, kids, following_append nodup]
      rfl
    have notHead : final ≠ head := by
      have lower := tree.formed.parent_lt parent
      omega
    rw [DmIdTree.nextUp, beside, parent] at goes
    rw [if_neg notHead] at goes
    exact notHead (some.inj goes)

/-! ## What calls answer -/

theorem attached_walkNodes {tokens : List PathToken} {found : Nat}
    (attached : tree.Attached node) (walk : tree.dm.walkNodes node tokens = some found) :
    tree.Attached found := by
  induction tokens generalizing node with
  | nil => exact some.inj walk ▸ attached
  | cons token rest ih =>
  rw [Dm.walkNodes] at walk
  split at walk
  · split at walk
    · exact absurd walk nofun
    · exact ih attached walk
  · split at walk
    case h_1 => exact absurd walk nofun
    case h_2 child equation =>
        exact ih (.child attached (mem_of_find?_eq_some equation)) walk

theorem attached_getNodeByNamepath {memory : Bool} {path : CString}
    (found : tree.dm.getNodeByNamepath memory path = some node) : tree.Attached node := by
  rw [Dm.getNodeByNamepath] at found
  by_cases empty : path = []
  · simp [empty] at found
  by_cases starved : memory = false
  · simp [empty, starved] at found
  by_cases bare : tree.dm.elements = []
  · simp [empty, bare] at found
  rw [if_neg empty, if_neg starved, if_neg bare] at found
  split at found
  · exact some.inj found ▸ .root
  · exact attached_walkNodes .root found

variable {path : Option CString}

theorem attached_headOfCalls {memory : DmCallMemory}
    (found : tree.headOfCalls path memory = .ok head) : tree.Attached head := by
  unfold DmIdTree.headOfCalls at found
  split at found
  · exact Except.ok.inj found ▸ .root
  · exact Except.ok.inj found ▸ .root
  split at found
  · exact absurd found nofun
  · split at found
    case h_1 => exact absurd found nofun
    case h_2 lookup => exact Except.ok.inj found ▸ attached_getNodeByNamepath lookup

theorem attached_listing (order : Order) (attached : tree.Attached head) :
    ∀ node ∈ tree.listing childEnd order head, tree.Attached node := by
  have down : ∀ node kid, tree.Attached node → kid ∈ (tree.ordered childEnd).kids node →
      tree.Attached kid := by
    intro node kid attached mem
    refine .child attached ?_
    cases childEnd with
    | first => exact mem
    | last => exact mem_reverse.mp mem
  cases order with
  | topToBottom => exact (tree.ordered childEnd).preorder_forall down attached
  | bottomToTop => exact (tree.ordered childEnd).postorder_forall down attached

theorem reply_enough (code : Int) (node : Option Nat) :
    tree.reply true true code node = answer tree.createIdPathFromNode ofFailure node := by
  cases node <;> rfl

/-- The step behind the next calls in an order. -/
def nextStep (tree : FormedTree) (childEnd : ChildEnd) (head : Nat) : Order → Nat → Option Nat
  | .topToBottom => tree.nextDown childEnd head
  | .bottomToTop => tree.nextUp childEnd head

/-- The node of the first call in an order. -/
def firstNode (tree : FormedTree) (childEnd : ChildEnd) (head : Nat) : Order → Nat
  | .topToBottom => head
  | .bottomToTop => tree.bottomOf childEnd head

theorem firstCall_eq (found : tree.headOfCalls path .enough = .ok head) (order : Order) :
    tree.firstCall childEnd path order.traversalType =
      answer tree.createIdPathFromNode ofFailure (some (tree.firstNode childEnd head order)) := by
  have first : tree.getFirst childEnd path order.traversalType .enough =
      answer tree.createIdPathFromNode ofFailure (some (tree.firstNode childEnd head order)) := by
    rw [DmIdTree.getFirst, found]
    cases order <;> rfl
  cases childEnd <;> exact first

theorem nextCall_eq (found : tree.headOfCalls path .enough = .ok head) (order : Order)
    (attached : tree.Attached node) :
    tree.nextCall childEnd path order.traversalType (tree.createIdPathFromNode node) =
      answer tree.createIdPathFromNode ofFailure (tree.nextStep childEnd head order node) := by
  have next : tree.getNext childEnd path order.traversalType .enough
      (tree.createIdPathFromNode node) =
        answer tree.createIdPathFromNode ofFailure (tree.nextStep childEnd head order node) := by
    rw [DmIdTree.getNext, found]
    rw [DmIdTree.getNodeByIdpath_createIdPathFromNode tree.formed attached]
    cases order <;> exact reply_enough _ _
  cases childEnd <;> exact next

theorem enumerates_listing_iff {path : Option CString}
    (found : tree.headOfCalls path .enough = .ok head) (order : Order) :
    Enumerates (tree.nextCall childEnd path order.traversalType)
        (tree.firstCall childEnd path order.traversalType)
        ((tree.listing childEnd order head).map fun node =>
          (tree.createIdPathFromNode node, node)) ofFailure ↔
      some (tree.firstNode childEnd head order) = (tree.listing childEnd order head).head? ∧
        Steps (tree.nextStep childEnd head order) none (tree.listing childEnd order head) := by
  rw [firstCall_eq found]
  refine enumerates_iff_steps (fun node mem => nextCall_eq found order ?_) _
  exact attached_listing order (attached_headOfCalls found) node mem

/-! ## The callback from top to bottom -/

theorem climbBack_fuel (enough : node < fuel) (enough' : node < more) :
    tree.climbBack head fuel node = tree.climbBack head more node := by
  refine fuel_enough id (fun {fuel more node} ih => ?_) enough enough'
  rw [DmIdTree.climbBack, DmIdTree.climbBack]
  cases parent : tree.parentOf node with
  | none => rfl
  | some above =>
    dsimp only
    rw [ih above (tree.formed.parent_lt parent)]

/-- The step of the loops from top to bottom. -/
def stepBack (tree : FormedTree) (head node : Nat) : Option Nat :=
  match tree.childList node with
  | child :: _ => some child
  | [] => tree.goOn head node

/-- The walk back runs from a node to what its head leaves. -/
theorem runsThrough_stepBack :
    (tree.ordered .first).RunsThrough (tree.stepBack head) (tree.goOn head) head
      (tree.siblingOf .first head) := by
  constructor
  case down =>
    intro node first rest kids
    have kids : tree.childList node = first :: rest := kids
    rw [stepBack, kids]
  case leaf =>
    intro node _ kids
    have kids : tree.childList node = [] := kids
    rw [stepBack, kids]
  case sibling =>
    intro node beside _ next
    rw [nextSibling_ordered] at next
    rw [DmIdTree.goOn, next]
  case up =>
    intro node above _ next parent
    rw [nextSibling_ordered] at next
    rw [parent_ordered] at parent
    have lower := tree.formed.parent_lt parent
    rw [DmIdTree.goOn, next]
    rw [DmIdTree.climbBack, parent]
    dsimp only
    rw [climbBack_fuel lower (Nat.lt_succ_self above)]
    by_cases same : above = head
    · subst same
      cases beside : tree.siblingOf .first above <;> simp
    · simp only [same, if_false, DmIdTree.goOn]

/-- The loops from where they go on. -/
def traverseOn (tree : FormedTree) (head fuel : Nat) (visited : List Nat) :
    Option Nat → Option (Int × List Nat)
  | none => some (ofSuccess, visited)
  | some next => tree.traverseDown head (fun _ => true) fuel next visited

/-- Each step of the walk is one call of the loop. -/
theorem traverseDown_steps {last : Option Nat} {rest : List Nat}
    (steps : Steps (tree.stepBack head) last (node :: rest)) (fuel : Nat) (visited : List Nat) :
    tree.traverseDown head (fun _ => true) (fuel + (rest.length + 1)) node visited =
      tree.traverseOn head fuel (visited ++ node :: rest) last := by
  induction rest generalizing node visited with
  | nil =>
    have goes : tree.stepBack head node = last := by simpa [Steps] using steps
    rw [length_nil, Nat.zero_add, DmIdTree.traverseDown]
    rw [stepBack] at goes
    cases kids : tree.childList node with
    | nil =>
      rw [kids] at goes
      dsimp only at goes
      rw [goes]
      cases last <;> simp [traverseOn]
    | cons child others =>
    rw [kids] at goes
    subst goes
    simp [traverseOn]
  | cons next rest ih =>
  obtain ⟨goes, steps⟩ := steps
  have restRuns := ih steps (visited ++ [node])
  rw [length_cons, ← Nat.add_assoc, DmIdTree.traverseDown]
  rw [stepBack] at goes
  cases kids : tree.childList node with
  | nil =>
    rw [kids] at goes
    simpa [goes] using restRuns
  | cons child others =>
  rw [kids] at goes
  obtain rfl := some.inj goes
  simpa using restRuns

variable {memory : Nat → Bool}

/-- More fuel does not change a walk that has ended. -/
theorem traverseDown_more {visited : List Nat} {result : Int × List Nat}
    (ended : tree.traverseDown head memory fuel node visited = some result) (more : Nat) :
    tree.traverseDown head memory (fuel + more) node visited = some result := by
  induction fuel generalizing node visited with
  | zero => exact absurd ended nofun
  | succ fuel ih =>
  rw [Nat.add_right_comm, DmIdTree.traverseDown]
  rw [DmIdTree.traverseDown] at ended
  split
  case isTrue starved => rwa [if_pos starved] at ended
  case isFalse fed =>
  rw [if_neg fed] at ended
  cases kids : tree.childList node with
  | cons child rest =>
    rw [kids] at ended
    exact ih ended
  | nil =>
  rw [kids] at ended
  cases goes : tree.goOn head node with
  | none => rwa [goes] at ended
  | some next =>
    rw [goes] at ended
    exact ih ended

theorem ofFailure_ne : ofFailure ≠ ofSuccess := by
  decide

theorem traverseDown_visits {visited all : List Nat}
    (ended : tree.traverseDown head memory fuel node visited = some (ofSuccess, all)) :
    ∃ more, all = visited ++ node :: more := by
  induction fuel generalizing node visited with
  | zero => exact absurd ended nofun
  | succ fuel ih =>
  rw [DmIdTree.traverseDown] at ended
  split at ended
  case isTrue =>
    exact absurd (congrArg Prod.fst (some.inj ended)) ofFailure_ne
  case isFalse =>
  split at ended
  case h_1 child _ _ =>
    obtain ⟨more, all⟩ := ih ended
    exact ⟨child :: more, by rw [all, append_assoc]; rfl⟩
  case h_2 =>
  split at ended
  case h_1 => exact ⟨[], (congrArg Prod.snd (some.inj ended)).symm⟩
  case h_2 next _ =>
    obtain ⟨more, all⟩ := ih ended
    exact ⟨next :: more, by rw [all, append_assoc]; rfl⟩

theorem climbBack_ne_none (upward : node ≤ head) : tree.climbBack head fuel node ≠ none := by
  induction fuel generalizing node with
  | zero => simp [DmIdTree.climbBack]
  | succ fuel ih =>
  rw [DmIdTree.climbBack]
  cases parent : tree.parentOf node with
  | none => simp
  | some above =>
  have lower := tree.formed.parent_lt parent
  have notHead : above ≠ head := by omega
  have further := @ih above (by omega)
  cases beside : tree.siblingOf .first above with
  | some next => simp [beside]
  | none => simpa [beside, notHead] using further

/-- The loop visits the pre-order of the head exactly when it has children and no sibling. -/
theorem traverseDown_iff :
    (∃ fuel, tree.traverseDown head (fun _ => true) fuel head [] =
        some (ofSuccess, (tree.ordered .first).preorder head)) ↔
      tree.childList head ≠ [] ∧ tree.siblingOf .first head = none := by
  -- whatever the last step is, a run that goes on behind the listing ends with a longer one
  have longer : ∀ next, Steps (tree.stepBack head) (some next)
      ((tree.ordered .first).preorder head) → ∀ fuel,
        tree.traverseDown head (fun _ => true) fuel head [] ≠
          some (ofSuccess, (tree.ordered .first).preorder head) := by
    intro next steps fuel ended
    rw [OrderedTree.preorder_eq] at steps ended
    have further := traverseDown_more ended
      (((tree.ordered .first).kids head).flatMap (tree.ordered .first).preorder).length.succ
    rw [traverseDown_steps steps, traverseOn] at further
    obtain ⟨more, all⟩ := traverseDown_visits further
    simpa using congrArg List.length all
  by_cases leaf : tree.childList head = []
  · refine iff_of_false ?_ fun fits => fits.1 leaf
    rintro ⟨fuel, ended⟩
    have kids : (tree.ordered .first).kids head = [] := leaf
    obtain ⟨next, goes⟩ : ∃ next, tree.goOn head head = some next := by
      refine ne_none_iff_exists'.mp ?_
      rw [DmIdTree.goOn]
      cases tree.siblingOf .first head with
      | some beside => exact nofun
      | none => exact climbBack_ne_none (Nat.le_refl head)
    refine longer next ?_ fuel ended
    rw [OrderedTree.preorder_eq, kids]
    exact ⟨by rw [stepBack, leaf]; exact goes, trivial⟩
  · have steps := (@runsThrough_stepBack tree head).steps leaf
    cases beside : tree.siblingOf .first head with
    | some next =>
      refine iff_of_false ?_ fun fits => absurd fits.2 nofun
      rintro ⟨fuel, ended⟩
      exact longer next (beside ▸ steps) fuel ended
    | none =>
    refine iff_of_true ?_ ⟨leaf, rfl⟩
    rw [beside, OrderedTree.preorder_eq] at steps
    rw [OrderedTree.preorder_eq]
    exact ⟨_, traverseDown_steps steps 0 []⟩

/-! ## The callback from bottom to top -/

/-- A walk up that succeeds ends below its head. -/
theorem traverseUp_ends {climbing : Bool} {visited all : List Nat}
    (ended : tree.traverseUp head memory fuel climbing node visited = some (ofSuccess, all)) :
    ∃ front final, all = front ++ [final] ∧ tree.parentOf final = some head := by
  induction fuel generalizing climbing node visited with
  | zero => exact absurd ended nofun
  | succ fuel ih =>
  cases climbing with
  | false =>
    rw [DmIdTree.traverseUp] at ended
    split at ended
    case isTrue =>
      exact absurd (congrArg Prod.fst (some.inj ended)) ofFailure_ne
    case isFalse =>
      dsimp only at ended
      split at ended <;> exact ih ended
  | true =>
  rw [DmIdTree.traverseUp] at ended
  split at ended
  case h_1 => exact ih ended
  case h_2 above parent =>
  split at ended
  case isTrue =>
    exact absurd (congrArg Prod.fst (some.inj ended)) ofFailure_ne
  case isFalse =>
  split at ended
  case h_1 => exact ih ended
  case h_2 =>
  split at ended
  case isTrue same =>
    exact ⟨visited, node, (congrArg Prod.snd (some.inj ended)).symm, same ▸ parent⟩
  case isFalse => exact ih ended

theorem traverseUp_never (fuel : Nat) :
    tree.traverseUp head (fun _ => true) fuel false head [] ≠
      some (ofSuccess, (tree.ordered .first).postorder head) := by
  intro ended
  obtain ⟨front, final, all, parent⟩ := traverseUp_ends ended
  rw [OrderedTree.postorder_eq] at all
  have same : head = final := by simpa using congrArg List.getLast? all
  have lower := tree.formed.parent_lt parent
  omega

/-! ## All traversals -/

/-- **Traversal of the data-model tree.**  A traversal visits the subtree of its head, each node
once and in order, and then ends, exactly when it fits: from top to bottom a head without
children sends it to what comes after the head, from bottom to top it stays at the last child of
a list or goes on beside the head, and with a callback from bottom to top it never visits the
head. -/
theorem traversal_right_iff (tree : FormedTree) (path : Option CString) (traversal : Traversal) :
    tree.TraversalRight path traversal ↔ tree.TraversalFits path traversal := by
  cases traversal with
  | calls childEnd order =>
    cases order with
    | topToBottom =>
      refine forall₂_congr fun head found => ?_
      have steps := @enumerates_listing_iff tree childEnd head path found .topToBottom
      have first : some (tree.firstNode childEnd head .topToBottom) =
          (tree.listing childEnd .topToBottom head).head? := by
        rw [listing, OrderedTree.preorder_eq]
        rfl
      exact steps.trans ((and_iff_right first).trans steps_nextDown_iff)
    | bottomToTop =>
    refine forall₂_congr fun head found => ?_
    have steps := @enumerates_listing_iff tree childEnd head path found .bottomToTop
    exact steps.trans steps_nextUp_iff
  | callback order =>
  cases order with
  | topToBottom =>
    refine forall₂_congr fun head found => ?_
    simp only [DmIdTree.cmiDmTraverseDmTree, found, Order.traversalType, listing]
    exact traverseDown_iff
  | bottomToTop =>
  simp only [TraversalRight, TraversalFits, DmIdTree.cmiDmTraverseDmTree,
    Order.traversalType, listing]
  cases found : tree.headOfCallbacks path true with
  | none => simp
  | some head =>
  refine iff_of_false ?_ (by simp)
  intro right
  obtain ⟨fuel, ended⟩ := right head rfl
  exact traverseUp_never fuel ended

/-! ## A tree with two leaves -/

/-- The root with two children. -/
def twoLeaves : FormedTree where
  dm :=
    { elements :=
        [{ name := ['r'], elementType := .anchor, childList := [1, 2] },
          { name := ['a'], elementType := .anchor, parent := some 0 },
          { name := ['b'], elementType := .anchor, parent := some 0 }]
      instTree := 0
      inodes := fun _ => none
      instances := fun _ => none
      nextAddress := 0 }
  idOf := fun node => UInt32.ofNat node
  formed :=
    { nonempty := by decide
      root := rfl
      parent_of_mem := by
        intro node child mem
        match node with
        | 0 =>
          have children : child = 1 ∨ child = 2 := by
            simpa [DmIdTree.childList] using mem
          rcases children with rfl | rfl <;> rfl
        | 1 | 2 | _ + 3 => simp [DmIdTree.childList] at mem
      child_lt := by
        intro node child mem
        match node with
        | 0 =>
          have children : child = 1 ∨ child = 2 := by
            simpa [DmIdTree.childList] using mem
          rcases children with rfl | rfl <;> decide
        | 1 | 2 | _ + 3 => simp [DmIdTree.childList] at mem
      parent_lt := by
        intro node above parent
        match node with
        | 0 | _ + 3 => simp [DmIdTree.parentOf] at parent
        | 1 | 2 =>
          have same : 0 = above := by simpa [DmIdTree.parentOf] using parent
          omega
      ids_nodup := by
        intro node
        match node with
        | 0 => decide
        | 1 | 2 | _ + 3 => simp [DmIdTree.childList] }

/-- From top to bottom the next call after the first leaf finds the second one, outside the
subtree.  From bottom to top the next call after the last child of the root finds that child
again, and the root is never found. -/
theorem next_leaves_subtree_or_stays :
    ¬ twoLeaves.TraversalRight (some ['a']) (.calls .first .topToBottom) ∧
      ¬ twoLeaves.TraversalRight none (.calls .first .bottomToTop) := by
  constructor
  · intro right
    have calls := right 1 (by decide)
    have listed : twoLeaves.listing .first .topToBottom 1 = [1] := by
      rw [listing, OrderedTree.preorder_eq, kids_ordered]
      rfl
    rw [listed] at calls
    have ended := (enumerates_cons calls).2
    cases ended
  · intro right
    have calls := right 0 (by decide)
    have listed : twoLeaves.listing .first .bottomToTop 0 = [1, 2, 0] := by
      have leaf : ∀ node, twoLeaves.childList node = [] →
          (twoLeaves.ordered .first).postorder node = [node] := by
        intro node kids
        rw [OrderedTree.postorder_eq, kids_ordered]
        simp [DmIdTree.childrenFrom, kids]
      have kids : (twoLeaves.ordered .first).kids 0 = [1, 2] := rfl
      rw [listing, OrderedTree.postorder_eq, kids]
      simp [leaf 1 rfl, leaf 2 rfl]
    rw [listed] at calls
    have second := (enumerates_cons (enumerates_cons calls).2).2
    have root := (enumerates_cons second).1
    have again : twoLeaves.nextCall .first none .bottomToTop
        (twoLeaves.createIdPathFromNode 2) = .found [0, 2] 2 := by decide
    exact absurd (root.symm.trans again) (by decide)

end FormedTree

end OpenFlowController.Cminfra
