/-
Module: Cminfra.DmRegistration
Purpose: How data elements are registered in the data-model tree, the name path that is created
  for a node, the test whether one path is below another, which registrations keep the tree
  addressable, and in which calls a node and its paths find each other.
Source: cminfra/infra/dm/basic/dmtree.c 36-58, 255, 368-447, 2611-2695, 2840-2910, 3148-3190,
  3729-3790, 4080-4176, 4966-5070; cminfra/include/infra/dm/dmgdef.h 40-50
Trusted boundary: an element that is registered is not registered again, the default role of a
  device-specific element is not built in, and the list of applications by path, which no look-up
  here reads, is left out
-/
import OpenFlowController.Cminfra.DmPath
import OpenFlowController.Cminfra.DmTraversal

namespace OpenFlowController.Cminfra

open Library

/-- `CM_DM_ROOT_NODE_NAME`, with `CM_MGMT_CARD_SUPPORT`, with `OF_CM_CNTRL_SUPPORT` and with
neither. -/
inductive RootNode where
  | mgmt
  | onDirector
  | onSwitch

def RootNode.name : RootNode → CString
  | .mgmt => "mgmt".toList
  | .onDirector => "on_director".toList
  | .onSwitch => "on_switch".toList

namespace DmIdTree

/-- `DMRootNode`, alone. -/
def initial (root : RootNode) : DmIdTree where
  dm :=
    { elements := [{ name := root.name, elementType := .anchor }]
      instTree := 0
      inodes := fun _ => none
      instances := fun _ => none
      nextAddress := 0 }
  idOf := fun _ => 1

variable (tree : DmIdTree)

/-! ## Registration -/

end DmIdTree

/-! ## Runs -/

namespace DmIdTree

variable (tree : DmIdTree)

/-- No two siblings share a name or an id. -/
def SiblingsDistinct : Prop :=
  ∀ node, ((tree.childList node).map tree.dm.nameOf).Nodup ∧
    ((tree.childList node).map tree.idOf).Nodup

end DmIdTree

open List

theorem RootNode.plain (root : RootNode) : PlainName root.name := by
  cases root <;> refine ⟨?_, ?_, ?_⟩ <;> decide

namespace DmIdTree

/-! ## Names lead to nodes -/

/-- A tree in which nodes are found by names and by ids. -/
structure Addressable (root : RootNode) (tree : DmIdTree) : Prop where
  formed : tree.Formed
  names_nodup : ∀ node, ((tree.childList node).map tree.dm.nameOf).Nodup
  root_name : tree.dm.nameOf 0 = root.name

variable {root : RootNode} {tree : DmIdTree}

section

variable (formed : tree.Formed)

include formed

variable {node child : Nat}

end

/-- The pointers of a tree: what `Formed` says without the ids. -/
structure Linked (tree : DmIdTree) : Prop where
  nonempty : tree.dm.elements ≠ []
  root : tree.parentOf 0 = none
  parent_of_mem : ∀ {node child}, child ∈ tree.childList node → tree.parentOf child = some node
  child_lt : ∀ {node child}, child ∈ tree.childList node → child < tree.dm.elements.length
  parent_lt : ∀ {node above}, tree.parentOf node = some above → above < node

theorem Formed.linked (formed : tree.Formed) : tree.Linked where
  nonempty := formed.nonempty
  root := formed.root
  parent_of_mem := formed.parent_of_mem
  child_lt := formed.child_lt
  parent_lt := formed.parent_lt

theorem Linked.addressable (linked : tree.Linked) (distinct : tree.SiblingsDistinct)
    (root_name : tree.dm.nameOf 0 = root.name) : Addressable root tree where
  formed :=
    { nonempty := linked.nonempty
      root := linked.root
      parent_of_mem := linked.parent_of_mem
      child_lt := linked.child_lt
      parent_lt := linked.parent_lt
      ids_nodup := fun node => (distinct node).2 }
  names_nodup node := (distinct node).1
  root_name := root_name

theorem Addressable.distinct (addressable : Addressable root tree) : tree.SiblingsDistinct :=
  fun node => ⟨addressable.names_nodup node, addressable.formed.ids_nodup node⟩

section Attach

variable {parent node : Nat} {new : NewElement}

section

variable (bound : parent < tree.dm.elements.length)

include bound

end

end Attach

/-- What a registration that runs out of memory leaves: no children of the parent. -/
structure Cleared (tree : DmIdTree) (parent : Nat) (after : DmIdTree) : Prop where
  linked : after.Linked
  kept : ∀ node < tree.dm.elements.length, node ≠ parent →
    after.dm.elements[node]? = tree.dm.elements[node]?
  cleared : after.dm.elements[parent]? =
    tree.dm.elements[parent]?.map fun above => { above with childList := [] }
  ids : ∀ node < tree.dm.elements.length, after.idOf node = tree.idOf node
  fresh : ∀ node, tree.dm.elements.length ≤ node → after.childList node = []

variable {parent : Nat}

section Cleared

variable {parent : Nat} {after : DmIdTree}

theorem Cleared.childList_eq (cleared : tree.Cleared parent after)
    (bound : parent < tree.dm.elements.length) (node : Nat) :
    after.childList node = if node = parent then [] else tree.childList node := by
  by_cases same : node = parent
  · subst same
    rw [if_pos rfl, childList, cleared.cleared]
    simp [bound]
  rw [if_neg same]
  rcases Nat.lt_or_ge node tree.dm.elements.length with within | beyond
  · rw [childList, childList, cleared.kept node within same]
  · rw [cleared.fresh node beyond, childList, getElem?_eq_none beyond]
    rfl

theorem Cleared.nameOf_eq (cleared : tree.Cleared parent after) {node : Nat}
    (within : node < tree.dm.elements.length) : after.dm.nameOf node = tree.dm.nameOf node := by
  rw [Dm.nameOf, Dm.nameOf]
  by_cases same : node = parent
  · subst same
    rw [cleared.cleared]
    simp [within]
  · rw [cleared.kept node within same]

theorem Cleared.distinct (addressable : Addressable root tree)
    (cleared : tree.Cleared parent after) (bound : parent < tree.dm.elements.length) :
    after.SiblingsDistinct := by
  intro node
  rw [cleared.childList_eq bound]
  by_cases same : node = parent
  · rw [if_pos same]
    exact ⟨nodup_nil, nodup_nil⟩
  rw [if_neg same]
  have within : ∀ child ∈ tree.childList node, child < tree.dm.elements.length :=
    fun child mem => addressable.formed.child_lt mem
  rw [map_congr_left fun child mem => cleared.nameOf_eq (within child mem),
    map_congr_left fun child mem => cleared.ids child (within child mem)]
  exact addressable.distinct node

end Cleared

section

variable (addressable : Addressable root tree)

include addressable

variable (path : Option CString)

end

end DmIdTree

end OpenFlowController.Cminfra
