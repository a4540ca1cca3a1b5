/-
Module: Utils.PtrAry
Purpose: The array of pointers behind safe references: its slots on the circular lists of free and
  of active nodes, the magic counter, the operations, and over whole runs which list each slot is
  on and what a look-up through each reference that was issued answers.
Source: ofproto/src/include/ptrary.h
Trusted boundary: a `cntlr_assert` only logs, so the operations go on behind it
-/
import OpenFlowController.Library.MachineInt
import OpenFlowController.Library.Ring
import OpenFlowController.Library.Run

namespace OpenFlowController.Utils

open Library

/-! ## The array -/

structure Saferef where
  index : Nat
  magic : Nat
deriving DecidableEq

/-- Where the list pointers lead: to the two head nodes or to a node of the array. -/
inductive PtrPlace (count : Nat) where
  | freeQ
  | activeQ
  | node (index : Fin count)
deriving DecidableEq

/-- `struct cntlr_ptr_ary_node` without its list pointers.  A null pointer is `none`. -/
structure PtrAryNode (α : Type*) where
  ptrP : Option α
  magic : Nat

/-- `struct cntlr_ptr_ary`.  An operation that uses an index behind the array is
undefined. -/
structure PtrAry (α : Type*) (count : Nat) where
  base : Fin count → PtrAryNode α
  links : RingLinks (PtrPlace count)
  magic : Nat
  undefined : Bool

/-- `ptr_ary_p->magic++`, with zero skipped. -/
def nextPtrMagic (magic : Nat) : Nat :=
  if uint32Succ magic = 0 then 1 else uint32Succ magic

namespace PtrAry

variable {α : Type*} {count : Nat}

/-! ## The operations -/

/-- The list pointers of `cntlr_ptr_ary_init`: the nodes in the order of their indices. -/
def initLinks (count : Nat) (positive : 0 < count) : RingLinks (PtrPlace count) where
  next
    | .freeQ => .node ⟨0, positive⟩
    | .activeQ => .activeQ
    | .node index =>
      if inside : index.1 + 1 < count then .node ⟨index.1 + 1, inside⟩ else .freeQ
  prev
    | .freeQ => .node ⟨count - 1, Nat.sub_lt positive Nat.one_pos⟩
    | .activeQ => .activeQ
    | .node index =>
      if index.1 = 0 then .freeQ
      else .node ⟨index.1 - 1, Nat.lt_of_le_of_lt (Nat.sub_le _ _) index.2⟩

/-- `cntlr_ptr_ary_init`. -/
def init (α : Type*) (count : Nat) (positive : 0 < count) : PtrAry α count where
  base := fun _ => { ptrP := none, magic := 0 }
  links := initLinks count positive
  magic := 1
  undefined := false

/-- An access behind the array. -/
def outside (ary : PtrAry α count) : PtrAry α count :=
  { ary with undefined := true }

/-- The writes "Insert in active_q". -/
def insertInActiveQ (links : RingLinks (PtrPlace count)) (node : PtrPlace count) :
    RingLinks (PtrPlace count) :=
  let links := links.setPrev node .activeQ
  let links := links.setNext node (links.next .activeQ)
  let links := links.setNext .activeQ node
  links.setPrev (links.next node) node

/-- The writes "Insert in free_q". -/
def insertInFreeQ (links : RingLinks (PtrPlace count)) (node : PtrPlace count) :
    RingLinks (PtrPlace count) :=
  let links := links.setNext node (links.next .freeQ)
  let links := links.setPrev node .freeQ
  let links := links.setPrev (links.next node) node
  links.setNext .freeQ node

/-- A node taken for a pointer, once it is off the free list: it gets the next magic. -/
def take (ary : PtrAry α count) (index : Fin count) (ptrP : Option α)
    (links : RingLinks (PtrPlace count)) : PtrAry α count × Option Saferef :=
  ({ ary with
      base := Function.update ary.base index { ptrP := ptrP, magic := ary.magic }
      links := insertInActiveQ links (.node index)
      magic := nextPtrMagic ary.magic },
    some { index := index.1, magic := ary.magic })

/-- `cntlr_ptr_ary_insert`.  Were the first node of the free list the head of the active
one, a word behind that head would be taken for a magic. -/
def insert (ary : PtrAry α count) (ptrP : Option α) : PtrAry α count × Option Saferef :=
  match ary.links.next .freeQ with
  | .freeQ => (ary, none)
  | .activeQ => (ary.outside, none)
  | .node index =>
    let links := ary.links.setNext .freeQ (ary.links.next (.node index))
    let links := links.setPrev (links.next (.node index)) .freeQ
    ary.take index ptrP links

/-- `cntlr_ptr_ary_re_insert`. -/
def reInsert (ary : PtrAry α count) (saferef : Saferef) : PtrAry α count × Option Saferef :=
  if inside : saferef.index < count then
    let node := ary.base ⟨saferef.index, inside⟩
    if saferef.magic ≠ node.magic then (ary, none)
    else
      ({ ary with
          base := Function.update ary.base ⟨saferef.index, inside⟩
            { node with magic := ary.magic }
          magic := uint32Succ ary.magic },
        some { index := saferef.index, magic := ary.magic })
  else
    (ary.outside, none)

/-- `cntlr_ptr_ary_insert_at_index`. -/
def insertAtIndex (ary : PtrAry α count) (ptrP : Option α) (index : Nat) :
    PtrAry α count × Option Saferef :=
  if inside : index < count then
    if (ary.base ⟨index, inside⟩).magic = 0 then
      ary.take ⟨index, inside⟩ ptrP (ary.links.unlink (.node ⟨index, inside⟩))
    else
      (ary, none)
  else
    (ary.outside, none)

/-- `cntlr_ptr_ary_remove_ex`; the answer tells whether it returned success. -/
def removeEx (ary : PtrAry α count) (index magic : Nat) : PtrAry α count × Bool :=
  if inside : index < count then
    if magic ≠ (ary.base ⟨index, inside⟩).magic then (ary, false)
    else
      ({ ary with
          base := Function.update ary.base ⟨index, inside⟩ { ptrP := none, magic := 0 }
          links := insertInFreeQ (ary.links.unlink (.node ⟨index, inside⟩))
            (.node ⟨index, inside⟩) },
        true)
  else
    (ary.outside, false)

/-- `cntlr_ptr_ary_get_ptr_ex`. -/
def getPtrEx (ary : PtrAry α count) (index magic : Nat) : Option α :=
  if inside : index < count then
    if (ary.base ⟨index, inside⟩).magic = magic then (ary.base ⟨index, inside⟩).ptrP
    else none
  else
    none

end PtrAry

open List Function

variable {α : Type*} {count : Nat}

/-! ## The two lists -/

/-- Every slot is on exactly one of the lists, and on the active one if and only if its
magic is not zero. -/
structure PtrAryLists (ary : PtrAry α count) (free active : List (Fin count)) : Prop where
  freeRing : Ring ary.links .freeQ (free.map .node)
  activeRing : Ring ary.links .activeQ (active.map .node)
  once : (free ++ active).Nodup
  all : ∀ index, index ∈ free ++ active
  active_iff : ∀ index, index ∈ active ↔ (ary.base index).magic ≠ 0

theorem node_injective : Function.Injective (@PtrPlace.node count) := by
  intro one other same
  injection same

variable {head : PtrPlace count} {index : Fin count} {slots : List (Fin count)}

theorem not_mem_ring (notHead : .node index ≠ head) (off : index ∉ slots) :
    PtrPlace.node index ∉ head :: slots.map .node := by
  rw [mem_cons, not_or]
  refine ⟨notHead, fun member => ?_⟩
  exact off ((mem_map_of_injective node_injective).mp member)

theorem mem_ring (member : index ∈ slots) : PtrPlace.node index ∈ head :: slots.map .node :=
  mem_cons_of_mem _ (mem_map_of_mem member)

theorem node_ne_freeQ (index : Fin count) : PtrPlace.node index ≠ .freeQ :=
  nofun

theorem node_ne_activeQ (index : Fin count) : PtrPlace.node index ≠ .activeQ :=
  nofun

theorem rings_disjoint {free active : List (Fin count)} (once : (free ++ active).Nodup) :
    List.Disjoint (PtrPlace.freeQ :: free.map .node) (.activeQ :: active.map .node) := by
  have apart := (nodup_append.mp once).2.2
  intro place one other
  cases place with
  | freeQ => simp at other
  | activeQ => simp at one
  | node index =>
  have inFree : index ∈ free := by simpa using one
  have inActive : index ∈ active := by simpa using other
  exact apart index inFree index inActive rfl

/-! ## What the writes come to -/

section Writes

variable {links : RingLinks (PtrPlace count)} {index : Fin count}

theorem insertInActiveQ_eq :
    PtrAry.insertInActiveQ links (.node index) = links.pushed .activeQ (.node index) := by
  unfold PtrAry.insertInActiveQ RingLinks.pushed
  simp [RingLinks.setNext, RingLinks.setPrev]

theorem insertInFreeQ_eq :
    PtrAry.insertInFreeQ links (.node index) = links.pushed .freeQ (.node index) := by
  unfold PtrAry.insertInFreeQ RingLinks.pushed
  simp [RingLinks.setNext, RingLinks.setPrev]

theorem unlink_first (first : links.prev (.node index) = .freeQ) :
    (links.setNext .freeQ (links.next (.node index))).setPrev
      ((links.setNext .freeQ (links.next (.node index))).next (.node index)) .freeQ =
        links.unlink (.node index) := by
  unfold RingLinks.unlink
  simp [first]

end Writes

/-! ## What the operations do to the lists -/

/-- The two rings, without the slot that is being moved. -/
structure PtrAryRings (links : RingLinks (PtrPlace count)) (free active : List (Fin count)) :
    Prop where
  freeRing : Ring links .freeQ (free.map .node)
  activeRing : Ring links .activeQ (active.map .node)
  once : (free ++ active).Nodup

namespace PtrAryRings

variable {links : RingLinks (PtrPlace count)} {free active left right : List (Fin count)}
  {index : Fin count}

theorem unlinkFree (rings : PtrAryRings links (left ++ index :: right) active) :
    PtrAryRings (links.unlink (.node index)) (left ++ right) active where
  freeRing := by
    have ring := rings.freeRing
    rw [map_append, map_cons] at ring
    rw [map_append]
    exact ring.unlink
  activeRing :=
    rings.freeRing.unlink_other (mem_ring (mem_append_right _ mem_cons_self))
      rings.activeRing (rings_disjoint rings.once)
  once := rings.once.sublist
    (((sublist_cons_self index right).append_left left).append_right active)

theorem unlinkActive (rings : PtrAryRings links free (left ++ index :: right)) :
    PtrAryRings (links.unlink (.node index)) free (left ++ right) where
  freeRing :=
    rings.activeRing.unlink_other (mem_ring (mem_append_right _ mem_cons_self))
      rings.freeRing (disjoint_symm (rings_disjoint rings.once))
  activeRing := by
    have ring := rings.activeRing
    rw [map_append, map_cons] at ring
    rw [map_append]
    exact ring.unlink
  once := rings.once.sublist
    (((sublist_cons_self index right).append_left left).append_left free)

theorem pushFree (rings : PtrAryRings links free active) (once : (index :: free ++ active).Nodup) :
    PtrAryRings (PtrAry.insertInFreeQ links (.node index)) (index :: free) active := by
  rw [cons_append] at once
  have off := (nodup_cons.mp once).1
  rw [mem_append, not_or] at off
  rw [insertInFreeQ_eq]
  constructor
  case freeRing =>
    exact rings.freeRing.pushed (not_mem_ring (node_ne_freeQ index) off.1)
  case activeRing =>
    exact rings.freeRing.pushed_other rings.activeRing
      (not_mem_ring (node_ne_activeQ index) off.2) (rings_disjoint rings.once)
  case once => exact once

theorem pushActive (rings : PtrAryRings links free active)
    (once : (free ++ index :: active).Nodup) :
    PtrAryRings (PtrAry.insertInActiveQ links (.node index)) free (index :: active) := by
  have off := (nodup_cons.mp (perm_middle.nodup_iff.mp once)).1
  rw [mem_append, not_or] at off
  rw [insertInActiveQ_eq]
  constructor
  case freeRing =>
    exact rings.activeRing.pushed_other rings.freeRing
      (not_mem_ring (node_ne_freeQ index) off.1) (disjoint_symm (rings_disjoint rings.once))
  case activeRing =>
    exact rings.activeRing.pushed (not_mem_ring (node_ne_activeQ index) off.2)
  case once => exact once

end PtrAryRings

namespace PtrAryLists

variable {ary : PtrAry α count} {free active left right : List (Fin count)}
  {index : Fin count}

theorem rings (lists : PtrAryLists ary free active) : PtrAryRings ary.links free active :=
  ⟨lists.freeRing, lists.activeRing, lists.once⟩

theorem ofRings {slots slots' : List (Fin count)} (lists : PtrAryLists ary slots slots')
    {node : PtrAryNode α} {links : RingLinks (PtrPlace count)} {magic : Nat}
    (rings : PtrAryRings links free active) (perm : (free ++ active).Perm (slots ++ slots'))
    (same : index ∈ active ↔ node.magic ≠ 0)
    (others : ∀ other, other ≠ index → (other ∈ active ↔ other ∈ slots')) :
    PtrAryLists { ary with base := update ary.base index node, links, magic } free active where
  freeRing := rings.freeRing
  activeRing := rings.activeRing
  once := rings.once
  all := fun other => perm.mem_iff.mpr (lists.all other)
  active_iff := by
    intro other
    dsimp only
    by_cases is : other = index
    · rw [is, Function.update_self]
      exact same
    · rw [Function.update_of_ne is]
      exact (others other is).trans (lists.active_iff other)

theorem activate (lists : PtrAryLists ary (left ++ index :: right) active)
    (node : PtrAryNode α) (magic : Nat) (used : node.magic ≠ 0) :
    PtrAryLists
      { ary with
        base := update ary.base index node
        links := PtrAry.insertInActiveQ (ary.links.unlink (.node index)) (.node index)
        magic := magic }
      (left ++ right) (index :: active) := by
  have perm : (left ++ right ++ index :: active).Perm (left ++ index :: right ++ active) := by
    rw [append_assoc, append_assoc]
    apply List.Perm.append_left
    exact perm_middle
  apply lists.ofRings (lists.rings.unlinkFree.pushActive (perm.nodup_iff.mpr lists.once)) perm
  · exact iff_of_true mem_cons_self used
  · intro other is
    rw [mem_cons, or_iff_right is]

theorem release (lists : PtrAryLists ary free (left ++ index :: right)) :
    PtrAryLists
      { ary with
        base := update ary.base index { ptrP := none, magic := 0 }
        links := PtrAry.insertInFreeQ (ary.links.unlink (.node index)) (.node index) }
      (index :: free) (left ++ right) := by
  have perm : (index :: free ++ (left ++ right)).Perm (free ++ (left ++ index :: right)) := by
    refine List.Perm.trans ?_ (perm_middle.append_left free).symm
    exact perm_middle.symm
  have once := perm.nodup_iff.mpr lists.once
  apply lists.ofRings (lists.rings.unlinkActive.pushFree once) perm
  · simp only [ne_eq, not_true, iff_false]
    exact fun member => (nodup_cons.mp once).1 (mem_append_right _ member)
  · intro other is
    simp [is]

theorem refresh (lists : PtrAryLists ary (left ++ index :: right) active) :
    PtrAryLists
      { ary with
        base := update ary.base index { ptrP := none, magic := 0 }
        links := PtrAry.insertInFreeQ (ary.links.unlink (.node index)) (.node index) }
      (index :: (left ++ right)) active := by
  have perm : (index :: (left ++ right) ++ active).Perm (left ++ index :: right ++ active) :=
    perm_middle.symm.append_right active
  have once := perm.nodup_iff.mpr lists.once
  apply lists.ofRings (lists.rings.unlinkFree.pushFree once) perm
  · simp only [ne_eq, not_true, iff_false]
    exact fun member => (nodup_cons.mp once).1 (mem_append_right _ member)
  · exact fun _ _ => Iff.rfl

theorem remark (lists : PtrAryLists ary free active) (node : PtrAryNode α) (magic : Nat)
    (member : index ∈ active) (used : node.magic ≠ 0) :
    PtrAryLists { ary with base := update ary.base index node, magic := magic }
      free active :=
  lists.ofRings lists.rings (List.Perm.refl _) (iff_of_true member used) fun _ _ => Iff.rfl

theorem mem_free_iff (lists : PtrAryLists ary free active) :
    index ∈ free ↔ (ary.base index).magic = 0 := by
  have apart := (nodup_append.mp lists.once).2.2
  rw [← not_iff_not, ← ne_eq _ 0, ← lists.active_iff index]
  constructor
  · exact fun off => (mem_append.mp (lists.all index)).resolve_left off
  · exact fun member free => apart index free index member rfl

end PtrAryLists

open List Function

variable {α : Type*} {count : Nat}

/-! ## Runs -/

/-- A reference that the array issued, the pointer inserted under it, and whether it was
neither removed nor re-issued since. -/
structure Issue (α : Type*) where
  ref : Saferef
  ptrP : Option α
  live : Bool

/-- One operation. -/
inductive PtrAryEvent (α : Type*) where
  | insert (ptrP : Option α)
  | insertAtIndex (ptrP : Option α) (index : Nat)
  | reInsert (saferef : Saferef)
  | removeEx (index magic : Nat)

/-- A reference is given up. -/
def retire (issued : List (Issue α)) (ref : Saferef) : List (Issue α) :=
  issued.map fun issue => if issue.ref = ref then { issue with live := false } else issue

/-- The pointer inserted under a reference. -/
def pointerUnder (issued : List (Issue α)) (ref : Saferef) : Option α :=
  (issued.find? fun issue => issue.ref = ref && issue.live).bind (·.ptrP)

/-- The array with the references it issued, the latest first. -/
structure PtrAryRun (α : Type*) (count : Nat) where
  ary : PtrAry α count
  issued : List (Issue α)

namespace PtrAryRun

/-- The array after `cntlr_ptr_ary_init`. -/
def start (α : Type*) (count : Nat) (positive : 0 < count) : PtrAryRun α count where
  ary := PtrAry.init α count positive
  issued := []

/-- What an answer of an operation adds to the issued references; `kept` are the older
ones if it issued one. -/
def answer (run : PtrAryRun α count) (ptrP : Option α) (kept : List (Issue α)) :
    PtrAry α count × Option Saferef → PtrAryRun α count
  | (ary, none) => { run with ary := ary }
  | (ary, some ref) => { ary := ary, issued := { ref := ref, ptrP := ptrP, live := true } :: kept }

/-- One operation. -/
def step (run : PtrAryRun α count) : PtrAryEvent α → PtrAryRun α count
  | .insert ptrP => run.answer ptrP run.issued (run.ary.insert ptrP)
  | .insertAtIndex ptrP index =>
    run.answer ptrP run.issued (run.ary.insertAtIndex ptrP index)
  | .reInsert saferef =>
    run.answer (pointerUnder run.issued saferef) (retire run.issued saferef)
      (run.ary.reInsert saferef)
  | .removeEx index magic =>
    { ary := (run.ary.removeEx index magic).1
      issued :=
        if (run.ary.removeEx index magic).2 then
          retire run.issued { index := index, magic := magic }
        else run.issued }

end PtrAryRun

/-- What the array promises: its lists hold the slots, an insertion fails exactly if its
slot is not free, a reference leads to the pointer inserted under it until it is removed
or re-issued, and to null from then on, until the counter came around. -/
structure PtrAryRun.Sound (run : PtrAryRun α count) : Prop where
  defined : run.ary.undefined = false
  lists : ∃ free active, PtrAryLists run.ary free active ∧
    (∀ ptrP, (run.ary.insert ptrP).2 = none ↔ free = []) ∧
    ∀ ptrP (index : Fin count), (run.ary.insertAtIndex ptrP index).2 = none ↔ index ∉ free
  live : ∀ issue ∈ run.issued, issue.live = true →
    run.ary.getPtrEx issue.ref.index issue.ref.magic = issue.ptrP
  stale : ∀ (later : Nat) (issue : Issue α), run.issued[later]? = some issue →
    issue.live = false → later < 2 ^ 32 - 1 →
    run.ary.getPtrEx issue.ref.index issue.ref.magic = none

/-- A slot is not given the magic 0, a free slot is not re-issued through the magic 0,
and indices are inside the array. -/
def Guarded (run : PtrAryRun α count) : PtrAryEvent α → Prop
  | .insert _ => run.ary.links.next .freeQ = .freeQ ∨ run.ary.magic ≠ 0
  | .insertAtIndex _ index => ∃ inside : index < count,
      (run.ary.base ⟨index, inside⟩).magic ≠ 0 ∨ run.ary.magic ≠ 0
  | .reInsert saferef => ∃ inside : saferef.index < count,
      saferef.magic = (run.ary.base ⟨saferef.index, inside⟩).magic →
        saferef.magic ≠ 0 ∧ run.ary.magic ≠ 0
  | .removeEx index _ => index < count

instance (run : PtrAryRun α count) : (event : PtrAryEvent α) → Decidable (Guarded run event)
  | .insert _ => inferInstanceAs (Decidable (_ ∨ _))
  | .insertAtIndex _ _ => exists_prop_decidable _
  | .reInsert _ => exists_prop_decidable _
  | .removeEx _ _ => inferInstanceAs (Decidable (_ < _))

/-! ## Given-up references -/

section Retire

variable {issued : List (Issue α)} {ref : Saferef} {issue : Issue α}

theorem retire_magics : (retire issued ref).map (·.ref.magic) = issued.map (·.ref.magic) := by
  unfold retire
  rw [map_map]
  apply map_congr_left
  intro issue _
  dsimp only [Function.comp_apply]
  split <;> rfl

theorem mem_retire_live :
    issue ∈ retire issued ref ∧ issue.live = true ↔
      issue ∈ issued ∧ issue.live = true ∧ issue.ref ≠ ref := by
  constructor
  · rintro ⟨member, live⟩
    rcases mem_map.mp member with ⟨old, oldMem, same⟩
    by_cases given : old.ref = ref
    · rw [if_pos given] at same
      subst same
      cases live
    · rw [if_neg given] at same
      subst same
      exact ⟨oldMem, live, given⟩
  · rintro ⟨member, live, kept⟩
    refine ⟨mem_map.mpr ⟨issue, member, ?_⟩, live⟩
    exact if_neg kept

/-- At most the newest of the references to a slot is live. -/
def NewestOnly (issued : List (Issue α)) : Prop :=
  issued.Pairwise fun newer older => newer.ref.index = older.ref.index → older.live = false

theorem NewestOnly.retire (newest : NewestOnly issued) : NewestOnly (retire issued ref) := by
  unfold NewestOnly Utils.retire
  rw [pairwise_map]
  apply newest.imp
  intro newer older dead same
  have dead' : older.live = false := by
    apply dead
    split at same
    · split at same <;> exact same
    · split at same <;> exact same
  split
  · rfl
  · exact dead'

end Retire

/-! ## Magics -/

/-- The magic that the array gives to the reference it issues after `number` others. -/
def issueMagic (number : Nat) : Nat :=
  number % (2 ^ 32 - 1) + 1

variable (number : Nat)

theorem issueMagic_ne : issueMagic number ≠ 0 :=
  Nat.succ_ne_zero _

theorem nextPtrMagic_issueMagic : nextPtrMagic (issueMagic number) = issueMagic (number + 1) := by
  unfold nextPtrMagic uint32Succ issueMagic
  split <;> split <;> omega

theorem uint32Succ_issueMagic :
    uint32Succ (issueMagic number) = 0 ∨
      uint32Succ (issueMagic number) = issueMagic (number + 1) := by
  unfold uint32Succ issueMagic
  split <;> omega

theorem issueMagic_inj {one other : Nat} (same : issueMagic one = issueMagic other)
    (before : one ≤ other) (near : other < one + (2 ^ 32 - 1)) : one = other := by
  unfold issueMagic at same
  omega

/-! ## The invariant -/

/-- The slots, and the issued references behind them. -/
structure PtrAryRun.Inv (run : PtrAryRun α count) (free active : List (Fin count)) :
    Prop where
  defined : run.ary.undefined = false
  lists : PtrAryLists run.ary free active
  magic : run.ary.magic = 0 ∨ run.ary.magic = issueMagic run.issued.length
  numbered : run.issued.map (·.ref.magic) =
    (List.range run.issued.length).reverse.map issueMagic
  newest : NewestOnly run.issued
  held : ∀ issue ∈ run.issued, issue.live = true → ∃ inside : issue.ref.index < count,
    run.ary.base ⟨issue.ref.index, inside⟩ =
      { ptrP := issue.ptrP, magic := issue.ref.magic }
  owned : ∀ index, (run.ary.base index).magic ≠ 0 → ∃ issue ∈ run.issued,
    issue.live = true ∧ issue.ref = { index := index, magic := (run.ary.base index).magic }

namespace PtrAryRun.Inv

variable {run : PtrAryRun α count} {free active : List (Fin count)} {issue : Issue α}

section

variable (inv : run.Inv free active)

include inv

theorem issued_magic_ne (member : issue ∈ run.issued) : issue.ref.magic ≠ 0 := by
  have listed : issue.ref.magic ∈ run.issued.map (·.ref.magic) :=
    mem_map_of_mem member
  rw [inv.numbered] at listed
  rcases mem_map.mp listed with ⟨number, -, same⟩
  rw [← same]
  exact issueMagic_ne number

theorem numbered_at {later : Nat} (at_ : run.issued[later]? = some issue) :
    later < run.issued.length ∧
      issue.ref.magic = issueMagic (run.issued.length - 1 - later) := by
  have inside : later < run.issued.length := (List.getElem?_eq_some_iff.mp at_).1
  have magics := congrArg (·[later]?) inv.numbered
  simp only [getElem?_map, at_, Option.map_some] at magics
  rw [getElem?_reverse (by rw [length_range]; exact inside), length_range,
    getElem?_range (by omega), Option.map_some] at magics
  exact ⟨inside, Option.some.inj magics⟩

/-! ### What the invariant gives -/

theorem live (member : issue ∈ run.issued) (live : issue.live = true) :
    run.ary.getPtrEx issue.ref.index issue.ref.magic = issue.ptrP := by
  rcases inv.held issue member live with ⟨inside, node⟩
  unfold PtrAry.getPtrEx
  rw [dif_pos inside, node, if_pos rfl]

/-- A dead reference finds nothing as long as no magic number has come round. -/
theorem stale {later : Nat} (at_ : run.issued[later]? = some issue) (dead : issue.live = false)
    (near : later < 2 ^ 32 - 1) : run.ary.getPtrEx issue.ref.index issue.ref.magic = none := by
  unfold PtrAry.getPtrEx
  split
  case isFalse => rfl
  case isTrue inside =>
  apply if_neg
  intro same
  have used := inv.issued_magic_ne (mem_of_getElem? at_)
  rw [← same] at used
  rcases inv.owned _ used with ⟨owner, ownerMem, ownerLive, ownerRef⟩
  rw [same] at ownerRef
  rcases getElem?_of_mem ownerMem with ⟨place, ownerAt⟩
  have one := inv.numbered_at at_
  have two := inv.numbered_at ownerAt
  rw [ownerRef] at two
  have index : owner.ref.index = issue.ref.index := by rw [ownerRef]
  rcases Nat.lt_trichotomy place later with before | same | after
  · -- a later reference with the same magic is a whole round away
    have numbers := issueMagic_inj (one.2.symm.trans two.2) (by omega) (by omega)
    omega
  · subst same
    rw [at_] at ownerAt
    cases ownerAt
    exact Bool.noConfusion (dead.symm.trans ownerLive)
  -- an older reference to the slot is no longer live
  have newest := pairwise_iff_getElem.mp inv.newest later place one.1 two.1 after
  rw [List.getElem?_eq_some_iff.mp at_ |>.2, List.getElem?_eq_some_iff.mp ownerAt |>.2]
    at newest
  exact Bool.noConfusion ((newest index.symm).symm.trans ownerLive)

end

/-! ### Insertions -/

variable {ary : PtrAry α count}

theorem insert_full (lists : PtrAryLists ary [] active) (ptrP : Option α) :
    ary.insert ptrP = (ary, none) := by
  have first : ary.links.next .freeQ = .freeQ := lists.freeRing.next_anchor
  unfold PtrAry.insert
  rw [first]

theorem insert_first {index : Fin count} {rest : List (Fin count)}
    (lists : PtrAryLists ary (index :: rest) active) (ptrP : Option α) :
    ary.insert ptrP = ary.take index ptrP (ary.links.unlink (.node index)) := by
  have first : ary.links.next .freeQ = .node index := lists.freeRing.next_anchor
  have back : ary.links.prev (.node index) = .freeQ := lists.freeRing.prev_head
  unfold PtrAry.insert
  rw [first]
  dsimp only
  rw [unlink_first back]

/-- A free index is taken with a new magic. -/
theorem taken {left right : List (Fin count)} {index : Fin count}
    (inv : run.Inv (left ++ index :: right) active) (used : run.ary.magic ≠ 0)
    (ptrP : Option α) :
    (run.answer ptrP run.issued
      (run.ary.take index ptrP (run.ary.links.unlink (.node index)))).Inv
        (left ++ right) (index :: active) := by
  have magic := inv.magic.resolve_left used
  have free : (run.ary.base index).magic = 0 :=
    inv.lists.mem_free_iff.mp (mem_append_right _ mem_cons_self)
  have elsewhere : ∀ issue ∈ run.issued, issue.live = true → issue.ref.index ≠ index := by
    intro issue member live same
    rcases inv.held issue member live with ⟨inside, node⟩
    rw [show (⟨issue.ref.index, inside⟩ : Fin count) = index from Fin.ext same] at node
    have zero : issue.ref.magic = 0 := by
      rw [← free, node]
    exact inv.issued_magic_ne member zero
  unfold answer PtrAry.take
  constructor
  case defined => exact inv.defined
  case lists => exact inv.lists.activate { ptrP := ptrP, magic := run.ary.magic } _ used
  case magic =>
    rw [magic, nextPtrMagic_issueMagic]
    exact .inr rfl
  case numbered =>
    rw [map_cons, inv.numbered, length_cons, range_succ, reverse_append,
      reverse_singleton, singleton_append, map_cons, magic]
  case newest =>
    refine pairwise_cons.mpr ⟨?_, inv.newest⟩
    intro older member same
    by_contra alive
    exact elsewhere older member (Bool.of_not_eq_false alive) same.symm
  case held =>
    intro issue member live
    rcases mem_cons.mp member with rfl | member
    · exact ⟨index.2, update_self ..⟩
    rcases inv.held issue member live with ⟨inside, node⟩
    refine ⟨inside, ?_⟩
    have apart : (⟨issue.ref.index, inside⟩ : Fin count) ≠ index :=
      fun same => elsewhere issue member live (congrArg Fin.val same)
    exact (update_of_ne apart _ _).trans node
  case owned =>
    intro other owned
    by_cases same : other = index
    · subst same
      refine ⟨_, mem_cons_self, rfl, ?_⟩
      dsimp only
      rw [update_self]
    · dsimp only at owned ⊢
      rw [update_of_ne same] at owned ⊢
      rcases inv.owned other owned with ⟨issue, member, live, ref⟩
      exact ⟨issue, mem_cons_of_mem _ member, live, ref⟩

theorem insert (inv : run.Inv free active) (ptrP : Option α)
    (guarded : Guarded run (.insert ptrP)) :
    ∃ free active, (run.step (.insert ptrP)).Inv free active := by
  unfold step
  dsimp only
  cases free with
  | nil =>
    rw [insert_full inv.lists]
    exact ⟨[], active, inv⟩
  | cons index rest =>
  rw [insert_first inv.lists]
  have used : run.ary.magic ≠ 0 := by
    rcases guarded with full | used
    · have first : run.ary.links.next .freeQ = .node index :=
        inv.lists.freeRing.next_anchor
      exact absurd (first.symm.trans full) (node_ne_freeQ index)
    · exact used
  exact ⟨_, _, @taken α count run active [] rest index inv used ptrP⟩

theorem insertAtIndex (inv : run.Inv free active) (ptrP : Option α) (index : Nat)
    (guarded : Guarded run (.insertAtIndex ptrP index)) :
    ∃ free active, (run.step (.insertAtIndex ptrP index)).Inv free active := by
  rcases guarded with ⟨inside, guarded⟩
  unfold step PtrAry.insertAtIndex
  dsimp only
  rw [dif_pos inside]
  by_cases taken : (run.ary.base ⟨index, inside⟩).magic = 0
  · rw [if_pos taken]
    rcases append_of_mem (inv.lists.mem_free_iff.mpr taken) with ⟨left, right, rfl⟩
    exact ⟨_, _, inv.taken (guarded.resolve_left fun used => used taken) ptrP⟩
  · rw [if_neg taken]
    exact ⟨free, active, inv⟩

/-! ### Re-issue and removal -/

theorem retire_held {ref : Saferef} {node : PtrAryNode α} (inv : run.Inv free active)
    (inside : ref.index < count)
    (mine : (run.ary.base ⟨ref.index, inside⟩).magic = ref.magic)
    (member : issue ∈ retire run.issued ref ∧ issue.live = true) :
    ∃ inside' : issue.ref.index < count, issue.ref.index ≠ ref.index ∧
      Function.update run.ary.base ⟨ref.index, inside⟩ node ⟨issue.ref.index, inside'⟩ =
        { ptrP := issue.ptrP, magic := issue.ref.magic } := by
  rcases mem_retire_live.mp member with ⟨member, live, other⟩
  rcases inv.held issue member live with ⟨inside', held⟩
  have apart : issue.ref.index ≠ ref.index := by
    intro same
    apply other
    rcases issue with ⟨⟨index, magic⟩, ptrP, alive⟩
    rcases ref with ⟨index', magic'⟩
    subst same
    rw [held] at mine
    dsimp only at mine ⊢
    rw [mine]
  refine ⟨inside', apart, ?_⟩
  rw [update_of_ne (fun same => apart (congrArg Fin.val same))]
  exact held

section

variable (inv : run.Inv free active)

include inv

theorem pointerUnder_eq {ref : Saferef} (member : issue ∈ run.issued) (live : issue.live = true)
    (same : issue.ref = ref) (inside : ref.index < count) :
    pointerUnder run.issued ref = (run.ary.base ⟨ref.index, inside⟩).ptrP := by
  unfold pointerUnder
  cases found : run.issued.find? fun issue => issue.ref = ref && issue.live with
  | none =>
    have missed := find?_eq_none.mp found issue member
    simp [same, live] at missed
  | some other =>
  have matches_ := find?_some found
  rw [Bool.and_eq_true, decide_eq_true_eq] at matches_
  rcases matches_ with ⟨rfl, otherLive⟩
  rcases inv.held other (mem_of_find?_eq_some found) otherLive with ⟨_, node⟩
  rw [node]
  rfl

/-- A re-insertion keeps the array. -/
theorem reInsert (saferef : Saferef) (guarded : Guarded run (.reInsert saferef)) :
    ∃ free active, (run.step (.reInsert saferef)).Inv free active := by
  rcases guarded with ⟨inside, guarded⟩
  unfold step PtrAry.reInsert
  dsimp only
  rw [dif_pos inside]
  by_cases mine : saferef.magic = (run.ary.base ⟨saferef.index, inside⟩).magic
  · rw [if_neg (not_not.mpr mine)]
    rcases guarded mine with ⟨valid, used⟩
    have magic := inv.magic.resolve_left used
    have owned : (run.ary.base ⟨saferef.index, inside⟩).magic ≠ 0 := mine ▸ valid
    rcases inv.owned _ owned with ⟨owner, ownerMem, ownerLive, ownerRef⟩
    have ownerRef' : owner.ref = saferef := by
      rw [ownerRef, ← mine]
    refine ⟨free, active, ?_⟩
    unfold answer
    constructor
    case defined => exact inv.defined
    case lists =>
      exact inv.lists.remark _ _ ((inv.lists.active_iff _).mpr owned) used
    case magic =>
      rw [magic, length_cons]
      have length : (retire run.issued saferef).length = run.issued.length :=
        length_map ..
      rw [length]
      exact uint32Succ_issueMagic _
    case numbered =>
      have length : (retire run.issued saferef).length = run.issued.length :=
        length_map ..
      rw [map_cons, retire_magics, inv.numbered, length_cons, length,
        range_succ, reverse_append, reverse_singleton, singleton_append,
        map_cons, magic]
    case newest =>
      refine pairwise_cons.mpr ⟨?_, inv.newest.retire⟩
      intro older member same
      by_contra alive
      rcases @retire_held _ _ _ _ _ older saferef (run.ary.base ⟨saferef.index, inside⟩) inv
        inside mine.symm ⟨member, Bool.of_not_eq_false alive⟩ with ⟨-, apart, -⟩
      exact apart same.symm
    case held =>
      intro issue member live
      rcases mem_cons.mp member with rfl | member
      · refine ⟨inside, (update_self ..).trans ?_⟩
        rw [inv.pointerUnder_eq ownerMem ownerLive ownerRef' inside]
      · rcases inv.retire_held inside mine.symm ⟨member, live⟩ with ⟨inside', -, held⟩
        exact ⟨inside', held⟩
    case owned =>
      intro other owned
      by_cases same : other = ⟨saferef.index, inside⟩
      · subst same
        refine ⟨_, mem_cons_self, rfl, ?_⟩
        dsimp only
        rw [update_self]
      dsimp only at owned ⊢
      rw [update_of_ne same] at owned ⊢
      rcases inv.owned other owned with ⟨issue, member, live, ref⟩
      have kept : issue.ref ≠ saferef := by
        intro given
        apply same
        apply Fin.ext
        exact congrArg Saferef.index (ref.symm.trans given)
      have retained := mem_retire_live.mpr ⟨member, live, kept⟩
      exact ⟨issue, mem_cons_of_mem _ retained.1, live, ref⟩
  · rw [if_pos mine]
    exact ⟨free, active, inv⟩

/-- A removal keeps the array. -/
theorem removeEx (index magic : Nat) (guarded : Guarded run (.removeEx index magic)) :
    ∃ free active, (run.step (.removeEx index magic)).Inv free active := by
  have inside : index < count := guarded
  unfold step PtrAry.removeEx
  dsimp only
  rw [dif_pos inside]
  by_cases mine : magic = (run.ary.base ⟨index, inside⟩).magic
  · rw [if_neg (not_not.mpr mine)]
    rw [if_pos rfl]
    have lists : ∃ free' active', PtrAryLists
        { run.ary with
          base := update run.ary.base ⟨index, inside⟩ { ptrP := none, magic := 0 }
          links := PtrAry.insertInFreeQ (run.ary.links.unlink (.node ⟨index, inside⟩))
            (.node ⟨index, inside⟩) } free' active' := by
      rcases mem_append.mp (inv.lists.all ⟨index, inside⟩) with inFree | inActive
      · rcases append_of_mem inFree with ⟨left, right, rfl⟩
        exact ⟨_, _, inv.lists.refresh⟩
      · rcases append_of_mem inActive with ⟨left, right, rfl⟩
        exact ⟨_, _, inv.lists.release⟩
    rcases lists with ⟨free', active', lists⟩
    have length : (retire run.issued { index := index, magic := magic }).length =
        run.issued.length := length_map ..
    refine ⟨free', active', ?_⟩
    constructor
    case defined => exact inv.defined
    case lists => exact lists
    case magic =>
      rw [length]
      exact inv.magic
    case numbered =>
      rw [retire_magics, length]
      exact inv.numbered
    case newest => exact inv.newest.retire
    case held =>
      intro issue member live
      rcases @retire_held _ _ _ _ _ issue { index := index, magic := magic }
        { ptrP := none, magic := 0 } inv inside mine.symm ⟨member, live⟩ with
        ⟨inside', -, held⟩
      exact ⟨inside', held⟩
    case owned =>
      intro other owned
      dsimp only at owned ⊢
      by_cases same : other = ⟨index, inside⟩
      · rw [same, update_self] at owned
        exact absurd rfl owned
      rw [update_of_ne same] at owned ⊢
      rcases inv.owned other owned with ⟨issue, member, live, ref⟩
      have kept : issue.ref ≠ { index := index, magic := magic } := by
        intro given
        apply same
        apply Fin.ext
        exact congrArg Saferef.index (ref.symm.trans given)
      have retained := mem_retire_live.mpr ⟨member, live, kept⟩
      exact ⟨issue, retained.1, live, ref⟩
  · rw [if_pos mine]
    exact ⟨free, active, inv⟩

/-! ### Every run -/

/-- A run that is kept is sound. -/
theorem sound : run.Sound where
  defined := inv.defined
  lists := by
    refine ⟨free, active, inv.lists, ?_, ?_⟩
    · intro ptrP
      cases free with
      | nil =>
        rw [insert_full inv.lists]
        simp
      | cons index rest =>
        rw [insert_first inv.lists]
        simp [PtrAry.take]
    intro ptrP index
    rw [inv.lists.mem_free_iff]
    unfold PtrAry.insertAtIndex
    rw [dif_pos index.2]
    split
    case isTrue free => simp [PtrAry.take, free]
    case isFalse used => simp [used]
  live := fun _ member live => inv.live member live
  stale := fun _ _ at_ dead near => inv.stale at_ dead near

end

end PtrAryRun.Inv

/-- The places around the free list of a new array. -/
def initPlace (count : Nat) : Nat → PtrPlace count
  | 0 => .freeQ
  | number + 1 => if inside : number < count then .node ⟨number, inside⟩ else .freeQ

theorem initPlaces (count : Nat) :
    PtrPlace.freeQ :: ((List.finRange count).map PtrPlace.node ++ [.freeQ]) =
      (List.range (count + 2)).map (initPlace count) := by
  apply ext_getElem
  · simp
  intro number one other
  rw [getElem_map, getElem_range]
  cases number with
  | zero => rfl
  | succ number =>
  rw [getElem_cons_succ, initPlace]
  by_cases inside : number < count
  · rw [dif_pos inside, getElem_append_left (by simpa using inside)]
    simp
  · rw [dif_neg inside, getElem_append_right (by simpa using inside)]
    simp

theorem initLinks_linked (positive : 0 < count) {number : Nat} (before : number < count + 1) :
    (PtrAry.initLinks count positive).Linked (initPlace count number)
      (initPlace count (number + 1)) := by
  cases number with
  | zero =>
    rw [initPlace, initPlace, dif_pos positive]
    constructor <;> rfl
  | succ number =>
  have inside : number < count := Nat.lt_of_succ_lt_succ before
  rw [initPlace, initPlace, dif_pos inside]
  constructor
  · rfl
  by_cases last : number + 1 < count
  · rw [dif_pos last]
    rfl
  · have number_eq : number = count - 1 := by omega
    rw [dif_neg last]
    exact congrArg PtrPlace.node (Fin.ext number_eq.symm)

/-- A new array has all its indices free. -/
theorem PtrAryRun.start_inv (α : Type*) (count : Nat) (positive : 0 < count) :
    (PtrAryRun.start α count positive).Inv (List.finRange count) [] where
  defined := rfl
  lists := by
    constructor
    case freeRing =>
      constructor
      case linked =>
        rw [initPlaces, isChain_map, isChain_range]
        exact fun number before => initLinks_linked positive before
      case nodup =>
        refine nodup_cons.mpr ⟨by simp, ?_⟩
        exact (nodup_finRange count).map node_injective
    case activeRing =>
      rw [map_nil, Ring.nil_iff]
      constructor <;> rfl
    case once =>
      rw [append_nil]
      exact nodup_finRange count
    case all => simp
    case active_iff => simp [start, PtrAry.init]
  magic := .inr rfl
  numbered := rfl
  newest := List.Pairwise.nil
  held := by simp [start]
  owned := by simp [start, PtrAry.init]

theorem PtrAryRun.step_inv {run : PtrAryRun α count} {event : PtrAryEvent α}
    (inv : ∃ free active, run.Inv free active) (guarded : Guarded run event) :
    ∃ free active, (run.step event).Inv free active := by
  rcases inv with ⟨free, active, inv⟩
  cases event with
  | insert ptrP => exact inv.insert ptrP guarded
  | insertAtIndex ptrP index => exact inv.insertAtIndex ptrP index guarded
  | reInsert saferef => exact inv.reInsert saferef guarded
  | removeEx index magic => exact inv.removeEx index magic guarded

/-- The array keeps its promise in every state that guarded operations reach. -/
theorem sound_of_guarded (positive : 0 < count) (events : List (PtrAryEvent α))
    (guarded : Along PtrAryRun.step Guarded (PtrAryRun.start α count positive) events) :
    (events.foldl PtrAryRun.step (PtrAryRun.start α count positive)).Sound := by
  have preserved : ∀ (run : PtrAryRun α count) event,
      (∃ free active, run.Inv free active) → Guarded run event →
        ∃ free active, (run.step event).Inv free active :=
    fun _ _ inv ok => PtrAryRun.step_inv inv ok
  rcases Along.invariant preserved ⟨_, _, PtrAryRun.start_inv α count positive⟩ guarded with
    ⟨free, active, inv⟩
  exact inv.sound

/-- Insertions by place and by index, a re-issue, removals through a live and through a
stale reference, and a failing insertion. -/
def mixedOperations : List (PtrAryEvent Nat) :=
  [.insert (some 70), .insertAtIndex (some 71) 1, .insert (some 72),
    .reInsert { index := 0, magic := 1 }, .removeEx 0 1, .removeEx 0 3, .insert (some 73)]

theorem sound_mixedOperations :
    (mixedOperations.foldl PtrAryRun.step (PtrAryRun.start Nat 2 Nat.two_pos)).Sound :=
  sound_of_guarded Nat.two_pos mixedOperations (by decide)

/-- A re-issue through the magic 0 gives a magic to a slot that stays on the free list. -/
theorem not_sound_reInsert_zero :
    ¬ ∀ (count : Nat) (positive : 0 < count) (events : List (PtrAryEvent Nat)),
      (events.foldl PtrAryRun.step (PtrAryRun.start Nat count positive)).Sound := by
  intro sound
  obtain ⟨free, active, lists, -, -⟩ :=
    (sound 1 Nat.one_pos [.reInsert { index := 0, magic := 0 }]).lists
  have member : (0 : Fin 1) ∈ active := (lists.active_iff 0).mpr (by decide)
  have empty : active = [] := by
    have none := lists.activeRing.next_anchor_eq_iff.mp rfl
    exact map_eq_nil_iff.mp none
  rw [empty] at member
  cases member

end OpenFlowController.Utils
