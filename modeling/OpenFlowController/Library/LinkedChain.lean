/-
Module: Library.LinkedChain
Purpose: Pointer chains in a memory of list cells.  `Seg` says that following
  one link field from a pointer visits exactly a given list of cells; `Dll` says
  that an anchor cell and its list are doubly linked.  The update lemmas cover
  the writes with which C code takes a cell out of such a list or puts one in.
Trusted boundary: none
-/
import Mathlib

namespace OpenFlowController.Library

open List Function

variable {α : Type*} (cells : List α)

private theorem getLastD_mem_cons (anchor : α) : cells.getLastD anchor ∈ anchor :: cells := by
  induction cells generalizing anchor with
  | nil => simp
  | cons cell rest ih =>
    rw [getLastD_cons]
    exact mem_cons_of_mem _ (ih cell)

/-! ## Segments of one link field -/

/-- Following `next` from the pointer `start` visits the cells of the list in
order and ends at the pointer `stop`. -/
def Seg (next : α → Option α) : Option α → List α → Option α → Prop
  | start, [], stop => start = stop
  | start, cell :: rest, stop => start = some cell ∧ Seg next (next cell) rest stop

namespace Seg

variable {next next' : α → Option α} {start stop : Option α}

@[simp]
theorem nil_iff : Seg next start [] stop ↔ start = stop :=
  Iff.rfl

variable {cell : α}

@[simp]
theorem cons_iff {rest : List α} :
    Seg next start (cell :: rest) stop ↔
      start = some cell ∧ Seg next (next cell) rest stop :=
  Iff.rfl

theorem congr {cells : List α} (agree : ∀ cell ∈ cells, next' cell = next cell)
    (seg : Seg next start cells stop) : Seg next' start cells stop := by
  induction cells generalizing start with
  | nil => exact seg
  | cons cell rest ih =>
  rcases seg with ⟨startEq, restSeg⟩
  refine ⟨startEq, ?_⟩
  rw [agree cell (by simp)]
  exact ih (fun other member => agree other (by simp [member])) restSeg

variable {left right : List α}

theorem unique (leftSeg : Seg next start left none) (rightSeg : Seg next start right none) :
    left = right := by
  induction left generalizing start right with
  | nil =>
    cases right with
    | nil => rfl
    | cons cell rest =>
      subst leftSeg
      simp at rightSeg
  | cons cell rest ih =>
  rcases leftSeg with ⟨rfl, leftRest⟩
  cases right with
  | nil => simp at rightSeg
  | cons other rest' =>
  rcases rightSeg with ⟨sameCell, rightRest⟩
  obtain rfl := Option.some.inj sameCell
  rw [ih leftRest rightRest]

theorem append_iff :
    Seg next start (left ++ right) stop ↔
      ∃ middle, Seg next start left middle ∧ Seg next middle right stop := by
  induction left generalizing start with
  | nil => simp
  | cons cell rest ih =>
  simp only [cons_append, cons_iff, ih]
  constructor
  · rintro ⟨startEq, middle, restSeg, rightSeg⟩
    exact ⟨middle, ⟨startEq, restSeg⟩, rightSeg⟩
  · rintro ⟨middle, ⟨startEq, restSeg⟩, rightSeg⟩
    exact ⟨startEq, middle, restSeg, rightSeg⟩

theorem start_eq {cells : List α} (seg : Seg next start cells stop) :
    start = cells.head?.or stop := by
  cases cells with
  | nil => simpa using seg
  | cons cell rest => simpa using seg.1

variable {anchor : α}

theorem next_getLastD (seg : Seg next (next anchor) (left ++ right) stop) :
    Seg next (next (left.getLastD anchor)) right stop := by
  induction left generalizing anchor with
  | nil => exact seg
  | cons cell rest ih =>
  rcases seg with ⟨-, restSeg⟩
  rw [getLastD_cons]
  exact ih restSeg

variable [DecidableEq α] {stop' target : Option α}

theorem splice {tail : List α} (nodup : (anchor :: left).Nodup)
    (seg : Seg next (next anchor) (left ++ right) stop)
    (rest : Seg (update next (left.getLastD anchor) target) target tail stop') :
    Seg (update next (left.getLastD anchor) target)
      (update next (left.getLastD anchor) target anchor)
      (left ++ tail) stop' := by
  induction left generalizing anchor with
  | nil =>
    rw [getLastD_nil] at rest ⊢
    rw [update_self]
    exact rest
  | cons cell more ih =>
  rcases seg with ⟨anchorEq, moreSeg⟩
  have anchorNotLast : anchor ≠ more.getLastD cell := by
    intro same
    have lastMem : more.getLastD cell ∈ cell :: more :=
      getLastD_mem_cons more cell
    exact (nodup_cons.mp nodup).1 (same ▸ lastMem)
  rw [getLastD_cons] at rest ⊢
  refine ⟨?_, ih nodup.of_cons moreSeg rest⟩
  rw [update_of_ne anchorNotLast]
  exact anchorEq

theorem erase (nodup : (anchor :: (left ++ cell :: right)).Nodup)
    (seg : Seg next (next anchor) (left ++ cell :: right) stop) (rest : Seg next target right stop') :
    Seg (update next (left.getLastD anchor) target)
      (update next (left.getLastD anchor) target anchor)
      (left ++ right) stop' := by
  have split : ((anchor :: left) ++ cell :: right).Nodup := nodup
  refine splice (nodup_append.mp split).1 seg (rest.congr fun other member => ?_)
  have apart : other ≠ left.getLastD anchor := by
    rintro rfl
    exact (nodup_append.mp split).2.2 _ (getLastD_mem_cons left anchor) _
      (mem_cons_of_mem _ member) rfl
  exact update_of_ne apart _ _

/-- A cell inserted by two writes is linked in its place. -/
theorem insert (nodup : (anchor :: (left ++ right)).Nodup)
    (fresh : cell ∉ anchor :: (left ++ right)) (seg : Seg next (next anchor) (left ++ right) stop)
    (rest : Seg next target right stop') :
    Seg (update (update next cell target) (left.getLastD anchor) (some cell))
      (update (update next cell target) (left.getLastD anchor) (some cell) anchor)
      (left ++ cell :: right) stop' := by
  have split : ((anchor :: left) ++ right).Nodup := nodup
  have lastMem := getLastD_mem_cons left anchor
  have cellNotLast : cell ≠ left.getLastD anchor := by
    rintro rfl
    exact fresh (mem_append_left right lastMem)
  have anchorKept : update next cell target anchor = next anchor :=
    update_of_ne (fun same => fresh (by simp [same])) _ _
  have written : Seg (update next cell target)
      (update next cell target anchor) (left ++ right) stop := by
    rw [anchorKept]
    refine seg.congr fun other member => update_of_ne ?_ _ _
    rintro rfl
    exact fresh (mem_cons_of_mem _ member)
  refine splice (nodup_append.mp split).1 written ⟨rfl, ?_⟩
  rw [update_of_ne cellNotLast, update_self]
  refine rest.congr fun other member => ?_
  have notLast : other ≠ left.getLastD anchor := by
    rintro rfl
    exact (nodup_append.mp split).2.2 _ lastMem _ member rfl
  have notCell : other ≠ cell := by
    rintro rfl
    exact fresh (by simp [member])
  rw [update_of_ne notLast, update_of_ne notCell]

end Seg

/-! ## Doubly linked lists with an anchor cell -/

/-- A cell with its two link fields; null is `none`. -/
structure DllNode (α : Type*) where
  prev : Option α
  next : Option α

/-- A memory of list cells. -/
abbrev DllMem (α : Type*) := α → DllNode α

namespace DllMem

/-- The forward link field of every cell. -/
def nextOf (mem : DllMem α) : α → Option α := fun cell => (mem cell).next

/-- The backward link field of every cell. -/
def prevOf (mem : DllMem α) : α → Option α := fun cell => (mem cell).prev

variable [DecidableEq α]

/-- The write `cell->next = target`. -/
def setNext (mem : DllMem α) (cell : α) (target : Option α) : DllMem α :=
  Function.update mem cell { mem cell with next := target }

/-- The write `cell->prev = target`. -/
def setPrev (mem : DllMem α) (cell : α) (target : Option α) : DllMem α :=
  Function.update mem cell { mem cell with prev := target }

variable (mem : DllMem α)

@[simp]
theorem nextOf_setNext (cell : α) (target : Option α) :
    (mem.setNext cell target).nextOf = update mem.nextOf cell target := by
  funext other
  by_cases same : other = cell
  · subst other; simp [nextOf, setNext]
  · simp [nextOf, setNext, same]

@[simp]
theorem prevOf_setNext (cell : α) (target : Option α) :
    (mem.setNext cell target).prevOf = mem.prevOf := by
  funext other
  by_cases same : other = cell
  · subst other; simp [prevOf, setNext]
  · simp [prevOf, setNext, same]

@[simp]
theorem nextOf_setPrev (cell : α) (target : Option α) :
    (mem.setPrev cell target).nextOf = mem.nextOf := by
  funext other
  by_cases same : other = cell
  · subst other; simp [nextOf, setPrev]
  · simp [nextOf, setPrev, same]

@[simp]
theorem prevOf_setPrev (cell : α) (target : Option α) :
    (mem.setPrev cell target).prevOf = update mem.prevOf cell target := by
  funext other
  by_cases same : other = cell
  · subst other; simp [prevOf, setPrev]
  · simp [prevOf, setPrev, same]

/-- The two writes with which C code takes a cell out between `before` and
`after`. -/
def linkOut (mem : DllMem α) (before after : α) (nextP prevP : Option α) : DllMem α :=
  (mem.setNext before nextP).setPrev after prevP

/-- The four writes with which C code puts `cell` in between `before` and
`after`. -/
def linkIn (mem : DllMem α) (cell before after : α) (nextP prevP : Option α) :
    DllMem α :=
  (((mem.setNext cell nextP).setPrev cell prevP).setNext before (some cell)).setPrev
    after (some cell)

theorem setNext_of_ne {cell other : α} (target : Option α) (apart : other ≠ cell) :
    mem.setNext cell target other = mem other :=
  update_of_ne apart _ _

theorem setPrev_of_ne {cell other : α} (target : Option α) (apart : other ≠ cell) :
    mem.setPrev cell target other = mem other :=
  update_of_ne apart _ _

theorem linkOut_of_ne {before after other : α} (nextP prevP : Option α) (notBefore : other ≠ before)
    (notAfter : other ≠ after) : mem.linkOut before after nextP prevP other = mem other := by
  rw [linkOut, setPrev_of_ne _ _ notAfter, setNext_of_ne _ _ notBefore]

theorem linkIn_of_ne {cell before after other : α} (nextP prevP : Option α) (notCell : other ≠ cell)
    (notBefore : other ≠ before) (notAfter : other ≠ after) :
    mem.linkIn cell before after nextP prevP other = mem other := by
  rw [linkIn, setPrev_of_ne _ _ notAfter, setNext_of_ne _ _ notBefore,
    setPrev_of_ne _ _ notCell, setNext_of_ne _ _ notCell]

end DllMem

/-- `anchor` heads a doubly linked list of exactly `cells`: the forward links
end in null and the backward links end at the pointer `back`. -/
structure Dll (mem : DllMem α) (anchor : α) (back : Option α) (cells : List α) :
    Prop where
  forward : Seg mem.nextOf (mem.nextOf anchor) cells none
  backward : Seg mem.prevOf (mem.prevOf anchor) cells.reverse back
  nodup : (anchor :: cells).Nodup

namespace Dll

variable {mem mem' : DllMem α} {anchor : α} {back back' : Option α}
  {cells left right : List α} {cell : α}

theorem next_anchor (dll : Dll mem anchor back cells) : mem.nextOf anchor = cells.head? := by
  simpa using dll.forward.start_eq

theorem prev_anchor (dll : Dll mem anchor back cells) :
    mem.prevOf anchor = cells.getLast?.or back := by
  simpa using dll.backward.start_eq

theorem next_cell (dll : Dll mem anchor back (left ++ cell :: right)) :
    mem.nextOf cell = right.head? := by
  obtain ⟨middle, -, cellSeg⟩ := Seg.append_iff.mp dll.forward
  simpa using cellSeg.2.start_eq

theorem prev_cell (dll : Dll mem anchor back (left ++ cell :: right)) :
    mem.prevOf cell = left.getLast?.or back := by
  have backward := dll.backward
  rw [reverse_append, reverse_cons, append_assoc] at backward
  obtain ⟨middle, -, cellSeg⟩ := Seg.append_iff.mp backward
  simpa using cellSeg.2.start_eq

theorem unique {cells' : List α} (dll : Dll mem anchor back cells)
    (dll' : Dll mem anchor back' cells') : cells = cells' :=
  dll.forward.unique dll'.forward

theorem frame (agree : ∀ other ∈ anchor :: cells, mem' other = mem other)
    (dll : Dll mem anchor back cells) : Dll mem' anchor back cells where
  forward := by
    have anchorEq : mem'.nextOf anchor = mem.nextOf anchor := by
      simp [DllMem.nextOf, agree anchor (by simp)]
    rw [anchorEq]
    exact dll.forward.congr fun other member => by
      simp [DllMem.nextOf, agree other (by simp [member])]
  backward := by
    have anchorEq : mem'.prevOf anchor = mem.prevOf anchor := by
      simp [DllMem.prevOf, agree anchor (by simp)]
    rw [anchorEq]
    exact dll.backward.congr fun other member => by
      have member : other ∈ cells := by simpa using member
      simp [DllMem.prevOf, agree other (by simp [member])]
  nodup := dll.nodup

private theorem reverse_nodup {left right : List α} (nodup : (anchor :: (left ++ right)).Nodup) :
    (anchor :: (right.reverse ++ left.reverse)).Nodup := by
  have perm : (anchor :: (right.reverse ++ left.reverse)).Perm (anchor :: (left ++ right)) := by
    rw [← reverse_append]
    exact (reverse_perm _).cons anchor
  exact perm.nodup_iff.mpr nodup

variable {target : Option α}

private theorem backward_rest (dll : Dll mem anchor back (left ++ right))
    (targetEq : target = left.getLast?.or back') :
    Seg mem.prevOf target left.reverse (if left.isEmpty then back' else back) := by
  cases left using List.reverseRecOn with
  | nil => simpa using targetEq
  | append_singleton front last =>
  have backward := dll.backward
  rw [reverse_append] at backward
  obtain ⟨middle, -, leftSeg⟩ := Seg.append_iff.mp backward
  have startEq : middle = some last := by
    simpa using leftSeg.start_eq
  subst startEq
  simpa [targetEq] using leftSeg

theorem before_mem (left right : List α) (anchor : α) :
    left.getLastD anchor ∈ anchor :: (left ++ right) :=
  mem_append_left right (getLastD_mem_cons left anchor)

theorem after_mem (left right : List α) (anchor : α) :
    right.headD anchor ∈ anchor :: (left ++ right) := by
  cases right <;> simp

variable [DecidableEq α]

theorem unlink (back' : Option α) (dll : Dll mem anchor back (left ++ cell :: right))
    (targetEq : target = left.getLast?.or back') :
    Dll (mem.linkOut (left.getLastD anchor) (right.headD anchor) (mem.nextOf cell) target)
      anchor (if left.isEmpty then back' else back) (left ++ right) where
  forward := by
    obtain ⟨middle, -, cellSeg⟩ := Seg.append_iff.mp dll.forward
    simpa [DllMem.linkOut] using Seg.erase dll.nodup dll.forward cellSeg.2
  backward := by
    have nodup := reverse_nodup dll.nodup
    have backward := dll.backward
    rw [reverse_append] at backward
    rw [reverse_cons, append_assoc, singleton_append] at nodup backward
    have erased := Seg.erase nodup backward (dll.backward_rest targetEq)
    simpa [DllMem.linkOut] using erased
  nodup := by
    refine List.Nodup.sublist ?_ dll.nodup
    exact ((sublist_cons_self cell right).append_left left).cons_cons anchor

theorem insert (back' : Option α) (dll : Dll mem anchor back (left ++ right))
    (fresh : cell ∉ anchor :: (left ++ right)) (targetEq : target = left.getLast?.or back') :
    Dll (mem.linkIn cell (left.getLastD anchor) (right.headD anchor) right.head? target)
      anchor (if left.isEmpty then back' else back) (left ++ cell :: right) where
  forward := by
    obtain ⟨middle, -, rightSeg⟩ := Seg.append_iff.mp dll.forward
    have middleEq : middle = right.head? := by simpa using rightSeg.start_eq
    subst middleEq
    simpa [DllMem.linkIn] using Seg.insert dll.nodup fresh dll.forward rightSeg
  backward := by
    have nodup := reverse_nodup dll.nodup
    have backward := dll.backward
    rw [reverse_append] at backward
    have freshReverse : cell ∉ anchor :: (right.reverse ++ left.reverse) := by
      simp only [mem_cons, mem_append, mem_reverse] at fresh ⊢
      tauto
    have inserted :=
      Seg.insert nodup freshReverse backward (dll.backward_rest targetEq)
    simpa [DllMem.linkIn] using inserted
  nodup := by
    have perm : (anchor :: (left ++ cell :: right)).Perm (cell :: anchor :: (left ++ right)) :=
      (perm_middle.cons anchor).trans (List.Perm.swap cell anchor _)
    exact perm.nodup_iff.mpr (nodup_cons.mpr ⟨fresh, dll.nodup⟩)

end Dll

end OpenFlowController.Library
