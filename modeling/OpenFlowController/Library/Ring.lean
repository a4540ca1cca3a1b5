/-
Module: Library.Ring
Purpose: Circular doubly linked lists around an anchor cell, as C code keeps them with
  a head node: the four link writes that take a cell out and put one in behind the
  anchor, and what they make of the cells of a ring.
Trusted boundary: none
-/
import Mathlib

namespace OpenFlowController.Library

open List Function

variable {β : Type*}

/-- The two link fields of every cell. -/
structure RingLinks (β : Type*) where
  next : β → β
  prev : β → β

namespace RingLinks

/-- The second cell follows the first, in both directions. -/
def Linked (links : RingLinks β) (before after : β) : Prop :=
  links.next before = after ∧ links.prev after = before

variable [DecidableEq β]

/-- The write `cell->next = target`. -/
@[simps]
def setNext (links : RingLinks β) (cell target : β) : RingLinks β :=
  { links with next := Function.update links.next cell target }

/-- The write `cell->prev = target`. -/
@[simps]
def setPrev (links : RingLinks β) (cell target : β) : RingLinks β :=
  { links with prev := Function.update links.prev cell target }

/-- The two writes that take a cell out between its neighbours. -/
def unlink (links : RingLinks β) (cell : β) : RingLinks β :=
  let links := links.setNext (links.prev cell) (links.next cell)
  links.setPrev (links.next cell) (links.prev cell)

/-- What the four writes that put a cell in behind the anchor come to. -/
@[simps]
def pushed (links : RingLinks β) (anchor cell : β) : RingLinks β where
  next := Function.update (Function.update links.next cell (links.next anchor)) anchor cell
  prev := Function.update (Function.update links.prev cell anchor) (links.next anchor) cell

end RingLinks

open RingLinks

/-! ## Chains of cells -/

section Chains

variable [DecidableEq β] {links : RingLinks β} {cells front back : List β}
  {cell before after target : β}

theorem chain_setNext (chain : cells.IsChain links.Linked) (off : cell ∉ cells.dropLast) :
    cells.IsChain (links.setNext cell target).Linked := by
  induction cells with
  | nil => exact List.IsChain.nil
  | cons first rest ih =>
  cases rest with
  | nil => exact List.IsChain.singleton first
  | cons second more =>
  rw [isChain_cons_cons] at chain ⊢
  rw [dropLast_cons_cons, mem_cons, not_or] at off
  constructor
  · constructor
    · rw [setNext_next, update_of_ne (Ne.symm off.1)]
      exact chain.1.1
    · exact chain.1.2
  · exact ih chain.2 off.2

theorem chain_setPrev (chain : cells.IsChain links.Linked) (off : cell ∉ cells.tail) :
    cells.IsChain (links.setPrev cell target).Linked := by
  induction cells with
  | nil => exact List.IsChain.nil
  | cons first rest ih =>
  cases rest with
  | nil => exact List.IsChain.singleton first
  | cons second more =>
  rw [isChain_cons_cons] at chain ⊢
  rw [tail_cons, mem_cons, not_or] at off
  constructor
  · constructor
    · exact chain.1.1
    · rw [setPrev_prev, update_of_ne (Ne.symm off.1)]
      exact chain.1.2
  · exact ih chain.2 off.2

/-- Unlinking a cell joins its neighbours. -/
theorem chain_unlink (chain : (front ++ before :: cell :: after :: back).IsChain links.Linked)
    (sources : (front ++ before :: cell :: after :: back).dropLast.Nodup)
    (targets : (front ++ before :: cell :: after :: back).tail.Nodup) :
    (front ++ before :: after :: back).IsChain (links.unlink cell).Linked := by
  have split := isChain_append_cons_cons.mp chain
  have joined := isChain_cons_cons.mp split.2.2
  have unlinkEq : links.unlink cell = (links.setNext before after).setPrev after before := by
    have nextEq : links.next cell = after := joined.1.1
    have prevEq : links.prev cell = before := split.2.1.2
    unfold unlink
    dsimp only
    rw [prevEq, nextEq, setNext_prev, prevEq]
    congr 1
    rw [setNext_next]
    by_cases same : cell = before
    · rw [same, update_self]
    · rw [update_of_ne same, nextEq]
  have beforeFront : before ∉ front := by
    intro member
    rw [dropLast_append_of_ne_nil (cons_ne_nil _ _)] at sources
    exact (nodup_append.mp sources).2.2 before member before (by simp [List.dropLast]) rfl
  have beforeBack : before ∉ (after :: back).dropLast := by
    intro member
    rw [dropLast_append_of_ne_nil (cons_ne_nil _ _)] at sources
    have parts := nodup_append.mp sources
    rw [dropLast_cons_cons, dropLast_cons_cons, nodup_cons] at parts
    exact parts.2.1.1 (mem_cons_of_mem _ member)
  have afterFront : after ∉ (front ++ [before]).tail := by
    cases front with
    | nil => simp
    | cons first rest =>
    intro member
    rw [cons_append, tail_cons] at member targets
    have regrouped : rest ++ before :: cell :: after :: back =
        (rest ++ [before]) ++ (cell :: after :: back) := by simp
    rw [regrouped] at targets
    exact (nodup_append.mp targets).2.2 after member after (by simp) rfl
  have afterBack : after ∉ back := by
    have suffix : (after :: back) <:+ (front ++ before :: cell :: after :: back).tail := by
      cases front with
      | nil => exact ⟨[cell], rfl⟩
      | cons first rest => exact ⟨rest ++ [before, cell], by simp⟩
    exact (nodup_cons.mp (targets.sublist suffix.sublist)).1
  rw [unlinkEq, isChain_append_cons_cons]
  refine ⟨?_, ⟨?_, ?_⟩, ?_⟩
  · refine chain_setPrev (chain_setNext split.1 ?_) afterFront
    rwa [dropLast_concat]
  · exact update_self ..
  · exact update_self ..
  · exact chain_setPrev (chain_setNext joined.2 beforeBack) afterBack

end Chains

/-! ## Rings -/

/-- Following the links around from the anchor visits exactly the cells. -/
structure Ring (links : RingLinks β) (anchor : β) (cells : List β) : Prop where
  linked : (anchor :: (cells ++ [anchor])).IsChain links.Linked
  nodup : (anchor :: cells).Nodup

namespace Ring

variable {links links' : RingLinks β} {anchor cell : β} {cells left right : List β}

theorem next_anchor (ring : Ring links anchor cells) : links.next anchor = cells.headD anchor := by
  have linked := ring.linked
  cases cells with
  | nil => exact (isChain_cons_cons.mp linked).1.1
  | cons first rest => exact (isChain_cons_cons.mp linked).1.1

theorem next_anchor_eq_iff (ring : Ring links anchor cells) :
    links.next anchor = anchor ↔ cells = [] := by
  rw [ring.next_anchor]
  cases cells with
  | nil => simp
  | cons first rest =>
  have parts := nodup_cons.mp ring.nodup
  simp only [headD_cons, cons_ne_nil, iff_false]
  rintro rfl
  exact parts.1 mem_cons_self

theorem prev_head {first : β} {rest : List β} (ring : Ring links anchor (first :: rest)) :
    links.prev first = anchor :=
  (isChain_cons_cons.mp ring.linked).1.2

theorem nil_iff (links : RingLinks β) (anchor : β) :
    Ring links anchor [] ↔ links.Linked anchor anchor := by
  constructor
  · exact fun ring => (isChain_cons_cons.mp ring.linked).1
  · intro linked
    constructor
    · exact isChain_cons_cons.mpr ⟨linked, List.IsChain.singleton _⟩
    · exact nodup_singleton anchor

theorem frame (ring : Ring links anchor cells)
    (next : ∀ other ∈ anchor :: cells, links'.next other = links.next other)
    (prev : ∀ other ∈ anchor :: cells, links'.prev other = links.prev other) :
    Ring links' anchor cells where
  linked := by
    have members : ∀ other ∈ anchor :: (cells ++ [anchor]), other ∈ anchor :: cells := by
      intro other member
      rw [← cons_append, mem_append, mem_singleton] at member
      rcases member with member | rfl
      · exact member
      · exact mem_cons_self
    refine (List.IsChain.iff_of_mem_imp ?_).mp ring.linked
    intro before after beforeMem afterMem
    unfold Linked
    rw [next before (members before beforeMem), prev after (members after afterMem)]
  nodup := ring.nodup

private theorem sources (nodup : (anchor :: cells).Nodup) :
    (anchor :: (cells ++ [anchor])).dropLast.Nodup := by
  rw [← cons_append, dropLast_concat]
  exact nodup

private theorem targets (nodup : (anchor :: cells).Nodup) :
    (anchor :: (cells ++ [anchor])).tail.Nodup :=
  (perm_append_singleton anchor cells).nodup_iff.mpr nodup

private theorem neighbours (left right : List β) (anchor : β) :
    ∃ front before after back, anchor :: left = front ++ [before] ∧
      right ++ [anchor] = after :: back := by
  have last := (dropLast_append_getLast (cons_ne_nil anchor left)).symm
  cases right with
  | nil => exact ⟨_, _, _, _, last, rfl⟩
  | cons first rest => exact ⟨_, _, _, _, last, rfl⟩

theorem next_mem (ring : Ring links anchor cells) (member : cell ∈ anchor :: cells) :
    links.next cell ∈ anchor :: cells := by
  have linked := ring.linked
  obtain ⟨left, right, split⟩ := append_of_mem member
  rw [← cons_append, split] at linked
  have shape : left ++ cell :: right ++ [anchor] = left ++ cell :: (right ++ [anchor]) := by
    simp
  rw [shape] at linked
  have after : ∃ next rest, right ++ [anchor] = next :: rest ∧ next ∈ anchor :: cells := by
    rw [split]
    cases right with
    | nil =>
      refine ⟨anchor, [], rfl, ?_⟩
      rw [← split]
      exact mem_cons_self
    | cons next rest => exact ⟨next, rest ++ [anchor], rfl, by simp⟩
  obtain ⟨next, rest, restEq, nextMem⟩ := after
  rw [restEq, isChain_append_cons_cons] at linked
  rw [linked.2.1.1]
  exact nextMem

/-- The previous cell is a cell of the ring. -/
theorem prev_mem (ring : Ring links anchor cells) (member : cell ∈ anchor :: cells) :
    links.prev cell ∈ anchor :: cells := by
  have linked := ring.linked
  have again : cell ∈ cells ++ [anchor] := by
    rw [mem_append, mem_singleton, or_comm]
    exact mem_cons.mp member
  obtain ⟨left, right, split⟩ := append_of_mem again
  rw [split] at linked
  have before : ∃ front prev, anchor :: left = front ++ [prev] ∧ prev ∈ anchor :: cells := by
    refine ⟨_, _, (dropLast_append_getLast (cons_ne_nil anchor left)).symm, ?_⟩
    have inside := getLast_mem (cons_ne_nil anchor left)
    rcases mem_cons.mp inside with same | member
    · rw [same]
      exact mem_cons_self
    have present : (anchor :: left).getLast (cons_ne_nil anchor left) ∈ cells ++ [anchor] := by
      rw [split]
      exact mem_append_left _ member
    rw [mem_append, mem_singleton, or_comm] at present
    exact mem_cons.mpr present
  obtain ⟨front, prev, frontEq, prevMem⟩ := before
  rw [← cons_append, frontEq, append_assoc, singleton_append, isChain_append_cons_cons] at linked
  rw [linked.2.1.2]
  exact prevMem

variable [DecidableEq β]

/-- A fresh cell is pushed behind the anchor. -/
theorem pushed (ring : Ring links anchor cells) (fresh : cell ∉ anchor :: cells) :
    Ring (links.pushed anchor cell) anchor (cell :: cells) where
  linked := by
    have notAnchor : cell ≠ anchor := fun same => fresh (same ▸ mem_cons_self)
    have notFirst : cell ≠ links.next anchor :=
      fun same => fresh (same ▸ ring.next_mem mem_cons_self)
    have nextCell : (links.pushed anchor cell).next cell = links.next anchor := by
      rw [pushed_next, update_of_ne notAnchor, update_self]
    have prevCell : (links.pushed anchor cell).prev cell = anchor := by
      rw [pushed_prev, update_of_ne notFirst, update_self]
    have nextAnchor : (links.pushed anchor cell).next anchor = cell := by
      rw [pushed_next, update_self]
    have prevFirst : (links.pushed anchor cell).prev (links.next anchor) = cell := by
      rw [pushed_prev, update_self]
    have next : ∀ other ∈ cells, (links.pushed anchor cell).next other = links.next other := by
      intro other member
      have apart : other ≠ anchor := by
        rintro rfl
        exact (nodup_cons.mp ring.nodup).1 member
      have apart' : other ≠ cell := by
        rintro rfl
        exact fresh (mem_cons_of_mem _ member)
      rw [pushed_next, update_of_ne apart, update_of_ne apart']
    have prev : ∀ other ∈ anchor :: cells, other ≠ links.next anchor →
        (links.pushed anchor cell).prev other = links.prev other := by
      intro other member apart
      have apart' : other ≠ cell := by
        rintro rfl
        exact fresh member
      rw [pushed_prev, update_of_ne apart, update_of_ne apart']
    rw [cons_append, isChain_cons_cons]
    refine ⟨⟨nextAnchor, prevCell⟩, ?_⟩
    have nextEq := ring.next_anchor
    have chain := ring.linked
    have targets := targets ring.nodup
    rw [tail_cons] at targets
    cases cells with
    | nil =>
      rw [nextEq] at nextCell prevFirst
      exact isChain_cons_cons.mpr ⟨⟨nextCell, prevFirst⟩, List.IsChain.singleton _⟩
    | cons first rest =>
    rw [nextEq] at nextCell prevFirst prev
    rw [cons_append, isChain_cons_cons] at chain ⊢
    refine ⟨⟨nextCell, prevFirst⟩, ?_⟩
    rw [cons_append, nodup_cons] at targets
    -- behind the first cell only the links out of the anchor and into that cell changed
    refine chain.2.imp_of_mem_tail_imp ?_
    intro before after beforeMem afterMem linked
    have behind : after ≠ first := by
      rintro rfl
      exact targets.1 afterMem
    have afterMem' : after ∈ anchor :: first :: rest := by
      rcases mem_append.mp afterMem with inside | last
      · exact mem_cons_of_mem _ (mem_cons_of_mem _ inside)
      · exact mem_cons.mpr (.inl (mem_singleton.mp last))
    have beforeMem' : before ∈ first :: rest := by
      rw [← cons_append, mem_append, mem_singleton] at beforeMem
      rcases beforeMem with inside | rfl
      · exact inside
      · exact absurd (linked.1.symm.trans nextEq) behind
    constructor
    · exact (next before beforeMem').trans linked.1
    · exact (prev after afterMem' behind).trans linked.2
  nodup := by
    rw [mem_cons, not_or] at fresh
    rw [nodup_cons, mem_cons, not_or, nodup_cons]
    have parts := nodup_cons.mp ring.nodup
    exact ⟨⟨Ne.symm fresh.1, parts.1⟩, fresh.2, parts.2⟩

variable {others : List β}

theorem pushed_other {other : β} (ring : Ring links anchor cells)
    (otherRing : Ring links other others) (fresh : cell ∉ other :: others)
    (apart : List.Disjoint (anchor :: cells) (other :: others)) :
    Ring (links.pushed anchor cell) other others := by
  apply otherRing.frame
  case next =>
    intro place member
    have notAnchor : place ≠ anchor := by
      rintro rfl
      exact apart mem_cons_self member
    have notCell : place ≠ cell := by
      rintro rfl
      exact fresh member
    rw [pushed_next, update_of_ne notAnchor, update_of_ne notCell]
  case prev =>
    intro place member
    have notFirst : place ≠ links.next anchor := by
      rintro rfl
      exact apart (ring.next_mem mem_cons_self) member
    have notCell : place ≠ cell := by
      rintro rfl
      exact fresh member
    rw [pushed_prev, update_of_ne notFirst, update_of_ne notCell]

/-- A cell unlinked leaves a ring of the others. -/
theorem unlink (ring : Ring links anchor (left ++ cell :: right)) :
    Ring (links.unlink cell) anchor (left ++ right) where
  linked := by
    obtain ⟨front, before, after, back, leftEq, rightEq⟩ := neighbours left right anchor
    have regroup : ∀ middle : List β, anchor :: ((left ++ (middle ++ right)) ++ [anchor]) =
        front ++ before :: (middle ++ after :: back) := by
      intro middle
      calc anchor :: ((left ++ (middle ++ right)) ++ [anchor])
          = (anchor :: left) ++ (middle ++ (right ++ [anchor])) := by simp
        _ = front ++ before :: (middle ++ after :: back) := by
            rw [leftEq, rightEq]
            simp
    have chain := ring.linked
    have sources := sources ring.nodup
    have targets := targets ring.nodup
    have whole := regroup [cell]
    rw [singleton_append, singleton_append] at whole
    rw [whole] at chain sources targets
    have rest := regroup []
    rw [nil_append, nil_append] at rest
    rw [rest]
    exact chain_unlink chain sources targets
  nodup := by
    refine ring.nodup.sublist ?_
    exact ((sublist_cons_self cell right).append_left left).cons_cons anchor

/-- Unlinking a cell leaves other rings alone. -/
theorem unlink_other {other : β} (ring : Ring links anchor cells) (member : cell ∈ anchor :: cells)
    (otherRing : Ring links other others)
    (apart : List.Disjoint (anchor :: cells) (other :: others)) :
    Ring (links.unlink cell) other others := by
  have nextMem := ring.next_mem member
  have prevMem := ring.prev_mem member
  have nextEq : (links.setNext (links.prev cell) (links.next cell)).next cell =
      links.next cell := by
    rw [setNext_next]
    by_cases same : cell = links.prev cell
    · rw [← same, update_self]
    · rw [update_of_ne same]
  apply otherRing.frame
  case next =>
    intro place placeMem
    have notPrev : place ≠ links.prev cell := by
      rintro rfl
      exact apart prevMem placeMem
    exact update_of_ne notPrev _ _
  case prev =>
    intro place placeMem
    have notNext : place ≠ links.next cell := by
      rintro rfl
      exact apart nextMem placeMem
    unfold RingLinks.unlink
    dsimp only
    rw [nextEq]
    exact update_of_ne notNext _ _

end Ring

end OpenFlowController.Library
