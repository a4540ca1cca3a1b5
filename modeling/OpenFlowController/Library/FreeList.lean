/-
Module: Library.FreeList
Purpose: Singly linked lists that code reaches through a head pointer: taking the
  first cell, putting a cell in front, linking fresh cells into a list, appending a
  list behind the last cell, and cutting a list after some steps.  Also the cells
  of a family of such lists, as one list of it changes.
Trusted boundary: none
-/
import OpenFlowController.Library.LinkedChain

namespace OpenFlowController.Library

open Function

variable {β : Type*} [DecidableEq β]

namespace Seg

variable {next : β → Option β} {start stop : Option β} {cells : List β} {cell : β}

theorem update_off {target : Option β} (seg : Seg next start cells stop) (off : cell ∉ cells) :
    Seg (update next cell target) start cells stop := by
  refine seg.congr fun other member => update_of_ne ?_ _ _
  rintro rfl
  exact off member

omit [DecidableEq β] in
theorem eq_nil_of_none (seg : Seg next none cells none) : cells = [] := by
  cases cells with
  | nil => rfl
  | cons cell rest => simp at seg

omit [DecidableEq β] in
theorem eq_cons_of_some (seg : Seg next (some cell) cells none) :
    ∃ rest, cells = cell :: rest ∧ Seg next (next cell) rest none := by
  cases cells with
  | nil => simp at seg
  | cons other rest =>
  rcases seg with ⟨same, restSeg⟩
  cases same
  exact ⟨rest, rfl, restSeg⟩

theorem push (seg : Seg next start cells stop) (off : cell ∉ cells) :
    Seg (update next cell start) (some cell) (cell :: cells) stop := by
  refine ⟨rfl, ?_⟩
  rw [update_self]
  exact seg.update_off off

theorem append_last {last : β} {more : List β} {second : Option β}
    (seg : Seg next start (cells ++ [last]) none) (nodup : (cells ++ [last]).Nodup)
    (moreSeg : Seg next second more none) (off : last ∉ more) :
    Seg (update next last second) start (cells ++ [last] ++ more) none := by
  rcases append_iff.mp seg with ⟨middle, frontSeg, lastSeg⟩
  have lastOff : last ∉ cells := by
    intro member
    exact (List.nodup_append.mp nodup).2.2 last member last (List.mem_singleton_self last) rfl
  rw [List.append_assoc]
  refine append_iff.mpr ⟨middle, frontSeg.update_off lastOff, ?_⟩
  rcases lastSeg with ⟨middleEq, _⟩
  refine ⟨middleEq, ?_⟩
  rw [update_self]
  exact moreSeg.update_off off

theorem cut {left right : List β} (seg : Seg next start (left ++ cell :: right) none)
    (nodup : (left ++ cell :: right).Nodup) :
    Seg (update next cell none) start (left ++ [cell]) none ∧
      Seg (update next cell none) (next cell) right none := by
  rcases append_iff.mp seg with ⟨middle, leftSeg, middleEq, rightSeg⟩
  have parts := List.nodup_append.mp nodup
  have offLeft : cell ∉ left := fun member =>
    parts.2.2 cell member cell (List.mem_cons_self ..) rfl
  have offRight : cell ∉ right := (List.nodup_cons.mp parts.2.1).1
  refine ⟨append_iff.mpr ⟨middle, leftSeg.update_off offLeft, middleEq, ?_⟩,
    rightSeg.update_off offRight⟩
  rw [update_self]
  rfl

omit [DecidableEq β] in
theorem not_endless {Inside : β → Prop} {cell : β}
    (onward : ∀ cell, Inside cell → ∃ after, next cell = some after ∧ Inside after)
    (inside : Inside cell) : ¬ Seg next (some cell) cells none := by
  induction cells generalizing cell with
  | nil => exact nofun
  | cons first rest ih =>
  rintro ⟨same, restSeg⟩
  have sameCell := Option.some.inj same
  subst sameCell
  rcases onward _ inside with ⟨after, nextEq, afterInside⟩
  rw [nextEq] at restSeg
  exact ih afterInside restSeg

end Seg

/-! ## Linking fresh cells -/

/-- Every cell is made to point to the one behind it, and the last to null. -/
def linkCells (next : β → Option β) : List β → β → Option β
  | [] => next
  | cell :: rest => Function.update (linkCells next rest) cell rest.head?

variable {next : β → Option β} {cells : List β}

theorem linkCells_off {cell : β} (off : cell ∉ cells) : linkCells next cells cell = next cell := by
  induction cells with
  | nil => rfl
  | cons first rest ih =>
  have different : cell ≠ first := fun same => off (same ▸ List.mem_cons_self ..)
  rw [linkCells, update_of_ne different]
  exact ih fun member => off (List.mem_cons_of_mem _ member)

theorem Seg.linkCells (nodup : cells.Nodup) :
    Seg (linkCells next cells) cells.head? cells none := by
  induction cells with
  | nil => rfl
  | cons first rest ih =>
  have parts := List.nodup_cons.mp nodup
  refine ⟨rfl, ?_⟩
  rw [Library.linkCells, update_self]
  exact (ih parts.2).update_off parts.1

theorem Seg.linkCells_off {start stop : Option β} {fresh : List β} (seg : Seg next start cells stop)
    (off : ∀ cell ∈ cells, cell ∉ fresh) : Seg (Library.linkCells next fresh) start cells stop :=
  seg.congr fun cell member => Library.linkCells_off (off cell member)

/-! ## Walking along a list -/

/-- The cell that a number of steps lead to, unless a null pointer comes first. -/
def followLinks (next : β → Option β) : Nat → β → Option β
  | 0, cell => some cell
  | steps + 1, cell => (next cell).bind (followLinks next steps)

omit [DecidableEq β] in
theorem Seg.follow {steps : Nat} {cell : β} (seg : Seg next (some cell) cells none)
    (enough : steps < cells.length) : followLinks next steps cell = some cells[steps] := by
  induction steps generalizing cell cells with
  | zero =>
    rcases seg.eq_cons_of_some with ⟨rest, rfl, _⟩
    rfl
  | succ steps ih =>
  rcases seg.eq_cons_of_some with ⟨rest, rfl, restSeg⟩
  have enough' : steps < rest.length := Nat.lt_of_succ_lt_succ enough
  cases rest with
  | nil => exact absurd enough' (Nat.not_lt_zero _)
  | cons second more =>
  have secondEq := restSeg.1
  rw [followLinks, secondEq]
  exact ih (secondEq ▸ restSeg) enough'

/-! ## One list of several changes -/

section Pooled

variable {ι : Type*} [DecidableEq ι] {places : Finset ι} {place : ι}

theorem sum_update_add {M : Type*} [AddCommMonoid M] (inside : place ∈ places) (value : ι → M)
    (changed : M) :
    (∑ i ∈ places, update value place changed i) + value place =
      (∑ i ∈ places, value i) + changed := by
  have others :
      ∑ i ∈ places.erase place, update value place changed i =
        ∑ i ∈ places.erase place, value i := by
    apply Finset.sum_congr rfl
    intro other otherMem
    exact update_of_ne (Finset.ne_of_mem_erase otherMem) _ _
  rw [← Finset.add_sum_erase places _ inside, ← Finset.add_sum_erase places value inside,
    others, update_self]
  abel

/-- The cells of all lists of a family. -/
def pooled (places : Finset ι) (lists : ι → List β) : Multiset β :=
  ∑ place ∈ places, (lists place : Multiset β)

section

variable (inside : place ∈ places)

include inside

omit [DecidableEq β] in
theorem pooled_update (lists : ι → List β) (cells : List β) :
    pooled places (update lists place cells) + (lists place : Multiset β) =
      pooled places lists + (cells : Multiset β) := by
  have sums := sum_update_add inside (fun i => (lists i : Multiset β)) (cells : Multiset β)
  have updated : (fun i => (update lists place cells i : Multiset β)) =
      update (fun i => (lists i : Multiset β)) place (cells : Multiset β) := by
    funext i
    by_cases same : i = place
    · subst same
      rw [update_self, update_self]
    · rw [update_of_ne same, update_of_ne same]
  unfold pooled
  rw [updated]
  exact sums

variable {lists : ι → List β} {extra : Multiset β}

omit [DecidableEq β] in
theorem pooled_add {cells : List β}
    (more : (cells : Multiset β) = (lists place : Multiset β) + extra) :
    pooled places (update lists place cells) = pooled places lists + extra := by
  have sums := pooled_update inside lists cells
  rw [more, add_comm (lists place : Multiset β) extra, ← add_assoc] at sums
  exact add_right_cancel sums

omit [DecidableEq β] in
theorem pooled_remove {cells : List β}
    (fewer : (lists place : Multiset β) = (cells : Multiset β) + extra) :
    pooled places (update lists place cells) + extra = pooled places lists := by
  have sums := pooled_update inside lists cells
  rw [fewer, add_comm (cells : Multiset β) extra, ← add_assoc] at sums
  exact add_right_cancel sums

omit [DecidableEq β] [DecidableEq ι] in
theorem le_pooled (lists : ι → List β) : (lists place : Multiset β) ≤ pooled places lists :=
  Finset.single_le_sum (fun _ _ => Multiset.zero_le _) inside

end

variable {lists : ι → List β}

omit [DecidableEq β] [DecidableEq ι] in
theorem nodup_of_pooled (nodup : (pooled places lists).Nodup) (inside : place ∈ places) :
    (lists place).Nodup :=
  Multiset.coe_nodup.mp (Multiset.nodup_of_le (le_pooled inside lists) nodup)

omit [DecidableEq β] in
theorem disjoint_of_pooled {other : ι} (nodup : (pooled places lists).Nodup)
    (inside : place ∈ places) (otherInside : other ∈ places) (different : other ≠ place) {cell : β}
    (member : cell ∈ lists place) : cell ∉ lists other := by
  intro otherMember
  have sums := pooled_update inside lists ([] : List β)
  have emptied := le_pooled otherInside (update lists place [])
  rw [update_of_ne different] at emptied
  rw [Multiset.coe_nil, add_zero] at sums
  rw [← sums] at nodup
  have apart := (Multiset.nodup_add.mp nodup).2.2
  exact Multiset.disjoint_left.mp apart
    (Multiset.mem_of_le emptied (Multiset.mem_coe.mpr otherMember)) (Multiset.mem_coe.mpr member)

end Pooled

end OpenFlowController.Library
