/-
Module: Library.PlacedList
Purpose: Ordered lists in which a new element goes to the head, to the tail, or next to
  an element that is there.
Trusted boundary: none
-/
import Mathlib

namespace OpenFlowController.Library

open Option

variable {α : Type*}

/-- Where a new element goes. -/
inductive Place (α : Type*) where
  | first
  | last
  | before (anchor : α)
  | after (anchor : α)

namespace Place

variable [DecidableEq α]

/-- The list with `group anchor` instead of the first occurrence of `anchor`. -/
def atAnchor (anchor : α) (group : List α) : List α → Option (List α)
  | [] => none
  | head :: rest =>
    if head = anchor then some (group ++ rest)
    else (atAnchor anchor group rest).map (head :: ·)

/-- The list with a new element at a place, when there is that place. -/
def insert (place : Place α) (new : α) (list : List α) : Option (List α) :=
  match place with
  | first => some (new :: list)
  | last => some (list ++ [new])
  | before anchor => atAnchor anchor [new, anchor] list
  | after anchor => atAnchor anchor [anchor, new] list

variable {anchor new : α} {group front back list grown : List α}

theorem atAnchor_cut (fresh : anchor ∉ front) :
    atAnchor anchor group (front ++ anchor :: back) = some (front ++ group ++ back) := by
  induction front with
  | nil => simp [atAnchor]
  | cons head rest ih =>
    obtain ⟨apart, later⟩ := not_or.mp (List.mem_cons.not.mp fresh)
    simp [atAnchor, Ne.symm apart, ih later]

theorem atAnchor_absent (absent : anchor ∉ list) : atAnchor anchor group list = none := by
  induction list with
  | nil => rfl
  | cons head rest ih =>
    obtain ⟨apart, later⟩ := not_or.mp (List.mem_cons.not.mp absent)
    simp [atAnchor, Ne.symm apart, ih later]

theorem insert_before_cut (fresh : anchor ∉ front) :
    (before anchor).insert new (front ++ anchor :: back) =
      some (front ++ new :: anchor :: back) := by
  simp [insert, atAnchor_cut fresh]

theorem insert_after_cut (fresh : anchor ∉ front) :
    (after anchor).insert new (front ++ anchor :: back) =
      some (front ++ anchor :: new :: back) := by
  simp [insert, atAnchor_cut fresh]

theorem atAnchor_perm (pair : group.Perm [new, anchor])
    (inserted : atAnchor anchor group list = some grown) : grown.Perm (new :: list) := by
  by_cases present : anchor ∈ list
  · obtain ⟨front, back, rfl, fresh⟩ := List.eq_append_cons_of_mem present
    rw [atAnchor_cut fresh] at inserted
    obtain rfl := some.inj inserted
    have moved : (front ++ [new, anchor] ++ back).Perm (new :: (front ++ anchor :: back)) := by
      rw [List.append_assoc]
      exact List.perm_middle
    exact ((pair.append_left front).append_right back).trans moved
  · rw [atAnchor_absent present] at inserted
    cases inserted

theorem insert_perm {place : Place α} (inserted : place.insert new list = some grown) :
    grown.Perm (new :: list) := by
  cases place with
  | first =>
    obtain rfl := some.inj inserted
    exact List.Perm.refl _
  | last =>
    obtain rfl := some.inj inserted
    exact List.perm_append_singleton new list
  | before anchor => exact atAnchor_perm (List.Perm.refl _) inserted
  | after anchor => exact atAnchor_perm (List.Perm.swap new anchor []) inserted

end Place

end OpenFlowController.Library
