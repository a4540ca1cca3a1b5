/-
Module: Library.MultiMap
Purpose: Association lists from keys to lists of values: the pairs they hold, when
  they are a finite map to non-empty lists of distinct values, and what replacing,
  removing and appending one entry does to them.
Trusted boundary: none
-/
import Mathlib

namespace OpenFlowController.Library.MultiMap

open List

variable {κ ν : Type*}

/-- The key has the value. -/
def Holds (map : List (κ × List ν)) (key : κ) (value : ν) : Prop :=
  ∃ values, (key, values) ∈ map ∧ value ∈ values

/-- The keys are distinct, and each has a value and none of its values twice. -/
structure Proper (map : List (κ × List ν)) : Prop where
  keys : (map.map Prod.fst).Nodup
  filled : ∀ entry ∈ map, entry.2 ≠ []
  distinct : ∀ entry ∈ map, entry.2.Nodup

theorem proper_nil : Proper ([] : List (κ × List ν)) where
  keys := nodup_nil
  filled := by simp
  distinct := by simp

theorem not_holds_nil (key : κ) (value : ν) : ¬ Holds [] key value := by
  rintro ⟨_, member, _⟩
  exact not_mem_nil member

theorem holds_append_iff (front back : List (κ × List ν)) (key : κ) (value : ν) :
    Holds (front ++ back) key value ↔ Holds front key value ∨ Holds back key value := by
  constructor
  · rintro ⟨values, member, holds⟩
    rcases mem_append.mp member with inFront | inBack
    · exact .inl ⟨values, inFront, holds⟩
    · exact .inr ⟨values, inBack, holds⟩
  · rintro (⟨values, member, holds⟩ | ⟨values, member, holds⟩)
    · exact ⟨values, mem_append_left back member, holds⟩
    · exact ⟨values, mem_append_right front member, holds⟩

theorem holds_cons_iff (entry : κ × List ν) (back : List (κ × List ν)) (key : κ) (value : ν) :
    Holds (entry :: back) key value ↔
      (key = entry.1 ∧ value ∈ entry.2) ∨ Holds back key value := by
  constructor
  · rintro ⟨values, member, holds⟩
    rcases mem_cons.mp member with here | later
    · subst here
      exact .inl ⟨rfl, holds⟩
    · exact .inr ⟨values, later, holds⟩
  · rintro (⟨rfl, holds⟩ | ⟨values, member, holds⟩)
    · exact ⟨entry.2, mem_cons_self, holds⟩
    · exact ⟨values, mem_cons_of_mem entry member, holds⟩

theorem not_holds_of_absent {map : List (κ × List ν)} {key : κ}
    (absent : ∀ entry ∈ map, entry.1 ≠ key) (value : ν) : ¬ Holds map key value := by
  rintro ⟨values, member, _⟩
  exact absent (key, values) member rfl

section Entry

variable {front back : List (κ × List ν)} {key : κ} {values : List ν}

section

variable (proper : Proper (front ++ (key, values) :: back))

include proper

theorem Proper.apart : (∀ entry ∈ front, entry.1 ≠ key) ∧ ∀ entry ∈ back, entry.1 ≠ key := by
  have keys := proper.keys
  rw [map_append, map_cons] at keys
  obtain ⟨_, tail, apart⟩ := nodup_append.mp keys
  constructor
  · intro entry member
    exact apart entry.1 (mem_map_of_mem member) key mem_cons_self
  · intro entry member same
    exact (nodup_cons.mp tail).1 (mem_map.mpr ⟨entry, member, same⟩)

theorem Proper.replace {values' : List ν} (filled : values' ≠ []) (distinct : values'.Nodup) :
    Proper (front ++ (key, values') :: back) := by
  constructor
  case keys => simpa using proper.keys
  case filled =>
    intro entry member
    rcases mem_append.mp member with inFront | inBack
    · exact proper.filled entry (mem_append_left _ inFront)
    · rcases mem_cons.mp inBack with here | later
      · subst here
        exact filled
      · exact proper.filled entry (mem_append_right _ (mem_cons_of_mem _ later))
  case distinct =>
    intro entry member
    rcases mem_append.mp member with inFront | inBack
    · exact proper.distinct entry (mem_append_left _ inFront)
    · rcases mem_cons.mp inBack with here | later
      · subst here
        exact distinct
      · exact proper.distinct entry (mem_append_right _ (mem_cons_of_mem _ later))

theorem Proper.remove : Proper (front ++ back) := by
  have kept : List.Sublist (front ++ back) (front ++ (key, values) :: back) :=
    List.Sublist.append_left (sublist_cons_self _ back) front
  constructor
  case keys => exact proper.keys.sublist (kept.map Prod.fst)
  case filled => exact fun entry member => proper.filled entry (kept.subset member)
  case distinct => exact fun entry member => proper.distinct entry (kept.subset member)

end

/-- An absent key with values of its own keeps the map proper. -/
theorem Proper.append {map : List (κ × List ν)} (proper : Proper map)
    (absent : ∀ entry ∈ map, entry.1 ≠ key) (filled : values ≠ [])
    (distinct : values.Nodup) : Proper (map ++ [(key, values)]) := by
  constructor
  case keys =>
    rw [map_append]
    refine nodup_append.mpr ⟨proper.keys, nodup_singleton key, ?_⟩
    intro other member last lastMember
    obtain ⟨entry, inMap, rfl⟩ := mem_map.mp member
    rw [mem_singleton.mp lastMember]
    exact absent entry inMap
  case filled =>
    intro entry member
    rcases mem_append.mp member with inMap | last
    · exact proper.filled entry inMap
    · rw [mem_singleton.mp last]
      exact filled
  case distinct =>
    intro entry member
    rcases mem_append.mp member with inMap | last
    · exact proper.distinct entry inMap
    · rw [mem_singleton.mp last]
      exact distinct

section

variable (proper : Proper (front ++ (key, values) :: back))

include proper

theorem holds_replace (values' : List ν) (other : κ) (value : ν) :
    Holds (front ++ (key, values') :: back) other value ↔
      (other = key ∧ value ∈ values') ∨
        (other ≠ key ∧ Holds (front ++ (key, values) :: back) other value) := by
  obtain ⟨absentFront, absentBack⟩ := proper.apart
  simp only [holds_append_iff, holds_cons_iff]
  by_cases same : other = key
  · subst same
    simp [not_holds_of_absent absentFront, not_holds_of_absent absentBack]
  · simp [same]

theorem holds_remove (other : κ) (value : ν) :
    Holds (front ++ back) other value ↔
      other ≠ key ∧ Holds (front ++ (key, values) :: back) other value := by
  obtain ⟨absentFront, absentBack⟩ := proper.apart
  simp only [holds_append_iff, holds_cons_iff]
  by_cases same : other = key
  · subst same
    simp [not_holds_of_absent absentFront, not_holds_of_absent absentBack]
  · simp [same]

theorem Proper.holds_iff (value : ν) :
    Holds (front ++ (key, values) :: back) key value ↔ value ∈ values := by
  obtain ⟨absentFront, absentBack⟩ := proper.apart
  simp [holds_append_iff, holds_cons_iff, not_holds_of_absent absentFront,
    not_holds_of_absent absentBack]

end

end Entry

end OpenFlowController.Library.MultiMap
