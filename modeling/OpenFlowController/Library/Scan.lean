/-
Module: Library.Scan
Purpose: A search of a list by a test that may fail, and exactly when it finds what another
  test selects.
Trusted boundary: none
-/
import Mathlib

namespace OpenFlowController.Library

open List

variable {α : Type*}

/-- The first element that meets `test`; the outer `none` is a test that failed before. -/
def scan (test : α → Option Bool) : List α → Option (Option α)
  | [] => some none
  | a :: rest =>
    match test a with
    | none => none
    | some true => some (some a)
    | some false => scan test rest

variable {test : α → Option Bool} {l : List α}

theorem scan_some {a : α} (found : scan test l = some (some a)) : a ∈ l ∧ test a = some true := by
  induction l with
  | nil => exact absurd found nofun
  | cons b rest ih =>
  rw [scan] at found
  cases tested : test b with
  | none =>
    rw [tested] at found
    exact absurd found nofun
  | some met =>
  rw [tested] at found
  cases met with
  | true =>
    obtain rfl : b = a := Option.some.inj (Option.some.inj found)
    exact ⟨mem_cons_self, tested⟩
  | false =>
    obtain ⟨within, met⟩ := ih found
    exact ⟨mem_cons_of_mem _ within, met⟩

theorem scan_none_iff : scan test l = some none ↔ ∀ a ∈ l, test a = some false := by
  induction l with
  | nil => simp [scan]
  | cons a rest ih =>
  rw [scan, forall_mem_cons]
  cases test a with
  | none => simp
  | some met =>
  cases met with
  | true => simp
  | false => simpa using ih

theorem scan_pure (test : α → Bool) (l : List α) :
    scan (fun a => some (test a)) l = some (l.find? test) := by
  induction l with
  | nil => rfl
  | cons a rest ih =>
  cases tested : test a with
  | true => rw [scan, tested, find?_cons_of_pos tested]
  | false =>
    rw [scan, tested, find?_cons_of_neg (by simp [tested])]
    exact ih

/-- The search by `test` finds what `spec` selects exactly where `test` refuses all that comes
before it and accepts it. -/
theorem scan_eq_find?_iff {spec : α → Bool} :
    scan test l = some (l.find? spec) ↔
      (∀ a ∈ l.takeWhile (fun a => !spec a), test a = some false) ∧
        ∀ a, l.find? spec = some a → test a = some true := by
  induction l with
  | nil => simp [scan]
  | cons a rest ih =>
  cases selected : spec a with
  | true =>
    have here : (a :: rest).find? spec = some a := find?_cons_of_pos selected
    have before : (a :: rest).takeWhile (fun a => !spec a) = [] := by
      simp [selected]
    rw [here, before]
    constructor
    · intro found
      refine ⟨nofun, ?_⟩
      rintro b ⟨⟩
      exact (scan_some found).2
    · rintro ⟨-, accepts⟩
      rw [scan, accepts a rfl]
  | false =>
  have later : (a :: rest).find? spec = rest.find? spec :=
    find?_cons_of_neg (by simp [selected])
  have before : (a :: rest).takeWhile (fun a => !spec a) =
      a :: rest.takeWhile (fun a => !spec a) := by
    simp [selected]
  rw [later, before, forall_mem_cons, scan]
  cases tested : test a with
  | none => simp
  | some met =>
  cases met with
  | false =>
    simp only [true_and]
    exact ih
  | true =>
  simp only [Option.some.injEq, Bool.true_eq_false, false_and, iff_false]
  intro found
  have picked := find?_some found.symm
  rw [selected] at picked
  exact absurd picked nofun

theorem find?_of_nodup_map {β : Type*} [DecidableEq β] {key : α → β} (nodup : (l.map key).Nodup)
    {a : α} (mem : a ∈ l) : l.find? (fun b => key b = key a) = some a := by
  induction l with
  | nil => exact absurd mem not_mem_nil
  | cons b rest ih =>
  obtain ⟨fresh, nodup⟩ := nodup_cons.mp nodup
  rcases mem_cons.mp mem with rfl | mem
  · simp
  have different : key b ≠ key a := by
    intro same
    exact fresh (same ▸ mem_map_of_mem mem)
  rw [find?_cons_of_neg (by simpa using different)]
  exact ih nodup mem

end OpenFlowController.Library
