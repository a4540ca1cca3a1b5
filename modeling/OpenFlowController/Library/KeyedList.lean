/-
Module: Library.KeyedList
Purpose: Lists of entries that are searched by a key, and the maps they stand for when no
  two entries have the same key: what changing, appending and erasing an entry does to the
  map, also when the entries hold such lists themselves.
Trusted boundary: none
-/
import Mathlib

namespace OpenFlowController.Library.KeyedList

open List Function Option

variable {κ α β ρ τ : Type} [DecidableEq κ]

/-! ## Lists -/

section Lists

variable (key : α → κ)

/-- The first entry with the key. -/
def lookup (k : κ) (entries : List α) : Option α :=
  entries.find? fun entry => key entry = k

/-- The first entry with the key for which the change succeeds is changed. -/
def tryFirst (k : κ) (change : α → Option (α × ρ)) : List α → Option (List α × ρ)
  | [] => none
  | entry :: rest =>
    match if key entry = k then change entry else none with
    | some (entry', result) => some (entry' :: rest, result)
    | none => (tryFirst k change rest).map (Prod.map (entry :: ·) id)

/-- The first entry with the key is changed, if the change succeeds. -/
def updateFirst (k : κ) (change : α → Option (α × ρ)) : List α → Option (List α × ρ)
  | [] => none
  | entry :: rest =>
    if key entry = k then (change entry).map (Prod.map (· :: rest) id)
    else (updateFirst k change rest).map (Prod.map (entry :: ·) id)

/-- The first entry with the key is erased. -/
def eraseFirst (k : κ) : List α → Option (List α)
  | [] => none
  | entry :: rest =>
    if key entry = k then some rest else (eraseFirst k rest).map (entry :: ·)

/-- No two entries have the same key, and each entry is sound. -/
structure Keyed (Sound : α → Prop) (entries : List α) : Prop where
  unique : (entries.map key).Nodup
  each : ∀ entry ∈ entries, Sound entry

/-- The map that the entries stand for. -/
def view (abstract : α → β) (entries : List α) (k : κ) : Option β :=
  (lookup key k entries).map abstract

end Lists

/-! ## Maps -/

/-- The value of the key is changed, if there is one and the change succeeds. -/
def change (k : κ) (alter : β → Option (β × τ)) (map : κ → Option β) :
    Option ((κ → Option β) × τ) :=
  (map k).bind fun value =>
    (alter value).map (Prod.map (fun value' => Function.update map k (some value')) id)

/-- The value of the key is removed, if there is one. -/
def remove (k : κ) (map : κ → Option β) : Option (κ → Option β) :=
  (map k).map fun _ => Function.update map k none

/-! ## What lists do to their maps -/

section Views

variable {key : α → κ} {abstract : α → β} {Sound : α → Prop} {entry : α} {rest : List α}
  {entries entries' : List α} {k : κ}

omit [DecidableEq κ] in
theorem keyed_nil : Keyed key Sound [] where
  unique := nodup_nil
  each _ member := absurd member not_mem_nil

theorem view_cons :
    view key abstract (entry :: rest) k =
      if key entry = k then some (abstract entry) else view key abstract rest k := by
  by_cases same : key entry = k <;> simp [same, view, lookup]

theorem view_of_absent (absent : k ∉ entries.map key) : view key abstract entries k = none := by
  induction entries with
  | nil => rfl
  | cons entry rest ih =>
  rw [map_cons, mem_cons, not_or] at absent
  rw [view_cons, if_neg (Ne.symm absent.1)]
  exact ih absent.2

omit [DecidableEq κ] in
theorem Keyed.of_cons (keyed : Keyed key Sound (entry :: rest)) :
    key entry ∉ rest.map key ∧ Sound entry ∧ Keyed key Sound rest := by
  have unique := keyed.unique
  rw [map_cons, nodup_cons] at unique
  refine ⟨unique.1, keyed.each entry mem_cons_self, unique.2, ?_⟩
  intro other member
  exact keyed.each other (mem_cons_of_mem entry member)

variable {try_ : α → Option (α × ρ)}

theorem tryFirst_absent (absent : k ∉ entries.map key) : tryFirst key k try_ entries = none := by
  induction entries with
  | nil => rfl
  | cons entry rest ih =>
  rw [map_cons, mem_cons, not_or] at absent
  rw [tryFirst, if_neg (Ne.symm absent.1)]
  simp only [ih absent.2, map_none]

theorem updateFirst_none {copy : α → α × ρ}
    (failed : updateFirst key k (fun entry => some (copy entry)) entries = none) :
    k ∉ entries.map key := by
  induction entries with
  | nil => exact not_mem_nil
  | cons entry rest ih =>
  rw [updateFirst] at failed
  rw [map_cons, mem_cons, not_or]
  split at failed
  · cases failed
  · rename_i apart
    exact ⟨Ne.symm apart, ih (map_eq_none_iff.mp failed)⟩

theorem updateFirst_eq_tryFirst (keyed : Keyed key Sound entries) :
    updateFirst key k try_ entries = tryFirst key k try_ entries := by
  induction entries with
  | nil => rfl
  | cons entry rest ih =>
  obtain ⟨fresh, -, others⟩ := keyed.of_cons
  rw [updateFirst, tryFirst]
  by_cases same : key entry = k
  · rw [same] at fresh
    rw [if_pos same, if_pos same]
    cases try_ entry with
    | none => simp only [tryFirst_absent fresh, map_none]
    | some changed => rfl
  · rw [if_neg same, if_neg same, ih others]

theorem view_cons_eq :
    view key abstract (entry :: rest) =
      update (view key abstract rest) (key entry) (some (abstract entry)) := by
  funext k
  rw [view_cons]
  by_cases here : key entry = k
  · subst here
    rw [if_pos rfl, update_self]
  · rw [if_neg here, update_of_ne (Ne.symm here)]

theorem change_update_of_ne {alter : β → Option (β × τ)} {map : κ → Option β} {k' : κ}
    {value : Option β} (apart : k' ≠ k) :
    change k alter (update map k' value) =
      (change k alter map).map (Prod.map (update · k' value) id) := by
  rw [change, change, update_of_ne (Ne.symm apart)]
  cases map k with
  | none => rfl
  | some old =>
  rw [bind_some, bind_some, Option.map_map]
  congr 1
  funext ⟨new, answer⟩
  simp only [Prod.map_apply, Function.comp_apply, id]
  rw [update_comm apart]

/-- A refined change of the first match is the change of the view. -/
theorem view_tryFirst {try_ : α → Option (α × ρ)} {alter : β → Option (β × τ)}
    {answer : ρ → τ} (keyed : Keyed key Sound entries)
    (keeps : ∀ entry ∈ entries, Sound entry → key entry = k → ∀ entry' result,
      try_ entry = some (entry', result) → key entry' = key entry)
    (refines : ∀ entry ∈ entries, Sound entry → key entry = k →
      (try_ entry).map (Prod.map abstract answer) = alter (abstract entry)) :
    (tryFirst key k try_ entries).map (Prod.map (view key abstract) answer) =
      change k alter (view key abstract entries) := by
  induction entries with
  | nil => rfl
  | cons entry rest ih =>
  obtain ⟨fresh, sound, others⟩ := keyed.of_cons
  rw [tryFirst, view_cons_eq]
  by_cases same : key entry = k
  · rw [if_pos same, same, change, update_self, bind_some, ← refines entry mem_cons_self sound same]
    cases tried : try_ entry with
    | none =>
      rw [same] at fresh
      simp only [tryFirst_absent fresh, map_none]
    | some changed =>
    obtain ⟨entry', result⟩ := changed
    have kept :=
      (keeps entry mem_cons_self sound same entry' result tried).trans same
    simp only [map_some, Prod.map_apply, id]
    rw [update_idem, view_cons_eq, kept]
  · have later := ih others (fun other member => keeps other (mem_cons_of_mem entry member))
      (fun other member => refines other (mem_cons_of_mem entry member))
    rw [if_neg same, change_update_of_ne same, ← later, Option.map_map, Option.map_map]
    congr 1
    funext ⟨rest', result⟩
    simp only [Prod.map_apply, Function.comp_apply, id]
    rw [view_cons_eq]

/-- A change that keeps its key keeps the list keyed. -/
theorem tryFirst_keyed {result : ρ} (keyed : Keyed key Sound entries)
    (keeps : ∀ entry ∈ entries, Sound entry → key entry = k → ∀ entry' result,
      try_ entry = some (entry', result) → key entry' = key entry ∧ Sound entry')
    (done : tryFirst key k try_ entries = some (entries', result)) :
    Keyed key Sound entries' ∧ entries'.map key = entries.map key := by
  induction entries generalizing entries' with
  | nil => cases done
  | cons entry rest ih =>
  obtain ⟨fresh, sound, others⟩ := keyed.of_cons
  rw [tryFirst] at done
  split at done
  · rename_i entry' result' tried
    cases done
    have changed : key entry = k ∧ try_ entry = some (entry', result) := by
      by_cases same : key entry = k
      · exact ⟨same, by rwa [if_pos same] at tried⟩
      · rw [if_neg same] at tried
        cases tried
    obtain ⟨kept, sound'⟩ :=
      keeps entry mem_cons_self sound changed.1 entry' result changed.2
    refine ⟨⟨?_, ?_⟩, ?_⟩
    · rw [map_cons, kept]
      exact keyed.unique
    · intro other member
      rcases mem_cons.mp member with rfl | later
      · exact sound'
      · exact others.each other later
    · rw [map_cons, kept, map_cons]
  · obtain ⟨⟨rest', result'⟩, later, is⟩ := map_eq_some_iff.mp done
    cases is
    obtain ⟨keyed', keys⟩ := ih others
      (fun other member => keeps other (mem_cons_of_mem entry member)) later
    refine ⟨⟨?_, ?_⟩, ?_⟩
    · rw [map_cons, keys]
      exact keyed.unique
    · intro other member
      rcases mem_cons.mp member with rfl | behind
      · exact sound
      · exact keyed'.each other behind
    · rw [map_cons, keys, map_cons]

theorem tryFirst_same {result : ρ}
    (same : ∀ entry entry' result, try_ entry = some (entry', result) → entry' = entry)
    (done : tryFirst key k try_ entries = some (entries', result)) : entries' = entries := by
  induction entries generalizing entries' with
  | nil => cases done
  | cons entry rest ih =>
  rw [tryFirst] at done
  split at done
  · rename_i entry' result' tried
    cases done
    split at tried
    · rw [same entry entry' result tried]
    · cases tried
  · obtain ⟨⟨rest', result'⟩, later, is⟩ := map_eq_some_iff.mp done
    cases is
    rw [ih later]

theorem view_append {added : α} (fresh : key added ∉ entries.map key) :
    view key abstract (entries ++ [added]) =
      update (view key abstract entries) (key added) (some (abstract added)) := by
  induction entries with
  | nil => rw [nil_append, view_cons_eq]
  | cons entry rest ih =>
  rw [map_cons, mem_cons, not_or] at fresh
  rw [cons_append, view_cons_eq, view_cons_eq, ih fresh.2, update_comm fresh.1]

omit [DecidableEq κ] in
theorem Keyed.append {added : α} (keyed : Keyed key Sound entries)
    (fresh : key added ∉ entries.map key) (sound : Sound added) :
    Keyed key Sound (entries ++ [added]) where
  unique := by
    rw [map_append, map_singleton]
    exact keyed.unique.append (nodup_singleton _) (disjoint_singleton.mpr fresh)
  each entry member := by
    rcases mem_append.mp member with old | new
    · exact keyed.each entry old
    · rw [mem_singleton.mp new]
      exact sound

/-- Erasing the first match removes the key from the view. -/
theorem view_eraseFirst (keyed : Keyed key Sound entries) :
    (eraseFirst key k entries).map (view key abstract) =
      remove k (view key abstract entries) := by
  induction entries with
  | nil => rfl
  | cons entry rest ih =>
  obtain ⟨fresh, -, others⟩ := keyed.of_cons
  rw [eraseFirst, remove, view_cons_eq]
  by_cases same : key entry = k
  · rw [same] at fresh
    have absent := @view_of_absent _ _ _ _ key abstract rest k fresh
    rw [if_pos same, same, update_self, map_some, map_some, update_idem, ← absent, update_eq_self]
  have later := ih others
  rw [remove] at later
  rw [if_neg same, update_of_ne (Ne.symm same), Option.map_map]
  have step : view key abstract ∘ (entry :: ·) =
      (update · (key entry) (some (abstract entry))) ∘ view key abstract := by
    funext rest'
    exact view_cons_eq
  rw [step, ← Option.map_map, later, Option.map_map]
  congr 1
  funext _
  rw [Function.comp_apply, update_comm same]

theorem eraseFirst_none (failed : eraseFirst key k entries = none) : k ∉ entries.map key := by
  induction entries with
  | nil => exact not_mem_nil
  | cons entry rest ih =>
  rw [eraseFirst] at failed
  rw [map_cons, mem_cons, not_or]
  split at failed
  · cases failed
  · rename_i apart
    exact ⟨Ne.symm apart, ih (map_eq_none_iff.mp failed)⟩

theorem eraseFirst_keyed (keyed : Keyed key Sound entries)
    (done : eraseFirst key k entries = some entries') : Keyed key Sound entries' := by
  have sublist : entries'.Sublist entries := by
    clear keyed
    induction entries generalizing entries' with
    | nil => cases done
    | cons entry rest ih =>
    rw [eraseFirst] at done
    split at done
    · cases done
      exact sublist_cons_self _ _
    · obtain ⟨rest', later, is⟩ := map_eq_some_iff.mp done
      cases is
      exact (ih later).cons_cons entry
  constructor
  case unique => exact keyed.unique.sublist (sublist.map key)
  case each =>
    intro entry member
    exact keyed.each entry (sublist.subset member)

variable {front back : List α}

theorem view_cut (unique : ((front ++ entry :: back).map key).Nodup) :
    view key abstract (front ++ entry :: back) =
      update (view key abstract (front ++ back)) (key entry) (some (abstract entry)) := by
  induction front with
  | nil => exact view_cons_eq
  | cons head rest ih =>
  rw [cons_append, map_cons, nodup_cons] at unique
  have apart : key entry ≠ key head := by
    intro same
    apply unique.1
    rw [← same]
    exact mem_map_of_mem (mem_append_right _ mem_cons_self)
  rw [cons_append, cons_append, view_cons_eq, view_cons_eq, ih unique.2, update_comm apart]

theorem view_without (unique : ((front ++ entry :: back).map key).Nodup) :
    view key abstract (front ++ back) =
      update (view key abstract (front ++ entry :: back)) (key entry) none := by
  have absent : view key abstract (front ++ back) (key entry) = none := by
    apply view_of_absent
    rw [map_append, map_cons] at unique
    rw [map_append]
    exact (nodup_cons.mp (nodup_middle.mp unique)).1
  rw [view_cut unique, update_idem, ← absent, update_eq_self]

end Views

end OpenFlowController.Library.KeyedList
