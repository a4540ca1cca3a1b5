/-
Module: Library.Enumeration
Purpose: Enumeration by a cursor: a first call, and next calls that each look for the entry
  after the one they are given, with the two loops of such a call over a list of buckets.
Trusted boundary: none
-/
import Mathlib

namespace OpenFlowController.Library

open List

variable {α κ ι ε : Type*}

/-! ## The calls and their answers -/

/-- What one call of an enumeration answers: an entry under its key, or the code with which
it found none. -/
inductive Reply (κ ι ε : Type*) where
  | found (key : κ) (info : ι)
  | ended (code : ε)
deriving DecidableEq

/-- A call that was answered `reply`, and next calls from the key of each entry found, find
the entries of a list and then end with a code. -/
inductive Enumerates (next : κ → Reply κ ι ε) : Reply κ ι ε → List (κ × ι) → ε → Prop where
  | ended (code : ε) : Enumerates next (.ended code) [] code
  | found {key : κ} {info : ι} {rest : List (κ × ι)} {code : ε} :
      Enumerates next (next key) rest code →
        Enumerates next (.found key info) ((key, info) :: rest) code

namespace Enumerates

variable {next : κ → Reply κ ι ε} {reply : Reply κ ι ε} {entries entries' : List (κ × ι)}
  {code code' : ε}

theorem unique (one : Enumerates next reply entries code)
    (other : Enumerates next reply entries' code') : entries = entries' ∧ code = code' := by
  induction one generalizing entries' code' with
  | ended code =>
    cases other with
    | ended => exact ⟨rfl, rfl⟩
  | found calls ih =>
  cases other with
  | found calls' =>
    obtain ⟨rest, same⟩ := ih calls'
    exact ⟨by rw [rest], same⟩

end Enumerates

/-! ## The loops of a call -/

section Loops

variable [DecidableEq κ] (key : α → κ) (wanted : κ)

/-- The loop over one bucket: it passes over the entries up to the wanted one, and stops at
the one behind it.  The flag says whether the wanted entry was met. -/
def afterKey : Bool → List α → Bool × Option α
  | met, [] => (met, none)
  | true, entry :: _ => (true, some entry)
  | false, entry :: rest => afterKey (decide (wanted = key entry)) rest

/-- The loop over the buckets. -/
def afterKeyIn : Bool → List (List α) → Bool × Option α
  | met, [] => (met, none)
  | met, bucket :: rest =>
    match afterKey key wanted met bucket with
    | (met, some entry) => (met, some entry)
    | (met, none) => afterKeyIn met rest

@[simp] theorem afterKey_true (entries : List α) :
    afterKey key wanted true entries = (true, entries.head?) := by
  cases entries <;> rfl

theorem afterKey_append (met : Bool) (front back : List α) :
    afterKey key wanted met (front ++ back) =
      match afterKey key wanted met front with
      | (met, some entry) => (met, some entry)
      | (met, none) => afterKey key wanted met back := by
  induction front generalizing met with
  | nil => rfl
  | cons entry rest ih =>
  cases met with
  | true => rfl
  | false => exact ih (decide (wanted = key entry))

theorem afterKeyIn_flatten (met : Bool) (buckets : List (List α)) :
    afterKeyIn key wanted met buckets = afterKey key wanted met buckets.flatten := by
  induction buckets generalizing met with
  | nil => rfl
  | cons bucket rest ih =>
  rw [flatten_cons, afterKey_append, afterKeyIn]
  rcases afterKey key wanted met bucket with ⟨met', found⟩
  cases found with
  | some entry => rfl
  | none => exact ih met'

theorem afterKey_at {front back : List α} {entry : α} (here : wanted = key entry)
    (apart : ∀ other ∈ front, wanted ≠ key other) :
    afterKey key wanted false (front ++ entry :: back) = (true, back.head?) := by
  induction front with
  | nil => rw [nil_append, afterKey, decide_eq_true here, afterKey_true]
  | cons other rest ih =>
    rw [cons_append, afterKey, decide_eq_false (apart other mem_cons_self)]
    exact ih fun inner member => apart inner (mem_cons_of_mem _ member)

theorem afterKey_missing {entries : List α} (apart : ∀ entry ∈ entries, wanted ≠ key entry) :
    afterKey key wanted false entries = (false, none) := by
  induction entries with
  | nil => rfl
  | cons entry rest ih =>
    rw [afterKey, decide_eq_false (apart entry mem_cons_self)]
    exact ih fun other member => apart other (mem_cons_of_mem _ member)

end Loops

/-! ## A first and a next call over the same buckets -/

/-- The parts of a pair of calls: the key and the information of an entry, the codes, and the
answer that is made of an entry, which may fail. -/
structure Enumeration (α κ ι ε : Type*) where
  key : α → κ
  info : α → ι
  noMore : ε
  invalid : ε
  answer : α → Reply κ ι ε

namespace Enumeration

variable (calls : Enumeration α κ ι ε)

/-- The answer that is made of the entry a loop stopped at, if it stopped at one. -/
def replyTo (found : Option α) (code : ε) : Reply κ ι ε :=
  match found with
  | some entry => calls.answer entry
  | none => .ended code

/-- The first call: the first entry of the first bucket that has one. -/
def first (buckets : List (List α)) : Reply κ ι ε :=
  calls.replyTo (buckets.findSome? List.head?) calls.noMore

/-- The next call. -/
def next [DecidableEq κ] (buckets : List (List α)) (wanted : κ) : Reply κ ι ε :=
  match afterKeyIn calls.key wanted false buckets with
  | (true, found) => calls.replyTo found calls.noMore
  | (false, found) => calls.replyTo found calls.invalid

/-- The answer made of an entry is the entry. -/
def Shown (entry : α) : Prop :=
  calls.answer entry = .found (calls.key entry) (calls.info entry)

/-- The entry as the caller sees it. -/
def pair (entry : α) : κ × ι :=
  (calls.key entry, calls.info entry)

theorem findSome?_head? (buckets : List (List α)) :
    buckets.findSome? List.head? = buckets.flatten.head? := by
  induction buckets with
  | nil => rfl
  | cons bucket rest ih =>
  cases bucket with
  | nil => exact ih
  | cons entry others => rfl

variable {calls} [DecidableEq κ] {buckets : List (List α)}

omit [DecidableEq κ] in
theorem first_eq : calls.first buckets = calls.replyTo buckets.flatten.head? calls.noMore := by
  rw [first, findSome?_head?]

theorem next_at {front back : List α} {entry : α} (distinct : (buckets.flatten.map calls.key).Nodup)
    (cut : buckets.flatten = front ++ entry :: back) :
    calls.next buckets (calls.key entry) = calls.replyTo back.head? calls.noMore := by
  rw [cut, map_append, map_cons] at distinct
  have apart : ∀ other ∈ front, calls.key entry ≠ calls.key other := by
    intro other member same
    exact (nodup_append.mp distinct).2.2 _ (mem_map_of_mem member) _ mem_cons_self same.symm
  rw [next, afterKeyIn_flatten, cut, afterKey_at calls.key _ rfl apart]

theorem next_missing {wanted : κ} (missing : wanted ∉ buckets.flatten.map calls.key) :
    calls.next buckets wanted = .ended calls.invalid := by
  have apart : ∀ entry ∈ buckets.flatten, wanted ≠ calls.key entry := by
    intro entry member same
    exact missing (mem_map.mpr ⟨entry, member, same.symm⟩)
  rw [next, afterKeyIn_flatten, afterKey_missing calls.key _ apart]
  rfl

section

variable (distinct : (buckets.flatten.map calls.key).Nodup)

include distinct

variable {front back : List α}

theorem enumerates_from (cut : buckets.flatten = front ++ back)
    (shown : ∀ entry ∈ back, calls.Shown entry) :
    Enumerates (calls.next buckets) (calls.replyTo back.head? calls.noMore)
      (back.map calls.pair) calls.noMore := by
  induction back generalizing front with
  | nil => exact .ended _
  | cons entry rest ih =>
  have answered : calls.replyTo (entry :: rest).head? calls.noMore =
      .found (calls.key entry) (calls.info entry) := shown entry mem_cons_self
  rw [answered]
  apply Enumerates.found
  rw [next_at distinct cut]
  have cutLater : buckets.flatten = (front ++ [entry]) ++ rest := by
    rw [cut, append_assoc, singleton_append]
  exact ih cutLater fun other member => shown other (mem_cons_of_mem _ member)

theorem enumerates (shown : ∀ entry ∈ buckets.flatten, calls.Shown entry) :
    Enumerates (calls.next buckets) (calls.first buckets) (buckets.flatten.map calls.pair)
      calls.noMore := by
  rw [first_eq]
  exact enumerates_from distinct (nil_append _).symm shown

/-- A call that fails at what is not shown ends the enumeration early. -/
theorem enumerates_failing (cut : buckets.flatten = front ++ back)
    (fails : ∀ entry, ¬ calls.Shown entry → ∃ code, code ≠ calls.noMore ∧
      calls.answer entry = .ended code) (hidden : ∃ entry ∈ back, ¬ calls.Shown entry) :
    ∃ entries code, code ≠ calls.noMore ∧
      Enumerates (calls.next buckets) (calls.replyTo back.head? calls.noMore) entries code := by
  induction back generalizing front with
  | nil =>
    obtain ⟨entry, member, -⟩ := hidden
    exact absurd member not_mem_nil
  | cons entry rest ih =>
  by_cases shown : calls.Shown entry
  · have later : ∃ other ∈ rest, ¬ calls.Shown other := by
      obtain ⟨other, member, not⟩ := hidden
      rcases mem_cons.mp member with same | inside
      · exact absurd (same ▸ shown) not
      · exact ⟨other, inside, not⟩
    have cutLater : buckets.flatten = (front ++ [entry]) ++ rest := by
      rw [cut, append_assoc, singleton_append]
    obtain ⟨entries, code, other, calls'⟩ := ih cutLater later
    have answered : calls.replyTo (entry :: rest).head? calls.noMore =
        .found (calls.key entry) (calls.info entry) := shown
    refine ⟨calls.pair entry :: entries, code, other, ?_⟩
    rw [answered]
    apply Enumerates.found
    rw [next_at distinct cut]
    exact calls'
  · obtain ⟨code, other, answered⟩ := fails entry shown
    have reply : calls.replyTo (entry :: rest).head? calls.noMore = .ended code := answered
    rw [reply]
    exact ⟨[], code, other, .ended code⟩

end

theorem enumerates_iff {entries : List α} (distinct : (entries.map calls.key).Nodup)
    (stored : buckets.flatten.Perm entries)
    (fails : ∀ entry, ¬ calls.Shown entry → ∃ code, code ≠ calls.noMore ∧
      calls.answer entry = .ended code) :
    (∃ order, order.Perm (entries.map calls.pair) ∧
        Enumerates (calls.next buckets) (calls.first buckets) order calls.noMore) ↔
      ∀ entry ∈ entries, calls.Shown entry := by
  have apart : (buckets.flatten.map calls.key).Nodup :=
    (stored.map calls.key).nodup_iff.mpr distinct
  constructor
  · rintro ⟨order, -, found⟩ entry member
    by_contra not
    have hidden : ∃ entry ∈ buckets.flatten, ¬ calls.Shown entry :=
      ⟨entry, stored.mem_iff.mpr member, not⟩
    obtain ⟨entries', code, other, ended⟩ :=
      enumerates_failing apart (nil_append _).symm fails hidden
    rw [← first_eq] at ended
    exact other (ended.unique found).2
  · intro shown
    refine ⟨_, stored.map calls.pair, enumerates apart ?_⟩
    exact fun entry member => shown entry (stored.mem_iff.mp member)

end Enumeration

end OpenFlowController.Library
