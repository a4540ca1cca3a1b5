/-
Module: Utils.MchashHistory
Purpose: Histories of a hash table: the table after a sequence of operations
  together with the safe references still outstanding and the appends made so
  far.  Along every history in which the callers keep their side of the
  interface, a reference is honoured exactly while its node is in the table, and
  the representation invariant holds up to the second increment in the append
  macro.
Trusted boundary: none
-/
import OpenFlowController.Utils.MchashInvariant
import OpenFlowController.Library.Run

namespace OpenFlowController.Utils

open Library List Function Option

variable {ν : Type*}

/-- The operations on a table. -/
inductive MchashOp (ν : Type*) where
  | append (keys : Nat) (nodeobj : ν)
  | insertAfter (node : ν) (keys : Nat) (nodeobj : ν)
  | insertBefore (node : ν) (keys : Nat) (nodeobj : ν)
  | deleteByRef (noderef : MchashNoderef)
  | deleteNode (nodeobj : ν)
  | access (noderef : MchashNoderef)

/-- A table with its history: the references handed out by insertions whose node
was not deleted since, and the number of successful appends to each bucket. -/
structure MchashHistory (ν : Type*) where
  table : MchashTable ν
  issued : List (MchashNoderef × ν)
  appended : Nat → Nat

/-- The history of a table just created. -/
def MchashHistory.create (buckets maxNodes : Nat) (nodeLinks : ν → DllNode (DllLoc ν))
    (tableLink : ν → MchashTableLink) : MchashHistory ν where
  table := mchashTableCreate buckets maxNodes nodeLinks tableLink
  issued := []
  appended := fun _ => 0

section Steps

variable [DecidableEq ν]

/-- An insertion that succeeded hands out a reference for its node. -/
def MchashHistory.inserted (history : MchashHistory ν) (nodeobj : ν) :
    MchashTable ν × Option MchashNoderef → MchashHistory ν
  | (table, none) => { history with table := table }
  | (table, some noderef) =>
    { history with table := table, issued := (noderef, nodeobj) :: history.issued }

/-- A deletion that succeeded ends every reference to its node. -/
def MchashHistory.deleted (history : MchashHistory ν) :
    MchashTable ν × DeleteResult ν → MchashHistory ν
  | (table, .deleted node) =>
    { history with
      table := table
      issued := history.issued.filter fun entry => entry.2 ≠ node }
  | (table, _) => { history with table := table }

/-- One operation. -/
def mchashStep (history : MchashHistory ν) : MchashOp ν → MchashHistory ν
  | .append keys nodeobj =>
    let result := mchashAppendNode history.table keys nodeobj
    { history.inserted nodeobj result with
      appended :=
        if result.2.isSome then
          Function.update history.appended keys (history.appended keys + 1)
        else
          history.appended }
  | .insertAfter node keys nodeobj =>
    history.inserted nodeobj (mchashInsertNodeAfter history.table node keys nodeobj)
  | .insertBefore node keys nodeobj =>
    history.inserted nodeobj (mchashInsertNodeBefore history.table node keys nodeobj)
  | .deleteByRef noderef =>
    history.deleted (mchashDeleteNodeByRef history.table noderef)
  | .deleteNode nodeobj => history.deleted (mchashDeleteNode history.table nodeobj)
  | .access _ => history

end Steps

/-- The node is linked in the bucket. -/
def LinkedIn (table : MchashTable ν) (key : Nat) (node : ν) : Prop :=
  (table.tableLink node).key = key ∧
    ∃ index < table.maxNodes, (table.indirectionArray index).nodeP = some node

/-- A reference the macros can take: its index lies in the array, and it does not
carry the magic number of a free entry to a free entry. -/
def MchashNoderef.Usable (noderef : MchashNoderef) (table : MchashTable ν) : Prop :=
  noderef.index < table.maxNodes ∧
    (noderef.magic ≠ 0 ∨ (table.indirectionArray noderef.index).magic ≠ 0)

/-- The callers' side of the interface.  A link structure attaches its node to one
place at a time, bucket indexes are below the number of buckets, the neighbour
named in an insertion is linked in the bucket named, and the link structure of a
node to be deleted was filled in by an insertion at some time. -/
def MchashOp.Allowed (history : MchashHistory ν) : MchashOp ν → Prop
  | .append keys nodeobj =>
    keys < history.table.buckets ∧ Represents.Unowned history.table nodeobj
  | .insertAfter node keys nodeobj | .insertBefore node keys nodeobj =>
    keys < history.table.buckets ∧ Represents.Unowned history.table nodeobj ∧
      LinkedIn history.table keys node
  | .deleteByRef noderef => noderef.Usable history.table
  | .deleteNode nodeobj =>
    (history.table.tableLink nodeobj).index < history.table.maxNodes ∧
      (history.table.tableLink nodeobj).key < history.table.buckets
  | .access _ => True

section Decidability

variable [DecidableEq ν]

instance (table : MchashTable ν) (node : ν) : Decidable (Represents.Unowned table node) :=
  inferInstanceAs (Decidable (∀ index < table.maxNodes, _ ≠ _))

instance (table : MchashTable ν) (key : Nat) (node : ν) : Decidable (LinkedIn table key node) :=
  inferInstanceAs (Decidable (_ ∧ ∃ index < table.maxNodes, _ = _))

instance (noderef : MchashNoderef) (table : MchashTable ν) : Decidable (noderef.Usable table) :=
  inferInstanceAs (Decidable (_ ∧ (_ ∨ _)))

instance (history : MchashHistory ν) : (op : MchashOp ν) → Decidable (op.Allowed history)
  | .append _ _ => inferInstanceAs (Decidable (_ ∧ _))
  | .insertAfter _ _ _ => inferInstanceAs (Decidable (_ ∧ _ ∧ _))
  | .insertBefore _ _ _ => inferInstanceAs (Decidable (_ ∧ _ ∧ _))
  | .deleteByRef _ => inferInstanceAs (Decidable (MchashNoderef.Usable _ _))
  | .deleteNode _ => inferInstanceAs (Decidable (_ ∧ _))
  | .access _ => inferInstanceAs (Decidable True)

end Decidability

/-- A table of one bucket for nodes numbered by natural numbers. -/
def smallHistory (maxNodes : Nat) : MchashHistory Nat :=
  MchashHistory.create 1 maxNodes (fun _ => { prev := none, next := none })
    (fun _ => { index := 0, key := 0 })

/-- The outstanding references are those the indirection array honours. -/
structure HistoryInvariant (history : MchashHistory ν) : Prop where
  represented : ∃ view, Represents history.table view ∧ view.appended = history.appended
  issued_iff : ∀ noderef node, (noderef, node) ∈ history.issued ↔
    noderef.index < history.table.maxNodes ∧ noderef.magic ≠ 0 ∧
      history.table.indirectionArray noderef.index =
        { magic := noderef.magic, nodeP := some node }

/-! ## The three insertions name a place in the bucket -/

section Places

variable {dll : DllMem (DllLoc ν)} {key : Nat} {left right : List ν} {node : ν}

theorem append_placed (chain : BucketChain dll key (left ++ [])) :
    PlacedBetween key left [] (dll.prevOf (.head key), none) where
  prev := by
    obtain ⟨back, backEq, list⟩ := chain
    rw [append_nil] at list
    exact ⟨back, backEq, list.prev_anchor⟩
  next := rfl

theorem after_placed (chain : BucketChain dll key (left ++ [node] ++ right)) :
    PlacedBetween key (left ++ [node]) right (some (.link node), dll.nextOf (.link node)) where
  prev := ⟨none, .inl rfl, by simp⟩
  next := by
    obtain ⟨back, -, list⟩ := chain
    rw [append_assoc, singleton_append, map_append, map_cons] at list
    exact list.next_cell

theorem before_placed (chain : BucketChain dll key (left ++ node :: right)) :
    PlacedBetween key left (node :: right) (dll.prevOf (.link node), some (.link node)) where
  prev := by
    obtain ⟨back, backEq, list⟩ := chain
    rw [map_append, map_cons] at list
    exact ⟨back, backEq, list.prev_cell⟩
  next := rfl

end Places

namespace Represents

variable {table : MchashTable ν} {view : MchashView ν} {key : Nat} {node : ν}

theorem linkedIn_split (rep : Represents table view) (linked : LinkedIn table key node) :
    ∃ left right, view.chain key = left ++ node :: right := by
  obtain ⟨keyEq, index, bound, owner⟩ := linked
  obtain ⟨-, -, member⟩ := rep.owner_linked index bound node owner
  rw [keyEq] at member
  exact append_of_mem member

/-- The count of a bucket alone changes nothing of the view. -/
theorem countAgain (rep : Represents table view) (key : Nat) :
    Represents (updateBucketCount table key uint32Succ)
      { view with appended := update view.appended key (view.appended key + 1) } where
  freeQueue := rep.freeQueue
  bucketChain := rep.bucketChain
  free_iff := rep.free_iff
  magic_zero_iff := rep.magic_zero_iff
  owner_linked := rep.owner_linked
  linked_owner := rep.linked_owner
  active := rep.active
  capacity := rep.capacity
  capacity_lt := rep.capacity_lt
  count := by
    intro other bound
    have count := rep.count other bound
    by_cases same : other = key
    · subst same
      simp only [updateBucketCount, update_self]
      rw [count, uint32Succ_mod, Nat.add_assoc]
    · simpa [updateBucketCount, same] using count
  prefetch := by
    intro other bound
    have prefetch := rep.prefetch other bound
    by_cases same : other = key
    · subst same
      simpa [updateBucketCount] using prefetch
    · simpa [updateBucketCount, same] using prefetch
  magicNo_ne := rep.magicNo_ne

end Represents

/-! ## One operation keeps the history invariant -/

namespace HistoryInvariant

theorem create {buckets maxNodes : Nat} (nodeLinks : ν → DllNode (DllLoc ν))
    (tableLink : ν → MchashTableLink) (someNodes : 0 < maxNodes)
    (uint32 : maxNodes < 2 ^ 32) :
    HistoryInvariant (MchashHistory.create buckets maxNodes nodeLinks tableLink) where
  represented := ⟨_, Represents.create nodeLinks tableLink someNodes uint32, rfl⟩
  issued_iff := by
    intro noderef node
    simp [MchashHistory.create, mchashTableCreate]

variable [DecidableEq ν] {history : MchashHistory ν} {nodeobj : ν} {keys : Nat}
  {left right : List ν}
  {place : DllMem (DllLoc ν) → Option (DllLoc ν) × Option (DllLoc ν)}

section

variable (invariant : HistoryInvariant history)

include invariant

variable {view : MchashView ν}

/-- What an insertion does to the table and to the references outstanding. -/
theorem insertAt_cases (rep : Represents history.table view) (bound : keys < history.table.buckets)
    (unowned : Represents.Unowned history.table nodeobj) (chainEq : view.chain keys = left ++ right)
    (placed : ∀ dll : DllMem (DllLoc ν), BucketChain dll keys (left ++ right) →
      PlacedBetween keys left right (place dll)) :
    insertAt history.table keys nodeobj place = (history.table, none) ∨
      ∃ noderef after view', insertAt history.table keys nodeobj place = (after, some noderef) ∧
        Represents after view' ∧ view'.appended = view.appended ∧
        ∀ other node, (other, node) ∈ (noderef, nodeobj) :: history.issued ↔
          other.index < after.maxNodes ∧ other.magic ≠ 0 ∧
            after.indirectionArray other.index =
              { magic := other.magic, nodeP := some node } := by
  cases free : view.free with
  | nil => exact .inl (rep.insertAt_full free)
  | cons index rest =>
  have ready : Insertable history.table view index keys rest nodeobj left right place :=
    ⟨rep, free, bound, unowned, chainEq, placed⟩
  refine .inr ⟨_, _, _, rep.insertAt_free free, ready.represents, rfl, ?_⟩
  intro other node
  rw [mem_cons, insertedTable_entries, invariant.issued_iff]
  by_cases same : other.index = index
  · have empty := ready.index_free.2
    rw [same, update_self]
    constructor
    · intro either
      rcases either with new | old
      · obtain ⟨rfl, rfl⟩ := Prod.mk.inj new
        exact ⟨ready.index_free.1, rep.magicNo_ne, rfl⟩
      · rw [old.2.2] at empty
        simp at empty
    · intro honoured
      obtain ⟨magicEq, nodeEq⟩ := ArrayIndirectEntry.mk.inj honoured.2.2
      obtain rfl := some.inj nodeEq
      exact .inl (Prod.ext (MchashNoderef.ext same magicEq.symm) rfl)
  · rw [update_of_ne same]
    constructor
    · intro either
      rcases either with new | old
      · exact absurd (congrArg (fun entry => entry.1.index) new) same
      · exact old
    · exact Or.inr

theorem insertNode (rep : Represents history.table view)
    (appendedEq : view.appended = history.appended) (bound : keys < history.table.buckets)
    (unowned : Represents.Unowned history.table nodeobj) (chainEq : view.chain keys = left ++ right)
    (placed : ∀ dll : DllMem (DllLoc ν), BucketChain dll keys (left ++ right) →
      PlacedBetween keys left right (place dll)) :
    HistoryInvariant (history.inserted nodeobj (insertAt history.table keys nodeobj place)) := by
  rcases invariant.insertAt_cases rep bound unowned chainEq placed with
    full | ⟨noderef, after, view', result, rep', appended', issued'⟩
  · rw [full]
    exact invariant
  · rw [result]
    exact ⟨⟨view', rep', appended'.trans appendedEq⟩, issued'⟩

theorem insertAfter {node : ν} (bound : keys < history.table.buckets)
    (unowned : Represents.Unowned history.table nodeobj) (linked : LinkedIn history.table keys node) :
    HistoryInvariant (mchashStep history (.insertAfter node keys nodeobj)) := by
  obtain ⟨view, rep, appendedEq⟩ := invariant.represented
  obtain ⟨left, right, chainEq⟩ := rep.linkedIn_split linked
  have chainEq' : view.chain keys = (left ++ [node]) ++ right := by simpa using chainEq
  exact invariant.insertNode rep appendedEq bound unowned chainEq'
    fun dll chain => after_placed chain

theorem insertBefore {node : ν} (bound : keys < history.table.buckets)
    (unowned : Represents.Unowned history.table nodeobj) (linked : LinkedIn history.table keys node) :
    HistoryInvariant (mchashStep history (.insertBefore node keys nodeobj)) := by
  obtain ⟨view, rep, appendedEq⟩ := invariant.represented
  obtain ⟨left, right, chainEq⟩ := rep.linkedIn_split linked
  exact invariant.insertNode rep appendedEq bound unowned chainEq
    fun dll chain => before_placed chain

end

theorem append (invariant : HistoryInvariant history) (bound : keys < history.table.buckets)
    (unowned : Represents.Unowned history.table nodeobj) :
    HistoryInvariant (mchashStep history (.append keys nodeobj)) := by
  obtain ⟨view, rep, appendedEq⟩ := invariant.represented
  have chainEq : view.chain keys = view.chain keys ++ [] := (append_nil _).symm
  rcases invariant.insertAt_cases rep bound unowned chainEq
      (fun dll chain => append_placed chain) with
    full | ⟨noderef, after, view', result, rep', appended', issued'⟩
  · simp only [mchashStep, mchashAppendNode, full]
    exact invariant
  · simp only [mchashStep, mchashAppendNode, result]
    exact ⟨⟨_, rep'.countAgain keys, by rw [appended', appendedEq]; rfl⟩, issued'⟩

section

variable (invariant : HistoryInvariant history)

include invariant

/-- Removing a node keeps the history. -/
theorem removeNode {index : Nat} {node : ν} (bound : index < history.table.maxNodes)
    (owner : (history.table.indirectionArray index).nodeP = some node) :
    HistoryInvariant
      (history.deleted
        (removeNode history.table index (history.table.tableLink node).key node,
          .deleted node)) := by
  obtain ⟨view, rep, appendedEq⟩ := invariant.represented
  obtain ⟨left, right, ready⟩ := rep.removable bound owner
  refine ⟨⟨_, ready.represents, appendedEq⟩, ?_⟩
  intro other kept
  simp only [MchashHistory.deleted, removeNode_maxNodes, removeNode_entries,
    mem_filter, decide_eq_true_eq, invariant.issued_iff]
  by_cases same : other.index = index
  · rw [same, update_self]
    constructor
    · intro old
      have keptEq : some node = some kept := by
        rw [← owner, old.1.2.2]
      exact absurd (some.inj keptEq).symm old.2
    · intro honoured
      simp at honoured
  rw [update_of_ne same]
  constructor
  · exact fun old => old.1
  intro honoured
  refine ⟨honoured, ?_⟩
  intro keptEq
  subst keptEq
  have keptIndex := (rep.owner_linked other.index honoured.1 kept (by rw [honoured.2.2])).1
  exact same (keptIndex.symm.trans ready.linkIndex)

theorem deleteByRef {noderef : MchashNoderef} (usable : noderef.Usable history.table) :
    HistoryInvariant (mchashStep history (.deleteByRef noderef)) := by
  simp only [mchashStep, mchashDeleteNodeByRef, if_pos usable.1]
  split
  · split
    · exact invariant
    · next node owner =>
        split
        · exact invariant.removeNode usable.1 owner
        · exact invariant
  · exact invariant

theorem deleteNode : HistoryInvariant (mchashStep history (.deleteNode nodeobj)) := by
  simp only [mchashStep, mchashDeleteNode]
  split
  · next inRange =>
      split
      · next owner => exact invariant.removeNode inRange.1 owner
      · exact invariant
  · exact invariant

theorem step {op : MchashOp ν} (allowed : op.Allowed history) :
    HistoryInvariant (mchashStep history op) := by
  cases op with
  | append keys nodeobj => exact invariant.append allowed.1 allowed.2
  | insertAfter node keys nodeobj =>
    exact invariant.insertAfter allowed.1 allowed.2.1 allowed.2.2
  | insertBefore node keys nodeobj =>
    exact invariant.insertBefore allowed.1 allowed.2.1 allowed.2.2
  | deleteByRef noderef => exact invariant.deleteByRef allowed
  | deleteNode nodeobj => exact invariant.deleteNode
  | access noderef => exact invariant

end

theorem run {ops : List (MchashOp ν)} (invariant : HistoryInvariant history)
    (allowed : Along mchashStep (fun history op => op.Allowed history) history ops) :
    HistoryInvariant (ops.foldl mchashStep history) :=
  Along.invariant (fun _ _ invariant allowed => invariant.step allowed) invariant allowed

end HistoryInvariant

/-! ## Safe references -/

section References

variable [DecidableEq ν]

/-- The promise of the safe references for one pair of index and magic number:
it is honoured with exactly the node it was issued for while that node is in the
table, and otherwise it is refused and deletes nothing. -/
structure ReferenceHonoured (history : MchashHistory ν) (noderef : MchashNoderef) :
    Prop where
  valid_iff : ∀ node, mchashAccessNode history.table noderef = .valid (some node) ↔
    (noderef, node) ∈ history.issued
  stale : (∀ node, (noderef, node) ∉ history.issued) →
    mchashAccessNode history.table noderef = .invalid ∧
      mchashDeleteNodeByRef history.table noderef = (history.table, .notDeleted)

variable {history : MchashHistory ν} {noderef : MchashNoderef}

section

variable (invariant : HistoryInvariant history)

include invariant

omit [DecidableEq ν] in
theorem HistoryInvariant.access_valid_iff (usable : noderef.Usable history.table) (node : ν) :
    mchashAccessNode history.table noderef = .valid (some node) ↔
      (noderef, node) ∈ history.issued := by
  obtain ⟨view, rep, -⟩ := invariant.represented
  have zeroIff := rep.magic_zero_iff noderef.index usable.1
  rw [invariant.issued_iff, mchashAccessNode, if_pos usable.1]
  constructor
  · intro valid
    split at valid
    · next magicEq =>
        have owner := some.inj (AccessResult.valid.inj valid ▸ rfl :
          some (history.table.indirectionArray noderef.index).nodeP = some (some node))
        refine ⟨usable.1, ?_, ArrayIndirectEntry.ext magicEq.symm owner⟩
        rw [magicEq]
        intro zero
        rw [zeroIff.mp zero] at owner
        simp at owner
    · simp at valid
  · intro issued
    rw [issued.2.2]
    simp

omit [DecidableEq ν] in
theorem HistoryInvariant.stale_refused (usable : noderef.Usable history.table)
    (stale : ∀ node, (noderef, node) ∉ history.issued) :
    noderef.magic ≠ (history.table.indirectionArray noderef.index).magic := by
  obtain ⟨view, rep, -⟩ := invariant.represented
  intro magicEq
  have nonzero : noderef.magic ≠ 0 := by
    rcases usable.2 with own | entry
    · exact own
    · rw [magicEq]
      exact entry
  cases owner : (history.table.indirectionArray noderef.index).nodeP with
  | none =>
    have zero := (rep.magic_zero_iff noderef.index usable.1).mpr owner
    exact nonzero (magicEq.trans zero)
  | some node =>
    refine stale node ((invariant.issued_iff noderef node).mpr ⟨usable.1, nonzero, ?_⟩)
    exact ArrayIndirectEntry.ext magicEq.symm owner

/-- A reference is honoured exactly when it is usable. -/
theorem HistoryInvariant.honoured_iff :
    ReferenceHonoured history noderef ↔ noderef.Usable history.table := by
  constructor
  · intro honoured
    by_contra unusable
    have stale : ∀ node, (noderef, node) ∉ history.issued := by
      intro node issued
      have live := (invariant.issued_iff noderef node).mp issued
      exact unusable ⟨live.1, .inl live.2.1⟩
    have refused := (honoured.stale stale).1
    rw [mchashAccessNode] at refused
    split at refused
    · next inRange =>
        have bothZero : noderef.magic = 0 ∧
            (history.table.indirectionArray noderef.index).magic = 0 := by
          by_contra notBoth
          refine unusable ⟨inRange, ?_⟩
          by_contra neither
          exact notBoth (not_or.mp neither |>.imp not_not.mp not_not.mp)
        rw [bothZero.1, bothZero.2] at refused
        simp at refused
    · simp at refused
  · intro usable
    refine ⟨invariant.access_valid_iff usable, fun stale => ?_⟩
    have magicNe := invariant.stale_refused usable stale
    constructor
    · rw [mchashAccessNode, if_pos usable.1, if_neg magicNe]
    · simp only [mchashDeleteNodeByRef, if_pos usable.1, if_neg magicNe]

end

/-- In every history of a table, a pair of index and magic number is treated as
the safe references promise exactly when it is usable. -/
theorem noderef_honoured_iff {buckets maxNodes : Nat}
    (nodeLinks : ν → DllNode (DllLoc ν)) (tableLink : ν → MchashTableLink)
    (someNodes : 0 < maxNodes) (uint32 : maxNodes < 2 ^ 32) (ops : List (MchashOp ν))
    (allowed : Along mchashStep (fun history op => op.Allowed history)
      (MchashHistory.create buckets maxNodes nodeLinks tableLink) ops)
    (noderef : MchashNoderef) :
    ReferenceHonoured
        (ops.foldl mchashStep (MchashHistory.create buckets maxNodes nodeLinks tableLink))
        noderef ↔
      noderef.Usable
        (ops.foldl mchashStep (MchashHistory.create buckets maxNodes nodeLinks tableLink)).table :=
  ((HistoryInvariant.create nodeLinks tableLink someNodes uint32).run allowed).honoured_iff

/-- The reference of a node just appended, and the operations before it. -/
theorem noderef_honoured_iff_appended :
    let ops : List (MchashOp Nat) := [.append 0 7, .deleteByRef ⟨0, 1⟩, .append 0 8]
    ReferenceHonoured (ops.foldl mchashStep (smallHistory 1)) ⟨0, 2⟩ ↔
      MchashNoderef.Usable ⟨0, 2⟩ (ops.foldl mchashStep (smallHistory 1)).table :=
  noderef_honoured_iff _ _ (by decide) (by decide) _ (by decide) _

/-- Once its node is deleted, an entry carries magic number 0; the pair with that
number is reported valid without a node, and a deletion by it reads through a
null pointer. -/
theorem magic_zero_reference_honours_nothing :
    let ops : List (MchashOp Nat) := [.append 0 7, .deleteByRef ⟨0, 1⟩]
    let reached := ops.foldl mchashStep (smallHistory 1)
    Along mchashStep (fun history op => op.Allowed history) (smallHistory 1) ops ∧
      mchashAccessNode reached.table ⟨0, 0⟩ = .valid none ∧
      (mchashDeleteNodeByRef reached.table ⟨0, 0⟩).2 = .fault ∧
      ¬ ReferenceHonoured reached ⟨0, 0⟩ := by
  refine ⟨by decide, by decide, by decide, ?_⟩
  intro honoured
  have noneIssued : ((([.append 0 7, .deleteByRef ⟨0, 1⟩] : List (MchashOp Nat)).foldl
      mchashStep (smallHistory 1)).issued) = [] := by decide
  have stale := honoured.stale (fun node => by rw [noneIssued]; exact not_mem_nil)
  exact absurd stale.1 (by decide)

end References

/-! ## The representation invariant -/

section Representation

variable [DecidableEq ν]

/-- The representation invariant of a table: well-formed bucket lists, exact
counters, every entry free or owned by exactly one linked node, caches that hold
the first nodes of their bucket, and appends that fail only on a full table. -/
structure RepresentationInvariant (table : MchashTable ν) (chain : Nat → List ν)
    (free : List Nat) : Prop where
  lists : ∀ key < table.buckets, BucketChain table.dll key (chain key)
  counts : ∀ key < table.buckets, (table.bucketList key).count = (chain key).length
  activeNodes : table.activeNodes = linkedTotal table.buckets chain
  freeQueue : Dll table.dll .freeQ none (free.map .slot)
  entries : ∀ index < table.maxNodes,
    (index ∈ free ∧ (table.indirectionArray index).nodeP = none) ∨
      (index ∉ free ∧ ∃! node, (table.indirectionArray index).nodeP = some node ∧
        (table.tableLink node).index = index ∧
        ∃ key < table.buckets, node ∈ chain key)
  owned : ∀ key < table.buckets, ∀ node ∈ chain key,
    (table.tableLink node).index < table.maxNodes ∧
      (table.indirectionArray (table.tableLink node).index).nodeP = some node
  prefetch : ∀ key < table.buckets, (table.bucketList key).prefetchNodes = prefetchOf (chain key)
  append_fails_iff : ∀ key < table.buckets, ∀ node,
    (mchashAppendNode table key node).2 = none ↔
      linkedTotal table.buckets chain = table.maxNodes

namespace Represents

variable {table : MchashTable ν} {view : MchashView ν}

section

variable (rep : Represents table view)

include rep

omit [DecidableEq ν] in
theorem length_lt {key : Nat} (bound : key < table.buckets) : (view.chain key).length < 2 ^ 32 := by
  have below := length_le_linkedTotal view.chain bound
  have active := rep.active
  have capacity := rep.capacity
  have small := rep.capacity_lt
  omega

omit [DecidableEq ν] in
theorem full_iff : view.free = [] ↔ linkedTotal table.buckets view.chain = table.maxNodes := by
  have active := rep.active
  have capacity := rep.capacity
  rw [← length_eq_zero_iff]
  omega

theorem append_fails_iff (key : Nat) (node : ν) :
    (mchashAppendNode table key node).2 = none ↔
      linkedTotal table.buckets view.chain = table.maxNodes := by
  rw [← rep.full_iff, mchashAppendNode]
  cases free : view.free with
  | nil => simp [rep.insertAt_full free]
  | cons index rest => simp [rep.insertAt_free free]

omit [DecidableEq ν] in
theorem entry_free_or_owned (index : Nat) (bound : index < table.maxNodes) :
    (index ∈ view.free ∧ (table.indirectionArray index).nodeP = none) ∨
      (index ∉ view.free ∧ ∃! node, (table.indirectionArray index).nodeP = some node ∧
        (table.tableLink node).index = index ∧
        ∃ key < table.buckets, node ∈ view.chain key) := by
  have freeIff := rep.free_iff index
  cases owner : (table.indirectionArray index).nodeP with
  | none => exact .inl ⟨freeIff.mpr ⟨bound, owner⟩, rfl⟩
  | some node =>
  obtain ⟨indexEq, keyBound, member⟩ := rep.owner_linked index bound node owner
  refine .inr ⟨?_, node, ⟨rfl, indexEq, _, keyBound, member⟩, ?_⟩
  · intro isFree
    have empty := (freeIff.mp isFree).2
    rw [owner] at empty
    simp at empty
  · intro other owns
    exact (some.inj owns.1).symm

theorem representationInvariant (exact : ∀ key < table.buckets, view.appended key % 2 ^ 32 = 0) :
    RepresentationInvariant table view.chain view.free where
  lists := rep.bucketChain
  counts := by
    intro key bound
    have small := rep.length_lt bound
    have multiple := exact key bound
    rw [rep.count key bound]
    omega
  activeNodes := rep.active
  freeQueue := rep.freeQueue
  entries := rep.entry_free_or_owned
  owned := fun key bound node member => (rep.linked_owner key bound node member).2
  prefetch := rep.prefetch
  append_fails_iff := fun key _ node => rep.append_fails_iff key node

theorem appended_of_count {chain : Nat → List ν} {free : List Nat}
    (invariant : RepresentationInvariant table chain free) {key : Nat} (bound : key < table.buckets) :
    view.appended key % 2 ^ 32 = 0 := by
  have sameChain := (rep.bucketChain key bound).unique (invariant.lists key bound)
  have counted := rep.count key bound
  rw [invariant.counts key bound, ← sameChain] at counted
  omega

end

end Represents

/-- In every history of a table, the representation invariant holds exactly when
every bucket has seen a multiple of `2 ^ 32` successful appends. -/
theorem representationInvariant_iff {buckets maxNodes : Nat}
    (nodeLinks : ν → DllNode (DllLoc ν)) (tableLink : ν → MchashTableLink)
    (someNodes : 0 < maxNodes) (uint32 : maxNodes < 2 ^ 32) (ops : List (MchashOp ν))
    (allowed : Along mchashStep (fun history op => op.Allowed history)
      (MchashHistory.create buckets maxNodes nodeLinks tableLink) ops) :
    let reached :=
      ops.foldl mchashStep (MchashHistory.create buckets maxNodes nodeLinks tableLink)
    (∃ chain free, RepresentationInvariant reached.table chain free) ↔
      ∀ key < reached.table.buckets, reached.appended key % 2 ^ 32 = 0 := by
  intro reached
  obtain ⟨view, rep, appendedEq⟩ :=
    ((HistoryInvariant.create nodeLinks tableLink someNodes uint32).run allowed).represented
  constructor
  · intro holds key bound
    obtain ⟨chain, free, invariant⟩ := holds
    have exact := rep.appended_of_count invariant bound
    rwa [appendedEq] at exact
  · intro exact
    exact ⟨view.chain, view.free, rep.representationInvariant (appendedEq ▸ exact)⟩

theorem representationInvariant_iff_inserted :
    let ops : List (MchashOp Nat) := [.append 0 7, .insertBefore 7 0 8, .deleteNode 7]
    let reached := ops.foldl mchashStep (smallHistory 2)
    (∃ chain free, RepresentationInvariant reached.table chain free) ↔
      ∀ key < reached.table.buckets, reached.appended key % 2 ^ 32 = 0 :=
  representationInvariant_iff _ _ (by decide) (by decide) _ (by decide)

/-- After the first append the bucket counts two nodes and holds one. -/
theorem append_counts_twice :
    let reached := mchashStep (smallHistory 2) (.append 0 7)
    MchashOp.Allowed (smallHistory 2) (.append 0 7) ∧
      (reached.table.bucketList 0).count = 2 ∧
      ¬ ∃ chain free, RepresentationInvariant reached.table chain free := by
  refine ⟨by decide, by decide, ?_⟩
  intro holds
  obtain ⟨chain, free, invariant⟩ := holds
  have count := invariant.counts 0 (by decide)
  have total := invariant.activeNodes
  have small : (chain 0).length ≤ linkedTotal 1 chain :=
    length_le_linkedTotal chain (by decide)
  have counted : ((mchashStep (smallHistory 2) (.append 0 7)).table.bucketList 0).count = 2 := by
    decide
  have active : (mchashStep (smallHistory 2) (.append 0 7)).table.activeNodes = 1 := by
    decide
  rw [active] at total
  have bounded : (chain 0).length ≤ 1 := by
    rw [total]
    exact small
  omega

end Representation

end OpenFlowController.Utils
