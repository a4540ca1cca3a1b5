/-
Module: Utils.MchashInvariant
Purpose: What a hash table stands for: a list of nodes for every bucket and a
  queue of free entries of the indirection array.  `Represents` ties the
  pointers, counters and caches of a table to that view, and every operation is
  shown to keep it.
Trusted boundary: none
-/
import OpenFlowController.Utils.Mchash

namespace OpenFlowController.Utils

open Library List Function

variable {ν : Type*}

/-- The purpose of a table, without pointers.  `appended b` counts the appends
made to bucket `b` so far. -/
structure MchashView (ν : Type*) where
  chain : Nat → List ν
  free : List Nat
  appended : Nat → Nat

/-- The nodes linked in the first `buckets` buckets. -/
def linkedTotal (buckets : Nat) (chain : Nat → List ν) : Nat :=
  ∑ key ∈ Finset.range buckets, (chain key).length

variable {buckets key : Nat}

theorem linkedTotal_update (chain : Nat → List ν) (nodes : List ν) (bound : key < buckets) :
    linkedTotal buckets (update chain key nodes) + (chain key).length =
      linkedTotal buckets chain + nodes.length := by
  have member : key ∈ Finset.range buckets := Finset.mem_range.mpr bound
  unfold linkedTotal
  rw [← Finset.add_sum_erase _ _ member, ← Finset.add_sum_erase (Finset.range buckets)
    (fun other => (chain other).length) member, update_self]
  have others :
      ∑ other ∈ (Finset.range buckets).erase key, (update chain key nodes other).length =
        ∑ other ∈ (Finset.range buckets).erase key, (chain other).length := by
    apply Finset.sum_congr rfl
    intro other otherMem
    rw [update_of_ne (Finset.ne_of_mem_erase otherMem)]
  omega

theorem linkedTotal_nil (buckets : Nat) : linkedTotal buckets (fun _ => ([] : List ν)) = 0 := by
  simp [linkedTotal]

theorem length_le_linkedTotal (chain : Nat → List ν) (bound : key < buckets) :
    (chain key).length ≤ linkedTotal buckets chain :=
  Finset.single_le_sum (f := fun other => (chain other).length)
    (fun _ _ => Nat.zero_le _) (Finset.mem_range.mpr bound)

/-- The cache of a bucket that holds `nodes`. -/
def prefetchOf (nodes : List ν) : List (Option (DllLoc ν)) :=
  (nodes.take mchashMaxHashbucketCacheNodes).map (fun node => some (.link node)) ++
    List.replicate (mchashMaxHashbucketCacheNodes - nodes.length) none

/-- The list of a bucket, well formed for its head.  A list emptied or shortened
at the front has the head where a list never shortened has null. -/
def BucketChain (dll : DllMem (DllLoc ν)) (key : Nat) (nodes : List ν) : Prop :=
  ∃ back, (back = none ∨ back = some (DllLoc.head key)) ∧
    Dll dll (.head key) back (nodes.map .link)

/-- The table stands for the view. -/
structure Represents (table : MchashTable ν) (view : MchashView ν) : Prop where
  freeQueue : Dll table.dll .freeQ none (view.free.map .slot)
  bucketChain : ∀ key < table.buckets, BucketChain table.dll key (view.chain key)
  free_iff : ∀ index, index ∈ view.free ↔
    index < table.maxNodes ∧ (table.indirectionArray index).nodeP = none
  magic_zero_iff : ∀ index < table.maxNodes,
    (table.indirectionArray index).magic = 0 ↔
      (table.indirectionArray index).nodeP = none
  owner_linked : ∀ index < table.maxNodes, ∀ node,
    (table.indirectionArray index).nodeP = some node →
      (table.tableLink node).index = index ∧
        (table.tableLink node).key < table.buckets ∧
        node ∈ view.chain (table.tableLink node).key
  linked_owner : ∀ key < table.buckets, ∀ node ∈ view.chain key,
    (table.tableLink node).key = key ∧
      (table.tableLink node).index < table.maxNodes ∧
      (table.indirectionArray (table.tableLink node).index).nodeP = some node
  active : table.activeNodes = linkedTotal table.buckets view.chain
  capacity : table.activeNodes + view.free.length = table.maxNodes
  capacity_lt : table.maxNodes < 2 ^ 32
  count : ∀ key < table.buckets,
    (table.bucketList key).count =
      ((view.chain key).length + view.appended key) % 2 ^ 32
  prefetch : ∀ key < table.buckets,
    (table.bucketList key).prefetchNodes = prefetchOf (view.chain key)
  magicNo_ne : table.magicNo ≠ 0

/-! ## Small facts about the pieces -/

theorem nextMagicNo_ne (magic : Nat) : nextMagicNo magic ≠ 0 := by
  unfold nextMagicNo
  split
  · decide
  · assumption

variable {dll : DllMem (DllLoc ν)}

theorem prefetchFrom_eq {start : Option (DllLoc ν)} {nodes : List ν} (room : Nat)
    (seg : Seg dll.nextOf start (nodes.map .link) none) :
    prefetchFrom dll room start =
      (nodes.take room).map (fun node => some (.link node)) ++
        replicate (room - nodes.length) none := by
  induction room generalizing start nodes with
  | zero => simp [prefetchFrom]
  | succ room ih =>
  cases nodes with
  | nil =>
    have startEq : start = none := by simpa using seg
    subst startEq
    rw [prefetchFrom, ih (by simp : Seg dll.nextOf none (([] : List ν).map .link) none)]
    simp [replicate_succ]
  | cons node rest =>
  obtain ⟨startEq, restSeg⟩ := seg
  subst startEq
  rw [prefetchFrom, ih restSeg]
  simp

theorem prefetch_eq {nodes : List ν} (chain : BucketChain dll key nodes) :
    prefetchFrom dll mchashMaxHashbucketCacheNodes (dll.nextOf (.head key)) =
      prefetchOf nodes := by
  obtain ⟨back, -, list⟩ := chain
  exact prefetchFrom_eq _ list.forward

/-! ## The four rewritings of the list pointers

Each keeps the list it works on and leaves every other list as it is. -/

namespace BucketChain

variable {dll dll' : DllMem (DllLoc ν)} {key : Nat} {nodes : List ν} {node : ν}

theorem frame (headKept : dll' (.head key) = dll (.head key))
    (linksKept : ∀ node ∈ nodes, dll' (.link node) = dll (.link node))
    (chain : BucketChain dll key nodes) : BucketChain dll' key nodes := by
  obtain ⟨back, backEq, list⟩ := chain
  refine ⟨back, backEq, list.frame ?_⟩
  intro other member
  rcases mem_cons.mp member with same | linked
  · rw [same]
    exact headKept
  · obtain ⟨node, nodeMem, rfl⟩ := mem_map.mp linked
    exact linksKept node nodeMem

theorem nodup (chain : BucketChain dll key nodes) : nodes.Nodup := by
  obtain ⟨back, -, list⟩ := chain
  exact (nodup_cons.mp list.nodup).2.of_map _

theorem unique {nodes' : List ν} (chain : BucketChain dll key nodes)
    (chain' : BucketChain dll key nodes') : nodes = nodes' := by
  obtain ⟨back, -, list⟩ := chain
  obtain ⟨back', -, list'⟩ := chain'
  have injective : Function.Injective (DllLoc.link (ν := ν)) := by
    intro node other same
    exact DllLoc.link.inj same
  exact map_injective_iff.mpr injective (list.unique list')

end BucketChain

private theorem getD_getLast?_or {back : Option (DllLoc ν)} {anchor : DllLoc ν}
    (backEq : back = none ∨ back = some anchor) (cells : List (DllLoc ν)) :
    (cells.getLast?.or back).getD anchor = cells.getLastD anchor := by
  rw [getLastD_eq_getLast?]
  cases cells.getLast? with
  | none => rcases backEq with rfl | rfl <;> rfl
  | some last => rfl

private theorem getD_head? (anchor : DllLoc ν) (cells : List (DllLoc ν)) :
    cells.head?.getD anchor = cells.headD anchor := by
  cases cells <;> rfl

section Rewriting

variable [DecidableEq ν] {dll : DllMem (DllLoc ν)} {key index : Nat} {rest : List Nat}
  {left right : List ν} {node : ν}

omit [DecidableEq ν] in
private theorem queue_next_first (queue : Dll dll .freeQ none ((index :: rest).map .slot)) :
    dll.nextOf (.slot index) = (rest.map DllLoc.slot).head? := by
  have split : Dll dll .freeQ none ([] ++ DllLoc.slot index :: rest.map .slot) := queue
  exact split.next_cell

theorem detachFreeEntry_freeQueue (queue : Dll dll .freeQ none ((index :: rest).map .slot)) :
    Dll (detachFreeEntry dll index) .freeQ none (rest.map .slot) := by
  have nextEq := queue_next_first queue
  have split : Dll dll .freeQ none ([] ++ DllLoc.slot index :: rest.map .slot) := queue
  have detached := split.unlink none rfl
  rw [getLastD_nil, nextEq, ← getD_head?] at detached
  rw [detachFreeEntry, nextEq]
  exact detached

variable {loc : DllLoc ν}

theorem detachFreeEntry_of_ne (queue : Dll dll .freeQ none ((index :: rest).map .slot))
    (outside : loc ∉ DllLoc.freeQ :: (index :: rest).map .slot) :
    detachFreeEntry dll index loc = dll loc := by
  have nextEq := queue_next_first queue
  rw [detachFreeEntry, nextEq, getD_head?]
  apply DllMem.linkOut_of_ne
  · intro same
    subst same
    exact outside (by simp)
  intro same
  subst same
  have member := Dll.after_mem [] (rest.map DllLoc.slot) (DllLoc.freeQ (ν := ν))
  apply outside
  simp only [nil_append, mem_cons] at member ⊢
  tauto

variable {free : List Nat}

theorem appendFreeEntry_eq (queue : Dll dll .freeQ none (free.map .slot)) :
    appendFreeEntry dll index =
      dll.linkIn (.slot index) ((free.map DllLoc.slot).getLastD .freeQ) .freeQ none
        (free.map DllLoc.slot).getLast? := by
  have tailEq : dll.prevOf .freeQ = (free.map DllLoc.slot).getLast? := by
    simpa using queue.prev_anchor
  rw [appendFreeEntry, tailEq, getLastD_eq_getLast?]
  cases (free.map DllLoc.slot).getLast? with
  | none => rfl
  | some last => rfl

theorem appendFreeEntry_freeQueue (fresh : index ∉ free)
    (queue : Dll dll .freeQ none (free.map .slot)) :
    Dll (appendFreeEntry dll index) .freeQ none ((free ++ [index]).map .slot) := by
  have padded : Dll dll .freeQ none (free.map DllLoc.slot ++ []) := by
    simpa using queue
  have freshCell : (DllLoc.slot index : DllLoc ν) ∉ .freeQ :: (free.map .slot ++ []) := by
    simpa using fresh
  have inserted := padded.insert none freshCell Option.or_none.symm
  rw [appendFreeEntry_eq queue, map_append]
  simpa using inserted

theorem appendFreeEntry_of_ne (queue : Dll dll .freeQ none (free.map .slot))
    (outside : loc ∉ DllLoc.freeQ :: (index :: free).map .slot) :
    appendFreeEntry dll index loc = dll loc := by
  rw [appendFreeEntry_eq queue]
  have member := Dll.before_mem (free.map DllLoc.slot) [] (DllLoc.freeQ (ν := ν))
  apply DllMem.linkIn_of_ne
  · intro same
    subst same
    exact outside (by simp)
  · intro same
    subst same
    apply outside
    simp only [append_nil, map_cons, mem_cons] at member ⊢
    tauto
  · intro same
    subst same
    exact outside (by simp)

/-- `prevP` and `nextP` name the place between `left` and `right` in the bucket,
the way the insertion macros name it. -/
structure PlacedBetween (key : Nat) (left right : List ν)
    (place : Option (DllLoc ν) × Option (DllLoc ν)) : Prop where
  prev : ∃ back, (back = none ∨ back = some (DllLoc.head key)) ∧
    place.1 = (left.map DllLoc.link).getLast?.or back
  next : place.2 = (right.map DllLoc.link).head?

variable {place : Option (DllLoc ν) × Option (DllLoc ν)}

theorem linkIn_bucketChain (chain : BucketChain dll key (left ++ right))
    (fresh : node ∉ left ++ right) (placed : PlacedBetween key left right place) :
    BucketChain (dll.linkIn (.link node) (place.1.getD (.head key))
      (place.2.getD (.head key)) place.2 place.1) key (left ++ node :: right) := by
  obtain ⟨back, backEq, list⟩ := chain
  obtain ⟨back', backEq', prevEq⟩ := placed.prev
  rw [map_append] at list
  have freshCell :
      DllLoc.link node ∉ DllLoc.head key :: (left.map DllLoc.link ++ right.map DllLoc.link) := by
    simpa using fresh
  have inserted := list.insert back' freshCell prevEq
  rw [← getD_getLast?_or backEq', ← prevEq, ← getD_head?, ← placed.next] at inserted
  refine ⟨_, ?_, by simpa using inserted⟩
  split
  · exact backEq'
  · exact backEq

theorem linkIn_bucket_of_ne (placed : PlacedBetween key left right place)
    (outside : loc ∉ DllLoc.head key :: (left ++ node :: right).map .link) :
    dll.linkIn (.link node) (place.1.getD (.head key)) (place.2.getD (.head key))
      place.2 place.1 loc = dll loc := by
  obtain ⟨back, backEq, prevEq⟩ := placed.prev
  rw [prevEq, getD_getLast?_or backEq, placed.next, getD_head?]
  have before := Dll.before_mem (left.map DllLoc.link) (right.map DllLoc.link) (DllLoc.head key)
  have after := Dll.after_mem (left.map DllLoc.link) (right.map DllLoc.link) (DllLoc.head key)
  rw [map_append, map_cons] at outside
  apply DllMem.linkIn_of_ne
  · intro same
    subst same
    exact outside (by simp)
  · intro same
    subst same
    apply outside
    simp only [mem_cons, mem_append] at before ⊢
    tauto
  intro same
  subst same
  apply outside
  simp only [mem_cons, mem_append] at after ⊢
  tauto

private theorem unlinkNode_eq {back : Option (DllLoc ν)}
    (backEq : back = none ∨ back = some (.head key))
    (list : Dll dll (.head key) back
      (left.map DllLoc.link ++ .link node :: right.map DllLoc.link)) :
    unlinkNode dll key node =
      dll.linkOut ((left.map DllLoc.link).getLastD (.head key))
        ((right.map DllLoc.link).headD (.head key)) (dll.nextOf (.link node))
        ((left.map DllLoc.link).getLast?.or (some (.head key))) := by
  rw [unlinkNode, list.prev_cell, getD_getLast?_or backEq, list.next_cell, getD_head?,
    ← getD_getLast?_or (.inr rfl)]
  cases (left.map DllLoc.link).getLast? <;> rfl

theorem unlinkNode_bucketChain (chain : BucketChain dll key (left ++ node :: right)) :
    BucketChain (unlinkNode dll key node) key (left ++ right) := by
  obtain ⟨back, backEq, list⟩ := chain
  rw [map_append, map_cons] at list
  rw [unlinkNode_eq backEq list]
  have unlinked := list.unlink (some (DllLoc.head key)) rfl
  refine ⟨_, ?_, by simpa using unlinked⟩
  split
  · exact .inr rfl
  · exact backEq

theorem unlinkNode_of_ne (chain : BucketChain dll key (left ++ node :: right))
    (outside : loc ∉ DllLoc.head key :: (left ++ right).map .link) :
    unlinkNode dll key node loc = dll loc := by
  obtain ⟨back, backEq, list⟩ := chain
  rw [map_append, map_cons] at list
  rw [unlinkNode_eq backEq list]
  rw [map_append] at outside
  apply DllMem.linkOut_of_ne
  · intro same
    subst same
    exact outside (Dll.before_mem _ _ _)
  · intro same
    subst same
    exact outside (Dll.after_mem _ _ _)

end Rewriting

/-! ## Every operation keeps the table tied to its view -/

namespace Represents

section Create

section

variable (nodeLinks : ν → DllNode (DllLoc ν))

include nodeLinks

variable (maxNodes room : Nat)

private theorem create_forward (start : Nat) (bound : start + room = maxNodes) :
    Seg (createDll maxNodes nodeLinks).nextOf (if room = 0 then none else some (.slot start))
      ((List.range' start room).map .slot) none := by
  induction room generalizing start with
  | zero => simp
  | succ room ih =>
  have tail := ih (start + 1) (by omega)
  refine ⟨by simp, ?_⟩
  have nextEq : (createDll maxNodes nodeLinks).nextOf (.slot start) =
      if room = 0 then none else some (.slot (start + 1)) := by
    simp only [DllMem.nextOf, createDll]
    by_cases last : room = 0
    · rw [if_pos last, if_neg (by omega)]
    · rw [if_neg last, if_pos (by omega)]
  rw [nextEq]
  exact tail

private theorem create_backward :
    Seg (createDll maxNodes nodeLinks).prevOf (if room = 0 then none else some (.slot (room - 1)))
      ((range room).map DllLoc.slot).reverse none := by
  induction room with
  | zero => simp
  | succ room ih =>
  rw [range_succ, map_append, reverse_append]
  refine ⟨by simp, ?_⟩
  have prevEq : (createDll maxNodes nodeLinks).prevOf (.slot room) =
      if room = 0 then none else some (.slot (room - 1)) := by
    by_cases first : room = 0 <;> simp [DllMem.prevOf, createDll, first]
  rw [prevEq]
  exact ih

attribute [local simp] mchashTableCreate

/-- A new table represents the empty one. -/
theorem create {buckets maxNodes : Nat} (tableLink : ν → MchashTableLink) (someNodes : 0 < maxNodes)
    (uint32 : maxNodes < 2 ^ 32) :
    Represents (mchashTableCreate buckets maxNodes nodeLinks tableLink)
      { chain := fun _ => [], free := range maxNodes, appended := fun _ => 0 } where
  freeQueue :=
    { forward := by
        have seg := create_forward nodeLinks maxNodes maxNodes 0 (by omega)
        rw [if_neg (by omega), ← range_eq_range'] at seg
        exact seg
      backward := by
        have seg := create_backward nodeLinks maxNodes maxNodes
        rw [if_neg (by omega)] at seg
        exact seg
      nodup := by
        refine nodup_cons.mpr ⟨by simp, ?_⟩
        exact nodup_range.map fun index other same => DllLoc.slot.inj same }
  bucketChain := by
    intro key bound
    exact ⟨none, .inl rfl, rfl, rfl, nodup_singleton _⟩
  free_iff := by simp
  magic_zero_iff := by simp
  owner_linked := by simp
  linked_owner := by simp
  active := by simp [linkedTotal_nil]
  capacity := by simp
  capacity_lt := uint32
  count := by simp
  prefetch := by simp [prefetchOf]
  magicNo_ne := by simp

end

end Create

variable {table : MchashTable ν} {view : MchashView ν} {node : ν} {key : Nat}

/-- No entry of the indirection array points at the node. -/
def Unowned (table : MchashTable ν) (node : ν) : Prop :=
  ∀ index < table.maxNodes, (table.indirectionArray index).nodeP ≠ some node

theorem notMem_chain (rep : Represents table view) (unowned : Unowned table node)
    (bound : key < table.buckets) : node ∉ view.chain key := by
  intro member
  obtain ⟨-, indexBound, owner⟩ := rep.linked_owner key bound node member
  exact unowned _ indexBound owner

theorem free_nodup (rep : Represents table view) : view.free.Nodup :=
  (nodup_cons.mp rep.freeQueue.nodup).2.of_map _

end Represents

/-! ### Insertion -/

section Insertion

variable [DecidableEq ν] {table : MchashTable ν} {view : MchashView ν}
  {index keys : Nat} {rest : List Nat} {nodeobj : ν} {left right : List ν}
  {place : DllMem (DllLoc ν) → Option (DllLoc ν) × Option (DllLoc ν)}

theorem Represents.insertAt_full (rep : Represents table view) (full : view.free = []) :
    insertAt table keys nodeobj place = (table, none) := by
  have nextEq : table.dll.nextOf .freeQ = none := by
    simpa [full] using rep.freeQueue.next_anchor
  rw [insertAt, nextEq]

/-- The table after a successful insertion. -/
def insertedTable (table : MchashTable ν) (index keys : Nat) (nodeobj : ν)
    (place : DllMem (DllLoc ν) → Option (DllLoc ν) × Option (DllLoc ν)) :
    MchashTable ν :=
  let taken := takeFreeEntry table index keys nodeobj
  mchashInsertNodeInMiddle taken keys (place taken.dll).1 nodeobj (place taken.dll).2

theorem Represents.insertAt_free (rep : Represents table view) (free : view.free = index :: rest) :
    insertAt table keys nodeobj place =
      (insertedTable table index keys nodeobj place,
        some { index := index, magic := table.magicNo }) := by
  have nextEq : table.dll.nextOf .freeQ = some (.slot index) := by
    simpa [free] using rep.freeQueue.next_anchor
  rw [insertAt, nextEq]
  rfl

@[simp]
theorem insertedTable_entries :
    (insertedTable table index keys nodeobj place).indirectionArray =
      update table.indirectionArray index { magic := table.magicNo, nodeP := some nodeobj } :=
  rfl

@[simp]
theorem insertedTable_links :
    (insertedTable table index keys nodeobj place).tableLink =
      update table.tableLink nodeobj { index := index, key := keys } :=
  rfl

@[simp]
theorem insertedTable_activeNodes :
    (insertedTable table index keys nodeobj place).activeNodes =
      uint32Succ table.activeNodes :=
  rfl

attribute [local simp] mchashInsertNodeInMiddle

theorem insertedTable_count (key : Nat) :
    ((insertedTable table index keys nodeobj place).bucketList key).count =
      if key = keys then uint32Succ (table.bucketList key).count
      else (table.bucketList key).count := by
  by_cases same : key = keys
  · subst same
    simp [insertedTable, updateBucketCount, mchashUpdatePrefetchNodes, takeFreeEntry]
  · simp [insertedTable, updateBucketCount, mchashUpdatePrefetchNodes, takeFreeEntry, same]

theorem insertedTable_prefetch (key : Nat) :
    ((insertedTable table index keys nodeobj place).bucketList key).prefetchNodes =
      if key = keys then
        prefetchFrom (insertedTable table index keys nodeobj place).dll
          mchashMaxHashbucketCacheNodes
          ((insertedTable table index keys nodeobj place).dll.nextOf (.head key))
      else (table.bucketList key).prefetchNodes := by
  by_cases same : key = keys
  · subst same
    simp [insertedTable, updateBucketCount, mchashUpdatePrefetchNodes, takeFreeEntry]
  · simp [insertedTable, updateBucketCount, mchashUpdatePrefetchNodes, takeFreeEntry, same]

/-- The view after a successful insertion. -/
def MchashView.insert (view : MchashView ν) (rest : List Nat) (keys : Nat)
    (nodes : List ν) : MchashView ν :=
  { view with chain := Function.update view.chain keys nodes, free := rest }

/-- A node can go between `left` and `right` of its bucket, with a free entry for
it. -/
structure Insertable (table : MchashTable ν) (view : MchashView ν) (index keys : Nat)
    (rest : List Nat) (nodeobj : ν) (left right : List ν)
    (place : DllMem (DllLoc ν) → Option (DllLoc ν) × Option (DllLoc ν)) : Prop where
  rep : Represents table view
  free : view.free = index :: rest
  bound : keys < table.buckets
  unowned : Represents.Unowned table nodeobj
  chainEq : view.chain keys = left ++ right
  placed : ∀ dll : DllMem (DllLoc ν), BucketChain dll keys (left ++ right) →
    PlacedBetween keys left right (place dll)

namespace Insertable

variable (ready : Insertable table view index keys rest nodeobj left right place)
include ready

omit [DecidableEq ν] in
theorem queue : Dll table.dll .freeQ none ((index :: rest).map .slot) :=
  ready.free ▸ ready.rep.freeQueue

omit [DecidableEq ν] in
theorem index_free : index < table.maxNodes ∧ (table.indirectionArray index).nodeP = none :=
  (ready.rep.free_iff index).mp (by simp [ready.free])

omit [DecidableEq ν] in
theorem fresh : nodeobj ∉ left ++ right :=
  ready.chainEq ▸ ready.rep.notMem_chain ready.unowned ready.bound

theorem detached_chain {key : Nat} (bound : key < table.buckets) :
    BucketChain (detachFreeEntry table.dll index) key (view.chain key) := by
  refine (ready.rep.bucketChain key bound).frame ?_ ?_
  · apply detachFreeEntry_of_ne ready.queue
    simp
  · intro node _
    apply detachFreeEntry_of_ne ready.queue
    simp

theorem place_ok : PlacedBetween keys left right (place (detachFreeEntry table.dll index)) :=
  ready.placed _ (ready.chainEq ▸ ready.detached_chain ready.bound)

theorem untouched {loc : DllLoc ν}
    (outside : loc ∉ DllLoc.head keys :: (left ++ nodeobj :: right).map .link) :
    (insertedTable table index keys nodeobj place).dll loc =
      detachFreeEntry table.dll index loc :=
  linkIn_bucket_of_ne ready.place_ok outside

theorem freeQueue :
    Dll (insertedTable table index keys nodeobj place).dll .freeQ none (rest.map .slot) := by
  refine (detachFreeEntry_freeQueue ready.queue).frame ?_
  intro loc member
  apply ready.untouched
  rcases mem_cons.mp member with same | inQueue
  · simp [same]
  · obtain ⟨other, -, rfl⟩ := mem_map.mp inQueue
    simp

/-- The chains of the buckets stay linked. -/
theorem bucketChain {key : Nat} (bound : key < table.buckets) :
    BucketChain (insertedTable table index keys nodeobj place).dll key
      ((view.insert rest keys (left ++ nodeobj :: right)).chain key) := by
  by_cases same : key = keys
  · subst same
    simp only [MchashView.insert, update_self]
    exact linkIn_bucketChain (ready.chainEq ▸ ready.detached_chain ready.bound)
      ready.fresh ready.place_ok
  simp only [MchashView.insert, update_of_ne same]
  refine (ready.detached_chain bound).frame ?_ ?_
  · apply ready.untouched
    simp [same]
  intro node member
  apply ready.untouched
  have keyEq := (ready.rep.linked_owner key bound node member).1
  have elsewhere : node ∉ left ++ right := by
    intro inBucket
    rw [← ready.chainEq] at inBucket
    exact same (keyEq.symm.trans (ready.rep.linked_owner keys ready.bound node inBucket).1)
  have notNew : node ≠ nodeobj := by
    intro equal
    exact ready.rep.notMem_chain ready.unowned bound (equal ▸ member)
  simp only [mem_append, not_or] at elsewhere
  simp [elsewhere, notNew]

theorem free_iff (other : Nat) :
    other ∈ rest ↔ other < table.maxNodes ∧
      ((insertedTable table index keys nodeobj place).indirectionArray other).nodeP =
        none := by
  have nodup := ready.rep.free_nodup
  have member := ready.rep.free_iff other
  rw [ready.free] at nodup member
  rw [nodup_cons] at nodup
  by_cases same : other = index
  · subst same
    simp [insertedTable_entries, nodup.1]
  · rw [insertedTable_entries, update_of_ne same, ← member]
    simp [same]

attribute [local simp] MchashView.insert

/-- The owner of an index is in the chain of its bucket. -/
theorem owner_linked (other : Nat) (bound : other < table.maxNodes) (node : ν)
    (owner : ((insertedTable table index keys nodeobj place).indirectionArray
      other).nodeP = some node) :
    let link := (insertedTable table index keys nodeobj place).tableLink node
    link.index = other ∧ link.key < table.buckets ∧
      node ∈ (view.insert rest keys (left ++ nodeobj :: right)).chain link.key := by
  rw [insertedTable_entries] at owner
  rw [insertedTable_links]
  by_cases same : other = index
  · subst same
    have nodeEq : nodeobj = node := by simpa using owner
    subst nodeEq
    simp [ready.bound]
  rw [update_of_ne same] at owner
  have notNew : node ≠ nodeobj := by
    intro equal
    exact ready.unowned other bound (equal ▸ owner)
  obtain ⟨indexEq, keyBound, member⟩ := ready.rep.owner_linked other bound node owner
  rw [update_of_ne notNew]
  refine ⟨indexEq, keyBound, ?_⟩
  by_cases sameKey : (table.tableLink node).key = keys
  · rw [sameKey, ready.chainEq] at member
    simp only [sameKey, MchashView.insert, update_self, mem_append, mem_cons]
    rcases mem_append.mp member with inLeft | inRight
    · exact .inl inLeft
    · exact .inr (.inr inRight)
  · simpa [sameKey] using member

/-- Every node of a chain owns its index. -/
theorem linked_owner (key : Nat) (bound : key < table.buckets) (node : ν)
    (member : node ∈ (view.insert rest keys (left ++ nodeobj :: right)).chain key) :
    let link := (insertedTable table index keys nodeobj place).tableLink node
    link.key = key ∧ link.index < table.maxNodes ∧
      ((insertedTable table index keys nodeobj place).indirectionArray
        link.index).nodeP = some node := by
  rw [insertedTable_entries, insertedTable_links]
  by_cases new : node = nodeobj
  · subst new
    have keyEq : keys = key := by
      by_contra other
      have member : node ∈ view.chain key := by
        simpa [Ne.symm other] using member
      exact ready.rep.notMem_chain ready.unowned bound member
    simp [keyEq, ready.index_free.1]
  have before : node ∈ view.chain key := by
    by_cases same : key = keys
    · subst same
      simp only [MchashView.insert, update_self, mem_append, mem_cons, new, false_or] at member
      rw [ready.chainEq]
      exact mem_append.mpr member
    · simpa [same] using member
  obtain ⟨keyEq, indexBound, owner⟩ := ready.rep.linked_owner key bound node before
  have elsewhere : (table.tableLink node).index ≠ index := by
    intro equal
    rw [equal, ready.index_free.2] at owner
    simp at owner
  rw [update_of_ne new]
  dsimp only
  rw [update_of_ne elsewhere]
  exact ⟨keyEq, indexBound, owner⟩

omit [DecidableEq ν] in
theorem linkedTotal_succ :
    linkedTotal table.buckets ((view.insert rest keys (left ++ nodeobj :: right)).chain) =
      linkedTotal table.buckets view.chain + 1 := by
  have total := linkedTotal_update view.chain (left ++ nodeobj :: right) ready.bound
  rw [ready.chainEq] at total
  simp only [length_append, length_cons] at total
  simp only [MchashView.insert]
  omega

theorem activeNodes_eq :
    (insertedTable table index keys nodeobj place).activeNodes = table.activeNodes + 1 := by
  have capacity := ready.rep.capacity
  have small := ready.rep.capacity_lt
  rw [ready.free, length_cons] at capacity
  rw [insertedTable_activeNodes, uint32Succ_of_lt (by omega)]

/-- The changed table represents the changed view. -/
theorem represents :
    Represents (insertedTable table index keys nodeobj place)
      (view.insert rest keys (left ++ nodeobj :: right)) where
  freeQueue := ready.freeQueue
  bucketChain := fun _ bound => ready.bucketChain bound
  free_iff := ready.free_iff
  magic_zero_iff := by
    intro other bound
    rw [insertedTable_entries]
    by_cases same : other = index
    · subst same
      simp [ready.rep.magicNo_ne]
    · rw [update_of_ne same]
      exact ready.rep.magic_zero_iff other bound
  owner_linked := ready.owner_linked
  linked_owner := ready.linked_owner
  active := by
    rw [ready.activeNodes_eq, ready.rep.active]
    exact ready.linkedTotal_succ.symm
  capacity := by
    have capacity := ready.rep.capacity
    rw [ready.free, length_cons] at capacity
    rw [ready.activeNodes_eq]
    exact (by omega : table.activeNodes + 1 + rest.length = table.maxNodes)
  capacity_lt := ready.rep.capacity_lt
  count := by
    intro key bound
    have count := ready.rep.count key bound
    by_cases same : key = keys
    · subst same
      rw [ready.chainEq, length_append] at count
      rw [insertedTable_count, if_pos rfl, count, uint32Succ_mod]
      simp only [MchashView.insert, update_self, length_append, length_cons]
      congr 1
      omega
    · simpa [insertedTable_count, same] using count
  prefetch := by
    intro key bound
    rw [insertedTable_prefetch]
    split
    · next same =>
        exact prefetch_eq (ready.bucketChain bound)
    · next other =>
        simpa [other] using ready.rep.prefetch key bound
  magicNo_ne := nextMagicNo_ne _

end Insertable

end Insertion

/-! ### Removal -/

section Removal

variable [DecidableEq ν] {table : MchashTable ν} {view : MchashView ν}
  {index key : Nat} {node : ν} {left right : List ν}

@[simp]
theorem removeNode_entries :
    (removeNode table index key node).indirectionArray =
      update table.indirectionArray index { magic := 0, nodeP := none } :=
  rfl

@[simp]
theorem removeNode_activeNodes :
    (removeNode table index key node).activeNodes = uint32Pred table.activeNodes :=
  rfl

@[simp]
theorem removeNode_maxNodes : (removeNode table index key node).maxNodes = table.maxNodes := by
  simp only [removeNode, mchashUpdatePrefetchNodes, updateBucketCount]

theorem removeNode_count (other : Nat) :
    ((removeNode table index key node).bucketList other).count =
      if other = key then uint32Pred (table.bucketList other).count
      else (table.bucketList other).count := by
  by_cases same : other = key
  · subst same
    simp [removeNode, updateBucketCount, mchashUpdatePrefetchNodes]
  · simp [removeNode, updateBucketCount, mchashUpdatePrefetchNodes, same]

theorem removeNode_prefetch (other : Nat) :
    ((removeNode table index key node).bucketList other).prefetchNodes =
      if other = key then
        prefetchFrom (unlinkNode table.dll key node) mchashMaxHashbucketCacheNodes
          ((unlinkNode table.dll key node).nextOf (.head other))
      else (table.bucketList other).prefetchNodes := by
  by_cases same : other = key
  · subst same
    simp [removeNode, updateBucketCount, mchashUpdatePrefetchNodes]
  · simp [removeNode, updateBucketCount, mchashUpdatePrefetchNodes, same]

/-- The view after a deletion: the entry is the last to be used again. -/
def MchashView.remove (view : MchashView ν) (index key : Nat) (nodes : List ν) :
    MchashView ν :=
  { view with
    chain := Function.update view.chain key nodes
    free := view.free ++ [index] }

/-- The entry owns a node that stands between `left` and `right` in its bucket. -/
structure Removable (table : MchashTable ν) (view : MchashView ν) (index key : Nat)
    (node : ν) (left right : List ν) : Prop where
  rep : Represents table view
  indexBound : index < table.maxNodes
  owner : (table.indirectionArray index).nodeP = some node
  keyEq : (table.tableLink node).key = key
  chainEq : view.chain key = left ++ node :: right

omit [DecidableEq ν] in
theorem Represents.removable (rep : Represents table view) (indexBound : index < table.maxNodes)
    (owner : (table.indirectionArray index).nodeP = some node) :
    ∃ left right, Removable table view index (table.tableLink node).key node left right := by
  obtain ⟨-, -, member⟩ := rep.owner_linked index indexBound node owner
  obtain ⟨left, right, chainEq⟩ := append_of_mem member
  exact ⟨left, right, rep, indexBound, owner, rfl, chainEq⟩

namespace Removable

variable (ready : Removable table view index key node left right)
include ready

omit [DecidableEq ν] in
theorem bound : key < table.buckets :=
  ready.keyEq ▸ (ready.rep.owner_linked index ready.indexBound node ready.owner).2.1

omit [DecidableEq ν] in
theorem linkIndex : (table.tableLink node).index = index :=
  (ready.rep.owner_linked index ready.indexBound node ready.owner).1

omit [DecidableEq ν] in
theorem index_notFree : index ∉ view.free := by
  intro member
  have empty := ((ready.rep.free_iff index).mp member).2
  rw [ready.owner] at empty
  simp at empty

omit [DecidableEq ν] in
theorem notMem_rest : node ∉ left ++ right := by
  have nodup := (ready.rep.bucketChain key ready.bound).nodup
  rw [ready.chainEq] at nodup
  exact (nodup_cons.mp (nodup_middle.mp nodup)).1

omit [DecidableEq ν] in
theorem splitChain : BucketChain table.dll key (left ++ node :: right) :=
  ready.chainEq ▸ ready.rep.bucketChain key ready.bound

theorem unlinked_queue : Dll (unlinkNode table.dll key node) .freeQ none (view.free.map .slot) := by
  refine ready.rep.freeQueue.frame ?_
  intro loc member
  apply unlinkNode_of_ne ready.splitChain
  rcases mem_cons.mp member with same | inQueue
  · simp [same]
  · obtain ⟨other, -, rfl⟩ := mem_map.mp inQueue
    simp

theorem freeQueue :
    Dll (removeNode table index key node).dll .freeQ none ((view.free ++ [index]).map .slot) :=
  appendFreeEntry_freeQueue ready.index_notFree ready.unlinked_queue

theorem appended_chain {other : Nat} {nodes : List ν}
    (chain : BucketChain (unlinkNode table.dll key node) other nodes) :
    BucketChain (removeNode table index key node).dll other nodes := by
  refine chain.frame ?_ ?_
  · apply appendFreeEntry_of_ne ready.unlinked_queue
    simp
  · intro member _
    apply appendFreeEntry_of_ne ready.unlinked_queue
    simp

/-- After a removal the chains stay linked. -/
theorem bucketChain {other : Nat} (bound : other < table.buckets) :
    BucketChain (removeNode table index key node).dll other
      ((view.remove index key (left ++ right)).chain other) := by
  apply ready.appended_chain
  by_cases same : other = key
  · subst same
    simp only [MchashView.remove, update_self]
    exact unlinkNode_bucketChain ready.splitChain
  simp only [MchashView.remove, update_of_ne same]
  refine (ready.rep.bucketChain other bound).frame ?_ ?_
  · apply unlinkNode_of_ne ready.splitChain
    simp [same]
  intro member inOther
  apply unlinkNode_of_ne ready.splitChain
  have otherEq := (ready.rep.linked_owner other bound member inOther).1
  have elsewhere : member ∉ left ++ right := by
    intro inRest
    have inBucket : member ∈ view.chain key := by
      rw [ready.chainEq]
      simp only [mem_append, mem_cons] at inRest ⊢
      tauto
    exact same (otherEq.symm.trans (ready.rep.linked_owner key ready.bound member inBucket).1)
  simp only [mem_append, not_or] at elsewhere
  simp [elsewhere]

variable (other : Nat)

theorem free_iff :
    other ∈ view.free ++ [index] ↔ other < table.maxNodes ∧
      ((removeNode table index key node).indirectionArray other).nodeP = none := by
  rw [removeNode_entries, mem_append, mem_singleton]
  by_cases same : other = index
  · subst same
    simp [ready.indexBound]
  · rw [update_of_ne same, ← ready.rep.free_iff other]
    simp [same]

attribute [local simp] MchashView.remove

theorem owner_linked (bound : other < table.maxNodes) (kept : ν)
    (owner : ((removeNode table index key node).indirectionArray other).nodeP = some kept) :
    (table.tableLink kept).index = other ∧ (table.tableLink kept).key < table.buckets ∧
      kept ∈ (view.remove index key (left ++ right)).chain (table.tableLink kept).key := by
  rw [removeNode_entries] at owner
  have apart : other ≠ index := by
    intro same
    subst same
    simp at owner
  rw [update_of_ne apart] at owner
  obtain ⟨indexEq, keyBound, member⟩ := ready.rep.owner_linked other bound kept owner
  refine ⟨indexEq, keyBound, ?_⟩
  by_cases sameKey : (table.tableLink kept).key = key
  · have notRemoved : kept ≠ node := by
      intro same
      subst same
      exact apart (indexEq.symm.trans ready.linkIndex)
    rw [sameKey, ready.chainEq] at member
    simp only [sameKey, MchashView.remove, update_self]
    simp only [mem_append, mem_cons, notRemoved, false_or] at member ⊢
    exact member
  · simpa [sameKey] using member

theorem linked_owner (bound : other < table.buckets) (kept : ν)
    (member : kept ∈ (view.remove index key (left ++ right)).chain other) :
    (table.tableLink kept).key = other ∧ (table.tableLink kept).index < table.maxNodes ∧
      ((removeNode table index key node).indirectionArray
        (table.tableLink kept).index).nodeP = some kept := by
  have before : kept ∈ view.chain other ∧ kept ≠ node := by
    by_cases same : other = key
    · subst same
      simp only [MchashView.remove, update_self] at member
      constructor
      · rw [ready.chainEq]
        simp only [mem_append, mem_cons] at member ⊢
        tauto
      · intro equal
        subst equal
        exact ready.notMem_rest member
    · have member : kept ∈ view.chain other := by
        simpa [same] using member
      refine ⟨member, ?_⟩
      intro equal
      subst equal
      exact same ((ready.rep.linked_owner other bound kept member).1.symm.trans ready.keyEq)
  obtain ⟨keyEq, indexBound, owner⟩ := ready.rep.linked_owner other bound kept before.1
  have elsewhere : (table.tableLink kept).index ≠ index := by
    intro equal
    rw [equal, ready.owner] at owner
    exact before.2 (Option.some.inj owner).symm
  rw [removeNode_entries, update_of_ne elsewhere]
  exact ⟨keyEq, indexBound, owner⟩

omit [DecidableEq ν] in
theorem linkedTotal_pred :
    linkedTotal table.buckets ((view.remove index key (left ++ right)).chain) + 1 =
      linkedTotal table.buckets view.chain := by
  have total := linkedTotal_update view.chain (left ++ right) ready.bound
  rw [ready.chainEq] at total
  simp only [length_append, length_cons] at total
  simp only [MchashView.remove]
  omega

theorem activeNodes_eq : (removeNode table index key node).activeNodes + 1 = table.activeNodes := by
  have total := ready.linkedTotal_pred
  have active := ready.rep.active
  rw [removeNode_activeNodes, uint32Pred_of_pos (by omega)]

theorem active_eq :
    (removeNode table index key node).activeNodes =
      linkedTotal table.buckets ((view.remove index key (left ++ right)).chain) := by
  have total := ready.linkedTotal_pred
  have active := ready.rep.active
  have step := ready.activeNodes_eq
  omega

theorem capacity_eq :
    (removeNode table index key node).activeNodes +
        (view.remove index key (left ++ right)).free.length = table.maxNodes := by
  have capacity := ready.rep.capacity
  have step := ready.activeNodes_eq
  simp only [MchashView.remove, length_append, length_singleton]
  omega

theorem count_eq (bound : other < table.buckets) :
    ((removeNode table index key node).bucketList other).count =
      (((view.remove index key (left ++ right)).chain other).length +
        view.appended other) % 2 ^ 32 := by
  have count := ready.rep.count other bound
  by_cases same : other = key
  · subst same
    rw [ready.chainEq, length_append, length_cons] at count
    have regroup : left.length + (right.length + 1) + view.appended other =
        left.length + right.length + view.appended other + 1 := by omega
    rw [removeNode_count, if_pos rfl, count, regroup, uint32Pred_mod]
    simp only [MchashView.remove, update_self, length_append]
  · simpa [removeNode_count, same] using count

/-- The table without the node represents the view without it. -/
theorem represents :
    Represents (removeNode table index key node) (view.remove index key (left ++ right)) where
  freeQueue := ready.freeQueue
  bucketChain := by
    intro other bound
    exact ready.bucketChain bound
  free_iff := by
    intro other
    exact ready.free_iff other
  magic_zero_iff := by
    intro other bound
    rw [removeNode_entries]
    by_cases same : other = index
    · subst same
      simp
    · rw [update_of_ne same]
      exact ready.rep.magic_zero_iff other bound
  owner_linked := by
    intro other bound kept owner
    exact ready.owner_linked other bound kept owner
  linked_owner := by
    intro other bound kept member
    exact ready.linked_owner other bound kept member
  active := by
    exact ready.active_eq
  capacity := by
    exact ready.capacity_eq
  capacity_lt := by
    exact ready.rep.capacity_lt
  count := by
    intro other bound
    exact ready.count_eq other bound
  prefetch := by
    intro other bound
    rw [removeNode_prefetch]
    split
    · next same =>
        subst same
        simp only [MchashView.remove, update_self]
        exact prefetch_eq (unlinkNode_bucketChain ready.splitChain)
    · next apart =>
        simpa [apart] using ready.rep.prefetch other bound
  magicNo_ne := by
    exact ready.rep.magicNo_ne

end Removable

end Removal

end OpenFlowController.Utils
