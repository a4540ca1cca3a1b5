/-
Module: Utils.RefTableRefinement
Purpose: The hash table with its pointers, buckets and caches does what the table of references
  its callers see does: creating, appending, accessing and deleting keep the two in step, and the
  two scanning macros together meet every linked node once.
Source: include/mchash.h
Trusted boundary: none
-/
import OpenFlowController.Utils.MchashHistory
import OpenFlowController.Utils.RefTable

namespace OpenFlowController.Utils

open Library List

variable {ν : Type*}

/-- The table of references shows what the indirection array of the hash table
holds. -/
structure Shows (table : MchashTable ν) (refs : RefTable ν) : Prop where
  represented : ∃ view, Represents table view ∧ view.free = refs.free
  maxNodes : table.maxNodes = refs.maxNodes.1
  magicNo : table.magicNo = refs.magicNo
  linked_iff : ∀ entry, entry ∈ refs.linked ↔
    entry.noderef.index < table.maxNodes ∧
      table.indirectionArray entry.noderef.index =
        { magic := entry.noderef.magic, nodeP := some entry.node }

namespace Shows

variable {table : MchashTable ν} {refs : RefTable ν}

theorem create (size : TableSize) (buckets : Nat) (nodeLinks : ν → DllNode (DllLoc ν))
    (tableLink : ν → MchashTableLink) :
    Shows (mchashTableCreate buckets size.1 nodeLinks tableLink) (RefTable.create size) where
  represented := ⟨_, Represents.create nodeLinks tableLink size.2.1 size.2.2, rfl⟩
  maxNodes := rfl
  magicNo := rfl
  linked_iff := by
    intro entry
    simp [RefTable.create, mchashTableCreate]

/-- What the entry of an index holds, read off the table of references. -/
theorem entry_eq (shows : Shows table refs) {index : Nat} (bound : index < table.maxNodes) :
    table.indirectionArray index =
      match refs.ownerOf index with
      | some entry => { magic := entry.noderef.magic, nodeP := some entry.node }
      | none => { magic := 0, nodeP := none } := by
  cases owner : refs.ownerOf index with
  | some entry =>
    have member := mem_of_find?_eq_some owner
    have same : entry.noderef.index = index := by simpa using find?_some owner
    have held := ((shows.linked_iff entry).mp member).2
    rw [same] at held
    exact held
  | none =>
  obtain ⟨view, rep, -⟩ := shows.represented
  have vacant : (table.indirectionArray index).nodeP = none := by
    cases held : (table.indirectionArray index).nodeP with
    | none => rfl
    | some node =>
    have member := (shows.linked_iff
      { noderef := { index := index, magic := (table.indirectionArray index).magic }
        node := node }).mpr ⟨bound, ArrayIndirectEntry.ext rfl held⟩
    have missed := find?_eq_none.mp owner _ member
    simp at missed
  exact ArrayIndirectEntry.ext ((rep.magic_zero_iff index bound).mpr vacant) vacant

theorem access (shows : Shows table refs) (noderef : MchashNoderef) :
    mchashAccessNode table noderef = refs.access noderef := by
  unfold mchashAccessNode RefTable.access
  rw [← shows.maxNodes]
  by_cases bound : noderef.index < table.maxNodes
  · rw [if_pos bound, if_pos bound, shows.entry_eq bound]
    cases refs.ownerOf noderef.index <;> rfl
  · rw [if_neg bound, if_neg bound]

variable [DecidableEq ν]

/-- An insertion in both, at any place of the bucket and of the list of references. -/
theorem inserted (shows : Shows table refs) {view : MchashView ν} {index keys : Nat}
    {rest : List Nat} {node : ν} {left right : List ν}
    {place : DllMem (DllLoc ν) → Option (DllLoc ν) × Option (DllLoc ν)}
    (ready : Insertable table view index keys rest node left right place) {after : RefTable ν}
    (free : after.free = rest) (maxNodes : after.maxNodes = refs.maxNodes)
    (magicNo : after.magicNo = nextMagicNo refs.magicNo)
    (linked : ∀ entry, entry ∈ after.linked ↔ entry ∈ refs.linked ∨
      entry = { noderef := { index := index, magic := refs.magicNo }, node := node }) :
    Shows (insertedTable table index keys node place) after := by
  constructor
  case represented => exact ⟨_, ready.represents, free.symm⟩
  case maxNodes =>
    rw [maxNodes]
    exact shows.maxNodes
  case magicNo =>
    rw [magicNo]
    exact congrArg nextMagicNo shows.magicNo
  case linked_iff =>
    intro entry
    rw [insertedTable_entries, linked, shows.linked_iff]
    by_cases same : entry.noderef.index = index
    · have vacant := ready.index_free
      rw [same, Function.update_self]
      constructor
      · rintro (⟨-, held⟩ | new)
        · rw [held] at vacant
          cases vacant.2
        · rw [new, shows.magicNo]
          exact ⟨vacant.1, rfl⟩
      rintro ⟨-, held⟩
      obtain ⟨magicEq, nodeEq⟩ := ArrayIndirectEntry.mk.inj held
      right
      obtain ⟨⟨entryIndex, entryMagic⟩, entryNode⟩ := entry
      dsimp only at same magicEq nodeEq ⊢
      rw [same, ← magicEq, ← Option.some.inj nodeEq, shows.magicNo]
    · rw [Function.update_of_ne same]
      constructor
      · rintro (old | new)
        · exact old
        · rw [new] at same
          exact absurd rfl same
      · exact Or.inl

omit [DecidableEq ν] in
theorem countAgain (shows : Shows table refs) (keys : Nat) :
    Shows (updateBucketCount table keys uint32Succ) refs where
  represented :=
    have ⟨_, rep, sameFree⟩ := shows.represented
    ⟨_, rep.countAgain keys, sameFree⟩
  maxNodes := shows.maxNodes
  magicNo := shows.magicNo
  linked_iff := shows.linked_iff

omit [DecidableEq ν] in
theorem append_free {index : Nat} {rest : List Nat} {node : ν} (free : refs.free = index :: rest) :
    refs.append node =
      (refs.take index rest free node, some { index := index, magic := refs.magicNo }) := by
  unfold RefTable.append
  split
  · rename_i empty
    rw [free] at empty
    cases empty
  rename_i first others taken
  have same : index = first ∧ rest = others := by
    rw [free] at taken
    exact List.cons.inj taken
  obtain ⟨rfl, rfl⟩ := same
  rfl

/-- An append finds the free queue empty in both, or links the node in both under
the same reference. -/
theorem append (shows : Shows table refs) {keys : Nat} {node : ν}
    (bound : keys < table.buckets) (unowned : Represents.Unowned table node) :
    Shows (mchashAppendNode table keys node).1 (refs.append node).1 ∧
      (mchashAppendNode table keys node).2 = (refs.append node).2 := by
  obtain ⟨view, rep, sameFree⟩ := shows.represented
  cases free : view.free with
  | nil =>
    have full : insertAt table keys node (fun dll => (dll.prevOf (.head keys), none)) =
        (table, none) := rep.insertAt_full free
    rw [mchashAppendNode, full, RefTable.append_full (sameFree.symm.trans free)]
    exact ⟨shows, rfl⟩
  | cons index rest =>
  have chainEq : view.chain keys = view.chain keys ++ [] := (append_nil _).symm
  have ready : Insertable table view index keys rest node (view.chain keys) []
      (fun dll => (dll.prevOf (.head keys), none)) :=
    ⟨rep, free, bound, unowned, chainEq, fun _ chain => append_placed chain⟩
  have refsFree : refs.free = index :: rest := sameFree.symm.trans free
  have linked : Shows
      (insertedTable table index keys node (fun dll => (dll.prevOf (.head keys), none)))
      (refs.take index rest refsFree node) := by
    apply shows.inserted ready
    case linked =>
      intro entry
      rw [RefTable.take, mem_append, mem_singleton]
    all_goals rfl
  rw [mchashAppendNode, rep.insertAt_free free, append_free refsFree, shows.magicNo]
  exact ⟨linked.countAgain keys, rfl⟩

/-- A deletion by reference reports the same and takes out the same node. -/
theorem deleteByRef (shows : Shows table refs) (noderef : MchashNoderef) :
    Shows (mchashDeleteNodeByRef table noderef).1 (refs.deleteByRef noderef).1 ∧
      (mchashDeleteNodeByRef table noderef).2 = (refs.deleteByRef noderef).2 := by
  unfold mchashDeleteNodeByRef RefTable.deleteByRef
  rw [← shows.maxNodes]
  by_cases bound : noderef.index < table.maxNodes
  case neg =>
    rw [if_neg bound, if_neg bound]
    exact ⟨shows, rfl⟩
  rw [if_pos bound, if_pos bound]
  have held := shows.entry_eq bound
  split
  · rename_i entry owner
    rw [owner] at held
    have member := mem_of_find?_eq_some owner
    have index : entry.noderef.index = noderef.index := by simpa using find?_some owner
    rw [held]
    by_cases same : noderef.magic = entry.noderef.magic
    · rw [if_pos same, if_pos same]
      dsimp only
      rw [if_pos (refs.magics_ne entry member)]
      refine ⟨?_, rfl⟩
      obtain ⟨view, rep, sameFree⟩ := shows.represented
      have ownerP : (table.indirectionArray noderef.index).nodeP = some entry.node := by
        rw [held]
      obtain ⟨left, right, ready⟩ := rep.removable bound ownerP
      constructor
      case represented =>
        refine ⟨_, ready.represents, ?_⟩
        change view.free ++ [noderef.index] = refs.free ++ [entry.noderef.index]
        rw [sameFree, index]
      case maxNodes =>
        exact shows.maxNodes
      case magicNo =>
        exact shows.magicNo
      case linked_iff =>
        intro other
        rw [removeNode_entries, removeNode_maxNodes, RefTable.release]
        by_cases sameIndex : other.noderef.index = noderef.index
        · rw [sameIndex, Function.update_self]
          constructor
          · intro kept
            have otherEq := RefTable.index_inj (mem_of_mem_erase kept) member
              (sameIndex.trans index.symm)
            rw [otherEq] at kept
            exact absurd rfl ((List.Nodup.mem_erase_iff RefTable.linked_nodup).mp kept).1
          · rintro ⟨-, vacant⟩
            cases congrArg ArrayIndirectEntry.nodeP vacant
        · rw [Function.update_of_ne sameIndex, ← shows.linked_iff]
          apply mem_erase_of_ne
          intro equal
          rw [equal] at sameIndex
          exact sameIndex index
    · rw [if_neg same, if_neg same]
      exact ⟨shows, rfl⟩
  · rename_i owner
    rw [owner] at held
    rw [held]
    by_cases same : noderef.magic = 0
    · rw [if_pos same, if_pos same]
      exact ⟨shows, rfl⟩
    · rw [if_neg same, if_neg same]
      exact ⟨shows, rfl⟩

end Shows

variable {ν : Type*}

/-- The walk along `next_p` from a link structure, for at most `fuel` nodes. -/
def bucketWalk (dll : DllMem (DllLoc ν)) : Nat → Option (DllLoc ν) → List ν
  | fuel + 1, some (.link node) => node :: bucketWalk dll fuel (dll.nextOf (.link node))
  | _, _ => []

/-- `MCHASH_BUCKET_SCAN`; a bucket has no more nodes than the table has entries. -/
def mchashBucketScan (table : MchashTable ν) (key : Nat) : List ν :=
  bucketWalk table.dll table.maxNodes (table.dll.nextOf (.head key))

/-- `MCHASH_TABLE_SCAN`: the buckets in the order of their keys. -/
def mchashTableScan (table : MchashTable ν) : List (List ν) :=
  (List.range table.buckets).map (mchashBucketScan table)

theorem bucketWalk_eq {dll : DllMem (DllLoc ν)} {start : Option (DllLoc ν)} {nodes : List ν}
    {fuel : Nat} (enough : nodes.length ≤ fuel)
    (seg : Seg dll.nextOf start (nodes.map .link) none) : bucketWalk dll fuel start = nodes := by
  induction nodes generalizing fuel start with
  | nil =>
    have startEq : start = none := by simpa using seg
    rw [startEq]
    cases fuel <;> rfl
  | cons node rest ih =>
  obtain ⟨startEq, restSeg⟩ := seg
  cases fuel with
  | zero => exact absurd enough (Nat.not_succ_le_zero _)
  | succ fuel =>
    rw [startEq, bucketWalk, ih (Nat.le_of_succ_le_succ enough) restSeg]

variable {table : MchashTable ν} {view : MchashView ν}

section

variable (rep : Represents table view)

include rep

/-- A bucket scan meets the nodes of the bucket in order, and ends there. -/
theorem Represents.bucketScan {key : Nat} (bound : key < table.buckets) :
    mchashBucketScan table key = view.chain key := by
  obtain ⟨back, -, list⟩ := rep.bucketChain key bound
  apply bucketWalk_eq ?_ list.forward
  have linked := length_le_linkedTotal view.chain bound
  have active := rep.active
  have capacity := rep.capacity
  omega

theorem Represents.tableScan :
    mchashTableScan table = (List.range table.buckets).map view.chain := by
  apply List.map_congr_left
  intro key member
  exact rep.bucketScan (List.mem_range.mp member)

theorem Represents.mem_scan {node : ν} :
    node ∈ (mchashTableScan table).flatten ↔
      ∃ index < table.maxNodes, (table.indirectionArray index).nodeP = some node := by
  rw [rep.tableScan, List.mem_flatten]
  constructor
  · rintro ⟨bucket, bucketMem, member⟩
    obtain ⟨key, keyMem, rfl⟩ := List.mem_map.mp bucketMem
    obtain ⟨-, bound, owned⟩ := rep.linked_owner key (List.mem_range.mp keyMem) node member
    exact ⟨_, bound, owned⟩
  · rintro ⟨index, bound, owned⟩
    obtain ⟨-, keyBound, member⟩ := rep.owner_linked index bound node owned
    exact ⟨_, List.mem_map_of_mem (List.mem_range.mpr keyBound), member⟩

theorem Represents.scan_nodup : (mchashTableScan table).flatten.Nodup := by
  rw [rep.tableScan, List.nodup_flatten]
  constructor
  · intro bucket bucketMem
    obtain ⟨key, keyMem, rfl⟩ := List.mem_map.mp bucketMem
    exact (rep.bucketChain key (List.mem_range.mp keyMem)).nodup
  rw [List.pairwise_map]
  apply List.nodup_range.imp_of_mem
  intro key other keyMem otherMem apart node inKey inOther
  have first := (rep.linked_owner key (List.mem_range.mp keyMem) node inKey).1
  have second := (rep.linked_owner other (List.mem_range.mp otherMem) node inOther).1
  exact apart (first.symm.trans second)

end

/-! ## A hash table behind the callers' view -/

/-- A hash table that a caller's view of it describes; which bucket a node is in, and in
which order, the view leaves open. -/
structure HashTable (refs : RefTable ν) where
  table : MchashTable ν
  shows : Shows table refs

namespace HashTable

variable {refs : RefTable ν}

/-- Nodes that share no entry are different. -/
theorem nodes_nodup (hashed : HashTable refs) : refs.nodes.Nodup := by
  obtain ⟨view, rep, -⟩ := hashed.shows.represented
  apply List.Nodup.map_on _ RefTable.linked_nodup
  intro first firstMem second secondMem same
  obtain ⟨firstBound, firstEntry⟩ := (hashed.shows.linked_iff first).mp firstMem
  obtain ⟨secondBound, secondEntry⟩ := (hashed.shows.linked_iff second).mp secondMem
  have firstIndex := (rep.owner_linked _ firstBound first.node (by rw [firstEntry])).1
  have secondIndex := (rep.owner_linked _ secondBound second.node (by rw [secondEntry])).1
  rw [same, secondIndex] at firstIndex
  exact RefTable.index_inj firstMem secondMem firstIndex.symm

/-- A scan of the table meets every linked node once. -/
theorem scan_perm (hashed : HashTable refs) :
    (mchashTableScan hashed.table).flatten.Perm refs.nodes := by
  obtain ⟨view, rep, -⟩ := hashed.shows.represented
  rw [List.perm_ext_iff_of_nodup rep.scan_nodup hashed.nodes_nodup]
  intro node
  rw [rep.mem_scan, RefTable.mem_nodes]
  constructor
  · rintro ⟨index, bound, owned⟩
    refine ⟨⟨index, (hashed.table.indirectionArray index).magic⟩, ?_⟩
    refine (hashed.shows.linked_iff _).mpr ⟨bound, ?_⟩
    ext
    · rfl
    · rw [owned]
  · rintro ⟨noderef, member⟩
    obtain ⟨bound, entry⟩ := (hashed.shows.linked_iff _).mp member
    exact ⟨noderef.index, bound, by rw [entry]⟩

end HashTable

/-! ## The two side by side -/

/-- A call of a user of the table, and what it answers. -/
inductive TableCall (ν : Type*) where
  | append (keys : Nat) (nodeobj : ν)
  | access (noderef : MchashNoderef)
  | deleteByRef (noderef : MchashNoderef)

inductive TableAnswer (ν : Type*) where
  | appended (noderef : Option MchashNoderef)
  | accessed (result : AccessResult ν)
  | deleted (result : DeleteResult ν)

section Calls

variable [DecidableEq ν]

def MchashTable.call (table : MchashTable ν) : TableCall ν → MchashTable ν × TableAnswer ν
  | .append keys nodeobj => (mchashAppendNode table keys nodeobj).map id .appended
  | .access noderef => (table, .accessed (mchashAccessNode table noderef))
  | .deleteByRef noderef => (mchashDeleteNodeByRef table noderef).map id .deleted

def RefTable.call (refs : RefTable ν) : TableCall ν → RefTable ν × TableAnswer ν
  | .append _ nodeobj => (refs.append nodeobj).map id .appended
  | .access noderef => (refs, .accessed (refs.access noderef))
  | .deleteByRef noderef => (refs.deleteByRef noderef).map id .deleted

/-- An appended node is not in the table, and its bucket is. -/
def TableCall.Fits (table : MchashTable ν) : TableCall ν → Prop
  | .append keys nodeobj => keys < table.buckets ∧ Represents.Unowned table nodeobj
  | _ => True

theorem Shows.call {table : MchashTable ν} {refs : RefTable ν} {made : TableCall ν}
    (shows : Shows table refs) (fits : made.Fits table) :
    Shows (table.call made).1 (refs.call made).1 ∧ (table.call made).2 = (refs.call made).2 := by
  cases made with
  | append keys nodeobj =>
    obtain ⟨shows, same⟩ := shows.append fits.1 fits.2
    exact ⟨shows, congrArg TableAnswer.appended same⟩
  | access noderef => exact ⟨shows, congrArg TableAnswer.accessed (shows.access noderef)⟩
  | deleteByRef noderef =>
    obtain ⟨shows, same⟩ := shows.deleteByRef noderef
    exact ⟨shows, congrArg TableAnswer.deleted same⟩

/-- To its users the hash table is the table of references: in every run of fitting calls both
answer alike, and a scan of the buckets meets the nodes that are referred to, each once. -/
theorem hash_table_refines (size : TableSize) (buckets : Nat)
    (nodeLinks : ν → DllNode (DllLoc ν)) (tableLink : ν → MchashTableLink)
    (calls : List (TableCall ν))
    (fits : Along (fun table made => (table.call made).1) (fun table made => made.Fits table)
      (mchashTableCreate buckets size.1 nodeLinks tableLink) calls) :
    let table := mchashTableCreate buckets size.1 nodeLinks tableLink
    answers MchashTable.call table calls = answers RefTable.call (RefTable.create size) calls ∧
      (mchashTableScan (calls.foldl (fun table made => (table.call made).1) table)).flatten.Perm
        (calls.foldl (fun refs made => (refs.call made).1) (RefTable.create size)).nodes := by
  obtain ⟨same, shows⟩ := answers_eq (fun _ _ _ => Shows.call)
    (Shows.create size buckets nodeLinks tableLink) fits
  exact ⟨same, HashTable.scan_perm ⟨_, shows⟩⟩

theorem hash_table_refines_twoCalls :
    let table := mchashTableCreate 1 4 (fun _ : Nat => ⟨none, none⟩) (fun _ => ⟨0, 0⟩)
    let calls := [.append 0 7, .deleteByRef ⟨0, 1⟩]
    answers MchashTable.call table calls =
        answers RefTable.call (RefTable.create ⟨4, four_bounds⟩) calls ∧
      (mchashTableScan (calls.foldl (fun table made => (table.call made).1) table)).flatten.Perm
        (calls.foldl (fun refs made => (refs.call made).1)
          (RefTable.create ⟨4, four_bounds⟩)).nodes :=
  hash_table_refines ⟨4, four_bounds⟩ 1 _ _ [.append 0 7, .deleteByRef ⟨0, 1⟩]
    ⟨⟨by decide, by decide⟩, trivial, trivial⟩

end Calls

end OpenFlowController.Utils
