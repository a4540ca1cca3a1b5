/-
Module: Utils.RefTable
Purpose: The hash table as its callers see it: the nodes linked in it with their
  safe references, the free entries in queue order and the next magic number.
  The pointers, buckets and caches behind it are left to the model of the table
  itself.
Source: include/mchash.h
Trusted boundary: a bucket scan that looks for an
  application's own key is a search of the linked nodes
-/
import OpenFlowController.Utils.MchashInvariant

namespace OpenFlowController.Utils

open Library List

/-- The number of entries a table is created with; `mchash_table_create` asserts
that there is one, and the number is a `uint32_t`. -/
abbrev TableSize := { entries : Nat // 0 < entries ∧ entries < 2 ^ 32 }

theorem four_bounds : 0 < 4 ∧ 4 < 2 ^ 32 := by decide

theorem sixtyFour_bounds : 0 < 64 ∧ 64 < 2 ^ 32 := by decide

/-- The safe reference in a handle: the magic number is the upper half, the index the lower. -/
def MchashNoderef.ofHandle (handle : UInt64) : MchashNoderef where
  index := handle.toUInt32.toNat
  magic := (handle >>> 32).toUInt32.toNat

/-- A node linked in the table, with its safe reference. -/
structure LinkedNode (α : Type*) where
  noderef : MchashNoderef
  node : α
deriving DecidableEq

/-- The table: no entry of the indirection array is both free and taken, or taken
twice, and a taken entry carries a magic number other than zero. -/
structure RefTable (α : Type*) where
  maxNodes : TableSize
  magicNo : Nat
  free : List Nat
  linked : List (LinkedNode α)
  entriesOnce : (free ++ linked.map (·.noderef.index)).Nodup
  entriesBound : ∀ index ∈ free ++ linked.map (·.noderef.index), index < maxNodes.1
  magicNo_ne : magicNo ≠ 0
  magics_ne : ∀ entry ∈ linked, entry.noderef.magic ≠ 0

namespace RefTable

variable {α : Type*}

/-- `mchash_table_create`. -/
def create (size : TableSize) : RefTable α where
  maxNodes := size
  magicNo := 1
  free := List.range size.1
  linked := []
  entriesOnce := by simpa using List.nodup_range
  entriesBound := by simp
  magicNo_ne := by decide
  magics_ne := by simp

/-- The nodes the table holds. -/
def nodes (table : RefTable α) : List α :=
  table.linked.map (·.node)

/-- The linked node that owns an entry of the indirection array. -/
def ownerOf (table : RefTable α) (index : Nat) : Option (LinkedNode α) :=
  table.linked.find? (fun entry => entry.noderef.index = index)

/-- The table after its first free entry was taken for a node. -/
def take (table : RefTable α) (index : Nat) (rest : List Nat)
    (free : table.free = index :: rest) (node : α) : RefTable α where
  maxNodes := table.maxNodes
  magicNo := nextMagicNo table.magicNo
  free := rest
  linked := table.linked ++ [{ noderef := { index := index, magic := table.magicNo }, node := node }]
  entriesOnce := by
    have once := table.entriesOnce
    rw [free, List.cons_append] at once
    rw [List.map_append, ← List.append_assoc]
    exact (List.perm_append_singleton index _).nodup_iff.mpr once
  entriesBound := by
    intro other member
    apply table.entriesBound other
    rw [free, List.cons_append]
    rw [List.map_append, ← List.append_assoc] at member
    exact (List.perm_append_singleton index _).mem_iff.mp member
  magicNo_ne := nextMagicNo_ne table.magicNo
  magics_ne := by
    intro entry member
    rcases List.mem_append.mp member with old | new
    · exact table.magics_ne entry old
    · rw [List.mem_singleton.mp new]
      exact table.magicNo_ne

/-- `MCHASH_APPEND_NODE`: the table after it, and the safe reference when the
free queue was not empty. -/
def append (table : RefTable α) (node : α) : RefTable α × Option MchashNoderef :=
  match free : table.free with
  | [] => (table, none)
  | index :: rest =>
    (table.take index rest free node, some { index := index, magic := table.magicNo })

theorem inserted_perm (linked : List (LinkedNode α)) (position : Nat) (entry : LinkedNode α) :
    (linked.take position ++ entry :: linked.drop position).Perm (linked ++ [entry]) := by
  have perm := perm_middle.trans (perm_append_singleton entry
    (linked.take position ++ linked.drop position)).symm
  rw [take_append_drop] at perm
  exact perm

/-- The table after its first free entry was taken for a node that is linked at a
position of the bucket. -/
def takeAt (table : RefTable α) (position index : Nat) (rest : List Nat)
    (free : table.free = index :: rest) (node : α) : RefTable α where
  maxNodes := table.maxNodes
  magicNo := nextMagicNo table.magicNo
  free := rest
  linked :=
    table.linked.take position ++
      { noderef := { index := index, magic := table.magicNo }, node := node } ::
        table.linked.drop position
  entriesOnce := by
    have perm := (inserted_perm table.linked position ⟨⟨index, table.magicNo⟩, node⟩).map
      (fun entry => entry.noderef.index)
    exact (perm.append_left rest).nodup_iff.mpr (table.take index rest free node).entriesOnce
  entriesBound := by
    intro other member
    have perm := (inserted_perm table.linked position ⟨⟨index, table.magicNo⟩, node⟩).map
      (fun entry => entry.noderef.index)
    apply (table.take index rest free node).entriesBound other
    exact (perm.append_left rest).mem_iff.mp member
  magicNo_ne := nextMagicNo_ne table.magicNo
  magics_ne := by
    intro entry member
    rcases List.mem_append.mp member with before | after
    · exact table.magics_ne entry (List.mem_of_mem_take before)
    · rcases List.mem_cons.mp after with new | behind
      · rw [new]
        exact table.magicNo_ne
      · exact table.magics_ne entry (List.mem_of_mem_drop behind)

/-- What the insertion macros share: nothing without a free entry, and otherwise
the node is linked at a position of the bucket. -/
def insertAt (table : RefTable α) (position : Nat) (node : α) : RefTable α × Option MchashNoderef :=
  match free : table.free with
  | [] => (table, none)
  | index :: rest =>
    (table.takeAt position index rest free node, some { index := index, magic := table.magicNo })

/-- How many nodes of the bucket come before the one with a reference. -/
def positionOf (table : RefTable α) (noderef : MchashNoderef) : Nat :=
  table.linked.findIdx (fun entry => entry.noderef = noderef)

/-- `MCHASH_INSERT_NODE_BEFORE`, for a table with one bucket. -/
def insertBefore (table : RefTable α) (next : MchashNoderef) (node : α) :
    RefTable α × Option MchashNoderef :=
  table.insertAt (table.positionOf next) node

/-- `MCHASH_INSERT_NODE_AFTER`, for a table with one bucket. -/
def insertAfter (table : RefTable α) (prev : MchashNoderef) (node : α) :
    RefTable α × Option MchashNoderef :=
  table.insertAt (table.positionOf prev + 1) node

/-- `MCHASH_ACCESS_NODE`.  A free entry carries the magic number 0 and a null
node. -/
def access (table : RefTable α) (noderef : MchashNoderef) : AccessResult α :=
  if noderef.index < table.maxNodes.1 then
    match table.ownerOf noderef.index with
    | some entry =>
      if noderef.magic = entry.noderef.magic then .valid (some entry.node) else .invalid
    | none => if noderef.magic = 0 then .valid none else .invalid
  else
    .fault

/-- The table after the entry of a linked node went to the end of the free
queue. -/
def release [DecidableEq α] (table : RefTable α) (entry : LinkedNode α)
    (member : entry ∈ table.linked) : RefTable α where
  maxNodes := table.maxNodes
  magicNo := table.magicNo
  free := table.free ++ [entry.noderef.index]
  linked := table.linked.erase entry
  entriesOnce := by
    have perm := (List.perm_cons_erase member).map (·.noderef.index)
    have once := (perm.append_left table.free).nodup_iff.mp table.entriesOnce
    rw [List.append_assoc]
    exact once
  entriesBound := by
    intro index indexMem
    have perm := (List.perm_cons_erase member).map (·.noderef.index)
    rw [List.append_assoc] at indexMem
    exact table.entriesBound index ((perm.append_left table.free).mem_iff.mpr indexMem)
  magicNo_ne := table.magicNo_ne
  magics_ne := fun other otherMem => table.magics_ne other (List.mem_of_mem_erase otherMem)

/-- `MCHASH_DELETE_NODE_BY_REF`.  For a free entry the macro reads the link
structure of a null node before it compares the magic number with 0. -/
def deleteByRef [DecidableEq α] (table : RefTable α) (noderef : MchashNoderef) :
    RefTable α × DeleteResult α :=
  if noderef.index < table.maxNodes.1 then
    match owner : table.ownerOf noderef.index with
    | some entry =>
      if noderef.magic = entry.noderef.magic then
        (table.release entry (List.mem_of_find?_eq_some owner), .deleted entry.node)
      else
        (table, .notDeleted)
    | none => (table, if noderef.magic = 0 then .fault else .notDeleted)
  else
    (table, .fault)

/-! ## Who owns an entry -/

section Owners

variable {table : RefTable α} {first second entry : LinkedNode α}

theorem mem_nodes {node : α} :
    node ∈ table.nodes ↔ ∃ noderef, { noderef := noderef, node := node } ∈ table.linked := by
  constructor
  · intro member
    obtain ⟨entry, entryMem, same⟩ := mem_map.mp member
    subst same
    exact ⟨entry.noderef, entryMem⟩
  · rintro ⟨noderef, member⟩
    exact mem_map.mpr ⟨_, member, rfl⟩

theorem index_inj (firstMem : first ∈ table.linked) (secondMem : second ∈ table.linked)
    (same : first.noderef.index = second.noderef.index) : first = second := by
  have once := (nodup_append.mp table.entriesOnce).2.1
  exact inj_on_of_nodup_map once firstMem secondMem same

section

variable (member : entry ∈ table.linked)

include member

theorem bound : entry.noderef.index < table.maxNodes.1 := by
  apply table.entriesBound
  exact mem_append_right _ (mem_map_of_mem member)

theorem ownerOf_linked : table.ownerOf entry.noderef.index = some entry := by
  cases found : table.ownerOf entry.noderef.index with
  | none =>
    have missed := find?_eq_none.mp found entry member
    simp at missed
  | some owner =>
  have ownerMem := mem_of_find?_eq_some found
  have same : owner.noderef.index = entry.noderef.index := by
    simpa using find?_some found
  rw [index_inj ownerMem member same]

theorem access_linked : table.access entry.noderef = .valid (some entry.node) := by
  rw [access, if_pos (bound member), ownerOf_linked member]
  exact if_pos rfl

end

variable {noderef : MchashNoderef}

/-- A reference is valid exactly when its entry is linked. -/
theorem access_valid_iff {node : α} :
    table.access noderef = .valid (some node) ↔
      { noderef := noderef, node := node } ∈ table.linked := by
  constructor
  · intro honoured
    unfold access at honoured
    split at honoured
    · cases found : table.ownerOf noderef.index with
      | none =>
        rw [found] at honoured
        dsimp only at honoured
        split at honoured <;> cases honoured
      | some owner =>
        rw [found] at honoured
        dsimp only at honoured
        split at honoured
        case isTrue same =>
          have ownerMem := mem_of_find?_eq_some found
          have index : owner.noderef.index = noderef.index := by
            simpa using find?_some found
          injection honoured with nodeEq
          injection nodeEq with nodeEq
          have ref : owner.noderef = noderef := MchashNoderef.ext index same.symm
          subst nodeEq ref
          exact ownerMem
        case isFalse => cases honoured
    · cases honoured
  · intro member
    exact access_linked member

theorem access_stored (handleOf : α → MchashNoderef)
    (stored : ∀ row ∈ table.linked, handleOf row.node = row.noderef) {node : α}
    (member : node ∈ table.nodes) : table.access (handleOf node) = .valid (some node) := by
  obtain ⟨noderef, linked⟩ := mem_nodes.mp member
  rw [stored _ linked]
  exact access_linked linked

theorem access_inj (firstMem : first ∈ table.linked) (secondMem : second ∈ table.linked)
    (firstRef : first.noderef = noderef) (secondRef : second.noderef = noderef) : first = second :=
  index_inj firstMem secondMem (by rw [firstRef, secondRef])

theorem linked_nodup : table.linked.Nodup :=
  List.Nodup.of_map _ (nodup_append.mp table.entriesOnce).2.1

theorem entries_le : table.free.length + table.linked.length ≤ table.maxNodes.1 := by
  have within : (table.free ++ table.linked.map (·.noderef.index)).toFinset ⊆
      Finset.range table.maxNodes.1 := by
    intro index member
    rw [mem_toFinset] at member
    exact Finset.mem_range.mpr (table.entriesBound index member)
  have counted := Finset.card_le_card within
  rw [toFinset_card_of_nodup table.entriesOnce, Finset.card_range, length_append,
    length_map] at counted
  exact counted

theorem length_linked_le : table.linked.length ≤ table.maxNodes.1 :=
  Nat.le_trans (Nat.le_add_left _ _) table.entries_le

end Owners

/-! ## What each operation does -/

variable {table : RefTable α}

theorem append_full (full : table.free = []) (node : α) : table.append node = (table, none) := by
  unfold append
  split
  · rfl
  · rename_i taken
    rw [full] at taken
    cases taken

theorem append_free (room : table.free ≠ []) (node : α) :
    ∃ after noderef, table.append node = (after, some noderef) ∧
      after.linked = table.linked ++ [{ noderef := noderef, node := node }] ∧
      after.maxNodes = table.maxNodes := by
  unfold append
  split
  · rename_i full
    exact absurd full room
  · rename_i index rest free
    exact ⟨_, _, rfl, rfl, rfl⟩

theorem append_magic {after : RefTable α} {node : α} {noderef : MchashNoderef}
    (appended : table.append node = (after, some noderef)) : noderef.magic = table.magicNo := by
  unfold append at appended
  split at appended
  · cases appended
  · cases appended
    rfl

theorem append_sizes (table : RefTable α) (node : α) :
    (table.append node).1.free.length + (table.append node).1.linked.length =
      table.free.length + table.linked.length := by
  unfold append
  split
  · rfl
  · rename_i index rest free
    dsimp only [take]
    rw [free, length_append, length_singleton, length_cons]
    omega

variable {before behind : List (LinkedNode α)}

theorem insertAt_linked (room : table.free ≠ []) (cut : table.linked = before ++ behind) (node : α) :
    ∃ after noderef, table.insertAt before.length node = (after, some noderef) ∧
      after.linked = before ++ { noderef := noderef, node := node } :: behind ∧
      after.maxNodes = table.maxNodes := by
  unfold insertAt
  split
  · rename_i full
    exact absurd full room
  · rename_i index rest free
    refine ⟨_, _, rfl, ?_, rfl⟩
    dsimp only [takeAt]
    rw [cut, take_left, drop_left]

theorem insertAt_sizes (table : RefTable α) (position : Nat) (node : α) :
    (table.insertAt position node).1.free.length + (table.insertAt position node).1.linked.length =
      table.free.length + table.linked.length := by
  unfold insertAt
  split
  · rfl
  rename_i index rest free
  dsimp only [takeAt]
  have whole := congrArg List.length (take_append_drop position table.linked)
  rw [length_append] at whole
  rw [free, length_append, length_cons, length_cons]
  omega

theorem append_eq_insertAt (table : RefTable α) (node : α) :
    (table.append node).2 = (table.insertAt table.linked.length node).2 ∧
      (table.append node).1.linked = (table.insertAt table.linked.length node).1.linked := by
  unfold append insertAt
  split
  · exact ⟨rfl, rfl⟩
  · dsimp only [take, takeAt]
    rw [take_length, drop_length]
    exact ⟨rfl, rfl⟩

theorem positionOf_linked {entry : LinkedNode α} (cut : table.linked = before ++ entry :: behind) :
    table.positionOf entry.noderef = before.length := by
  have distinct : ∀ other ∈ before, ¬ other.noderef = entry.noderef := by
    intro other otherMem same
    have once := (nodup_append.mp table.entriesOnce).2.1
    rw [cut, map_append, map_cons] at once
    have apart := (nodup_append.mp once).2.2 other.noderef.index
      (mem_map_of_mem otherMem) entry.noderef.index mem_cons_self
    exact apart (congrArg MchashNoderef.index same)
  rw [positionOf, cut, findIdx_append, if_neg]
  · rw [findIdx_cons]
    simp
  · rw [findIdx_lt_length]
    rintro ⟨other, otherMem, same⟩
    exact distinct other otherMem (of_decide_eq_true same)

section Delete

variable [DecidableEq α] {table : RefTable α}

theorem deleteByRef_sizes (table : RefTable α) (noderef : MchashNoderef) :
    (table.deleteByRef noderef).1.free.length + (table.deleteByRef noderef).1.linked.length =
      table.free.length + table.linked.length := by
  unfold deleteByRef
  split
  · split
    · rename_i entry owner
      split
      · have member := mem_of_find?_eq_some owner
        dsimp only [release]
        rw [length_append, length_singleton, length_erase_of_mem member]
        have positive := length_pos_of_mem member
        omega
      · rfl
    · rfl
  · rfl

theorem deleteByRef_linked {entry : LinkedNode α} (member : entry ∈ table.linked) :
    ∃ after, table.deleteByRef entry.noderef = (after, .deleted entry.node) ∧
      after.linked = table.linked.erase entry ∧ after.maxNodes = table.maxNodes := by
  unfold deleteByRef
  rw [if_pos (bound member)]
  split
  · rename_i owner found
    have same : owner = entry := by
      rw [ownerOf_linked member] at found
      exact (Option.some.inj found).symm
    subst same
    rw [if_pos rfl]
    exact ⟨_, rfl, rfl, rfl⟩
  · rename_i found
    rw [ownerOf_linked member] at found
    cases found

theorem deleteByRef_cases (table : RefTable α) (noderef : MchashNoderef) :
    (∃ entry ∈ table.linked, (table.deleteByRef noderef).2 = .deleted entry.node ∧
      (table.deleteByRef noderef).1.linked = table.linked.erase entry) ∨
    (table.deleteByRef noderef).1 = table ∧
      ((table.deleteByRef noderef).2 = .notDeleted ∨ (table.deleteByRef noderef).2 = .fault) := by
  unfold deleteByRef
  split
  · split
    · rename_i entry owner
      split
      · exact .inl ⟨entry, mem_of_find?_eq_some owner, rfl, rfl⟩
      · exact .inr ⟨rfl, .inl rfl⟩
    · refine .inr ⟨rfl, ?_⟩
      split
      · exact .inr rfl
      · exact .inl rfl
  · exact .inr ⟨rfl, .inr rfl⟩

theorem deleteByRef_subset (noderef : MchashNoderef) :
    (table.deleteByRef noderef).1.linked ⊆ table.linked := by
  rcases table.deleteByRef_cases noderef with ⟨entry, -, -, linked⟩ | ⟨same, -⟩
  · rw [linked]
    exact erase_subset
  · rw [same]
    exact List.Subset.refl _

end Delete

end RefTable

end OpenFlowController.Utils
