/-
Module: Nsrm.Objects
Purpose: The objects of the network service resource manager: services, chains, the
  services attached to a chain and their instances, with the memory pools they come from
  and the tables that hold them; and the lists of several owners that link blocks of one pool.
Source: ofproto/src/include/nsrmldef.h, include/nsrm.h; ofproto/src/nsrm/nsrmmisc.c,
  nsrm_service.c 40-88, nsrm_chain.c 50-149
Trusted boundary: a pool hands out a block that is not in use, and the notifications to
  applications do not call back
-/
import OpenFlowController.Utils.RefTable

namespace OpenFlowController.Nsrm

open Utils List

/-- The bytes of a string before its end. -/
abbrev Name := List UInt8

scoped instance : LawfulBEq Name := inferInstance

/-! ## Constants of `cntlr_system.h` and `nsrm.h` -/

def nsrmMaxNwserviceObjectEntries : TableSize := ⟨64, by decide⟩

def nsrmMaxNschainNwserviceObjectEntries : TableSize := ⟨64, by decide⟩

def nsrmMaxNwserviceInstanceEntries : TableSize := ⟨64, by decide⟩

def nsrmMaxSelectionRuleEntries : TableSize := ⟨64, by decide⟩

def nsrmMaxBypassRuleEntries : TableSize := ⟨64, by decide⟩

/-- The return values of the calls. -/
inductive NsrmStatus where
  | success
  | failure
  | errorNwserviceObjectNameInvalid
  | errorNschainObjectNameInvalid
  | nwserviceObjectAttachToNschainFail
  | nwserviceObjectDetachFromNschainFail
  | nwserviceUsedInBypassRule
  | errorNschainsetObjectNameInvalid
  | errorInvalidSelectionRuleName
  | selectionRuleAddFail
  | selectionRuleDelFail
  | errorInvalidBypassRuleName
  | bypassRuleAddFail
  | bypassRuleDelFail
  | errorNwserviceInstanceNameNull
  | nwserviceInstanceLaunchFail
  | nwserviceInstanceDelaunchFail
  | errorNoMoreEntries
  | errorDuplicateResource
  | errorL2nwServiceMapNameInvalid
  | nwserviceObjectAddFail
  | nwserviceObjectDelFail
  | nwserviceObjectModFail
  | nschainObjectAddFail
  | nschainObjectDelFail
  | nschainUsedInSelectionRule
  | nschainsetObjectAddFail
  | nschainsetObjectDelFail
  | nschainsetObjectModFail
  | l2nwServiceMapAddFail
  | l2nwServiceMapDelFail
deriving DecidableEq

/-! ## Memory -/

/-- A memory pool: the blocks that were handed out and not given back, and those of them
that a table no longer links and that are freed after the grace period. -/
structure BlockPool where
  maxBlocks : Nat
  inUse : List Nat
  retired : List Nat

namespace BlockPool

/-- `mempool_get_mem_block`: no block, or one that is not in use, as long as fewer than the
most are. -/
def get (pool : BlockPool) : Option Nat → Option (BlockPool × Nat)
  | none => none
  | some block =>
    if block ∈ pool.inUse ∨ pool.maxBlocks ≤ pool.inUse.length then none
    else some ({ pool with inUse := block :: pool.inUse }, block)

/-- A block is handed to the free function of its table. -/
def retire (pool : BlockPool) (block : Nat) : BlockPool :=
  { pool with retired := block :: pool.retired }

/-- The free function gives the block back to the pool. -/
def reclaim (pool : BlockPool) (block : Nat) : BlockPool :=
  if block ∈ pool.retired then
    { pool with inUse := pool.inUse.erase block, retired := pool.retired.erase block }
  else
    pool

variable {pool after : BlockPool} {block : Nat} {choice : Option Nat}

theorem get_some (got : pool.get choice = some (after, block)) :
    block ∉ pool.inUse ∧ after.inUse = block :: pool.inUse ∧ after.retired = pool.retired := by
  cases choice with
  | none => cases got
  | some candidate =>
  simp only [get] at got
  split at got
  · cases got
  · rename_i unused
    cases got
    exact ⟨fun used => unused (.inl used), rfl, rfl⟩

theorem get_room (got : pool.get choice = some (after, block)) :
    pool.inUse.length < pool.maxBlocks ∧ after.maxBlocks = pool.maxBlocks := by
  cases choice with
  | none => cases got
  | some candidate =>
  simp only [get] at got
  split at got
  · cases got
  · rename_i unused
    cases got
    exact ⟨Nat.lt_of_not_le fun full => unused (.inr full), rfl⟩

/-- A block that is to be freed is in use, and is freed once. -/
structure Sound (pool : BlockPool) : Prop where
  pending : ∀ block ∈ pool.retired, block ∈ pool.inUse
  once : pool.retired.Nodup

theorem Sound.get (sound : pool.Sound) (got : pool.get choice = some (after, block)) :
    after.Sound := by
  obtain ⟨-, inUse, retired⟩ := get_some got
  constructor
  case pending =>
    intro other member
    rw [retired] at member
    rw [inUse]
    exact mem_cons_of_mem _ (sound.pending other member)
  case once =>
    rw [retired]
    exact sound.once

theorem Sound.retire (sound : pool.Sound) (used : block ∈ pool.inUse)
    (kept : block ∉ pool.retired) : (pool.retire block).Sound where
  pending := by
    intro other member
    rcases mem_cons.mp member with rfl | old
    · exact used
    · exact sound.pending other old
  once := nodup_cons.mpr ⟨kept, sound.once⟩

theorem Sound.reclaim (sound : pool.Sound) (block : Nat) : (pool.reclaim block).Sound := by
  unfold BlockPool.reclaim
  split
  · constructor
    case pending =>
      intro other member
      obtain ⟨apart, old⟩ := (List.Nodup.mem_erase_iff sound.once).mp member
      exact (mem_erase_of_ne apart).mpr (sound.pending other old)
    case once => exact sound.once.erase block
  · exact sound

theorem mem_reclaim_inUse {other : Nat} (member : other ∈ pool.inUse)
    (kept : other ∉ pool.retired) : other ∈ (pool.reclaim block).inUse := by
  unfold reclaim
  split
  · rename_i retired
    apply (mem_erase_of_ne _).mpr member
    rintro rfl
    exact kept retired
  · exact member

theorem reclaim_retired {other : Nat} (kept : other ∉ pool.retired) :
    other ∉ (pool.reclaim block).retired := by
  unfold reclaim
  split
  · exact fun member => kept (mem_of_mem_erase member)
  · exact kept

end BlockPool

/-- The pointer to a table with one bucket that an object creates at its first use.  The
block from `calloc` that precedes the creation stays behind when the creation fails; taken
for a table, it has no bucket and an empty free queue. -/
inductive ListPtr where
  | null
  | zeroed
  | table (entries : RefTable Nat)

/-- What the allocator gives to a call: whether `calloc` and `mchash_table_create` find
memory, and the block of the pool. -/
structure Supply where
  allocated : Bool
  created : Bool
  block : Option Nat

namespace ListPtr

/-- The nodes that a scan of the one bucket visits. -/
def linked : ListPtr → List (LinkedNode Nat)
  | null => []
  | zeroed => []
  | table entries => entries.linked

/-- The table is created when there is none, and whether the creation succeeded. -/
def ensure (list : ListPtr) (size : TableSize) (supply : Supply) : ListPtr × Bool :=
  match list with
  | null =>
    if supply.created then (table (RefTable.create size), true)
    else (if supply.allocated then zeroed else null, false)
  | zeroed => (zeroed, true)
  | table entries => (table entries, true)

/-- What the three insertion macros share. -/
def insertWith (list : ListPtr) (insert : RefTable Nat → RefTable Nat × Option MchashNoderef) :
    ListPtr × Option MchashNoderef :=
  match list with
  | null => (null, none)
  | zeroed => (zeroed, none)
  | table entries => (table (insert entries).1, (insert entries).2)

/-- `MCHASH_APPEND_NODE`. -/
def append (list : ListPtr) (block : Nat) : ListPtr × Option MchashNoderef :=
  list.insertWith (fun entries => entries.append block)

/-- `MCHASH_INSERT_NODE_BEFORE`. -/
def insertBefore (list : ListPtr) (next : MchashNoderef) (block : Nat) :
    ListPtr × Option MchashNoderef :=
  list.insertWith (fun entries => entries.insertBefore next block)

/-- `MCHASH_INSERT_NODE_AFTER`. -/
def insertAfter (list : ListPtr) (prev : MchashNoderef) (block : Nat) :
    ListPtr × Option MchashNoderef :=
  list.insertWith (fun entries => entries.insertAfter prev block)

/-- `MCHASH_DELETE_NODE_BY_REF`. -/
def deleteByRef (list : ListPtr) (noderef : MchashNoderef) : ListPtr × DeleteResult Nat :=
  match list with
  | null => (null, .fault)
  | zeroed => (zeroed, .fault)
  | table entries => (table (entries.deleteByRef noderef).1, (entries.deleteByRef noderef).2)

/-! ### A table that is not full -/

section Insert

variable {entries : RefTable Nat} {before behind : List (LinkedNode Nat)} {block : Nat}

/-- What an insertion between two parts of the list gives. -/
def Inserted (entries : RefTable Nat) (before behind : List (LinkedNode Nat)) (block : Nat)
    (result : ListPtr × Option MchashNoderef) : Prop :=
  ∃ after noderef, result = (table after, some noderef) ∧
    after.linked = before ++ { noderef := noderef, node := block } :: behind ∧
    after.free.length + after.linked.length = entries.free.length + entries.linked.length

theorem insertAt_inserted (room : entries.free ≠ []) (cut : entries.linked = before ++ behind) :
    Inserted entries before behind block
      ((table entries).insertWith (fun entries => entries.insertAt before.length block)) := by
  obtain ⟨after, noderef, inserted, linked, -⟩ := RefTable.insertAt_linked room cut block
  have sizes := entries.insertAt_sizes before.length block
  rw [inserted] at sizes
  refine ⟨after, noderef, ?_, linked, sizes⟩
  simp only [insertWith, inserted]

theorem append_inserted (room : entries.free ≠ []) :
    Inserted entries entries.linked [] block ((table entries).append block) := by
  have appended := entries.append_eq_insertAt block
  obtain ⟨after, noderef, inserted, linked, -⟩ :=
    RefTable.insertAt_linked room (append_nil _).symm block
  rw [inserted] at appended
  refine ⟨(entries.append block).1, noderef, ?_, appended.2.trans linked,
    entries.append_sizes block⟩
  simp only [append, insertWith, appended.1]

theorem insertBefore_inserted {next : LinkedNode Nat} (room : entries.free ≠ [])
    (cut : entries.linked = before ++ next :: behind) :
    Inserted entries before (next :: behind) block
      ((table entries).insertBefore next.noderef block) := by
  have position := RefTable.positionOf_linked cut
  simp only [insertBefore, RefTable.insertBefore, insertWith, position]
  exact insertAt_inserted room cut

theorem insertAfter_inserted {prev : LinkedNode Nat} (room : entries.free ≠ [])
    (cut : entries.linked = before ++ prev :: behind) :
    Inserted entries (before ++ [prev]) behind block
      ((table entries).insertAfter prev.noderef block) := by
  have position : entries.positionOf prev.noderef + 1 = (before ++ [prev]).length := by
    rw [RefTable.positionOf_linked cut, length_append, length_singleton]
  have shifted : entries.linked = (before ++ [prev]) ++ behind := by
    rw [cut, append_assoc, singleton_append]
  simp only [insertAfter, RefTable.insertAfter, insertWith, position]
  exact insertAt_inserted room shifted

end Insert

theorem deleteByRef_cut {list : ListPtr} {entry : LinkedNode Nat} (member : entry ∈ list.linked) :
    ∃ entries after before behind, list = table entries ∧
      list.deleteByRef entry.noderef = (table after, .deleted entry.node) ∧
      entries.linked = before ++ entry :: behind ∧ after.linked = before ++ behind ∧
      after.free.length + after.linked.length = entries.free.length + entries.linked.length := by
  cases list with
  | null => exact absurd member not_mem_nil
  | zeroed => exact absurd member not_mem_nil
  | table entries =>
  change entry ∈ entries.linked at member
  obtain ⟨after, deleted, linked, -⟩ := RefTable.deleteByRef_linked member
  have sizes := entries.deleteByRef_sizes entry.noderef
  rw [deleted] at sizes
  obtain ⟨before, behind, cut⟩ := append_of_mem member
  have fresh : entry ∉ before := by
    have once : entries.linked.Nodup := RefTable.linked_nodup
    rw [cut] at once
    intro earlier
    exact (nodup_append.mp once).2.2 entry earlier entry mem_cons_self rfl
  refine ⟨entries, after, before, behind, rfl, ?_, cut, ?_, sizes⟩
  · simp only [deleteByRef, deleted]
  · rw [linked, cut, erase_append_right _ fresh, erase_cons_head]

end ListPtr

/-! ## Objects -/

/-- What the modelled calls use of `nsrm_nwservice_object`. -/
structure NwserviceObject where
  name : Name
  attachStatus : UInt8 := 0
  bypassAttachCount : UInt8 := 0

/-- What the modelled calls use of `nschain_nwservice_object`. -/
structure NschainNwserviceObject where
  name : Name
  nwserviceObjectSaferef : MchashNoderef
  sequenceNumber : UInt16

/-- What the modelled calls use of `nsrm_nschain_object`. -/
structure NschainObject where
  name : Name
  noOfNwServiceObjects : UInt8 := 0
  nwserviceObjectsList : ListPtr := .null
  nschainUsageCount : UInt8 := 0

/-- What the modelled calls use of `nsrm_nschainset_object`. -/
structure NschainsetObject where
  name : Name

/-- A global table and the objects behind the blocks it links.  The `magic` and `index` that
an object stores, and its handle, are those of the reference it is linked under. -/
structure Registry (α : Type) where
  table : RefTable Nat
  objects : Nat → α

namespace Registry

variable {α : Type}

/-- `nsrm_get_nwservice_object_handle` and `nsrm_get_nschain_object_handle`, with the object
the handle leads to: the first of the name's bucket with the name. -/
def named (registry : Registry α) (nameOf : α → Name) (name : Name) : Option (LinkedNode Nat) :=
  registry.table.linked.find? (fun entry => nameOf (registry.objects entry.node) = name)

/-- An object rewritten by `change`. -/
def change (registry : Registry α) (block : Nat) (change : α → α) : Registry α :=
  { registry with
    objects := Function.update registry.objects block (change (registry.objects block)) }

theorem named_access {registry : Registry α} {nameOf : α → Name} {name : Name}
    {entry : LinkedNode Nat} (found : registry.named nameOf name = some entry) :
    registry.table.access entry.noderef = .valid (some entry.node) ∧
      nameOf (registry.objects entry.node) = name := by
  constructor
  · exact RefTable.access_linked (mem_of_find?_eq_some found)
  · have held := find?_some found
    exact of_decide_eq_true held

theorem change_named {registry : Registry α} {nameOf : α → Name} {block : Nat} {rewrite : α → α}
    (kept : nameOf (rewrite (registry.objects block)) = nameOf (registry.objects block))
    (name : Name) :
    (registry.change block rewrite).named nameOf name = registry.named nameOf name := by
  have same : ∀ other, nameOf ((registry.change block rewrite).objects other) =
      nameOf (registry.objects other) := by
    intro other
    dsimp only [Registry.change]
    rcases eq_or_ne other block with rfl | apart
    · rw [Function.update_self, kept]
    · rw [Function.update_of_ne apart]
  simp only [named, same]
  rfl

end Registry

open Function

/-- The lists link blocks of their own that are in use, and a table has `room` entries. -/
structure BlockLists (lists : Nat → ListPtr) (pool : BlockPool) (room : Nat) : Prop where
  sound : pool.Sound
  sizes : ∀ owner entries, lists owner = .table entries →
    entries.free.length + entries.linked.length = room
  owned : ∀ owner, ∀ entry ∈ (lists owner).linked,
    entry.node ∈ pool.inUse ∧ entry.node ∉ pool.retired
  apart : ∀ first second, ∀ entry ∈ (lists first).linked, ∀ other ∈ (lists second).linked,
    entry.node = other.node → first = second ∧ entry = other

namespace BlockLists

variable {lists : Nat → ListPtr} {pool pool' : BlockPool} {room owner : Nat} {list : ListPtr}
  {entries after : RefTable Nat} {before behind : List (LinkedNode Nat)}
  {entry : LinkedNode Nat}

theorem sizes_update (own : BlockLists lists pool room)
    (sizes : ∀ entries, list = .table entries →
      entries.free.length + entries.linked.length = room) :
    ∀ other held, update lists owner list other = .table held →
      held.free.length + held.linked.length = room := by
  intro other held is
  rcases eq_or_ne other owner with rfl | apart
  · rw [update_self] at is
    exact sizes held is
  · rw [update_of_ne apart] at is
    exact own.sizes other held is

/-! ## Replacing a list -/

theorem linked_relist (empty : (lists owner).linked = []) (none : list.linked = []) (other : Nat) :
    (update lists owner list other).linked = (lists other).linked := by
  rcases eq_or_ne other owner with rfl | apart
  · rw [update_self, empty, none]
  · rw [update_of_ne apart]

theorem relist (own : BlockLists lists pool room) (empty : (lists owner).linked = [])
    (none : list.linked = [])
    (sizes : ∀ entries, list = .table entries →
      entries.free.length + entries.linked.length = room) :
    BlockLists (update lists owner list) pool room := by
  have linked := linked_relist empty none
  constructor
  case sound => exact own.sound
  case sizes => exact own.sizes_update sizes
  case owned =>
    intro other entry member
    rw [linked] at member
    exact own.owned other entry member
  case apart =>
    intro first second entry entryMem other otherMem same
    rw [linked] at entryMem otherMem
    exact own.apart first second entry entryMem other otherMem same

/-! ## Linking a block -/

section Link

variable (own : BlockLists lists pool room) (table : lists owner = .table entries)
  (cut : entries.linked = before ++ behind) (linked : after.linked = before ++ entry :: behind)

include table cut linked

theorem mem_link {other : Nat} {held : LinkedNode Nat}
    (member : held ∈ (update lists owner (.table after) other).linked) :
    (other = owner ∧ held = entry) ∨ held ∈ (lists other).linked := by
  rcases eq_or_ne other owner with rfl | apart
  · rw [update_self] at member
    change held ∈ after.linked at member
    rw [linked] at member
    rw [table]
    change _ ∨ held ∈ entries.linked
    rw [cut]
    simp only [mem_append, mem_cons] at member ⊢
    tauto
  · rw [update_of_ne apart] at member
    exact .inr member

include own

/-- A new entry takes an unused block. -/
theorem link
    (sizes : after.free.length + after.linked.length = entries.free.length + entries.linked.length)
    (unused : entry.node ∉ pool.inUse) (inUse : pool'.inUse = entry.node :: pool.inUse)
    (retired : pool'.retired = pool.retired) (sound : pool'.Sound) :
    BlockLists (update lists owner (.table after)) pool' room := by
  have fresh : ∀ other, ∀ old ∈ (lists other).linked, old.node ≠ entry.node :=
    fun other old member same => unused (same ▸ (own.owned other old member).1)
  constructor
  case sound => exact sound
  case sizes =>
    apply own.sizes_update
    rintro _ ⟨⟩
    exact sizes.trans (own.sizes owner entries table)
  case owned =>
    intro other held member
    rw [inUse, retired]
    rcases mem_link table cut linked member with ⟨-, rfl⟩ | old
    · exact ⟨mem_cons_self, fun pending => unused (own.sound.pending _ pending)⟩
    · exact ⟨mem_cons_of_mem _ (own.owned other held old).1, (own.owned other held old).2⟩
  case apart =>
    intro first second held heldMem other otherMem same
    rcases mem_link table cut linked heldMem with ⟨rfl, rfl⟩ | old <;>
      rcases mem_link table cut linked otherMem with ⟨rfl, rfl⟩ | old'
    · exact ⟨rfl, rfl⟩
    · exact absurd same.symm (fresh second other old')
    · exact absurd same (fresh first held old)
    · exact own.apart first second held old other old' same

theorem map_link {α : Type} (unused : entry.node ∉ pool.inUse) (holds : Nat → α) (value : α) :
    (lists owner).linked.map (fun entry => holds entry.node) =
        before.map (fun entry => holds entry.node) ++ behind.map (fun entry => holds entry.node) ∧
      after.linked.map (fun held => update holds entry.node value held.node) =
        before.map (fun entry => holds entry.node) ++
          value :: behind.map (fun entry => holds entry.node) := by
  have kept : ∀ held ∈ before ++ behind,
      update holds entry.node value held.node = holds held.node := by
    intro held member
    rw [← cut] at member
    apply update_of_ne
    intro same
    exact unused (same ▸ (own.owned owner held (by rw [table]; exact member)).1)
  constructor
  · rw [table]
    change entries.linked.map _ = _
    rw [cut, map_append]
  rw [linked, map_append, map_cons, update_self]
  congr 1
  · exact map_congr_left fun held member => kept held (mem_append_left _ member)
  · congr 1
    exact map_congr_left fun held member => kept held (mem_append_right _ member)

end Link

/-! ## Unlinking a block -/

section Unlink

variable (own : BlockLists lists pool room) (table : lists owner = .table entries)
  (cut : entries.linked = before ++ entry :: behind) (linked : after.linked = before ++ behind)

include table cut linked

theorem mem_unlink {other : Nat} {kept : LinkedNode Nat}
    (member : kept ∈ (update lists owner (.table after) other).linked) :
    kept ∈ (lists other).linked ∧ (other = owner → kept ≠ entry) := by
  rcases eq_or_ne other owner with rfl | apart
  · rw [update_self] at member
    change kept ∈ after.linked at member
    rw [linked] at member
    rw [table]
    change kept ∈ entries.linked ∧ _
    have once : entries.linked.Nodup := RefTable.linked_nodup
    rw [cut] at once ⊢
    have gone := (nodup_cons.mp (nodup_middle.mp once)).1
    constructor
    · simp only [mem_append, mem_cons] at member ⊢
      tauto
    · rintro - rfl
      exact gone member
  · rw [update_of_ne apart] at member
    exact ⟨member, fun same => absurd same apart⟩

include own

/-- A removed entry retires its block. -/
theorem unlink
    (sizes : after.free.length + after.linked.length =
      entries.free.length + entries.linked.length) :
    BlockLists (update lists owner (.table after)) (pool.retire entry.node) room := by
  have listed : entry ∈ (lists owner).linked := by
    rw [table]
    change entry ∈ entries.linked
    rw [cut]
    exact mem_append_right _ mem_cons_self
  obtain ⟨used, live⟩ := own.owned owner entry listed
  constructor
  case sound => exact own.sound.retire used live
  case sizes =>
    apply own.sizes_update
    rintro _ ⟨⟩
    exact sizes.trans (own.sizes owner entries table)
  case owned =>
    intro other kept member
    obtain ⟨old, notRemoved⟩ := mem_unlink table cut linked member
    obtain ⟨keptUsed, keptLive⟩ := own.owned other kept old
    refine ⟨keptUsed, fun retired => ?_⟩
    rcases mem_cons.mp retired with same | earlier
    · obtain ⟨sameList, sameEntry⟩ := own.apart other owner kept old entry listed same
      exact notRemoved sameList sameEntry
    · exact keptLive earlier
  case apart =>
    intro first second kept keptMem other otherMem same
    exact own.apart first second kept (mem_unlink table cut linked keptMem).1 other
      (mem_unlink table cut linked otherMem).1 same

end Unlink

theorem reclaim (own : BlockLists lists pool room) (block : Nat) :
    BlockLists lists (pool.reclaim block) room where
  sound := own.sound.reclaim block
  sizes := own.sizes
  owned owner entry member :=
    have old := own.owned owner entry member
    ⟨BlockPool.mem_reclaim_inUse old.1 old.2, BlockPool.reclaim_retired old.2⟩
  apart := own.apart

end BlockLists

end OpenFlowController.Nsrm
