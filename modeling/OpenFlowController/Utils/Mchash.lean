/-
Module: Utils.Mchash
Purpose: The multi core hash table: buckets of application nodes, the
  indirection array behind the safe references, and the free queue of its
  entries, with the operations of the header's macros.
Source: include/mchash.h, utils/mchash.c
Trusted boundary: none
-/
import OpenFlowController.Library.LinkedChain
import OpenFlowController.Library.MachineInt

namespace OpenFlowController.Utils

open Library

/-- Everything in the table that is (or is cast to) a `mchash_dll_node`: the
anchor of the free queue, the entries of the indirection array, the heads of the
buckets, and the link structures inside the application nodes. -/
inductive DllLoc (ν : Type*) where
  | freeQ
  | slot (index : Nat)
  | head (bucket : Nat)
  | link (node : ν)
deriving DecidableEq

/-- The fields of `mchash_table_link` beside its two list pointers. -/
structure MchashTableLink where
  index : Nat
  key : Nat

/-- The fields of `array_indirect_entry` beside its two list pointers. -/
@[ext]
structure ArrayIndirectEntry (ν : Type*) where
  magic : Nat
  nodeP : Option ν

/-- The fields of `mchash_bucket` beside the list pointers of its head. -/
structure MchashBucket (ν : Type*) where
  count : Nat
  prefetchNodes : List (Option (DllLoc ν))

/-- A safe reference to an application node. -/
@[ext]
structure MchashNoderef where
  index : Nat
  magic : Nat
deriving DecidableEq

/-- The table together with the link structures of the application nodes.  All
numbers are `uint32_t`. -/
structure MchashTable (ν : Type*) where
  buckets : Nat
  maxNodes : Nat
  activeNodes : Nat
  magicNo : Nat
  dll : DllMem (DllLoc ν)
  indirectionArray : Nat → ArrayIndirectEntry ν
  bucketList : Nat → MchashBucket ν
  tableLink : ν → MchashTableLink

def mchashMaxHashbucketCacheNodes : Nat := 10

/-- The magic number after `magic`: the increment, with zero skipped. -/
def nextMagicNo (magic : Nat) : Nat :=
  if uint32Succ magic = 0 then 1 else uint32Succ magic

section Create

variable {ν : Type*}

/-- The list pointers `mchash_table_create` writes: the entries chained into the
free queue in index order, and empty buckets.  The application nodes still hold
whatever they held. -/
def createDll (maxNodes : Nat) (nodeLinks : ν → DllNode (DllLoc ν)) : DllMem (DllLoc ν)
  | .freeQ => { prev := some (.slot (maxNodes - 1)), next := some (.slot 0) }
  | .slot index =>
    { prev := if index ≠ 0 then some (.slot (index - 1)) else none
      next := if index ≠ maxNodes - 1 then some (.slot (index + 1)) else none }
  | .head _ => { prev := none, next := none }
  | .link node => nodeLinks node

/-- `mchash_table_create` when both allocations succeed.  The two functions are
the link structures of the application nodes as they are at that time. -/
def mchashTableCreate (buckets maxNodes : Nat)
    (nodeLinks : ν → DllNode (DllLoc ν)) (tableLink : ν → MchashTableLink) :
    MchashTable ν where
  buckets := buckets
  maxNodes := maxNodes
  activeNodes := 0
  magicNo := 1
  dll := createDll maxNodes nodeLinks
  indirectionArray := fun _ => { magic := 0, nodeP := none }
  bucketList := fun _ =>
    { count := 0
      prefetchNodes := List.replicate mchashMaxHashbucketCacheNodes none }
  tableLink := tableLink

end Create

variable {ν : Type*}

/-- The walk of `mchash_update_prefetch_nodes`: the first nodes of the bucket,
and zeros when the list is shorter than the cache. -/
def prefetchFrom (dll : DllMem (DllLoc ν)) : Nat → Option (DllLoc ν) → List (Option (DllLoc ν))
  | 0, _ => []
  | room + 1, some node => some node :: prefetchFrom dll room (dll.nextOf node)
  | room + 1, none => none :: prefetchFrom dll room none

def mchashUpdatePrefetchNodes (table : MchashTable ν) (key : Nat) : MchashTable ν :=
  { table with
    bucketList := Function.update table.bucketList key
      { table.bucketList key with
        prefetchNodes :=
          prefetchFrom table.dll mchashMaxHashbucketCacheNodes (table.dll.nextOf (.head key)) } }

/-- The counter of a bucket rewritten by `change`. -/
def updateBucketCount (table : MchashTable ν) (key : Nat) (change : Nat → Nat) :
    MchashTable ν :=
  { table with
    bucketList := Function.update table.bucketList key
      { table.bucketList key with count := change (table.bucketList key).count } }

variable [DecidableEq ν]

/-- `mchash_insert_node_in_middle`: a null neighbour stands for the bucket's
head. -/
def mchashInsertNodeInMiddle (table : MchashTable ν) (key : Nat)
    (prevP : Option (DllLoc ν)) (node : ν) (nextP : Option (DllLoc ν)) :
    MchashTable ν :=
  let linked :=
    { table with
      dll := table.dll.linkIn (.link node) (prevP.getD (.head key))
        (nextP.getD (.head key)) nextP prevP }
  updateBucketCount (mchashUpdatePrefetchNodes linked key) key uint32Succ

/-- The list pointers after the first entry left the free queue: an emptied
queue loses its tail pointer, otherwise the new first entry loses its
predecessor. -/
def detachFreeEntry (dll : DllMem (DllLoc ν)) (index : Nat) : DllMem (DllLoc ν) :=
  let nextP := dll.nextOf (.slot index)
  dll.linkOut .freeQ (nextP.getD .freeQ) nextP none

/-- The part of the insertion macros before the bucket is touched: the first free
entry leaves the free queue, gets the next magic number and points at the node,
whose link structure gets the index of the entry and the bucket. -/
def takeFreeEntry (table : MchashTable ν) (index keys : Nat) (nodeobj : ν) :
    MchashTable ν :=
  { table with
    dll := detachFreeEntry table.dll index
    indirectionArray := Function.update table.indirectionArray index
      { magic := table.magicNo, nodeP := some nodeobj }
    magicNo := nextMagicNo table.magicNo
    activeNodes := uint32Succ table.activeNodes
    tableLink := Function.update table.tableLink nodeobj { index := index, key := keys } }

/-- The body the three insertion macros share; `place` gives the neighbours they
hand to `mchash_insert_node_in_middle`, read after the entry was taken. -/
def insertAt (table : MchashTable ν) (keys : Nat) (nodeobj : ν)
    (place : DllMem (DllLoc ν) → Option (DllLoc ν) × Option (DllLoc ν)) :
    MchashTable ν × Option MchashNoderef :=
  match table.dll.nextOf .freeQ with
  | some (.slot index) =>
    let taken := takeFreeEntry table index keys nodeobj
    (mchashInsertNodeInMiddle taken keys (place taken.dll).1 nodeobj (place taken.dll).2,
      some { index := index, magic := table.magicNo })
  | _ => (table, none)

/-- `MCHASH_APPEND_NODE`.  `mchash_insert_node_in_middle` has already counted
the node when the macro counts it. -/
def mchashAppendNode (table : MchashTable ν) (keys : Nat) (nodeobj : ν) :
    MchashTable ν × Option MchashNoderef :=
  match insertAt table keys nodeobj (fun dll => (dll.prevOf (.head keys), none)) with
  | (after, none) => (after, none)
  | (after, some noderef) => (updateBucketCount after keys uint32Succ, some noderef)

/-- `MCHASH_INSERT_NODE_AFTER`; the macro's `node` is the link structure of a
node of the bucket. -/
def mchashInsertNodeAfter (table : MchashTable ν) (node : ν) (keys : Nat)
    (nodeobj : ν) : MchashTable ν × Option MchashNoderef :=
  insertAt table keys nodeobj (fun dll => (some (.link node), dll.nextOf (.link node)))

def mchashInsertNodeBefore (table : MchashTable ν) (node : ν) (keys : Nat)
    (nodeobj : ν) : MchashTable ν × Option MchashNoderef :=
  insertAt table keys nodeobj (fun dll => (dll.prevOf (.link node), some (.link node)))

/-- What `MCHASH_ACCESS_NODE` reports. -/
inductive AccessResult (ν : Type*) where
  /-- the macro reads beyond the indirection array -/
  | fault
  /-- status `FALSE` -/
  | invalid
  /-- status `TRUE`, with the node pointer of the entry -/
  | valid (nodeobjP : Option ν)
deriving DecidableEq

/-- What is looked at of the node that is found. -/
def AccessResult.map {ν μ : Type*} (look : ν → μ) : AccessResult ν → AccessResult μ
  | .fault => .fault
  | .invalid => .invalid
  | .valid nodeobjP => .valid (nodeobjP.map look)

/-- `MCHASH_ACCESS_NODE`: the magic numbers are compared and nothing else. -/
def mchashAccessNode (table : MchashTable ν) (noderef : MchashNoderef) :
    AccessResult ν :=
  if noderef.index < table.maxNodes then
    if noderef.magic = (table.indirectionArray noderef.index).magic then
      .valid (table.indirectionArray noderef.index).nodeP
    else
      .invalid
  else
    .fault

/-- What a deletion macro reports. -/
inductive DeleteResult (ν : Type*) where
  /-- an access through a null pointer or beyond one of the table's arrays -/
  | fault
  /-- status `FALSE` -/
  | notDeleted
  /-- status `TRUE`; the node was handed to the table's free function -/
  | deleted (node : ν)
deriving DecidableEq

/-- The list pointers after the entry went to the tail of the free queue. -/
def appendFreeEntry (dll : DllMem (DllLoc ν)) (index : Nat) : DllMem (DllLoc ν) :=
  match dll.prevOf .freeQ with
  | some last => dll.linkIn (.slot index) last .freeQ none (some last)
  | none => dll.linkIn (.slot index) .freeQ .freeQ none none

/-- The list pointers after `node` left its bucket. -/
def unlinkNode (dll : DllMem (DllLoc ν)) (key : Nat) (node : ν) : DllMem (DllLoc ν) :=
  let nextP := dll.nextOf (.link node)
  let prevP := (dll.prevOf (.link node)).getD (.head key)
  dll.linkOut prevP (nextP.getD (.head key)) nextP (some prevP)

/-- The body the two deletion macros share once their check has passed. -/
def removeNode (table : MchashTable ν) (index key : Nat) (node : ν) :
    MchashTable ν :=
  let unlinked :=
    { table with
      indirectionArray := Function.update table.indirectionArray index
        { magic := 0, nodeP := none }
      dll := unlinkNode table.dll key node }
  let counted :=
    mchashUpdatePrefetchNodes (updateBucketCount unlinked key uint32Pred) key
  { counted with
    dll := appendFreeEntry counted.dll index
    activeNodes := uint32Pred counted.activeNodes }

def mchashDeleteNodeByRef (table : MchashTable ν) (noderef : MchashNoderef) :
    MchashTable ν × DeleteResult ν :=
  if noderef.index < table.maxNodes then
    let entry := table.indirectionArray noderef.index
    if noderef.magic = entry.magic then
      match entry.nodeP with
      -- `table_link->key` is read before the magic number is compared with 0
      | none => (table, .fault)
      | some node =>
        if entry.magic ≠ 0 then
          (removeNode table noderef.index (table.tableLink node).key node, .deleted node)
        else
          (table, .notDeleted)
    else
      (table, .notDeleted)
  else
    (table, .fault)

def mchashDeleteNode (table : MchashTable ν) (nodeobj : ν) : MchashTable ν × DeleteResult ν :=
  let link := table.tableLink nodeobj
  if link.index < table.maxNodes ∧ link.key < table.buckets then
    if (table.indirectionArray link.index).nodeP = some nodeobj then
      (removeNode table link.index link.key nodeobj, .deleted nodeobj)
    else
      (table, .notDeleted)
  else
    (table, .fault)

end OpenFlowController.Utils
