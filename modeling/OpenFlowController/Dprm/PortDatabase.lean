/-
Module: Dprm.PortDatabase
Purpose: The ports of a registered datapath: the table keyed by port name that reports of the switch
  update in place or extend, the deletion of a port, the clean-up when the datapath detaches, and
  when the table follows what the switch reports.
Source: ofproto/src/dprm/dprm.c, ofproto/src/dprm/dprmapi.c,
  ofproto/src/coreapp/cntlr_app.c, ofproto/src/include/dprmldef.h, utils/memory/mheap/mheapapi.c
Trusted boundary: the handle of the datapath resolves, a pool hands out zeroed blocks that
  are not in use, and the notifications to applications do not call back into the table
-/
import OpenFlowController.Library.Run
import OpenFlowController.Utils.RefTable

namespace OpenFlowController.Dprm

open Library Utils

/-! ## The entries -/

/-- The string that C finds in a buffer. -/
def cString (bytes : List UInt8) : List UInt8 :=
  bytes.takeWhile (· ≠ 0)

/-- `struct ofl_port_desc_info`; the name is a buffer of `OFP_MAX_PORT_NAME_LEN` bytes. -/
structure OflPortDescInfo where
  portNo : UInt32
  hwAddr : List UInt8
  name : List UInt8
  config : UInt32
  state : UInt32
  curr : UInt32
  advertised : UInt32
  supported : UInt32
  peer : UInt32
  currSpeed : UInt32
  maxSpeed : UInt32

/-- `struct dprm_port_entry`.  The bucket key is the one in its `port_tbl_link`, and the
handle is `port_handle`, which `magic` and `index` repeat. -/
structure PortEntry where
  key : Nat
  portName : List UInt8
  portId : UInt32
  portInfo : OflPortDescInfo
  numberOfAttributes : Nat
  handle : MchashNoderef

/-- `dprm_get_hashval_byname` for the buckets of a port table, whose number its mask
stays below. -/
structure PortHash where
  buckets : Nat
  ofName : List UInt8 → Nat
  inside : ∀ name, ofName name < buckets

/-- What a call for a new port meets in the port pool of its datapath. -/
structure PortMemory where
  /-- what the uninitialised `heap_b` of the call holds -/
  heapB : Bool
  /-- a static block is free, or the refill gets one -/
  staticLeft : Bool
  /-- the pool has heap blocks left -/
  heapLeft : Bool
  /-- `calloc` has memory for a heap block -/
  calloced : Bool

/-- `mempool_get_mem_block` hands out a block: it reads `heap_b` before it turns to the heap. -/
def PortMemory.gives (memory : PortMemory) : Bool :=
  memory.staticLeft || (memory.heapB && memory.heapLeft && memory.calloced)

def dprmMaxPortNameLen : Nat := 16

/-- What a `dprm_datapath_entry` has of its ports, with the entries behind the blocks that
the table links, and the bytes of the pointer to the datapath entry, which stands before
the name in every port entry. -/
structure DatapathPorts where
  datapathEntryP : List UInt8
  table : RefTable Nat
  entries : Nat → PortEntry
  nextBlock : Nat
  numberOfPorts : Nat
  /-- memory was used that the code does not own -/
  undefined : Bool

namespace DatapathPorts

/-- A zeroed description. -/
def zeroedInfo : OflPortDescInfo where
  portNo := 0
  hwAddr := List.replicate 6 0
  name := List.replicate 16 0
  config := 0
  state := 0
  curr := 0
  advertised := 0
  supported := 0
  peer := 0
  currSpeed := 0
  maxSpeed := 0

/-- The entry of a zeroed block. -/
def zeroedEntry : PortEntry where
  key := 0
  portName := []
  portId := 0
  portInfo := zeroedInfo
  numberOfAttributes := 0
  handle := { index := 0, magic := 0 }

/-- The ports of a datapath that was just registered. -/
def create (datapathEntryP : List UInt8) (portEntriesMax : TableSize) : DatapathPorts where
  datapathEntryP := datapathEntryP
  table := RefTable.create portEntriesMax
  entries := fun _ => zeroedEntry
  nextBlock := 0
  numberOfPorts := 0
  undefined := false

/-- `MCHASH_BUCKET_SCAN` over the port table, in the order of the bucket. -/
def bucket (ports : DatapathPorts) (key : Nat) : List Nat :=
  ports.table.nodes.filter fun block => (ports.entries block).key = key

def dprmGetPortHandle (hash : PortHash) (ports : DatapathPorts) (name : List UInt8) :
    Option MchashNoderef :=
  ((ports.bucket (hash.ofName name)).find? fun block =>
    (ports.entries block).portName = name).map fun block => (ports.entries block).handle

/-- What `port_entry_p->port_name` shows in a scan with the offset of `dp_tbl_link`, which
is eight bytes: the entry is taken to begin eight bytes before it does. -/
def misreadName (ports : DatapathPorts) (block : Nat) : List UInt8 :=
  cString (ports.datapathEntryP ++ (ports.entries block).portName)

/-- `dprm_add_port_to_datapath`; the answer is the handle of the new port.  On the exit path
after the scan `port_entry_p` is what the scan left in it, which no pool handed out; a pool
that gives no block sets it to null.  The name is copied without a bound. -/
def dprmAddPortToDatapath (hash : PortHash) (ports : DatapathPorts) (portName : List UInt8)
    (portId : UInt32) (memory : PortMemory) : DatapathPorts × Option MchashNoderef :=
  let hashkey := hash.ofName portName
  let scanned := ports.bucket hashkey
  if scanned.any fun block => portName = ports.misreadName block then
    ({ ports with undefined := true }, none)
  else if memory.gives = false then
    (ports, none)
  else if dprmMaxPortNameLen ≤ portName.length then
    ({ ports with undefined := true }, none)
  else
    let block := ports.nextBlock
    match ports.table.append block with
    | (_, none) => ({ ports with nextBlock := block + 1 }, none)
    | (table, some noderef) =>
      ({ ports with
          table := table
          nextBlock := block + 1
          entries := Function.update ports.entries block
            { zeroedEntry with
              key := hashkey
              portName := portName
              portId := portId
              handle := noderef }
          numberOfPorts := uint32Succ ports.numberOfPorts },
        some noderef)

/-- `get_datapath_port_byhandle`, and a write through the pointer it returns. -/
def changePort (ports : DatapathPorts) (handle : MchashNoderef)
    (change : PortEntry → PortEntry) : DatapathPorts × Bool :=
  match ports.table.access handle with
  | .valid (some block) =>
    ({ ports with
        entries := Function.update ports.entries block (change (ports.entries block)) },
      true)
  | _ => (ports, false)

/-- `of_add_port_to_dp`; the answer tells whether it returned `OF_SUCCESS`.  A name that
fills its buffer is read and copied on without an end. -/
def ofAddPortToDp (hash : PortHash) (ports : DatapathPorts) (portDesc : OflPortDescInfo)
    (memory : PortMemory) : DatapathPorts × Bool :=
  match ports.dprmGetPortHandle hash (cString portDesc.name) with
  | some portHandle =>
    ports.changePort portHandle fun entry =>
      { entry with portId := portDesc.portNo, portInfo := portDesc }
  | none =>
    if dprmMaxPortNameLen ≤ (cString portDesc.name).length then
      ({ ports with undefined := true }, false)
    else
      match ports.dprmAddPortToDatapath hash (cString portDesc.name) portDesc.portNo memory with
      | (ports, some portHandle) =>
        ports.changePort portHandle fun entry => { entry with portInfo := portDesc }
      | (ports, none) => (ports, false)

/-- `dprm_delete_port_from_datapath`; the answer tells whether it returned
`DPRM_SUCCESS`. -/
def dprmDeletePortFromDatapath (ports : DatapathPorts) (portHandle : MchashNoderef) :
    DatapathPorts × Bool :=
  match ports.table.access portHandle with
  | .valid (some block) =>
    if (ports.entries block).numberOfAttributes ≠ 0 then (ports, false)
    else
      match ports.table.deleteByRef portHandle with
      | (table, .deleted _) =>
        ({ ports with
            table := table
            numberOfPorts := uint32Pred ports.numberOfPorts },
          true)
      | (_, .notDeleted) => (ports, false)
      | (_, .fault) => ({ ports with undefined := true }, false)
  | .valid none => ({ ports with undefined := true }, false)
  | .invalid => (ports, false)
  | .fault => ({ ports with undefined := true }, false)

/-- `OFPPR_*`. -/
def ofpprAdd : UInt8 := 0

def ofpprDelete : UInt8 := 1

def ofpprModify : UInt8 := 2

def dpPortStatusChangeEvent (hash : PortHash) (ports : DatapathPorts) (reason : UInt8)
    (portInfo : OflPortDescInfo) (memory : PortMemory) : DatapathPorts × Bool :=
  if reason = ofpprAdd ∨ reason = ofpprModify then ports.ofAddPortToDp hash portInfo memory
  else if reason = ofpprDelete then
    match ports.dprmGetPortHandle hash (cString portInfo.name) with
    | some portHandle => ports.dprmDeletePortFromDatapath portHandle
    | none => (ports, false)
  else (ports, true)

/-- `dprm_get_first_datapath_port`: the first node of the first bucket that has one. -/
def dprmGetFirstDatapathPort (hash : PortHash) (ports : DatapathPorts) :
    Option MchashNoderef :=
  ((List.range hash.buckets).findSome? fun key => (ports.bucket key).head?).map
    fun block => (ports.entries block).handle

/-- The loop of `dprm_clean_ports_from_datapath`, for at most `fuel` ports. -/
def cleanLoop (hash : PortHash) : Nat → DatapathPorts → DatapathPorts × Bool
  | 0, ports => (ports, false)
  | fuel + 1, ports =>
    match ports.dprmGetFirstDatapathPort hash with
    | none => (ports, true)
    | some portHandle =>
      match ports.dprmDeletePortFromDatapath portHandle with
      | (ports, true) => cleanLoop hash fuel ports
      | (ports, false) => (ports, false)

/-- `dprm_clean_ports_from_datapath`; the answer tells whether it returned `OF_SUCCESS`. -/
def dprmCleanPortsFromDatapath (hash : PortHash) (ports : DatapathPorts) : DatapathPorts × Bool :=
  cleanLoop hash (ports.table.linked.length + 1) ports

end DatapathPorts

/-! ## What the switch reports -/

/-- A record of a port-description reply and a port-status message, with what they meet in the
pool, and the detach clean-up. -/
inductive PortEvent where
  | portDesc (portDesc : OflPortDescInfo) (memory : PortMemory)
  | portStatus (reason : UInt8) (portInfo : OflPortDescInfo) (memory : PortMemory)
  | detach

/-- The ports, and the latest report of every name that was not deleted since. -/
structure PortDatabase where
  ports : DatapathPorts
  reported : List UInt8 → Option OflPortDescInfo

namespace PortDatabase

def create (datapathEntryP : List UInt8) (portEntriesMax : TableSize) : PortDatabase where
  ports := DatapathPorts.create datapathEntryP portEntriesMax
  reported := fun _ => none

/-- What an event says about the ports. -/
def report (reported : List UInt8 → Option OflPortDescInfo) :
    PortEvent → List UInt8 → Option OflPortDescInfo
  | .portDesc portDesc _ => Function.update reported (cString portDesc.name) (some portDesc)
  | .portStatus reason portInfo _ =>
    if reason = DatapathPorts.ofpprAdd ∨ reason = DatapathPorts.ofpprModify then
      Function.update reported (cString portInfo.name) (some portInfo)
    else if reason = DatapathPorts.ofpprDelete then
      Function.update reported (cString portInfo.name) none
    else reported
  | .detach => reported

/-- One event.  After a detach clean-up that reports success no port is left. -/
def step (hash : PortHash) (db : PortDatabase) : PortEvent → PortDatabase
  | .portDesc portDesc memory =>
    { ports := (db.ports.ofAddPortToDp hash portDesc memory).1
      reported := report db.reported (.portDesc portDesc memory) }
  | .portStatus reason portInfo memory =>
    { ports := (db.ports.dpPortStatusChangeEvent hash reason portInfo memory).1
      reported := report db.reported (.portStatus reason portInfo memory) }
  | .detach =>
    { ports := (db.ports.dprmCleanPortsFromDatapath hash).1
      reported :=
        if (db.ports.dprmCleanPortsFromDatapath hash).2 then fun _ => none
        else db.reported }

end PortDatabase

open List Function

/-! ## What the table promises -/

/-- The table has one entry for each name that was reported and not deleted since, with
the number and the description of the latest report, and the counter is its size. -/
structure PortsTracked (db : PortDatabase) : Prop where
  defined : db.ports.undefined = false
  once : (db.ports.table.nodes.map fun block => (db.ports.entries block).portName).Nodup
  listed : ∀ name, (∃ block ∈ db.ports.table.nodes, (db.ports.entries block).portName = name) ↔
    db.reported name ≠ none
  latest : ∀ block ∈ db.ports.table.nodes, ∀ portDesc,
    db.reported (db.ports.entries block).portName = some portDesc →
      (db.ports.entries block).portId = portDesc.portNo ∧
        (db.ports.entries block).portInfo = portDesc
  counted : db.ports.numberOfPorts = db.ports.table.nodes.length

/-- The table follows the reports over one event. -/
structure Follows (hash : PortHash) (db : PortDatabase) (event : PortEvent) : Prop where
  tracked : PortsTracked (db.step hash event)
  emptied : event = .detach → (db.ports.dprmCleanPortsFromDatapath hash).2 = true →
    (db.step hash event).ports.table.nodes = []

/-- The description in an event that adds or changes a port, and what it meets in the pool. -/
def PortEvent.description : PortEvent → Option (OflPortDescInfo × PortMemory)
  | .portDesc info memory => some (info, memory)
  | .portStatus reason info memory =>
    if reason = DatapathPorts.ofpprAdd ∨ reason = DatapathPorts.ofpprModify then
      some (info, memory)
    else none
  | .detach => none

/-- The port pool is not exhausted when a new port comes: it has a static block or a heap block
left, and fewer ports than its `max_blocks`. -/
def PoolLeft (hash : PortHash) (db : PortDatabase) (event : PortEvent) : Prop :=
  ∀ report ∈ event.description,
    db.ports.dprmGetPortHandle hash (cString report.1.name) = none →
      (report.2.staticLeft = true ∨ report.2.heapLeft = true) ∧
        db.ports.table.linked.length < db.ports.table.maxNodes.1

/-- What the report of a new port needs: its name ends in its buffer, and is not the string that
the bytes of the datapath pointer make, when its bucket has a port; and the pool gives a block,
which without a static one depends on what `heap_b` holds. -/
structure Enterable (hash : PortHash) (ports : DatapathPorts) (info : OflPortDescInfo)
    (memory : PortMemory) : Prop where
  ends : (cString info.name).length < dprmMaxPortNameLen
  apart : ∀ block ∈ ports.bucket (hash.ofName (cString info.name)),
    cString info.name ≠ ports.misreadName block
  given : memory.gives = true

/-- A new port that is reported can be entered. -/
def Enters (hash : PortHash) (db : PortDatabase) (event : PortEvent) : Prop :=
  ∀ report ∈ event.description,
    db.ports.dprmGetPortHandle hash (cString report.1.name) = none →
      Enterable hash db.ports report.1 report.2

instance (hash : PortHash) (db : PortDatabase) (event : PortEvent) :
    Decidable (PoolLeft hash db event) :=
  decidable_of_iff (∀ report ∈ event.description.toList,
    db.ports.dprmGetPortHandle hash (cString report.1.name) = none →
      (report.2.staticLeft = true ∨ report.2.heapLeft = true) ∧
        db.ports.table.linked.length < db.ports.table.maxNodes.1) (by simp [PoolLeft])

instance (hash : PortHash) (db : PortDatabase) (event : PortEvent) :
    Decidable (Enters hash db event) :=
  decidable_of_iff (∀ report ∈ event.description.toList,
    db.ports.dprmGetPortHandle hash (cString report.1.name) = none →
      (cString report.1.name).length < dprmMaxPortNameLen ∧
        (∀ block ∈ db.ports.bucket (hash.ofName (cString report.1.name)),
          cString report.1.name ≠ db.ports.misreadName block) ∧
        report.2.gives = true) (by
      simp only [Option.mem_toList, Enters]
      exact forall₃_congr fun _ _ _ =>
        ⟨fun fits => ⟨fits.1, fits.2.1, fits.2.2⟩, fun fits => ⟨fits.1, fits.2, fits.3⟩⟩)

/-! ## The invariant -/

/-- What the events that the table can follow keep. -/
structure PortsInv (hash : PortHash) (db : PortDatabase) : Prop where
  defined : db.ports.undefined = false
  fresh : ∀ entry ∈ db.ports.table.linked, entry.node < db.ports.nextBlock
  keyed : ∀ block ∈ db.ports.table.nodes,
    (db.ports.entries block).key = hash.ofName (db.ports.entries block).portName
  handles : ∀ entry ∈ db.ports.table.linked, (db.ports.entries entry.node).handle = entry.noderef
  once : (db.ports.table.nodes.map fun block => (db.ports.entries block).portName).Nodup
  bare : ∀ block ∈ db.ports.table.nodes, (db.ports.entries block).numberOfAttributes = 0
  counted : db.ports.numberOfPorts = db.ports.table.nodes.length
  sizes : db.ports.table.free.length + db.ports.table.linked.length =
    db.ports.table.maxNodes.1
  listed : ∀ name, (∃ block ∈ db.ports.table.nodes, (db.ports.entries block).portName = name) ↔
    db.reported name ≠ none
  latest : ∀ block ∈ db.ports.table.nodes, ∀ portDesc,
    db.reported (db.ports.entries block).portName = some portDesc →
      (db.ports.entries block).portId = portDesc.portNo ∧
        (db.ports.entries block).portInfo = portDesc

namespace PortsInv

variable {hash : PortHash} {db : PortDatabase} {name : List UInt8}

theorem tracked (inv : PortsInv hash db) : PortsTracked db where
  defined := inv.defined
  once := inv.once
  listed := inv.listed
  latest := inv.latest
  counted := inv.counted

theorem create (hash : PortHash) (datapathEntryP : List UInt8) (size : TableSize) :
    PortsInv hash (PortDatabase.create datapathEntryP size) := by
  constructor <;> simp [PortDatabase.create, DatapathPorts.create, RefTable.create, RefTable.nodes]

/-! ### Look-ups -/

section

variable (inv : PortsInv hash db)

include inv

theorem block_unique {one other : Nat} (oneMem : one ∈ db.ports.table.nodes)
    (otherMem : other ∈ db.ports.table.nodes)
    (same : (db.ports.entries one).portName = (db.ports.entries other).portName) : one = other :=
  inj_on_of_nodup_map inv.once oneMem otherMem same

theorem nodes_nodup : db.ports.table.nodes.Nodup :=
  List.Nodup.of_map _ inv.once

theorem mem_bucket {block : Nat} (member : block ∈ db.ports.table.nodes) :
    block ∈ db.ports.bucket (hash.ofName (db.ports.entries block).portName) := by
  unfold DatapathPorts.bucket
  rw [mem_filter, decide_eq_true_eq]
  exact ⟨member, inv.keyed block member⟩

theorem getPortHandle_none (none : db.ports.dprmGetPortHandle hash name = none) :
    ∀ block ∈ db.ports.table.nodes, (db.ports.entries block).portName ≠ name := by
  rintro block member rfl
  unfold DatapathPorts.dprmGetPortHandle at none
  rw [Option.map_eq_none_iff] at none
  have missed := find?_eq_none.mp none block (inv.mem_bucket member)
  simp at missed

theorem getPortHandle_some {handle : MchashNoderef}
    (found : db.ports.dprmGetPortHandle hash name = some handle) :
    ∃ block, { noderef := handle, node := block } ∈ db.ports.table.linked ∧
      (db.ports.entries block).portName = name := by
  rcases Option.map_eq_some_iff.mp found with ⟨block, first, rfl⟩
  have member : block ∈ db.ports.table.nodes :=
    mem_of_mem_filter (mem_of_find?_eq_some first)
  rcases RefTable.mem_nodes.mp member with ⟨noderef, linked⟩
  have same := inv.handles _ linked
  have named := find?_some first
  rw [decide_eq_true_eq] at named
  refine ⟨block, ?_, named⟩
  rw [same]
  exact linked

end

/-! ### Reports of known ports -/

theorem changePort_linked {ports : DatapathPorts} {handle : MchashNoderef} {block : Nat}
    (linked : { noderef := handle, node := block } ∈ ports.table.linked)
    (change : PortEntry → PortEntry) :
    ports.changePort handle change =
      ({ ports with
          entries := Function.update ports.entries block (change (ports.entries block)) },
        true) := by
  unfold DatapathPorts.changePort
  rw [RefTable.access_linked linked]

/-- A port rewritten in place keeps the invariant. -/
theorem update (inv : PortsInv hash db) {handle : MchashNoderef} {block : Nat}
    (linked : { noderef := handle, node := block } ∈ db.ports.table.linked)
    (info : OflPortDescInfo) :
    PortsInv hash
      { ports := (db.ports.changePort handle fun entry =>
          { entry with portId := info.portNo, portInfo := info }).1
        reported := Function.update db.reported (db.ports.entries block).portName
          (some info) } := by
  have member : block ∈ db.ports.table.nodes := RefTable.mem_nodes.mpr ⟨handle, linked⟩
  rw [changePort_linked linked]
  have names : ∀ other, (Function.update db.ports.entries block
      { db.ports.entries block with portId := info.portNo, portInfo := info }
        other).portName = (db.ports.entries other).portName := by
    intro other
    by_cases same : other = block
    · rw [same, update_self]
    · rw [update_of_ne same]
  constructor
  case defined => exact inv.defined
  case fresh => exact inv.fresh
  case keyed =>
    intro other otherMem
    dsimp only
    by_cases same : other = block
    · rw [same, update_self]
      exact inv.keyed block member
    · rw [update_of_ne same]
      exact inv.keyed other otherMem
  case handles =>
    intro entry entryMem
    dsimp only
    by_cases same : entry.node = block
    · rw [same, update_self, ← same]
      exact inv.handles entry entryMem
    · rw [update_of_ne same]
      exact inv.handles entry entryMem
  case once =>
    rw [funext names]
    exact inv.once
  case bare =>
    intro other otherMem
    dsimp only
    by_cases same : other = block
    · rw [same, update_self]
      exact inv.bare block member
    · rw [update_of_ne same]
      exact inv.bare other otherMem
  case counted => exact inv.counted
  case sizes => exact inv.sizes
  case listed =>
    intro name
    simp only [names]
    by_cases same : name = (db.ports.entries block).portName
    · rw [same, update_self]
      exact ⟨fun _ => Option.some_ne_none _, fun _ => ⟨block, member, rfl⟩⟩
    · rw [update_of_ne same]
      exact inv.listed name
  case latest =>
    intro other otherMem later
    dsimp only
    rw [names]
    intro reported
    by_cases same : other = block
    · subst same
      rw [update_self] at reported ⊢
      cases reported
      exact ⟨rfl, rfl⟩
    have apart : (db.ports.entries other).portName ≠ (db.ports.entries block).portName :=
      fun sameName => same (inv.block_unique otherMem member sameName)
    rw [update_of_ne apart] at reported
    rw [update_of_ne same]
    exact inv.latest other otherMem later reported

/-! ### Reports of new ports -/

theorem free_of_left (inv : PortsInv hash db)
    (left : db.ports.table.linked.length < db.ports.table.maxNodes.1) :
    db.ports.table.free ≠ [] := by
  intro empty
  have sizes := inv.sizes
  rw [empty, length_nil, Nat.zero_add] at sizes
  exact absurd sizes (Nat.ne_of_lt left)

/-- The entry of a new port. -/
def newEntry (hash : PortHash) (info : OflPortDescInfo) (noderef : MchashNoderef) : PortEntry where
  key := hash.ofName (cString info.name)
  portName := cString info.name
  portId := info.portNo
  portInfo := info
  numberOfAttributes := 0
  handle := noderef

section

variable (inv : PortsInv hash db)

include inv

variable {info : OflPortDescInfo} {memory : PortMemory}

/-- A port with an unknown name gets an entry at the tail. -/
theorem ofAddPortToDp_new (unknown : db.ports.dprmGetPortHandle hash (cString info.name) = none)
    (fits : Enterable hash db.ports info memory)
    (left : db.ports.table.linked.length < db.ports.table.maxNodes.1) :
    ∃ table noderef,
      table.linked = db.ports.table.linked ++ [{ noderef := noderef, node := db.ports.nextBlock }] ∧
      table.free.length + table.linked.length = table.maxNodes.1 ∧
      db.ports.ofAddPortToDp hash info memory =
        ({ db.ports with
            table := table
            nextBlock := db.ports.nextBlock + 1
            entries := Function.update db.ports.entries db.ports.nextBlock
              (newEntry hash info noderef)
            numberOfPorts := uint32Succ db.ports.numberOfPorts },
          true) := by
  rcases RefTable.append_free (inv.free_of_left left) db.ports.nextBlock with
    ⟨table, noderef, appended, linked, maxNodes⟩
  have sizes := RefTable.append_sizes db.ports.table db.ports.nextBlock
  rw [appended, inv.sizes] at sizes
  refine ⟨table, noderef, linked, by rw [maxNodes]; exact sizes, ?_⟩
  have notMisread : ¬ (db.ports.bucket (hash.ofName (cString info.name))).any
      (fun block => cString info.name = db.ports.misreadName block) = true := by
    rw [any_eq_true]
    rintro ⟨block, member, same⟩
    exact fits.apart block member (of_decide_eq_true same)
  unfold DatapathPorts.ofAddPortToDp
  rw [unknown]
  rw [if_neg (Nat.not_le.mpr fits.ends)]
  unfold DatapathPorts.dprmAddPortToDatapath
  dsimp only
  rw [if_neg notMisread, if_neg (by rw [fits.given]; exact Bool.noConfusion),
    if_neg (Nat.not_le.mpr fits.ends), appended]
  dsimp only
  rw [changePort_linked (by rw [linked]; exact mem_append_right _ mem_cons_self)]
  dsimp only
  rw [update_idem, update_self]
  rfl

variable {table : RefTable Nat}

/-- A port under a new name keeps the invariant. -/
theorem insert {noderef : MchashNoderef}
    (unknown : db.ports.dprmGetPortHandle hash (cString info.name) = none)
    (linked : table.linked = db.ports.table.linked ++
      [{ noderef := noderef, node := db.ports.nextBlock }])
    (sizes : table.free.length + table.linked.length = table.maxNodes.1) :
    PortsInv hash
      { ports :=
          { db.ports with
            table := table
            nextBlock := db.ports.nextBlock + 1
            entries := Function.update db.ports.entries db.ports.nextBlock
              (newEntry hash info noderef)
            numberOfPorts := uint32Succ db.ports.numberOfPorts }
        reported := Function.update db.reported (cString info.name) (some info) } := by
  have nodes : table.nodes = db.ports.table.nodes ++ [db.ports.nextBlock] := by
    unfold RefTable.nodes
    rw [linked, map_append]
    rfl
  have old : ∀ block ∈ db.ports.table.nodes, block ≠ db.ports.nextBlock := by
    intro block member
    rcases RefTable.mem_nodes.mp member with ⟨ref, entryMem⟩
    exact Nat.ne_of_lt (inv.fresh _ entryMem)
  have kept : ∀ block ∈ db.ports.table.nodes,
      Function.update db.ports.entries db.ports.nextBlock (newEntry hash info noderef) block =
        db.ports.entries block :=
    fun block member => update_of_ne (old block member) _ _
  have otherName := inv.getPortHandle_none unknown
  constructor
  case defined => exact inv.defined
  case fresh =>
    intro entry member
    rw [linked] at member
    rcases List.mem_append.mp member with known | new
    · exact Nat.lt_succ_of_lt (inv.fresh entry known)
    · rw [List.mem_singleton.mp new]
      exact Nat.lt_succ_self _
  case keyed =>
    intro block member
    dsimp only at member ⊢
    rw [nodes] at member
    rcases List.mem_append.mp member with known | new
    · rw [kept block known]
      exact inv.keyed block known
    · rw [List.mem_singleton.mp new, update_self]
      rfl
  case handles =>
    intro entry member
    dsimp only at member ⊢
    rw [linked] at member
    rcases List.mem_append.mp member with known | new
    · rw [kept entry.node (RefTable.mem_nodes.mpr ⟨entry.noderef, known⟩)]
      exact inv.handles entry known
    · rw [List.mem_singleton.mp new, update_self]
      rfl
  case once =>
    dsimp only
    rw [nodes, map_append, map_congr_left fun block member =>
      congrArg PortEntry.portName (kept block member)]
    rw [map_singleton, update_self]
    refine List.nodup_append.mpr ⟨inv.once, nodup_singleton _, ?_⟩
    rintro one oneMem other otherMem rfl
    rcases List.mem_map.mp oneMem with ⟨block, member, same⟩
    rw [mem_singleton] at otherMem
    exact otherName block member (same.trans otherMem)
  case bare =>
    intro block member
    dsimp only at member ⊢
    rw [nodes] at member
    rcases List.mem_append.mp member with known | new
    · rw [kept block known]
      exact inv.bare block known
    · rw [List.mem_singleton.mp new, update_self]
      rfl
  case counted =>
    have below : db.ports.table.nodes.length < table.maxNodes.1 := by
      rw [linked, length_append, length_singleton] at sizes
      unfold RefTable.nodes
      rw [length_map]
      omega
    have small := table.maxNodes.2.2
    rw [nodes, length_append, length_singleton, inv.counted, uint32Succ_of_lt (by omega)]
  case sizes => exact sizes
  case listed =>
    intro name
    dsimp only
    rw [nodes]
    by_cases same : name = cString info.name
    · subst same
      rw [update_self]
      refine ⟨fun _ => Option.some_ne_none _, fun _ => ⟨db.ports.nextBlock, by simp, ?_⟩⟩
      rw [update_self]
      rfl
    rw [update_of_ne same, ← inv.listed name]
    constructor
    · rintro ⟨block, member, named⟩
      rcases List.mem_append.mp member with known | new
      · rw [kept block known] at named
        exact ⟨block, known, named⟩
      · rw [List.mem_singleton.mp new, update_self] at named
        exact absurd named.symm same
    · rintro ⟨block, known, named⟩
      refine ⟨block, mem_append_left _ known, ?_⟩
      rw [kept block known]
      exact named
  case latest =>
    intro block member later
    dsimp only at member ⊢
    rw [nodes] at member
    rcases List.mem_append.mp member with known | new
    · rw [kept block known, update_of_ne (otherName block known)]
      exact inv.latest block known later
    rw [List.mem_singleton.mp new, update_self]
    intro reported
    have own : Function.update db.reported (cString info.name) (some info)
        (newEntry hash info noderef).portName = some info := update_self ..
    rw [own] at reported
    cases reported
    exact ⟨rfl, rfl⟩

theorem addPort (info : OflPortDescInfo)
    (left : db.ports.dprmGetPortHandle hash (cString info.name) = none →
      db.ports.table.linked.length < db.ports.table.maxNodes.1)
    (fits : db.ports.dprmGetPortHandle hash (cString info.name) = none →
      Enterable hash db.ports info memory) :
    PortsInv hash
      { ports := (db.ports.ofAddPortToDp hash info memory).1
        reported := Function.update db.reported (cString info.name) (some info) } := by
  cases found : db.ports.dprmGetPortHandle hash (cString info.name) with
  | none =>
    rcases inv.ofAddPortToDp_new found (fits found) (left found) with
      ⟨table, noderef, linked, sizes, result⟩
    rw [result]
    exact inv.insert found linked sizes
  | some handle =>
  rcases inv.getPortHandle_some found with ⟨block, linked, named⟩
  have updated := inv.update linked info
  rw [named] at updated
  unfold DatapathPorts.ofAddPortToDp
  rw [found]
  exact updated

/-! ### Deletions -/

variable {entry : LinkedNode Nat}

theorem deletePort_linked (linked : entry ∈ db.ports.table.linked) :
    ∃ table : RefTable Nat, table.linked = db.ports.table.linked.erase entry ∧
      table.free.length + table.linked.length = table.maxNodes.1 ∧
      db.ports.dprmDeletePortFromDatapath entry.noderef =
        ({ db.ports with
            table := table
            numberOfPorts := uint32Pred db.ports.numberOfPorts },
          true) := by
  rcases RefTable.deleteByRef_linked linked with ⟨table, deleted, rest, maxNodes⟩
  have sizes := RefTable.deleteByRef_sizes db.ports.table entry.noderef
  rw [deleted, inv.sizes] at sizes
  refine ⟨table, rest, by rw [maxNodes]; exact sizes, ?_⟩
  have bare := inv.bare entry.node (RefTable.mem_nodes.mpr ⟨entry.noderef, linked⟩)
  unfold DatapathPorts.dprmDeletePortFromDatapath
  rw [RefTable.access_linked linked]
  dsimp only
  rw [if_neg (not_not.mpr bare), deleted]

/-- An entry that leaves the table keeps the invariant. -/
theorem remove (linked : entry ∈ db.ports.table.linked)
    (rest : table.linked = db.ports.table.linked.erase entry)
    (sizes : table.free.length + table.linked.length = table.maxNodes.1) :
    PortsInv hash
      { ports :=
          { db.ports with
            table := table
            numberOfPorts := uint32Pred db.ports.numberOfPorts }
        reported := Function.update db.reported (db.ports.entries entry.node).portName none } := by
  have member : entry.node ∈ db.ports.table.nodes :=
    RefTable.mem_nodes.mpr ⟨entry.noderef, linked⟩
  have perm : db.ports.table.nodes.Perm (entry.node :: table.nodes) := by
    unfold RefTable.nodes
    rw [rest]
    exact (perm_cons_erase linked).map _
  have gone : entry.node ∉ table.nodes :=
    (List.nodup_cons.mp (perm.nodup_iff.mp inv.nodes_nodup)).1
  have inside : ∀ block ∈ table.nodes, block ∈ db.ports.table.nodes :=
    fun block blockMem => perm.mem_iff.mpr (mem_cons_of_mem _ blockMem)
  have apart : ∀ block ∈ table.nodes,
      (db.ports.entries block).portName ≠ (db.ports.entries entry.node).portName := by
    intro block blockMem same
    have sameBlock := inv.block_unique (inside block blockMem) member same
    exact gone (sameBlock ▸ blockMem)
  constructor
  case defined => exact inv.defined
  case fresh =>
    intro other otherMem
    rw [rest] at otherMem
    exact inv.fresh other (mem_of_mem_erase otherMem)
  case keyed => exact fun block blockMem => inv.keyed block (inside block blockMem)
  case handles =>
    intro other otherMem
    rw [rest] at otherMem
    exact inv.handles other (mem_of_mem_erase otherMem)
  case once =>
    have names := (perm.map fun block => (db.ports.entries block).portName).nodup_iff.mp inv.once
    exact (List.nodup_cons.mp names).2
  case bare => exact fun block blockMem => inv.bare block (inside block blockMem)
  case counted =>
    have length := perm.length_eq
    have positive : 0 < db.ports.numberOfPorts := by
      rw [inv.counted, length]
      exact Nat.succ_pos _
    have pred := uint32Pred_of_pos positive
    rw [inv.counted, length] at pred ⊢
    exact Nat.succ.inj pred
  case sizes => exact sizes
  case listed =>
    intro name
    dsimp only
    by_cases same : name = (db.ports.entries entry.node).portName
    · subst same
      rw [update_self]
      constructor
      · rintro ⟨block, blockMem, named⟩
        exact absurd named (apart block blockMem)
      · exact fun impossible => absurd rfl impossible
    rw [update_of_ne same, ← inv.listed name]
    constructor
    · rintro ⟨block, blockMem, named⟩
      exact ⟨block, inside block blockMem, named⟩
    · rintro ⟨block, blockMem, named⟩
      rcases List.mem_cons.mp (perm.mem_iff.mp blockMem) with rfl | kept
      · exact absurd named.symm same
      · exact ⟨block, kept, named⟩
  case latest =>
    intro block blockMem later
    dsimp only
    rw [update_of_ne (apart block blockMem)]
    exact inv.latest block (inside block blockMem) later

/-- A deletion, of a known name or not, keeps the invariant. -/
theorem deletePort (name : List UInt8) :
    PortsInv hash
      { ports :=
          match db.ports.dprmGetPortHandle hash name with
          | some handle => (db.ports.dprmDeletePortFromDatapath handle).1
          | none => db.ports
        reported := Function.update db.reported name none } := by
  cases found : db.ports.dprmGetPortHandle hash name with
  | none =>
    have absent : db.reported name = none := by
      by_contra reported
      rcases (inv.listed name).mpr reported with ⟨block, member, named⟩
      exact inv.getPortHandle_none found block member named
    have same : Function.update db.reported name none = db.reported := by
      rw [← absent, update_eq_self]
    rw [same]
    exact inv
  | some handle =>
  rcases inv.getPortHandle_some found with ⟨block, linked, named⟩
  rcases inv.deletePort_linked linked with ⟨table, rest, sizes, result⟩
  have removed := inv.remove linked rest sizes
  dsimp only at result removed ⊢
  rw [named] at removed
  rw [result]
  exact removed

/-- The first look-up finds an entry unless there is none. -/
theorem getFirst :
    db.ports.dprmGetFirstDatapathPort hash = none ∧ db.ports.table.linked = [] ∨
      ∃ entry ∈ db.ports.table.linked,
        db.ports.dprmGetFirstDatapathPort hash = some entry.noderef := by
  unfold DatapathPorts.dprmGetFirstDatapathPort
  cases found : (List.range hash.buckets).findSome? fun key => (db.ports.bucket key).head? with
  | none =>
    refine .inl ⟨rfl, ?_⟩
    rw [eq_nil_iff_forall_not_mem]
    intro entry linked
    have member : entry.node ∈ db.ports.table.nodes :=
      RefTable.mem_nodes.mpr ⟨entry.noderef, linked⟩
    have empty := findSome?_eq_none_iff.mp found _
      (List.mem_range.mpr (hash.inside (db.ports.entries entry.node).portName))
    rw [head?_eq_none_iff] at empty
    have inBucket := inv.mem_bucket member
    rw [empty] at inBucket
    cases inBucket
  | some block =>
  rcases exists_of_findSome?_eq_some found with ⟨key, -, first⟩
  have member : block ∈ db.ports.table.nodes :=
    mem_of_mem_filter (mem_of_mem_head? first)
  rcases RefTable.mem_nodes.mp member with ⟨noderef, linked⟩
  exact .inr ⟨_, linked, congrArg some (inv.handles _ linked)⟩

/-- The clean-up loop ends with no port left. -/
theorem cleanLoop {fuel : Nat} (enough : db.ports.table.linked.length < fuel) :
    (DatapathPorts.cleanLoop hash fuel db.ports).2 = true ∧
      PortsInv hash
        { ports := (DatapathPorts.cleanLoop hash fuel db.ports).1, reported := fun _ => none } ∧
      (DatapathPorts.cleanLoop hash fuel db.ports).1.table.linked = [] := by
  induction fuel generalizing db with
  | zero => exact absurd enough (Nat.not_lt_zero _)
  | succ fuel ih =>
  unfold DatapathPorts.cleanLoop
  rcases inv.getFirst with ⟨first, empty⟩ | ⟨entry, linked, first⟩
  · rw [first]
    refine ⟨rfl, ?_, empty⟩
    have nodes : db.ports.table.nodes = [] := by
      unfold RefTable.nodes
      rw [empty]
      rfl
    refine { inv with listed := ?_, latest := ?_ }
    · intro name
      rw [nodes]
      simp
    · intro block member
      rw [nodes] at member
      cases member
  · rcases inv.deletePort_linked linked with ⟨table, rest, sizes, result⟩
    rw [first]
    dsimp only
    rw [result]
    have shorter := length_erase_of_mem linked
    have positive := length_pos_of_mem linked
    refine ih (inv.remove linked rest sizes) ?_
    rw [rest, shorter]
    omega

/-! ### Every event -/

variable {event : PortEvent}

/-- A call keeps the invariant while the pool has room for it. -/
theorem step (left : PoolLeft hash db event) (enters : Enters hash db event) :
    PortsInv hash (db.step hash event) := by
  cases event with
  | portDesc info memory =>
    exact inv.addPort info (fun new => (left _ rfl new).2) (enters _ rfl)
  | portStatus reason info memory =>
    unfold PortDatabase.step DatapathPorts.dpPortStatusChangeEvent PortDatabase.report
    unfold PoolLeft PortEvent.description at left
    unfold Enters PortEvent.description at enters
    dsimp only at left enters ⊢
    by_cases adds : reason = DatapathPorts.ofpprAdd ∨ reason = DatapathPorts.ofpprModify
    · rw [if_pos adds] at left enters ⊢
      rw [if_pos adds]
      exact inv.addPort info (fun new => (left _ rfl new).2) (enters _ rfl)
    rw [if_neg adds, if_neg adds]
    by_cases deletes : reason = DatapathPorts.ofpprDelete
    · rw [if_pos deletes, if_pos deletes]
      have deleted := inv.deletePort (cString info.name)
      cases found : db.ports.dprmGetPortHandle hash (cString info.name) with
      | none =>
        rw [found] at deleted
        exact deleted
      | some handle =>
        rw [found] at deleted
        exact deleted
    · rw [if_neg deletes, if_neg deletes]
      exact inv
  | detach =>
  have cleaned := inv.cleanLoop (Nat.lt_succ_self _)
  unfold PortDatabase.step DatapathPorts.dprmCleanPortsFromDatapath
  rw [cleaned.1, if_pos rfl]
  exact cleaned.2.1

theorem follows (left : PoolLeft hash db event) (enters : Enters hash db event) :
    Follows hash db event where
  tracked := (inv.step left enters).tracked
  emptied := by
    rintro rfl -
    have cleaned := inv.cleanLoop (Nat.lt_succ_self _)
    unfold PortDatabase.step DatapathPorts.dprmCleanPortsFromDatapath RefTable.nodes
    rw [cleaned.2.2]
    rfl

/-- A new port that cannot be entered breaks the code, or is not in the table afterwards. -/
theorem not_tracked_addPort {info : OflPortDescInfo} {memory : PortMemory}
    (unknown : db.ports.dprmGetPortHandle hash (cString info.name) = none)
    (unfit : ¬ Enterable hash db.ports info memory) :
    ¬ PortsTracked
      { ports := (db.ports.ofAddPortToDp hash info memory).1
        reported := Function.update db.reported (cString info.name) (some info) } := by
  intro tracked
  have defined := tracked.defined
  have reported : Function.update db.reported (cString info.name) (some info)
      (cString info.name) ≠ none := by
    rw [update_self]
    exact Option.some_ne_none _
  have listed := (tracked.listed (cString info.name)).mpr reported
  unfold DatapathPorts.ofAddPortToDp at defined listed
  rw [unknown] at defined listed
  dsimp only at defined listed
  by_cases long : dprmMaxPortNameLen ≤ (cString info.name).length
  · rw [if_pos long] at defined
    cases defined
  rw [if_neg long] at defined listed
  unfold DatapathPorts.dprmAddPortToDatapath at defined listed
  dsimp only at defined listed
  by_cases misread : (db.ports.bucket (hash.ofName (cString info.name))).any
      (fun block => cString info.name = db.ports.misreadName block) = true
  · rw [if_pos misread] at defined
    cases defined
  rw [if_neg misread] at listed
  by_cases given : memory.gives = true
  · refine unfit ⟨Nat.not_le.mp long, fun block member same => misread ?_, given⟩
    rw [any_eq_true]
    exact ⟨block, member, decide_eq_true same⟩
  · rw [if_pos (Bool.eq_false_iff.mpr given)] at listed
    obtain ⟨block, member, named⟩ := listed
    exact inv.getPortHandle_none unknown block member named

/-- A call that follows the database enters it. -/
theorem enters_of_follows (follows : Follows hash db event) : Enters hash db event := by
  rintro ⟨info, memory⟩ described unknown
  by_contra unfit
  have missed := inv.not_tracked_addPort unknown unfit
  have tracked := follows.tracked
  cases event with
  | portDesc other given =>
    cases described
    exact missed tracked
  | portStatus reason other given =>
    unfold PortEvent.description at described
    dsimp only at described
    split at described
    case isTrue adds =>
      cases described
      unfold PortDatabase.step DatapathPorts.dpPortStatusChangeEvent PortDatabase.report at tracked
      dsimp only at tracked
      rw [if_pos adds, if_pos adds] at tracked
      exact missed tracked
    case isFalse => cases described
  | detach => cases described

end

end PortsInv

/-- As long as the pool is not exhausted, the port table of a registered datapath follows what
the switch reports over a whole run if and only if every new port reported in it can be
entered. -/
theorem follows_iff_enters (hash : PortHash) (datapathEntryP : List UInt8)
    (portEntriesMax : TableSize) (events : List PortEvent)
    (left : Along (PortDatabase.step hash) (PoolLeft hash)
      (PortDatabase.create datapathEntryP portEntriesMax) events) :
    Along (PortDatabase.step hash) (Follows hash)
        (PortDatabase.create datapathEntryP portEntriesMax) events ↔
      Along (PortDatabase.step hash) (Enters hash)
        (PortDatabase.create datapathEntryP portEntriesMax) events := by
  have start := PortsInv.create hash datapathEntryP portEntriesMax
  generalize PortDatabase.create datapathEntryP portEntriesMax = db at left start
  induction events generalizing db with
  | nil => exact Iff.rfl
  | cons event events ih =>
    have later (enters : Enters hash db event) := ih _ left.2 (start.step left.1 enters)
    constructor
    · rintro ⟨follows, rest⟩
      have enters := start.enters_of_follows follows
      exact ⟨enters, (later enters).mp rest⟩
    · rintro ⟨enters, rest⟩
      exact ⟨start.follows left.1 enters, (later enters).mpr rest⟩

/-- In every run in which the pool is not exhausted and every new port can be entered, the look-up
of a name finds a port exactly if it was reported and not deleted since, and the handle it gives
reaches the port of that name, with the number and the description of the latest report. -/
theorem port_lookups_latest (hash : PortHash) (datapathEntryP : List UInt8)
    (portEntriesMax : TableSize) (events : List PortEvent)
    (left : Along (PortDatabase.step hash) (PoolLeft hash)
      (PortDatabase.create datapathEntryP portEntriesMax) events)
    (enters : Along (PortDatabase.step hash) (Enters hash)
      (PortDatabase.create datapathEntryP portEntriesMax) events) (portName : List UInt8) :
    let db := events.foldl (PortDatabase.step hash)
      (PortDatabase.create datapathEntryP portEntriesMax)
    match db.reported portName with
    | none => db.ports.dprmGetPortHandle hash portName = none
    | some portDesc => ∃ handle block,
        db.ports.dprmGetPortHandle hash portName = some handle ∧
          db.ports.table.access handle = .valid (some block) ∧
          (db.ports.entries block).portName = portName ∧
          (db.ports.entries block).portId = portDesc.portNo ∧
          (db.ports.entries block).portInfo = portDesc := by
  intro db
  have inv : PortsInv hash db := by
    refine @Along.invariant _ _ _ _ (PortsInv hash) ?_ _ _ (PortsInv.create hash _ _)
      (left.and enters)
    exact fun _ _ before both => before.step both.1 both.2
  have listed := inv.listed portName
  cases found : db.ports.dprmGetPortHandle hash portName with
  | none =>
    have missed := inv.getPortHandle_none found
    split
    · rfl
    · rename_i portDesc reported
      obtain ⟨block, member, named⟩ := listed.mpr (by rw [reported]; exact Option.some_ne_none _)
      exact absurd named (missed block member)
  | some handle =>
    obtain ⟨block, linked, named⟩ := inv.getPortHandle_some found
    have member : block ∈ db.ports.table.nodes := RefTable.mem_nodes.mpr ⟨handle, linked⟩
    split
    · rename_i unreported
      exact absurd unreported (listed.mp ⟨block, member, named⟩)
    · rename_i portDesc reported
      obtain ⟨number, described⟩ := inv.latest block member portDesc (by rw [named]; exact reported)
      exact ⟨handle, block, rfl, RefTable.access_linked linked, named, number, described⟩

/-- The hash of a table for at most four ports, which has one bucket. -/
def oneBucket : PortHash where
  buckets := 1
  ofName := fun _ => 0
  inside := fun _ => Nat.one_pos

def fourPorts : TableSize :=
  ⟨4, by decide⟩

/-- The bytes of the pointer 0x555555786160. -/
def samplePointer : List UInt8 :=
  [0x60, 0x61, 0x78, 0x55, 0x55, 0x55, 0, 0]

/-- A description with a name, padded to its buffer, and a number. -/
def namedPort (name : List UInt8) (portNo : UInt32) : OflPortDescInfo :=
  { DatapathPorts.zeroedInfo with
    name := name ++ List.replicate (16 - name.length) 0
    portNo := portNo }

/-- A pool with static blocks, and one that has but heap blocks left while `heap_b` holds 0. -/
def staticBlocks : PortMemory where
  heapB := false
  staticLeft := true
  heapLeft := true
  calloced := true

def heapBlocksOnly : PortMemory :=
  { staticBlocks with staticLeft := false }

/-- Ports `a`, `b` and `c` are reported, `a` gets another number, `b` is deleted, an
unknown port is deleted, and the datapath detaches. -/
def portReports : List PortEvent :=
  [.portDesc (namedPort [97] 1) staticBlocks,
    .portDesc (namedPort [98] 2) { heapBlocksOnly with heapB := true },
    .portStatus DatapathPorts.ofpprAdd (namedPort [99] 3) staticBlocks,
    .portStatus DatapathPorts.ofpprModify (namedPort [97] 4) heapBlocksOnly,
    .portStatus DatapathPorts.ofpprDelete (namedPort [98] 2) heapBlocksOnly,
    .portStatus DatapathPorts.ofpprDelete (namedPort [100] 9) heapBlocksOnly, .detach]

theorem follows_portReports :
    Along (PortDatabase.step oneBucket) (Follows oneBucket)
      (PortDatabase.create samplePointer fourPorts) portReports :=
  (follows_iff_enters oneBucket samplePointer fourPorts portReports (by decide)).mpr (by decide)

/-- Before the datapath detaches, port `a` is found with its new number. -/
theorem port_lookups_renumbered :
    let db := portReports.dropLast.foldl (PortDatabase.step oneBucket)
      (PortDatabase.create samplePointer fourPorts)
    ∃ handle block, db.ports.dprmGetPortHandle oneBucket [97] = some handle ∧
      db.ports.table.access handle = .valid (some block) ∧
      (db.ports.entries block).portName = [97] ∧ (db.ports.entries block).portId = 4 ∧
      (db.ports.entries block).portInfo = namedPort [97] 4 :=
  port_lookups_latest oneBucket samplePointer fourPorts portReports.dropLast (by decide)
    (by decide) [97]

/-- A port whose name is the string that the pointer makes is taken for a duplicate. -/
theorem not_follows_pointer_name :
    ¬ ∀ (hash : PortHash) (datapathEntryP : List UInt8) (portEntriesMax : TableSize)
        (events : List PortEvent),
      Along (PortDatabase.step hash) (PoolLeft hash)
        (PortDatabase.create datapathEntryP portEntriesMax) events →
      Along (PortDatabase.step hash) (Follows hash)
        (PortDatabase.create datapathEntryP portEntriesMax) events := by
  intro follows
  have run := follows oneBucket samplePointer fourPorts
    [.portDesc (namedPort [97] 1) staticBlocks,
      .portDesc (namedPort [0x60, 0x61, 0x78, 0x55, 0x55, 0x55] 2) staticBlocks] (by decide)
  exact absurd run.2.1.tracked.defined (by decide)

end OpenFlowController.Dprm
