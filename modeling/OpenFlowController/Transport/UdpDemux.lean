/-
Module: Transport.UdpDemux
Purpose: The look-up of the channel of a datagram that waits at the shared socket of the UDP
  transport, with the channel that is made for a new sender, the reads that this channel then makes,
  and the datagrams that reach the channel of their sender.
Source: ofproto/src/transport/base/trnsprt_fsm.c 342-441; ofproto/src/transport/base/trnsprt_epoll.c
  105-163; ofproto/src/transport/base/trnsprt_channel.c 192-361; ofproto/src/transport/udp/udp_api.c
  145-305, 387-444, udp_db.c; include/mchash.h 490-510; ofproto/src/include/cntlr_transprt.h
Trusted boundary: the memory pool gives no block that is in the table, and the table of udp_db.c
  finds the entry of a sender that was added to it
-/
import OpenFlowController.Coreapp.CntlrXtn
import OpenFlowController.Utils.RefTableRefinement

namespace OpenFlowController.Transport

open Coreapp List Option Library Utils

/-! ## The table of the channels -/

/-- `udp_conn_details_t`; the address is always one of version 4. -/
structure UdpConnDetails where
  remoteIp : UInt32
  remotePort : UInt16
deriving DecidableEq

/-- What the UDP transport keeps: `connection_tbl`, `conn_spec_info` of every channel,
`cntlr_conn_hash_table_init_value_g`, and `udp_db_hash_table_g`: of a sender with an entry, the
bytes of its datagram that were not read yet. -/
structure UdpTransport where
  connectionTbl : MchashTable Nat
  connSpecInfo : Nat → Option UdpConnDetails
  hashTableInitValue : UInt32
  unread : UdpConnDetails → Option Nat

def ofConnTableMaxNoOfNodes : Nat := 1 * 25 * 10 + 50

def ofConnTableSize : Nat := ofConnTableMaxNoOfNodes / 6

/-- `udp_transport_get_hash_value`, which is `OF_CONN_TABLE_HASH`. -/
def udpTransportGetHashValue (initValue : UInt32) (details : UdpConnDetails) : Nat :=
  (ofDobbsMix (0x9e3779b9 + details.remoteIp) (0x9e3779b9 + details.remotePort.toUInt32)
    initValue).toNat % ofConnTableSize

/-- `udp_transport_compare_conn_spec_info`, with nothing where it fails. -/
def udpTransportCompareConnSpecInfo (one two : Option UdpConnDetails) : Option Bool :=
  match one, two with
  | some one, some two =>
    some (decide (one.remoteIp = two.remoteIp ∧ one.remotePort = two.remotePort))
  | _, _ => none

namespace UdpTransport

/-- The table as it is made, with what the application nodes hold at that time. -/
def create (initValue : UInt32) (nodeLinks : Nat → DllNode (DllLoc Nat))
    (tableLink : Nat → MchashTableLink) (connSpecInfo : Nat → Option UdpConnDetails) :
    UdpTransport where
  connectionTbl := mchashTableCreate ofConnTableSize ofConnTableMaxNoOfNodes nodeLinks tableLink
  connSpecInfo := connSpecInfo
  hashTableInitValue := initValue
  unread := fun _ => none

/-- The channels of the table. -/
def channels (transport : UdpTransport) : List Nat :=
  (mchashTableScan transport.connectionTbl).flatten

def hashOf (transport : UdpTransport) (sender : UdpConnDetails) : Nat :=
  udpTransportGetHashValue transport.hashTableInitValue sender

/-- The channels that the look-up of the sender goes through. -/
def bucketOf (transport : UdpTransport) (sender : UdpConnDetails) : List Nat :=
  mchashBucketScan transport.connectionTbl (transport.hashOf sender)

end UdpTransport

/-! ## The datagram -/

structure UdpDatagram where
  sender : UdpConnDetails
  length : Nat

/-- What `udp_hash_db_add_db_entry` comes to.  Without a block of the pool it leaves no entry and
returns success. -/
inductive UdpEntryAdded where
  | noBlock
  | tableFull
  | added

/-- A read that the channel makes for the message it receives. -/
structure UdpBodyRead where
  length : Nat
  entry : UdpEntryAdded

/-- A datagram at the head of the socket with those behind it, the reads of the channel that is
found for it, and what the calls answer that the look-up makes: `calloc` for the details, the pool
of the channels, and the steps of `cntlr_trnsprt_channel_init` before the table. -/
structure UdpArrival where
  sender : UdpConnDetails
  length : Nat
  behind : List UdpDatagram
  reads : List UdpBodyRead
  detailsAllocated : Bool
  channelBlock : Option Nat
  threadFound : Bool
  msgQBoxCreated : Bool
  loopbackAdded : Bool
  safeRefAllocated : Bool

/-- `udp_transport_read_data` with `MSG_PEEK` for one byte. -/
inductive UdpPeek where
  | failed
  /-- the details are written through a pointer that is NULL -/
  | nullDetails
  | sender (details : UdpConnDetails)

def udpPeek (arrival : UdpArrival) : UdpPeek :=
  if arrival.length = 0 then .failed
  else if arrival.detailsAllocated = false then .nullDetails
  else .sender arrival.sender

/-- The variables after `MCHASH_BUCKET_SCAN`: the cursor stays at the last node that was looked
at. -/
structure BucketCursor where
  channel : Option Nat
  hit : Bool
  failed : Bool

def scanBucket (connSpecInfo : Nat → Option UdpConnDetails) (sender : UdpConnDetails)
    (cursor : Option Nat) : List Nat → BucketCursor
  | [] => { channel := cursor, hit := false, failed := false }
  | channel :: rest =>
    match udpTransportCompareConnSpecInfo (some sender) (connSpecInfo channel) with
    | none => { channel := some channel, hit := false, failed := true }
    | some true => { channel := some channel, hit := true, failed := false }
    | some false => scanBucket connSpecInfo sender (some channel) rest

/-- `cntlr_trnsprt_channel_init`, with whether it succeeds; where it does not the block goes back
to its pool. -/
def cntlrTrnsprtChannelInit (transport : UdpTransport) (channel : Nat) (arrival : UdpArrival) :
    UdpTransport × Bool :=
  let named := { transport with
    connSpecInfo := Function.update transport.connSpecInfo channel (some arrival.sender) }
  if arrival.threadFound = false then (named, false)
  else if arrival.msgQBoxCreated = false then (named, false)
  else if arrival.loopbackAdded = false then (named, false)
  else if arrival.safeRefAllocated = false then (named, false)
  else
    let appended :=
      mchashAppendNode transport.connectionTbl (transport.hashOf arrival.sender) channel
    match appended.2 with
    | none => (named, false)
    | some _ => ({ named with connectionTbl := appended.1 }, true)

/-- What `fsm_xprt_proto_read` leaves: the transport, `*opaque_pp` and its status. -/
structure UdpRead where
  transport : UdpTransport
  opaqueP : Option Nat
  success : Bool
  undefined : Bool

/-- `fsm_xprt_proto_read`.  What `fsm_xprt_proto_channel_learn` answers is not looked at. -/
def fsmXprtProtoRead (transport : UdpTransport) (arrival : UdpArrival) : UdpRead :=
  match udpPeek arrival with
  | .failed => { transport, opaqueP := none, success := false, undefined := false }
  | .nullDetails => { transport, opaqueP := none, success := false, undefined := true }
  | .sender sender =>
    let cursor := scanBucket transport.connSpecInfo sender none (transport.bucketOf sender)
    match cursor.channel with
    | some channel =>
      { transport
        opaqueP := if cursor.hit then some channel else none
        success := !cursor.failed
        undefined := false }
    | none =>
      match arrival.channelBlock with
      | none => { transport, opaqueP := none, success := false, undefined := false }
      | some channel =>
        { transport := (cntlrTrnsprtChannelInit transport channel arrival).1
          opaqueP := some channel
          success := true
          undefined := false }

/-- The channel that `cntlr_listen_for_dp_msgs_for_shared_fd` lets read. -/
def UdpRead.delivered (read : UdpRead) : Option Nat :=
  if read.success then read.opaqueP else none

/-! ## The reads of the channel -/

/-- What a sender's entry holds once so many of its bytes are read: the entry goes with the last. -/
def leaveUnread (left length : Nat) : Option Nat :=
  if length < left then some (left - length) else none

/-- The entries, the datagrams at the socket, those that were taken from it, and whether a buffer
of NULL was read into. -/
structure UdpReading where
  unread : UdpConnDetails → Option Nat
  waiting : List UdpDatagram
  taken : List UdpDatagram
  undefined : Bool

def udpMaxBufferLength : Nat := 8 * 1024

/-- `udp_transport_read_data` for a channel with details: what the entry of the sender does not
hold comes from the socket, which gives the next datagram of whoever sent it. -/
def udpTransportReadData (details : UdpConnDetails) (reading : UdpReading) (read : UdpBodyRead) :
    UdpReading :=
  let enter := fun left => Function.update reading.unread details left
  if read.length = 0 then reading
  else
    match reading.unread details with
    | some left => { reading with unread := enter (leaveUnread left read.length) }
    | none =>
      match read.entry with
      | .noBlock => { reading with undefined := true }
      | .tableFull => reading
      | .added =>
        match reading.waiting with
        -- the entry stays although nothing was read into it
        | [] => { reading with unread := enter (some 0) }
        | datagram :: behind =>
          let left := min datagram.length udpMaxBufferLength
          { reading with
            unread := enter (if left = 0 then some 0 else leaveUnread left read.length)
            waiting := behind
            taken := reading.taken ++ [datagram] }

/-- The rest of `cntlr_listen_for_dp_msgs_for_shared_fd`. -/
def UdpRead.listen (read : UdpRead) (arrival : UdpArrival) : UdpReading :=
  let started := { unread := read.transport.unread
                   waiting := ⟨arrival.sender, arrival.length⟩ :: arrival.behind
                   taken := []
                   undefined := read.undefined }
  match read.delivered.bind read.transport.connSpecInfo with
  | none => started
  | some details => arrival.reads.foldl (udpTransportReadData details) started

/-! ## What should hold -/

/-- The table is one of its size with the channels linked, and every channel has its details. -/
structure IntactUdp (transport : UdpTransport) : Prop where
  represented : ∃ view, Represents transport.connectionTbl view
  buckets : transport.connectionTbl.buckets = ofConnTableSize
  details : ∀ channel ∈ transport.channels, transport.connSpecInfo channel ≠ none

/-- The block is none of the table. -/
def UdpArrival.Fresh (transport : UdpTransport) (arrival : UdpArrival) : Prop :=
  ∀ channel ∈ arrival.channelBlock, Represents.Unowned transport.connectionTbl channel

/-- A population of channels and a datagram that comes to it. -/
structure UdpScene where
  transport : UdpTransport
  arrival : UdpArrival
  intact : IntactUdp transport
  fresh : arrival.Fresh transport

/-- A channel of the sender is in the table. -/
def UdpTransport.Knows (transport : UdpTransport) (sender : UdpConnDetails) : Prop :=
  ∃ channel ∈ transport.channels, transport.connSpecInfo channel = some sender

/-- The datagram comes to a channel of its sender: to one of the table where there is one, and
otherwise to one that is made and put there, and the details of the others stay.  Nor does the
channel take a datagram of another sender. -/
structure Demultiplexed (transport : UdpTransport) (arrival : UdpArrival) (read : UdpRead) :
    Prop where
  defined : (read.listen arrival).undefined = false
  own : ∀ datagram ∈ (read.listen arrival).taken, datagram.sender = arrival.sender
  delivered : ∃ channel ∈ read.transport.channels, read.delivered = some channel ∧
    read.transport.connSpecInfo channel = some arrival.sender
  existing : transport.Knows arrival.sender → read.transport.channels.Perm transport.channels
  created : ¬ transport.Knows arrival.sender →
    ∃ channel, read.delivered = some channel ∧ channel ∉ transport.channels ∧
      read.transport.channels.Perm (channel :: transport.channels)
  kept : ∀ channel ∈ transport.channels,
    read.transport.connSpecInfo channel = transport.connSpecInfo channel

/-! ## When it does -/

/-- Nothing that a new channel needs is missing. -/
structure UdpArrival.Creatable (transport : UdpTransport) (arrival : UdpArrival) : Prop where
  block : arrival.channelBlock ≠ none
  thread : arrival.threadFound = true
  msgQBox : arrival.msgQBoxCreated = true
  loopback : arrival.loopbackAdded = true
  safeRef : arrival.safeRefAllocated = true
  entry : transport.connectionTbl.activeNodes < transport.connectionTbl.maxNodes

/-- Where the reads go on beyond what the sender's entry holds, a block can be had for a new entry
and the next datagram is the sender's as well. -/
def ReadsOwn (sender : UdpConnDetails) :
    List UdpBodyRead → Option Nat → List UdpDatagram → Prop
  | [], _, _ => True
  | read :: rest, entry, waiting =>
    if read.length = 0 then ReadsOwn sender rest entry waiting
    else
      match entry, read.entry, waiting with
      | some left, _, _ => ReadsOwn sender rest (leaveUnread left read.length) waiting
      | none, .noBlock, _ => False
      | none, .tableFull, _ => ReadsOwn sender rest none waiting
      | none, .added, [] => ReadsOwn sender rest (some 0) []
      | none, .added, datagram :: behind =>
        let left := min datagram.length udpMaxBufferLength
        datagram.sender = sender ∧
          ReadsOwn sender rest (if left = 0 then some 0 else leaveUnread left read.length) behind

/-- The datagram is not empty, its details are allocated, either a channel of the sender is in the
bucket of the sender, or there is none in the table, the bucket is empty, and a channel can be made,
and the reads of the channel stay with its sender's datagrams. -/
structure UdpFits (transport : UdpTransport) (arrival : UdpArrival) : Prop where
  notEmpty : arrival.length ≠ 0
  detailsAllocated : arrival.detailsAllocated = true
  reads : ReadsOwn arrival.sender arrival.reads (transport.unread arrival.sender)
    (⟨arrival.sender, arrival.length⟩ :: arrival.behind)
  found : (∃ channel ∈ transport.bucketOf arrival.sender,
      transport.connSpecInfo channel = some arrival.sender) ∨
    ¬ transport.Knows arrival.sender ∧ transport.bucketOf arrival.sender = [] ∧
      arrival.Creatable transport

/-! ### The reads -/

/-- What the reads of a channel leave is right exactly where they stay with the datagrams of their
sender. -/
theorem reads_iff {sender : UdpConnDetails} (reads : List UdpBodyRead) (reading : UdpReading) :
    ((reads.foldl (udpTransportReadData sender) reading).undefined = false ∧
        ∀ datagram ∈ (reads.foldl (udpTransportReadData sender) reading).taken,
          datagram.sender = sender) ↔
      (reading.undefined = false ∧ ∀ datagram ∈ reading.taken, datagram.sender = sender) ∧
        ReadsOwn sender reads (reading.unread sender) reading.waiting := by
  induction reads generalizing reading with
  | nil => simp [ReadsOwn]
  | cons read rest ih =>
  rw [foldl_cons, ih]
  conv => rhs; unfold ReadsOwn
  unfold udpTransportReadData
  by_cases nothing : read.length = 0
  · simp [nothing]
  simp only [nothing, if_false]
  cases entry : reading.unread sender with
  | some left => simp
  | none =>
  cases read.entry with
  | noBlock => simp
  | tableFull => simp [entry]
  | added =>
    cases reading.waiting with
    | nil => simp
    | cons datagram behind => simp [or_imp, forall_and, and_assoc]

/-- The same of what the event handler leaves, once the channel of the sender is found. -/
theorem listen_iff {read : UdpRead} {arrival : UdpArrival} {channel : Nat}
    (delivered : read.delivered = some channel)
    (own : read.transport.connSpecInfo channel = some arrival.sender) :
    ((read.listen arrival).undefined = false ∧
        ∀ datagram ∈ (read.listen arrival).taken, datagram.sender = arrival.sender) ↔
      read.undefined = false ∧
        ReadsOwn arrival.sender arrival.reads (read.transport.unread arrival.sender)
          (⟨arrival.sender, arrival.length⟩ :: arrival.behind) := by
  have details : read.delivered.bind read.transport.connSpecInfo = some arrival.sender := by
    rw [delivered, Option.bind_some, own]
  unfold UdpRead.listen
  rw [details]
  dsimp only
  rw [reads_iff]
  simp

/-! ### The scan of a bucket -/

section Bucket

variable {connSpecInfo : Nat → Option UdpConnDetails} {sender : UdpConnDetails}
  {bucket : List Nat} {cursor : Option Nat}

theorem compare_some (details : UdpConnDetails) :
    udpTransportCompareConnSpecInfo (some sender) (some details) =
      some (decide (details = sender)) := by
  obtain ⟨senderIp, senderPort⟩ := sender
  obtain ⟨remoteIp, remotePort⟩ := details
  simp only [udpTransportCompareConnSpecInfo, UdpConnDetails.mk.injEq, eq_comm]

theorem scanBucket_hit (details : ∀ channel ∈ bucket, connSpecInfo channel ≠ none)
    (present : ∃ channel ∈ bucket, connSpecInfo channel = some sender) :
    ∃ channel ∈ bucket, connSpecInfo channel = some sender ∧
      scanBucket connSpecInfo sender cursor bucket =
        { channel := some channel, hit := true, failed := false } := by
  induction bucket generalizing cursor with
  | nil => simp at present
  | cons channel rest ih =>
  obtain ⟨own, ownEq⟩ :=
    ne_none_iff_exists'.mp (details channel mem_cons_self)
  by_cases same : own = sender
  · refine ⟨channel, mem_cons_self, by rw [ownEq, same], ?_⟩
    rw [scanBucket, ownEq, compare_some, same, decide_eq_true rfl]
  have later : ∃ channel ∈ rest, connSpecInfo channel = some sender := by
    obtain ⟨found, member, foundEq⟩ := present
    rcases mem_cons.mp member with first | later
    · rw [first, ownEq] at foundEq
      exact absurd (some.inj foundEq) same
    · exact ⟨found, later, foundEq⟩
  obtain ⟨found, member, foundEq, scanned⟩ :=
    @ih (some channel) (fun other member => details other (mem_cons_of_mem _ member)) later
  refine ⟨found, mem_cons_of_mem _ member, foundEq, ?_⟩
  rw [scanBucket, ownEq, compare_some, decide_eq_false same]
  exact scanned

theorem scanBucket_missed (details : ∀ channel ∈ bucket, connSpecInfo channel ≠ none)
    (absent : ¬ ∃ channel ∈ bucket, connSpecInfo channel = some sender) :
    scanBucket connSpecInfo sender cursor bucket =
      { channel := bucket.getLast?.or cursor, hit := false, failed := false } := by
  induction bucket generalizing cursor with
  | nil => rfl
  | cons channel rest ih =>
  obtain ⟨own, ownEq⟩ :=
    ne_none_iff_exists'.mp (details channel mem_cons_self)
  have other : own ≠ sender := fun same =>
    absent ⟨channel, mem_cons_self, by rw [ownEq, same]⟩
  rw [scanBucket, ownEq, compare_some, decide_eq_false other]
  rw [ih (fun later member => details later (mem_cons_of_mem _ member))
    fun ⟨later, member, found⟩ => absent ⟨later, mem_cons_of_mem _ member, found⟩]
  cases rest with
  | nil => rfl
  | cons second rest => simp [getLast?_cons]

end Bucket

/-! ### The table -/

namespace IntactUdp

variable {transport : UdpTransport} {sender : UdpConnDetails}

section

variable (intact : IntactUdp transport)

include intact

theorem hash_bound : transport.hashOf sender < transport.connectionTbl.buckets := by
  rw [intact.buckets]
  exact Nat.mod_lt _ (by decide)

theorem mem_channels_of_bucket {channel : Nat} (member : channel ∈ transport.bucketOf sender) :
    channel ∈ transport.channels :=
  mem_flatten.mpr ⟨_, mem_map_of_mem (mem_range.mpr intact.hash_bound), member⟩

theorem bucketDetails :
    ∀ channel ∈ transport.bucketOf sender, transport.connSpecInfo channel ≠ none :=
  fun channel member => intact.details channel (intact.mem_channels_of_bucket member)

theorem notMem_of_unowned {channel : Nat}
    (unowned : Represents.Unowned transport.connectionTbl channel) :
    channel ∉ transport.channels := by
  obtain ⟨view, rep⟩ := intact.represented
  intro member
  obtain ⟨index, bound, owned⟩ := rep.mem_scan.mp member
  exact unowned index bound owned

end

attribute [local simp] updateBucketCount

/-- What an append to the table does: it fails without a free entry, and otherwise the channel is
one more of the table. -/
theorem append_cases (intact : IntactUdp transport) {channel : Nat}
    (unowned : Represents.Unowned transport.connectionTbl channel) :
    (¬ transport.connectionTbl.activeNodes < transport.connectionTbl.maxNodes ∧
      (mchashAppendNode transport.connectionTbl (transport.hashOf sender) channel).2 = none) ∨
    transport.connectionTbl.activeNodes < transport.connectionTbl.maxNodes ∧
      ∃ after noderef view,
        mchashAppendNode transport.connectionTbl (transport.hashOf sender) channel =
          (after, some noderef) ∧
        Represents after view ∧ after.buckets = transport.connectionTbl.buckets ∧
        (mchashTableScan after).flatten.Perm (channel :: transport.channels) := by
  obtain ⟨view, rep⟩ := intact.represented
  have capacity := rep.capacity
  cases free : view.free with
  | nil =>
    rw [free] at capacity
    refine .inl ⟨by simp at capacity; omega, ?_⟩
    rw [mchashAppendNode, rep.insertAt_full free]
  | cons index rest =>
  rw [free, length_cons] at capacity
  have chainEq : view.chain (transport.hashOf sender) =
      view.chain (transport.hashOf sender) ++ [] := (append_nil _).symm
  have ready : Insertable transport.connectionTbl view index (transport.hashOf sender) rest
      channel (view.chain (transport.hashOf sender)) []
      (fun dll => (dll.prevOf (.head (transport.hashOf sender)), none)) :=
    ⟨rep, free, intact.hash_bound, unowned, chainEq, fun _ chain => append_placed chain⟩
  have rep' := ready.represents.countAgain (transport.hashOf sender)
  refine .inr ⟨by omega, _, ⟨index, transport.connectionTbl.magicNo⟩, _, ?_, rep', rfl, ?_⟩
  · rw [mchashAppendNode, rep.insertAt_free free]
  refine (perm_ext_iff_of_nodup rep'.scan_nodup (nodup_cons.mpr
    ⟨intact.notMem_of_unowned unowned, rep.scan_nodup⟩)).mpr fun node => ?_
  rw [rep'.mem_scan, mem_cons, UdpTransport.channels, rep.mem_scan]
  obtain ⟨indexBound, empty⟩ := ready.index_free
  constructor
  · rintro ⟨entry, bound, owned⟩
    by_cases same : entry = index
    · rw [same] at owned
      exact .inl (by simpa [eq_comm] using owned)
    · exact .inr ⟨entry, bound, by simpa [same] using owned⟩
  rintro (rfl | ⟨entry, bound, owned⟩)
  · exact ⟨index, indexBound, by simp⟩
  have apart : entry ≠ index := by
    rintro rfl
    rw [empty] at owned
    cases owned
  exact ⟨entry, bound, by simpa [apart] using owned⟩

end IntactUdp

/-! ### The look-up -/

section Read

variable {transport : UdpTransport} {arrival : UdpArrival}

theorem read_found (intact : IntactUdp transport) (notEmpty : arrival.length ≠ 0)
    (allocated : arrival.detailsAllocated = true)
    (present : ∃ channel ∈ transport.bucketOf arrival.sender,
      transport.connSpecInfo channel = some arrival.sender) :
    ∃ channel ∈ transport.bucketOf arrival.sender,
      transport.connSpecInfo channel = some arrival.sender ∧
        fsmXprtProtoRead transport arrival =
          { transport, opaqueP := some channel, success := true, undefined := false } := by
  obtain ⟨channel, member, own, scanned⟩ :=
    @scanBucket_hit _ _ _ none intact.bucketDetails present
  refine ⟨channel, member, own, ?_⟩
  rw [fsmXprtProtoRead, udpPeek, if_neg notEmpty, if_neg (by simp [allocated])]
  dsimp only
  rw [scanned]
  rfl

theorem read_missed (intact : IntactUdp transport) (notEmpty : arrival.length ≠ 0)
    (allocated : arrival.detailsAllocated = true)
    (absent : ¬ ∃ channel ∈ transport.bucketOf arrival.sender,
      transport.connSpecInfo channel = some arrival.sender)
    (occupied : transport.bucketOf arrival.sender ≠ []) :
    fsmXprtProtoRead transport arrival =
      { transport, opaqueP := none, success := true, undefined := false } := by
  rw [fsmXprtProtoRead, udpPeek, if_neg notEmpty, if_neg (by simp [allocated])]
  dsimp only
  rw [scanBucket_missed intact.bucketDetails absent, getLast?_eq_some_getLast occupied]
  rfl

theorem read_created (notEmpty : arrival.length ≠ 0) (allocated : arrival.detailsAllocated = true)
    (vacant : transport.bucketOf arrival.sender = []) {channel : Nat}
    (block : arrival.channelBlock = some channel) :
    fsmXprtProtoRead transport arrival =
      { transport := (cntlrTrnsprtChannelInit transport channel arrival).1
        opaqueP := some channel
        success := true
        undefined := false } := by
  rw [fsmXprtProtoRead, udpPeek, if_neg notEmpty, if_neg (by simp [allocated])]
  dsimp only
  rw [vacant, scanBucket, block]

theorem init_info (channel : Nat) :
    (cntlrTrnsprtChannelInit transport channel arrival).1.connSpecInfo =
      Function.update transport.connSpecInfo channel (some arrival.sender) := by
  unfold cntlrTrnsprtChannelInit
  dsimp only
  split
  · rfl
  split
  · rfl
  split
  · rfl
  · split
    · rfl
    · split <;> rfl

theorem init_unread (channel : Nat) :
    (cntlrTrnsprtChannelInit transport channel arrival).1.unread = transport.unread := by
  unfold cntlrTrnsprtChannelInit
  dsimp only
  split
  · rfl
  split
  · rfl
  split
  · rfl
  · split
    · rfl
    · split <;> rfl

theorem init_stopped (channel : Nat)
    (missing : ¬ (arrival.threadFound = true ∧ arrival.msgQBoxCreated = true ∧
      arrival.loopbackAdded = true ∧ arrival.safeRefAllocated = true)) :
    (cntlrTrnsprtChannelInit transport channel arrival).1.connectionTbl =
      transport.connectionTbl := by
  unfold cntlrTrnsprtChannelInit
  split
  case isTrue => rfl
  case isFalse thread =>
  split
  case isTrue => rfl
  case isFalse msgQBox =>
  split
  case isTrue => rfl
  case isFalse loopback =>
  split
  case isTrue => rfl
  case isFalse safeRef =>
    exact absurd ⟨eq_true_of_ne_false thread, eq_true_of_ne_false msgQBox,
      eq_true_of_ne_false loopback, eq_true_of_ne_false safeRef⟩ missing

/-- A channel is made where nothing is missing, and otherwise the table stays as it was. -/
theorem init_cases (intact : IntactUdp transport) {channel : Nat}
    (block : arrival.channelBlock = some channel)
    (unowned : Represents.Unowned transport.connectionTbl channel) :
    (¬ arrival.Creatable transport ∧
      (cntlrTrnsprtChannelInit transport channel arrival).1.connectionTbl =
        transport.connectionTbl) ∨
    arrival.Creatable transport ∧
      IntactUdp (cntlrTrnsprtChannelInit transport channel arrival).1 ∧
        (cntlrTrnsprtChannelInit transport channel arrival).1.channels.Perm
          (channel :: transport.channels) := by
  by_cases steps : arrival.threadFound = true ∧ arrival.msgQBoxCreated = true ∧
      arrival.loopbackAdded = true ∧ arrival.safeRefAllocated = true
  case neg =>
    exact .inl ⟨fun made => steps ⟨made.thread, made.msgQBox, made.loopback, made.safeRef⟩,
      init_stopped channel steps⟩
  obtain ⟨thread, msgQBox, loopback, safeRef⟩ := steps
  rcases @IntactUdp.append_cases transport arrival.sender intact channel unowned with
    ⟨full, failed⟩ | ⟨room, after, noderef, view, appended, rep, buckets, perm⟩
  · exact .inl ⟨fun made => full made.entry,
      by simp [cntlrTrnsprtChannelInit, thread, msgQBox, loopback, safeRef, failed]⟩
  have made : cntlrTrnsprtChannelInit transport channel arrival =
      ({ transport with
          connectionTbl := after
          connSpecInfo := Function.update transport.connSpecInfo channel
            (some arrival.sender) }, true) := by
    simp [cntlrTrnsprtChannelInit, thread, msgQBox, loopback, safeRef, appended]
  rw [made]
  refine .inr ⟨⟨by simp [block], thread, msgQBox, loopback, safeRef, room⟩, ?_, perm⟩
  constructor
  case represented => exact ⟨view, rep⟩
  case buckets => exact buckets.trans intact.buckets
  case details =>
    intro other member
    by_cases same : other = channel
    · rw [same]
      simp
    dsimp only
    rw [Function.update_of_ne same]
    rcases mem_cons.mp (perm.mem_iff.mp member) with new | old
    · exact absurd new same
    · exact intact.details other old

end Read

/-- A datagram comes to the channel of its sender exactly where that is in the bucket of the
sender, or where there is none, the bucket is empty and a channel can be made. -/
theorem demultiplexed_iff (scene : UdpScene) :
    Demultiplexed scene.transport scene.arrival (fsmXprtProtoRead scene.transport scene.arrival) ↔
      UdpFits scene.transport scene.arrival := by
  obtain ⟨transport, arrival, intact, fresh⟩ := scene
  by_cases notEmpty : arrival.length ≠ 0
  case neg =>
    refine iff_of_false (fun right => ?_) fun fits => notEmpty fits.notEmpty
    obtain ⟨channel, -, delivered, -⟩ := right.delivered
    rw [fsmXprtProtoRead, udpPeek, if_pos (not_not.mp notEmpty)] at delivered
    cases delivered
  by_cases allocated : arrival.detailsAllocated = true
  case neg =>
    refine iff_of_false (fun right => ?_) fun fits => allocated fits.detailsAllocated
    have defined := right.defined
    rw [fsmXprtProtoRead, udpPeek, if_neg notEmpty, if_pos (eq_false_of_ne_true allocated)]
      at defined
    simp [UdpRead.listen, UdpRead.delivered] at defined
  by_cases present : ∃ channel ∈ transport.bucketOf arrival.sender,
      transport.connSpecInfo channel = some arrival.sender
  · obtain ⟨channel, member, own, read⟩ := read_found intact notEmpty allocated present
    have known := intact.mem_channels_of_bucket member
    rw [read]
    have listened := @listen_iff
      { transport, opaqueP := some channel, success := true, undefined := false } arrival channel
      rfl own
    refine ⟨fun right =>
      ⟨notEmpty, allocated, (listened.mp ⟨right.defined, right.own⟩).2, .inl present⟩, fun fits => ?_⟩
    have right := listened.mpr ⟨rfl, fits.reads⟩
    constructor
    case defined => exact right.1
    case own => exact right.2
    case delivered => exact ⟨channel, known, rfl, own⟩
    case existing => exact fun _ => List.Perm.refl _
    case created => exact fun unknown => absurd ⟨channel, known, own⟩ unknown
    case kept => exact fun _ _ => rfl
  by_cases vacant : transport.bucketOf arrival.sender = []
  case neg =>
    refine iff_of_false (fun right => ?_) fun fits => ?_
    · obtain ⟨channel, -, delivered, -⟩ := right.delivered
      rw [read_missed intact notEmpty allocated present vacant] at delivered
      cases delivered
    · rcases fits.found with found | ⟨-, empty, -⟩
      · exact present found
      · exact vacant empty
  cases block : arrival.channelBlock with
  | none =>
    refine iff_of_false (fun right => ?_) fun fits => ?_
    · obtain ⟨channel, -, delivered, -⟩ := right.delivered
      rw [fsmXprtProtoRead, udpPeek, if_neg notEmpty, if_neg (by simp [allocated])] at delivered
      dsimp only at delivered
      rw [vacant, scanBucket, block] at delivered
      cases delivered
    · rcases fits.found with found | ⟨-, -, made⟩
      · exact present found
      · exact made.block block
  | some channel =>
  have read := read_created notEmpty allocated vacant block
  have unowned := fresh channel block
  have isNew := intact.notMem_of_unowned unowned
  have given : (fsmXprtProtoRead transport arrival).delivered = some channel := by
    rw [read]
    rfl
  rcases init_cases intact block unowned with ⟨short, same⟩ | ⟨made, -, perm⟩
  · refine iff_of_false (fun right => ?_) fun fits => ?_
    · obtain ⟨other, member, delivered, -⟩ := right.delivered
      rw [given] at delivered
      rw [← some.inj delivered, read, UdpTransport.channels, same] at member
      exact isNew member
    · rcases fits.found with found | ⟨-, -, made⟩
      · exact present found
      · exact short made
  have named : (fsmXprtProtoRead transport arrival).transport.connSpecInfo channel =
      some arrival.sender := by
    rw [read, init_info, Function.update_self]
  have listened := listen_iff given named
  have sameUnread : (fsmXprtProtoRead transport arrival).transport.unread = transport.unread := by
    rw [read, init_unread]
  rw [sameUnread] at listened
  constructor
  · intro right
    refine ⟨notEmpty, allocated, (listened.mp ⟨right.defined, right.own⟩).2,
      .inr ⟨fun known => ?_, vacant, made⟩⟩
    have longer := perm.symm.trans (read ▸ right.existing known)
    exact absurd longer.length_eq (by simp)
  intro fits
  have unknown : ¬ transport.Knows arrival.sender := by
    rcases fits.found with found | ⟨unknown, -, -⟩
    · exact absurd found present
    · exact unknown
  have right := listened.mpr ⟨by rw [read], fits.reads⟩
  constructor
  case defined => exact right.1
  case own => exact right.2
  case delivered =>
    refine ⟨channel, ?_, given, named⟩
    rw [read]
    exact perm.mem_iff.mpr mem_cons_self
  case existing => exact fun known => absurd known unknown
  case created => exact fun _ => ⟨channel, given, isNew, by rw [read]; exact perm⟩
  case kept =>
    intro other member
    have apart : other ≠ channel := by
      rintro rfl
      exact isNew member
    rw [read, init_info, Function.update_of_ne apart]

/-! ### Two senders of one bucket -/

def emptyUdp : UdpTransport :=
  .create 0 (fun _ => ⟨none, none⟩) (fun _ => ⟨0, 0⟩) fun _ => none

def datagramFrom (port : UInt16) (channel : Nat) : UdpArrival where
  sender := ⟨1, port⟩
  length := 8
  behind := []
  reads := [⟨8, .added⟩]
  detailsAllocated := true
  channelBlock := some channel
  threadFound := true
  msgQBoxCreated := true
  loopbackAdded := true
  safeRefAllocated := true

/-- The second of two senders with one hash value reaches no channel. -/
theorem colliding_sender_not_demultiplexed :
    ¬ Demultiplexed (fsmXprtProtoRead emptyUdp (datagramFrom 1 1)).transport (datagramFrom 12 2)
      (fsmXprtProtoRead (fsmXprtProtoRead emptyUdp (datagramFrom 1 1)).transport
        (datagramFrom 12 2)) := by
  intro right
  obtain ⟨channel, -, delivered, -⟩ := right.delivered
  cases delivered

end OpenFlowController.Transport
