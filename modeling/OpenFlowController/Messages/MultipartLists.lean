/-
Module: Messages.MultipartLists
Purpose: How the handlers of multipart replies walk over a list of records, by a count and a
  number of bytes from the length of the reply and the length that a record says of itself; when
  the loops end, and what they hand to a callback lies inside the reply.
Source: ofproto/src/messages/of_cntlr_msg.c 54-55, 105, 1629-1827, 1830-2076, 2137-2413,
  2560-2735; ofproto/src/messages/of_meter.c 630-716; ofproto/src/include/openflow.h
Trusted boundary: a handler stops as outside at the first byte that it reads behind the reply, and
  what says that a record is the last one is left out
-/
import OpenFlowController.Messages.FlowStatsReads
import OpenFlowController.Messages.GroupDescReads
import OpenFlowController.Messages.MeterEncoding

namespace OpenFlowController.Messages

open Include Library Meter

/-- A multipart reply in the buffer of its channel, of as many bytes as its header says. -/
structure MultipartReply where
  bytes : List UInt8
  header_le : 8 ≤ bytes.length
  fits : bytes.length < 2 ^ 16

/-- `sizeof(struct ofp_multipart_reply)`. -/
def sizeofOfpMultipartReply : Nat := 16

/-! ## Records -/

/-- What a handler does with the bytes behind the structure of a record. -/
inductive BodyKind where
  | skipped
  | buckets
  | bands
  | flow

/-- Where a record has its length, and how many bytes of it are counted before its body. -/
structure RecordRest where
  lengthAt : Nat
  counted : Nat
  kind : BodyKind

/-- The structure of a record: its size, offset and width of the fields that are read, in the
order in which they are, and its length, unless all records have the size. -/
structure RecordLayout where
  size : Nat
  fields : List (Nat × Nat)
  rest : Option RecordRest

/-- What the body of a record was decoded to. -/
inductive DecodedBody where
  | none
  | buckets (bucketList : List OfiBucket)
  | bands (meterBandList : List OfiMeterBand)
  | flow (info : OfiFlowEntryInfo)

/-- What the callback gets of a record, and where the record was found. -/
structure ListRecord where
  start : Nat
  length : Nat
  values : List Nat
  bodyStart : Nat
  bodyLength : Nat
  body : DecodedBody

/-- The bytes of a message under their offsets. -/
def memoryOf (msg : List UInt8) : ByteMemory := fun address => msg.getD address.toNat 0

/-- The decoder of a body, which is given the bytes from there to the end of the reply, and the
length of the body.  The handlers go on where it returns `OF_FAILURE`. -/
def decodeBody (host : ByteOrder) (heap : Heap) (fuel : Nat) (msg : List UInt8) (length : Nat) :
    BodyKind → Except Stop DecodedBody
  | .skipped => .ok .none
  | .buckets =>
    match bucketLoop host heap fuel (UInt32.ofNat length) ⟨msg, 0, 0⟩ [] with
    | (list, .ok ()) => .ok (.buckets list)
    | (list, .error (.failure _)) => .ok (.buckets list)
    | (_, .error stop) => .error stop
  | .bands =>
    match ofMeterFrameResponse (memoryOf msg) heap.entry fuel 0 length ⟨false, [], []⟩ with
    | none => .error .running
    | some response =>
      if ∀ read ∈ response.reads, read.start + read.count ≤ msg.length then
        .ok (.bands response.bands)
      else .error .outside
  | .flow => (flowStatsFrameResponeWithin host heap fuel msg length).map .flow

/-- The numbers that the fields of the record at `start` spell. -/
def readFields (reply : List UInt8) (start : Nat) : List (Nat × Nat) → Except Stop (List Nat)
  | [] => .ok []
  | (offset, width) :: fields => do
      let bytes ← peek reply (start + offset) width
      let values ← readFields reply start fields
      pure (netNat bytes :: values)

/-- What a handler makes of the bytes that the record has left. -/
def handleBody (host : ByteOrder) (heap : Heap) (fuel : Nat) (msg : List UInt8)
    (length : UInt16) (kind : BodyKind) : Except Stop DecodedBody :=
  if 0 < length then decodeBody host heap fuel msg length.toNat kind else .ok .none

/-- A round of a loop with the record at `start`, and what it adds to `read_bytes`. -/
def handleRecord (layout : RecordLayout) (host : ByteOrder) (heap : Heap) (fuel : Nat)
    (reply : List UInt8) (start : Nat) : Except Stop (ListRecord × UInt16) := do
  let values ← readFields reply start layout.fields
  match layout.rest with
  | none => pure (⟨start, layout.size, values, start, 0, .none⟩, UInt16.ofNat layout.size)
  | some rest => do
      let stated ← ntohsAt host reply (start + rest.lengthAt)
      let length := stated - UInt16.ofNat rest.counted
      let body ← handleBody host heap fuel (reply.drop (start + rest.counted)) length rest.kind
      pure (⟨start, max layout.size stated.toNat, values, start + rest.counted, length.toNat,
        body⟩, UInt16.ofNat rest.counted + length)

/-! ## The loops -/

/-- `(bytes_to_read - read_bytes) >= sizeof(..)`, a difference of `int` that is compared as a
`size_t`.  A loop over records of one size does not ask. -/
def RecordLayout.GoesOn (layout : RecordLayout) (bytesToRead readBytes : UInt16) : Prop :=
  layout.rest.isNone ∨
    (layout.size : Int) ≤ ((bytesToRead.toNat : Int) - readBytes.toNat) % 2 ^ 64

instance (layout : RecordLayout) (bytesToRead readBytes : UInt16) :
    Decidable (layout.GoesOn bytesToRead readBytes) :=
  inferInstanceAs (Decidable (_ ∨ _))

/-- The loop of a handler, with so many rounds to go and so many records behind it. -/
def recordLoop (layout : RecordLayout) (host : ByteOrder) (heaps : Nat → Heap) (fuel : Nat)
    (reply : List UInt8) (bytesToRead : UInt16) :
    Nat → Nat → UInt16 → List ListRecord → Except Stop (List ListRecord)
  | 0, _, _, list => .ok list
  | rounds + 1, number, readBytes, list =>
    if layout.GoesOn bytesToRead readBytes then do
      let (record, added) ← handleRecord layout host (heaps number) fuel reply
        (sizeofOfpMultipartReply + readBytes.toNat)
      recordLoop layout host heaps fuel reply bytesToRead rounds (number + 1)
        (readBytes + added) (list ++ [record])
    else .ok list

/-- `OF_MULTIPART_RPLY_MSG_NO_OF_DESC`, a `size_t` that is kept in a `uint32_t`. -/
def multipartRplyMsgNoOfDesc (length size : Nat) : Nat :=
  (length + 2 ^ 64 - sizeofOfpMultipartReply) % 2 ^ 64 / size % 2 ^ 32

/-- What the handlers have in common: the records that they hand to the callback. -/
def handleListResponse (layout : RecordLayout) (host : ByteOrder) (heaps : Nat → Heap)
    (fuel : Nat) (reply : MultipartReply) : Except Stop (List ListRecord) :=
  recordLoop layout host heaps fuel reply.bytes
    (UInt16.ofNat reply.bytes.length - UInt16.ofNat sizeofOfpMultipartReply)
    (multipartRplyMsgNoOfDesc reply.bytes.length layout.size) 0 0 []

/-- The types of multipart replies that are lists of records. -/
inductive MultipartList where
  | portDesc
  | portStats
  | table
  | flow
  | aggregate
  | groupDesc
  | group
  | groupFeatures
  | meterConfig
  | meter

/-- The structures of their records. -/
def MultipartList.layout : MultipartList → RecordLayout
  -- struct ofp_port, with all 16 bytes of the name
  | .portDesc => ⟨64, [(16, 16), (8, 6), (0, 4), (32, 4), (36, 4), (40, 4), (44, 4), (48, 4),
      (52, 4), (56, 4), (60, 4)], none⟩
  -- struct ofp_port_stats
  | .portStats => ⟨112, [(0, 4), (8, 8), (16, 8), (24, 8), (32, 8), (40, 8), (48, 8), (56, 8),
      (64, 8), (72, 8), (80, 8), (88, 8), (96, 8), (104, 4), (108, 4)], none⟩
  -- struct ofp_table_stats
  | .table => ⟨24, [(0, 1), (4, 4), (8, 8), (16, 8)], none⟩
  -- struct ofp_flow_stats, with the empty match that ends it
  | .flow => ⟨56, [(2, 1), (12, 2), (16, 2), (14, 2), (4, 4), (8, 4), (24, 8), (32, 8), (40, 8)],
      some ⟨0, 48, .flow⟩⟩
  -- struct ofp_aggregate_stats_reply
  | .aggregate => ⟨24, [(0, 8), (8, 8), (16, 4)], none⟩
  -- struct ofp_group_desc_stats
  | .groupDesc => ⟨8, [(4, 4), (2, 1)], some ⟨0, 8, .buckets⟩⟩
  -- struct ofp_group_stats
  | .group => ⟨40, [(4, 4), (8, 4), (32, 4), (36, 4), (16, 8), (24, 8)], some ⟨0, 40, .skipped⟩⟩
  -- struct ofp_group_features
  | .groupFeatures => ⟨40, [(0, 4), (4, 4), (8, 4), (12, 4), (16, 4), (20, 4), (24, 4), (28, 4),
      (32, 4), (36, 4)], none⟩
  -- struct ofp_meter_config
  | .meterConfig => ⟨8, [(4, 4), (2, 2)], some ⟨0, 8, .bands⟩⟩
  -- struct ofp_meter_stats
  | .meter => ⟨40, [(0, 4), (12, 4), (16, 8), (24, 8), (32, 4), (36, 4)], some ⟨4, 40, .skipped⟩⟩

def ofHandlePortStatusResponse := handleListResponse MultipartList.portDesc.layout
def ofHandlePortStatsResponse := handleListResponse MultipartList.portStats.layout
def ofHandleTableStatsResponse := handleListResponse MultipartList.table.layout
def ofHandleFlowEntryStatsResponse := handleListResponse MultipartList.flow.layout
def ofHandleAggregateStatsResponse := handleListResponse MultipartList.aggregate.layout
def ofHandleGroupDescResponse := handleListResponse MultipartList.groupDesc.layout
def ofHandleGroupStatsResponse := handleListResponse MultipartList.group.layout
def ofHandleGroupFeaturesResponse := handleListResponse MultipartList.groupFeatures.layout
def ofHandleMeterConfigResponse := handleListResponse MultipartList.meterConfig.layout
def ofHandleMeterStatsResponse := handleListResponse MultipartList.meter.layout

/-- The `switch` of `of_process_multipart_replymsg` on these types. -/
def MultipartList.respond : MultipartList →
    ByteOrder → (Nat → Heap) → Nat → MultipartReply → Except Stop (List ListRecord)
  | .portDesc => ofHandlePortStatusResponse
  | .portStats => ofHandlePortStatsResponse
  | .table => ofHandleTableStatsResponse
  | .flow => ofHandleFlowEntryStatsResponse
  | .aggregate => ofHandleAggregateStatsResponse
  | .groupDesc => ofHandleGroupDescResponse
  | .group => ofHandleGroupStatsResponse
  | .groupFeatures => ofHandleGroupFeaturesResponse
  | .meterConfig => ofHandleMeterConfigResponse
  | .meter => ofHandleMeterStatsResponse

open List

/-! ## What should hold -/

/-- Of the `room` behind the structure of a record, the body takes no more than there is. -/
def DecodedBody.Inside (room length : Nat) : DecodedBody → Prop
  | none => True
  | buckets _ | flow _ => length ≤ room
  | bands meterBandList => length ≤ room ∧ bandSize * meterBandList.length ≤ room

/-- The record lies inside a reply of so many bytes, and so does what its body holds. -/
structure ListRecord.Inside (record : ListRecord) (replyLength : Nat) : Prop where
  whole : record.start + record.length ≤ replyLength
  body : record.body.Inside (replyLength - record.bodyStart) record.bodyLength

/-- The handler comes to its end, having read only inside the reply, and so lies what it hands to
the callback. -/
def MultipartList.Safe (list : MultipartList) (host : ByteOrder) (heaps : Nat → Heap)
    (reply : MultipartReply) : Prop :=
  ∃ fuel records, list.respond host heaps fuel reply = .ok records ∧
    ∀ record ∈ records, record.Inside reply.bytes.length

/-! ## The condition -/

/-- The lengths in a body lead through it, inside the bytes that there are. -/
def ListBodyFits (host : ByteOrder) (heap : Heap) (msg : List UInt8) (length : Nat) :
    BodyKind → Prop
  | .skipped => True
  | .buckets => length ≤ msg.length ∧ Delimited host heap 0 length ⟨msg, 0, 0⟩
  | .bands => length ≤ msg.length ∧ ∃ stop, StopsAt heap.entry length stop ∧
      (∀ earlier < stop, ¬ StopsAt heap.entry length earlier) ∧ bandSize * stop ≤ msg.length
  | .flow => length ≤ msg.length ∧ FlowFitsWithin host heap msg length

/-- What a record says its length is. -/
def RecordRest.statedAt (rest : RecordRest) (reply : List UInt8) (start : Nat) : UInt16 :=
  word16 (slice reply (start + rest.lengthAt) 2)

/-- How many bytes the handler takes for the body. -/
def RecordRest.bodyLength (rest : RecordRest) (reply : List UInt8) (start : Nat) : UInt16 :=
  rest.statedAt reply start - UInt16.ofNat rest.counted

/-- The record is inside the reply, and its body fits. -/
def RecordLayout.RecordFits (layout : RecordLayout) (host : ByteOrder) (heap : Heap)
    (reply : List UInt8) (start : Nat) : Prop :=
  start + layout.size ≤ reply.length ∧
    ∀ rest ∈ layout.rest, start + (rest.statedAt reply start).toNat ≤ reply.length ∧
      (0 < rest.bodyLength reply start →
        ListBodyFits host heap (reply.drop (start + rest.counted))
          (rest.bodyLength reply start).toNat rest.kind)

/-- What a record adds to `read_bytes`. -/
def RecordLayout.added (layout : RecordLayout) (reply : List UInt8) (start : Nat) : UInt16 :=
  match layout.rest with
  | none => UInt16.ofNat layout.size
  | some rest => UInt16.ofNat rest.counted + rest.bodyLength reply start

/-- Every record that the loop comes to fits. -/
def RecordLayout.RecordsFit (layout : RecordLayout) (host : ByteOrder) (heaps : Nat → Heap)
    (reply : List UInt8) (bytesToRead : UInt16) : Nat → Nat → UInt16 → Prop
  | 0, _, _ => True
  | rounds + 1, number, readBytes =>
    layout.GoesOn bytesToRead readBytes →
      layout.RecordFits host (heaps number) reply (sizeofOfpMultipartReply + readBytes.toNat) ∧
      layout.RecordsFit host heaps reply bytesToRead rounds (number + 1)
        (readBytes + layout.added reply (sizeofOfpMultipartReply + readBytes.toNat))

/-- Every record of the reply that the handler comes to fits. -/
def MultipartList.Fits (list : MultipartList) (host : ByteOrder) (heaps : Nat → Heap)
    (reply : MultipartReply) : Prop :=
  list.layout.RecordsFit host heaps reply.bytes
    (UInt16.ofNat reply.bytes.length - UInt16.ofNat sizeofOfpMultipartReply)
    (multipartRplyMsgNoOfDesc reply.bytes.length list.layout.size) 0 0

/-! ## Bodies -/

section Body

variable {host : ByteOrder} {heap : Heap} {fuel length : Nat} {msg : List UInt8}
  {body : DecodedBody}

theorem counts_of_lengths (small : msg.length < 2 ^ 16) (short : length < 2 ^ 16) :
    Counts (UInt32.ofNat length) length ⟨msg, 0, 0⟩ where
  value := by
    rw [UInt32.toNat_ofNat']
    omega
  high := by omega
  low := by omega
  msg := .inr (by change (msg.length : Int) ≤ _; omega)

theorem bucketLoop_failed {msgLength : UInt32} {cursor : Cursor} {list list' : List OfiBucket}
    {leaked : Nat}
    (failed : bucketLoop host heap fuel msgLength cursor list = (list', .error (.failure leaked))) :
    Settled heap (list', .error (.failure leaked)) := by
  induction fuel generalizing msgLength cursor list with
  | zero => cases failed
  | succ fuel ih =>
  by_cases positive : 0 < msgLength
  · cases result : ofGroupFrameBucketResponse host heap fuel list.length cursor with
    | error stop =>
      rw [bucketLoop_stop fuel positive result] at failed
      cases failed
      rcases bucketResponse_inv result with ⟨memory, is⟩ | ⟨_, clean, _⟩
      · cases is
        exact .inr ⟨memory, rfl⟩
      · exact absurd rfl (clean leaked)
    | ok answer =>
      rw [bucketLoop_bucket fuel positive result] at failed
      exact ih failed
  · rw [bucketLoop_done fuel positive] at failed
    cases failed

theorem response_mono {memory : ByteMemory} {allocated : Nat → Bool} {index : Nat}
    {response out : MeterResponse} {more : Nat} (enough : fuel ≤ more)
    (ran : ofMeterFrameResponse memory allocated fuel index length response = some out) :
    ofMeterFrameResponse memory allocated more index length response = some out := by
  induction fuel generalizing more index length response with
  | zero => cases ran
  | succ fuel ih =>
  obtain ⟨more, rfl⟩ : ∃ less, more = less + 1 := ⟨more - 1, by omega⟩
  rw [ofMeterFrameResponse] at ran ⊢
  split at ran
  · rwa [if_pos ‹_›]
  rw [if_neg ‹_›]
  split at ran
  · rwa [if_pos ‹_›]
  · rw [if_neg ‹_›]
    exact ih (by omega) ran

theorem decodeBands_eq {response : MeterResponse} :
    ofMeterFrameResponse (memoryOf msg) heap.entry fuel 0 length ⟨false, [], []⟩ = some response →
      decodeBody host heap fuel msg length .bands =
        if ∀ read ∈ response.reads, read.start + read.count ≤ msg.length then
          .ok (.bands response.bands)
        else .error .outside := by
  intro ran
  unfold decodeBody
  rw [ran]

theorem bands_responseAt {memory : ByteMemory} {count : Nat} :
    (responseAt memory length count).bands.length = count := by
  simp [responseAt, bandsRead]

theorem reads_inside {stop : Nat} (inside : bandSize * stop ≤ msg.length) :
    ∀ read ∈ (responseAt (memoryOf msg) length stop).reads,
      read.start + read.count ≤ msg.length := by
  intro read member
  obtain ⟨index, low, rfl⟩ := mem_reads_iff.mp member
  have few := (bandReads_bounds (word16 ((memoryOf msg).slice (bandSize * index : Nat) 2))).2
  have next : bandSize * index + bandSize ≤ bandSize * stop := Nat.mul_le_mul_left bandSize low
  have sixteen : bandSize = 16 := rfl
  dsimp only
  omega

/-- A body decoded inside the message fits. -/
theorem fits_of_decoded {kind : BodyKind} (small : msg.length < 2 ^ 16) (short : length < 2 ^ 16)
    (decoded : decodeBody host heap fuel msg length kind = .ok body)
    (inside : body.Inside msg.length length) : ListBodyFits host heap msg length kind := by
  cases kind with
  | skipped => trivial
  | buckets =>
    unfold decodeBody at decoded
    cases ran : bucketLoop host heap fuel (UInt32.ofNat length) ⟨msg, 0, 0⟩ [] with
    | mk list ended =>
    rw [ran] at decoded
    have settled : Settled heap (bucketLoop host heap fuel (UInt32.ofNat length)
        ⟨msg, 0, 0⟩ []) ∧ body = .buckets list := by
      rw [ran]
      match ended with
      | .ok () =>
        cases decoded
        exact ⟨.inl rfl, rfl⟩
      | .error (.failure leaked) =>
        cases decoded
        exact ⟨bucketLoop_failed ran, rfl⟩
    obtain ⟨settled, rfl⟩ := settled
    exact ⟨inside, delimited_of_settled (counts_of_lengths small short) settled⟩
  | bands =>
    cases ran : ofMeterFrameResponse (memoryOf msg) heap.entry fuel 0 length ⟨false, [], []⟩ with
    | none =>
      unfold decodeBody at decoded
      rw [ran] at decoded
      cases decoded
    | some response =>
    rw [decodeBands_eq ran] at decoded
    split at decoded
    case isFalse => cases decoded
    case isTrue reads =>
    cases decoded
    have same : (UInt32.ofNat length).toNat = length := by
      rw [UInt32.toNat_ofNat']
      omega
    rw [← same] at ran
    obtain ⟨stop, stops, first, rfl⟩ := (response_iff _ _ _ _).mp ⟨fuel, ran⟩
    rw [same] at stops first
    refine ⟨inside.1, stop, stops, first, ?_⟩
    have counted := @bands_responseAt (UInt32.ofNat length).toNat (memoryOf msg) stop
    exact counted ▸ inside.2
  | flow =>
  unfold decodeBody at decoded
  cases ran : flowStatsFrameResponeWithin host heap fuel msg length with
  | error stop =>
    rw [ran] at decoded
    cases decoded
  | ok info =>
  rw [ran] at decoded
  cases decoded
  exact ⟨inside, flowFitsWithin_of_ok (by omega) inside (by omega) ran⟩

/-- A body that fits is decoded. -/
theorem decoded_of_fits {kind : BodyKind} (small : msg.length < 2 ^ 16) (short : length < 2 ^ 16)
    (fits : ListBodyFits host heap msg length kind) :
    ∃ enough, ∀ fuel, enough ≤ fuel →
      ∃ body, decodeBody host heap fuel msg length kind = .ok body ∧
        body.Inside msg.length length := by
  cases kind with
  | skipped => exact ⟨0, fun _ _ => ⟨.none, rfl, trivial⟩⟩
  | buckets =>
    obtain ⟨inside, delimited⟩ := fits
    obtain ⟨enough, ends⟩ := settled_of_delimited delimited [] rfl (UInt32.ofNat length)
      (counts_of_lengths small short)
    refine ⟨enough, fun fuel many => ?_⟩
    have settled := ends fuel many
    unfold decodeBody
    generalize bucketLoop host heap fuel (UInt32.ofNat length) ⟨msg, 0, 0⟩ [] = ran at settled
    obtain ⟨list, ended⟩ := ran
    refine ⟨.buckets list, ?_, inside⟩
    rcases settled with success | ⟨_, failure⟩
    · cases success
      rfl
    · cases failure
      rfl
  | bands =>
    obtain ⟨inside, stop, stops, first, room⟩ := fits
    have same : (UInt32.ofNat length).toNat = length := by
      rw [UInt32.toNat_ofNat']
      omega
    rw [← same] at stops first
    obtain ⟨enough, ran⟩ := (response_iff (memoryOf msg) heap.entry (UInt32.ofNat length) _).mpr
      ⟨stop, stops, first, rfl⟩
    rw [same] at ran
    have counted := @bands_responseAt length (memoryOf msg) stop
    refine ⟨enough, fun fuel many =>
      ⟨.bands (responseAt (memoryOf msg) length stop).bands, ?_, inside, counted.symm ▸ room⟩⟩
    rw [decodeBands_eq (response_mono many ran), if_pos (reads_inside room)]
  | flow =>
  obtain ⟨inside, fits⟩ := fits
  obtain ⟨info, enough, ends⟩ := flow_of_fitsWithin (by omega) inside fits
  refine ⟨enough, fun fuel many => ⟨.flow info, ?_, inside⟩⟩
  unfold decodeBody
  rw [ends fuel many]
  rfl

end Body

/-! ## Records -/

/-- The fields and the length of a record lie in its structure. -/
def RecordLayout.Sound (layout : RecordLayout) : Prop :=
  (∀ field ∈ layout.fields, field.1 + field.2 ≤ layout.size) ∧
    ∀ rest ∈ layout.rest, rest.lengthAt + 2 ≤ layout.size

variable (list : MultipartList)

theorem MultipartList.layout_sound : list.layout.Sound := by
  unfold RecordLayout.Sound
  cases list <;> decide

section Record

variable {layout : RecordLayout} {host : ByteOrder} {heap : Heap} {fuel start : Nat}
  {reply : List UInt8}

theorem readFields_ok {fields : List (Nat × Nat)} {size : Nat}
    (sound : ∀ field ∈ fields, field.1 + field.2 ≤ size) (inside : start + size ≤ reply.length) :
    ∃ values, readFields reply start fields = .ok values := by
  induction fields with
  | nil => exact ⟨[], rfl⟩
  | cons field fields ih =>
  obtain ⟨values, read⟩ := ih fun other member => sound other (mem_cons_of_mem _ member)
  have here := sound field mem_cons_self
  refine ⟨netNat (slice reply (start + field.1) field.2) :: values, ?_⟩
  rw [readFields, peek, if_pos (by omega), read]
  rfl

/-- A record handled inside the reply fits. -/
theorem fits_of_handled (small : reply.length < 2 ^ 16) {record : ListRecord} {added : UInt16}
    (handled : handleRecord layout host heap fuel reply start = .ok (record, added))
    (inside : record.Inside reply.length) :
    layout.RecordFits host heap reply start ∧ added = layout.added reply start := by
  obtain ⟨values, -, handled⟩ := bind_eq_ok.mp handled
  unfold RecordLayout.RecordFits RecordLayout.added
  cases has : layout.rest with
  | none =>
    rw [has] at handled
    cases handled
    exact ⟨⟨inside.whole, nofun⟩, rfl⟩
  | some rest =>
  rw [has] at handled
  obtain ⟨stated, read, handled⟩ := bind_eq_ok.mp handled
  obtain ⟨body, decoded, handled⟩ := bind_eq_ok.mp handled
  cases handled
  have same : stated = rest.statedAt reply start := reads_ntohsAt.eq_of_ok read
  subst same
  have whole := inside.whole
  dsimp only at whole
  refine ⟨⟨by omega, ?_⟩, rfl⟩
  rintro _ ⟨⟩
  refine ⟨by omega, fun some_ => ?_⟩
  have is : 0 < rest.statedAt reply start - UInt16.ofNat rest.counted := some_
  rw [handleBody, if_pos is] at decoded
  apply fits_of_decoded _ (UInt16.toNat_lt _) decoded
  · rw [length_drop]
    exact inside.body
  · rw [length_drop]
    omega

/-- A record that fits is handled. -/
theorem handled_of_fits (sound : layout.Sound) (small : reply.length < 2 ^ 16)
    (fits : layout.RecordFits host heap reply start) :
    ∃ enough, ∀ fuel, enough ≤ fuel → ∃ record,
      handleRecord layout host heap fuel reply start = .ok (record, layout.added reply start) ∧
        record.Inside reply.length := by
  obtain ⟨inside, body⟩ := fits
  obtain ⟨values, read⟩ := readFields_ok sound.1 inside
  unfold handleRecord RecordLayout.added
  rw [read]
  cases has : layout.rest with
  | none => exact ⟨0, fun _ _ => ⟨_, rfl, inside, trivial⟩⟩
  | some rest =>
  obtain ⟨whole, fits⟩ := body rest has
  have low := sound.2 rest has
  have stated : ntohsAt host reply (start + rest.lengthAt) =
      .ok (rest.statedAt reply start) := reads_ntohsAt.ok (by omega)
  have decoded : ∃ enough, ∀ fuel, enough ≤ fuel → ∃ body,
      handleBody host heap fuel (reply.drop (start + rest.counted))
        (rest.bodyLength reply start) rest.kind = .ok body ∧
      body.Inside (reply.length - (start + rest.counted)) (rest.bodyLength reply start).toNat := by
    by_cases some_ : 0 < rest.bodyLength reply start
    · simp only [handleBody, if_pos some_]
      rw [← length_drop]
      exact decoded_of_fits (by rw [length_drop]; omega) (UInt16.toNat_lt _) (fits some_)
    · simp only [handleBody, if_neg some_]
      exact ⟨0, fun _ _ => ⟨.none, rfl, trivial⟩⟩
  obtain ⟨enough, decoded⟩ := decoded
  refine ⟨enough, fun fuel many => ?_⟩
  obtain ⟨body, decoded, held⟩ := decoded fuel many
  refine ⟨⟨start, max layout.size (rest.statedAt reply start).toNat, values,
    start + rest.counted, (rest.bodyLength reply start).toNat, body⟩, ?_, ?_, held⟩
  · dsimp only [bind, Except.bind]
    rw [stated]
    dsimp only
    rw [← RecordRest.bodyLength, decoded]
    rfl
  · dsimp only
    omega

end Record

/-! ## Replies -/

section Reply

variable {layout : RecordLayout} {host : ByteOrder} {heaps : Nat → Heap} {fuel : Nat}
  {reply : List UInt8} {bytesToRead readBytes : UInt16} {rounds number : Nat}

theorem recordsFit_of_loop (small : reply.length < 2 ^ 16) {list records : List ListRecord}
    (ended : recordLoop layout host heaps fuel reply bytesToRead rounds number readBytes list =
      .ok records) (inside : ∀ record ∈ records, record.Inside reply.length) :
    layout.RecordsFit host heaps reply bytesToRead rounds number readBytes ∧
      ∀ record ∈ list, record ∈ records := by
  induction rounds generalizing number readBytes list with
  | zero =>
    cases ended
    exact ⟨trivial, fun _ member => member⟩
  | succ rounds ih =>
  unfold recordLoop at ended
  by_cases goesOn : layout.GoesOn bytesToRead readBytes
  · rw [if_pos goesOn] at ended
    obtain ⟨⟨record, added⟩, handled, ended⟩ := bind_eq_ok.mp ended
    obtain ⟨rest, kept⟩ := ih ended
    have here := kept record (mem_append_right _ mem_cons_self)
    obtain ⟨fits, rfl⟩ := fits_of_handled small handled (inside record here)
    exact ⟨fun _ => ⟨fits, rest⟩, fun other member => kept other (mem_append_left _ member)⟩
  · rw [if_neg goesOn] at ended
    cases ended
    exact ⟨fun goes => absurd goes goesOn, fun _ member => member⟩

theorem loop_of_recordsFit (sound : layout.Sound) (small : reply.length < 2 ^ 16)
    (fits : layout.RecordsFit host heaps reply bytesToRead rounds number readBytes) :
    ∃ enough, ∀ fuel, enough ≤ fuel → ∀ list : List ListRecord,
      (∀ record ∈ list, record.Inside reply.length) → ∃ records,
        recordLoop layout host heaps fuel reply bytesToRead rounds number readBytes list =
          .ok records ∧ ∀ record ∈ records, record.Inside reply.length := by
  induction rounds generalizing number readBytes with
  | zero => exact ⟨0, fun _ _ list inside => ⟨list, rfl, inside⟩⟩
  | succ rounds ih =>
  unfold recordLoop
  by_cases goesOn : layout.GoesOn bytesToRead readBytes
  · obtain ⟨here, rest⟩ := fits goesOn
    obtain ⟨first, handled⟩ := handled_of_fits sound small here
    obtain ⟨further, ends⟩ := ih rest
    refine ⟨max first further, fun fuel many list inside => ?_⟩
    obtain ⟨record, is, within⟩ := handled fuel (by omega)
    rw [if_pos goesOn, is]
    apply ends fuel (by omega)
    intro other member
    rcases mem_append.mp member with old | new
    · exact inside other old
    · rw [mem_singleton.mp new]
      exact within
  · refine ⟨0, fun fuel _ list inside => ⟨list, ?_, inside⟩⟩
    rw [if_neg goesOn]

end Reply

theorem MultipartList.respond_eq : list.respond = handleListResponse list.layout := by
  cases list <;> rfl

/-- A handler comes to its end, and what it hands to the callback lies inside the reply, if and
only if every record that its loop comes to fits. -/
theorem multipart_list_inside_iff (list : MultipartList) (host : ByteOrder)
    (heaps : Nat → Heap) (reply : MultipartReply) :
    list.Safe host heaps reply ↔ list.Fits host heaps reply := by
  unfold MultipartList.Safe
  rw [list.respond_eq]
  constructor
  · rintro ⟨fuel, records, ended, inside⟩
    exact (recordsFit_of_loop reply.fits ended inside).1
  · intro fits
    obtain ⟨enough, ends⟩ := loop_of_recordsFit list.layout_sound reply.fits fits
    obtain ⟨records, ended, inside⟩ := ends enough (Nat.le_refl _) [] nofun
    exact ⟨enough, records, ended, inside⟩

/-- A reply with the statistics of two meters, the first of which says that its length is 200. -/
def longMeter : MultipartReply where
  bytes := [4, 19, 0, 96, 0, 0, 0, 1, 0, 9, 0, 0, 0, 0, 0, 0, 0, 0, 0, 1, 0, 200] ++
    List.replicate 74 0
  header_le := by decide
  fits := by decide

/-- The loop goes on behind the reply, where it reads the second record. -/
theorem meter_stats_beyond_reply :
    ¬ MultipartList.meter.Safe .bigEndian (fun _ => ⟨fun _ => true, fun _ => true⟩) longMeter := by
  rintro ⟨fuel, records, ended, inside⟩
  obtain ⟨fits, -⟩ := recordsFit_of_loop longMeter.fits ended inside
  have whole := ((fits (by decide)).1.2 ⟨4, 40, .skipped⟩ rfl).1
  exact absurd whole (by decide)

end OpenFlowController.Messages
