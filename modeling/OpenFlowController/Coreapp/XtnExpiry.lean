/-
Module: Coreapp.XtnExpiry
Purpose: The expiry of multipart requests with the callback types it calls through, and the life
  of a transaction record after it left the table.  When a request is completed by its expiry or
  its final reply and never by both, and no timer callback runs for it after a reply.
Source: ofproto/src/coreapp/cntlr_xtn.c, utils/timer.c, include/of_multipart.h,
  include/of_msgapi.h, ofproto/src/messages/of_cntlr_2_sw_msgapi.c
Trusted boundary: the record of a message that could not be sent is not followed after it was
  deleted
-/
import OpenFlowController.Coreapp.XtnMatching

namespace OpenFlowController.Coreapp

open Include Library

/-- The types of the callbacks that the interfaces for multipart requests take. -/
inductive MultipartCallback where
  | switchInfo
  | flowEntryStats
  | aggregateStats
  | tableStats
  | portStats
  | groupStats
  | groupDesc
  | groupFeatures
  | meterStats
  | meterConfig
  | meterFeatures
  | tableFeatures
  | portDesc
  | bindStats
deriving DecidableEq

/-- The cases of `clean_multipart_req_msgs` that call a callback, with the type each
casts it to.  The cases of `OFPMP_QUEUE` and `OFPMP_EXPERIMENTER` only log. -/
def expiryCase (subtype : UInt16) : Option MultipartCallback :=
  if subtype = Ofpmp.portDesc then some .portDesc
  else if subtype = Ofpmp.portStats then some .portStats
  else if subtype = Ofpmp.table then some .tableStats
  else if subtype = Ofpmp.flow then some .flowEntryStats
  else if subtype = Ofpmp.aggregate then some .aggregateStats
  else if subtype = Ofpmp.groupDesc then some .groupDesc
  else if subtype = Ofpmp.group then some .groupStats
  else if subtype = Ofpmp.groupFeatures then some .groupFeatures
  else if subtype = Ofpmp.tableFeatures then some .tableFeatures
  else if subtype = Ofpmp.desc then some .switchInfo
  else if subtype = Ofpmp.meterConfig then some .meterConfig
  else if subtype = Ofpmp.meter then some .meterStats
  else if subtype = Ofpmp.meterFeatures then some .meterFeatures
  else none

def ofResponseStatusError : UInt8 := 2

/-- An error call of an application callback.  The other arguments are the
controller's handle, zeros and null pointers, and `TRUE` where the callback takes a
more-to-come flag. -/
structure ErrorCall where
  record : TransactnRec
  callback : Option Nat
  type : MultipartCallback
  dpHandle : UInt64
  status : UInt8
deriving DecidableEq

/-- The call made for a record through a callback type; that of a switch
description passes zero for the datapath. -/
def TransactnRec.errorCall (record : TransactnRec) (type : MultipartCallback) : ErrorCall where
  record := record
  callback := record.callbackFn
  type := type
  dpHandle := if type = .switchInfo then 0 else record.dpHandle
  status := ofResponseStatusError

/-- `clean_multipart_req_msgs`, for the records `cntlr_xtn_recrod_cleanup_func` hands
it.  The sub-type was recorded as it stands in the message. -/
def cleanMultipartReqMsgs (record : TransactnRec) : List ErrorCall :=
  if record.msgType = Ofpt.multipartRequest then
    match expiryCase record.msgSubtype with
    | some type => [record.errorCall type]
    | none => []
  else
    []

theorem expiryCase_isSome (subtype : UInt16) :
    (expiryCase subtype).isSome = multipartCase subtype := by
  by_cases inRange : subtype ≤ Ofpmp.portDesc
  · have below : subtype.toNat < 14 := Nat.lt_succ_of_le (UInt16.le_iff_toNat_le.mp inRange)
    have each : ∀ number < 14,
        (expiryCase (UInt16.ofNat number)).isSome = multipartCase (UInt16.ofNat number) := by
      decide
    have known := each subtype.toNat below
    rwa [UInt16.ofNat_toNat] at known
  have apart : ∀ case : UInt16, case ≤ Ofpmp.portDesc → subtype ≠ case := by
    intro case small same
    exact inRange (same ▸ small)
  have none : expiryCase subtype = none := by
    simp only [expiryCase, apart Ofpmp.portDesc (by decide), apart Ofpmp.portStats (by decide),
      apart Ofpmp.table (by decide), apart Ofpmp.flow (by decide),
      apart Ofpmp.aggregate (by decide), apart Ofpmp.groupDesc (by decide),
      apart Ofpmp.group (by decide), apart Ofpmp.groupFeatures (by decide),
      apart Ofpmp.tableFeatures (by decide), apart Ofpmp.desc (by decide),
      apart Ofpmp.meterConfig (by decide), apart Ofpmp.meter (by decide),
      apart Ofpmp.meterFeatures (by decide), if_false]
  simp [none, multipartCase, inRange]

/-! ## Records after they left the table -/

/-- The table with what became of its records: those whose timers run although they
left the table, those a reply removed, those that expired in the table, and the runs
of the timer callback with the error calls they made. -/
structure XtnLives where
  table : XtnTable
  retired : List TransactnRec
  answered : List TransactnRec
  expired : List TransactnRec
  timerRuns : List TransactnRec
  errorCalls : List ErrorCall

def XtnLives.create (host : ByteOrder) (hashTableInitValue : UInt32) : XtnLives where
  table := XtnTable.create host hashTableInitValue
  retired := []
  answered := []
  expired := []
  timerRuns := []
  errorCalls := []

/-- What happens to the table.  `stopped` is `cntlr_free_xtn_node_rcu`, which runs
after a grace period, once its stop of the timer has taken effect. -/
inductive XtnLifeEvent where
  | send (request : XtnRequest)
  | reply (datapath : XtnDatapath) (xid : UInt32) (reply : XtnReply)
  | timeout (recNo : Nat)
  | stopped (recNo : Nat)

/-- The table after a reply; the records it took out keep their timers. -/
def XtnLives.replied (lives : XtnLives) (after : XtnTable) : XtnLives :=
  { lives with
    table := after
    retired := lives.retired ++ lives.table.timers.filter fun record => record ∉ after.timers
    answered :=
      lives.answered ++ lives.table.records.filter fun record => record ∉ after.records }

def xtnLifeStep (lives : XtnLives) : XtnLifeEvent → XtnLives
  | .send request => { lives with table := (cntlrSendMsgToDp lives.table request).1 }
  | .reply datapath xid reply => lives.replied (handleReply lives.table xid datapath reply).1
  | .timeout recNo =>
    match lives.table.timers.find? fun record => record.recNo = recNo with
    | some record =>
      { lives with
        table := (cntlrXtnRecrodCleanupFunc lives.table recNo).1
        expired := lives.expired ++ if record ∈ lives.table.records then [record] else []
        timerRuns := lives.timerRuns ++ [record]
        errorCalls := lives.errorCalls ++ cleanMultipartReqMsgs record }
    | none =>
      match lives.retired.find? fun record => record.recNo = recNo with
      | some record =>
        -- the reference stored in the record is not honoured any more
        { lives with
          retired := lives.retired.filter fun other => other.recNo ≠ recNo
          timerRuns := lives.timerRuns ++ [record]
          errorCalls := lives.errorCalls ++ cleanMultipartReqMsgs record }
      | none => lives
  | .stopped recNo =>
    { lives with retired := lives.retired.filter fun other => other.recNo ≠ recNo }

open List

/-! ## What completion says -/

/-- The timers of the multipart requests in the table run. -/
def XtnTable.Watched (table : XtnTable) : Prop :=
  ∀ record ∈ table.records, record.msgType = Ofpt.multipartRequest → record ∈ table.timers

/-- The callback type that the interface for requests of a multipart type takes; no
interface issues requests of the other types. -/
def requestCallback (type : UInt16) : Option MultipartCallback :=
  if type = Ofpmp.experimenter then some .bindStats else expiryCase type

/-- Every multipart request that expired in the table made exactly one error call,
that of the interface that issued it, and left the table; no timer callback ran for
one that a reply took out first; and those in the table will expire. -/
structure MultipartCompleted (lives : XtnLives) : Prop where
  watched : lives.table.Watched
  expired : ∀ record ∈ lives.expired, record.msgType = Ofpt.multipartRequest →
    ∀ type ∈ requestCallback (ntohs lives.table.host record.msgSubtype),
      record ∉ lives.table.records ∧ record.callbackFn ≠ none ∧
        lives.errorCalls.filter (fun call => call.record = record) = [record.errorCall type]
  answered : ∀ record ∈ lives.answered, record.msgType = Ofpt.multipartRequest →
    record ∉ lives.timerRuns

/-- A multipart request is recorded and sent although its timer could not be started, with
another error than `OF_FAILURE`. -/
def XtnRequest.Unwatched (request : XtnRequest) : Prop :=
  request.type = Ofpt.multipartRequest ∧ request.outcomes.timer = .otherError ∧ request.Goes

/-- Of the messages that are sent up to the first that fails, none is unwatched. -/
def WatchesAll : List XtnRequest → Prop
  | [] => True
  | request :: rest => ¬ request.Unwatched ∧ (request.Goes → WatchesAll rest)

/-- A request that is sent, also behind a barrier, has its timer started or fails.  A request that
expires in the table has a callback, and asks for a switch description, or is no experimenter
request and the host is big endian; and no timer of a multipart request expires after a reply took
it out of the table. -/
def XtnLifeEvent.Completes (lives : XtnLives) : XtnLifeEvent → Prop
  | .send request => ¬ request.Unwatched
  | .reply datapath xid (.barrierReply queued _) =>
    cntlrGetXtnDetails lives.table xid datapath ≠ none → WatchesAll (takeThroughBarrier queued)
  | .timeout recNo =>
    (∀ record ∈ lives.table.records, record.recNo = recNo →
      record.msgType = Ofpt.multipartRequest →
      requestCallback (ntohs lives.table.host record.msgSubtype) ≠ none →
        record.callbackFn ≠ none ∧
          (record.msgSubtype = Ofpmp.desc ∨
            lives.table.host = .bigEndian ∧ record.msgSubtype ≠ Ofpmp.experimenter)) ∧
    ∀ record ∈ lives.retired, record.recNo = recNo → record ∈ lives.answered →
      record.msgType ≠ Ofpt.multipartRequest
  | _ => True

/-! ## The byte order -/

theorem ntohs_involutive (host : ByteOrder) (field : UInt16) :
    ntohs host (ntohs host field) = field := by
  cases host with
  | bigEndian => rfl
  | littleEndian =>
  apply UInt16.toBitVec_inj.mp
  apply BitVec.eq_of_getElem_eq
  intro bit bound
  have beyond : field.toBitVec.getLsbD (8 + (8 + bit)) = false :=
    BitVec.getLsbD_of_ge _ _ (by omega)
  by_cases low : bit < 8
  · have shifted : 8 + bit < 16 ∧ ¬ 8 + bit < 8 := by omega
    simp [ntohs, low, beyond, shifted]
  · have shifted : bit - 8 < 8 ∧ ¬ 8 + bit < 16 ∧ 8 + (bit - 8) = bit := by omega
    simp [ntohs, low, beyond, shifted, BitVec.getLsbD_eq_getElem bound]

variable {callback : MultipartCallback}

theorem requestCallback_cases {type : UInt16} (issued : requestCallback type = some callback) :
    type.toNat < 14 ∨ type = Ofpmp.experimenter := by
  by_cases experimenter : type = Ofpmp.experimenter
  · exact .inr experimenter
  left
  rw [requestCallback, if_neg experimenter] at issued
  have case : multipartCase type = true := by
    rw [← expiryCase_isSome, issued]
    rfl
  have inRange : type ≤ Ofpmp.portDesc := by
    simp only [multipartCase, Bool.and_eq_true, decide_eq_true_eq] at case
    exact case.1
  exact Nat.lt_succ_of_le (UInt16.le_iff_toNat_le.mp inRange)

/-- The case taken at the expiry is that of the interface exactly for switch
descriptions, and on a big endian host for all but the experimenter requests. -/
theorem expiryCase_fits_iff {host : ByteOrder} {subtype : UInt16}
    (issued : requestCallback (ntohs host subtype) = some callback) :
    expiryCase subtype = some callback ↔
      subtype = Ofpmp.desc ∨ host = .bigEndian ∧ subtype ≠ Ofpmp.experimenter := by
  cases host with
  | bigEndian =>
    change requestCallback subtype = some callback at issued
    by_cases experimenter : subtype = Ofpmp.experimenter
    · rw [experimenter]
      have none : expiryCase Ofpmp.experimenter = none := by decide
      rw [none]
      simp [Ofpmp.desc, Ofpmp.experimenter]
    · rw [requestCallback, if_neg experimenter] at issued
      simp [issued, experimenter]
  | littleEndian =>
  have swapped := ntohs_involutive .littleEndian subtype
  generalize ntohs .littleEndian subtype = type at issued swapped
  have each : ∀ number < 14,
      ntohs .littleEndian (UInt16.ofNat number) ≠ Ofpmp.desc →
        expiryCase (ntohs .littleEndian (UInt16.ofNat number)) = none := by decide
  rw [← swapped]
  rcases requestCallback_cases issued with known | experimenter
  · by_cases isDesc : ntohs .littleEndian type = Ofpmp.desc
    · have typeDesc : type = Ofpmp.desc := by
        rw [← ntohs_involutive .littleEndian type, isDesc]
        decide
      rw [typeDesc] at issued ⊢
      simp only [requestCallback] at issued
      have same : ntohs .littleEndian Ofpmp.desc = Ofpmp.desc := by decide
      rw [same]
      have notExperimenter : Ofpmp.desc ≠ Ofpmp.experimenter := by decide
      rw [if_neg notExperimenter] at issued
      simp [issued]
    · have none := each type.toNat known
      rw [UInt16.ofNat_toNat] at none
      rw [none isDesc]
      simp [isDesc]
  · rw [experimenter]
    have none : expiryCase (ntohs .littleEndian Ofpmp.experimenter) = none := by decide
    have apart : ntohs .littleEndian Ofpmp.experimenter ≠ Ofpmp.desc := by decide
    rw [none]
    simp [apart]

/-! ## Records and timers -/

/-- The records and timers have numbers below the next one, no number names two timers, and a
timer with the number of a record in the table is its own. -/
structure XtnTable.Timed (table : XtnTable) : Prop where
  older : ∀ record ∈ table.records, record.recNo < table.nextRec
  below : ∀ record ∈ table.timers, record.recNo < table.nextRec
  distinct : (table.timers.map TransactnRec.recNo).Nodup
  own : ∀ record ∈ table.records, ∀ timer ∈ table.timers,
    timer.recNo = record.recNo → timer = record

/-- What the later table has of the earlier one: nothing comes back, and a record
that is gone has no timer in the table. -/
structure XtnTable.Carries (table later : XtnTable) : Prop where
  host : later.host = table.host
  nextRec : table.nextRec ≤ later.nextRec
  records : ∀ record ∈ later.records, record ∈ table.records ∨ table.nextRec ≤ record.recNo
  timers : ∀ record ∈ later.timers, record ∈ table.timers ∨ table.nextRec ≤ record.recNo
  gone : ∀ record ∈ table.records, record ∈ later.records ∨
    ∀ timer ∈ later.timers, timer.recNo ≠ record.recNo

namespace XtnTable

variable {table later last : XtnTable}

theorem Timed.create (host : ByteOrder) (initValue : UInt32) :
    (XtnTable.create host initValue).Timed := by
  constructor <;> simp [XtnTable.create]

theorem Timed.inj (timed : table.Timed) {first second : TransactnRec}
    (firstMem : first ∈ table.timers) (secondMem : second ∈ table.timers)
    (same : first.recNo = second.recNo) : first = second :=
  inj_on_of_nodup_map timed.distinct firstMem secondMem same

theorem Carries.refl (table : XtnTable) : table.Carries table where
  host := rfl
  nextRec := Nat.le_refl _
  records := fun _ member => .inl member
  timers := fun _ member => .inl member
  gone := fun _ member => .inl member

/-- What one table hands on to a later one is handed on to the last. -/
theorem Carries.trans (timed : table.Timed) (first : table.Carries later)
    (second : later.Carries last) : table.Carries last where
  host := second.host.trans first.host
  nextRec := Nat.le_trans first.nextRec second.nextRec
  records := by
    intro record member
    rcases second.records record member with kept | new
    · exact first.records record kept
    · exact .inr (Nat.le_trans first.nextRec new)
  timers := by
    intro record member
    rcases second.timers record member with kept | new
    · exact first.timers record kept
    · exact .inr (Nat.le_trans first.nextRec new)
  gone := by
    intro record member
    rcases first.gone record member with kept | without
    · exact second.gone record kept
    right
    intro timer timerMem
    rcases second.timers timer timerMem with kept | new
    · exact without timer kept
    · have older := timed.older record member
      exact Nat.ne_of_gt (Nat.lt_of_lt_of_le older (Nat.le_trans first.nextRec new))

theorem Timed.delXtn (timed : table.Timed) (record : TransactnRec) :
    (table.delXtn record).Timed where
  older := fun other member => timed.older other (mem_of_mem_filter member)
  below := fun other member => timed.below other (mem_of_mem_filter member)
  distinct := timed.distinct.sublist (List.Sublist.map _ filter_sublist)
  own := fun other member timer running =>
    timed.own other (mem_of_mem_filter member) timer (mem_of_mem_filter running)

theorem Watched.delXtn (watched : table.Watched) (record : TransactnRec) :
    (table.delXtn record).Watched := by
  intro other member multipart
  obtain ⟨live, apart⟩ := mem_filter.mp member
  exact mem_filter.mpr ⟨watched other live multipart, apart⟩

theorem Carries.delXtn (table : XtnTable) (record : TransactnRec) :
    table.Carries (table.delXtn record) where
  host := rfl
  nextRec := Nat.le_refl _
  records := fun _ member => .inl (mem_of_mem_filter member)
  timers := fun _ member => .inl (mem_of_mem_filter member)
  gone := by
    intro other member
    by_cases same : other.recNo = record.recNo
    · right
      intro timer timerMem
      rw [same]
      simpa using (mem_filter.mp timerMem).2
    · exact .inl (mem_filter.mpr ⟨member, by simpa using same⟩)

end XtnTable

section Sending

variable {table : XtnTable}

theorem own_append {records timers : List TransactnRec} {new : TransactnRec} {next : Nat}
    (older : ∀ record ∈ records, record.recNo < next)
    (own : ∀ record ∈ records, ∀ timer ∈ timers, timer.recNo = record.recNo → timer = record)
    (number : new.recNo = next) :
    ∀ record ∈ records, ∀ timer ∈ timers ++ [new], timer.recNo = record.recNo → timer = record := by
  intro record member timer running same
  rcases mem_append.mp running with old | last
  · exact own record member timer old same
  · rw [mem_singleton.mp last, number] at same
    exact absurd same (Nat.ne_of_gt (older record member))

/-- A recorded request keeps the records timed. -/
theorem cntlrRecordXtnDetails_timed (timed : table.Timed) (request : XtnRequest) :
    (cntlrRecordXtnDetails table request).1.Timed ∧
      table.Carries (cntlrRecordXtnDetails table request).1 := by
  have older := below_succ timed.older
  have olderNew := @below_append _ (request.record table) _ timed.older rfl
  have below := below_succ timed.below
  have belowNew := @below_append _ (request.record table) _ timed.below rfl
  have distinctNew :=
    @distinct_append _ (request.record table) _ timed.below rfl timed.distinct
  have ownTimer := @own_append _ _ (request.record table) _ timed.older timed.own rfl
  -- the number of the new record is that of no old timer
  have fresh : ∀ timer ∈ table.timers, timer.recNo ≠ (request.record table).recNo :=
    fun timer running => Nat.ne_of_lt (timed.below timer running)
  unfold cntlrRecordXtnDetails
  cases request.outcomes.recordAllocated with
  | false => exact ⟨timed, XtnTable.Carries.refl table⟩
  | true =>
  cases request.outcomes.timer with
  | failure =>
    exact ⟨⟨older, below, timed.distinct, timed.own⟩,
      ⟨rfl, Nat.le_succ _, fun _ member => .inl member, fun _ member => .inl member,
        fun _ member => .inl member⟩⟩
  | success =>
    cases request.outcomes.nodeAppended with
    | false =>
      exact ⟨⟨older, belowNew, distinctNew, ownTimer⟩, ⟨rfl, Nat.le_succ _,
        fun _ member => .inl member, mem_or_newer rfl, fun _ member => .inl member⟩⟩
    | true =>
      refine ⟨⟨olderNew, belowNew, distinctNew, ?_⟩, ⟨rfl, Nat.le_succ _, mem_or_newer rfl,
        mem_or_newer rfl, fun _ member => .inl (mem_append_left _ member)⟩⟩
      intro record member timer running same
      rcases mem_append.mp member with old | new
      · exact ownTimer record old timer running same
      · rw [mem_singleton.mp new] at same ⊢
        rcases mem_append.mp running with earlier | last
        · exact absurd same (fresh timer earlier)
        · exact mem_singleton.mp last
  | otherError =>
    cases request.outcomes.nodeAppended with
    | false =>
      exact ⟨⟨older, below, timed.distinct, timed.own⟩,
        ⟨rfl, Nat.le_succ _, fun _ member => .inl member, fun _ member => .inl member,
          fun _ member => .inl member⟩⟩
    | true =>
      refine ⟨⟨olderNew, below, timed.distinct, ?_⟩, ⟨rfl, Nat.le_succ _, mem_or_newer rfl,
        fun _ member => .inl member, fun _ member => .inl (mem_append_left _ member)⟩⟩
      intro record member timer running same
      rcases mem_append.mp member with old | new
      · exact timed.own record old timer running same
      · rw [mem_singleton.mp new] at same
        exact absurd same (fresh timer running)

theorem cntlrSendMsgToDp_timed (timed : table.Timed) (request : XtnRequest) :
    (cntlrSendMsgToDp table request).1.Timed ∧
      table.Carries (cntlrSendMsgToDp table request).1 := by
  obtain ⟨recorded, carries⟩ := cntlrRecordXtnDetails_timed timed request
  unfold cntlrSendMsgToDp
  cases recordsXtn request.type with
  | false =>
    exact ⟨⟨timed.older, timed.below, timed.distinct, timed.own⟩,
      ⟨rfl, Nat.le_refl _, fun _ member => .inl member, fun _ member => .inl member,
        fun _ member => .inl member⟩⟩
  | true =>
  simp only [if_true]
  split
  case h_1 => exact ⟨recorded, carries⟩
  case h_2 record _ =>
    split
    · exact ⟨recorded, carries⟩
    · exact ⟨recorded.delXtn record, carries.trans timed (XtnTable.Carries.delXtn _ record)⟩

theorem sendQueued_timed (queued : List XtnRequest) (timed : table.Timed) :
    (sendQueued queued table).1.Timed ∧ table.Carries (sendQueued queued table).1 := by
  induction queued generalizing table with
  | nil => exact ⟨timed, XtnTable.Carries.refl table⟩
  | cons request rest ih =>
  obtain ⟨sent, carries⟩ := cntlrSendMsgToDp_timed timed request
  simp only [sendQueued]
  split
  · obtain ⟨last, carriesLast⟩ := ih sent
    exact ⟨last, carries.trans timed carriesLast⟩
  · exact ⟨sent, carries⟩

/-- Sending leaves what is in the table. -/
theorem cntlrSendMsgToDp_keeps (timed : table.Timed) (request : XtnRequest) :
    ∀ record ∈ table.records, record ∈ (cntlrSendMsgToDp table request).1.records := by
  intro record member
  have live : record ∈ table.records ++ [request.record table] := mem_append_left _ member
  have kept : record ∈ (table.records ++ [request.record table]).filter fun other =>
      other.recNo ≠ (request.record table).recNo :=
    mem_filter.mpr ⟨live, decide_eq_true (Nat.ne_of_lt (timed.older record member))⟩
  unfold cntlrSendMsgToDp cntlrRecordXtnDetails
  cases recordsXtn request.type with
  | false => exact member
  | true =>
  cases request.outcomes.recordAllocated with
  | false => exact member
  | true =>
  cases request.outcomes.timer <;> cases request.outcomes.nodeAppended <;>
    cases request.outcomes.msgSent <;> first | exact member | exact live | exact kept

/-- A message leaves the multipart requests watched unless it is an unwatched one itself. -/
theorem cntlrSendMsgToDp_watched (watched : table.Watched) {request : XtnRequest}
    (starts : ¬ request.Unwatched) : (cntlrSendMsgToDp table request).1.Watched := by
  have both : ∀ record ∈ table.records ++ [request.record table],
      record.msgType = Ofpt.multipartRequest → record ∈ table.timers ++ [request.record table] := by
    intro record member multipart
    exact mem_append.mpr ((mem_append.mp member).imp_left (watched record · multipart))
  have timer : ∀ record ∈ table.records, record.msgType = Ofpt.multipartRequest →
      record ∈ table.timers ++ [request.record table] :=
    fun record member multipart => mem_append_left _ (watched record member multipart)
  have without (later : XtnTable) (same : later.records = table.records ++ [request.record table])
      (timers : later.timers = table.timers) :
      (later.delXtn (request.record table)).Watched := by
    intro record member multipart
    obtain ⟨live, apart⟩ := mem_filter.mp member
    refine mem_filter.mpr ⟨?_, apart⟩
    rw [same] at live
    rw [timers]
    rcases mem_append.mp live with old | new
    · exact watched record old multipart
    · rw [mem_singleton.mp new] at apart
      simp at apart
  unfold cntlrSendMsgToDp cntlrRecordXtnDetails
  cases recorded : recordsXtn request.type with
  | false => exact watched
  | true =>
  cases allocated : request.outcomes.recordAllocated with
  | false => exact watched
  | true =>
  cases timed : request.outcomes.timer with
  | failure => exact watched
  | success =>
    cases request.outcomes.nodeAppended with
    | false => exact timer
    | true =>
    cases request.outcomes.msgSent with
    | true => exact both
    | false =>
    intro record member multipart
    obtain ⟨live, apart⟩ := mem_filter.mp member
    exact mem_filter.mpr ⟨both record live multipart, apart⟩
  | otherError =>
    cases appended : request.outcomes.nodeAppended with
    | false => exact watched
    | true =>
    cases sent : request.outcomes.msgSent with
    | false => exact without _ rfl rfl
    | true =>
    intro record member multipart
    rcases mem_append.mp member with old | new
    · exact watched record old multipart
    · rw [mem_singleton.mp new] at multipart
      refine absurd ⟨multipart, timed, fun _ => ⟨allocated, ?_, appended⟩, sent⟩ starts
      rw [timed]
      exact nofun

/-- In the table is a multipart request from a number on that no timer watches. -/
def XtnTable.Unwatched (table : XtnTable) (start : Nat) : Prop :=
  ∃ record ∈ table.records, record.msgType = Ofpt.multipartRequest ∧ record ∉ table.timers ∧
    start ≤ record.recNo

theorem cntlrSendMsgToDp_unwatched (timed : table.Timed) {request : XtnRequest}
    (unwatched : request.Unwatched) :
    (cntlrSendMsgToDp table request).1.Unwatched table.nextRec := by
  obtain ⟨multipart, otherError, recorded, sent⟩ := unwatched
  have records : recordsXtn request.type = true := by
    rw [multipart]
    rfl
  obtain ⟨allocated, -, appended⟩ := recorded records
  refine ⟨request.record table, ?_, multipart, ?_, Nat.le_refl _⟩ <;>
    simp only [cntlrSendMsgToDp, cntlrRecordXtnDetails, records, allocated, otherError, appended,
      sent, if_true]
  · exact mem_append_right _ mem_cons_self
  · intro running
    exact Nat.lt_irrefl _ (timed.below _ running)

theorem XtnTable.Unwatched.send {start : Nat} (timed : table.Timed) (request : XtnRequest)
    (unwatched : table.Unwatched start) :
    (cntlrSendMsgToDp table request).1.Unwatched start := by
  obtain ⟨record, member, multipart, stopped, later⟩ := unwatched
  refine ⟨record, cntlrSendMsgToDp_keeps timed request record member, multipart, ?_, later⟩
  intro running
  rcases (cntlrSendMsgToDp_timed timed request).2.timers record running with old | new
  · exact stopped old
  · exact Nat.not_le_of_lt (timed.older record member) new

theorem XtnTable.Unwatched.sendQueued {start : Nat} (queued : List XtnRequest)
    (timed : table.Timed) (unwatched : table.Unwatched start) :
    (sendQueued queued table).1.Unwatched start := by
  induction queued generalizing table with
  | nil => exact unwatched
  | cons request rest ih =>
  have sent := unwatched.send timed request
  simp only [Coreapp.sendQueued]
  split
  · exact ih (cntlrSendMsgToDp_timed timed request).1 sent
  · exact sent

/-- The queued requests are watched exactly when each of them gets its timer. -/
theorem sendQueued_watched (queued : List XtnRequest) (timed : table.Timed)
    (watched : table.Watched) :
    (WatchesAll queued → (sendQueued queued table).1.Watched) ∧
      (¬ WatchesAll queued → (sendQueued queued table).1.Unwatched table.nextRec) := by
  induction queued generalizing table with
  | nil => exact ⟨fun _ => watched, fun missing => absurd trivial missing⟩
  | cons request rest ih =>
  obtain ⟨sentTimed, carries⟩ := cntlrSendMsgToDp_timed timed request
  simp only [sendQueued]
  by_cases unwatched : request.Unwatched
  · refine ⟨fun all => absurd unwatched all.1, fun _ => ?_⟩
    have left := cntlrSendMsgToDp_unwatched timed unwatched
    split
    · exact left.sendQueued rest sentTimed
    · exact left
  have sentWatched := cntlrSendMsgToDp_watched watched unwatched
  split
  · rename_i goes
    obtain ⟨holds, fails⟩ := ih sentTimed sentWatched
    refine ⟨fun all => holds (all.2 (cntlrSendMsgToDp_iff.mp goes)), fun missing => ?_⟩
    obtain ⟨record, member, multipart, stopped, later⟩ :=
      fails fun all => missing ⟨unwatched, fun _ => all⟩
    exact ⟨record, member, multipart, stopped, Nat.le_trans carries.nextRec later⟩
  · rename_i failed
    exact ⟨fun _ => sentWatched, fun missing => absurd
      ⟨unwatched, fun goes => absurd (cntlrSendMsgToDp_iff.mpr goes) failed⟩ missing⟩

/-- A reply keeps the records timed. -/
theorem handleReply_timed (timed : table.Timed) (xid : UInt32) (datapath : XtnDatapath)
    (reply : XtnReply) :
    (handleReply table xid datapath reply).1.Timed ∧
      table.Carries (handleReply table xid datapath reply).1 := by
  have deletes : ∀ record, (table.delXtn record).Timed ∧ table.Carries (table.delXtn record) :=
    fun record => ⟨timed.delXtn record, XtnTable.Carries.delXtn table record⟩
  have keeps : table.Timed ∧ table.Carries table := ⟨timed, XtnTable.Carries.refl table⟩
  have once : (replyOnce table xid datapath).1.Timed ∧
      table.Carries (replyOnce table xid datapath).1 := by
    unfold replyOnce
    cases cntlrGetXtnDetails table xid datapath with
    | none => exact keeps
    | some record => exact deletes record
  cases reply with
  | echoReply => exact once
  | getConfigReply => exact once
  | roleReply => exact once
  | getAsyncReply => exact once
  | barrierReply queued uninitialised =>
    simp only [handleReply, ofProcessBarrierReplymsg]
    cases cntlrGetXtnDetails table xid datapath with
    | none => exact deletes uninitialised
    | some record =>
      obtain ⟨sent, carries⟩ := sendQueued_timed (takeThroughBarrier queued) timed
      exact ⟨sent.delXtn record, carries.trans timed (XtnTable.Carries.delXtn _ record)⟩
  | multipartReply type more calls =>
    simp only [handleReply, ofProcessMultipartReplymsg]
    cases cntlrGetXtnDetails table xid datapath with
    | none => exact keeps
    | some record =>
    dsimp only
    split
    · cases more with
      | true => exact keeps
      | false => exact deletes record
    · exact deletes record
  | error type multipartType subtype =>
  simp only [handleReply, ofHandleErrorMsgEvent]
  split
  · cases cntlrGetXtnDetails table xid datapath with
    | none => exact keeps
    | some record => exact deletes record
  · exact keeps

/-- The condition that a reply sends no unwatched request from behind a barrier. -/
theorem handleReply_watched_iff (timed : table.Timed) (watched : table.Watched) (xid : UInt32)
    (datapath : XtnDatapath) (reply : XtnReply) :
    (handleReply table xid datapath reply).1.Watched ↔
      ∀ queued uninitialised, reply = .barrierReply queued uninitialised →
        cntlrGetXtnDetails table xid datapath ≠ none → WatchesAll (takeThroughBarrier queued) := by
  have once : (replyOnce table xid datapath).1.Watched := by
    unfold replyOnce
    cases cntlrGetXtnDetails table xid datapath with
    | none => exact watched
    | some record => exact watched.delXtn record
  cases reply with
  | echoReply | getConfigReply | roleReply | getAsyncReply =>
    exact iff_of_true once (by rintro _ _ ⟨⟩)
  | barrierReply queued uninitialised =>
    simp only [handleReply, ofProcessBarrierReplymsg]
    cases found : cntlrGetXtnDetails table xid datapath with
    | none =>
      refine iff_of_true (watched.delXtn uninitialised) ?_
      rintro _ _ _ missing
      exact absurd rfl missing
    | some record =>
    obtain ⟨holds, fails⟩ := sendQueued_watched (takeThroughBarrier queued) timed watched
    constructor
    · rintro kept _ _ ⟨⟩ -
      by_contra missing
      obtain ⟨left, member, multipart, stopped, later⟩ := fails missing
      have older := timed.older record (mem_of_find?_eq_some found)
      have still : left ∈ ((sendQueued (takeThroughBarrier queued) table).1.delXtn record).records :=
        mem_filter.mpr ⟨member, by simpa using Nat.ne_of_gt (Nat.lt_of_lt_of_le older later)⟩
      exact stopped (mem_of_mem_filter (kept left still multipart))
    · intro all
      exact (holds (all queued uninitialised rfl (Option.some_ne_none record))).delXtn record
  | multipartReply type more calls =>
    refine iff_of_true ?_ (by rintro _ _ ⟨⟩)
    simp only [handleReply, ofProcessMultipartReplymsg]
    cases cntlrGetXtnDetails table xid datapath with
    | none => exact watched
    | some record =>
    dsimp only
    split
    · cases more with
      | true => exact watched
      | false => exact watched.delXtn record
    · exact watched.delXtn record
  | error type multipartType subtype =>
    refine iff_of_true ?_ (by rintro _ _ ⟨⟩)
    simp only [handleReply, ofHandleErrorMsgEvent]
    split
    · cases cntlrGetXtnDetails table xid datapath with
      | none => exact watched
      | some record => exact watched.delXtn record
    · exact watched

end Sending

/-! ## The lives of the records -/

/-- The record is older than the table's next one, and its timer is not in the
table. -/
def XtnTable.Past (table : XtnTable) (record : TransactnRec) : Prop :=
  record.recNo < table.nextRec ∧ ∀ timer ∈ table.timers, timer.recNo ≠ record.recNo

variable {record : TransactnRec}

theorem XtnTable.Past.later {table later : XtnTable} (past : table.Past record)
    (carries : table.Carries later) : later.Past record := by
  refine ⟨Nat.lt_of_lt_of_le past.1 carries.nextRec, ?_⟩
  intro timer member
  rcases carries.timers timer member with kept | new
  · exact past.2 timer kept
  · exact Nat.ne_of_gt (Nat.lt_of_lt_of_le past.1 new)

theorem XtnTable.Past.ne {table : XtnTable} {timer : TransactnRec} (past : table.Past record)
    (running : timer ∈ table.timers) : timer ≠ record := by
  intro same
  exact past.2 timer running (by rw [same])

/-- What holds along every run whose expiries complete their requests. -/
structure LivesInv (lives : XtnLives) : Prop where
  timed : lives.table.Timed
  completed : MultipartCompleted lives
  expiredRan : ∀ record ∈ lives.expired, record ∈ lives.timerRuns
  callsRan : ∀ call ∈ lives.errorCalls, call.record ∈ lives.timerRuns
  runsPast : ∀ record ∈ lives.timerRuns, lives.table.Past record
  answeredPast : ∀ record ∈ lives.answered, lives.table.Past record
  retiredPast : ∀ record ∈ lives.retired, lives.table.Past record
  retiredUnrun : ∀ record ∈ lives.retired, ∀ ran ∈ lives.timerRuns, ran.recNo ≠ record.recNo
  retiredDistinct : (lives.retired.map TransactnRec.recNo).Nodup

theorem cleanMultipartReqMsgs_record {call : ErrorCall}
    (member : call ∈ cleanMultipartReqMsgs record) : call.record = record := by
  unfold cleanMultipartReqMsgs at member
  split at member
  · cases found : expiryCase record.msgSubtype with
    | none => simp [found] at member
    | some type =>
      rw [found] at member
      rw [mem_singleton.mp member]
      rfl
  · exact absurd member not_mem_nil

theorem cleanMultipartReqMsgs_filter (record : TransactnRec) :
    (cleanMultipartReqMsgs record).filter (fun call => call.record = record) =
      cleanMultipartReqMsgs record := by
  apply filter_eq_self.mpr
  intro call member
  simpa using cleanMultipartReqMsgs_record member

theorem cleanMultipartReqMsgs_filter_ne {other : TransactnRec} (apart : record ≠ other) :
    (cleanMultipartReqMsgs record).filter (fun call => call.record = other) = [] := by
  apply filter_eq_nil_iff.mpr
  intro call member
  rw [cleanMultipartReqMsgs_record member]
  simpa using apart

theorem cleanMultipartReqMsgs_eq_iff {type : MultipartCallback}
    (multipart : record.msgType = Ofpt.multipartRequest) :
    cleanMultipartReqMsgs record = [record.errorCall type] ↔
      expiryCase record.msgSubtype = some type := by
  rw [cleanMultipartReqMsgs, if_pos multipart]
  cases expiryCase record.msgSubtype with
  | none => simp
  | some found =>
  constructor
  · intro same
    have calls := (List.cons.inj same).1
    exact congrArg some (congrArg ErrorCall.type calls)
  · intro same
    rw [Option.some.inj same]

namespace LivesInv

variable {lives : XtnLives} {later : XtnTable}

attribute [local simp] XtnLives.create

theorem create (host : ByteOrder) (initValue : UInt32) :
    LivesInv (XtnLives.create host initValue) where
  timed := XtnTable.Timed.create host initValue
  completed := by constructor <;> simp [XtnTable.Watched, XtnTable.create]
  expiredRan := by simp
  callsRan := by simp
  runsPast := by simp
  answeredPast := by simp
  retiredPast := by simp
  retiredUnrun := by simp
  retiredDistinct := by simp

section

variable (inv : LivesInv lives)

include inv

theorem expired_gone (watched : later.Watched) (carries : lives.table.Carries later)
    {record : TransactnRec} (expired : record ∈ lives.expired)
    (multipart : record.msgType = Ofpt.multipartRequest) : record ∉ later.records := by
  intro live
  have past := (inv.runsPast record (inv.expiredRan record expired)).later carries
  exact past.ne (watched record live multipart) rfl

theorem send {request : XtnRequest} (starts : ¬ request.Unwatched) :
    LivesInv (xtnLifeStep lives (.send request)) := by
  obtain ⟨timed, carries⟩ := cntlrSendMsgToDp_timed inv.timed request
  have watched := cntlrSendMsgToDp_watched inv.completed.watched starts
  constructor
  case timed => exact timed
  case completed =>
    refine ⟨watched, ?_, inv.completed.answered⟩
    · intro record expired multipart type issued
      simp only [xtnLifeStep, carries.host] at issued
      obtain ⟨-, callback, calls⟩ := inv.completed.expired record expired multipart type issued
      exact ⟨inv.expired_gone watched carries expired multipart, callback, calls⟩
  case expiredRan => exact inv.expiredRan
  case callsRan => exact inv.callsRan
  case runsPast => exact fun record ran => (inv.runsPast record ran).later carries
  case answeredPast => exact fun record known => (inv.answeredPast record known).later carries
  case retiredPast => exact fun record known => (inv.retiredPast record known).later carries
  case retiredUnrun => exact inv.retiredUnrun
  case retiredDistinct => exact inv.retiredDistinct

/-- A reply that leaves the table watched keeps the invariant. -/
theorem replied (timed : later.Timed) (watched : later.Watched)
    (carries : lives.table.Carries later) : LivesInv (lives.replied later) := by
  have retires : ∀ record ∈ lives.table.timers, record ∉ later.timers → later.Past record := by
    intro record running stopped
    refine ⟨Nat.lt_of_lt_of_le (inv.timed.below record running) carries.nextRec, ?_⟩
    intro timer member
    rcases carries.timers timer member with kept | new
    · intro same
      rw [inv.timed.inj kept running same] at member
      exact stopped member
    · exact Nat.ne_of_gt (Nat.lt_of_lt_of_le (inv.timed.below record running) new)
  constructor
  case timed => exact timed
  case completed =>
    refine ⟨watched, ?_, ?_⟩
    · intro record expired multipart type issued
      simp only [XtnLives.replied, carries.host] at issued
      obtain ⟨-, callback, calls⟩ := inv.completed.expired record expired multipart type issued
      exact ⟨inv.expired_gone watched carries expired multipart, callback, calls⟩
    intro record answered multipart
    rcases mem_append.mp answered with old | new
    · exact inv.completed.answered record old multipart
    · intro ran
      have live := mem_of_mem_filter new
      exact (inv.runsPast record ran).ne (inv.completed.watched record live multipart) rfl
  case expiredRan => exact inv.expiredRan
  case callsRan => exact inv.callsRan
  case runsPast => exact fun record ran => (inv.runsPast record ran).later carries
  case answeredPast =>
    intro record answered
    rcases mem_append.mp answered with old | new
    · exact (inv.answeredPast record old).later carries
    · obtain ⟨live, gone⟩ := mem_filter.mp new
      have known := inv.timed.older record live
      refine ⟨Nat.lt_of_lt_of_le known carries.nextRec, ?_⟩
      exact (carries.gone record live).resolve_left (by simpa using gone)
  case retiredPast =>
    intro record retired
    rcases mem_append.mp retired with old | new
    · exact (inv.retiredPast record old).later carries
    · obtain ⟨running, stopped⟩ := mem_filter.mp new
      exact retires record running (by simpa using stopped)
  case retiredUnrun =>
    intro record retired ran ranMem
    rcases mem_append.mp retired with old | new
    · exact inv.retiredUnrun record old ran ranMem
    · exact Ne.symm ((inv.runsPast ran ranMem).2 record (mem_of_mem_filter new))
  case retiredDistinct =>
    simp only [XtnLives.replied, map_append]
    refine nodup_append.mpr ⟨inv.retiredDistinct,
      inv.timed.distinct.sublist (List.Sublist.map _ filter_sublist), ?_⟩
    intro recNo oldMem recNo' newMem same
    obtain ⟨old, oldRetired, oldNo⟩ := mem_map.mp oldMem
    obtain ⟨new, newRetired, newNo⟩ := mem_map.mp newMem
    have apart := (inv.retiredPast old oldRetired).2 new (mem_of_mem_filter newRetired)
    exact apart (by rw [newNo, oldNo, same])

theorem stopped (recNo : Nat) : LivesInv (xtnLifeStep lives (.stopped recNo)) where
  timed := inv.timed
  completed := ⟨inv.completed.watched, inv.completed.expired, inv.completed.answered⟩
  expiredRan := inv.expiredRan
  callsRan := inv.callsRan
  runsPast := inv.runsPast
  answeredPast := inv.answeredPast
  retiredPast := fun record known => inv.retiredPast record (mem_of_mem_filter known)
  retiredUnrun := fun record known => inv.retiredUnrun record (mem_of_mem_filter known)
  retiredDistinct := inv.retiredDistinct.sublist (List.Sublist.map _ filter_sublist)

end

/-- The state after the timer of a record in the table expired. -/
def expiredInTable (lives : XtnLives) (record : TransactnRec) : XtnLives :=
  { lives with
    table := lives.table.delXtn record
    expired := lives.expired ++ if record ∈ lives.table.records then [record] else []
    timerRuns := lives.timerRuns ++ [record]
    errorCalls := lives.errorCalls ++ cleanMultipartReqMsgs record }

theorem timeout_running {recNo : Nat} {record : TransactnRec}
    (found : (lives.table.timers.find? fun timer => timer.recNo = recNo) = some record) :
    xtnLifeStep lives (.timeout recNo) = expiredInTable lives record := by
  simp only [xtnLifeStep, found, cntlrXtnRecrodCleanupFunc, expiredInTable]

theorem no_calls (inv : LivesInv lives) {record : TransactnRec}
    (running : record ∈ lives.table.timers) :
    lives.errorCalls.filter (fun call => call.record = record) = [] := by
  apply filter_eq_nil_iff.mpr
  intro call member
  have past := inv.runsPast call.record (inv.callsRan call member)
  simpa using Ne.symm (past.ne running)

/-- The expiry of a record in the table keeps the invariant. -/
theorem expiredInTable_inv (inv : LivesInv lives) {record : TransactnRec}
    (running : record ∈ lives.table.timers)
    (fits : record ∈ lives.table.records → record.msgType = Ofpt.multipartRequest →
      ∀ type ∈ requestCallback (ntohs lives.table.host record.msgSubtype),
        record.callbackFn ≠ none ∧ expiryCase record.msgSubtype = some type) :
    LivesInv (expiredInTable lives record) := by
  have timed := inv.timed.delXtn record
  have carries := XtnTable.Carries.delXtn lives.table record
  have nowPast : (lives.table.delXtn record).Past record := by
    refine ⟨inv.timed.below record running, ?_⟩
    intro timer member
    simpa using (mem_filter.mp member).2
  constructor
  case timed => exact timed
  case completed =>
    have watched := inv.completed.watched.delXtn record
    refine ⟨watched, ?_, ?_⟩
    · intro other expired multipart type issued
      dsimp only [expiredInTable] at expired issued ⊢
      rw [filter_append]
      rcases mem_append.mp expired with old | new
      · obtain ⟨-, callback, calls⟩ := inv.completed.expired other old multipart type issued
        have apart := (inv.runsPast other (inv.expiredRan other old)).ne running
        rw [calls, cleanMultipartReqMsgs_filter_ne apart]
        exact ⟨inv.expired_gone watched carries old multipart, callback, rfl⟩
      split at new
      · rename_i live
        rw [mem_singleton.mp new] at multipart issued ⊢
        obtain ⟨callback, case⟩ := fits live multipart type issued
        rw [inv.no_calls running, cleanMultipartReqMsgs_filter,
          (cleanMultipartReqMsgs_eq_iff multipart).mpr case]
        refine ⟨?_, callback, rfl⟩
        intro still
        exact nowPast.ne (watched record still multipart) rfl
      · exact absurd new not_mem_nil
    · intro other answered multipart
      simp only [expiredInTable, mem_append, mem_singleton, not_or]
      exact ⟨inv.completed.answered other answered multipart,
        Ne.symm ((inv.answeredPast other answered).ne running)⟩
  case expiredRan =>
    intro other expired
    rcases mem_append.mp expired with old | new
    · exact mem_append_left _ (inv.expiredRan other old)
    · split at new
      · exact mem_append_right _ new
      · exact absurd new not_mem_nil
  case callsRan =>
    intro call member
    rcases mem_append.mp member with old | new
    · exact mem_append_left _ (inv.callsRan call old)
    · rw [cleanMultipartReqMsgs_record new]
      exact mem_append_right _ mem_cons_self
  case runsPast =>
    intro other ran
    rcases mem_append.mp ran with old | new
    · exact (inv.runsPast other old).later carries
    · rw [mem_singleton.mp new]
      exact nowPast
  case answeredPast => exact fun other known => (inv.answeredPast other known).later carries
  case retiredPast => exact fun other known => (inv.retiredPast other known).later carries
  case retiredUnrun =>
    intro other retired ran ranMem
    rcases mem_append.mp ranMem with old | new
    · exact inv.retiredUnrun other retired ran old
    · rw [mem_singleton.mp new]
      exact (inv.retiredPast other retired).2 record running
  case retiredDistinct => exact inv.retiredDistinct

/-- The state after the timer of a record that had left the table expired. -/
def expiredLate (lives : XtnLives) (recNo : Nat) (record : TransactnRec) : XtnLives :=
  { lives with
    retired := lives.retired.filter fun other => other.recNo ≠ recNo
    timerRuns := lives.timerRuns ++ [record]
    errorCalls := lives.errorCalls ++ cleanMultipartReqMsgs record }

/-- The expiry of a record that left the table keeps the invariant. -/
theorem expiredLate_inv (inv : LivesInv lives) {record : TransactnRec}
    (retired : record ∈ lives.retired)
    (single : record ∈ lives.answered → record.msgType ≠ Ofpt.multipartRequest) :
    LivesInv (expiredLate lives record.recNo record) := by
  constructor
  case timed => exact inv.timed
  case completed =>
    refine ⟨inv.completed.watched, ?_, ?_⟩
    · intro other expired multipart type issued
      dsimp only [expiredLate]
      obtain ⟨gone, callback, calls⟩ := inv.completed.expired other expired multipart type issued
      have apart : record ≠ other := by
        intro same
        have unrun := inv.retiredUnrun record retired other (inv.expiredRan other expired)
        exact unrun (by rw [same])
      rw [filter_append, calls, cleanMultipartReqMsgs_filter_ne apart]
      exact ⟨gone, callback, rfl⟩
    · intro other answered multipart
      simp only [expiredLate, mem_append, mem_singleton, not_or]
      refine ⟨inv.completed.answered other answered multipart, ?_⟩
      intro same
      rw [same] at answered multipart
      exact single answered multipart
  case expiredRan =>
    exact fun other expired => mem_append_left _ (inv.expiredRan other expired)
  case callsRan =>
    intro call member
    rcases mem_append.mp member with old | new
    · exact mem_append_left _ (inv.callsRan call old)
    · rw [cleanMultipartReqMsgs_record new]
      exact mem_append_right _ mem_cons_self
  case runsPast =>
    intro other ran
    rcases mem_append.mp ran with old | new
    · exact inv.runsPast other old
    · rw [mem_singleton.mp new]
      exact inv.retiredPast record retired
  case answeredPast => exact inv.answeredPast
  case retiredPast =>
    exact fun other known => inv.retiredPast other (mem_of_mem_filter known)
  case retiredUnrun =>
    intro other known ran ranMem
    obtain ⟨still, apart⟩ := mem_filter.mp known
    rcases mem_append.mp ranMem with old | new
    · exact inv.retiredUnrun other still ran old
    · rw [mem_singleton.mp new]
      exact Ne.symm (by simpa using apart)
  case retiredDistinct =>
    exact inv.retiredDistinct.sublist (List.Sublist.map _ filter_sublist)

/-- A timeout keeps the invariant exactly when it completes its request. -/
theorem timeout (inv : LivesInv lives) (recNo : Nat) :
    (XtnLifeEvent.Completes lives (.timeout recNo) →
      LivesInv (xtnLifeStep lives (.timeout recNo))) ∧
    (MultipartCompleted (xtnLifeStep lives (.timeout recNo)) →
      XtnLifeEvent.Completes lives (.timeout recNo)) := by
  cases found : lives.table.timers.find? fun timer => timer.recNo = recNo with
  | some record =>
    have running := mem_of_find?_eq_some found
    have numbered : record.recNo = recNo := by simpa using find?_some found
    rw [timeout_running found]
    constructor
    · intro completes
      apply inv.expiredInTable_inv running
      intro live multipart type issued
      have named : requestCallback (ntohs lives.table.host record.msgSubtype) ≠ none := by
        rw [Option.mem_def.mp issued]
        simp
      obtain ⟨callback, fits⟩ := completes.1 record live numbered multipart named
      exact ⟨callback, (expiryCase_fits_iff issued).mpr fits⟩
    intro completed
    constructor
    · intro other live otherNo multipart named
      have same := inv.timed.own other live record running (numbered.trans otherNo.symm)
      rw [← same] at live multipart named ⊢
      obtain ⟨type, issued⟩ := Option.ne_none_iff_exists'.mp named
      have expired : record ∈ (expiredInTable lives record).expired := by
        simp [expiredInTable, live]
      obtain ⟨-, callback, calls⟩ := completed.expired record expired multipart type issued
      dsimp only [expiredInTable] at calls
      rw [filter_append, inv.no_calls running, cleanMultipartReqMsgs_filter] at calls
      have case := (cleanMultipartReqMsgs_eq_iff multipart).mp calls
      exact ⟨callback, (expiryCase_fits_iff issued).mp case⟩
    · intro other retired otherNo
      have apart := (inv.retiredPast other retired).2 record running
      exact absurd (numbered.trans otherNo.symm) apart
  | none =>
  have noTimer : ∀ timer ∈ lives.table.timers, timer.recNo ≠ recNo := by
    intro timer running
    simpa using find?_eq_none.mp found timer running
  have noRecord : ∀ record ∈ lives.table.records, record.msgType = Ofpt.multipartRequest →
      record.recNo ≠ recNo :=
    fun record live multipart => noTimer record (inv.completed.watched record live multipart)
  cases late : lives.retired.find? fun other => other.recNo = recNo with
  | some record =>
    have retired := mem_of_find?_eq_some late
    have numbered : record.recNo = recNo := by simpa using find?_some late
    have step : xtnLifeStep lives (.timeout recNo) = expiredLate lives recNo record := by
      simp only [xtnLifeStep, found, late, expiredLate]
    rw [step]
    constructor
    · intro completes
      rw [← numbered]
      exact inv.expiredLate_inv retired (completes.2 record retired numbered)
    intro completed
    refine ⟨fun other live otherNo multipart => absurd otherNo (noRecord other live multipart), ?_⟩
    intro other otherRetired otherNo answered multipart
    have same := inj_on_of_nodup_map inv.retiredDistinct otherRetired retired
      (otherNo.trans numbered.symm)
    apply completed.answered other answered multipart
    rw [same]
    exact mem_append_right _ mem_cons_self
  | none =>
  have step : xtnLifeStep lives (.timeout recNo) = lives := by
    simp only [xtnLifeStep, found, late]
  rw [step]
  refine ⟨fun _ => inv, fun _ => ?_⟩
  refine ⟨fun other live otherNo multipart => absurd otherNo (noRecord other live multipart), ?_⟩
  intro other retired otherNo
  have missed := find?_eq_none.mp late other retired
  simp [otherNo] at missed

/-- An event keeps the invariant exactly when it completes what it ends. -/
theorem step (inv : LivesInv lives) (event : XtnLifeEvent) :
    (event.Completes lives → LivesInv (xtnLifeStep lives event)) ∧
    (MultipartCompleted (xtnLifeStep lives event) → event.Completes lives) := by
  cases event with
  | send request =>
    refine ⟨inv.send, fun completed unwatched => ?_⟩
    obtain ⟨record, member, multipart, stopped, -⟩ :=
      cntlrSendMsgToDp_unwatched inv.timed unwatched
    exact stopped (completed.watched record member multipart)
  | reply datapath xid reply =>
    obtain ⟨timed, carries⟩ := handleReply_timed inv.timed xid datapath reply
    have condition :
        (∀ queued uninitialised, reply = .barrierReply queued uninitialised →
          cntlrGetXtnDetails lives.table xid datapath ≠ none →
            WatchesAll (takeThroughBarrier queued)) ↔
          XtnLifeEvent.Completes lives (.reply datapath xid reply) := by
      cases reply with
      | barrierReply queued uninitialised =>
        exact ⟨fun all => all _ _ rfl, by rintro all _ _ ⟨⟩; exact all⟩
      | _ => exact iff_of_true nofun trivial
    have watched := (handleReply_watched_iff inv.timed inv.completed.watched xid datapath
      reply).trans condition
    exact ⟨fun completes => inv.replied timed (watched.mpr completes) carries,
      fun completed => watched.mp completed.watched⟩
  | timeout recNo => exact inv.timeout recNo
  | stopped recNo => exact ⟨fun _ => inv.stopped recNo, fun _ => trivial⟩

end LivesInv

/-! ## The runs -/

end OpenFlowController.Coreapp
