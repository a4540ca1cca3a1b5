/-
Module: Coreapp.XtnMatching
Purpose: Every callback that a reply calls belongs to a live record of the replying datapath
  and of the answered request, and a request that is no multipart request is answered once, in
  every run whose replies fit the record that the transaction table finds for them; and the
  handling of a barrier reply, with the messages queued behind the barrier.
Source: ofproto/src/messages/of_cntlr_msg.c 2734-2824; ofproto/src/coreapp/cntlr_xtn.c 249-275;
  ofproto/src/include/cntlr_list.h 153-164
Trusted boundary: a call through an uninitialised pointer or through NULL is undefined
-/
import OpenFlowController.Coreapp.CntlrXtn

namespace OpenFlowController.Coreapp

open Include List Library

/-! ## The table -/

/-- The records and timers have numbers below the next one, and no two records
share theirs. -/
structure XtnTable.Numbered (table : XtnTable) : Prop where
  records : ∀ record ∈ table.records, record.recNo < table.nextRec
  timers : ∀ record ∈ table.timers, record.recNo < table.nextRec
  distinct : (table.records.map TransactnRec.recNo).Nodup

/-- No record comes back: what is in the later table was in the earlier one or is
new. -/
structure XtnTable.Extends (table later : XtnTable) : Prop where
  nextRec : table.nextRec ≤ later.nextRec
  records : ∀ record ∈ later.records, record ∈ table.records ∨ table.nextRec ≤ record.recNo

namespace XtnTable

variable {table later last : XtnTable}

theorem Numbered.create (host : ByteOrder) (initValue : UInt32) :
    (XtnTable.create host initValue).Numbered := by
  constructor <;> simp [XtnTable.create]

theorem Extends.refl (table : XtnTable) : table.Extends table :=
  ⟨Nat.le_refl _, fun _ member => .inl member⟩

theorem Extends.trans (first : table.Extends later) (second : later.Extends last) :
    table.Extends last := by
  refine ⟨Nat.le_trans first.nextRec second.nextRec, ?_⟩
  intro record member
  rcases second.records record member with kept | new
  · exact first.records record kept
  · exact .inr (Nat.le_trans first.nextRec new)

theorem Numbered.delXtn (numbered : table.Numbered) (record : TransactnRec) :
    (table.delXtn record).Numbered where
  records := fun other member => numbered.records other (mem_of_mem_filter member)
  timers := fun other member => numbered.timers other (mem_of_mem_filter member)
  distinct := numbered.distinct.sublist (List.Sublist.map _ filter_sublist)

theorem Extends.delXtn (table : XtnTable) (record : TransactnRec) :
    table.Extends (table.delXtn record) :=
  ⟨Nat.le_refl _, fun _ member => .inl (mem_of_mem_filter member)⟩

theorem delXtn_removes (table : XtnTable) (record : TransactnRec) :
    ∀ other ∈ (table.delXtn record).records, other.recNo ≠ record.recNo := by
  intro other member
  simpa using of_mem_filter member

theorem get_some {xid : UInt32} {datapath : XtnDatapath} {record : TransactnRec}
    (found : cntlrGetXtnDetails table xid datapath = some record) :
    record ∈ table.records ∧ record.xid = xid := by
  have member := mem_of_find?_eq_some found
  have fits := find?_some found
  simp only [decide_eq_true_eq] at fits
  exact ⟨member, fits.2⟩

end XtnTable

section Sending

variable {table : XtnTable}

section Appended

variable {records : List TransactnRec} {new : TransactnRec} {next : Nat}

theorem below_succ (below : ∀ record ∈ records, record.recNo < next) :
    ∀ record ∈ records, record.recNo < next + 1 :=
  fun record member => Nat.lt_succ_of_lt (below record member)

theorem below_append (below : ∀ record ∈ records, record.recNo < next)
    (number : new.recNo = next) : ∀ record ∈ records ++ [new], record.recNo < next + 1 := by
  intro record member
  rcases mem_append.mp member with old | last
  · exact below_succ below record old
  · rw [mem_singleton.mp last, number]
    exact Nat.lt_succ_self _

theorem distinct_append (below : ∀ record ∈ records, record.recNo < next)
    (number : new.recNo = next) (distinct : (records.map TransactnRec.recNo).Nodup) :
    ((records ++ [new]).map TransactnRec.recNo).Nodup := by
  rw [map_append]
  refine nodup_append.mpr ⟨distinct, nodup_singleton _, ?_⟩
  intro recNo member recNo' member' same
  obtain ⟨record, old, recNoEq⟩ := mem_map.mp member
  have older := below record old
  rw [recNoEq, same, mem_singleton.mp member', number] at older
  exact Nat.lt_irrefl _ older

theorem mem_or_newer (number : new.recNo = next) :
    ∀ record ∈ records ++ [new], record ∈ records ∨ next ≤ record.recNo := by
  intro record member
  refine (mem_append.mp member).imp_right ?_
  intro last
  rw [mem_singleton.mp last]
  exact Nat.le_of_eq number.symm

end Appended

/-- A recorded request keeps the numbers and extends the table. -/
theorem cntlrRecordXtnDetails_extends (numbered : table.Numbered) (request : XtnRequest) :
    (cntlrRecordXtnDetails table request).1.Numbered ∧
      table.Extends (cntlrRecordXtnDetails table request).1 := by
  have timersBefore := below_succ numbered.timers
  have recordsBefore := below_succ numbered.records
  have timersAfter := @below_append _ (request.record table) _ numbered.timers rfl
  have recordsAfter := @below_append _ (request.record table) _ numbered.records rfl
  have distinctAfter :=
    @distinct_append _ (request.record table) _ numbered.records rfl numbered.distinct
  unfold cntlrRecordXtnDetails
  cases request.outcomes.recordAllocated with
  | false => exact ⟨numbered, XtnTable.Extends.refl table⟩
  | true =>
  cases request.outcomes.timer with
  | failure =>
    exact ⟨⟨recordsBefore, timersBefore, numbered.distinct⟩, Nat.le_succ _,
      fun record member => .inl member⟩
  | success =>
    cases request.outcomes.nodeAppended with
    | false =>
      exact ⟨⟨recordsBefore, timersAfter, numbered.distinct⟩, Nat.le_succ _,
        fun record member => .inl member⟩
    | true =>
      exact ⟨⟨recordsAfter, timersAfter, distinctAfter⟩, Nat.le_succ _, mem_or_newer rfl⟩
  | otherError =>
    cases request.outcomes.nodeAppended with
    | false =>
      exact ⟨⟨recordsBefore, timersBefore, numbered.distinct⟩, Nat.le_succ _,
        fun record member => .inl member⟩
    | true =>
      exact ⟨⟨recordsAfter, timersBefore, distinctAfter⟩, Nat.le_succ _, mem_or_newer rfl⟩

theorem cntlrSendMsgToDp_extends (numbered : table.Numbered) (request : XtnRequest) :
    (cntlrSendMsgToDp table request).1.Numbered ∧
      table.Extends (cntlrSendMsgToDp table request).1 := by
  obtain ⟨recorded, extended⟩ := cntlrRecordXtnDetails_extends numbered request
  unfold cntlrSendMsgToDp
  cases recordsXtn request.type with
  | false =>
    exact ⟨⟨numbered.records, numbered.timers, numbered.distinct⟩, Nat.le_refl _,
      fun record member => .inl member⟩
  | true =>
  simp only [if_true]
  split
  case h_1 => exact ⟨recorded, extended⟩
  case h_2 record _ =>
    split
    · exact ⟨recorded, extended⟩
    · exact ⟨recorded.delXtn record, extended.trans (XtnTable.Extends.delXtn _ record)⟩

theorem sendQueued_extends (queued : List XtnRequest) (numbered : table.Numbered) :
    (sendQueued queued table).1.Numbered ∧ table.Extends (sendQueued queued table).1 := by
  induction queued generalizing table with
  | nil => exact ⟨numbered, XtnTable.Extends.refl table⟩
  | cons request rest ih =>
  obtain ⟨sent, extended⟩ := cntlrSendMsgToDp_extends numbered request
  simp only [sendQueued]
  split
  · obtain ⟨last, extendedLast⟩ := ih sent
    exact ⟨last, extended.trans extendedLast⟩
  · exact ⟨sent, extended⟩

/-- Nothing fails while the message is recorded and sent. -/
def XtnRequest.Sent (request : XtnRequest) : Prop :=
  request.outcomes.recordAllocated = true ∧ request.outcomes.timer ≠ .failure ∧
    request.outcomes.nodeAppended = true ∧ request.outcomes.msgSent = true

instance (request : XtnRequest) : Decidable request.Sent :=
  inferInstanceAs (Decidable (_ ∧ _ ∧ _ ∧ _))

theorem cntlrSendMsgToDp_sent {request : XtnRequest} (sent : request.Sent) :
    (cntlrSendMsgToDp table request).2 = true := by
  obtain ⟨allocated, timed, appended, sent⟩ := sent
  unfold cntlrSendMsgToDp
  cases recordsXtn request.type with
  | false => exact sent
  | true => simp [cntlrRecordXtnDetails, allocated, timed, appended, sent]

theorem sendQueued_sent {queued : List XtnRequest} (sent : ∀ request ∈ queued, request.Sent) :
    (sendQueued queued table).2 = true := by
  induction queued generalizing table with
  | nil => rfl
  | cons request rest ih =>
  have first := @cntlrSendMsgToDp_sent table _ (sent request mem_cons_self)
  simp only [sendQueued, first, if_true]
  exact ih fun other member => sent other (mem_cons_of_mem _ member)

end Sending

/-! ## Matching -/

/-- The record is that of the request which the reply answers. -/
def XtnReply.Answers (record : TransactnRec) : XtnReply → Prop
  | .echoReply => record.msgType = Ofpt.echoRequest
  | .getConfigReply => record.msgType = Ofpt.getConfigRequest
  | .roleReply => record.msgType = Ofpt.roleRequest
  | .getAsyncReply => record.msgType = Ofpt.getAsyncRequest
  | .barrierReply _ _ => record.msgType = Ofpt.barrierRequest
  | .multipartReply type _ _ =>
    record.msgType = Ofpt.multipartRequest ∧ record.msgSubtype = type
  | .error type multipartType _ =>
    record.msgType = type ∧
      (type = Ofpt.multipartRequest → record.msgSubtype = multipartType)

instance (record : TransactnRec) (reply : XtnReply) : Decidable (reply.Answers record) := by
  cases reply <;> unfold XtnReply.Answers <;> infer_instance

/-- The record that the table finds is of the datapath, and of the request that
the reply answers. -/
def XtnReply.FitsFound (table : XtnTable) (datapath : XtnDatapath) (xid : UInt32)
    (reply : XtnReply) : Prop :=
  ∀ record ∈ cntlrGetXtnDetails table xid datapath,
    record.dpHandle = datapath.datapathHandle ∧ reply.Answers record

instance (table : XtnTable) (datapath : XtnDatapath) (xid : UInt32) (reply : XtnReply) :
    Decidable (reply.FitsFound table datapath xid) :=
  inferInstanceAs (Decidable (∀ _ ∈ _, _))

/-- The events after which the callbacks are those of the answered requests.  An
error whose data is no multipart request calls none; a barrier reply has to find a
record, and the messages queued behind the barrier to be sent. -/
def XtnEvent.Fits (history : XtnHistory) : XtnEvent → Prop
  | .send _ => True
  | .timeout _ => True
  | .reply datapath xid answer =>
    match answer with
    | .error type _ _ =>
      type = Ofpt.multipartRequest → answer.FitsFound history.table datapath xid
    | .barrierReply queued _ =>
      (cntlrGetXtnDetails history.table xid datapath).isSome = true ∧
        answer.FitsFound history.table datapath xid ∧
          ∀ request ∈ takeThroughBarrier queued, request.Sent
    | _ => answer.FitsFound history.table datapath xid

instance (history : XtnHistory) (event : XtnEvent) : Decidable (event.Fits history) := by
  cases event with
  | send request => exact inferInstanceAs (Decidable True)
  | timeout recNo => exact inferInstanceAs (Decidable True)
  | reply datapath xid answer =>
    cases answer <;> unfold XtnEvent.Fits <;> infer_instance

/-- Every call of a reply is through a record that was live when the reply came,
of the replying datapath, with the reply's transaction id and of the answered
request, and is a call of the callback stored in it. -/
def XtnEvent.Matched (history : XtnHistory) : XtnEvent → Prop
  | .reply datapath xid answer =>
    ∀ call ∈ (handleReply history.table xid datapath answer).2,
      ∃ record ∈ history.table.records,
        record.dpHandle = datapath.datapathHandle ∧ record.xid = xid ∧
          answer.Answers record ∧ call.record = record ∧ call.callback = record.callbackFn
  | .send _ => True
  | .timeout _ => True

instance (history : XtnHistory) (event : XtnEvent) : Decidable (event.Matched history) := by
  cases event <;> unfold XtnEvent.Matched <;> infer_instance

/-- The call answers a request that is no multipart request. -/
def XtnCall.IsSingle (call : XtnCall) : Prop :=
  call.record.msgType ≠ Ofpt.multipartRequest

instance (call : XtnCall) : Decidable call.IsSingle :=
  inferInstanceAs (Decidable (_ ≠ _))

/-- A request that is no multipart request has its callback called at most once,
and its record is not found any more afterwards. -/
structure CallsOnce (history : XtnHistory) : Prop where
  once : ∀ recNo, (history.calls.countP fun call => call.IsSingle ∧ call.record.recNo = recNo) ≤ 1
  spent : ∀ call ∈ history.calls, call.IsSingle →
    ∀ record ∈ history.table.records, record.recNo ≠ call.record.recNo

/-- The numbers of the records whose single requests were answered. -/
def XtnHistory.answered (history : XtnHistory) : List Nat :=
  (history.calls.filter fun call => call.IsSingle).map fun call => call.record.recNo

/-- What holds of every history of fitting events. -/
structure XtnInv (history : XtnHistory) : Prop where
  numbered : history.table.Numbered
  called : ∀ call ∈ history.calls, call.record.recNo < history.table.nextRec
  spent : ∀ recNo ∈ history.answered, ∀ record ∈ history.table.records, record.recNo ≠ recNo
  once : history.answered.Nodup

namespace XtnInv

variable {history : XtnHistory} {later : XtnTable}

theorem create (host : ByteOrder) (initValue : UInt32) :
    XtnInv (XtnHistory.create host initValue) where
  numbered := XtnTable.Numbered.create host initValue
  called := by simp [XtnHistory.create]
  spent := by simp [XtnHistory.create, XtnHistory.answered]
  once := by simp [XtnHistory.create, XtnHistory.answered]

theorem answered_known (inv : XtnInv history) :
    ∀ recNo ∈ history.answered, recNo < history.table.nextRec := by
  intro recNo member
  obtain ⟨call, single, rfl⟩ := mem_map.mp member
  exact inv.called call (mem_of_mem_filter single)

theorem spent_later (inv : XtnInv history) (extended : history.table.Extends later) :
    ∀ recNo ∈ history.answered, ∀ record ∈ later.records, record.recNo ≠ recNo := by
  intro recNo member record laterMember
  rcases extended.records record laterMember with kept | new
  · exact inv.spent recNo member record kept
  · exact Nat.ne_of_gt (Nat.lt_of_lt_of_le (inv.answered_known recNo member) new)

theorem multipart (inv : XtnInv history) (numbered : later.Numbered)
    (extended : history.table.Extends later) {calls : List XtnCall}
    (known : ∀ call ∈ calls, call.record.recNo < history.table.nextRec)
    (none' : ∀ call ∈ calls, ¬ call.IsSingle) :
    XtnInv { table := later, calls := history.calls ++ calls } := by
  have noSingle : (calls.filter fun call => call.IsSingle) = [] := by
    simpa [filter_eq_nil_iff] using none'
  have same : XtnHistory.answered { table := later, calls := history.calls ++ calls } =
      history.answered := by
    simp [XtnHistory.answered, noSingle]
  constructor
  case numbered => exact numbered
  case called =>
    intro call member
    rcases mem_append.mp member with old | new
    · exact Nat.lt_of_lt_of_le (inv.called call old) extended.nextRec
    · exact Nat.lt_of_lt_of_le (known call new) extended.nextRec
  case spent =>
    rw [same]
    exact inv.spent_later extended
  case once =>
    rw [same]
    exact inv.once

theorem silent (inv : XtnInv history) (numbered : later.Numbered)
    (extended : history.table.Extends later) :
    XtnInv { table := later, calls := history.calls } := by
  have quiet := @inv.multipart _ _ numbered extended [] (by simp) (by simp)
  simpa using quiet

/-- The reply of a record that leaves the table keeps the invariant. -/
theorem answer {record : TransactnRec} (inv : XtnInv history) (numbered : later.Numbered)
    (extended : history.table.Extends later) (live : record ∈ history.table.records)
    (deleted : ∀ other ∈ later.records, other.recNo ≠ record.recNo) :
    XtnInv { table := later, calls := history.calls ++ [record.call] } := by
  by_cases single : record.call.IsSingle
  · have grown : XtnHistory.answered { table := later, calls := history.calls ++ [record.call] } =
        history.answered ++ [record.recNo] := by
      have kept : ([record.call].filter fun call => call.IsSingle) = [record.call] := by
        simpa using single
      simp only [XtnHistory.answered, filter_append, kept, map_append]
      rfl
    constructor
    case numbered => exact numbered
    case called =>
      intro call member
      rcases mem_append.mp member with old | new
      · exact Nat.lt_of_lt_of_le (inv.called call old) extended.nextRec
      · rw [mem_singleton] at new
        subst new
        exact Nat.lt_of_lt_of_le (inv.numbered.records record live) extended.nextRec
    case spent =>
      rw [grown]
      intro recNo member other laterMember
      rcases mem_append.mp member with old | new
      · exact inv.spent_later extended recNo old other laterMember
      · rw [mem_singleton] at new
        subst new
        exact deleted other laterMember
    case once =>
      rw [grown]
      refine nodup_append.mpr ⟨inv.once, nodup_singleton _, ?_⟩
      intro recNo member recNo' member' same
      rw [mem_singleton] at member'
      subst member' same
      exact inv.spent _ member record live rfl
  · refine inv.multipart numbered extended ?_ ?_
    · intro call member
      rw [mem_singleton] at member
      subst member
      exact inv.numbered.records record live
    · intro call member
      rw [mem_singleton] at member
      subst member
      exact single

theorem callsOnce (inv : XtnInv history) : CallsOnce history where
  once := by
    intro recNo
    have atMost := nodup_iff_count_le_one.mp inv.once recNo
    rw [XtnHistory.answered, List.count, countP_map, countP_filter] at atMost
    refine Nat.le_trans (Nat.le_of_eq ?_) atMost
    apply countP_congr
    intro call _
    simp [and_comm]
  spent := by
    intro call member single record live
    refine inv.spent _ (mem_map_of_mem ?_) record live
    exact mem_filter.mpr ⟨member, by simpa using single⟩

end XtnInv

/-! ## Events -/

namespace XtnInv

variable {history : XtnHistory} {datapath : XtnDatapath} {xid : UInt32}

theorem send (inv : XtnInv history) (request : XtnRequest) :
    XtnInv (xtnStep history (.send request)) := by
  obtain ⟨numbered, extended⟩ := cntlrSendMsgToDp_extends inv.numbered request
  exact inv.silent numbered extended

theorem delete (inv : XtnInv history) (record : TransactnRec) :
    XtnInv { table := history.table.delXtn record, calls := history.calls } :=
  inv.silent (inv.numbered.delXtn record) (XtnTable.Extends.delXtn _ record)

theorem replyOnce (inv : XtnInv history) :
    XtnInv
      { table := (replyOnce history.table xid datapath).1
        calls := history.calls ++ (replyOnce history.table xid datapath).2 } := by
  unfold Coreapp.replyOnce
  cases found : cntlrGetXtnDetails history.table xid datapath with
  | none => simpa using inv
  | some record =>
  have live := (XtnTable.get_some found).1
  dsimp only
  split
  · exact inv.answer (inv.numbered.delXtn record) (XtnTable.Extends.delXtn _ record) live
      (XtnTable.delXtn_removes _ record)
  · simpa using inv.delete record

theorem barrierReply {queued : List XtnRequest} {uninitialised : TransactnRec}
    (inv : XtnInv history)
    (found : (cntlrGetXtnDetails history.table xid datapath).isSome = true)
    (sent : ∀ request ∈ takeThroughBarrier queued, request.Sent) :
    XtnInv (xtnStep history (.reply datapath xid (.barrierReply queued uninitialised))) := by
  obtain ⟨record, foundEq⟩ := Option.isSome_iff_exists.mp found
  have live := (XtnTable.get_some foundEq).1
  obtain ⟨numbered, extended⟩ :=
    sendQueued_extends (takeThroughBarrier queued) inv.numbered
  simp only [xtnStep, handleReply, ofProcessBarrierReplymsg, foundEq, sendQueued_sent sent, if_true]
  exact inv.answer (numbered.delXtn record)
    (extended.trans (XtnTable.Extends.delXtn _ record)) live (XtnTable.delXtn_removes _ record)

/-- A part of a reply that fits keeps the invariant. -/
theorem multipartReply {type : UInt16} {more : Bool} {calls : Nat} (inv : XtnInv history)
    (fits : (XtnReply.multipartReply type more calls).FitsFound history.table datapath xid) :
    XtnInv (xtnStep history (.reply datapath xid (.multipartReply type more calls))) := by
  simp only [xtnStep, handleReply, ofProcessMultipartReplymsg]
  cases found : cntlrGetXtnDetails history.table xid datapath with
  | none => simpa using inv
  | some record =>
  have live := (XtnTable.get_some found).1
  have isMultipart := (fits record found).2.1
  have notSingle : ∀ call ∈ replicate calls record.call, ¬ call.IsSingle := by
    intro call member
    rw [eq_of_mem_replicate member]
    exact fun single => single isMultipart
  have known : ∀ call ∈ replicate calls record.call, call.record.recNo < history.table.nextRec := by
    intro call member
    rw [eq_of_mem_replicate member]
    exact inv.numbered.records record live
  dsimp only
  split
  · cases more with
    | true => exact inv.multipart inv.numbered (XtnTable.Extends.refl _) known notSingle
    | false =>
      exact inv.multipart (inv.numbered.delXtn record) (XtnTable.Extends.delXtn _ record)
        known notSingle
  · simpa using inv.delete record

theorem error {type : UInt8} {multipartType : UInt16} {subtype : UInt8} (inv : XtnInv history) :
    XtnInv (xtnStep history (.reply datapath xid (.error type multipartType subtype))) := by
  simp only [xtnStep, handleReply, ofHandleErrorMsgEvent]
  split
  case isFalse => simpa using inv
  case isTrue =>
  cases found : cntlrGetXtnDetails history.table xid datapath with
  | none => simpa using inv
  | some record =>
  have live := (XtnTable.get_some found).1
  dsimp only
  split
  · exact inv.answer (inv.numbered.delXtn record) (XtnTable.Extends.delXtn _ record) live
      (XtnTable.delXtn_removes _ record)
  · simpa using inv.delete record

theorem timeout (inv : XtnInv history) (recNo : Nat) :
    XtnInv (xtnStep history (.timeout recNo)) := by
  simp only [xtnStep, cntlrXtnRecrodCleanupFunc]
  cases found : history.table.timers.find? fun record => record.recNo = recNo with
  | none => simpa using inv
  | some record =>
  have known := inv.numbered.timers record (mem_of_find?_eq_some found)
  dsimp only
  split
  case isTrue isMultipart =>
    refine inv.multipart (inv.numbered.delXtn record) (XtnTable.Extends.delXtn _ record) ?_ ?_
    · intro call member
      rw [mem_singleton] at member
      subst member
      exact known
    · intro call member
      rw [mem_singleton] at member
      subst member
      exact fun single => single isMultipart.1
  case isFalse => simpa using inv.delete record

theorem step {event : XtnEvent} (inv : XtnInv history) (fits : event.Fits history) :
    XtnInv (xtnStep history event) := by
  cases event with
  | send request => exact inv.send request
  | timeout recNo => exact inv.timeout recNo
  | reply datapath xid answer =>
  cases answer with
  | echoReply => exact inv.replyOnce
  | getConfigReply => exact inv.replyOnce
  | roleReply => exact inv.replyOnce
  | getAsyncReply => exact inv.replyOnce
  | barrierReply queued uninitialised => exact inv.barrierReply fits.1 fits.2.2
  | multipartReply type more calls => exact inv.multipartReply fits
  | error type multipartType subtype => exact inv.error

end XtnInv

/-- An event that fits is matched with its request. -/
theorem XtnEvent.Fits.matched {history : XtnHistory} {event : XtnEvent}
    (fits : event.Fits history) : event.Matched history := by
  cases event with
  | send request => trivial
  | timeout recNo => trivial
  | reply datapath xid answer =>
  have throughFound : ∀ record, cntlrGetXtnDetails history.table xid datapath = some record →
      answer.FitsFound history.table datapath xid → ∀ call, call = record.call →
        ∃ record ∈ history.table.records,
          record.dpHandle = datapath.datapathHandle ∧ record.xid = xid ∧
            answer.Answers record ∧ call.record = record ∧
              call.callback = record.callbackFn := by
    rintro record found fitsFound call rfl
    obtain ⟨live, sameXid⟩ := XtnTable.get_some found
    obtain ⟨sameDatapath, answers⟩ := fitsFound record found
    exact ⟨record, live, sameDatapath, sameXid, answers, rfl, rfl⟩
  have once : answer.FitsFound history.table datapath xid →
      ∀ call ∈ (replyOnce history.table xid datapath).2,
        ∃ record ∈ history.table.records,
          record.dpHandle = datapath.datapathHandle ∧ record.xid = xid ∧
            answer.Answers record ∧ call.record = record ∧
              call.callback = record.callbackFn := by
    intro fitsFound call member
    unfold replyOnce at member
    cases found : cntlrGetXtnDetails history.table xid datapath with
    | none => simp [found] at member
    | some record =>
    apply throughFound record found fitsFound
    rw [found] at member
    simp only at member
    split at member
    · exact mem_singleton.mp member
    · cases member
  intro call member
  cases answer with
  | echoReply => exact once fits call member
  | getConfigReply => exact once fits call member
  | roleReply => exact once fits call member
  | getAsyncReply => exact once fits call member
  | barrierReply queued uninitialised =>
    obtain ⟨isFound, fitsFound, sent⟩ := fits
    obtain ⟨record, found⟩ := Option.isSome_iff_exists.mp isFound
    apply throughFound record found fitsFound
    simpa [handleReply, ofProcessBarrierReplymsg, found, sendQueued_sent sent] using member
  | multipartReply type more calls =>
    cases found : cntlrGetXtnDetails history.table xid datapath with
    | none => simp [handleReply, ofProcessMultipartReplymsg, found] at member
    | some record =>
    apply throughFound record found fits
    simp only [handleReply, ofProcessMultipartReplymsg, found] at member
    split at member
    · exact eq_of_mem_replicate member
    · cases member
  | error type multipartType subtype =>
  simp only [handleReply, ofHandleErrorMsgEvent] at member
  split at member
  case isFalse => cases member
  case isTrue =>
  cases found : cntlrGetXtnDetails history.table xid datapath with
  | none => simp [found] at member
  | some record =>
  simp only [found] at member
  split at member
  case isTrue isMultipart =>
    exact throughFound record found (fits isMultipart.1) call (mem_singleton.mp member)
  case isFalse => cases member

/-- In every run of fitting events, a reply calls only the callback of the request
it answers, and a request that is no multipart request is answered once. -/
theorem xtn_replies_match (host : ByteOrder) (hashTableInitValue : UInt32) (events : List XtnEvent)
    (fits : Along xtnStep (fun history event => event.Fits history)
      (XtnHistory.create host hashTableInitValue) events) :
    Along xtnStep (fun history event => event.Matched history)
        (XtnHistory.create host hashTableInitValue) events ∧
      CallsOnce (events.foldl xtnStep (XtnHistory.create host hashTableInitValue)) := by
  constructor
  · exact Along.mono (fun _ _ fitting => fitting.matched) fits
  · have inv : XtnInv (events.foldl xtnStep (XtnHistory.create host hashTableInitValue)) :=
      Along.invariant (fun _ _ inv fitting => XtnInv.step inv fitting) (XtnInv.create _ _) fits
    exact inv.callsOnce

/-- An echo request and a barrier request, answered, and a flow statistics request
that is answered in two parts. -/
theorem xtn_replies_match_some :
    let outcomes : XtnOutcomes :=
      { recordAllocated := true, timer := .success, nodeAppended := true, msgSent := true }
    let datapath : XtnDatapath := { datapathHandle := 1, datapathId0 := 7, datapathId1 := 0 }
    let request (type : UInt8) (callback : Nat) : XtnRequest :=
      { datapath := datapath, type := type, multipartType := 0x0100, callbackFn := some callback
        appPvtArg1 := 0, appPvtArg2 := 0, outcomes := outcomes }
    let unset : TransactnRec := (request 0 0).record (XtnTable.create .littleEndian 0)
    let events : List XtnEvent :=
      [.send (request Ofpt.echoRequest 10), .send (request Ofpt.barrierRequest 11),
        .send (request Ofpt.multipartRequest 12), .reply datapath 1 .echoReply,
        .reply datapath 2 (.barrierReply [] unset),
        .reply datapath 3 (.multipartReply 0x0100 true 2),
        .reply datapath 3 (.multipartReply 0x0100 false 1), .reply datapath 1 .echoReply]
    Along xtnStep (fun history event => event.Matched history)
        (XtnHistory.create .littleEndian 5) events ∧
      CallsOnce (events.foldl xtnStep (XtnHistory.create .littleEndian 5)) :=
  xtn_replies_match _ _ _ (by decide +kernel)

/-- A group statistics reply to a barrier request calls the callback that was
registered for the barrier. -/
theorem multipart_reply_calls_barrier_callback :
    let outcomes : XtnOutcomes :=
      { recordAllocated := true, timer := .success, nodeAppended := true, msgSent := true }
    let datapath : XtnDatapath := { datapathHandle := 1, datapathId0 := 7, datapathId1 := 0 }
    let barrier : XtnRequest :=
      { datapath := datapath, type := Ofpt.barrierRequest, multipartType := 0
        callbackFn := some 11, appPvtArg1 := 0, appPvtArg2 := 0, outcomes := outcomes }
    let events : List XtnEvent :=
      [.send barrier, .reply datapath 1 (.multipartReply 0x0600 false 1)]
    ¬ (Along xtnStep (fun history event => event.Matched history)
          (XtnHistory.create .littleEndian 5) events ∧
        CallsOnce (events.foldl xtnStep (XtnHistory.create .littleEndian 5))) := by
  intro outcomes datapath barrier events both
  have mismatched : ¬ Along xtnStep (fun history event => event.Matched history)
      (XtnHistory.create .littleEndian 5) events := by decide +kernel
  exact mismatched both.1

/-! ## The handler -/

/-- The transaction table, with `msg_queue_in_barrier_state` and `barrier_state` of the datapath
that replies. -/
structure BarrierState where
  table : XtnTable
  queue : List XtnRequest
  barrierState : Bool

inductive ResponseStatus where
  | success
  | error

/-- A call of `of_barrier_reply_notification_fn`; an error is told without the arguments of the
application. -/
structure BarrierCall where
  record : TransactnRec
  callback : Option Nat
  datapathHandle : UInt64
  appPvtArgs : Option (Nat × Nat)
  status : ResponseStatus

def TransactnRec.barrierSuccess (record : TransactnRec) (datapath : XtnDatapath) : BarrierCall where
  record := record
  callback := record.callbackFn
  datapathHandle := datapath.datapathHandle
  appPvtArgs := some (record.appPvtArg1, record.appPvtArg2)
  status := .success

def TransactnRec.barrierError (record : TransactnRec) (datapath : XtnDatapath) : BarrierCall where
  record := record
  callback := record.callbackFn
  datapathHandle := datapath.datapathHandle
  appPvtArgs := none
  status := .error

/-- `OF_LIST_REMOVE_HEAD_AND_SCAN` over the queue: messages are sent up to the next barrier
request, or until one fails, and the one that ends the scan is not taken from the queue. -/
def sendBehindBarrier : List XtnRequest → XtnTable → XtnTable × List XtnRequest × Bool
  | [], table => (table, [], true)
  | request :: rest, table =>
    let sent := cntlrSendMsgToDp table request
    if sent.2 = false then (sent.1, request :: rest, false)
    else if request.type = Ofpt.barrierRequest then (sent.1, request :: rest, true)
    else sendBehindBarrier rest sent.1

/-- What a barrier reply leaves, with the calls it makes. -/
structure BarrierOutcome where
  state : BarrierState
  calls : List BarrierCall
  undefined : Bool

namespace BarrierState

/-- `of_process_barrier_replymsg`.  Without a record it goes on with the uninitialised
`p_xtn_rec`. -/
def ofProcessBarrierReplymsg (state : BarrierState) (xid : UInt32) (datapath : XtnDatapath) :
    BarrierOutcome :=
  match cntlrGetXtnDetails state.table xid datapath with
  | none => { state := state, calls := [], undefined := true }
  | some record =>
    let sent := sendBehindBarrier state.queue state.table
    { state :=
        { table := sent.1.delXtn record
          queue := sent.2.1
          barrierState := if sent.2.1 = [] then false else state.barrierState }
      calls :=
        if sent.2.2 then [record.barrierSuccess datapath]
        else [record.barrierSuccess datapath, record.barrierError datapath]
      undefined := record.callbackFn = none }

end BarrierState

/-! ## What should hold -/

/-- A live record of a barrier request that was sent to the datapath with the transaction id. -/
def TransactnRec.IsBarrierOf (record : TransactnRec) (xid : UInt32) (datapath : XtnDatapath) :
    Prop :=
  record.msgType = Ofpt.barrierRequest ∧ record.xid = xid ∧
    record.dpHandle = datapath.datapathHandle

/-- Without a record of the barrier request nothing is called and nothing changes; where there is
one, one of its two callbacks is called, once, and the record is removed. -/
structure BarrierState.Answered (state : BarrierState) (xid : UInt32) (datapath : XtnDatapath) :
    Prop where
  defined : (state.ofProcessBarrierReplymsg xid datapath).undefined = false
  unmatched : (∀ record ∈ state.table.records, ¬ record.IsBarrierOf xid datapath) →
    (state.ofProcessBarrierReplymsg xid datapath).calls = [] ∧
      (state.ofProcessBarrierReplymsg xid datapath).state = state
  matched : (∃ record ∈ state.table.records, record.IsBarrierOf xid datapath) →
    ∃ record ∈ state.table.records, record.IsBarrierOf xid datapath ∧
      ((state.ofProcessBarrierReplymsg xid datapath).calls = [record.barrierSuccess datapath] ∨
        (state.ofProcessBarrierReplymsg xid datapath).calls = [record.barrierError datapath]) ∧
      record ∉ (state.ofProcessBarrierReplymsg xid datapath).state.table.records

/-! ## When it does -/

/-- The message is recorded, where its type asks for that, and sent. -/
def XtnRequest.Goes (request : XtnRequest) : Prop :=
  (recordsXtn request.type = true → request.outcomes.recordAllocated = true ∧
    request.outcomes.timer ≠ .failure ∧ request.outcomes.nodeAppended = true) ∧
      request.outcomes.msgSent = true

/-- The first record of the bucket with the transaction id is that of the barrier request, its
callback is not NULL, and every message up to the next barrier request goes. -/
def BarrierState.Fits (state : BarrierState) (xid : UInt32) (datapath : XtnDatapath) : Prop :=
  ∃ record, cntlrGetXtnDetails state.table xid datapath = some record ∧
    record.IsBarrierOf xid datapath ∧ record.callbackFn ≠ none ∧
      ∀ request ∈ takeThroughBarrier state.queue, request.Goes

attribute [local simp] cntlrRecordXtnDetails

theorem cntlrSendMsgToDp_iff {request : XtnRequest} {table : XtnTable} :
    (cntlrSendMsgToDp table request).2 = true ↔ request.Goes := by
  unfold cntlrSendMsgToDp XtnRequest.Goes
  cases recordsXtn request.type with
  | false => simp
  | true =>
  cases allocated : request.outcomes.recordAllocated with
  | false => simp [allocated]
  | true =>
  by_cases timed : request.outcomes.timer = .failure
  · simp [allocated, timed]
  cases appended : request.outcomes.nodeAppended with
  | false => simp [allocated, timed, appended]
  | true =>
  cases sent : request.outcomes.msgSent with
  | false => simp [allocated, timed, appended]
  | true => simp [allocated, timed, appended]

theorem sendBehindBarrier_iff {queue : List XtnRequest} {table : XtnTable} :
    (sendBehindBarrier queue table).2.2 = true ↔
      ∀ request ∈ takeThroughBarrier queue, request.Goes := by
  induction queue generalizing table with
  | nil => simp [sendBehindBarrier, takeThroughBarrier]
  | cons request rest ih =>
  rw [sendBehindBarrier]
  by_cases goes : request.Goes
  · have sent := @cntlrSendMsgToDp_iff request table
    rw [if_neg (by rw [sent.mpr goes]; exact nofun)]
    by_cases barrier : request.type = Ofpt.barrierRequest
    · rw [if_pos barrier]
      simp [takeThroughBarrier, barrier, goes]
    · rw [if_neg barrier, ih]
      simp [takeThroughBarrier, barrier, goes]
  have failed : (cntlrSendMsgToDp table request).2 = false :=
    eq_false_of_ne_true fun sent => goes (cntlrSendMsgToDp_iff.mp sent)
  rw [if_pos failed]
  refine iff_of_false nofun fun all => goes (all request ?_)
  rw [takeThroughBarrier]
  split <;> exact List.mem_cons_self

theorem delXtn_not_mem (table : XtnTable) (record : TransactnRec) :
    record ∉ (table.delXtn record).records := by
  intro member
  have kept := (List.mem_filter.mp member).2
  simp at kept

/-- A barrier reply is answered exactly where it finds the record of its barrier request and the
messages behind the barrier go. -/
theorem barrier_answered_iff (state : BarrierState) (xid : UInt32) (datapath : XtnDatapath) :
    state.Answered xid datapath ↔ state.Fits xid datapath := by
  cases found : cntlrGetXtnDetails state.table xid datapath with
  | none =>
    refine iff_of_false (fun answered => ?_) ?_
    · have defined := answered.defined
      rw [BarrierState.ofProcessBarrierReplymsg, found] at defined
      cases defined
    · rintro ⟨record, isFound, -⟩
      rw [found] at isFound
      cases isFound
  | some record =>
  have live : record ∈ state.table.records := List.mem_of_find?_eq_some found
  have outcome : state.ofProcessBarrierReplymsg xid datapath =
      { state :=
          { table := (sendBehindBarrier state.queue state.table).1.delXtn record
            queue := (sendBehindBarrier state.queue state.table).2.1
            barrierState := if (sendBehindBarrier state.queue state.table).2.1 = [] then false
              else state.barrierState }
        calls := if (sendBehindBarrier state.queue state.table).2.2 then
            [record.barrierSuccess datapath]
          else [record.barrierSuccess datapath, record.barrierError datapath]
        undefined := record.callbackFn = none } := by
    rw [BarrierState.ofProcessBarrierReplymsg, found]
  have called : (state.ofProcessBarrierReplymsg xid datapath).calls ≠ [] := by
    rw [outcome]
    dsimp only
    split <;> exact List.cons_ne_nil _ _
  constructor
  · intro answered
    have defined := answered.defined
    rw [outcome] at defined
    have matched : ∃ record ∈ state.table.records, record.IsBarrierOf xid datapath := by
      by_contra unmatched
      exact called (answered.unmatched fun other member isBarrier =>
        unmatched ⟨other, member, isBarrier⟩).1
    obtain ⟨other, otherLive, isBarrier, calls, -⟩ := answered.matched matched
    rw [outcome] at calls
    by_cases sent : (sendBehindBarrier state.queue state.table).2.2 = true
    · rw [if_pos sent] at calls
      have same : other = record := by
        rcases calls with success | error
        · exact (congrArg BarrierCall.record (List.cons.inj success).1).symm
        · exact (congrArg BarrierCall.record (List.cons.inj error).1).symm
      rw [same] at isBarrier
      exact ⟨record, found, isBarrier, by simpa using defined, sendBehindBarrier_iff.mp sent⟩
    · rw [if_neg sent] at calls
      rcases calls with success | error
      · exact absurd (List.cons.inj success).2 (List.cons_ne_nil _ _)
      · exact absurd (List.cons.inj error).2 (List.cons_ne_nil _ _)
  · rintro ⟨other, isFound, isBarrier, callable, goes⟩
    rw [found] at isFound
    cases isFound
    constructor
    case defined =>
      rw [outcome]
      simpa using callable
    case unmatched => exact fun unmatched => absurd isBarrier (unmatched record live)
    case matched =>
      refine fun _ => ⟨record, live, isBarrier, .inl ?_, ?_⟩
      · rw [outcome]
        rw [if_pos (sendBehindBarrier_iff.mpr goes)]
      · rw [outcome]
        exact delXtn_not_mem _ _

/-- A barrier reply with an unknown transaction id calls through an uninitialised pointer. -/
theorem unknown_barrier_not_answered :
    ¬ BarrierState.Answered ⟨XtnTable.create .littleEndian 0, [], false⟩ 7 ⟨1, 0, 1⟩ := by
  intro answered
  exact absurd answered.defined (by decide)

end OpenFlowController.Coreapp
