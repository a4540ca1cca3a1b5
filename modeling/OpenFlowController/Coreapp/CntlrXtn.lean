/-
Module: Coreapp.CntlrXtn
Purpose: The transaction records of requests that wait for a reply, and the
  handlers of replies, errors and timeouts that call the callbacks stored in
  them.
Source: ofproto/src/coreapp/cntlr_xtn.c, ofproto/src/include/cntlr_xtn.h,
  ofproto/src/include/controller.h, ofproto/src/transport/base/trnsprt_core.c,
  ofproto/src/messages/of_cntlr_msg.c
Trusted boundary: a bucket of the transaction table is the sequence of its records,
  and every handler runs without interruption
-/
import OpenFlowController.Include.Openflow
import OpenFlowController.Library.Run
import OpenFlowController.Utils.Timer

namespace OpenFlowController.Coreapp

open Include Utils

/-- What the transaction table reads of a `dprm_datapath_entry`: its handle, and
the two words of its `datapath_id`. -/
structure XtnDatapath where
  datapathHandle : UInt64
  datapathId0 : UInt32
  datapathId1 : UInt32

/-- `cntlr_transactn_rec_t`.  `recNo` tells the records apart over a history;
`hash` is the bucket it is appended to.  `msgSubtype` is the type field of the
multipart request as it stands in the message. -/
structure TransactnRec where
  recNo : Nat
  hash : UInt32
  xid : UInt32
  dpHandle : UInt64
  msgType : UInt8
  msgSubtype : UInt16
  callbackFn : Option Nat
  appPvtArg1 : Nat
  appPvtArg2 : Nat
deriving DecidableEq

/-- The transaction table with the records whose timers run.  A record that could not be appended
may have a timer, and one whose timer could not be started may be in a bucket. -/
structure XtnTable where
  host : ByteOrder
  hashTableInitValue : UInt32
  seqNo : UInt32
  records : List TransactnRec
  timers : List TransactnRec
  nextRec : Nat

/-- The outcomes of the pool, the timer, the table and the transport for one
message. -/
structure XtnOutcomes where
  recordAllocated : Bool
  timer : TimerStatus
  nodeAppended : Bool
  msgSent : Bool

/-- A message for a datapath, with the callback of the application. -/
structure XtnRequest where
  datapath : XtnDatapath
  type : UInt8
  multipartType : UInt16
  callbackFn : Option Nat
  appPvtArg1 : Nat
  appPvtArg2 : Nat
  outcomes : XtnOutcomes

/-! ## The table -/

/-- `OF_DOBBS_MIX`; the result is the last of its three words. -/
def ofDobbsMix (a b c : UInt32) : UInt32 :=
  let a := a - b - c ^^^ (c >>> 13)
  let b := b - c - a ^^^ (a <<< 8)
  let c := c - a - b ^^^ (b >>> 13)
  let a := a - b - c ^^^ (c >>> 12)
  let b := b - c - a ^^^ (a <<< 16)
  let c := c - a - b ^^^ (b >>> 5)
  let a := a - b - c ^^^ (c >>> 3)
  let b := b - c - a ^^^ (a <<< 10)
  c - a - b ^^^ (b >>> 15)

/-- `OF_TRANSACTION_TABLE_HASH`.  The table size is the text `5000/5` after a
remainder sign, so the quotient is taken last. -/
def ofTransactionTableHash (xid dpIdHi dpIdLo initValue : UInt32) : UInt32 :=
  ofDobbsMix (0x9e3779b9 + xid) (0x9e3779b9 + dpIdHi) (initValue + dpIdLo) % 5000 / 5

namespace XtnTable

def create (host : ByteOrder) (hashTableInitValue : UInt32) : XtnTable where
  host := host
  hashTableInitValue := hashTableInitValue
  seqNo := 0
  records := []
  timers := []
  nextRec := 0

def hashOf (table : XtnTable) (xid : UInt32) (datapath : XtnDatapath) : UInt32 :=
  ofTransactionTableHash xid datapath.datapathId0 datapath.datapathId1 table.hashTableInitValue

/-- The next transaction id; zero is left out. -/
def nextSeqNo (table : XtnTable) : UInt32 :=
  if table.seqNo + 1 = 0 then 1 else table.seqNo + 1

/-- `cntlr_del_xtn_with_rec` and `cntlr_del_xtn_with_safe_ref`: the record leaves
its bucket and its timer stops. -/
def delXtn (table : XtnTable) (record : TransactnRec) : XtnTable :=
  { table with
    records := table.records.filter fun other => other.recNo ≠ record.recNo
    timers := table.timers.filter fun other => other.recNo ≠ record.recNo }

end XtnTable

/-- The record that `cntlr_record_xtn_details` fills in. -/
def XtnRequest.record (request : XtnRequest) (table : XtnTable) : TransactnRec where
  recNo := table.nextRec
  hash := table.hashOf table.nextSeqNo request.datapath
  xid := table.nextSeqNo
  dpHandle := request.datapath.datapathHandle
  msgType := request.type
  msgSubtype := if request.type = Ofpt.multipartRequest then request.multipartType else 0
  callbackFn := request.callbackFn
  appPvtArg1 := request.appPvtArg1
  appPvtArg2 := request.appPvtArg2

/-- `cntlr_record_xtn_details`; the second component is the record unless it
returns `OF_FAILURE`. -/
def cntlrRecordXtnDetails (table : XtnTable) (request : XtnRequest) :
    XtnTable × Option TransactnRec :=
  if request.outcomes.recordAllocated then
    let record := request.record table
    let numbered := { table with seqNo := table.nextSeqNo, nextRec := table.nextRec + 1 }
    let timed :=
      if request.outcomes.timer = .success then
        { numbered with timers := table.timers ++ [record] }
      else
        numbered
    -- the other errors of the timer are not `OF_FAILURE`
    if request.outcomes.timer = .failure then
      (timed, none)
    else if request.outcomes.nodeAppended then
      ({ timed with records := table.records ++ [record] }, some record)
    else
      (timed, none)
  else
    (table, none)

/-- `cntlr_get_xtn_details`: the first record of the bucket with the transaction
id. -/
def cntlrGetXtnDetails (table : XtnTable) (xid : UInt32) (datapath : XtnDatapath) :
    Option TransactnRec :=
  table.records.find? fun record => record.hash = table.hashOf xid datapath ∧ record.xid = xid

/-- The types for which `cntlr_send_msg_to_dp` records a transaction. -/
def recordsXtn (type : UInt8) : Bool :=
  type = Ofpt.echoRequest || type = Ofpt.multipartRequest || type = Ofpt.barrierRequest ||
    type = Ofpt.groupMod || type = Ofpt.meterMod || type = Ofpt.getConfigRequest ||
    type = Ofpt.roleRequest || type = Ofpt.getAsyncRequest

/-- `cntlr_send_msg_to_dp`; the second component is `status == OF_SUCCESS`. -/
def cntlrSendMsgToDp (table : XtnTable) (request : XtnRequest) : XtnTable × Bool :=
  if recordsXtn request.type then
    let recorded := cntlrRecordXtnDetails table request
    match recorded.2 with
    | none => (recorded.1, false)
    | some record =>
      if request.outcomes.msgSent then
        (recorded.1, true)
      else
        (recorded.1.delXtn record, false)
  else
    ({ table with seqNo := table.nextSeqNo }, request.outcomes.msgSent)

/-! ## Replies -/

/-- A call of an application callback, through the pointer stored in a record. -/
structure XtnCall where
  record : TransactnRec
  callback : Option Nat

def TransactnRec.call (record : TransactnRec) : XtnCall where
  record := record
  callback := record.callbackFn

/-- The handlers that call the callback of the record they find, unless it is
`NULL`, and delete the record. -/
def replyOnce (table : XtnTable) (xid : UInt32) (datapath : XtnDatapath) :
    XtnTable × List XtnCall :=
  match cntlrGetXtnDetails table xid datapath with
  | none => (table, [])
  | some record =>
    (table.delXtn record, if record.callbackFn.isSome then [record.call] else [])

def ofEchoReplyHandler := replyOnce
def ofCfgReplyHandler := replyOnce
def ofProcessRoleReplymsg := replyOnce
def ofProcessAsyncReplymsg := replyOnce

/-- The messages that a barrier reply takes from `msg_queue_in_barrier_state`: up
to the next barrier request. -/
def takeThroughBarrier : List XtnRequest → List XtnRequest
  | [] => []
  | request :: rest =>
    if request.type = Ofpt.barrierRequest then [request]
    else request :: takeThroughBarrier rest

/-- They are sent until one fails. -/
def sendQueued : List XtnRequest → XtnTable → XtnTable × Bool
  | [], table => (table, true)
  | request :: rest, table =>
    let sent := cntlrSendMsgToDp table request
    if sent.2 then sendQueued rest sent.1 else (sent.1, false)

/-- `of_process_barrier_replymsg`.  Without a record it goes on with the
uninitialised pointer; after a queued message that could not be sent, it calls
the callback a second time. -/
def ofProcessBarrierReplymsg (table : XtnTable) (xid : UInt32) (datapath : XtnDatapath)
    (queued : List XtnRequest) (uninitialised : TransactnRec) : XtnTable × List XtnCall :=
  match cntlrGetXtnDetails table xid datapath with
  | none => (table.delXtn uninitialised, [uninitialised.call])
  | some record =>
    let sent := sendQueued (takeThroughBarrier queued) table
    (sent.1.delXtn record, if sent.2 then [record.call] else [record.call, record.call])

/-- The multipart types that have a case in the switches over them. -/
def multipartCase (type : UInt16) : Bool :=
  type ≤ Ofpmp.portDesc && type ≠ Ofpmp.queue

/-- `of_process_multipart_replymsg` for a complete reply.  `calls` is the number of
calls its decoder makes; the type of the request is not looked at. -/
def ofProcessMultipartReplymsg (table : XtnTable) (xid : UInt32) (datapath : XtnDatapath)
    (type : UInt16) (more : Bool) (calls : Nat) : XtnTable × List XtnCall :=
  match cntlrGetXtnDetails table xid datapath with
  | none => (table, [])
  | some record =>
    if multipartCase (ntohs table.host type) || ntohs table.host type = Ofpmp.experimenter then
      (if more then table else table.delXtn record, List.replicate calls record.call)
    else
      (table.delXtn record, [])

/-- The requests that `of_handle_error_msg_event` looks up. -/
def errorLooksUp (type : UInt8) : Bool :=
  type = Ofpt.echoRequest || type = Ofpt.multipartRequest || type = Ofpt.barrierRequest ||
    type = Ofpt.groupMod || type = Ofpt.getConfigRequest

def fslxBindMod : UInt8 := 2

/-- `of_handle_error_msg_event`.  `type`, `multipartType` and `subtype` are those of
the request in the error's data. -/
def ofHandleErrorMsgEvent (table : XtnTable) (xid : UInt32) (datapath : XtnDatapath)
    (type : UInt8) (multipartType : UInt16) (subtype : UInt8) : XtnTable × List XtnCall :=
  if errorLooksUp type then
    match cntlrGetXtnDetails table xid datapath with
    | none => (table, [])
    | some record =>
      let calls : Bool :=
        multipartCase (ntohs table.host multipartType) ||
          (ntohs table.host multipartType = Ofpmp.experimenter && subtype = fslxBindMod)
      (table.delXtn record, if type = Ofpt.multipartRequest ∧ calls then [record.call] else [])
  else
    (table, [])

/-- `cntlr_xtn_recrod_cleanup_func` with `clean_multipart_req_msgs`, when the timer
of a record expires. -/
def cntlrXtnRecrodCleanupFunc (table : XtnTable) (recNo : Nat) : XtnTable × List XtnCall :=
  match table.timers.find? fun record => record.recNo = recNo with
  | none => (table, [])
  | some record =>
    (table.delXtn record,
      if record.msgType = Ofpt.multipartRequest ∧ multipartCase record.msgSubtype then
        [record.call]
      else [])

/-- The replies that look up a transaction. -/
inductive XtnReply where
  | echoReply
  | getConfigReply
  | roleReply
  | getAsyncReply
  | barrierReply (queued : List XtnRequest) (uninitialised : TransactnRec)
  | multipartReply (type : UInt16) (more : Bool) (calls : Nat)
  | error (type : UInt8) (multipartType : UInt16) (subtype : UInt8)

def handleReply (table : XtnTable) (xid : UInt32) (datapath : XtnDatapath) :
    XtnReply → XtnTable × List XtnCall
  | .echoReply => ofEchoReplyHandler table xid datapath
  | .getConfigReply => ofCfgReplyHandler table xid datapath
  | .roleReply => ofProcessRoleReplymsg table xid datapath
  | .getAsyncReply => ofProcessAsyncReplymsg table xid datapath
  | .barrierReply queued uninitialised =>
    ofProcessBarrierReplymsg table xid datapath queued uninitialised
  | .multipartReply type more calls =>
    ofProcessMultipartReplymsg table xid datapath type more calls
  | .error type multipartType subtype =>
    ofHandleErrorMsgEvent table xid datapath type multipartType subtype

/-! ## Histories -/

/-- The table with the calls made so far. -/
structure XtnHistory where
  table : XtnTable
  calls : List XtnCall

def XtnHistory.create (host : ByteOrder) (hashTableInitValue : UInt32) : XtnHistory where
  table := XtnTable.create host hashTableInitValue
  calls := []

/-- A message of an application, a reply from a datapath, or an expired timer. -/
inductive XtnEvent where
  | send (request : XtnRequest)
  | reply (datapath : XtnDatapath) (xid : UInt32) (reply : XtnReply)
  | timeout (recNo : Nat)

/-- The calls of the replies and timeouts are appended to the history. -/
def xtnStep (history : XtnHistory) : XtnEvent → XtnHistory
  | .send request => { history with table := (cntlrSendMsgToDp history.table request).1 }
  | .reply datapath xid reply =>
    let handled := handleReply history.table xid datapath reply
    { table := handled.1, calls := history.calls ++ handled.2 }
  | .timeout recNo =>
    let cleaned := cntlrXtnRecrodCleanupFunc history.table recNo
    { table := cleaned.1, calls := history.calls ++ cleaned.2 }

end OpenFlowController.Coreapp
