/-
Module: Messages.PacketOut
Purpose: The calls that frame a packet-out message and send it with its data: the channel they
  choose, what they write, and exactly when both are right.
Source: messages/of_cntlr_2_sw_msgapi.c; include/cntlr_transprt.h;
  transport/base/trnsprt_channel.c; dprm/dprm.c
Trusted boundary: the handle of the datapath resolves, the reference of a channel stands for its
  table too, and a detach of the main connection that keeps the socket only clears the main entry
-/
import OpenFlowController.Dprm.AuxChannels
import OpenFlowController.Include.Openflow

namespace OpenFlowController.Messages

open Dprm Include Library Utils

/-- What a `dprm_datapath_entry` has of its channels for these calls. -/
structure PktoutDatapath where
  channels : AuxChannels
  mainId : Nat
  mainRef : MchashNoderef
  currChnUsed2QMsg : Option Nat

namespace PktoutDatapath

/-- A datapath that was just registered. -/
def initial : PktoutDatapath where
  channels := .initial
  mainId := mainConnId
  mainRef := { index := 0, magic := 0 }
  currChnUsed2QMsg := none

/-- A call on the channels.  `curr_chn_used_2_q_msg` is set where a channel is added to an
empty list and nowhere else, and the entry of the main channel is cleared with it. -/
def step (datapath : PktoutDatapath) (event : AuxChannels.AuxEvent) : PktoutDatapath :=
  let channels := datapath.channels.step event
  let first := datapath.channels.auxChannels = none ∧ channels.auxChannels ≠ none
  let current := if first then channels.auxChannels else datapath.currChnUsed2QMsg
  match event with
  | .add _ connSafeRef _ =>
    { channels := channels
      mainId := datapath.mainId
      mainRef :=
        if datapath.channels.isMainConnPresent ≠ channels.isMainConnPresent then connSafeRef
        else datapath.mainRef
      currChnUsed2QMsg := current }
  | .remove auxiliaryId =>
    { datapath with
      channels := channels
      mainRef := if auxiliaryId = mainConnId then initial.mainRef else datapath.mainRef }
  | _ => { datapath with channels := channels }

/-! ## The macros that choose a channel -/

/-- `CNTLR_GET_GIVEN_CHANNEL_INFO`.  `memory` tells whether `calloc` succeeds, and `unset` is
what `conn_info` holds where nothing is assigned to it. -/
def getGivenChannelInfo (datapath : PktoutDatapath) (channelNo : Nat) (memory : Bool)
    (unset : Option MchashNoderef) : Option MchashNoderef :=
  if datapath.mainId = channelNo then
    if memory then some datapath.mainRef else none
  else
    unset

/-- `CNTLR_GET_MAIN_CHANNEL_INFO`. -/
def getMainChannelInfo (datapath : PktoutDatapath) (memory : Bool) : Option MchashNoderef :=
  if datapath.channels.isMainConnPresent ∧ memory then some datapath.mainRef else none

/-- `CNTLR_GET_AUX_CHANNEL_IF_EXISTS_ELSE_GET_MAIN_CHANNEL`: the outer `none` stands for a read
through a null or a stale `curr_chn_used_2_q_msg`. -/
def getAuxChannelIfExistsElseGetMainChannel (datapath : PktoutDatapath) (memory : Bool) :
    Option (Option MchashNoderef) :=
  if datapath.channels.auxChannels = none then some (datapath.getMainChannelInfo memory)
  else if memory then
    (datapath.channels.deref datapath.currChnUsed2QMsg).map fun channel =>
      some (datapath.channels.entries channel).connSafeRef
  else
    some none

end PktoutDatapath

/-! ## Framing and sending -/

/-- The fields of `ofp_packet_out` that are written, as the host keeps them. -/
structure OfpPacketOut where
  version : UInt8
  type : UInt8
  xid : Nat
  bufferId : Nat

/-- What `of_frame_pktout_msg` does; `*conn_info_pp` is only written on success. -/
inductive PktoutResult where
  | success (packet : OfpPacketOut) (connInfo : MchashNoderef)
  | chnClosed
  | failure
  | undefined

/-- The arguments of `of_frame_pktout_msg`, and what it meets in memory. -/
structure PktoutCall where
  replyPkt : Bool
  bufferId : Nat
  channelNo : Nat
  memory : Bool
  unset : Option MchashNoderef

def ofFramePktoutMsg (host : ByteOrder) (datapath : PktoutDatapath) (call : PktoutCall) :
    PktoutResult :=
  let packet (bufferId : Nat) : OfpPacketOut :=
    { version := 4, type := 13, xid := 0, bufferId := bufferId }
  if call.replyPkt then
    match datapath.getGivenChannelInfo call.channelNo call.memory call.unset with
    | none => .chnClosed
    | some connInfo => .success (packet (ntoh host 4 call.bufferId)) connInfo
  else if datapath.channels.isMainConnPresent then
    match datapath.getAuxChannelIfExistsElseGetMainChannel call.memory with
    | none => .undefined
    | some none => .failure
    | some (some connInfo) => .success (packet call.bufferId) connInfo
  else
    .chnClosed

/-- `of_add_data_to_pkt_and_send_to_dp` for a message with these bytes: the bytes that it sends,
whose header gets the length, and whether it writes behind the buffer. -/
def ofAddDataToPktAndSendToDp (framed data : List UInt8) (bufferLen : UInt16) :
    Option (List UInt8) × Bool :=
  let bytes := framed ++ data
  let dataLen := bytes.length % 2 ^ 16
  (some (bytes.take 2 ++ netBytes 2 dataLen ++ (bytes.take dataLen).drop 4),
    data ≠ [] ∧ bufferLen.toNat < bytes.length)

/-! ## What they promise -/

namespace PktoutDatapath

variable (datapath : PktoutDatapath)

/-- An auxiliary channel with this reference is attached. -/
def AuxBound (connInfo : MchashNoderef) : Prop :=
  ∃ channel, (datapath.channels.entries channel).allocated = true ∧
    (datapath.channels.entries channel).connSafeRef = connInfo

/-- A channel with this id and reference is attached. -/
def BoundAs (channelNo : Nat) (connInfo : MchashNoderef) : Prop :=
  (datapath.channels.isMainConnPresent ∧ channelNo = mainConnId ∧ connInfo = datapath.mainRef) ∨
    ∃ channel, (datapath.channels.entries channel).allocated = true ∧
      (datapath.channels.entries channel).auxiliaryId = channelNo ∧
      (datapath.channels.entries channel).connSafeRef = connInfo

/-- The channels that a call may choose: without reply an auxiliary one where there is one. -/
def Eligible (call : PktoutCall) (connInfo : MchashNoderef) : Prop :=
  if call.replyPkt then datapath.BoundAs call.channelNo connInfo
  else
    datapath.AuxBound connInfo ∨
      ((∀ other, ¬ datapath.AuxBound other) ∧ datapath.channels.isMainConnPresent ∧
        connInfo = datapath.mainRef)

/-- A channel is chosen where there is one and memory for the answer, no other one is ever
returned, and the id of the buffer is in network order. -/
def FramesRight (host : ByteOrder) (call : PktoutCall) : Prop :=
  match ofFramePktoutMsg host datapath call with
  | .success packet connInfo =>
    datapath.Eligible call connInfo ∧ packet.bufferId = ntoh host 4 call.bufferId
  | .undefined => False
  | _ => call.memory → ∀ connInfo, ¬ datapath.Eligible call connInfo

/-- The condition for a call without reply: the list of auxiliary channels tells whether there
is one (or one has the connection of the main channel), the channel that
`curr_chn_used_2_q_msg` leads to is attached, and the id of the buffer is the same in both
orders. -/
def FitsNoReply (host : ByteOrder) (call : PktoutCall) : Prop :=
  if datapath.channels.isMainConnPresent then
    ntoh host 4 call.bufferId = call.bufferId ∧
      if datapath.channels.auxChannels = none then
        datapath.AuxBound datapath.mainRef ∨ ∀ other, ¬ datapath.AuxBound other
      else
        datapath.channels.deref datapath.currChnUsed2QMsg ≠ none
  else
    ∀ other, ¬ datapath.AuxBound other

/-- The condition for a reply: it asks for the main channel, and that is there; or what is left
in `conn_info` happens to be right. -/
def FitsReply (call : PktoutCall) : Prop :=
  if datapath.mainId = call.channelNo then
    call.memory → datapath.BoundAs call.channelNo datapath.mainRef
  else
    match call.unset with
    | some connInfo => datapath.BoundAs call.channelNo connInfo
    | none => call.memory → ∀ connInfo, ¬ datapath.BoundAs call.channelNo connInfo

def Fits (host : ByteOrder) (call : PktoutCall) : Prop :=
  if call.replyPkt then datapath.FitsReply call
  else call.memory → datapath.FitsNoReply host call

variable {datapath} {host : ByteOrder} {call : PktoutCall}

theorem framesRight_reply (reply : call.replyPkt = true) :
    datapath.FramesRight host call ↔ datapath.FitsReply call := by
  simp only [FramesRight, ofFramePktoutMsg, reply, if_true, getGivenChannelInfo, FitsReply,
    Eligible]
  by_cases main : datapath.mainId = call.channelNo
  · cases memory : call.memory <;> simp [main]
  cases unset : call.unset <;> simp [main]

theorem auxBound_of_deref {pointer : Option Nat} {channel : Nat}
    (read : datapath.channels.deref pointer = some channel) :
    datapath.AuxBound (datapath.channels.entries channel).connSafeRef := by
  unfold AuxChannels.deref at read
  split at read
  · split at read
    · cases read
      exact ⟨_, by assumption, rfl⟩
    · cases read
  · cases read

theorem framesRight_noReply (noReply : call.replyPkt = false) :
    datapath.FramesRight host call ↔ (call.memory → datapath.FitsNoReply host call) := by
  simp only [FramesRight, ofFramePktoutMsg, noReply, FitsNoReply, Eligible,
    getAuxChannelIfExistsElseGetMainChannel, getMainChannelInfo]
  cases present : datapath.channels.isMainConnPresent with
  | false => simp
  | true =>
  cases memory : call.memory with
  | false =>
    by_cases empty : datapath.channels.auxChannels = none <;> simp [empty]
  | true =>
  by_cases empty : datapath.channels.auxChannels = none
  · simp [empty, and_comm, eq_comm]
  cases read : datapath.channels.deref datapath.currChnUsed2QMsg with
  | none => simp [empty]
  | some channel =>
    have bound := auxBound_of_deref read
    simp [empty, bound, eq_comm]

end PktoutDatapath

/-- What is sent is the framed message with its length, followed by the data; what does not fit
is neither written nor sent. -/
def SendsRight (framed data : List UInt8) (bufferLen : UInt16) : Prop :=
  ofAddDataToPktAndSendToDp framed data bufferLen =
    if framed.length + data.length ≤ bufferLen.toNat then
      (some ((framed ++ data).take 2 ++ netBytes 2 (framed.length + data.length) ++
        (framed ++ data).drop 4), false)
    else
      (none, false)

theorem sendsRight_iff (framed data : List UInt8) (bufferLen : UInt16) :
    SendsRight framed data bufferLen ↔ framed.length + data.length ≤ bufferLen.toNat := by
  constructor
  case mp =>
    intro right
    by_contra long
    rw [SendsRight, if_neg long] at right
    cases right
  case mpr =>
    intro fits
    have small : (framed ++ data).length < 2 ^ 16 := by
      have := bufferLen.toNat_lt
      rw [List.length_append]
      omega
    rw [SendsRight, if_pos fits, ofAddDataToPktAndSendToDp, Nat.mod_eq_of_lt small,
      List.take_length, List.length_append]
    simp [fits]

/-- After any history of the channels, the calls for a packet-out message are right exactly
where the datapath and the arguments fit, and the data fits into the buffer. -/
theorem packet_out_right_iff (host : ByteOrder) (history : List AuxChannels.AuxEvent)
    (call : PktoutCall) (framed data : List UInt8) (bufferLen : UInt16) :
    (history.foldl PktoutDatapath.step .initial).FramesRight host call ∧
        SendsRight framed data bufferLen ↔
      (history.foldl PktoutDatapath.step .initial).Fits host call ∧
        framed.length + data.length ≤ bufferLen.toNat := by
  refine and_congr ?_ (sendsRight_iff framed data bufferLen)
  unfold PktoutDatapath.Fits
  cases reply : call.replyPkt with
  | false => exact PktoutDatapath.framesRight_noReply reply
  | true => exact PktoutDatapath.framesRight_reply reply

/-- On a little-endian host, the buffer 1 is named as 2^24. -/
theorem packet_out_buffer_swapped :
    ¬ (([.add 0 { index := 1, magic := 1 } true] : List AuxChannels.AuxEvent).foldl
      PktoutDatapath.step .initial).FramesRight .littleEndian
        { replyPkt := false, bufferId := 1, channelNo := 0, memory := true, unset := none } := by
  intro right
  exact absurd right.2 (by decide)

end OpenFlowController.Messages
