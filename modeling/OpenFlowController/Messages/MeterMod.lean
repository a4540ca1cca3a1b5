/-
Module: Messages.MeterMod
Purpose: How a meter that is stored is framed and sent, and how the bands of a meter are
  read from a reply.
Source: ofproto/src/messages/of_meter.c 401-716; of_cntlr_2_sw_msgapi.c 1687-1730,
  1938-2059; ofproto/src/include/cntlr_transprt.h (CNTLR_GET_MAIN_CHANNEL_INFO); of_meter.h;
  include/of_multipart.h (struct ofi_meter_rec_info, struct ofi_meter_band)
Trusted boundary: the pool, the allocator and the channel answer, what an uninitialised variable
  holds is a parameter, and undefined behaviour is a fault
-/
import OpenFlowController.Include.MeterFormat
import OpenFlowController.Messages.Encoder

namespace OpenFlowController.Meter

open Include Library Encoder

/-! ## Meters -/

/-- `struct ofi_meter_band`, without what no routine here reads. -/
structure OfiMeterBand where
  type : UInt16
  len : UInt16 := 0
  rate : UInt32 := 0
  burstSize : UInt32 := 0
  precLevel : UInt8 := 0

structure OfiMeterRecInfo where
  meterId : UInt32
  flags : UInt16
  meterBandList : List OfiMeterBand

/-- What the datapath has of `struct dprm_datapath_entry` here. -/
structure MeterDatapath where
  meterTable : List OfiMeterRecInfo
  isMainConnPresent : Bool

/-! ## Status -/

def ofSuccess : Int := 0
def ofFailure : Int := -1
def ofMeterRateRequired : Int := 10
def ofMeterPrecLevelRequired : Int := 20

def ofuAppendBandSuccess : Int := 333

/-! ## Framing -/

/-- The body of the scan over the bands.  The status is set where a rate or a level is
missing, and nowhere else. -/
def frameBand (framing : EncoderState × Int) (band : OfiMeterBand) : EncoderState × Int :=
  let (state, status) := framing
  if band.type = Ofpmbt.drop then
    if band.rate = 0 then (state, ofMeterRateRequired)
    else (state.after (ofuAppendBandToMeterTypeDrop band.rate band.burstSize state.desc), status)
  else if band.type = Ofpmbt.dscpRemark then
    if band.rate = 0 ∨ band.precLevel = 0 then (state, ofMeterPrecLevelRequired)
    else
      (state.after (ofuAppendBandToMeterTypeDscpRemark band.rate band.precLevel band.burstSize
        state.desc), status)
  else (state, status)

/-- `of_meter_frame_message_request`; `uninit` is what `status` holds at first. -/
def ofMeterFrameMessageRequest (uninit : Int) (meter : OfiMeterRecInfo)
    (state : EncoderState) : EncoderState × Int :=
  let started := state.after (ofuStartAppendingBandsToMeter state.desc)
  let framed := meter.meterBandList.foldl frameBand (started, uninit)
  (framed.1.after (ofuEndAppendingBandsToMeter framed.1.desc), framed.2)

/-! ## Sending -/

inductive MeterCommand where
  | addMeter
  | modMeter

/-- `OFPMC_ADD` and `OFPMC_MODIFY`. -/
def MeterCommand.ofpmc : MeterCommand → UInt16
  | .addMeter => 0
  | .modMeter => 1

/-- What the caller's pointer to the connection is behind `of_add_meter` and
`of_modify_meter`. -/
inductive ConnInfoPtr where
  | uninitialised
  | null
  | allocated
deriving DecidableEq

/-- How the channel takes a message. -/
inductive ChannelAnswer where
  | sent
  | failedAndReleased
  | failed

/-- `msg_len`, as `ofu_alloc_message` rounds it up. -/
def meterBufferLen : Nat := 304

/-- The message behind `ofu_alloc_message` and the part that `of_add_meter` and
`of_modify_meter` have in common. -/
def startMeterMod (command : MeterCommand) (meter : OfiMeterRecInfo) : EncoderState where
  desc := {
    bufferLen := meterBufferLen, dataLen := 16
    utilsPtr := 16, ptr1 := 16, ptr2 := 16, ptr3 := 16 }
  memory := ByteMemory.write (fun _ => 0)
    [⟨0, [4]⟩, ⟨1, [29]⟩, ⟨4, bytes32 0⟩, ⟨8, bytes16 command.ofpmc⟩, ⟨10, bytes16 meter.flags⟩,
      ⟨12, bytes32 meter.meterId⟩]

/-- What is there when the call is made, and what it is answered. -/
structure MeterCall where
  command : MeterCommand
  meterId : UInt32
  datapath : Option MeterDatapath
  messageAllocated : Bool
  connInfoAllocated : Bool
  channel : ChannelAnswer
  uninit : Int

/-- What the call does: a fault, or the status it returns; the message that is sent; and
whether it returns with a message that nobody releases. -/
structure MeterOutcome where
  fault : Bool := false
  status : Int := ofFailure
  sent : Option (List UInt8) := none
  held : Bool := false

/-- The entry of the meter, and its datapath. -/
def MeterCall.found (call : MeterCall) : Option (MeterDatapath × OfiMeterRecInfo) :=
  match call.datapath with
  | none => none
  | some datapath =>
    (datapath.meterTable.find? fun meter => meter.meterId = call.meterId).map (datapath, ·)

/-- `of_cntrlr_send_request_message`: the length goes into the header, and what lies in the
message is sent. -/
def sendMeterMod (channel : ChannelAnswer) (state : EncoderState) : MeterOutcome :=
  let memory := state.memory.put ⟨2, bytes16 (UInt16.ofNat state.desc.dataLen)⟩
  match channel with
  | .sent => { status := ofSuccess, sent := some (memory.slice 0 state.desc.dataLen) }
  | .failedAndReleased => { status := ofFailure }
  | .failed => { status := ofFailure, held := true }

/-- The bands are framed and the message is sent, with the status so far.  A band behind the
end of the buffer is a fault, as is a connection that is not there. -/
def frameAndSend (call : MeterCall) (meter : OfiMeterRecInfo) (conn : ConnInfoPtr)
    (status : Int) : MeterOutcome :=
  let (framed, retval) :=
    ofMeterFrameMessageRequest call.uninit meter (startMeterMod call.command meter)
  let status := if retval ≠ ofuAppendBandSuccess then retval else status
  if meterBufferLen < framed.desc.ptr2 + framed.desc.length2 then { fault := true }
  else if status ≠ ofSuccess then { status := status, held := true }
  else if conn = .allocated then sendMeterMod call.channel framed
  else { fault := true }

/-- `of_meter_frame_and_send_message_request` with the command to add or to modify. -/
def ofMeterFrameAndSendMessageRequest (call : MeterCall) : MeterOutcome :=
  if ¬ call.messageAllocated then { status := ofFailure }
  else
    match call.found with
    -- the entry that was not found is read from
    | none => { fault := true }
    | some (datapath, meter) =>
      if datapath.isMainConnPresent then
        if call.connInfoAllocated then frameAndSend call meter .allocated ofSuccess
        else frameAndSend call meter .null ofFailure
      else
        match call.command with
        | .addMeter => frameAndSend call meter .uninitialised ofSuccess
        -- the message is released, and the bands are framed in it
        | .modMeter => { fault := true }

/-! ## Reading bands -/

/-- A number of bytes that are read from an offset on. -/
structure ByteRead where
  start : Nat
  count : Nat

/-- How many bytes of a band are read, by its type. -/
def bandReads (type : UInt16) : Nat :=
  if type = Ofpmbt.drop then 12 else if type = Ofpmbt.dscpRemark then 13 else 2

/-- `of_meter_frame_band_response`, when there is memory for the band. -/
def ofMeterFrameBandResponse (memory : ByteMemory) (msg : Nat) : OfiMeterBand × ByteRead :=
  let type := word16 (memory.slice msg 2)
  let read : ByteRead := ⟨msg, bandReads type⟩
  let len := word16 (memory.slice (msg + 2 : Nat) 2)
  let rate := word32 (memory.slice (msg + 4 : Nat) 4)
  let burstSize := word32 (memory.slice (msg + 8 : Nat) 4)
  if type = Ofpmbt.drop then ({ type, len, rate, burstSize }, read)
  else if type = Ofpmbt.dscpRemark then
    ({ type, len, rate, burstSize, precLevel := memory (msg + 12 : Nat) }, read)
  else ({ type }, read)

/-- What `of_meter_frame_response` leaves: whether it succeeds, the list, and what it read. -/
structure MeterResponse where
  succeeded : Bool
  bands : List OfiMeterBand
  reads : List ByteRead

/-- `of_meter_frame_response` behind `index` bands: `msgLength` is a `uint32_t`, and every
band takes 16 bytes of it.  The allocator answers for each band.  Without fuel nothing is
known. -/
def ofMeterFrameResponse (memory : ByteMemory) (allocated : Nat → Bool) :
    Nat → Nat → Nat → MeterResponse → Option MeterResponse
  | 0, _, _, _ => none
  | fuel + 1, index, msgLength, response =>
    if msgLength = 0 then some { response with succeeded := true }
    else if ¬ allocated index then some { response with succeeded := false }
    else
      let (band, read) := ofMeterFrameBandResponse memory (bandSize * index)
      ofMeterFrameResponse memory allocated fuel (index + 1)
        ((msgLength + 2 ^ 32 - bandSize) % 2 ^ 32)
        { response with bands := response.bands ++ [band], reads := response.reads ++ [read] }

end OpenFlowController.Meter
