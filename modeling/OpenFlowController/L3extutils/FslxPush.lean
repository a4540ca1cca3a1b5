/-
Module: L3extutils.FslxPush
Purpose: The routines that push the actions and instructions of the Freescale extensions
  into a message buffer.
Source: l3extutils/of_l3ext_utils.c 46-814; l3extutils/include/fsl_ext.h (FSLX_ACTION_*_LEN,
  FSLXIT_*_LEN)
Trusted boundary: what is compiled out is not there
-/
import OpenFlowController.Include.FslxFormat
import OpenFlowController.Messages.Encoder

namespace OpenFlowController.Encoder

open Include Library

/-! ## Members of a structure -/

/-- Members of a structure that are assigned: the offset of each, and its bytes. -/
abbrev StructFields := List (Nat × List UInt8)

/-- The stores of the members of a structure at a place. -/
def StructFields.stores (fields : StructFields) (place : Int) : List Store :=
  fields.map fun field => ⟨place + field.1, field.2⟩

/-- The members that all structures begin with.  How the length is stored is up to the
routine. -/
def fslxHeader (len : List UInt8) (subtype : UInt16) : StructFields :=
  [(0, bytes16 Ofpat.experimenter), (2, len), (4, bytes32 fslxVendorId), (8, bytes16 subtype)]

/-! ## Actions -/

/-- What the routines for an action do: the room is looked for where the action goes. -/
def fslxPushAction (length : Nat) (subtype : UInt16) (operands : StructFields)
    (desc : MsgDescriptor) : Outcome :=
  let place := desc.ptr3 + desc.length3
  if desc.noRoom place length then refuse desc
  else {
    status := some .actionPushSuccess
    desc := { desc with length3 := u16 (desc.length3 + length) }
    stores := (fslxHeader (bytes16 (UInt16.ofNat length)) subtype ++ operands).stores place }

def fslxActionWriteMetadataFromPkt (matchFieldId : UInt32) (mask : UInt64) :
    MsgDescriptor → Outcome :=
  fslxPushAction 24 16 [(12, bytes32 matchFieldId), (16, bytes64 mask)]

def fslxActionWriteMetadata (data : UInt64) : MsgDescriptor → Outcome :=
  fslxPushAction 24 30 [(16, bytes64 data)]

/-- With an MTU the register is not stored. -/
def fslxActionIpfragment (mtuReg : UInt32) (offset nBits : UInt8) (pmtuVal : UInt32) :
    MsgDescriptor → Outcome :=
  fslxPushAction 24 21 (if pmtuVal ≠ 0 then [(16, bytes32 pmtuVal)]
    else [(10, [offset]), (11, [nBits]), (12, bytes32 mtuReg), (16, bytes32 0)])

def fslxActionSetInPhyPort (inPhyPort : UInt32) : MsgDescriptor → Outcome :=
  fslxPushAction 16 11 [(12, bytes32 inPhyPort)]

def fslxActionSetMetadata (metaData : UInt64) : MsgDescriptor → Outcome :=
  fslxPushAction 24 12 [(16, bytes64 metaData)]

def fslxActionSetTunnelId (tunnelId : UInt64) : MsgDescriptor → Outcome :=
  fslxPushAction 24 13 [(16, bytes64 tunnelId)]

def fslxActionStartFromTable (tableId : UInt8) : MsgDescriptor → Outcome :=
  fslxPushAction 16 19 [(10, [tableId])]

def fslxActionDropPacket : MsgDescriptor → Outcome := fslxPushAction 16 24 []

def fslxActionSendArpResponse (mac : MacAddress) : MsgDescriptor → Outcome :=
  fslxPushAction 24 15 [(10, memcpy mac.1 6)]

def fslxActionSendIcmpv4TimeExceedErrMsg (errorCode : UInt8) : MsgDescriptor → Outcome :=
  fslxPushAction 16 22 [(10, [errorCode])]

/-- The MTU is stored in the order of the host. -/
def fslxActionSendIcmpv4DestUnreachErrMsg (host : ByteOrder) (errorCode : UInt8)
    (nextHopMtu : UInt16) : MsgDescriptor → Outcome :=
  fslxPushAction 20 23
    ((10, [errorCode]) ::
      if errorCode = dfbitSet then [(12, hostBytes host 2 nextHopMtu.toNat)] else [])

def fslxActionIpReassembly : MsgDescriptor → Outcome := fslxPushAction 16 20 []

/-! ## Instructions -/

/-- What the routines for an instruction do. -/
def fslxPushInstruction (subtype : UInt16) (operands : StructFields) : MsgDescriptor → Outcome :=
  pushInstruction 16 (fslxHeader (bytes16 16) subtype ++ operands).stores

/-- What the routines do that begin an instruction with actions. -/
def fslxStartPushingApplyActions (len : List UInt8) (subtype : UInt16)
    (desc : MsgDescriptor) : Outcome :=
  let place := desc.ptr2 + desc.length2
  if desc.noRoom place 16 then refuse desc
  else {
    status := some .instructionPushSuccess
    desc := { desc with ptr2 := place, length2 := 16, length3 := 0, ptr3 := place + 16 }
    stores := (fslxHeader len subtype).stores place }

/-- The length is stored in the order of the host. -/
def fslxInstructionStartPushingApplyActionsDuringAddMod (host : ByteOrder) :
    MsgDescriptor → Outcome :=
  fslxStartPushingApplyActions (hostBytes host 2 16) 1

def fslxInstructionEndPushingApplyActionsDuringAddMod (desc : MsgDescriptor) : Outcome where
  status := some .instructionPushSuccess
  desc := desc

def fslxInstructionStartPushingApplyActionsDuringDel : MsgDescriptor → Outcome :=
  fslxStartPushingApplyActions (bytes16 16) 2

def fslxInstructionEndPushingApplyActionsDuringDel (desc : MsgDescriptor) : Outcome where
  status := some .instructionPushSuccess
  desc := desc

def fslxInstructionWaitToCompletePktOuts (state : UInt16) : MsgDescriptor → Outcome :=
  fslxPushInstruction 3 [(10, bytes16 state)]

def fslxInstructionWritePriorityRegister (regValue : UInt16) : MsgDescriptor → Outcome :=
  fslxPushInstruction 5 [(10, bytes16 regValue)]

def fslxInstructionWritePriorityRegFromNextFlow : MsgDescriptor → Outcome :=
  fslxPushInstruction 11 []

def fslxInstructionWritePriorityRegFromCurrentFlow : MsgDescriptor → Outcome :=
  fslxPushInstruction 6 []

def fslxInstructionReLookup (prioRegType : UInt8) : MsgDescriptor → Outcome :=
  fslxPushInstruction 7 [(10, [prioRegType])]

def fslxInstructionReInjectTo (tableId prioRegType : UInt8) : MsgDescriptor → Outcome :=
  fslxPushInstruction 8 [(10, [tableId]), (11, [prioRegType])]

/-- What the routines for a group do. -/
def fslxPushGroup (len : List UInt8) (subtype : UInt16) (groupId : UInt32)
    (desc : MsgDescriptor) : Outcome :=
  let place := desc.ptr2 + desc.length2
  if desc.noRoom place 16 then refuse desc
  else {
    status := some .instructionPushSuccess
    desc := { desc with
      ptr2 := place, length2 := 16, length3 := 0, dataLen := u16 (desc.dataLen + 16) }
    stores := (fslxHeader len subtype ++ [(12, bytes32 groupId)]).stores place }

/-- The length is stored in the order of the host. -/
def fslxInstructionWriteGroupActions (host : ByteOrder) (groupId : UInt32) :
    MsgDescriptor → Outcome :=
  fslxPushGroup (hostBytes host 2 16) 10 groupId

def fslxInstructionApplyGroupActions (groupId : UInt32) : MsgDescriptor → Outcome :=
  fslxPushGroup (bytes16 16) 9 groupId

/-! ## Sequences of calls -/

/-- A call that pushes an action, with its operands. -/
inductive FslxActionCall where
  | writeMetadataFromPkt (matchFieldId : UInt32) (mask : UInt64)
  | writeMetadata (data : UInt64)
  | ipfragment (mtuReg : UInt32) (offset nBits : UInt8) (pmtuVal : UInt32)
  | setInPhyPort (inPhyPort : UInt32)
  | setMetadata (metaData : UInt64)
  | setTunnelId (tunnelId : UInt64)
  | startFromTable (tableId : UInt8)
  | dropPacket
  | sendArpResponse (mac : MacAddress)
  | sendIcmpv4TimeExceedErrMsg (errorCode : UInt8)
  | sendIcmpv4DestUnreachErrMsg (errorCode : UInt8) (nextHopMtu : UInt16)
  | ipReassembly

def FslxActionCall.routine (host : ByteOrder) : FslxActionCall → MsgDescriptor → Outcome
  | .writeMetadataFromPkt matchFieldId mask => fslxActionWriteMetadataFromPkt matchFieldId mask
  | .writeMetadata data => fslxActionWriteMetadata data
  | .ipfragment mtuReg offset nBits pmtuVal => fslxActionIpfragment mtuReg offset nBits pmtuVal
  | .setInPhyPort inPhyPort => fslxActionSetInPhyPort inPhyPort
  | .setMetadata metaData => fslxActionSetMetadata metaData
  | .setTunnelId tunnelId => fslxActionSetTunnelId tunnelId
  | .startFromTable tableId => fslxActionStartFromTable tableId
  | .dropPacket => fslxActionDropPacket
  | .sendArpResponse mac => fslxActionSendArpResponse mac
  | .sendIcmpv4TimeExceedErrMsg errorCode => fslxActionSendIcmpv4TimeExceedErrMsg errorCode
  | .sendIcmpv4DestUnreachErrMsg errorCode nextHopMtu =>
    fslxActionSendIcmpv4DestUnreachErrMsg host errorCode nextHopMtu
  | .ipReassembly => fslxActionIpReassembly

/-- A call, or calls one after the other, that push an instruction. -/
inductive FslxInstructionCall where
  | applyActionsDuringAddMod (actions : List FslxActionCall)
  | applyActionsDuringDel (actions : List FslxActionCall)
  | waitToCompletePktOuts (state : UInt16)
  | writePriorityRegister (regValue : UInt16)
  | writePriorityRegFromNextFlow
  | writePriorityRegFromCurrentFlow
  | reLookup (prioRegType : UInt8)
  | reInjectTo (tableId prioRegType : UInt8)
  | writeGroupActions (groupId : UInt32)
  | applyGroupActions (groupId : UInt32)

/-- The routine that is called, or called first. -/
def FslxInstructionCall.routine (host : ByteOrder) : FslxInstructionCall → MsgDescriptor → Outcome
  | .applyActionsDuringAddMod _ => fslxInstructionStartPushingApplyActionsDuringAddMod host
  | .applyActionsDuringDel _ => fslxInstructionStartPushingApplyActionsDuringDel
  | .waitToCompletePktOuts state => fslxInstructionWaitToCompletePktOuts state
  | .writePriorityRegister regValue => fslxInstructionWritePriorityRegister regValue
  | .writePriorityRegFromNextFlow => fslxInstructionWritePriorityRegFromNextFlow
  | .writePriorityRegFromCurrentFlow => fslxInstructionWritePriorityRegFromCurrentFlow
  | .reLookup prioRegType => fslxInstructionReLookup prioRegType
  | .reInjectTo tableId prioRegType => fslxInstructionReInjectTo tableId prioRegType
  | .writeGroupActions groupId => fslxInstructionWriteGroupActions host groupId
  | .applyGroupActions groupId => fslxInstructionApplyGroupActions groupId

/-- A message, and whether every push so far succeeded. -/
abbrev Pushes := EncoderState × Bool

/-- One call; the status is compared with that of a success. -/
def Pushes.call (pushes : Pushes) (success : OfuStatus) (routine : MsgDescriptor → Outcome) :
    Pushes :=
  let outcome := routine pushes.1.desc
  (pushes.1.after outcome, pushes.2 && outcome.status = some success)

def FslxActionCall.push (host : ByteOrder) (pushes : Pushes) (call : FslxActionCall) :
    Pushes :=
  pushes.call .actionPushSuccess (call.routine host)

/-- The calls between the begin and the end of an instruction with actions. -/
def pushFslxActions (host : ByteOrder) (actions : List FslxActionCall) (begun : Pushes) :
    Pushes :=
  let started : Pushes := (begun.1.after (ofuStartPushingActions begun.1.desc), begun.2)
  let pushed := actions.foldl (FslxActionCall.push host) started
  (pushed.1.after (ofuEndPushingActions pushed.1.desc), pushed.2)

/-- The calls for one instruction. -/
def encodeFslxInstruction (host : ByteOrder) (pushes : Pushes) (call : FslxInstructionCall) :
    Pushes :=
  let begun := pushes.call .instructionPushSuccess (call.routine host)
  match call with
  | .applyActionsDuringAddMod actions =>
    (pushFslxActions host actions begun).call .instructionPushSuccess
      fslxInstructionEndPushingApplyActionsDuringAddMod
  | .applyActionsDuringDel actions =>
    (pushFslxActions host actions begun).call .instructionPushSuccess
      fslxInstructionEndPushingApplyActionsDuringDel
  | _ => begun

def encodeFslx (host : ByteOrder) (calls : List FslxInstructionCall) (state : EncoderState) :
    Pushes :=
  calls.foldl (encodeFslxInstruction host) (state, true)

end OpenFlowController.Encoder
