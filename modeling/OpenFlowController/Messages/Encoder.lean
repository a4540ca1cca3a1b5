/-
Module: Messages.Encoder
Purpose: The routines that write the fields of a match, instructions, actions, the buckets of
  a group and the bands of a meter into a message buffer, at the cursors of the message
  descriptor; and every call that writes into one.
Source: ofproto/src/messages/of_msg_utils.c 20-3110, 3215-3627; include/of_utilities.h
  (struct of_msg_descriptor, OFU_*_LEN); ofproto/src/include/controller.h (ROUND_UP);
  ofproto/src/include/openflow.h (struct ofp_bucket, struct ofp_group_bucket_prop_*,
  struct ofp_meter_band_*)
Trusted boundary: addresses count from `start_of_data`, and a store behind the buffer changes the
  memory there
-/
import OpenFlowController.Include.ActionFormat
import OpenFlowController.Include.Openflow
import OpenFlowController.Library.ByteMemory

namespace OpenFlowController.Encoder

open Include Library

/-! ## Message descriptor -/

/-- `struct of_msg_descriptor`.  The lengths are of the type `uint16_t`. -/
structure MsgDescriptor where
  bufferLen : Nat
  dataLen : Nat
  utilsPtr : Int
  utilsLength : Nat := 0
  ptr1 : Int := 0
  length1 : Nat := 0
  ptr2 : Int := 0
  length2 : Nat := 0
  ptr3 : Int := 0
  length3 : Nat := 0

/-- What the routines return. -/
inductive OfuStatus where
  | noRoomInBuffer
  | setFieldSuccess
  | instructionPushSuccess
  | actionPushSuccess
  | appendBucketSuccess
  | appendBandSuccess
deriving DecidableEq

/-- The outcome of a routine: its status, if it has one, what it returns through its last
argument, the descriptor behind it, and its stores. -/
structure Outcome where
  status : Option OfuStatus := none
  returned : Nat := 0
  desc : MsgDescriptor
  stores : List Store := []

/-- `uint16_t`. -/
def u16 (value : Nat) : Nat := value % 2 ^ 16

/-- Fewer than `length` bytes of the buffer lie from `place` on. -/
def MsgDescriptor.noRoom (desc : MsgDescriptor) (place : Int) (length : Nat) : Prop :=
  desc.bufferLen < place + length

instance (desc : MsgDescriptor) (place : Int) (length : Nat) :
    Decidable (desc.noRoom place length) :=
  inferInstanceAs (Decidable (_ < _))

/-- `return OFU_NO_ROOM_IN_BUFFER`. -/
def refuse (desc : MsgDescriptor) : Outcome where
  status := some .noRoomInBuffer
  desc := desc

/-- `memcpy` of `count` bytes. -/
def memcpy (source : List UInt8) (count : Nat) : List UInt8 := source.take count

/-- The bytes of a number in the order of the host. -/
def hostBytes (host : ByteOrder) (width value : Nat) : List UInt8 :=
  match host with
  | .littleEndian => (netBytes width value).reverse
  | .bigEndian => netBytes width value

/-! ## Match fields -/

def ofOxmHdrLen : Nat := 4

def ofuStartSettingMatchFieldValues (host : ByteOrder) (desc : MsgDescriptor) : Outcome where
  desc := { desc with ptr1 := desc.utilsPtr + 4, length1 := 0, utilsLength := 4 }
  stores := [⟨desc.utilsPtr, bytes16 ofpmtOxm ++ hostBytes host 2 4⟩]

/-- What the routines for a field without a mask do; `length` is the `OFU_*_FIELD_LEN` of
the field. -/
def setField (field : OxmField) (length : Nat) (value : List UInt8) (desc : MsgDescriptor) :
    Outcome :=
  let place := desc.ptr1 + desc.length1
  if desc.noRoom place length then refuse desc
  else {
    status := some .setFieldSuccess
    desc := { desc with length1 := u16 (desc.length1 + length) }
    stores := [⟨place, oxmHeader field false field.width⟩, ⟨place + ofOxmHdrLen, value⟩] }

/-- What the routines for a field with a mask do; `length` is the `OFU_*_MASK_LEN` of the
field, and the mask goes to the offset `maskAt`. -/
def setFieldMasked (field : OxmField) (length : Nat) (value : List UInt8) (maskAt : Nat)
    (mask : List UInt8) (desc : MsgDescriptor) : Outcome :=
  let place := desc.ptr1 + desc.length1
  if desc.noRoom place length then refuse desc
  else {
    status := some .setFieldSuccess
    desc := { desc with length1 := u16 (desc.length1 + length) }
    stores := [⟨place, oxmHeader field true (2 * field.width)⟩,
      ⟨place + ofOxmHdrLen, value⟩, ⟨place + maskAt, mask⟩] }

def ofSetInPort (inPortNumber : UInt32) : MsgDescriptor → Outcome :=
  setField .inPort 8 (bytes32 inPortNumber)

def ofSetInPhysicalPort (inPhyPortNo : UInt32) : MsgDescriptor → Outcome :=
  setField .inPhyPort 8 (bytes32 inPhyPortNo)

def ofSetProtocol (ipProtocol : UInt8) : MsgDescriptor → Outcome :=
  setField .ipProto 5 [ipProtocol]

def ofSetIpDscpBits (ipDscp : UInt8) : MsgDescriptor → Outcome :=
  setField .ipDscp 5 [ipDscp]

def ofSetIpEcnBits (ipEcn : UInt8) : MsgDescriptor → Outcome :=
  setField .ipEcn 5 [ipEcn]

def ofSetEtherType (etherType : UInt16) : MsgDescriptor → Outcome :=
  setField .ethType 6 (bytes16 etherType)

def ofSetArpOpCode (arpOp : UInt16) : MsgDescriptor → Outcome :=
  setField .arpOp 6 (bytes16 arpOp)

def ofSetArpSourceIpAddr (addr : UInt32) : Option UInt32 → MsgDescriptor → Outcome
  | some mask => setFieldMasked .arpSpa 12 (bytes32 addr) 8 (bytes32 mask)
  | none => setField .arpSpa 8 (bytes32 addr)

def ofSetArpTargetIpAddr (addr : UInt32) : Option UInt32 → MsgDescriptor → Outcome
  | some mask => setFieldMasked .arpTpa 12 (bytes32 addr) 8 (bytes32 mask)
  | none => setField .arpTpa 8 (bytes32 addr)

def ofSetArpSourceHwAddr (hwAddr : List UInt8) : Option (List UInt8) → MsgDescriptor → Outcome
  | some mask => setFieldMasked .arpSha 16 (memcpy hwAddr 6) 10 (memcpy mask 6)
  | none => setField .arpSha 10 (memcpy hwAddr 6)

def ofSetArpTargetHwAddr (hwAddr : List UInt8) : Option (List UInt8) → MsgDescriptor → Outcome
  | some mask => setFieldMasked .arpTha 16 (memcpy hwAddr 6) 10 (memcpy mask 6)
  | none => setField .arpTha 10 (memcpy hwAddr 6)

def ofSetMplsLabel (label : UInt32) : MsgDescriptor → Outcome :=
  setField .mplsLabel 8 (bytes32 label)

def ofSetMplsTc (tc : UInt8) : MsgDescriptor → Outcome :=
  setField .mplsTc 5 [tc]

def ofSetMplsBos (bos : UInt8) : MsgDescriptor → Outcome :=
  setField .mplsBos 5 [bos]

/-- One byte of the three is stored, and `OFU_PBB_ISID_MASK_LEN` is not longer than
`OFU_PBB_ISID_FIELD_LEN`. -/
def ofSetPbbISid (iSid : List UInt8) : Option (List UInt8) → MsgDescriptor → Outcome
  | some mask => setFieldMasked .pbbIsid 7 (memcpy iSid 1) 7 (memcpy mask 1)
  | none => setField .pbbIsid 7 (memcpy iSid 1)

/-- `OFU_TUNNEL_ID_MASK_LEN` is not longer than `OFU_TUNNEL_ID_FIELD_LEN`. -/
def ofSetLogicalPortMetaData (tunnelId : UInt64) : Option UInt64 → MsgDescriptor → Outcome
  | some mask => setFieldMasked .tunnelId 12 (bytes64 tunnelId) 12 (bytes64 mask)
  | none => setField .tunnelId 12 (bytes64 tunnelId)

/-- `OFU_VLAN_VID_MASK_LEN` is not longer than `OFU_VLAN_VID_FIELD_LEN`. -/
def ofSetVlanId (vlanId : UInt16) : Option UInt16 → MsgDescriptor → Outcome
  | some mask => setFieldMasked .vlanVid 6 (bytes16 vlanId) 6 (bytes16 mask)
  | none => setField .vlanVid 6 (bytes16 vlanId)

def ofSetVlanPriorityBits (vlanPcp : UInt8) : MsgDescriptor → Outcome :=
  setField .vlanPcp 5 [vlanPcp]

def ofSetIpv4Source (addr : UInt32) : Option UInt32 → MsgDescriptor → Outcome
  | some mask => setFieldMasked .ipv4Src 12 (bytes32 addr) 8 (bytes32 mask)
  | none => setField .ipv4Src 8 (bytes32 addr)

def ofSetIpv6Source (addr : List UInt8) : Option (List UInt8) → MsgDescriptor → Outcome
  | some mask => setFieldMasked .ipv6Src 36 (memcpy addr 16) 20 (memcpy mask 16)
  | none => setField .ipv6Src 20 (memcpy addr 16)

def ofSetIpv4Destination (addr : UInt32) : Option UInt32 → MsgDescriptor → Outcome
  | some mask => setFieldMasked .ipv4Dst 12 (bytes32 addr) 8 (bytes32 mask)
  | none => setField .ipv4Dst 8 (bytes32 addr)

def ofSetIpv6Destination (addr : List UInt8) : Option (List UInt8) → MsgDescriptor → Outcome
  | some mask => setFieldMasked .ipv6Dst 36 (memcpy addr 16) 20 (memcpy mask 16)
  | none => setField .ipv6Dst 20 (memcpy addr 16)

def ofSetIpv6FlowLabel (label : UInt32) : Option UInt32 → MsgDescriptor → Outcome
  | some mask => setFieldMasked .ipv6Flabel 12 (bytes32 label) 8 (bytes32 mask)
  | none => setField .ipv6Flabel 8 (bytes32 label)

def ofSetIcmpv6Type (type : UInt8) : MsgDescriptor → Outcome :=
  setField .icmpv6Type 5 [type]

def ofSetIcmpv6Code (code : UInt8) : MsgDescriptor → Outcome :=
  setField .icmpv6Code 5 [code]

def ofSetIpv6NdTarget (addr : List UInt8) : MsgDescriptor → Outcome :=
  setField .ipv6NdTarget 20 (memcpy addr 16)

def ofSetIpv6NdSourceHwAddr (hwAddr : List UInt8) : MsgDescriptor → Outcome :=
  setField .ipv6NdSll 10 (memcpy hwAddr 6)

def ofSetIpv6NdTargetHwAddr (hwAddr : List UInt8) : MsgDescriptor → Outcome :=
  setField .ipv6NdTll 10 (memcpy hwAddr 6)

def ofSetSourceMac (addr : List UInt8) : Option (List UInt8) → MsgDescriptor → Outcome
  | some mask => setFieldMasked .ethSrc 16 (memcpy addr 6) 10 (memcpy mask 6)
  | none => setField .ethSrc 10 (memcpy addr 6)

def ofSetDestinationMac (addr : List UInt8) : Option (List UInt8) → MsgDescriptor → Outcome
  | some mask => setFieldMasked .ethDst 16 (memcpy addr 6) 10 (memcpy mask 6)
  | none => setField .ethDst 10 (memcpy addr 6)

def ofSetTcpSourcePort (portNumber : UInt16) : MsgDescriptor → Outcome :=
  setField .tcpSrc 6 (bytes16 portNumber)

def ofSetTcpDestinationPort (portNumber : UInt16) : MsgDescriptor → Outcome :=
  setField .tcpDst 6 (bytes16 portNumber)

def ofSetSctpSourcePort (portNumber : UInt16) : MsgDescriptor → Outcome :=
  setField .sctpSrc 6 (bytes16 portNumber)

def ofSetSctpDestinationPort (portNumber : UInt16) : MsgDescriptor → Outcome :=
  setField .sctpDst 6 (bytes16 portNumber)

def ofSetUdpSourcePort (portNumber : UInt16) : MsgDescriptor → Outcome :=
  setField .udpSrc 6 (bytes16 portNumber)

def ofSetUdpDestinationPort (portNumber : UInt16) : MsgDescriptor → Outcome :=
  setField .udpDst 6 (bytes16 portNumber)

def ofSetIcmpv4Type (type : UInt8) : MsgDescriptor → Outcome :=
  setField .icmpv4Type 5 [type]

def ofSetIcmpv4Code (code : UInt8) : MsgDescriptor → Outcome :=
  setField .icmpv4Code 5 [code]

def ofSetMetaData (metaData : UInt64) : Option UInt64 → MsgDescriptor → Outcome
  | some mask => setFieldMasked .metadata 20 (bytes64 metaData) 12 (bytes64 mask)
  | none => setField .metadata 12 (bytes64 metaData)

def ofSetIpv6ExtensionHdr (pseudoField : UInt16) : Option UInt16 → MsgDescriptor → Outcome
  | some mask => setFieldMasked .ipv6Exthdr 8 (bytes16 pseudoField) 6 (bytes16 mask)
  | none => setField .ipv6Exthdr 6 (bytes16 pseudoField)

/-- The byte that a pointer leads to. -/
def deref8 (bytes : List UInt8) : UInt8 := bytes.headD 0

/-- The routine for a field, called with a value and maybe a mask in network order. -/
def ofSetMatchField (field : OxmField) (value : List UInt8) (mask : Option (List UInt8)) :
    MsgDescriptor → Outcome :=
  match field with
  | .inPort => ofSetInPort (word32 value)
  | .inPhyPort => ofSetInPhysicalPort (word32 value)
  | .metadata => ofSetMetaData (word64 value) (mask.map word64)
  | .ethDst => ofSetDestinationMac value mask
  | .ethSrc => ofSetSourceMac value mask
  | .ethType => ofSetEtherType (word16 value)
  | .vlanVid => ofSetVlanId (word16 value) (mask.map word16)
  | .vlanPcp => ofSetVlanPriorityBits (deref8 value)
  | .ipDscp => ofSetIpDscpBits (deref8 value)
  | .ipEcn => ofSetIpEcnBits (deref8 value)
  | .ipProto => ofSetProtocol (deref8 value)
  | .ipv4Src => ofSetIpv4Source (word32 value) (mask.map word32)
  | .ipv4Dst => ofSetIpv4Destination (word32 value) (mask.map word32)
  | .tcpSrc => ofSetTcpSourcePort (word16 value)
  | .tcpDst => ofSetTcpDestinationPort (word16 value)
  | .udpSrc => ofSetUdpSourcePort (word16 value)
  | .udpDst => ofSetUdpDestinationPort (word16 value)
  | .sctpSrc => ofSetSctpSourcePort (word16 value)
  | .sctpDst => ofSetSctpDestinationPort (word16 value)
  | .icmpv4Type => ofSetIcmpv4Type (deref8 value)
  | .icmpv4Code => ofSetIcmpv4Code (deref8 value)
  | .arpOp => ofSetArpOpCode (word16 value)
  | .arpSpa => ofSetArpSourceIpAddr (word32 value) (mask.map word32)
  | .arpTpa => ofSetArpTargetIpAddr (word32 value) (mask.map word32)
  | .arpSha => ofSetArpSourceHwAddr value mask
  | .arpTha => ofSetArpTargetHwAddr value mask
  | .ipv6Src => ofSetIpv6Source value mask
  | .ipv6Dst => ofSetIpv6Destination value mask
  | .ipv6Flabel => ofSetIpv6FlowLabel (word32 value) (mask.map word32)
  | .icmpv6Type => ofSetIcmpv6Type (deref8 value)
  | .icmpv6Code => ofSetIcmpv6Code (deref8 value)
  | .ipv6NdTarget => ofSetIpv6NdTarget value
  | .ipv6NdSll => ofSetIpv6NdSourceHwAddr value
  | .ipv6NdTll => ofSetIpv6NdTargetHwAddr value
  | .mplsLabel => ofSetMplsLabel (word32 value)
  | .mplsTc => ofSetMplsTc (deref8 value)
  | .mplsBos => ofSetMplsBos (deref8 value)
  | .pbbIsid => ofSetPbbISid value mask
  | .tunnelId => ofSetLogicalPortMetaData (word64 value) (mask.map word64)
  | .ipv6Exthdr => ofSetIpv6ExtensionHdr (word16 value) (mask.map word16)

/-- The `length` of the match is read from the buffer, where it still is in the order of
the host. -/
def ofuEndSettingMatchFieldValues (host : ByteOrder) (memory : ByteMemory)
    (desc : MsgDescriptor) : Outcome :=
  let matchLen := u16 (desc.length1 + load host (memory.slice (desc.utilsPtr + 2) 2))
  let length1 := u16 (desc.length1 + roundUp matchLen)
  { returned := length1
    desc := { desc with
      utilsLength := u16 (desc.utilsLength + (desc.length1 + 4))
      length1 := length1
      dataLen := u16 (desc.dataLen + length1) }
    stores := [⟨desc.utilsPtr + 2, bytes16 (UInt16.ofNat matchLen)⟩,
      ⟨desc.utilsPtr + 4 + desc.length1, List.replicate (roundUp matchLen) 0⟩] }

/-! ## Instructions -/

def ofuStartPushingInstructions (lengthOfMatchFields : Nat) (desc : MsgDescriptor) : Outcome where
  desc := { desc with ptr2 := desc.ptr1 + lengthOfMatchFields, length2 := 0 }

/-- What the routines for an instruction without actions do: the cursor goes to where the
instruction begins. -/
def pushInstruction (length : Nat) (stores : Int → List Store) (desc : MsgDescriptor) :
    Outcome :=
  let place := desc.ptr2 + desc.length2
  if desc.noRoom place length then refuse desc
  else {
    status := some .instructionPushSuccess
    desc := { desc with
      ptr2 := place, length2 := length, dataLen := u16 (desc.dataLen + length) }
    stores := stores place }

/-- What the routines do that begin an instruction with actions. -/
def pushActionsInstruction (type : UInt16) (desc : MsgDescriptor) : Outcome :=
  let place := desc.ptr2 + desc.length2
  if desc.noRoom place 8 then refuse desc
  else {
    status := some .instructionPushSuccess
    desc := { desc with ptr2 := place, length2 := 8, length3 := 0, ptr3 := place + 8 }
    stores := [⟨place, bytes16 type ++ bytes16 0⟩] }

def ofuStartPushingApplyActionInstruction : MsgDescriptor → Outcome :=
  pushActionsInstruction Ofpit.applyActions

def ofuStartPushingWriteActionInstruction : MsgDescriptor → Outcome :=
  pushActionsInstruction Ofpit.writeActions

def ofuPushWriteMetaDataInstruction (metaData metaDataMask : UInt64) : MsgDescriptor → Outcome :=
  pushInstruction 24 fun place =>
    [⟨place, bytes16 Ofpit.writeMetadata ++ bytes16 24⟩,
      ⟨place + 8, bytes64 metaData ++ bytes64 metaDataMask⟩]

def ofuPushGoToTableInstruction (tableId : UInt8) : MsgDescriptor → Outcome :=
  pushInstruction 8 fun place =>
    [⟨place, bytes16 Ofpit.gotoTable ++ bytes16 8 ++ [tableId]⟩]

def ofuPushClearActionInstruction : MsgDescriptor → Outcome :=
  pushInstruction 8 fun place => [⟨place, bytes16 Ofpit.clearActions ++ bytes16 8⟩]

def ofuPushMeterInstruction (meterId : UInt32) : MsgDescriptor → Outcome :=
  pushInstruction 8 fun place =>
    [⟨place, bytes16 Ofpit.meter ++ bytes16 8 ++ bytes32 meterId⟩]

def ofuEndPushingApplyActionInstruction (lengthOfActions : Nat) (desc : MsgDescriptor) :
    Outcome where
  desc := desc
  stores := [⟨desc.ptr2 + 2, bytes16 (UInt16.ofNat lengthOfActions)⟩]

def ofuEndPushingInstructions (desc : MsgDescriptor) : Outcome where
  returned := desc.length2
  desc := desc

/-! ## Actions -/

def ofuStartPushingActions (desc : MsgDescriptor) : Outcome :=
  let ptr2 := if desc.ptr2 = desc.ptr3 then desc.ptr1 + desc.length1 else desc.ptr2
  { desc := { desc with ptr2 := ptr2, ptr3 := ptr2 + desc.length2, length3 := 0 } }

def ofuEndPushingActions (desc : MsgDescriptor) : Outcome :=
  let length2 := u16 (desc.length2 + desc.length3)
  { returned := length2
    desc := { desc with length2 := length2, dataLen := u16 (desc.dataLen + length2) } }

/-- The room that the routines for actions look for, all but one. -/
def ofuOutputActionLen : Nat := 16

/-- What the routines for an action do: the room is looked for at the first cursor, and
the action goes to the third. -/
def pushAction (checked : Nat) (type : UInt16) (length : Nat) (operands : List UInt8)
    (desc : MsgDescriptor) : Outcome :=
  if desc.noRoom (desc.ptr1 + desc.length1) checked then refuse desc
  else {
    status := some .actionPushSuccess
    desc := { desc with length3 := u16 (desc.length3 + length) }
    stores := [⟨desc.ptr3 + desc.length3,
      bytes16 type ++ bytes16 (UInt16.ofNat length) ++ operands⟩] }

def ofuPushOutputAction (portNo : UInt32) (maxLen : UInt16) : MsgDescriptor → Outcome :=
  pushAction ofuOutputActionLen Ofpat.output 16
    (bytes32 portNo ++ bytes16 (if maxLen = 0 then 128 else maxLen))

def ofuPushGroupAction (groupId : UInt32) : MsgDescriptor → Outcome :=
  pushAction ofuOutputActionLen Ofpat.group 8 (bytes32 groupId)

/-- "To be done": nothing is written. -/
def ofuPushSetQueueAction (_queueId : UInt32) (desc : MsgDescriptor) : Outcome :=
  if desc.noRoom (desc.ptr1 + desc.length1) ofuOutputActionLen then refuse desc
  else { status := some .actionPushSuccess, desc := desc }

def ofuPushSetMplsTtlAction (mplsTtl : UInt8) : MsgDescriptor → Outcome :=
  pushAction ofuOutputActionLen Ofpat.setMplsTtl 8 [mplsTtl]

/-- The first cursor moves, not the third. -/
def ofuPushDecMplsTtlAction (desc : MsgDescriptor) : Outcome :=
  if desc.noRoom (desc.ptr1 + desc.length1) ofuOutputActionLen then refuse desc
  else {
    status := some .actionPushSuccess
    desc := { desc with length1 := u16 (desc.length1 + 8) }
    stores := [⟨desc.ptr3 + desc.length3, bytes16 Ofpat.decMplsTtl ++ bytes16 8⟩] }

def ofuPushSetIpv4TtlAction (ipv4Ttl : UInt8) : MsgDescriptor → Outcome :=
  pushAction ofuOutputActionLen Ofpat.setNwTtl 8 [ipv4Ttl]

def ofuPushDecIpv4TtlAction : MsgDescriptor → Outcome :=
  pushAction 8 Ofpat.decNwTtl 8 []

def ofuPushPushPbbHeaderAction (etherType : UInt16) : MsgDescriptor → Outcome :=
  pushAction ofuOutputActionLen Ofpat.pushPbb 8 (bytes16 etherType)

def ofuPushPopPbbHeaderAction : MsgDescriptor → Outcome :=
  pushAction ofuOutputActionLen Ofpat.popPbb 8 []

def ofuPushPushMplsHeaderAction (etherType : UInt16) : MsgDescriptor → Outcome :=
  pushAction ofuOutputActionLen Ofpat.pushMpls 8 (bytes16 etherType)

def ofuPushPopMplsHeaderAction (etherType : UInt16) : MsgDescriptor → Outcome :=
  pushAction ofuOutputActionLen Ofpat.popMpls 8 (bytes16 etherType)

def ofuPushPushVlanHeaderAction (etherType : UInt16) : MsgDescriptor → Outcome :=
  pushAction ofuOutputActionLen Ofpat.pushVlan 8 (bytes16 etherType)

def ofuPushPopVlanHeaderAction : MsgDescriptor → Outcome :=
  pushAction ofuOutputActionLen Ofpat.popVlan 8 []

/-- The length of the actions becomes that of this one. -/
def ofuPushCopyTtlInwardAction (desc : MsgDescriptor) : Outcome :=
  if desc.noRoom (desc.ptr1 + desc.length1) ofuOutputActionLen then refuse desc
  else {
    status := some .actionPushSuccess
    desc := { desc with length3 := 8 }
    stores := [⟨desc.ptr3 + desc.length3, bytes16 Ofpat.copyTtlIn ++ bytes16 8⟩] }

def ofuPushCopyTtlOutwardAction : MsgDescriptor → Outcome :=
  pushAction ofuOutputActionLen Ofpat.copyTtlOut 8 []

/-! ## Actions that set a field -/

/-- What the routines do; `length` is the `OFU_SET_FIELD_WITH_*_ACTION_LEN` of the field,
and `oxmLen` the argument of `OF_SET_FIELD_ACTION_PADDING_LEN`.  The zeros are counted
from `set_field->field`, four bytes behind the start of the action. -/
def pushSetField (field : OxmField) (length oxmLen : Nat) (value : List UInt8)
    (desc : MsgDescriptor) : Outcome :=
  let paddingBytes := roundUp oxmLen
  if desc.noRoom (desc.ptr1 + desc.length1) length then refuse desc
  else
    let place := desc.ptr3 + desc.length3
    { status := some .actionPushSuccess
      desc := { desc with length3 := u16 (desc.length3 + (length + paddingBytes)) }
      stores := [⟨place, bytes16 Ofpat.setField ++
          bytes16 (UInt16.ofNat (length + paddingBytes)) ++
          oxmHeader field false field.width ++ value⟩,
        ⟨place + 4 + length, List.replicate paddingBytes 0⟩] }

/-- `sizeof(struct ofp_action_set_field)`. -/
def sizeofSetField : Nat := 8

def ofuPushSetPortInSetFieldAction (inPortNumber : UInt32) : MsgDescriptor → Outcome :=
  pushSetField .inPort (sizeofSetField + 4) 4 (bytes32 inPortNumber)

def ofuPushSetInPhysicalPortInSetFieldAction (inPhyPortNo : UInt32) : MsgDescriptor → Outcome :=
  pushSetField .inPhyPort (sizeofSetField + 4) 4 (bytes32 inPhyPortNo)

def ofuPushSetMplsLabelInSetFieldAction (mplsLabel : UInt32) : MsgDescriptor → Outcome :=
  pushSetField .mplsLabel (sizeofSetField + 4) 4 (bytes32 mplsLabel)

def ofuPushSetMplsTcInSetFieldAction (mplsTc : UInt8) : MsgDescriptor → Outcome :=
  pushSetField .mplsTc (sizeofSetField + 1) 1 [mplsTc]

def ofuPushSetMplsBosBitsInSetFieldAction (mplsBosBits : UInt8) : MsgDescriptor → Outcome :=
  pushSetField .mplsBos (sizeofSetField + 1) 1 [mplsBosBits]

/-- One byte of the three is stored, and the padding is that of a field of one byte. -/
def ofuPushSetPbbIsidInSetFieldAction (pbbIsid : List UInt8) : MsgDescriptor → Outcome :=
  pushSetField .pbbIsid (sizeofSetField + 3) 1 (memcpy pbbIsid 1)

def ofuPushSetLogicalPortMetaDataInSetFieldAction (tunnelId : UInt64) : MsgDescriptor → Outcome :=
  pushSetField .tunnelId (sizeofSetField + 8) 8 (bytes64 tunnelId)

def ofuPushSetDestinationMacInSetFieldAction (destMacAddr : List UInt8) : MsgDescriptor → Outcome :=
  pushSetField .ethDst (sizeofSetField + 6) 6 (memcpy destMacAddr 6)

def ofuPushSetSourceMacInSetFieldAction (sourceMacAddr : List UInt8) : MsgDescriptor → Outcome :=
  pushSetField .ethSrc (sizeofSetField + 6) 6 (memcpy sourceMacAddr 6)

def ofuPushSetEthTypeInSetFieldAction (ethFrameType : UInt16) : MsgDescriptor → Outcome :=
  pushSetField .ethType (sizeofSetField + 2) 2 (bytes16 ethFrameType)

def ofuPushSetVlanIdInSetFieldAction (vlanId : UInt16) : MsgDescriptor → Outcome :=
  pushSetField .vlanVid (sizeofSetField + 2) 2 (bytes16 vlanId)

def ofuPushSetVlanPriorityBitsInSetFieldAction (vlanPriorityBits : UInt8) :
    MsgDescriptor → Outcome :=
  pushSetField .vlanPcp (sizeofSetField + 1) 1 [vlanPriorityBits]

def ofuPushSetIpDscpBitsInSetFieldAction (ipDscpBits : UInt8) : MsgDescriptor → Outcome :=
  pushSetField .ipDscp (sizeofSetField + 1) 1 [ipDscpBits]

def ofuPushSetIpEcnBitsInSetFieldAction (ipEcnBits : UInt8) : MsgDescriptor → Outcome :=
  pushSetField .ipEcn (sizeofSetField + 1) 1 [ipEcnBits]

def ofuPushSetIpProtocolInSetFieldAction (ipProtocol : UInt8) : MsgDescriptor → Outcome :=
  pushSetField .ipProto (sizeofSetField + 1) 1 [ipProtocol]

def ofuPushSetIpv4SrcAddrInSetFieldAction (ipv4Addr : UInt32) : MsgDescriptor → Outcome :=
  pushSetField .ipv4Src (sizeofSetField + 4) 4 (bytes32 ipv4Addr)

def ofuPushSetIpv4DstAddrInSetFieldAction (ipv4Addr : UInt32) : MsgDescriptor → Outcome :=
  pushSetField .ipv4Dst (sizeofSetField + 4) 4 (bytes32 ipv4Addr)

def ofuPushSetSourceIpv6AddrInSetFieldAction (ipv6Addr : List UInt8) : MsgDescriptor → Outcome :=
  pushSetField .ipv6Src (sizeofSetField + 16) 16 (memcpy ipv6Addr 16)

def ofuPushSetDestinationIpv6AddrInSetFieldAction (ipv6Addr : List UInt8) :
    MsgDescriptor → Outcome :=
  pushSetField .ipv6Dst (sizeofSetField + 16) 16 (memcpy ipv6Addr 16)

def ofuPushSetIpv6FlowLabelInSetFieldAction (flowLabel : UInt32) : MsgDescriptor → Outcome :=
  pushSetField .ipv6Flabel (sizeofSetField + 4) 4 (bytes32 flowLabel)

def ofuPushSetIcmpv6TypeInSetFieldAction (icmpv6Type : UInt8) : MsgDescriptor → Outcome :=
  pushSetField .icmpv6Type (sizeofSetField + 1) 1 [icmpv6Type]

def ofuPushSetIcmpv6CodeInSetFieldAction (icmpv6Code : UInt8) : MsgDescriptor → Outcome :=
  pushSetField .icmpv6Code (sizeofSetField + 1) 1 [icmpv6Code]

def ofuPushSetNdTargetIpv6AddrInSetFieldAction (ipv6Addr : List UInt8) : MsgDescriptor → Outcome :=
  pushSetField .ipv6NdTarget (sizeofSetField + 16) 16 (memcpy ipv6Addr 16)

def ofuPushSetNdSourceLinkLayerAddrInSetFieldAction (hwAddr : List UInt8) :
    MsgDescriptor → Outcome :=
  pushSetField .ipv6NdSll (sizeofSetField + 6) 6 (memcpy hwAddr 6)

def ofuPushSetNdTargetLinkLayerAddrInSetFieldAction (hwAddr : List UInt8) :
    MsgDescriptor → Outcome :=
  pushSetField .ipv6NdTll (sizeofSetField + 6) 6 (memcpy hwAddr 6)

def ofuPushSetIpv6ExthdrFieldInSetFieldAction (pseudoFields : UInt16) : MsgDescriptor → Outcome :=
  pushSetField .ipv6Exthdr (sizeofSetField + 2) 2 (bytes16 pseudoFields)

def ofuPushSetTcpSrcPortInSetFieldAction (portNumber : UInt16) : MsgDescriptor → Outcome :=
  pushSetField .tcpSrc (sizeofSetField + 2) 2 (bytes16 portNumber)

def ofuPushSetTcpDstPortInSetFieldAction (portNumber : UInt16) : MsgDescriptor → Outcome :=
  pushSetField .tcpDst (sizeofSetField + 2) 2 (bytes16 portNumber)

def ofuPushSetUdpSrcPortInSetFieldAction (portNumber : UInt16) : MsgDescriptor → Outcome :=
  pushSetField .udpSrc (sizeofSetField + 2) 2 (bytes16 portNumber)

def ofuPushSetUdpDstPortInSetFieldAction (portNumber : UInt16) : MsgDescriptor → Outcome :=
  pushSetField .udpDst (sizeofSetField + 2) 2 (bytes16 portNumber)

def ofuPushSetSctpSrcPortInSetFieldAction (portNumber : UInt16) : MsgDescriptor → Outcome :=
  pushSetField .sctpSrc (sizeofSetField + 2) 2 (bytes16 portNumber)

def ofuPushSetSctpDstPortInSetFieldAction (portNumber : UInt16) : MsgDescriptor → Outcome :=
  pushSetField .sctpDst (sizeofSetField + 2) 2 (bytes16 portNumber)

def ofuPushSetIcmpv4TypeInSetFieldAction (icmpv4Type : UInt8) : MsgDescriptor → Outcome :=
  pushSetField .icmpv4Type (sizeofSetField + 1) 1 [icmpv4Type]

def ofuPushSetIcmpv4CodeInSetFieldAction (icmpv4Code : UInt8) : MsgDescriptor → Outcome :=
  pushSetField .icmpv4Code (sizeofSetField + 1) 1 [icmpv4Code]

def ofuPushSetArpOpcodeInSetFieldAction (arpOpcode : UInt16) : MsgDescriptor → Outcome :=
  pushSetField .arpOp (sizeofSetField + 2) 2 (bytes16 arpOpcode)

def ofuPushSetArpSourceIpv4AddrInSetFieldAction (ipv4Addr : UInt32) : MsgDescriptor → Outcome :=
  pushSetField .arpSpa (sizeofSetField + 4) 4 (bytes32 ipv4Addr)

def ofuPushSetArpTargetIpv4AddrInSetFieldAction (ipv4Addr : UInt32) : MsgDescriptor → Outcome :=
  pushSetField .arpTpa (sizeofSetField + 4) 4 (bytes32 ipv4Addr)

def ofuPushSetArpSourceHwAddrInSetFieldAction (hwAddr : List UInt8) : MsgDescriptor → Outcome :=
  pushSetField .arpSha (sizeofSetField + 6) 6 (memcpy hwAddr 6)

def ofuPushSetArpTargetHwAddrInSetFieldAction (hwAddr : List UInt8) : MsgDescriptor → Outcome :=
  pushSetField .arpTha (sizeofSetField + 6) 6 (memcpy hwAddr 6)

/-- The routine for a field, called with a value in network order.  There is none for the
metadata. -/
def setFieldRoutine (field : OxmField) (value : List UInt8) : Option (MsgDescriptor → Outcome) :=
  match field with
  | .inPort => some (ofuPushSetPortInSetFieldAction (word32 value))
  | .inPhyPort => some (ofuPushSetInPhysicalPortInSetFieldAction (word32 value))
  | .metadata => none
  | .ethDst => some (ofuPushSetDestinationMacInSetFieldAction value)
  | .ethSrc => some (ofuPushSetSourceMacInSetFieldAction value)
  | .ethType => some (ofuPushSetEthTypeInSetFieldAction (word16 value))
  | .vlanVid => some (ofuPushSetVlanIdInSetFieldAction (word16 value))
  | .vlanPcp => some (ofuPushSetVlanPriorityBitsInSetFieldAction (deref8 value))
  | .ipDscp => some (ofuPushSetIpDscpBitsInSetFieldAction (deref8 value))
  | .ipEcn => some (ofuPushSetIpEcnBitsInSetFieldAction (deref8 value))
  | .ipProto => some (ofuPushSetIpProtocolInSetFieldAction (deref8 value))
  | .ipv4Src => some (ofuPushSetIpv4SrcAddrInSetFieldAction (word32 value))
  | .ipv4Dst => some (ofuPushSetIpv4DstAddrInSetFieldAction (word32 value))
  | .tcpSrc => some (ofuPushSetTcpSrcPortInSetFieldAction (word16 value))
  | .tcpDst => some (ofuPushSetTcpDstPortInSetFieldAction (word16 value))
  | .udpSrc => some (ofuPushSetUdpSrcPortInSetFieldAction (word16 value))
  | .udpDst => some (ofuPushSetUdpDstPortInSetFieldAction (word16 value))
  | .sctpSrc => some (ofuPushSetSctpSrcPortInSetFieldAction (word16 value))
  | .sctpDst => some (ofuPushSetSctpDstPortInSetFieldAction (word16 value))
  | .icmpv4Type => some (ofuPushSetIcmpv4TypeInSetFieldAction (deref8 value))
  | .icmpv4Code => some (ofuPushSetIcmpv4CodeInSetFieldAction (deref8 value))
  | .arpOp => some (ofuPushSetArpOpcodeInSetFieldAction (word16 value))
  | .arpSpa => some (ofuPushSetArpSourceIpv4AddrInSetFieldAction (word32 value))
  | .arpTpa => some (ofuPushSetArpTargetIpv4AddrInSetFieldAction (word32 value))
  | .arpSha => some (ofuPushSetArpSourceHwAddrInSetFieldAction value)
  | .arpTha => some (ofuPushSetArpTargetHwAddrInSetFieldAction value)
  | .ipv6Src => some (ofuPushSetSourceIpv6AddrInSetFieldAction value)
  | .ipv6Dst => some (ofuPushSetDestinationIpv6AddrInSetFieldAction value)
  | .ipv6Flabel => some (ofuPushSetIpv6FlowLabelInSetFieldAction (word32 value))
  | .icmpv6Type => some (ofuPushSetIcmpv6TypeInSetFieldAction (deref8 value))
  | .icmpv6Code => some (ofuPushSetIcmpv6CodeInSetFieldAction (deref8 value))
  | .ipv6NdTarget => some (ofuPushSetNdTargetIpv6AddrInSetFieldAction value)
  | .ipv6NdSll => some (ofuPushSetNdSourceLinkLayerAddrInSetFieldAction value)
  | .ipv6NdTll => some (ofuPushSetNdTargetLinkLayerAddrInSetFieldAction value)
  | .mplsLabel => some (ofuPushSetMplsLabelInSetFieldAction (word32 value))
  | .mplsTc => some (ofuPushSetMplsTcInSetFieldAction (deref8 value))
  | .mplsBos => some (ofuPushSetMplsBosBitsInSetFieldAction (deref8 value))
  | .pbbIsid => some (ofuPushSetPbbIsidInSetFieldAction value)
  | .tunnelId => some (ofuPushSetLogicalPortMetaDataInSetFieldAction (word64 value))
  | .ipv6Exthdr => some (ofuPushSetIpv6ExthdrFieldInSetFieldAction (word16 value))

/-! ## One routine for all -/

/-- The bytes of a value that the routines store. -/
def storedValue (field : OxmField) (value : List UInt8) : List UInt8 :=
  if field = .pbbIsid then value.take 1 else value

/-- The width from which the padding of an action is computed. -/
def paddedWidth (field : OxmField) : Nat := if field = .pbbIsid then 1 else field.width

/-- The `OFU_*_MASK_LEN` of a field. -/
def maskLen (field : OxmField) : Nat :=
  match field with
  | .vlanVid | .tunnelId | .pbbIsid => 4 + field.width
  | _ => 4 + 2 * field.width

variable {bytes : List UInt8}

theorem singleton_deref8 (one : bytes.length = 1) : [deref8 bytes] = bytes := by
  obtain ⟨byte, rfl⟩ := List.length_eq_one_iff.mp one
  rfl

theorem memcpy_all {count : Nat} (all : bytes.length = count) : memcpy bytes count = bytes := by
  rw [memcpy, ← all, List.take_length]

variable {field : OxmField} {value : List UInt8}

theorem ofSetMatchField_unmasked (width : value.length = field.width) :
    ofSetMatchField field value none =
      setField field (4 + field.width) (storedValue field value) := by
  cases field <;> simp only [OxmField.width] at width <;>
    first
    | exact congrArg (setField _ 8) (bytes32_word32 width)
    | exact congrArg (setField _ 12) (bytes64_word64 width)
    | exact congrArg (setField _ 6) (bytes16_word16 width)
    | exact congrArg (setField _ 5) (singleton_deref8 width)
    | exact congrArg (setField _ _) (memcpy_all width)
    | rfl

theorem ofSetMatchField_masked {mask : List UInt8} (maskable : field.maskable = true)
    (width : value.length = field.width) (maskWidth : mask.length = field.width) :
    ofSetMatchField field value (some mask) =
      setFieldMasked field (maskLen field) (storedValue field value) (4 + field.width)
        (storedValue field mask) := by
  cases field <;> simp only [OxmField.width] at width maskWidth <;>
    first
    | exact absurd maskable Bool.false_ne_true
    | exact congrArg₂ (fun value mask => setFieldMasked _ 12 value 8 mask)
        (bytes32_word32 width) (bytes32_word32 maskWidth)
    | exact congrArg₂ (fun value mask => setFieldMasked _ _ value 12 mask)
        (bytes64_word64 width) (bytes64_word64 maskWidth)
    | exact congrArg₂ (fun value mask => setFieldMasked _ _ value 6 mask)
        (bytes16_word16 width) (bytes16_word16 maskWidth)
    | exact congrArg₂ (fun value mask => setFieldMasked _ _ value _ mask)
        (memcpy_all width) (memcpy_all maskWidth)
    | rfl

theorem setFieldRoutine_eq (width : value.length = field.width) (routine : field ≠ .metadata) :
    setFieldRoutine field value =
      some (pushSetField field (8 + field.width) (paddedWidth field)
        (storedValue field value)) := by
  cases field <;> simp only [OxmField.width] at width <;>
    first
    | exact absurd rfl routine
    | exact congrArg (fun value => some (pushSetField _ 12 4 value)) (bytes32_word32 width)
    | exact congrArg (fun value => some (pushSetField _ 16 8 value)) (bytes64_word64 width)
    | exact congrArg (fun value => some (pushSetField _ 10 2 value)) (bytes16_word16 width)
    | exact congrArg (fun value => some (pushSetField _ 9 1 value)) (singleton_deref8 width)
    | exact congrArg (fun value => some (pushSetField _ _ _ value)) (memcpy_all width)
    | rfl
/-! ## Actions -/

/-- The routine that writes an action.  There is none here for an experimenter's. -/
def actionRoutine : WireAction → Option (MsgDescriptor → Outcome)
  | .output port maxLen => some (ofuPushOutputAction port maxLen)
  | .copyTtlOut => some ofuPushCopyTtlOutwardAction
  | .copyTtlIn => some ofuPushCopyTtlInwardAction
  | .setMplsTtl ttl => some (ofuPushSetMplsTtlAction ttl)
  | .decMplsTtl => some ofuPushDecMplsTtlAction
  | .pushVlan etherType => some (ofuPushPushVlanHeaderAction etherType)
  | .popVlan => some ofuPushPopVlanHeaderAction
  | .pushMpls etherType => some (ofuPushPushMplsHeaderAction etherType)
  | .popMpls etherType => some (ofuPushPopMplsHeaderAction etherType)
  | .setQueue queueId => some (ofuPushSetQueueAction queueId)
  | .group groupId => some (ofuPushGroupAction groupId)
  | .setNwTtl ttl => some (ofuPushSetIpv4TtlAction ttl)
  | .decNwTtl => some ofuPushDecIpv4TtlAction
  | .setField value => setFieldRoutine value.field value.bytes
  | .pushPbb etherType => some (ofuPushPushPbbHeaderAction etherType)
  | .popPbb => some ofuPushPopPbbHeaderAction
  | .experimenter .. => none

/-! ## Buckets -/

def ofuGroupActionBucketLen : Nat := 8

/-- `sizeof(struct ofp_group_mod)`. -/
def sizeofOfpGroupMod : Nat := 24

def ofuStartAppendingBucketsToGroup (desc : MsgDescriptor) : Outcome where
  desc := { desc with ptr2 := sizeofOfpGroupMod, length2 := 0 }

/-- Where the last bucket begins, counted back from the second cursor. -/
def MsgDescriptor.lastBucket (desc : MsgDescriptor) : Int :=
  desc.ptr2 + desc.length2 - (desc.length3 + ofuGroupActionBucketLen)

/-- `bucket_len`: header, actions and properties. -/
def MsgDescriptor.bucketLen (desc : MsgDescriptor) : Nat :=
  u16 (ofuGroupActionBucketLen + desc.length3 + desc.length1)

/-- The stores that fill in the lengths of the last bucket. -/
def MsgDescriptor.closing (desc : MsgDescriptor) : List Store :=
  [⟨desc.lastBucket + desc.bucketLen, List.replicate (roundUp desc.bucketLen) 0⟩,
    ⟨desc.lastBucket, bytes16 (UInt16.ofNat (desc.bucketLen + roundUp desc.bucketLen)) ++
      bytes16 (UInt16.ofNat desc.length3)⟩]

/-- The second length when the last bucket, if there is one, has been closed. -/
def MsgDescriptor.length2Closed (desc : MsgDescriptor) (propsCounted : Nat) : Nat :=
  if 0 < desc.length2 then
    u16 (desc.length2 + propsCounted * desc.length1 + roundUp desc.bucketLen)
  else desc.length2

/-- What the routines do that begin a bucket; `propsCounted` is how often they count the
properties of the last one. -/
def appendBucket (propsCounted : Nat) (bucketId : UInt32) (desc : MsgDescriptor) : Outcome :=
  let stores := if 0 < desc.length2 then desc.closing else []
  let length2 := desc.length2Closed propsCounted
  let desc' := { desc with length2 := length2 }
  if desc'.noRoom (desc.ptr2 + length2) ofuGroupActionBucketLen then
    { status := some .noRoomInBuffer, desc := desc', stores := stores }
  else
    { status := some .appendBucketSuccess
      desc := { desc with length2 := u16 (length2 + ofuGroupActionBucketLen) }
      -- the header goes behind the first cursor's length, the second cursor does not
      stores := stores ++ [⟨desc.ptr2 + length2 + desc.length1 + 4, bytes32 bucketId⟩] }

def ofuAppendBucketToGroupTypeAll : UInt32 → MsgDescriptor → Outcome := appendBucket 1

def ofuAppendBucketToGroupTypeSelect : UInt32 → MsgDescriptor → Outcome := appendBucket 1

def ofuAppendBucketToGroupTypeIndirect : UInt32 → MsgDescriptor → Outcome := appendBucket 1

/-- The only one that counts the properties twice. -/
def ofuAppendBucketToGroupTypeFastFailover : UInt32 → MsgDescriptor → Outcome :=
  appendBucket 2

/-- `enum ofp_group_type`. -/
inductive GroupType where
  | all
  | select
  | indirect
  | fastFailover

/-- The routine that begins a bucket of a group. -/
def ofuAppendBucketToGroup : GroupType → UInt32 → MsgDescriptor → Outcome
  | .all => ofuAppendBucketToGroupTypeAll
  | .select => ofuAppendBucketToGroupTypeSelect
  | .indirect => ofuAppendBucketToGroupTypeIndirect
  | .fastFailover => ofuAppendBucketToGroupTypeFastFailover

def ofuEndAppendingBucketsToGroup (desc : MsgDescriptor) : Outcome where
  returned := u16 (desc.length2 + roundUp desc.bucketLen + desc.length1)
  desc := desc
  stores := desc.closing

/-! ## Properties of a bucket -/

def ofuStartAttachBucketProperties (desc : MsgDescriptor) : Outcome where
  desc := { desc with ptr1 := desc.ptr2 + desc.length2, length1 := 0 }

/-- What the routines for a property do. -/
def attachProp (type : UInt16) (operands : List UInt8) (desc : MsgDescriptor) : Outcome :=
  let place := desc.ptr1 + desc.length1
  if desc.noRoom place 8 then refuse desc
  else {
    status := some .appendBucketSuccess
    desc := { desc with length1 := u16 (desc.length1 + 8) }
    stores := [⟨place, bytes16 type ++ bytes16 8 ++ operands⟩] }

def ofuAttachWeightPropToBucket (weight : UInt16) : MsgDescriptor → Outcome :=
  attachProp Ofpgbpt.weight (bytes16 weight)

def ofuAttachWatchPortPropToBucket (watchPort : UInt32) : MsgDescriptor → Outcome :=
  attachProp Ofpgbpt.watchPort (bytes32 watchPort)

def ofuAttachWatchGroupPropToBucket (watchGroup : UInt32) : MsgDescriptor → Outcome :=
  attachProp Ofpgbpt.watchGroup (bytes32 watchGroup)

/-- A property to attach. -/
inductive BucketProp where
  | weight (value : UInt16)
  | watchPort (port : UInt32)
  | watchGroup (groupId : UInt32)

/-- The routine that attaches a property. -/
def attachRoutine : BucketProp → MsgDescriptor → Outcome
  | .weight value => ofuAttachWeightPropToBucket value
  | .watchPort port => ofuAttachWatchPortPropToBucket port
  | .watchGroup groupId => ofuAttachWatchGroupPropToBucket groupId

def ofuEndAttachBucketProperties (desc : MsgDescriptor) : Outcome where
  returned := desc.length1
  desc := { desc with dataLen := u16 (desc.dataLen + desc.length1) }

/-! ## Bands of a meter -/

def ofuStartAppendingBandsToMeter (desc : MsgDescriptor) : Outcome where
  desc := { desc with ptr2 := desc.ptr1 + desc.length1, length2 := 0 }

def ofuMeterBandLen : Nat := 16

/-- What the routines for a band do.  They look for no room. -/
def appendBand (type : UInt16) (bandRate burstValue : UInt32) (operands : List UInt8)
    (desc : MsgDescriptor) : Outcome :=
  let place := desc.ptr2 + desc.length2
  { status := some .appendBandSuccess
    desc := { desc with ptr2 := place, length2 := ofuMeterBandLen }
    stores := [⟨place, bytes16 type ++ bytes16 16 ++ bytes32 bandRate ++
      bytes32 burstValue ++ operands⟩] }

def ofuAppendBandToMeterTypeDrop (bandRate burstValue : UInt32) : MsgDescriptor → Outcome :=
  appendBand 1 bandRate burstValue []

def ofuAppendBandToMeterTypeDscpRemark (bandRate : UInt32) (precLevel : UInt8)
    (burstValue : UInt32) : MsgDescriptor → Outcome :=
  appendBand 2 bandRate burstValue [precLevel]

def ofuEndAppendingBandsToMeter (desc : MsgDescriptor) : Outcome where
  returned := u16 (desc.length1 + desc.length2)
  desc := { desc with dataLen := u16 (desc.dataLen + desc.length2) }

/-! ## All calls -/

/-- A call of a routine that works on a message buffer. -/
inductive EncoderCall where
  | startSettingMatchFieldValues
  | setMatchField (entry : MatchField)
  | endSettingMatchFieldValues
  | startPushingInstructions (lengthOfMatchFields : UInt16)
  | startPushingApplyActionInstruction
  | startPushingWriteActionInstruction
  | pushWriteMetaDataInstruction (metaData metaDataMask : UInt64)
  | pushGoToTableInstruction (tableId : UInt8)
  | pushClearActionInstruction
  | pushMeterInstruction (meterId : UInt32)
  | endPushingApplyActionInstruction (lengthOfActions : UInt16)
  | endPushingInstructions
  | startPushingActions
  | pushAction (action : WireAction) (routine : MsgDescriptor → Outcome)
      (is : actionRoutine action = some routine)
  | endPushingActions
  | startAppendingBucketsToGroup
  | appendBucket (type : GroupType) (bucketId : UInt32)
  | endAppendingBucketsToGroup
  | startAttachBucketProperties
  | attachProp (prop : BucketProp)
  | endAttachBucketProperties
  | startAppendingBandsToMeter
  | appendBandDrop (bandRate burstValue : UInt32)
  | appendBandDscpRemark (bandRate : UInt32) (precLevel : UInt8) (burstValue : UInt32)
  | endAppendingBandsToMeter

/-- What a call does. -/
def EncoderCall.run (host : ByteOrder) (memory : ByteMemory) (desc : MsgDescriptor) :
    EncoderCall → Outcome
  | .startSettingMatchFieldValues => ofuStartSettingMatchFieldValues host desc
  | .setMatchField entry => ofSetMatchField entry.field entry.value entry.mask desc
  | .endSettingMatchFieldValues => ofuEndSettingMatchFieldValues host memory desc
  | .startPushingInstructions length => ofuStartPushingInstructions length.toNat desc
  | .startPushingApplyActionInstruction => ofuStartPushingApplyActionInstruction desc
  | .startPushingWriteActionInstruction => ofuStartPushingWriteActionInstruction desc
  | .pushWriteMetaDataInstruction metaData mask =>
    ofuPushWriteMetaDataInstruction metaData mask desc
  | .pushGoToTableInstruction tableId => ofuPushGoToTableInstruction tableId desc
  | .pushClearActionInstruction => ofuPushClearActionInstruction desc
  | .pushMeterInstruction meterId => ofuPushMeterInstruction meterId desc
  | .endPushingApplyActionInstruction length =>
    ofuEndPushingApplyActionInstruction length.toNat desc
  | .endPushingInstructions => ofuEndPushingInstructions desc
  | .startPushingActions => ofuStartPushingActions desc
  | .pushAction _ routine _ => routine desc
  | .endPushingActions => ofuEndPushingActions desc
  | .startAppendingBucketsToGroup => ofuStartAppendingBucketsToGroup desc
  | .appendBucket type bucketId => ofuAppendBucketToGroup type bucketId desc
  | .endAppendingBucketsToGroup => ofuEndAppendingBucketsToGroup desc
  | .startAttachBucketProperties => ofuStartAttachBucketProperties desc
  | .attachProp prop => attachRoutine prop desc
  | .endAttachBucketProperties => ofuEndAttachBucketProperties desc
  | .startAppendingBandsToMeter => ofuStartAppendingBandsToMeter desc
  | .appendBandDrop rate burst => ofuAppendBandToMeterTypeDrop rate burst desc
  | .appendBandDscpRemark rate precLevel burst =>
    ofuAppendBandToMeterTypeDscpRemark rate precLevel burst desc
  | .endAppendingBandsToMeter => ofuEndAppendingBandsToMeter desc

/-- A message that is being written: its descriptor, and the memory with its buffer. -/
structure EncoderState where
  desc : MsgDescriptor
  memory : ByteMemory

/-- A flow modification of the length that was asked for, as it is before its match: zeros
from `ofu_alloc_message` behind the fixed part, of which all but the header of the match is
counted. -/
def allocFlowMod (bufferLen : Nat) : EncoderState where
  desc := { bufferLen := bufferLen, dataLen := 52, utilsPtr := 48 }
  memory := fun _ => 0

/-- The message after a routine. -/
def EncoderState.after (state : EncoderState) (outcome : Outcome) : EncoderState where
  desc := outcome.desc
  memory := state.memory.write outcome.stores

/-- One call. -/
def encoderStep (host : ByteOrder) (state : EncoderState) (call : EncoderCall) :
    EncoderState :=
  state.after (call.run host state.memory state.desc)

end OpenFlowController.Encoder
