/-
Module: Messages.FlowStats
Purpose: How the body of a flow record is decoded: a match of fields and a list of
  instructions with their actions, by lengths that the peer wrote.
Source: ofproto/src/messages/of_cntlr_msg.c (of_flow_stats_frame_respone,
  of_bind_stats_frame_respone, of_frame_match_field_response,
  of_frame_instruction_response), include/of_multipart.h, ofproto/src/include/openflow.h,
  l3extutils/include/fsl_ext.h
Trusted boundary: a function stops as outside at the first byte that it reads behind the given
  length, and at a mask that does not fit its array
-/
import OpenFlowController.Include.ActionFormat
import OpenFlowController.Messages.GroupDesc

namespace OpenFlowController.Messages

open Include Library

/-! ## The decoded record -/

/-- `struct ofi_match_field`, all zero from `calloc`; the mask with its length and its flag. -/
structure OfiMatchField where
  matchClass : UInt16 := 0
  fieldType : UInt8 := 0
  fieldLen : UInt8 := 0
  ui8Data : UInt8 := 0
  ui16Data : UInt16 := 0
  ui32Data : UInt32 := 0
  ui64Data : UInt64 := 0
  ui8DataArray : List UInt8 := List.replicate 6 0
  mask : Option (List UInt8) := none

/-- `struct ofi_instruction`, all zero from `calloc`. -/
structure OfiInstruction where
  type : UInt16 := 0
  len : UInt16 := 0
  tableId : UInt8 := 0
  metadata : UInt64 := 0
  metadataMask : UInt64 := 0
  vendorid : UInt32 := 0
  subtype : UInt16 := 0
  value1 : UInt16 := 0
  groupId : UInt32 := 0
  actionList : List OfiAction := []

/-- The lists of a `struct ofi_flow_entry_info`, and of a `struct ofi_bind_entry_info`, which
has instructions only. -/
structure OfiFlowEntryInfo where
  matchFieldList : List OfiMatchField := []
  instructionList : List OfiInstruction := []

/-! ## Match fields -/

/-- `OFPXMC_EXPERIMENTER`, `OFPXMC_NXM_1` and `OFPXMC_OPENFLOW_BASIC`. -/
def ofpxmcExperimenter : UInt16 := 0xffff
def ofpxmcNxm1 : UInt16 := 1
def ofpxmcBasic : UInt16 := 0x8000

/-- `OFU_FLOW_MATCH_FIELD_LEN`, the length of the array of a mask. -/
def ofuFlowMatchFieldLen : Nat := 46

/-- The `switch` on the type of a field of the basic class. -/
def frameBasicField (host : ByteOrder) (msg : List UInt8) (entry : OfiMatchField) :
    Except Stop OfiMatchField :=
  match OxmField.ofCode entry.fieldType.toNat with
  | some .inPort | some .inPhyPort | some .ipv4Src | some .ipv4Dst | some .mplsLabel
  | some .arpSpa | some .arpTpa | some .ipv6Flabel => do
      let value ← ntohlAt host msg ofOxmHdrLen
      pure { entry with ui32Data := value }
  | some .metadata | some .tunnelId => do
      let value ← ntohllAt host msg ofOxmHdrLen
      pure { entry with ui64Data := value }
  | some .ethDst | some .ethSrc | some .arpSha | some .arpTha => do
      let bytes ← peek msg ofOxmHdrLen 6
      pure { entry with ui8DataArray := bytes }
  | some .ethType | some .vlanVid | some .tcpSrc | some .tcpDst | some .udpSrc
  | some .udpDst | some .sctpSrc | some .sctpDst | some .arpOp => do
      let value ← ntohsAt host msg ofOxmHdrLen
      pure { entry with ui16Data := value }
  | some .ipProto | some .icmpv4Type | some .icmpv4Code | some .mplsTc | some .mplsBos
  | some .pbbIsid | some .vlanPcp | some .ipDscp | some .ipEcn | some .icmpv6Type
  | some .icmpv6Code => do
      let value ← byteAt msg ofOxmHdrLen
      pure { entry with ui8Data := value }
  -- The decoder logs these fields and takes nothing of the value.
  | some .ipv6Src | some .ipv6Dst | some .ipv6NdTarget | some .ipv6NdSll | some .ipv6NdTll
  | some .ipv6Exthdr | none => pure entry

/-- The value of a field, by its class; those of the other classes are taken as they lie
there. -/
def frameFieldValue (host : ByteOrder) (msg : List UInt8) (entry : OfiMatchField) :
    Except Stop OfiMatchField :=
  if entry.matchClass = ofpxmcBasic then frameBasicField host msg entry
  else if entry.matchClass = ofpxmcExperimenter then do
    let experimenter ← loadAt host msg 4 4
    pure { entry with ui32Data := UInt32.ofNat experimenter }
  else if entry.matchClass = ofpxmcNxm1 then do
    let value ← loadAt host msg 4 8
    pure { entry with ui64Data := UInt64.ofNat value }
  else pure entry

/-- The copy of the mask, the second half of what follows the header. -/
def frameFieldMask (msg : List UInt8) (isMaskSet : Bool) (entry : OfiMatchField) :
    Except Stop OfiMatchField :=
  if isMaskSet then
    let maskLen := entry.fieldLen.toNat / 2
    if ofuFlowMatchFieldLen < maskLen then .error .outside
    else do
      let mask ← peek msg (ofOxmHdrLen + maskLen) maskLen
      pure { entry with mask := some mask }
  else pure entry

/-- What is done with a field whose class was read, and how far the decoder goes on. -/
def frameMatchField (host : ByteOrder) (msg : List UInt8) (matchClass : UInt16) :
    Except Stop (OfiMatchField × Nat) := do
  let fieldType ← byteAt msg 2
  let fieldLen ← byteAt msg 3
  let entry ← frameFieldValue host msg
    { matchClass := matchClass, fieldType := fieldType >>> 1, fieldLen := fieldLen }
  let entry ← frameFieldMask msg (fieldType.toNat % 2 = 1) entry
  pure (entry, fieldLen.toNat + 4)

/-- `of_frame_match_field_response`.  It uses the entry without a test of what `calloc`
gave. -/
def ofFrameMatchFieldResponse (host : ByteOrder) (heap : Heap) (cursor : Cursor) :
    Except Stop (OfiMatchField × Nat) := do
  let matchClass ← ntohsAt host cursor.msg 0
  if heap.entry cursor.entries then frameMatchField host cursor.msg matchClass
  else .error .nullEntry

/-! ## Instructions -/

def ofpitExperimenter : UInt16 := 0xffff

/-- The `switch` on the subtype of an instruction of an experimenter, which is compared as it
lies there. -/
def frameFslxInstruction (host : ByteOrder) (msg : List UInt8) (entry : OfiInstruction) :
    Except Stop OfiInstruction :=
  match entry.subtype.toNat with
  | 3 | 5 => do  -- FSLXIT_WAIT_TO_COMPLETE_PKT_OUTS, FSLXIT_WRITE_PRIORITY_REGISTER
      let value ← loadAt host msg 10 2
      pure { entry with value1 := UInt16.ofNat value }
  | 7 => do  -- FSLXIT_RE_LOOKUP
      let prioRegType ← byteAt msg 10
      pure { entry with value1 := prioRegType.toUInt16 }
  | 8 => do  -- FSLXIT_RE_INJECT_TO
      let prioRegType ← byteAt msg 11
      let tableId ← byteAt msg 10
      pure { entry with value1 := prioRegType.toUInt16, tableId := tableId }
  | 9 | 10 => do  -- FSLXIT_APPLY_GROUP, FSLXIT_WRITE_GROUP
      let groupId ← loadAt host msg 12 4
      pure { entry with groupId := UInt32.ofNat groupId }
  | _ => pure entry

/-- The `switch` on the type of an instruction, with how far the decoder goes on: an unknown
type adds nothing to the length. -/
def frameInstruction (host : ByteOrder) (msg : List UInt8) (type : UInt16) :
    Except Stop (OfiInstruction × Nat) := do
  let len ← ntohsAt host msg 2
  let entry : OfiInstruction := { type := type, len := len }
  if type = Ofpit.gotoTable then do
    let tableId ← byteAt msg 4
    pure ({ entry with tableId := tableId }, 8)
  else if type = Ofpit.writeMetadata then do
    let metadata ← ntohllAt host msg 8
    let metadataMask ← ntohllAt host msg 16
    pure ({ entry with metadata := metadata, metadataMask := metadataMask }, 24)
  else if type = Ofpit.writeActions ∨ type = Ofpit.clearActions then
    pure (entry, len.toNat)
  else if type = Ofpit.applyActions ∨ type = Ofpit.meter then
    pure (entry, 8)
  else if type = ofpitExperimenter then do
    let subtype ← loadAt host msg 8 2
    let vendor ← loadAt host msg 4 4
    let entry ← frameFslxInstruction host msg
      { entry with vendorid := UInt32.ofNat vendor, subtype := UInt16.ofNat subtype }
    pure (entry, len.toNat)
  else pure (entry, 0)

def ofFrameInstructionResponse (host : ByteOrder) (heap : Heap) (cursor : Cursor) :
    Except Stop (OfiInstruction × Nat) := do
  let type ← ntohsAt host cursor.msg 0
  if heap.entry cursor.entries then frameInstruction host cursor.msg type
  else .error .nullEntry

/-! ## The loops -/

/-- A `uint32_t` less what is taken of it. -/
def wordLess (total taken : Nat) : Nat := (total + 2 ^ 32 - taken % 2 ^ 32) % 2 ^ 32

/-- A loop over entries while a `uint32_t` is not zero: decode an entry, append it, and take
its length off the number. -/
def wordLoop {α : Type} (decode : Cursor → Except Stop (α × Nat)) :
    Nat → Nat → Cursor → List α → Except Stop (List α × Cursor)
  | 0, _, _, _ => .error .running
  | fuel + 1, total, cursor, list =>
    if total = 0 then .ok (list, cursor)
    else do
      let (entry, length) ← decode cursor
      wordLoop decode fuel (wordLess total length) (cursor.pass length) (list ++ [entry])

/-- `sizeof(struct ofp_instruction_actions)`. -/
def sizeofOfpInstructionActions : Nat := 8

/-- The loop over the instructions.  The actions of an `OFPIT_APPLY_ACTIONS` are decoded by
an inner loop, which takes their lengths off `remainingLength` too. -/
def instructionLoop (host : ByteOrder) (heap : Heap) :
    Nat → Nat → Cursor → List OfiInstruction → Except Stop (List OfiInstruction)
  | 0, _, _, _ => .error .running
  | fuel + 1, remainingLength, cursor, list =>
    if remainingLength = 0 then .ok list
    else do
      let (entry, length) ← ofFrameInstructionResponse host heap cursor
      let behind := cursor.pass length
      if entry.type = Ofpit.applyActions then do
        let actionsLen := wordLess entry.len.toNat sizeofOfpInstructionActions
        let (actions, further) ←
          wordLoop (ofGroupFrameActionResponse host heap) fuel actionsLen behind []
        instructionLoop host heap fuel
          (wordLess (wordLess remainingLength length) (further.read - behind.read)) further
          (list ++ [{ entry with actionList := actions }])
      else
        instructionLoop host heap fuel (wordLess remainingLength length) behind (list ++ [entry])

/-- `MATCHFILED_PADDING`. -/
def matchFieldPadding (length : Nat) : Nat :=
  if length % 8 = 0 then length else if 8 < length then 8 - length % 8 + length else 8

/-- The pointer behind padding. -/
def Cursor.skip (cursor : Cursor) (length : Nat) : Cursor where
  msg := cursor.msg.drop length
  read := cursor.read + length
  entries := cursor.entries

/-- `of_flow_stats_frame_respone` on a record of `msgLength` bytes that other bytes may follow,
after `fuel` rounds of a loop at most. -/
def flowStatsFrameResponeWithin (host : ByteOrder) (heap : Heap) (fuel : Nat) (msg : List UInt8)
    (msgLength : Nat) : Except Stop OfiFlowEntryInfo := do
  let matchfieldLen ← ntohsAt host msg 2
  let matchfieldTotalLen := matchFieldPadding matchfieldLen.toNat
  let (fields, behind) ←
    wordLoop (ofFrameMatchFieldResponse host heap) fuel (wordLess matchfieldLen.toNat 4)
      ⟨msg.drop 4, 4, 0⟩ []
  let instructions ←
    instructionLoop host heap fuel (wordLess msgLength matchfieldTotalLen)
      (behind.skip (wordLess matchfieldTotalLen matchfieldLen.toNat)) []
  pure { matchFieldList := fields, instructionList := instructions }

/-- `of_flow_stats_frame_respone` on the record of a body. -/
def ofFlowStatsFrameRespone (host : ByteOrder) (heap : Heap) (fuel : Nat) (body : RecordBody) :
    Except Stop OfiFlowEntryInfo :=
  flowStatsFrameResponeWithin host heap fuel body.bytes body.bytes.length

/-- `of_bind_stats_frame_respone`, after `fuel` rounds of a loop at most. -/
def ofBindStatsFrameRespone (host : ByteOrder) (heap : Heap) (fuel : Nat) (body : RecordBody) :
    Except Stop OfiFlowEntryInfo := do
  let instructions ← instructionLoop host heap fuel body.bytes.length ⟨body.bytes, 0, 0⟩ []
  pure { instructionList := instructions }

end OpenFlowController.Messages
