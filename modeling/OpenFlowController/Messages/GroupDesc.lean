/-
Module: Messages.GroupDesc
Purpose: How the body of a group description is decoded: a list of buckets, each with
  its actions and its properties, by lengths that the peer wrote.
Source: ofproto/src/messages/groupapi.c (of_group_frame_response,
  of_group_frame_bucket_response, of_group_frame_bucket_prop_response),
  ofproto/src/messages/of_action.c (of_group_frame_action_response,
  of_group_frame_action_setField_response), include/of_multipart.h,
  l3extutils/include/fsl_ext.h, l3extutils/include/nicira_ext.h
Trusted boundary: a function stops at the first byte that it reads behind the given length, and
  where it goes on with an entry that `calloc` did not give
-/
import OpenFlowController.Include.ActionFormat
import OpenFlowController.Include.Openflow

namespace OpenFlowController.Messages

open Include Library

/-! ## The decoded list -/

/-- `struct ofi_action`, all zero from `calloc`. -/
structure OfiAction where
  type : UInt16 := 0
  subType : UInt16 := 0
  portNo : UInt32 := 0
  maxLen : UInt16 := 0
  ttl : UInt8 := 0
  etherType : UInt16 := 0
  queueId : UInt32 := 0
  groupId : UInt32 := 0
  vendorid : UInt32 := 0
  setfieldType : UInt8 := 0
  ui8Data : UInt8 := 0
  ui16Data : UInt16 := 0
  ui32Data : UInt32 := 0
  ui64Data : UInt64 := 0
  ui8DataArray : List UInt8 := List.replicate 6 0
  ipv6Addr : List UInt8 := List.replicate 16 0
  srcOffset : UInt16 := 0
  dstOffset : UInt16 := 0
  oxmSrcDst : UInt32 × UInt32 := (0, 0)
deriving DecidableEq

/-- `struct ofi_bucket_prop`, all zero from `calloc`. -/
structure OfiBucketProp where
  weight : UInt16 := 0
  watchPort : UInt32 := 0
  watchGroup : UInt32 := 0
deriving DecidableEq

structure OfiBucket where
  bucketId : UInt32
  actionList : List OfiAction
  bucketPropList : List OfiBucketProp
deriving DecidableEq

/-! ## How a function ends -/

/-- How a function ends when it does not return `OF_SUCCESS`. -/
inductive Stop where
  /-- It returns `OF_FAILURE`, and this many blocks are neither free nor reachable. -/
  | failure (leaked : Nat)
  /-- It reads a byte behind the given length. -/
  | outside
  /-- It goes on with an entry that `calloc` did not give. -/
  | nullEntry
  /-- It is still in a loop. -/
  | running
deriving DecidableEq

/-- Which calls of `calloc` succeed, those for buckets and those for actions and
properties, each in their order. -/
structure Heap where
  bucket : Nat → Bool
  entry : Nat → Bool

/-- What is left of the given bytes, how many were read, and how many entries were asked
for. -/
structure Cursor where
  msg : List UInt8
  read : Nat
  entries : Nat

/-! ## Reading fields -/

/-- The bytes of a field at an offset of `msg`. -/
def peek (msg : List UInt8) (offset width : Nat) : Except Stop (List UInt8) :=
  if offset + width ≤ msg.length then .ok ((msg.drop offset).take width)
  else .error .outside

section Fields

variable (host : ByteOrder) (msg : List UInt8) (offset : Nat)

def byteAt : Except Stop UInt8 := do
  let bytes ← peek msg offset 1
  pure (UInt8.ofNat (netNat bytes))

/-- A field of `width` bytes as it lies there. -/
def loadAt (width : Nat) : Except Stop Nat := do
  let bytes ← peek msg offset width
  pure (load host bytes)

def ntohsAt : Except Stop UInt16 := do
  let field ← loadAt host msg offset 2
  pure (UInt16.ofNat (ntoh host 2 field))

def ntohlAt : Except Stop UInt32 := do
  let field ← loadAt host msg offset 4
  pure (UInt32.ofNat (ntoh host 4 field))

def ntohllAt : Except Stop UInt64 := do
  let field ← loadAt host msg offset 8
  pure (UInt64.ofNat (ntoh host 8 field))

/-- `ntohs` on a field of four bytes, of which the call keeps the low half. -/
def ntohsOfUint32At : Except Stop UInt16 := do
  let field ← loadAt host msg offset 4
  pure (UInt16.ofNat (ntoh host 2 (field % 2 ^ 16)))

end Fields

/-! ## Actions -/

def ofOxmHdrLen : Nat := 4

/-- `of_group_frame_action_setField_response`.  `msg` starts at the field's header. -/
def ofGroupFrameActionSetFieldResponse (host : ByteOrder) (msg : List UInt8)
    (entry : OfiAction) : Except Stop OfiAction := do
  let fieldType ← byteAt msg 2
  let entry := { entry with setfieldType := fieldType >>> 1 }
  match OxmField.ofCode (fieldType >>> 1).toNat with
  | some .inPort | some .inPhyPort | some .ipv4Src | some .ipv4Dst | some .mplsLabel
  | some .arpSpa | some .arpTpa | some .ipv6Flabel => do
      let value ← ntohlAt host msg ofOxmHdrLen
      pure { entry with ui32Data := value }
  | some .metadata | some .tunnelId => do
      let value ← ntohllAt host msg ofOxmHdrLen
      pure { entry with ui64Data := value }
  | some .ethDst | some .ethSrc | some .arpSha | some .arpTha => do
      let bytes ← peek msg ofOxmHdrLen 6
      pure { entry with ui8DataArray := bytes }
  | some .ethType | some .vlanVid | some .tcpSrc | some .tcpDst | some .udpSrc
  | some .udpDst | some .sctpSrc | some .sctpDst | some .arpOp => do
      let value ← ntohsAt host msg ofOxmHdrLen
      pure { entry with ui16Data := value }
  | some .ipProto | some .icmpv4Type | some .icmpv4Code | some .mplsTc | some .mplsBos
  | some .pbbIsid | some .vlanPcp | some .ipDscp | some .ipEcn | some .icmpv6Type
  | some .icmpv6Code => do
      let value ← byteAt msg ofOxmHdrLen
      pure { entry with ui8Data := value }
  -- The decoder logs these fields and takes nothing of the value.
  | some .ipv6Src | some .ipv6Dst | some .ipv6NdTarget | some .ipv6NdSll | some .ipv6NdTll
  | some .ipv6Exthdr | none => pure entry

/-- The `switch` on `fslx_action->subtype`, which is compared as it lies there. -/
def frameExperimenterData (host : ByteOrder) (msg : List UInt8) (subtype : Nat)
    (entry : OfiAction) : Except Stop OfiAction :=
  match subtype with
  | 15 => do  -- FSLXAT_ARP_RESPONSE
      let mac ← peek msg 10 6
      pure { entry with ui64Data := UInt64.ofNat (load host (mac ++ [0, 0])) }
  | 21 => do  -- FSLXAT_IP_FRAGMENT
      let mtu ← loadAt host msg 16 4
      pure { entry with ui32Data := UInt32.ofNat mtu }
  | 23 => do  -- FSLXAT_SEND_ICMPV4_DEST_UNREACHABLE
      let code ← byteAt msg 10
      let entry := { entry with ui8Data := code }
      if code = 4 then do  -- FSLX_ICMPV4_DR_EC_DFBIT_SET
        let nextHopMtu ← loadAt host msg 12 2
        pure { entry with ui16Data := UInt16.ofNat nextHopMtu }
      else
        pure entry
  | 22 | 19 => do  -- FSLXAT_SEND_ICMPV4_TIME_EXCEED, FSLXAT_START_TABLE
      let code ← byteAt msg 10
      pure { entry with ui8Data := code }
  | 11 | 2 | 9 => do
      -- FSLXAT_SET_PHY_PORT_FIELD_CNTXT, FSLXAT_DETACH_BIND_OBJ,
      -- FSLXAT_BIND_OBJECT_APPLY_ACTIONS
      let value ← loadAt host msg 12 4
      pure { entry with ui32Data := UInt32.ofNat value }
  | 12 | 13 | 30 => do
      -- FSLXAT_SET_META_DATA_FIELD_CNTXT, FSLXAT_SET_TUNNEL_ID_FIELD_CNTXT,
      -- FSLXAT_WRITE_META_DATA
      let value ← loadAt host msg 16 8
      pure { entry with ui64Data := UInt64.ofNat value }
  | 16 => do  -- FSLXAT_WRITE_METADATA_FROM_PKT
      let fieldId ← loadAt host msg 12 4
      let maskval ← loadAt host msg 16 8
      pure { entry with ui32Data := UInt32.ofNat fieldId, ui64Data := UInt64.ofNat maskval }
  | 8 => do  -- FSLXAT_SEND_APP_STATE_INFO
      let eventType ← byteAt msg 10
      let eventMethod ← byteAt msg 11
      let eventCount ← loadAt host msg 16 8
      pure { entry with
        ui8Data := eventType
        ui16Data := eventMethod.toUInt16
        ui64Data := UInt64.ofNat eventCount }
  | 900 => do  -- NXAST_REG_LOAD
      let ofsNbits ← loadAt host msg 10 2
      let dst ← loadAt host msg 12 4
      let value ← loadAt host msg 16 8
      pure { entry with
        ui8Data := UInt8.ofNat (ofsNbits % 64 + 1)
        ui16Data := UInt16.ofNat (ofsNbits / 64)
        ui32Data := UInt32.ofNat (dst / 2 ^ 9 % 2 ^ 7)
        ui64Data := UInt64.ofNat value }
  | 901 => do  -- NXAST_COPY_FIELD
      let numBits ← loadAt host msg 10 2
      let srcOffset ← loadAt host msg 12 2
      let dstOffset ← loadAt host msg 14 2
      let src ← loadAt host msg 16 4
      let dst ← loadAt host msg 20 4
      pure { entry with
        ui16Data := UInt16.ofNat numBits
        srcOffset := UInt16.ofNat srcOffset
        dstOffset := UInt16.ofNat dstOffset
        oxmSrcDst := (UInt32.ofNat src, UInt32.ofNat dst) }
  | _ => pure entry

/-- The `switch` on the type of an action: what the entry keeps, and how many bytes the
decoder goes on. -/
def frameAction (host : ByteOrder) (msg : List UInt8) (type : UInt16) (entry : OfiAction) :
    Except Stop (OfiAction × Nat) :=
  if type = Ofpat.output then do
    let port ← ntohlAt host msg 4
    let maxLen ← ntohsAt host msg 8
    pure ({ entry with portNo := port, maxLen := maxLen }, 16)
  else if type = Ofpat.copyTtlOut ∨ type = Ofpat.copyTtlIn ∨ type = Ofpat.decMplsTtl ∨
      type = Ofpat.popVlan ∨ type = Ofpat.setQueue ∨ type = Ofpat.decNwTtl ∨
      type = Ofpat.popPbb then
    pure (entry, 8)
  else if type = Ofpat.setMplsTtl ∨ type = Ofpat.setNwTtl then do
    let ttl ← byteAt msg 4
    pure ({ entry with ttl := ttl }, 8)
  else if type = Ofpat.pushVlan ∨ type = Ofpat.pushMpls ∨ type = Ofpat.popMpls ∨
      type = Ofpat.pushPbb then do
    let etherType ← ntohsAt host msg 4
    pure ({ entry with etherType := etherType }, 8)
  else if type = Ofpat.group then do
    let groupId ← ntohlAt host msg 4
    pure ({ entry with groupId := groupId }, 8)
  else if type = Ofpat.setField then do
    let entry ← ofGroupFrameActionSetFieldResponse host (msg.drop 4) entry
    let len ← ntohsAt host msg 2
    pure (entry, len.toNat)
  else if type = Ofpat.experimenter then do
    let vendor ← ntohsOfUint32At host msg 4
    let subtype ← ntohsAt host msg 8
    let rawSubtype ← loadAt host msg 8 2
    let entry ← frameExperimenterData host msg rawSubtype
      { entry with vendorid := vendor.toUInt32, subType := subtype }
    let len ← ntohsAt host msg 2
    pure (entry, len.toNat)
  else do
    let len ← ntohsAt host msg 2
    pure (entry, len.toNat)

/-- `of_group_frame_action_response`.  It uses the entry without a test of what `calloc`
gave, and never returns `OF_FAILURE`. -/
def ofGroupFrameActionResponse (host : ByteOrder) (heap : Heap) (cursor : Cursor) :
    Except Stop (OfiAction × Nat) := do
  let type ← ntohsAt host cursor.msg 0
  if heap.entry cursor.entries then
    frameAction host cursor.msg type { type := type }
  else
    .error .nullEntry

/-! ## Properties -/

/-- The `switch` on the type of a property.  A weight is read through
`struct ofp_group_bucket_prop_watch`, whose `watch` has four bytes. -/
def frameBucketProp (host : ByteOrder) (msg : List UInt8) (propType : UInt16) :
    Except Stop (OfiBucketProp × Nat) :=
  if propType = Ofpgbpt.watchPort ∨ propType = Ofpgbpt.watchGroup then do
    let watch ← ntohlAt host msg 4
    pure ({ watchGroup := watch }, 8)
  else if propType = Ofpgbpt.weight then do
    let weight ← ntohsOfUint32At host msg 4
    pure ({ weight := weight }, 8)
  else do
    let length ← ntohsAt host msg 2
    pure ({}, length.toNat)

/-- `of_group_frame_bucket_prop_response`.  It does not test what `calloc` gave either. -/
def ofGroupFrameBucketPropResponse (host : ByteOrder) (heap : Heap) (cursor : Cursor) :
    Except Stop (OfiBucketProp × Nat) := do
  let propType ← ntohsAt host cursor.msg 0
  if heap.entry cursor.entries then
    frameBucketProp host cursor.msg propType
  else
    .error .nullEntry

/-! ## Buckets -/

/-- The pointer and the length that was read, behind an entry. -/
def Cursor.pass (cursor : Cursor) (length : Nat) : Cursor where
  msg := cursor.msg.drop length
  read := cursor.read + length
  entries := cursor.entries + 1

/-- The two inner loops: while `total` is positive, decode an entry, append it, and go on
by its length.  `total` stays in the range of an `int32_t`.  Where the decoder fails, the
bucket is freed without the list that it has. -/
def entryLoop {α : Type} (decode : Cursor → Except Stop (α × Nat)) :
    Nat → Int → Cursor → List α → Except Stop (List α × Cursor)
  | 0, _, _, _ => .error .running
  | fuel + 1, total, cursor, list =>
    if 0 < total then
      match decode cursor with
      | .ok (entry, length) =>
        entryLoop decode fuel (total - length) (cursor.pass length) (list ++ [entry])
      | .error (.failure _) => .error (.failure list.length)
      | .error stop => .error stop
    else
      .ok (list, cursor)

/-- `sizeof(struct ofp_bucket)`. -/
def sizeofOfpBucket : Nat := 8

/-- `of_group_frame_bucket_response`, for the bucket of the given number. -/
def ofGroupFrameBucketResponse (host : ByteOrder) (heap : Heap) (fuel number : Nat)
    (cursor : Cursor) : Except Stop (OfiBucket × Cursor) := do
  if heap.bucket number then
    let bucketId ← ntohlAt host cursor.msg 4
    let actionListLen ← ntohsAt host cursor.msg 2
    let body : Cursor :=
      { cursor with
        msg := cursor.msg.drop sizeofOfpBucket
        read := sizeofOfpBucket }
    let (actions, behindActions) ←
      entryLoop (ofGroupFrameActionResponse host heap) fuel actionListLen.toNat body []
    let len ← ntohsAt host cursor.msg 0
    let totalBucketPropLen : Int := len.toNat - (sizeofOfpBucket + actionListLen.toNat)
    let (props, behindProps) ←
      entryLoop (ofGroupFrameBucketPropResponse host heap) fuel totalBucketPropLen behindActions []
    pure (⟨bucketId, actions, props⟩, behindProps)
  else
    .error (.failure 0)

/-- The loop of `of_group_frame_response`: the list that it leaves, and how it ends.
`msgLength` wraps around when a bucket is longer than what is left. -/
def bucketLoop (host : ByteOrder) (heap : Heap) :
    Nat → UInt32 → Cursor → List OfiBucket → List OfiBucket × Except Stop Unit
  | 0, _, _, list => (list, .error .running)
  | fuel + 1, msgLength, cursor, list =>
    if 0 < msgLength then
      match ofGroupFrameBucketResponse host heap fuel list.length cursor with
      | .ok (bucket, behind) =>
        bucketLoop host heap fuel (msgLength - UInt32.ofNat behind.read) behind (list ++ [bucket])
      | .error stop => (list, .error stop)
    else
      (list, .ok ())

/-- The body of a record: as many bytes as a `uint32_t` can count. -/
structure RecordBody where
  bytes : List UInt8
  fits : bytes.length < 2 ^ 32

/-- `of_group_frame_response`, after `fuel` rounds of a loop at most. -/
def ofGroupFrameResponse (host : ByteOrder) (heap : Heap) (fuel : Nat) (body : RecordBody) :
    List OfiBucket × Except Stop Unit :=
  bucketLoop host heap fuel (UInt32.ofNat body.bytes.length) ⟨body.bytes, 0, 0⟩ []

end OpenFlowController.Messages
