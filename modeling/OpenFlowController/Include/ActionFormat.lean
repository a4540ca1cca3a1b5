/-
Module: Include.ActionFormat
Purpose: The actions of the protocol and the fields that they set, buckets of a group with
  their actions and properties, a match of fields with or without masks, and instructions, as
  they lie on the wire.
Source: ofproto/src/include/openflow.h (enum oxm_ofb_match_fields, enum ofp_action_type, struct
  ofp_action_*, struct ofp_bucket, enum ofp_group_bucket_prop_type, struct
  ofp_group_bucket_prop_*, struct ofp_match, OXM_HEADER_W, enum ofp_instruction_type, struct
  ofp_instruction_*)
Trusted boundary: none
-/
import OpenFlowController.Library.BigEndian

namespace OpenFlowController.Include

open Library

/-! ## `enum oxm_ofb_match_fields` -/

/-- `OFPXMT_OFB_*`. -/
inductive OxmField where
  | inPort | inPhyPort | metadata | ethDst | ethSrc | ethType | vlanVid | vlanPcp | ipDscp
  | ipEcn | ipProto | ipv4Src | ipv4Dst | tcpSrc | tcpDst | udpSrc | udpDst | sctpSrc
  | sctpDst | icmpv4Type | icmpv4Code | arpOp | arpSpa | arpTpa | arpSha | arpTha | ipv6Src
  | ipv6Dst | ipv6Flabel | icmpv6Type | icmpv6Code | ipv6NdTarget | ipv6NdSll | ipv6NdTll
  | mplsLabel | mplsTc | mplsBos | pbbIsid | tunnelId | ipv6Exthdr
deriving DecidableEq

namespace OxmField

/-- All fields, in the order of their codes. -/
def all : List OxmField :=
  [inPort, inPhyPort, metadata, ethDst, ethSrc, ethType, vlanVid, vlanPcp, ipDscp,
    ipEcn, ipProto, ipv4Src, ipv4Dst, tcpSrc, tcpDst, udpSrc, udpDst, sctpSrc,
    sctpDst, icmpv4Type, icmpv4Code, arpOp, arpSpa, arpTpa, arpSha, arpTha, ipv6Src,
    ipv6Dst, ipv6Flabel, icmpv6Type, icmpv6Code, ipv6NdTarget, ipv6NdSll, ipv6NdTll,
    mplsLabel, mplsTc, mplsBos, pbbIsid, tunnelId, ipv6Exthdr]

/-- The number of a field. -/
def code (field : OxmField) : Nat := all.idxOf field

/-- The field with a number. -/
def ofCode (code : Nat) : Option OxmField := all[code]?

/-- The length of a value of the field, in the `OXM_OF_*` header. -/
def width : OxmField → Nat
  | inPort | inPhyPort | ipv4Src | ipv4Dst | arpSpa | arpTpa | ipv6Flabel | mplsLabel => 4
  | metadata | tunnelId => 8
  | ethDst | ethSrc | arpSha | arpTha | ipv6NdSll | ipv6NdTll => 6
  | ethType | vlanVid | tcpSrc | tcpDst | udpSrc | udpDst | sctpSrc | sctpDst | arpOp
  | ipv6Exthdr => 2
  | vlanPcp | ipDscp | ipEcn | ipProto | icmpv4Type | icmpv4Code | icmpv6Type | icmpv6Code
  | mplsTc | mplsBos => 1
  | ipv6Src | ipv6Dst | ipv6NdTarget => 16
  | pbbIsid => 3

variable (field : OxmField)

theorem code_lt : field.code < 40 := by
  cases field <;> decide

@[simp] theorem ofCode_code : ofCode field.code = some field := by
  cases field <;> rfl

theorem width_le : field.width ≤ 16 := by
  cases field <;> decide

theorem width_pos : 0 < field.width := by
  cases field <;> decide

end OxmField

/-- A value for a field. -/
structure OxmValue where
  field : OxmField
  bytes : List UInt8
  width : bytes.length = field.width

/-- `OXM_HEADER (0x8000, field, length)` of the class `OFPXMC_OPENFLOW_BASIC`. -/
def oxmHeader (field : OxmField) (hasMask : Bool) (length : Nat) : List UInt8 :=
  [0x80, 0, UInt8.ofNat (2 * field.code + hasMask.toNat), UInt8.ofNat length]

/-- A field with a value, without a mask. -/
def OxmValue.tlv (value : OxmValue) : List UInt8 :=
  oxmHeader value.field false value.field.width ++ value.bytes

/-! ## `enum ofp_action_type` -/

namespace Ofpat

def output : UInt16 := 0
def copyTtlOut : UInt16 := 11
def copyTtlIn : UInt16 := 12
def setMplsTtl : UInt16 := 15
def decMplsTtl : UInt16 := 16
def pushVlan : UInt16 := 17
def popVlan : UInt16 := 18
def pushMpls : UInt16 := 19
def popMpls : UInt16 := 20
def setQueue : UInt16 := 21
def group : UInt16 := 22
def setNwTtl : UInt16 := 23
def decNwTtl : UInt16 := 24
def setField : UInt16 := 25
def pushPbb : UInt16 := 26
def popPbb : UInt16 := 27
def experimenter : UInt16 := 0xffff

end Ofpat

/-! ## Actions -/

/-- What an experimenter's action holds behind the number of the experimenter. -/
structure ExperimenterBody where
  bytes : List UInt8
  aligned : 8 ∣ bytes.length
  fits : 8 + bytes.length < 2 ^ 16

/-- An action. -/
inductive WireAction where
  | output (port : UInt32) (maxLen : UInt16)
  | copyTtlOut
  | copyTtlIn
  | setMplsTtl (ttl : UInt8)
  | decMplsTtl
  | pushVlan (etherType : UInt16)
  | popVlan
  | pushMpls (etherType : UInt16)
  | popMpls (etherType : UInt16)
  | setQueue (queueId : UInt32)
  | group (groupId : UInt32)
  | setNwTtl (ttl : UInt8)
  | decNwTtl
  | setField (value : OxmValue)
  | pushPbb (etherType : UInt16)
  | popPbb
  | experimenter (vendor : UInt32) (body : ExperimenterBody)

namespace WireAction

/-- The `type` of an action. -/
def type : WireAction → UInt16
  | output .. => Ofpat.output
  | copyTtlOut => Ofpat.copyTtlOut
  | copyTtlIn => Ofpat.copyTtlIn
  | setMplsTtl _ => Ofpat.setMplsTtl
  | decMplsTtl => Ofpat.decMplsTtl
  | pushVlan _ => Ofpat.pushVlan
  | popVlan => Ofpat.popVlan
  | pushMpls _ => Ofpat.pushMpls
  | popMpls _ => Ofpat.popMpls
  | setQueue _ => Ofpat.setQueue
  | group _ => Ofpat.group
  | setNwTtl _ => Ofpat.setNwTtl
  | decNwTtl => Ofpat.decNwTtl
  | setField _ => Ofpat.setField
  | pushPbb _ => Ofpat.pushPbb
  | popPbb => Ofpat.popPbb
  | experimenter .. => Ofpat.experimenter

/-- The `len` of an action. -/
def size : WireAction → Nat
  | output .. => 16
  | setField value => (4 + value.tlv.length + 7) / 8 * 8
  | experimenter _ body => 8 + body.bytes.length
  | _ => 8

/-- The bytes behind `type` and `len`, as far as they mean something.  The zeros that
fill up a `set_field` belong to its format. -/
def operands : WireAction → List UInt8
  | output port maxLen => bytes32 port ++ bytes16 maxLen
  | setMplsTtl ttl | setNwTtl ttl => [ttl]
  | pushVlan etherType | pushMpls etherType | popMpls etherType | pushPbb etherType =>
    bytes16 etherType
  | setQueue number | group number => bytes32 number
  | setField value =>
    value.tlv ++ List.replicate ((4 + value.tlv.length + 7) / 8 * 8 - (4 + value.tlv.length)) 0
  | experimenter vendor body => bytes32 vendor ++ body.bytes
  | copyTtlOut | copyTtlIn | decMplsTtl | popVlan | decNwTtl | popPbb => []

/-- These bytes are the action: its header, its operands, and padding of any content up
to its length. -/
def Spells (action : WireAction) (bytes : List UInt8) : Prop :=
  bytes.length = action.size ∧ ∃ pad, bytes =
    bytes16 action.type ++ bytes16 (UInt16.ofNat action.size) ++ action.operands ++ pad

end WireAction

/-- These bytes are the elements of a list, one behind the other. -/
def SpellsAll {α : Type} (spells : α → List UInt8 → Prop) (list : List α)
    (bytes : List UInt8) : Prop :=
  ∃ pieces, List.Forall₂ spells list pieces ∧ bytes = pieces.flatten

/-! ## `enum ofp_group_bucket_prop_type` -/

namespace Ofpgbpt

def weight : UInt16 := 0
def watchPort : UInt16 := 1
def watchGroup : UInt16 := 2

end Ofpgbpt

/-- A property of a bucket.  Behind a weight lie two bytes that mean nothing. -/
inductive WireProp where
  | weight (value pad : UInt16)
  | watchPort (port : UInt32)
  | watchGroup (groupId : UInt32)

namespace WireProp

/-- The `type` of a property. -/
def type : WireProp → UInt16
  | weight .. => Ofpgbpt.weight
  | watchPort _ => Ofpgbpt.watchPort
  | watchGroup _ => Ofpgbpt.watchGroup

/-- The `length` of every property. -/
def size : Nat := 8

/-- The four bytes behind `type` and `length`. -/
def operands : WireProp → List UInt8
  | weight value pad => bytes16 value ++ bytes16 pad
  | watchPort number | watchGroup number => bytes32 number

/-- These bytes are the property. -/
def Spells (prop : WireProp) (bytes : List UInt8) : Prop :=
  bytes = bytes16 prop.type ++ bytes16 (UInt16.ofNat size) ++ prop.operands

end WireProp

/-- A bucket. -/
structure WireBucket where
  bucketId : UInt32
  actions : List WireAction
  props : List WireProp

namespace WireBucket

/-- The `action_list_len` of a bucket. -/
def actionsSize (bucket : WireBucket) : Nat := (bucket.actions.map WireAction.size).sum

/-- The `len` of a bucket.  Nothing is left to fill up. -/
def size (bucket : WireBucket) : Nat :=
  8 + bucket.actionsSize + bucket.props.length * WireProp.size

/-- These bytes are the bucket, whose length fits in its `len`. -/
def Spells (bucket : WireBucket) (bytes : List UInt8) : Prop :=
  bucket.size < 2 ^ 16 ∧ ∃ actions props, SpellsAll WireAction.Spells bucket.actions actions ∧
    SpellsAll WireProp.Spells bucket.props props ∧
    bytes = bytes16 (UInt16.ofNat bucket.size) ++
      bytes16 (UInt16.ofNat bucket.actionsSize) ++ bytes32 bucket.bucketId ++
      actions ++ props

end WireBucket

/-- What fills up `length` bytes to a multiple of eight. -/
def roundUp (length : Nat) : Nat := (length + 7) / 8 * 8 - length

/-! ## `struct ofp_match` -/

/-- The fields that have an `OXM_OF_*_W`. -/
def OxmField.maskable : OxmField → Bool
  | metadata | ethDst | ethSrc | vlanVid | ipv4Src | ipv4Dst | arpSpa | arpTpa | arpSha
  | arpTha | ipv6Src | ipv6Dst | ipv6Flabel | pbbIsid | tunnelId | ipv6Exthdr => true
  | _ => false

/-- A field to match, with the bits of it that count. -/
structure MatchField where
  field : OxmField
  value : List UInt8
  mask : Option (List UInt8)
  valueWidth : value.length = field.width
  maskWidth : ∀ bits, mask = some bits → bits.length = field.width
  maskable : mask.isSome = true → field.maskable = true

namespace MatchField

/-- What follows the header: the value, and the mask. -/
def payload (entry : MatchField) : List UInt8 := entry.value ++ entry.mask.getD []

/-- The entry with its header. -/
def tlv (entry : MatchField) : List UInt8 :=
  oxmHeader entry.field entry.mask.isSome entry.payload.length ++ entry.payload

variable (entry : MatchField)

theorem length_tlv : entry.tlv.length = 4 + entry.payload.length := by
  simp [tlv, oxmHeader]
  omega

theorem length_payload :
    entry.payload.length =
      if entry.mask.isSome then 2 * entry.field.width else entry.field.width := by
  cases masked : entry.mask with
  | none => simp [payload, masked, entry.valueWidth]
  | some bits =>
    simp [payload, masked, entry.valueWidth, entry.maskWidth bits masked]
    omega

end MatchField

def ofpmtOxm : UInt16 := 1

/-- The `length` of a match: its header and its fields, without the zeros behind. -/
def matchLength (fields : List MatchField) : Nat :=
  4 + (fields.map fun entry => entry.tlv.length).sum

/-- These bytes are the match: the fields, and zeros that fill it up. -/
def SpellsMatch (fields : List MatchField) (bytes : List UInt8) : Prop :=
  matchLength fields < 2 ^ 16 ∧ bytes =
    bytes16 ofpmtOxm ++ bytes16 (UInt16.ofNat (matchLength fields)) ++
      (fields.map MatchField.tlv).flatten ++
      List.replicate (roundUp (matchLength fields)) 0

/-! ## `enum ofp_instruction_type` -/

namespace Ofpit

def gotoTable : UInt16 := 1
def writeMetadata : UInt16 := 2
def writeActions : UInt16 := 3
def applyActions : UInt16 := 4
def clearActions : UInt16 := 5
def meter : UInt16 := 6

end Ofpit

/-- An instruction. -/
inductive WireInstruction where
  | gotoTable (tableId : UInt8)
  | writeMetadata (metadata mask : UInt64)
  | writeActions (actions : List WireAction)
  | applyActions (actions : List WireAction)
  | clearActions
  | meter (meterId : UInt32)

namespace WireInstruction

/-- The `type` of an instruction. -/
def type : WireInstruction → UInt16
  | gotoTable _ => Ofpit.gotoTable
  | writeMetadata .. => Ofpit.writeMetadata
  | writeActions _ => Ofpit.writeActions
  | applyActions _ => Ofpit.applyActions
  | clearActions => Ofpit.clearActions
  | meter _ => Ofpit.meter

/-- The `len` of an instruction. -/
def size : WireInstruction → Nat
  | writeMetadata .. => 24
  | writeActions actions | applyActions actions => 8 + (actions.map WireAction.size).sum
  | gotoTable _ | clearActions | meter _ => 8

/-- These bytes follow `type` and `len` of the instruction, with padding of any content. -/
def SpellsBody : WireInstruction → List UInt8 → Prop
  | gotoTable tableId, body => ∃ pad, pad.length = 3 ∧ body = [tableId] ++ pad
  | writeMetadata metadata mask, body =>
    ∃ pad, pad.length = 4 ∧ body = pad ++ bytes64 metadata ++ bytes64 mask
  | writeActions actions, body | applyActions actions, body =>
    ∃ pad bytes, pad.length = 4 ∧ SpellsAll WireAction.Spells actions bytes ∧
      body = pad ++ bytes
  | clearActions, body => body.length = 4
  | meter meterId, body => body = bytes32 meterId

/-- These bytes are the instruction, whose length fits in its `len`. -/
def Spells (instruction : WireInstruction) (bytes : List UInt8) : Prop :=
  instruction.size < 2 ^ 16 ∧ ∃ body, instruction.SpellsBody body ∧ bytes =
    bytes16 instruction.type ++ bytes16 (UInt16.ofNat instruction.size) ++ body

end WireInstruction

/-- These bytes are a match and the instructions behind it. -/
def SpellsFlowBody (fields : List MatchField) (instructions : List WireInstruction)
    (bytes : List UInt8) : Prop :=
  ∃ front back, SpellsMatch fields front ∧
    SpellsAll WireInstruction.Spells instructions back ∧ bytes = front ++ back

end OpenFlowController.Include
