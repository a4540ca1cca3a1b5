/-
Module: Messages.GroupDescWire
Purpose: What the decoder of group descriptions makes of entries that are well formed, and when it
  ends, stays inside the given length, loses nothing, and builds the buckets of such a body.
Trusted boundary: none
-/
import OpenFlowController.Messages.GroupDescReads

namespace OpenFlowController.Messages

open Include List Library

/-! ## Decoded entries as they should be -/

/-- The entry for a `set_field`: the value goes into the member of its width. -/
def setFieldEntry (value : OxmValue) : OfiAction :=
  let entry : OfiAction :=
    { type := Ofpat.setField, setfieldType := UInt8.ofNat value.field.code }
  match value.field.width with
  | 1 => { entry with ui8Data := UInt8.ofNat (netNat value.bytes) }
  | 2 => { entry with ui16Data := word16 value.bytes }
  | 3 | 4 => { entry with ui32Data := word32 value.bytes }
  | 6 => { entry with ui8DataArray := value.bytes }
  | 8 => { entry with ui64Data := word64 value.bytes }
  | _ => { entry with ipv6Addr := value.bytes }

/-- The entry for an action.  What an experimenter's action means beyond the number of the
experimenter is not the protocol's. -/
def actionEntry : WireAction → OfiAction
  | .output port maxLen => { type := Ofpat.output, portNo := port, maxLen := maxLen }
  | .setMplsTtl ttl => { type := Ofpat.setMplsTtl, ttl := ttl }
  | .setNwTtl ttl => { type := Ofpat.setNwTtl, ttl := ttl }
  | .pushVlan etherType => { type := Ofpat.pushVlan, etherType := etherType }
  | .pushMpls etherType => { type := Ofpat.pushMpls, etherType := etherType }
  | .popMpls etherType => { type := Ofpat.popMpls, etherType := etherType }
  | .pushPbb etherType => { type := Ofpat.pushPbb, etherType := etherType }
  | .setQueue queueId => { type := Ofpat.setQueue, queueId := queueId }
  | .group groupId => { type := Ofpat.group, groupId := groupId }
  | .setField value => setFieldEntry value
  | .experimenter vendor _ => { type := Ofpat.experimenter, vendorid := vendor }
  | action => { type := action.type }

/-- The entry is the action. -/
def ActionRepresents (action : WireAction) (entry : OfiAction) : Prop :=
  match action with
  | .experimenter .. =>
    entry.type = (actionEntry action).type ∧ entry.vendorid = (actionEntry action).vendorid
  | _ => entry = actionEntry action

/-- The entry for a property. -/
def propEntry : WireProp → OfiBucketProp
  | .weight value _ => { weight := value }
  | .watchPort port => { watchPort := port }
  | .watchGroup groupId => { watchGroup := groupId }

/-! ## Entries that the decoder keeps -/

/-- Fields whose value the decoder drops, or keeps in part. -/
def isDroppedField (field : OxmField) : Prop := decodedWidth field ≠ field.width

instance (field : OxmField) : Decidable (isDroppedField field) :=
  inferInstanceAs (Decidable (_ ≠ _))

/-- What `ntohs` makes of the number of an experimenter. -/
def vendorSeen (host : ByteOrder) (vendor : UInt32) : Nat :=
  match host with
  | .littleEndian => vendor.toNat / 2 ^ 16
  | .bigEndian => vendor.toNat % 2 ^ 16

/-- The decoder loses nothing of the action: no queue, no value of a dropped field, not
the number of an experimenter. -/
def ActionKept (host : ByteOrder) : WireAction → Prop
  | .setQueue queueId => queueId = 0
  | .setField value => isDroppedField value.field → ∀ byte ∈ value.bytes, byte = 0
  | .experimenter vendor _ => vendorSeen host vendor = vendor.toNat
  | _ => True

/-- The decoder puts the property where it belongs: no port in the place of a group, and
on a big-endian host no weight, which is taken from the bytes behind it. -/
def PropKept (host : ByteOrder) : WireProp → Prop
  | .weight value pad => host = .bigEndian → pad = value
  | .watchPort port => port = 0
  | .watchGroup _ => True

/-! ## Fields of a message that is put together -/

section Slices

variable {host : ByteOrder} {msg before bytes behind : List UInt8} {offset width : Nat}

theorem slice_between (is : msg = before ++ (bytes ++ behind)) (start : before.length = offset)
    (long : bytes.length = width) : slice msg offset width = bytes := by
  rw [is, slice, ← start, drop_left, ← long, take_left]

theorem inside_between (is : msg = before ++ (bytes ++ behind))
    (start : before.length = offset) (long : bytes.length = width) :
    offset + width ≤ msg.length := by
  rw [is, length_append, length_append]
  omega

theorem byteAt_between {byte : UInt8} (is : msg = before ++ ([byte] ++ behind))
    (start : before.length = offset) : byteAt msg offset = .ok byte := by
  have long : [byte].length = 1 := rfl
  rw [reads_byteAt.ok (inside_between is start long), slice_between is start long]
  simp [netNat]

theorem ntohsAt_between {value : UInt16} (is : msg = before ++ (bytes16 value ++ behind))
    (start : before.length = offset) : ntohsAt host msg offset = .ok value := by
  have long := length_bytes16 value
  rw [reads_ntohsAt.ok (inside_between is start long), slice_between is start long, word16_bytes16]

theorem ntohlAt_between {value : UInt32} (is : msg = before ++ (bytes32 value ++ behind))
    (start : before.length = offset) : ntohlAt host msg offset = .ok value := by
  have long := length_bytes32 value
  rw [reads_ntohlAt.ok (inside_between is start long), slice_between is start long, word32_bytes32]

end Slices

/-! ## Actions on the wire -/

theorem spells_split {action : WireAction} {bytes behind : List UInt8}
    (spelled : action.Spells bytes) :
    ∃ rest, bytes ++ behind = bytes16 action.type ++
      (bytes16 (UInt16.ofNat action.size) ++ (action.operands ++ rest)) := by
  obtain ⟨_, pad, rfl⟩ := spelled
  exact ⟨pad ++ behind, by simp only [append_assoc]⟩

theorem actionSize_lt (action : WireAction) : action.size < 2 ^ 16 := by
  cases action with
  | experimenter vendor body => exact body.fits
  | setField value =>
    have small := value.field.width_le
    have tlv : value.tlv.length = 4 + value.field.width := by
      rw [OxmValue.tlv, length_append, value.width]
      rfl
    have padded : (WireAction.setField value).size = (4 + value.tlv.length + 7) / 8 * 8 := rfl
    omega
  | output port maxLen => exact (by decide : 16 < 2 ^ 16)
  | _ => exact (by decide : 8 < 2 ^ 16)

section Actions

variable {host : ByteOrder} {msg rest : List UInt8} {action : WireAction} {entry : OfiAction}

/-- `msg` starts with the header and the operands of the action. -/
def StartsWith (action : WireAction) (msg rest : List UInt8) : Prop :=
  msg = bytes16 action.type ++ (bytes16 (UInt16.ofNat action.size) ++ (action.operands ++ rest))

section

variable (starts : StartsWith action msg rest)

include starts

theorem StartsWith.type : headerType msg = action.type := by
  have first : slice msg 0 2 = bytes16 action.type :=
    @slice_between msg [] _ _ 0 2 starts rfl (length_bytes16 _)
  rw [headerType, first, word16_bytes16]

theorem StartsWith.len : headerLen msg = action.size := by
  have size := actionSize_lt action
  have long := length_bytes16 (UInt16.ofNat action.size)
  rw [headerLen, slice_between starts (length_bytes16 _) long, word16_bytes16, UInt16.toNat_ofNat']
  exact Nat.mod_eq_of_lt size

theorem StartsWith.operands :
    ∃ header, header.length = 4 ∧ msg = header ++ (action.operands ++ rest) := by
  refine ⟨bytes16 action.type ++ bytes16 (UInt16.ofNat action.size), ?_, ?_⟩
  · rw [length_append, length_bytes16, length_bytes16]
  · rw [starts, append_assoc]

theorem StartsWith.span : actionSpan msg = action.size := by
  have len := starts.len
  unfold actionSpan
  rw [starts.type, len]
  cases action <;> rfl

end

/-! ### The `switch` on the type -/

variable {type : UInt16}

theorem frameAction_bare (bare : isBareType type := by decide) :
    frameAction host msg type entry = .ok (entry, 8) := by
  rcases bare with rfl | rfl | rfl | rfl | rfl | rfl | rfl <;> rfl

theorem frameAction_ttl {ttl : UInt8} (kind : isTtlType type) (read : byteAt msg 4 = .ok ttl) :
    frameAction host msg type entry = .ok ({ entry with ttl := ttl }, 8) := by
  have step : frameAction host msg type entry =
      (byteAt msg 4 >>= fun ttl => pure ({ entry with ttl := ttl }, 8)) := by
    rcases kind with rfl | rfl <;> rfl
  rw [step, read]
  rfl

theorem frameAction_tag {etherType : UInt16} (kind : isTagType type)
    (read : ntohsAt host msg 4 = .ok etherType) :
    frameAction host msg type entry = .ok ({ entry with etherType := etherType }, 8) := by
  have step : frameAction host msg type entry =
      (ntohsAt host msg 4 >>= fun etherType =>
        pure ({ entry with etherType := etherType }, 8)) := by
    rcases kind with rfl | rfl | rfl | rfl <;> rfl
  rw [step, read]
  rfl

/-! ### `set_field` -/

/-- What the decoder makes of a value: nothing for some fields, and the first byte for a
service number. -/
def setFieldDecoded (value : OxmValue) : OfiAction :=
  let entry : OfiAction :=
    { type := Ofpat.setField, setfieldType := UInt8.ofNat value.field.code }
  if value.field = .pbbIsid then
    { entry with ui8Data := UInt8.ofNat (netNat (value.bytes.take 1)) }
  else if isDroppedField value.field then entry
  else setFieldEntry value

variable (value : OxmValue)

/-- A set-field action is decoded from the bytes of its field. -/
theorem setFieldResponse_wire (is : msg = value.tlv ++ rest) :
    ofGroupFrameActionSetFieldResponse host msg { type := Ofpat.setField } =
      .ok (setFieldDecoded value) := by
  rcases value with ⟨field, bytes, width⟩
  have header : byteAt msg 2 = .ok (UInt8.ofNat (2 * field.code + false.toNat)) :=
    @byteAt_between msg [0x80, 0] (UInt8.ofNat field.width :: (bytes ++ rest)) 2 _ is rfl
  have payload : msg = oxmHeader field false field.width ++ (bytes ++ rest) := by
    rw [is, OxmValue.tlv, append_assoc]
  have four : (oxmHeader field false field.width).length = 4 := rfl
  have inside : 4 + field.width ≤ msg.length := inside_between payload four width
  have there : slice msg 4 field.width = bytes := slice_between payload four width
  unfold ofGroupFrameActionSetFieldResponse
  rw [header]
  have byte : byteAt msg 4 = .ok (UInt8.ofNat (netNat (slice msg 4 1))) :=
    reads_byteAt.ok (by have := field.width_pos; omega)
  have word16_ (two : field.width = 2) : ntohsAt host msg 4 = .ok (word16 bytes) := by
    rw [two] at inside there
    rw [reads_ntohsAt.ok inside, there]
  have word32_ (four : field.width = 4) : ntohlAt host msg 4 = .ok (word32 bytes) := by
    rw [four] at inside there
    rw [reads_ntohlAt.ok inside, there]
  have word64_ (eight : field.width = 8) : ntohllAt host msg 4 = .ok (word64 bytes) := by
    rw [eight] at inside there
    rw [reads_ntohllAt.ok inside, there]
  have array (six : field.width = 6) : peek msg 4 6 = .ok bytes := by
    rw [six] at inside there
    exact (if_pos inside).trans (congrArg _ there)
  have one (single : field.width = 1) : slice msg 4 1 = bytes := single ▸ there
  have first : slice msg 4 1 = bytes.take 1 := by
    rw [← there]
    have := field.width_pos
    rw [slice, slice, take_take, Nat.min_eq_left this]
  cases field
  case pbbIsid =>
    dsimp only [ofOxmHdrLen]
    rw [byte, first]
    rfl
  all_goals first
    | rfl
    | dsimp only [ofOxmHdrLen]; rw [word32_ rfl]; rfl
    | dsimp only [ofOxmHdrLen]; rw [word16_ rfl]; rfl
    | dsimp only [ofOxmHdrLen]; rw [byte, one rfl]; rfl
    | dsimp only [ofOxmHdrLen]; rw [word64_ rfl]; rfl
    | dsimp only [ofOxmHdrLen]; rw [array rfl]; rfl

theorem eq_with_ipv6Addr (entry : OfiAction) (bytes : List UInt8) :
    entry = { entry with ipv6Addr := bytes } ↔ entry.ipv6Addr = bytes := by
  constructor
  · exact fun same => congrArg OfiAction.ipv6Addr same
  · rintro rfl
    rfl

theorem eq_with_ui8DataArray (entry : OfiAction) (bytes : List UInt8) :
    entry = { entry with ui8DataArray := bytes } ↔ entry.ui8DataArray = bytes := by
  constructor
  · exact fun same => congrArg OfiAction.ui8DataArray same
  · rintro rfl
    rfl

theorem eq_with_ui16Data (entry : OfiAction) (value : UInt16) :
    entry = { entry with ui16Data := value } ↔ entry.ui16Data = value := by
  constructor
  · exact fun same => congrArg OfiAction.ui16Data same
  · rintro rfl
    rfl

theorem with_ui8Data_eq_with_ui32Data (entry : OfiAction) (first : UInt8) (value : UInt32) :
    { entry with ui8Data := first } = { entry with ui32Data := value } ↔
      first = entry.ui8Data ∧ entry.ui32Data = value := by
  constructor
  · exact fun same => ⟨congrArg OfiAction.ui8Data same, congrArg OfiAction.ui32Data same⟩
  · rintro ⟨rfl, rfl⟩
    rfl

/-- The decoded field is the one sent exactly when what is dropped was zero. -/
theorem setFieldDecoded_eq_iff :
    setFieldDecoded value = setFieldEntry value ↔
      (isDroppedField value.field → ∀ byte ∈ value.bytes, byte = 0) := by
  rcases value with ⟨field, bytes, width⟩
  by_cases dropped : isDroppedField field
  · have zeros {n : Nat} (long : bytes.length = n) :
        replicate n 0 = bytes ↔ ∀ byte ∈ bytes, byte = 0 := by
      rw [eq_comm, eq_replicate_iff]
      exact ⟨fun both => both.2, fun zero => ⟨long, zero⟩⟩
    rw [forall_prop_of_true dropped]
    have addr (entry : OfiAction) (default_ : entry.ipv6Addr = replicate 16 0)
        (long : bytes.length = 16) :
        entry = { entry with ipv6Addr := bytes } ↔ ∀ byte ∈ bytes, byte = 0 := by
      rw [eq_with_ipv6Addr, default_, zeros long]
    have array (entry : OfiAction) (default_ : entry.ui8DataArray = replicate 6 0)
        (long : bytes.length = 6) :
        entry = { entry with ui8DataArray := bytes } ↔ ∀ byte ∈ bytes, byte = 0 := by
      rw [eq_with_ui8DataArray, default_, zeros long]
    cases field
    all_goals first
      | exact absurd rfl dropped
      | exact addr _ rfl width
      | exact array _ rfl width
      | skip
    case pbbIsid =>
      have whole : word32 bytes = 0 ↔ ∀ byte ∈ bytes, byte = 0 :=
        word32_eq_zero_iff (width.trans_le (by decide))
      refine (with_ui8Data_eq_with_ui32Data _ _ _).trans ⟨fun both => whole.mp both.2.symm, ?_⟩
      intro zero
      refine ⟨?_, (whole.mpr zero).symm⟩
      have first : netNat (bytes.take 1) = 0 :=
        (netNat_eq_zero_iff _).mpr fun byte inside => zero byte (mem_of_mem_take inside)
      rw [first]
      rfl
    case ipv6Exthdr =>
      have whole : word16 bytes = 0 ↔ ∀ byte ∈ bytes, byte = 0 :=
        word16_eq_zero_iff (width.trans_le (by decide))
      exact (eq_with_ui16Data _ _).trans (eq_comm.trans whole)
  · have kept : field ≠ .pbbIsid := fun same => dropped (same ▸ by decide)
    have same : setFieldDecoded ⟨field, bytes, width⟩ = setFieldEntry ⟨field, bytes, width⟩ := by
      rw [setFieldDecoded, if_neg kept, if_neg dropped]
    exact ⟨fun _ absurd_ => absurd absurd_ dropped, fun _ => same⟩

/-! ### Experimenters -/

theorem netNat_bytes32 (value : UInt32) : netNat (bytes32 value) = value.toNat :=
  netNat_netBytes_of_lt value.toNat_lt

theorem ntoh_low_bytes32 (vendor : UInt32) :
    ntoh host 2 (load host (bytes32 vendor) % 2 ^ 16) = vendorSeen host vendor := by
  have split : bytes32 vendor = (bytes32 vendor).take 2 ++ (bytes32 vendor).drop 2 :=
    (take_append_drop 2 _).symm
  have high : ((bytes32 vendor).take 2).length = 2 := rfl
  have low : ((bytes32 vendor).drop 2).length = 2 := rfl
  have whole := netNat_bytes32 vendor
  have short : netNat ((bytes32 vendor).drop 2) < 256 ^ ((bytes32 vendor).drop 2).length :=
    netNat_lt _
  rw [split, netNat_append, low] at whole
  rw [low] at short
  cases host with
  | littleEndian =>
    rw [split, ntoh_low_littleEndian high, vendorSeen]
    omega
  | bigEndian =>
    rw [split, ntoh_low_bigEndian low, vendorSeen]
    omega

/-- An experimenter action is decoded with its body. -/
theorem frameAction_experimenter {vendor : UInt32} {body : ExperimenterBody} {length : Nat}
    (starts : StartsWith (.experimenter vendor body) msg rest)
    (framed : frameAction host msg Ofpat.experimenter { type := Ofpat.experimenter } =
      .ok (entry, length)) :
    entry.type = Ofpat.experimenter ∧ entry.vendorid.toNat = vendorSeen host vendor := by
  obtain ⟨header, four, is⟩ := starts.operands
  have is' : msg = header ++ (bytes32 vendor ++ (body.bytes ++ rest)) := by
    rw [is, WireAction.operands, append_assoc]
  have there := slice_between is' four (length_bytes32 vendor)
  have vendorRead := (@reads_ntohsOfUint32At host msg 4).ok
    (inside_between is' four (length_bytes32 vendor))
  rw [there, ntoh_low_bytes32] at vendorRead
  have seen : vendorSeen host vendor < 2 ^ 16 := by
    have := vendor.toNat_lt
    unfold vendorSeen
    cases host with
    | littleEndian => dsimp only; omega
    | bigEndian => dsimp only; omega
  have step : frameAction host msg Ofpat.experimenter { type := Ofpat.experimenter } =
      (ntohsOfUint32At host msg 4 >>= fun vendor => ntohsAt host msg 8 >>= fun subtype =>
        loadAt host msg 8 2 >>= fun raw => frameExperimenterData host msg raw
          { type := Ofpat.experimenter, vendorid := vendor.toUInt32, subType := subtype } >>=
          fun entry => ntohsAt host msg 2 >>= fun len => pure (entry, len.toNat)) := rfl
  rw [step, vendorRead] at framed
  have keeps : Reads msg.length
      (max (8 + 2) (max (8 + 2) (max (experimenterReach (load host (slice msg 8 2)) msg) (2 + 2))))
      (fun p : OfiAction × Nat => p.1.type = Ofpat.experimenter ∧
        p.1.vendorid = (UInt16.ofNat (vendorSeen host vendor)).toUInt32)
      (ntohsAt host msg 8 >>= fun subtype => loadAt host msg 8 2 >>= fun raw =>
        frameExperimenterData host msg raw
          { type := Ofpat.experimenter
            vendorid := (UInt16.ofNat (vendorSeen host vendor)).toUInt32
            subType := subtype } >>=
          fun entry => ntohsAt host msg 2 >>= fun len => pure (entry, len.toNat)) := by
    apply Reads.bind reads_ntohsAt
    intro subtype _
    apply Reads.bind (reads_loadAt 2)
    rintro raw ⟨rfl, _⟩
    apply Reads.bind (experimenter_reads _)
    intro entry same
    exact reads_into reads_ntohsAt _ fun _ _ => same
  rcases keeps with ⟨_, result, computed, type, vendorid⟩ | ⟨_, failed⟩
  · cases computed.symm.trans framed
    refine ⟨type, ?_⟩
    rw [vendorid, UInt16.toNat_toUInt32, UInt16.toNat_ofNat']
    exact Nat.mod_eq_of_lt seen
  · cases failed.symm.trans framed

/-! ### All actions -/

/-- An action is decoded from its bytes. -/
theorem action_wire {length : Nat} (starts : StartsWith action msg rest)
    (framed : frameAction host msg action.type { type := action.type } = .ok (entry, length)) :
    ActionRepresents action entry ↔ ActionKept host action := by
  obtain ⟨header, four, is⟩ := starts.operands
  have made {result : OfiAction} {size : Nat}
      (computed : frameAction host msg action.type { type := action.type } =
        .ok (result, size)) : entry = result :=
    congrArg Prod.fst (Except.ok.inj (framed.symm.trans computed))
  cases action with
  | output port maxLen =>
    have portRead : ntohlAt host msg 4 = .ok port :=
      @ntohlAt_between host msg header (bytes16 maxLen ++ rest) 4 port
        (by rw [is, WireAction.operands, append_assoc]) four
    have maxLenRead : ntohsAt host msg 8 = .ok maxLen :=
      @ntohsAt_between host msg (header ++ bytes32 port) rest 8 maxLen
        (by rw [is, WireAction.operands]; simp only [append_assoc])
        (by rw [length_append, four, length_bytes32])
    have step : frameAction host msg Ofpat.output { type := Ofpat.output } =
        (ntohlAt host msg 4 >>= fun port => ntohsAt host msg 8 >>= fun maxLen =>
          pure ({ type := Ofpat.output, portNo := port, maxLen := maxLen }, 16)) := rfl
    rw [portRead, maxLenRead] at step
    exact iff_of_true (made step) trivial
  | copyTtlOut => exact iff_of_true (made frameAction_bare) trivial
  | copyTtlIn => exact iff_of_true (made frameAction_bare) trivial
  | decMplsTtl => exact iff_of_true (made frameAction_bare) trivial
  | popVlan => exact iff_of_true (made frameAction_bare) trivial
  | decNwTtl => exact iff_of_true (made frameAction_bare) trivial
  | popPbb => exact iff_of_true (made frameAction_bare) trivial
  | setQueue queueId =>
    have dropped := made (frameAction_bare (by decide : isBareType Ofpat.setQueue))
    subst dropped
    constructor
    · exact fun same => (congrArg OfiAction.queueId same).symm
    · rintro rfl
      rfl
  | setMplsTtl ttl =>
    have kind : isTtlType Ofpat.setMplsTtl := by decide
    exact iff_of_true (made (frameAction_ttl kind (byteAt_between is four))) trivial
  | setNwTtl ttl =>
    have kind : isTtlType Ofpat.setNwTtl := by decide
    exact iff_of_true (made (frameAction_ttl kind (byteAt_between is four))) trivial
  | pushVlan etherType =>
    have kind : isTagType Ofpat.pushVlan := by decide
    exact iff_of_true (made (frameAction_tag kind (ntohsAt_between is four))) trivial
  | pushMpls etherType =>
    have kind : isTagType Ofpat.pushMpls := by decide
    exact iff_of_true (made (frameAction_tag kind (ntohsAt_between is four))) trivial
  | popMpls etherType =>
    have kind : isTagType Ofpat.popMpls := by decide
    exact iff_of_true (made (frameAction_tag kind (ntohsAt_between is four))) trivial
  | pushPbb etherType =>
    have kind : isTagType Ofpat.pushPbb := by decide
    exact iff_of_true (made (frameAction_tag kind (ntohsAt_between is four))) trivial
  | group groupId =>
    have step : frameAction host msg Ofpat.group { type := Ofpat.group } =
        (ntohlAt host msg 4 >>= fun groupId =>
          pure ({ type := Ofpat.group, groupId := groupId }, 8)) := rfl
    rw [ntohlAt_between is four] at step
    exact iff_of_true (made step) trivial
  | setField value =>
    obtain ⟨more, field⟩ : ∃ more, msg.drop 4 = value.tlv ++ more :=
      ⟨_, by rw [is, ← four, drop_left, WireAction.operands, append_assoc]⟩
    have step : frameAction host msg Ofpat.setField { type := Ofpat.setField } =
        (ofGroupFrameActionSetFieldResponse host (msg.drop 4) { type := Ofpat.setField } >>=
          fun entry => ntohsAt host msg 2 >>= fun len => pure (entry, len.toNat)) := rfl
    have len := @ntohsAt_between host msg (bytes16 Ofpat.setField) _ 2 _ starts (length_bytes16 _)
    rw [setFieldResponse_wire value field, len] at step
    have dropped := made step
    subst dropped
    exact setFieldDecoded_eq_iff value
  | experimenter vendor body =>
  obtain ⟨type, vendorid⟩ := frameAction_experimenter starts framed
  constructor
  · intro same
    exact vendorid.symm.trans (congrArg UInt32.toNat same.2)
  · intro kept
    exact ⟨type, UInt32.toNat.inj (vendorid.trans kept)⟩

end Actions

/-! ## Properties on the wire -/

section Props

variable {host : ByteOrder} {msg rest : List UInt8} {prop : WireProp} {entry : OfiBucketProp}

theorem propHeader (is : msg = (bytes16 prop.type ++ bytes16 (UInt16.ofNat WireProp.size) ++
    prop.operands) ++ rest) : headerType msg = prop.type ∧ propSpan msg = WireProp.size := by
  have first : slice msg 0 2 = bytes16 prop.type :=
    @slice_between msg [] _ (bytes16 (UInt16.ofNat WireProp.size) ++ prop.operands ++ rest) 0 2
      (by rw [is]; simp only [append_assoc, nil_append]) rfl (length_bytes16 _)
  have type : headerType msg = prop.type := by
    rw [headerType, first, word16_bytes16]
  refine ⟨type, ?_⟩
  rw [propSpan, type]
  cases prop <;> rfl

/-- An entry that the decoder made of a property is that property if and only if the
decoder puts such a property where it belongs. -/
theorem prop_wire {length : Nat}
    (is : msg = (bytes16 prop.type ++ bytes16 (UInt16.ofNat WireProp.size) ++
      prop.operands) ++ rest)
    (framed : frameBucketProp host msg prop.type = .ok (entry, length)) :
    entry = propEntry prop ↔ PropKept host prop := by
  have four : (bytes16 prop.type ++ bytes16 (UInt16.ofNat WireProp.size)).length = 4 := by
    rw [length_append, length_bytes16, length_bytes16]
  have is' := is
  have made {result : OfiBucketProp} {size : Nat}
      (computed : frameBucketProp host msg prop.type = .ok (result, size)) : entry = result :=
    congrArg Prod.fst (Except.ok.inj (framed.symm.trans computed))
  cases prop with
  | watchGroup groupId =>
    have step : frameBucketProp host msg Ofpgbpt.watchGroup =
        (ntohlAt host msg 4 >>= fun watch => pure ({ watchGroup := watch }, 8)) := rfl
    rw [ntohlAt_between is' four] at step
    exact iff_of_true (made step) trivial
  | watchPort port =>
    have step : frameBucketProp host msg Ofpgbpt.watchPort =
        (ntohlAt host msg 4 >>= fun watch => pure ({ watchGroup := watch }, 8)) := rfl
    rw [ntohlAt_between is' four] at step
    have swapped := made step
    subst swapped
    constructor
    · exact fun same => congrArg OfiBucketProp.watchGroup same
    · rintro rfl
      rfl
  | weight value pad =>
  have operands : (WireProp.weight value pad).operands = bytes16 value ++ bytes16 pad := rfl
  have long : (bytes16 value ++ bytes16 pad).length = 4 := by
    rw [length_append, length_bytes16, length_bytes16]
  rw [operands] at is'
  have step : frameBucketProp host msg Ofpgbpt.weight =
      (ntohsOfUint32At host msg 4 >>= fun weight => pure ({ weight := weight }, 8)) := rfl
  rw [reads_ntohsOfUint32At.ok (inside_between is' four long), slice_between is' four long] at step
  have seen := made step
  subst seen
  cases host with
  | littleEndian =>
    rw [ntoh_low_littleEndian (length_bytes16 value)]
    exact iff_of_true (congrArg (fun w => { weight := w : OfiBucketProp })
      (word16_bytes16 value)) nofun
  | bigEndian =>
  rw [ntoh_low_bigEndian (length_bytes16 pad), ← word16, word16_bytes16]
  constructor
  · exact fun same _ => congrArg OfiBucketProp.weight same
  · intro kept
    rw [kept rfl]
    rfl

end Props

/-! ## Lists of well-formed entries -/

/-- How entries of one kind lie on the wire, and what their decoder makes of them. -/
structure WireKind {ω α : Type} (decode : Cursor → Except Stop (α × Nat))
    (spells : ω → List UInt8 → Prop) (size : ω → Nat) (represents : ω → α → Prop)
    (kept : ω → Prop) : Prop where
  length : ∀ entry bytes, spells entry bytes → bytes.length = size entry
  pos : ∀ entry, 0 < size entry
  decoded : ∀ entry bytes rest cursor result, spells entry bytes →
    cursor.msg = bytes ++ rest → decode cursor = .ok result →
    result.2 = size entry ∧ (represents entry result.1 ↔ kept entry)

section Lists

variable {ω α : Type} {decode : Cursor → Except Stop (α × Nat)}
  {spells : ω → List UInt8 → Prop} {size : ω → Nat} {represents : ω → α → Prop}
  {kept : ω → Prop}

/-- What a loop that ended well made of well-formed entries: it stands behind them, and its
entries are those of the wire if and only if the decoder keeps each of them. -/
theorem loop_wire (kind : WireKind decode spells size represents kept) {entries : List ω}
    {pieces : List (List UInt8)} (spelled : List.Forall₂ spells entries pieces) {fuel : Nat}
    {cursor behind : Cursor} {rest : List UInt8} {list later : List α}
    (msg : cursor.msg = pieces.flatten ++ rest)
    (ended : entryLoop decode fuel ((entries.map size).sum : Nat) cursor list =
      .ok (later, behind)) :
    behind.msg = rest ∧ behind.read = cursor.read + (entries.map size).sum ∧
      ∃ made, later = list ++ made ∧
        (List.Forall₂ represents entries made ↔ ∀ entry ∈ entries, kept entry) := by
  induction spelled generalizing fuel cursor list with
  | nil =>
    cases fuel with
    | zero => cases ended
    | succ fuel =>
    have done : entryLoop decode (fuel + 1) ((([] : List ω).map size).sum : Nat) cursor list =
        .ok (list, cursor) := entryLoop_done fuel (Int.le_refl _)
    cases done.symm.trans ended
    refine ⟨msg, rfl, [], (append_nil _).symm, ?_⟩
    exact iff_of_true List.Forall₂.nil nofun
  | @cons entry bytes entries pieces first spelled ih =>
  have positive := kind.pos entry
  have long := kind.length entry bytes first
  have left : (0 : Int) < (((entry :: entries).map size).sum : Nat) := by
    rw [map_cons, sum_cons]
    omega
  rw [flatten_cons, append_assoc] at msg
  cases fuel with
  | zero => cases ended
  | succ fuel =>
  cases decoded : decode cursor with
  | error stop =>
    rw [entryLoop, if_pos left, decoded] at ended
    cases stop <;> cases ended
  | ok result =>
  rcases result with ⟨value, length⟩
  obtain ⟨same, iff_⟩ := kind.decoded entry bytes _ cursor _ first msg decoded
  subst same
  rw [entryLoop_entry fuel left decoded] at ended
  have total : (((entry :: entries).map size).sum : Nat) - (size entry : Int) =
      ((entries.map size).sum : Nat) := by
    rw [map_cons, sum_cons]
    omega
  rw [total] at ended
  have passed : (cursor.pass (size entry)).msg = pieces.flatten ++ rest := by
    rw [Cursor.pass, msg, ← long, drop_left]
  obtain ⟨behindMsg, read, made, all, restIff⟩ :=
    ih passed ended
  refine ⟨behindMsg, ?_, value :: made, ?_, ?_⟩
  · rw [map_cons, sum_cons, ← Nat.add_assoc]
    exact read
  · rw [all, append_assoc, singleton_append]
  · rw [forall₂_cons, iff_, restIff, forall_mem_cons]

end Lists

/-! ## Actions and properties -/

section Kinds

variable {host : ByteOrder} {heap : Heap}

theorem frame_of_decoded {α : Type} {c : UInt16 → Except Stop (α × Nat)} {cursor : Cursor}
    {result : α × Nat}
    (decoded : (ntohsAt host cursor.msg 0 >>= fun type =>
      if heap.entry cursor.entries then c type else .error .nullEntry) = .ok result) :
    c (headerType cursor.msg) = .ok result := by
  rcases @reads_ntohsAt host cursor.msg 0 with ⟨_, type, read, same⟩ | ⟨_, failed⟩
  · rw [read, same] at decoded
    split at decoded
    · exact decoded
    · cases decoded
  · rw [failed] at decoded
    cases decoded

theorem actionSize_pos (action : WireAction) : 0 < action.size := by
  cases action with
  | setField value =>
    have padded : (WireAction.setField value).size = (4 + value.tlv.length + 7) / 8 * 8 := rfl
    omega
  | experimenter vendor body =>
    have whole : (WireAction.experimenter vendor body).size = 8 + body.bytes.length := rfl
    omega
  | output port maxLen => exact (by decide : 0 < 16)
  | _ => exact (by decide : 0 < 8)

theorem action_kind : WireKind (ofGroupFrameActionResponse host heap) WireAction.Spells
    WireAction.size ActionRepresents (ActionKept host) := by
  constructor
  case length => exact fun entry bytes spelled => spelled.1
  case pos => exact actionSize_pos
  case decoded =>
    intro entry bytes rest cursor result spelled msg decoded
    obtain ⟨more, starts⟩ := @spells_split entry bytes rest spelled
    rw [← msg] at starts
    have framed := frame_of_decoded decoded
    rw [StartsWith.type starts] at framed
    exact ⟨((action_decodes host heap).spanned decoded).trans (StartsWith.span starts),
      action_wire starts framed⟩

theorem prop_kind : WireKind (ofGroupFrameBucketPropResponse host heap) WireProp.Spells
    (fun _ => WireProp.size) (fun prop entry => entry = propEntry prop) (PropKept host) := by
  constructor
  case length =>
    rintro entry bytes rfl
    cases entry with
    | weight value pad =>
      rfl
    | watchPort port =>
      rfl
    | watchGroup groupId =>
      rfl
  case pos => exact fun _ => (by decide : 0 < 8)
  case decoded =>
    rintro entry bytes rest cursor result rfl msg decoded
    obtain ⟨type, span⟩ := propHeader msg
    have framed := frame_of_decoded decoded
    rw [type] at framed
    exact ⟨((prop_decodes host heap).spanned decoded).trans span, prop_wire msg framed⟩

end Kinds

/-! ## Buckets -/

/-- The decoded bucket is the one on the wire. -/
structure BucketRepresents (bucket : WireBucket) (decoded : OfiBucket) : Prop where
  bucketId : decoded.bucketId = bucket.bucketId
  actions : List.Forall₂ ActionRepresents bucket.actions decoded.actionList
  props : List.Forall₂ (fun prop entry => entry = propEntry prop) bucket.props
    decoded.bucketPropList

/-- The decoder keeps every action and every property of the bucket. -/
def BucketKept (host : ByteOrder) (bucket : WireBucket) : Prop :=
  (∀ action ∈ bucket.actions, ActionKept host action) ∧
    ∀ prop ∈ bucket.props, PropKept host prop

theorem flatten_length {ω : Type} {spells : ω → List UInt8 → Prop} {size : ω → Nat}
    (long : ∀ entry bytes, spells entry bytes → bytes.length = size entry) {entries : List ω}
    {pieces : List (List UInt8)} (spelled : List.Forall₂ spells entries pieces) :
    pieces.flatten.length = (entries.map size).sum := by
  induction spelled with
  | nil => rfl
  | cons first _ ih =>
    rw [flatten_cons, length_append, ih, long _ _ first, map_cons, sum_cons]

section Header

variable {msg actions props rest : List UInt8} {bucket : WireBucket}

/-- `msg` starts with a bucket that has these bytes as actions and as properties. -/
def BucketAt (bucket : WireBucket) (actions props rest msg : List UInt8) : Prop :=
  msg = bytes16 (UInt16.ofNat bucket.size) ++ bytes16 (UInt16.ofNat bucket.actionsSize) ++
    bytes32 bucket.bucketId ++ actions ++ props ++ rest

theorem BucketAt.bucketId (at_ : BucketAt bucket actions props rest msg) :
    word32 (slice msg 4 4) = bucket.bucketId := by
  have field : slice msg 4 4 = bytes32 bucket.bucketId :=
    @slice_between msg (bytes16 (UInt16.ofNat bucket.size) ++
      bytes16 (UInt16.ofNat bucket.actionsSize)) _ (actions ++ props ++ rest) 4 4
      (by rw [at_]; simp only [append_assoc])
      (by rw [length_append, length_bytes16, length_bytes16]) (length_bytes32 _)
  rw [field, word32_bytes32]

theorem BucketAt.actionListLen (at_ : BucketAt bucket actions props rest msg)
    (fits : bucket.size < 2 ^ 16) : actionListLenAt msg = bucket.actionsSize := by
  have size : bucket.size = 8 + bucket.actionsSize + bucket.props.length * WireProp.size := rfl
  have field : slice msg 2 2 = bytes16 (UInt16.ofNat bucket.actionsSize) :=
    @slice_between msg (bytes16 (UInt16.ofNat bucket.size)) _
      (bytes32 bucket.bucketId ++ actions ++ props ++ rest) 2 2
      (by rw [at_]; simp only [append_assoc]) (length_bytes16 _) (length_bytes16 _)
  rw [actionListLenAt, field, word16_bytes16, UInt16.toNat_ofNat']
  omega

theorem propSizes_sum (props : List WireProp) :
    (props.map fun _ => WireProp.size).sum = props.length * WireProp.size := by
  rw [map_const', sum_replicate_nat]

theorem BucketAt.bucketPropLen (at_ : BucketAt bucket actions props rest msg)
    (fits : bucket.size < 2 ^ 16) :
    bucketPropLenAt msg = ((bucket.props.map fun _ => WireProp.size).sum : Nat) := by
  have size : bucket.size = 8 + bucket.actionsSize + bucket.props.length * WireProp.size := rfl
  have field : slice msg 0 2 = bytes16 (UInt16.ofNat bucket.size) :=
    @slice_between msg [] _ (bytes16 (UInt16.ofNat bucket.actionsSize) ++
      bytes32 bucket.bucketId ++ actions ++ props ++ rest) 0 2
      (by rw [at_]; simp only [append_assoc, nil_append]) rfl (length_bytes16 _)
  rw [bucketPropLenAt, at_.actionListLen fits, field, word16_bytes16, UInt16.toNat_ofNat',
    propSizes_sum, sizeofOfpBucket]
  omega

theorem bucketHeader_length (bucket : WireBucket) :
    (bytes16 (UInt16.ofNat bucket.size) ++ bytes16 (UInt16.ofNat bucket.actionsSize) ++
      bytes32 bucket.bucketId).length = 8 := by
  rw [length_append, length_append, length_bytes16, length_bytes16, length_bytes32]

theorem BucketAt.body {cursor : Cursor} (at_ : BucketAt bucket actions props rest cursor.msg) :
    cursor.bucketBody.msg = actions ++ (props ++ rest) := by
  rw [Cursor.bucketBody, at_, append_assoc, append_assoc]
  exact drop_left' (bucketHeader_length bucket)

end Header

section Bucket

variable {host : ByteOrder} {heap : Heap} {fuel number : Nat} {cursor behind : Cursor}
  {bucket : WireBucket} {bytes rest : List UInt8} {decoded : OfiBucket}

/-- What the decoder of a bucket made of a well-formed one: it stands behind it, and has
that bucket if and only if it keeps what is in it. -/
theorem bucket_wire (spelled : bucket.Spells bytes) (msg : cursor.msg = bytes ++ rest)
    (built : ofGroupFrameBucketResponse host heap fuel number cursor = .ok (decoded, behind)) :
    behind.msg = rest ∧ behind.read = bytes.length ∧
      (BucketRepresents bucket decoded ↔ BucketKept host bucket) := by
  obtain ⟨fits, _, _, ⟨actionPieces, actions, rfl⟩, ⟨propPieces, props, rfl⟩, rfl⟩ := spelled
  have at_ : BucketAt bucket actionPieces.flatten propPieces.flatten rest cursor.msg := msg
  have actionsLong := flatten_length (@action_kind host heap).length actions
  have propsLong := flatten_length (@prop_kind host heap).length props
  rcases bucketResponse_inv built with ⟨_, failed⟩ | ⟨memory, _, walked⟩
  · cases failed
  obtain ⟨_, walk⟩ := walked decoded behind rfl
  rw [bucketResponse_header fuel memory walk.header, at_.actionListLen fits,
    at_.bucketPropLen fits, at_.bucketId] at built
  cases actionsEnd : entryLoop (ofGroupFrameActionResponse host heap) fuel
      (bucket.actionsSize : Nat) cursor.bucketBody [] with
  | error stop =>
    rw [actionsEnd] at built
    cases built
  | ok first =>
  rcases first with ⟨actionList, middle⟩
  rw [actionsEnd] at built
  dsimp only [bind, Except.bind] at built
  cases propsEnd : entryLoop (ofGroupFrameBucketPropResponse host heap) fuel
      ((bucket.props.map fun _ => WireProp.size).sum : Nat) middle [] with
  | error stop =>
    rw [propsEnd] at built
    cases built
  | ok second =>
  rcases second with ⟨propList, last⟩
  rw [propsEnd] at built
  cases built
  obtain ⟨middleMsg, middleRead, _, rfl, actionsIff⟩ :=
    loop_wire action_kind actions at_.body actionsEnd
  obtain ⟨lastMsg, lastRead, _, rfl, propsIff⟩ :=
    loop_wire prop_kind props middleMsg propsEnd
  refine ⟨lastMsg, ?_, ?_⟩
  · rw [length_append, length_append, bucketHeader_length, actionsLong,
      propsLong, lastRead, middleRead]
    rfl
  · constructor
    · exact fun same => ⟨actionsIff.mp same.actions, propsIff.mp same.props⟩
    · exact fun kept => ⟨rfl, actionsIff.mpr kept.1, propsIff.mpr kept.2⟩

theorem bucketBytes_pos (spelled : bucket.Spells bytes) : 0 < bytes.length := by
  obtain ⟨_, _, _, _, _, rfl⟩ := spelled
  rw [length_append, length_append, length_append, length_append, length_bytes16]
  omega

end Bucket

/-! ## The whole body -/

section Body

variable {host : ByteOrder} {heap : Heap} {record : List WireBucket}

/-- What the loop made of well-formed buckets.  If it ended with `OF_SUCCESS`, there was
memory for each of them, and its list is that of the wire if and only if the decoder keeps
what is in them; it returns `OF_FAILURE` on one of them. -/
theorem bucketLoop_wire {pieces : List (List UInt8)}
    (spelled : List.Forall₂ WireBucket.Spells record pieces) {fuel : Nat} {msgLength : UInt32}
    {cursor : Cursor} {list : List OfiBucket} (msg : cursor.msg = pieces.flatten)
    (counts : Counts msgLength pieces.flatten.length cursor)
    {result : List OfiBucket × Except Stop Unit}
    (is : bucketLoop host heap fuel msgLength cursor list = result) :
    (result.2 = .ok () →
      (∀ number < record.length, heap.bucket (list.length + number) = true) ∧
      ∃ made, result.1 = list ++ made ∧
        (List.Forall₂ BucketRepresents record made ↔
          ∀ bucket ∈ record, BucketKept host bucket)) ∧
    ((∃ leaked, result.2 = .error (.failure leaked)) →
      result.1.length < list.length + record.length) := by
  subst is
  induction spelled generalizing fuel msgLength cursor list with
  | nil =>
    cases fuel with
    | zero => exact ⟨nofun, nofun⟩
    | succ fuel =>
    rw [bucketLoop_done fuel fun positive => counts.pos_iff.mp positive rfl]
    refine ⟨fun _ => ⟨nofun, [], (append_nil _).symm, ?_⟩, nofun⟩
    exact iff_of_true List.Forall₂.nil nofun
  | @cons bucket bytes record pieces first spelled ih =>
  cases fuel with
  | zero => exact ⟨nofun, nofun⟩
  | succ fuel =>
  have long := bucketBytes_pos first
  rw [flatten_cons] at msg counts
  have whole : ((bytes ++ pieces.flatten).length : Int) =
      bytes.length + pieces.flatten.length := by
    rw [length_append, Int.natCast_add]
  have positive : 0 < msgLength := counts.pos_iff.mpr (by omega)
  cases answer : ofGroupFrameBucketResponse host heap fuel list.length cursor with
  | error stop =>
    rw [bucketLoop_stop fuel positive answer]
    exact ⟨nofun, fun _ => Nat.lt_add_of_pos_right (Nat.succ_pos _)⟩
  | ok built =>
  rcases built with ⟨decoded, behind⟩
  obtain ⟨behindMsg, read, same⟩ := bucket_wire first msg answer
  rcases bucketResponse_inv answer with ⟨_, failed⟩ | ⟨memory, _, walked⟩
  · cases failed
  obtain ⟨middle, walk⟩ := walked decoded behind rfl
  have counts' := counts.pass walk
  have left : ((bytes ++ pieces.flatten).length : Int) - behind.read =
      pieces.flatten.length := by omega
  rw [left] at counts'
  obtain ⟨success, failure⟩ :=
    @ih fuel _ _ (list ++ [decoded]) behindMsg counts'
  have counted : (list ++ [decoded]).length = list.length + 1 := by
    rw [length_append, length_singleton]
  rw [counted] at success failure
  rw [bucketLoop_bucket fuel positive answer, length_cons]
  constructor
  · intro ended
    obtain ⟨memories, made, all, madeIff⟩ := success ended
    refine ⟨?_, decoded :: made, ?_, ?_⟩
    · intro number small
      cases number with
      | zero => exact memory
      | succ number =>
        have next := memories number (by omega)
        rwa [Nat.add_assoc, Nat.add_comm 1] at next
    · rw [all, append_assoc, singleton_append]
    · rw [forall₂_cons, same, madeIff, forall_mem_cons]
  · intro ended
    have few := failure ended
    omega

/-- The loops end, they read inside the given length, and no block is lost: what the
caller sees is `OF_SUCCESS`, or `OF_FAILURE` where there is no memory for a bucket, and a
list of buckets that were each decoded to their end.  With `OF_SUCCESS`, a well-formed body
has become the list of its buckets. -/
def GroupFrames (host : ByteOrder) (heap : Heap) (body : RecordBody) : Prop :=
  ∃ fuel list ended, ofGroupFrameResponse host heap fuel body = (list, ended) ∧
    (∀ bucket ∈ list, Complete host heap bucket) ∧
    ((ended = .ok () ∧ ∀ record, SpellsAll WireBucket.Spells record body.bytes →
        List.Forall₂ BucketRepresents record list) ∨
      (ended = .error (.failure 0) ∧ heap.bucket list.length = false))

/-- The lengths in the body lead from entry to entry, each inside the body as far as it is
read, with memory and a length, and the buckets use up the body or there is no memory for
the next one; and if the body is well formed and there is memory for its buckets, the
decoder keeps what is in them. -/
structure DecodesWell (host : ByteOrder) (heap : Heap) (body : RecordBody) : Prop where
  delimited : Delimited host heap 0 body.bytes.length ⟨body.bytes, 0, 0⟩
  kept : ∀ record, SpellsAll WireBucket.Spells record body.bytes →
    (∀ number < record.length, heap.bucket number = true) →
    ∀ bucket ∈ record, BucketKept host bucket

theorem counts_start (body : RecordBody) :
    Counts (UInt32.ofNat body.bytes.length) body.bytes.length ⟨body.bytes, 0, 0⟩ := by
  have fits := body.fits
  constructor
  case value =>
    rw [UInt32.toNat_ofNat']
    omega
  case high => omega
  case low => omega
  case msg => exact .inr (by change (body.bytes.length : Int) ≤ _; omega)

theorem groupFrameResponse_wire {body : RecordBody}
    (spelled : SpellsAll WireBucket.Spells record body.bytes) {fuel : Nat} {list : List OfiBucket}
    {ended : Except Stop Unit} (is : ofGroupFrameResponse host heap fuel body = (list, ended)) :
    (ended = .ok () → (∀ number < record.length, heap.bucket number = true) ∧
      (List.Forall₂ BucketRepresents record list ↔
        ∀ bucket ∈ record, BucketKept host bucket)) ∧
    (ended = .error (.failure 0) → list.length < record.length) := by
  obtain ⟨pieces, spelled, bytes⟩ := spelled
  have counts := counts_start body
  have same : (body.bytes.length : Int) = pieces.flatten.length := by rw [bytes]
  rw [same] at counts
  obtain ⟨success, failure⟩ := bucketLoop_wire spelled bytes counts is
  constructor
  · intro ok
    obtain ⟨memory, made, all, madeIff⟩ := success ok
    dsimp only at all
    refine ⟨fun number small => ?_, all ▸ madeIff⟩
    have there := memory number small
    rwa [length_nil, Nat.zero_add] at there
  · intro failed
    have few := failure ⟨0, failed⟩
    rwa [length_nil, Nat.zero_add] at few

/-- The decoder does what it is for exactly on the bodies that decode well. -/
theorem groupFrame_iff_decodesWell (host : ByteOrder) (heap : Heap) (body : RecordBody) :
    GroupFrames host heap body ↔ DecodesWell host heap body := by
  constructor
  case mp =>
    rintro ⟨fuel, list, ended, is, _, ending⟩
    constructor
    case delimited =>
      have settled : Settled heap (ofGroupFrameResponse host heap fuel body) := by
        rw [is]
        rcases ending with ⟨success, _⟩ | ⟨failure, refused⟩
        · exact .inl success
        · exact .inr ⟨refused, failure⟩
      exact delimited_of_settled (counts_start body) settled
    case kept =>
      intro record spelled memory
      obtain ⟨success, failure⟩ := groupFrameResponse_wire spelled is
      rcases ending with ⟨ok, represented⟩ | ⟨failed, refused⟩
      · exact (success ok).2.mp (represented record spelled)
      · rw [memory list.length (failure failed)] at refused
        cases refused
  case mpr =>
    intro well
    obtain ⟨enough, settled⟩ := settled_of_delimited well.delimited [] rfl
      (UInt32.ofNat body.bytes.length) (counts_start body)
    have ending := settled enough (Nat.le_refl _)
    refine ⟨enough, _, _, rfl, ?_, ?_⟩
    · intro bucket inside
      rcases bucketLoop_complete inside with nothing | complete
      · cases nothing
      · exact complete
    rcases ending with ok | ⟨refused, failed⟩
    · refine .inl ⟨ok, fun record spelled => ?_⟩
      obtain ⟨memory, iff_⟩ := (groupFrameResponse_wire spelled rfl).1 ok
      exact iff_.mpr (well.kept record spelled memory)
    · exact .inr ⟨failed, refused⟩

end Body

/-- A body of one bucket without actions, which watches port 7. -/
def watchPortBody : RecordBody where
  bytes := [0, 16, 0, 0, 0, 0, 0, 1, 0, 1, 0, 8, 0, 0, 0, 7]
  fits := by decide

/-- The bucket in it. -/
def watchPortBucket : WireBucket := ⟨1, [], [.watchPort 7]⟩

theorem watchPortBody_spelled :
    SpellsAll WireBucket.Spells [watchPortBucket] watchPortBody.bytes := by
  refine ⟨[watchPortBody.bytes], .cons ⟨by decide, [], _, ⟨[], .nil, rfl⟩, ?_, rfl⟩ .nil, rfl⟩
  exact ⟨[[0, 1, 0, 8, 0, 0, 0, 7]], .cons rfl .nil, rfl⟩

/-- The port that the bucket watches becomes a group. -/
theorem watchPort_misread : ¬GroupFrames .littleEndian ⟨fun _ => true, fun _ => true⟩
    watchPortBody := by
  rintro ⟨fuel, list, ended, is, _, ⟨ok, represented⟩ | ⟨_, refused⟩⟩
  · have kept := ((groupFrameResponse_wire watchPortBody_spelled is).1 ok).2.mp
      (represented _ watchPortBody_spelled)
    have port : (7 : UInt32) = 0 :=
      (kept watchPortBucket (mem_singleton_self _)).2 _ (mem_singleton_self _)
    exact absurd port (by decide)
  · cases refused

example : (ofGroupFrameResponse .littleEndian ⟨fun _ => true, fun _ => true⟩ 3
    watchPortBody).1 = [⟨1, [], [{ watchGroup := 7 }]⟩] := by
  decide

end OpenFlowController.Messages
