/-
Module: L3extutils.FslxEncoding
Purpose: What a sequence of pushes of the Freescale extensions leaves in the message, and
  when it parses back to that sequence.
Source: l3extutils/of_l3ext_utils.c 46-814
Trusted boundary: none
-/
import OpenFlowController.L3extutils.FslxPush
import OpenFlowController.Messages.FlowBodyEncoding

namespace OpenFlowController.Encoder

open Include List Option Library Library.ByteMemory

/-! ## Members in memory -/

/-- The members lie one behind the other, from an offset on and within a size. -/
def StructFields.Within (size : Nat) : Nat → StructFields → Prop
  | from_, [] => from_ ≤ size
  | from_, field :: rest =>
    from_ ≤ field.1 ∧ StructFields.Within size (field.1 + field.2.length) rest

variable {size from_ : Nat}

theorem StructFields.Within.le {fields : StructFields} (within : fields.Within size from_) :
    from_ ≤ size := by
  induction fields generalizing from_ with
  | nil => exact within
  | cons field rest ih =>
  obtain ⟨first, behind⟩ := within
  have := ih behind
  omega

/-- The bytes have the members. -/
def HasFields (bytes : List UInt8) (fields : StructFields) : Prop :=
  ∀ field ∈ fields, fieldAt bytes field.1 field.2.length = field.2

variable {offset width : Nat}

theorem fieldAt_slice {memory : ByteMemory} {place : Int} (fits : offset + width ≤ size) :
    fieldAt (memory.slice place size) offset width = memory.slice (place + offset) width := by
  obtain ⟨rest, rfl⟩ := Nat.exists_eq_add_of_le fits
  rw [fieldAt, Nat.add_assoc, slice_add, drop_left' (length_slice _ _ _), slice_add,
    take_left' (length_slice _ _ _)]

theorem fieldAt_append {front back : List UInt8} (fits : offset + width ≤ front.length) :
    fieldAt (front ++ back) offset width = fieldAt front offset width := by
  have less : offset ≤ front.length := by omega
  rw [fieldAt, fieldAt, drop_append_of_le_length less, take_append_of_le_length]
  rw [length_drop]
  omega

theorem fields_stored {memory : ByteMemory} {place : Int} {size from_ : Nat}
    {fields : StructFields} (within : fields.Within size from_) :
    (∀ field ∈ fields, (memory.write (fields.stores place)).Holds (place + field.1) field.2) ∧
      Extends memory (memory.write (fields.stores place)) (place + from_) (place + size) := by
  induction fields generalizing memory from_ with
  | nil =>
    have less : from_ ≤ size := within
    constructor
    · nofun
    · exact (Extends.refl memory (place + from_)).mono le_rfl
  | cons field rest ih =>
  obtain ⟨first, behind⟩ := within
  have end_ := behind.le
  obtain ⟨held, grown⟩ := @ih (memory.put ⟨place + field.1, field.2⟩) _ behind
  have here := put_holds memory (place + field.1) field.2
  have one := put_extends memory (place + field.1) field.2
  constructor
  case left =>
    rw [forall_mem_cons]
    exact ⟨grown.holds here (by omega), held⟩
  case right =>
    exact (one.mono (by omega) le_rfl).trans grown

theorem StructFields.Within.member_le {fields : StructFields} (within : fields.Within size from_)
    {field : Nat × List UInt8} (member : field ∈ fields) : field.1 + field.2.length ≤ size := by
  induction fields generalizing from_ with
  | nil => exact absurd member not_mem_nil
  | cons first rest ih =>
  obtain ⟨_, behind⟩ := within
  rcases mem_cons.mp member with rfl | later
  · exact behind.le
  · exact ih behind later

theorem fields_sliced {memory : ByteMemory} {place : Int} {size : Nat}
    {fields : StructFields} (within : fields.Within size 0) :
    HasFields ((memory.write (fields.stores place)).slice place size) fields := by
  intro field member
  have held := (@fields_stored memory place _ _ _ within).1 field member
  have inside := within.member_le member
  rw [fieldAt_slice inside, held.slice_eq]

/-! ## What the calls ask for -/

/-- The action that a call asks for. -/
def FslxActionCall.action : FslxActionCall → FslxAction
  | .writeMetadataFromPkt matchFieldId mask => .writeMetadataFromPkt matchFieldId mask
  | .writeMetadata data => .writeMetadata data
  | .ipfragment mtuReg offset nBits pmtuVal =>
    if nonzero : pmtuVal ≠ 0 then .ipFragmentMtu pmtuVal nonzero
    else .ipFragmentMtuReg mtuReg offset nBits
  | .setInPhyPort inPhyPort => .setInPhyPort inPhyPort
  | .setMetadata metaData => .setMetadata metaData
  | .setTunnelId tunnelId => .setTunnelId tunnelId
  | .startFromTable tableId => .startTable tableId
  | .dropPacket => .dropPacket
  | .sendArpResponse mac => .arpResponse mac
  | .sendIcmpv4TimeExceedErrMsg errorCode => .icmpv4TimeExceed errorCode
  | .sendIcmpv4DestUnreachErrMsg errorCode nextHopMtu =>
    .icmpv4DestUnreachable errorCode (if errorCode = dfbitSet then some nextHopMtu else none)
  | .ipReassembly => .ipReasm

/-- The instruction that calls ask for. -/
def FslxInstructionCall.instruction : FslxInstructionCall → FslxInstruction
  | .applyActionsDuringAddMod actions =>
    .applyActionsOnCreate (actions.map FslxActionCall.action)
  | .applyActionsDuringDel actions =>
    .applyActionsOnDelete (actions.map FslxActionCall.action)
  | .waitToCompletePktOuts state => .waitToCompletePktOuts state
  | .writePriorityRegister regValue => .writePriorityRegister regValue
  | .writePriorityRegFromNextFlow => .writePriorityRegFromNextFlow
  | .writePriorityRegFromCurrentFlow => .writePriorityRegFromCurrentFlow
  | .reLookup prioRegType => .reLookup prioRegType
  | .reInjectTo tableId prioRegType => .reInjectTo tableId prioRegType
  | .writeGroupActions groupId => .writeGroup groupId
  | .applyGroupActions groupId => .applyGroup groupId

/-! ## One action -/

/-- The members behind the header of an action. -/
def FslxActionCall.operands (host : ByteOrder) : FslxActionCall → StructFields
  | .writeMetadataFromPkt matchFieldId mask => [(12, bytes32 matchFieldId), (16, bytes64 mask)]
  | .writeMetadata data => [(16, bytes64 data)]
  | .ipfragment mtuReg offset nBits pmtuVal =>
    if pmtuVal ≠ 0 then [(16, bytes32 pmtuVal)]
    else [(10, [offset]), (11, [nBits]), (12, bytes32 mtuReg), (16, bytes32 0)]
  | .setInPhyPort inPhyPort => [(12, bytes32 inPhyPort)]
  | .setMetadata metaData => [(16, bytes64 metaData)]
  | .setTunnelId tunnelId => [(16, bytes64 tunnelId)]
  | .startFromTable tableId => [(10, [tableId])]
  | .sendArpResponse mac => [(10, memcpy mac.1 6)]
  | .sendIcmpv4TimeExceedErrMsg errorCode => [(10, [errorCode])]
  | .sendIcmpv4DestUnreachErrMsg errorCode nextHopMtu =>
    (10, [errorCode]) ::
      if errorCode = dfbitSet then [(12, hostBytes host 2 nextHopMtu.toNat)] else []
  | .dropPacket | .ipReassembly => []

/-- The members of an action. -/
def FslxActionCall.fields (host : ByteOrder) (call : FslxActionCall) : StructFields :=
  fslxHeader (bytes16 (UInt16.ofNat call.action.size)) call.action.subtype ++ call.operands host

theorem FslxActionCall.routine_eq (host : ByteOrder) (call : FslxActionCall) :
    call.routine host =
      fslxPushAction call.action.size call.action.subtype (call.operands host) := by
  cases call with
  | ipfragment mtuReg offset nBits pmtuVal =>
    rw [FslxActionCall.routine, fslxActionIpfragment, FslxActionCall.action]
    by_cases nonzero : pmtuVal ≠ 0
    · rw [dif_pos nonzero]
      rfl
    · rw [dif_neg nonzero]
      rfl
  | _ => rfl

@[simp] theorem length_hostBytes (host : ByteOrder) (width value : Nat) :
    (hostBytes host width value).length = width := by
  cases host <;> simp [hostBytes]

theorem length_memcpy (mac : MacAddress) : (memcpy mac.1 6).length = 6 := by
  rw [memcpy, length_take, mac.2]
  rfl

variable {host : ByteOrder}

section

attribute [local simp] fslxHeader FslxAction.size FslxAction.subtype FslxActionCall.action
  FslxActionCall.operands StructFields.Within FslxActionCall.fields

theorem FslxActionCall.within (host : ByteOrder) (call : FslxActionCall) :
    (call.fields host).Within call.action.size 0 := by
  cases call with
  | ipfragment mtuReg offset nBits pmtuVal =>
    rw [FslxActionCall.fields, FslxActionCall.operands, FslxActionCall.action]
    by_cases nonzero : pmtuVal ≠ 0
    · rw [dif_pos nonzero, if_pos nonzero]
      simp
    · rw [dif_neg nonzero, if_neg nonzero]
      simp
  | sendIcmpv4DestUnreachErrMsg errorCode nextHopMtu =>
    rw [FslxActionCall.fields, FslxActionCall.operands]
    by_cases carried : errorCode = dfbitSet
    · rw [if_pos carried]
      simp
    · rw [if_neg carried]
      simp
  | sendArpResponse mac =>
    simp [length_memcpy]
  | _ =>
    simp

/-- The bytes of an action, with anything where its routine stores nothing. -/
structure ActionBlock (host : ByteOrder) (call : FslxActionCall) (bytes : List UInt8) :
    Prop where
  length : bytes.length = call.action.size
  has : HasFields bytes (call.fields host)

theorem struct_front {piece rest len : List UInt8} {subtype : UInt16}
    (long : 16 ≤ piece.length) (two : len.length = 2)
    (has : HasFields piece (fslxHeader len subtype)) :
    fslxStruct (piece ++ rest) =
      if 16 ≤ netNat len ∧ 8 ∣ netNat len ∧ netNat len ≤ (piece ++ rest).length then
        some ((piece ++ rest).take (netNat len))
      else none := by
  have kind : fieldAt (piece ++ rest) 0 2 = bytes16 Ofpat.experimenter := by
    rw [fieldAt_append (by omega)]
    exact has (0, bytes16 Ofpat.experimenter) (by simp)
  have length : fieldAt (piece ++ rest) 2 2 = len := by
    have field := has (2, len) (by simp)
    rw [two] at field
    rw [fieldAt_append (by omega), field]
  have vendor : fieldAt (piece ++ rest) 4 4 = bytes32 fslxVendorId := by
    rw [fieldAt_append (by omega)]
    exact has (4, bytes32 fslxVendorId) (by simp)
  rw [fslxStruct, kind, length, vendor, word16_bytes16, word32_bytes32]
  simp

/-- An action whose size is a multiple of eight is read back from its block. -/
theorem fslxActionOf_block {call : FslxActionCall} {piece : List UInt8}
    (block : ActionBlock host call piece) (aligned : 8 ∣ call.action.size) :
    fslxActionOf piece = some call.action := by
  have length := block.length
  have has := block.has
  have subtype : fieldAt piece 8 2 = bytes16 call.action.subtype :=
    has (8, bytes16 call.action.subtype) (by simp)
  rw [fslxActionOf, subtype, word16_bytes16, length]
  have operand : ∀ field ∈ call.operands host, fieldAt piece field.1 field.2.length = field.2 :=
    fun field member => has field (mem_append_right _ member)
  cases call with
  | sendIcmpv4DestUnreachErrMsg errorCode nextHopMtu =>
    have twenty : 8 ∣ 20 := aligned
    omega
  | writeMetadataFromPkt matchFieldId mask =>
    have field := operand (12, bytes32 matchFieldId) (by simp)
    have bits := operand (16, bytes64 mask) (by simp)
    simp only [length_bytes32, length_bytes64] at field bits
    simp [field, bits]
  | ipfragment mtuReg offset nBits pmtuVal =>
    by_cases nonzero : pmtuVal ≠ 0
    · have mtu := operand (16, bytes32 pmtuVal) (by simp [nonzero])
      simp only [length_bytes32] at mtu
      simp [nonzero, mtu, ipFragmentOf]
    have mtu := operand (16, bytes32 0) (by simp [nonzero])
    have register := operand (12, bytes32 mtuReg) (by simp [nonzero])
    have start := operand (10, [offset]) (by simp [nonzero])
    have bits := operand (11, [nBits]) (by simp [nonzero])
    simp only [length_bytes32, length_singleton] at mtu register start bits
    simp [nonzero, mtu, register, start, bits, ipFragmentOf, byteAt]
  | writeMetadata data =>
    have field := operand (16, bytes64 data) (by simp)
    simp only [length_bytes64] at field
    simp [field]
  | setMetadata data =>
    have field := operand (16, bytes64 data) (by simp)
    simp only [length_bytes64] at field
    simp [field]
  | setTunnelId data =>
    have field := operand (16, bytes64 data) (by simp)
    simp only [length_bytes64] at field
    simp [field]
  | setInPhyPort port =>
    have field := operand (12, bytes32 port) (by simp)
    simp only [length_bytes32] at field
    simp [field]
  | startFromTable tableId =>
    have field := operand (10, [tableId]) (by simp)
    simp only [length_singleton] at field
    simp [field, byteAt]
  | sendIcmpv4TimeExceedErrMsg errorCode =>
    have field := operand (10, [errorCode]) (by simp)
    simp only [length_singleton] at field
    simp [field, byteAt]
  | sendArpResponse mac =>
    have field := operand (10, memcpy mac.1 6) (by simp)
    have whole : memcpy mac.1 6 = mac.1 := take_of_length_le mac.2.le
    rw [length_memcpy, whole] at field
    simp [field, mac.2]
  | dropPacket => rfl
  | ipReassembly => rfl

end

variable {piece rest : List UInt8}

theorem action_read_iff {call : FslxActionCall} (block : ActionBlock host call piece) :
    parseFslxAction (piece ++ rest) = some (call.action, rest) ↔ 8 ∣ call.action.size := by
  have length := block.length
  have bounds := call.action.size_bounds
  have small : call.action.size < 2 ^ 16 := by omega
  have front := @struct_front piece rest (bytes16 (UInt16.ofNat call.action.size))
    call.action.subtype (by omega) (length_bytes16 _)
    fun field member => block.has field (mem_append_left _ member)
  have fits : call.action.size ≤ (piece ++ rest).length := by
    rw [length_append]
    omega
  rw [netNat_bytes16 small] at front
  rw [parseFslxAction, parseFslx, front]
  by_cases aligned : 8 ∣ call.action.size
  · rw [if_pos ⟨bounds.1, aligned, fits⟩, take_left' length]
    simp only [fslxActionOf_block block aligned, map_some,
      drop_left' (rfl : piece.length = _), aligned]
  · rw [if_neg fun all => aligned all.2.1]
    simp [aligned]

/-! ## One instruction -/

/-- The actions of an instruction. -/
def FslxInstructionCall.actions : FslxInstructionCall → List FslxActionCall
  | .applyActionsDuringAddMod actions | .applyActionsDuringDel actions => actions
  | _ => []

/-- The length that is stored with an instruction. -/
def FslxInstructionCall.len (host : ByteOrder) : FslxInstructionCall → List UInt8
  | .applyActionsDuringAddMod _ | .writeGroupActions _ => hostBytes host 2 16
  | _ => bytes16 16

/-- The members behind the header of an instruction. -/
def FslxInstructionCall.operands : FslxInstructionCall → StructFields
  | .waitToCompletePktOuts value | .writePriorityRegister value => [(10, bytes16 value)]
  | .reLookup prioRegType => [(10, [prioRegType])]
  | .reInjectTo tableId prioRegType => [(10, [tableId]), (11, [prioRegType])]
  | .writeGroupActions groupId | .applyGroupActions groupId => [(12, bytes32 groupId)]
  | .applyActionsDuringAddMod _ | .applyActionsDuringDel _ | .writePriorityRegFromNextFlow
  | .writePriorityRegFromCurrentFlow => []

/-- The members of an instruction. -/
def FslxInstructionCall.fields (host : ByteOrder) (call : FslxInstructionCall) :
    StructFields :=
  fslxHeader (call.len host) call.instruction.subtype ++ call.operands

theorem FslxInstructionCall.length_len (host : ByteOrder) (call : FslxInstructionCall) :
    (call.len host).length = 2 := by
  cases call <;> simp [FslxInstructionCall.len]

theorem FslxInstructionCall.within (host : ByteOrder) (call : FslxInstructionCall) :
    (call.fields host).Within 16 0 := by
  cases call <;>
    simp [FslxInstructionCall.fields, FslxInstructionCall.operands, fslxHeader,
      StructFields.Within, FslxInstructionCall.len]

theorem FslxInstructionCall.size_eq (call : FslxInstructionCall) :
    call.instruction.size =
      16 + fslxActionsSize (call.actions.map FslxActionCall.action) := by
  cases call <;> rfl

/-- The bytes of an instruction: its structure, and its actions behind it. -/
structure InstructionBlock (host : ByteOrder) (call : FslxInstructionCall)
    (bytes : List UInt8) : Prop where
  length : bytes.length = call.instruction.size
  has : HasFields bytes (call.fields host)
  actions : SpellsAll (ActionBlock host) call.actions (bytes.drop 16)

theorem actions_read_iff {calls : List FslxActionCall} {bytes : List UInt8}
    (spelled : SpellsAll (ActionBlock host) calls bytes) :
    parseFslxActions bytes = some (calls.map FslxActionCall.action) ↔
      ∀ call ∈ calls, 8 ∣ call.action.size := by
  apply parseAll_iff parseFslxAction_consumes _ spelled
  intro call piece rest block
  have bounds := call.action.size_bounds
  exact ⟨block.length, by omega, action_read_iff block⟩

section

attribute [local simp] FslxInstructionCall.actions FslxInstructionCall.operands
  FslxInstructionCall.instruction FslxInstruction.subtype FslxInstruction.size

/-- An instruction is read back when the sizes of its actions are multiples of eight. -/
theorem fslxInstructionOf_iff {call : FslxInstructionCall} {piece : List UInt8}
    (block : InstructionBlock host call piece) :
    fslxInstructionOf piece = some call.instruction ↔
      ∀ action ∈ call.actions, 8 ∣ action.action.size := by
  have length := block.length
  have read := actions_read_iff block.actions
  have has := block.has
  have subtype : fieldAt piece 8 2 = bytes16 call.instruction.subtype :=
    has (8, bytes16 call.instruction.subtype) (by simp [FslxInstructionCall.fields, fslxHeader])
  have operand : ∀ field ∈ call.operands, fieldAt piece field.1 field.2.length = field.2 :=
    fun field member => has field (mem_append_right _ member)
  rw [← read, fslxInstructionOf, subtype, word16_bytes16]
  cases call with
  | applyActionsDuringAddMod actions =>
    simp
  | applyActionsDuringDel actions =>
    simp
  | waitToCompletePktOuts value =>
    have field := operand (10, bytes16 value) (by simp)
    have none_ := read.mpr (by simp)
    simp only [length_bytes16] at field
    simp [length, field, none_]
  | writePriorityRegister value =>
    have field := operand (10, bytes16 value) (by simp)
    have none_ := read.mpr (by simp)
    simp only [length_bytes16] at field
    simp [length, field, none_]
  | reLookup value =>
    have field := operand (10, [value]) (by simp)
    have none_ := read.mpr (by simp)
    simp only [length_singleton] at field
    simp [length, field, none_, byteAt]
  | reInjectTo tableId prioRegType =>
    have table := operand (10, [tableId]) (by simp)
    have register := operand (11, [prioRegType]) (by simp)
    have none_ := read.mpr (by simp)
    simp only [length_singleton] at table register
    simp [length, table, register, none_, byteAt]
  | writeGroupActions groupId =>
    have field := operand (12, bytes32 groupId) (by simp)
    have none_ := read.mpr (by simp)
    simp only [length_bytes32] at field
    simp [length, field, none_]
  | applyGroupActions groupId =>
    have field := operand (12, bytes32 groupId) (by simp)
    have none_ := read.mpr (by simp)
    simp only [length_bytes32] at field
    simp [length, field, none_]
  | writePriorityRegFromNextFlow =>
    have none_ := read.mpr (by simp)
    simp [length, none_]
  | writePriorityRegFromCurrentFlow =>
    have none_ := read.mpr (by simp)
    simp [length, none_]

end

theorem netNat_len (host : ByteOrder) (call : FslxInstructionCall) :
    netNat (call.len host) = 16 ∨ netNat (call.len host) = 4096 := by
  cases call <;> cases host <;> first | exact .inl rfl | exact .inr rfl

/-- It is read back from the front when its length in the message covers it, too. -/
theorem instruction_read_iff {call : FslxInstructionCall} (block : InstructionBlock host call piece) :
    parseFslxInstruction (piece ++ rest) = some (call.instruction, rest) ↔
      netNat (call.len host) = call.instruction.size ∧
        ∀ action ∈ call.actions, 8 ∣ action.action.size := by
  have length := block.length
  have size := call.size_eq
  have front := @struct_front piece rest (call.len host) call.instruction.subtype (by omega)
    (call.length_len host) fun field member => block.has field (mem_append_left _ member)
  rw [← fslxInstructionOf_iff block, parseFslxInstruction, parseFslx]
  constructor
  case mp =>
    intro parsed
    generalize found : fslxStruct (piece ++ rest) = result at parsed
    cases result with
    | none => cases parsed
    | some bytes =>
      obtain ⟨element, read, same⟩ := map_eq_some_iff.mp parsed
      have is : element = call.instruction := congrArg Prod.fst same
      rw [is] at read
      obtain ⟨_, whole, long, _, _⟩ := fslxStruct_eq found
      have sized := fslxInstructionOf_size long read
      rw [sized, ← length, take_left' rfl] at whole
      rw [found] at front
      split at front
      case isFalse => cases front
      case isTrue fits =>
        have counted := congrArg List.length (some.inj front)
        rw [length_take] at counted
        rw [whole] at read
        exact ⟨by omega, read⟩
  case mpr =>
    rintro ⟨covers, read⟩
    have fits : netNat (call.len host) ≤ (piece ++ rest).length := by
      rw [length_append]
      omega
    have good : 16 ≤ netNat (call.len host) ∧ 8 ∣ netNat (call.len host) := by
      rcases netNat_len host call with sixteen | many
      · rw [sixteen]
        decide
      · rw [many]
        decide
    rw [if_pos ⟨good.1, good.2, fits⟩, covers, take_left' length] at front
    rw [front]
    simp only [read, map_some, drop_left' (rfl : piece.length = _)]

/-! ## What the pushes write -/

section Written

variable {host : ByteOrder} {pushes : Pushes}

/-- What pushing an action adds. -/
structure FslxActionPushed (host : ByteOrder) (pushes pushes' : Pushes)
    (call : FslxActionCall) : Prop where
  desc : pushes'.1.desc =
    { pushes.1.desc with length3 := pushes.1.desc.length3 + call.action.size }
  succeeded : pushes'.2 = pushes.2
  block : ActionBlock host call
    (pushes'.1.memory.slice (pushes.1.desc.ptr3 + pushes.1.desc.length3) call.action.size)
  grown : Extends pushes.1.memory pushes'.1.memory (pushes.1.desc.ptr3 + pushes.1.desc.length3)
    (pushes.1.desc.ptr3 + pushes.1.desc.length3 + call.action.size)

/-- The third cursor has room for actions of a size. -/
def FslxActionRoom (pushes : Pushes) (size : Nat) : Prop :=
  pushes.1.desc.ptr3 + pushes.1.desc.length3 + size ≤ pushes.1.desc.bufferLen ∧
    pushes.1.desc.length3 + size < 2 ^ 16

/-- With room, an action is pushed. -/
theorem action_pushed_fslx {call : FslxActionCall} (room : FslxActionRoom pushes call.action.size) :
    FslxActionPushed host pushes (call.push host pushes) call := by
  obtain ⟨fits, small⟩ := room
  have found : ¬ pushes.1.desc.noRoom (pushes.1.desc.ptr3 + pushes.1.desc.length3)
      call.action.size := not_lt.mpr fits
  have within := call.within host
  have outcome : call.routine host pushes.1.desc = {
      status := some .actionPushSuccess
      desc := { pushes.1.desc with length3 := pushes.1.desc.length3 + call.action.size }
      stores := (call.fields host).stores
        (pushes.1.desc.ptr3 + pushes.1.desc.length3) } := by
    rw [FslxActionCall.routine_eq, fslxPushAction, if_neg found, u16_of_lt small]
    rfl
  have stored := (@fields_stored pushes.1.memory
    (pushes.1.desc.ptr3 + pushes.1.desc.length3) _ _ _ within).2
  rw [Nat.cast_zero, add_zero] at stored
  rw [FslxActionCall.push, Pushes.call, outcome]
  constructor
  case desc => rfl
  case succeeded => simp
  case block => exact ⟨length_slice _ _ _, fields_sliced within⟩
  case grown => exact stored

/-- What pushing actions one after the other adds. -/
structure FslxActionsPushed (host : ByteOrder) (pushes pushes' : Pushes)
    (calls : List FslxActionCall) (size : Nat) : Prop where
  desc : pushes'.1.desc = { pushes.1.desc with length3 := pushes.1.desc.length3 + size }
  succeeded : pushes'.2 = pushes.2
  blocks : SpellsAll (ActionBlock host) calls
    (pushes'.1.memory.slice (pushes.1.desc.ptr3 + pushes.1.desc.length3) size)
  grown : Extends pushes.1.memory pushes'.1.memory (pushes.1.desc.ptr3 + pushes.1.desc.length3)
    (pushes.1.desc.ptr3 + pushes.1.desc.length3 + size)

/-- With room, all actions are pushed. -/
theorem actions_pushed_fslx {calls : List FslxActionCall}
    (room : FslxActionRoom pushes (fslxActionsSize (calls.map FslxActionCall.action))) :
    FslxActionsPushed host pushes (calls.foldl (FslxActionCall.push host) pushes) calls
      (fslxActionsSize (calls.map FslxActionCall.action)) := by
  induction calls generalizing pushes with
  | nil =>
    constructor
    case desc => rfl
    case succeeded => rfl
    case blocks => exact SpellsAll.nil
    case grown => simpa [fslxActionsSize] using Extends.refl pushes.1.memory _
  | cons call calls ih =>
  have sizes : fslxActionsSize ((call :: calls).map FslxActionCall.action) =
      call.action.size + fslxActionsSize (calls.map FslxActionCall.action) := by
    simp [fslxActionsSize]
  rw [sizes] at room ⊢
  obtain ⟨fits, small⟩ := room
  have one := @action_pushed_fslx host pushes call ⟨by omega, by omega⟩
  have place : (call.push host pushes).1.desc.ptr3 +
      ((call.push host pushes).1.desc.length3 : Int) =
        pushes.1.desc.ptr3 + pushes.1.desc.length3 + call.action.size := by
    rw [one.desc]
    push_cast
    omega
  have others := @ih (call.push host pushes) (by
    constructor
    · rw [place, one.desc]
      change _ ≤ (pushes.1.desc.bufferLen : Int)
      omega
    · rw [one.desc]
      change pushes.1.desc.length3 + call.action.size + _ < _
      omega)
  have blocks := others.blocks
  have grown := others.grown
  rw [place] at blocks grown
  rw [foldl_cons]
  constructor
  case desc => rw [others.desc, one.desc, ← Nat.add_assoc]
  case succeeded => rw [others.succeeded, one.succeeded]
  case blocks =>
    rw [slice_add]
    apply SpellsAll.cons _ blocks
    rw [(grown.same le_rfl).slice_eq]
    exact one.block
  case grown =>
    rw [Nat.cast_add, ← add_assoc]
    exact one.grown.trans grown

/-- The message can take instructions of a size: its data end where the next instruction
goes, and the buffer reaches behind them. -/
structure FslxReady (state : EncoderState) (size : Nat) : Prop where
  counted : (state.desc.dataLen : Int) = state.next
  fits : state.next + size ≤ state.desc.bufferLen
  bufferLen_lt : state.desc.bufferLen < 2 ^ 16

/-- What the calls for an instruction add. -/
structure FslxInstructionWritten (host : ByteOrder) (pushes pushes' : Pushes)
    (call : FslxInstructionCall) : Prop where
  bufferLen : pushes'.1.desc.bufferLen = pushes.1.desc.bufferLen
  dataLen : pushes'.1.desc.dataLen = pushes.1.desc.dataLen + call.instruction.size
  next : pushes'.1.next = pushes.1.next + call.instruction.size
  succeeded : pushes'.2 = pushes.2
  block : InstructionBlock host call (pushes'.1.memory.slice pushes.1.next call.instruction.size)
  grown : Extends pushes.1.memory pushes'.1.memory pushes.1.next
    (pushes.1.next + call.instruction.size)

/-- Room for one instruction, in terms of the cursor and the counters. -/
structure FslxRoom (state : EncoderState) (size : Nat) : Prop where
  fits : state.next + size ≤ state.desc.bufferLen
  small : state.desc.dataLen + size < 2 ^ 16

theorem FslxRoom.found {size less : Nat} (room : FslxRoom pushes.1 size) (fewer : less ≤ size) :
    ¬ pushes.1.desc.noRoom (pushes.1.desc.ptr2 + pushes.1.desc.length2) less := by
  have fits := room.fits
  rw [EncoderState.next] at fits
  apply not_lt.mpr
  omega

/-- An instruction without actions is written by its routine alone. -/
theorem plain_written {call : FslxInstructionCall} {desc' : MsgDescriptor}
    (none_ : call.actions = [])
    (outcome : call.routine host pushes.1.desc = {
      status := some .instructionPushSuccess
      desc := desc'
      stores := (call.fields host).stores pushes.1.next })
    (bufferLen : desc'.bufferLen = pushes.1.desc.bufferLen)
    (dataLen : desc'.dataLen = pushes.1.desc.dataLen + 16)
    (next : desc'.ptr2 + desc'.length2 = pushes.1.next + 16) :
    FslxInstructionWritten host pushes
      (pushes.call .instructionPushSuccess (call.routine host)) call := by
  have size : call.instruction.size = 16 := by
    rw [call.size_eq, none_]
    rfl
  have within := call.within host
  have stored := (@fields_stored pushes.1.memory pushes.1.next _ _ _ within).2
  rw [Nat.cast_zero, add_zero] at stored
  rw [Pushes.call, outcome]
  constructor
  case bufferLen => exact bufferLen
  case dataLen =>
    rw [size]
    exact dataLen
  case next =>
    rw [size]
    exact next
  case succeeded => simp
  case block =>
    rw [size]
    constructor
    case length => rw [length_slice, size]
    case has => exact fields_sliced within
    case actions =>
      rw [none_, drop_eq_nil_of_le (length_slice _ _ _).le]
      exact SpellsAll.nil
  case grown =>
    rw [size]
    exact stored

/-- An instruction with actions is written by its start, its actions and its end. -/
theorem actions_written {call : FslxInstructionCall} {len : List UInt8}
    (routine : call.routine host = fslxStartPushingApplyActions len call.instruction.subtype)
    (fields : call.fields host = fslxHeader len call.instruction.subtype)
    (room : FslxRoom pushes.1 call.instruction.size) {end_ : MsgDescriptor → Outcome}
    (nothing : ∀ desc, end_ desc = { status := some .instructionPushSuccess, desc := desc }) :
    FslxInstructionWritten host pushes
      ((pushFslxActions host call.actions
        (pushes.call .instructionPushSuccess (call.routine host))).call
          .instructionPushSuccess end_) call := by
  have size := call.size_eq
  have fits := room.fits
  have small := room.small
  have found := @FslxRoom.found pushes call.instruction.size 16 room (by omega)
  have within := call.within host
  have stored := @fields_stored pushes.1.memory pushes.1.next _ _ _ within
  rw [Nat.cast_zero, add_zero] at stored
  have structure_ := @fields_sliced pushes.1.memory pushes.1.next _ _ within
  have outcome : call.routine host pushes.1.desc = {
      status := some .instructionPushSuccess
      desc := { pushes.1.desc with
        ptr2 := pushes.1.next, length2 := 16, length3 := 0, ptr3 := pushes.1.next + 16 }
      stores := (call.fields host).stores pushes.1.next } := by
    rw [routine, fslxStartPushingApplyActions, if_neg found, fields]
    rfl
  generalize begun : pushes.call .instructionPushSuccess (call.routine host) = begin_
  have beginDesc : begin_.1.desc = { pushes.1.desc with
      ptr2 := pushes.1.next, length2 := 16, length3 := 0, ptr3 := pushes.1.next + 16 } := by
    rw [← begun, Pushes.call, outcome]
    rfl
  have beginMemory : begin_.1.memory =
      pushes.1.memory.write ((call.fields host).stores pushes.1.next) := by
    rw [← begun, Pushes.call, outcome]
    rfl
  have beginFlag : begin_.2 = pushes.2 := by
    rw [← begun, Pushes.call, outcome]
    simp
  rw [← beginMemory] at stored structure_
  have started : begin_.1.after (ofuStartPushingActions begin_.1.desc) = begin_.1 := by
    have apart : pushes.1.next ≠ pushes.1.next + 16 := by omega
    rw [ofuStartPushingActions, EncoderState.after, beginDesc]
    simp only [apart, if_false, write_nil]
    exact congrArg (EncoderState.mk · begin_.1.memory) beginDesc.symm
  have place : begin_.1.desc.ptr3 + (begin_.1.desc.length3 : Int) = pushes.1.next + 16 := by
    rw [beginDesc]
    exact add_zero _
  have pushed := @actions_pushed_fslx host begin_ call.actions (by
    constructor
    · rw [place, beginDesc]
      change _ ≤ (pushes.1.desc.bufferLen : Int)
      omega
    · rw [beginDesc]
      change 0 + _ < _
      omega)
  have pushedDesc := pushed.desc
  have blocks := pushed.blocks
  have grown := pushed.grown
  have flag := pushed.succeeded
  rw [place] at blocks grown
  rw [beginDesc] at pushedDesc
  rw [beginFlag] at flag
  rw [pushFslxActions]
  simp only [started]
  generalize call.actions.foldl (FslxActionCall.push host) begin_ = filled
    at pushedDesc blocks grown flag
  have length2 : u16 (filled.1.desc.length2 + filled.1.desc.length3) =
      call.instruction.size := by
    rw [pushedDesc]
    rw [Nat.zero_add, ← size, u16_of_lt (by omega)]
  have dataLen : u16 (filled.1.desc.dataLen + call.instruction.size) =
      pushes.1.desc.dataLen + call.instruction.size := by
    rw [pushedDesc, u16_of_lt small]
  rw [ofuEndPushingActions]
  simp only [length2, dataLen]
  rw [Pushes.call, nothing]
  constructor
  case bufferLen =>
    change filled.1.desc.bufferLen = _
    rw [pushedDesc]
  case dataLen => rfl
  case next =>
    change filled.1.desc.ptr2 + (call.instruction.size : Int) = _
    rw [pushedDesc]
  case succeeded => simp [flag]
  case block =>
    change InstructionBlock host call (filled.1.memory.slice pushes.1.next call.instruction.size)
    rw [size, slice_add, (grown.same le_rfl).slice_eq]
    constructor
    case length => rw [length_append, length_slice, length_slice, size]
    case has =>
      intro field member
      have inside : field.1 + field.2.length ≤ 16 := within.member_le member
      rw [fieldAt_append (by rw [length_slice]; exact inside)]
      exact structure_ field member
    case actions =>
      exact blocks
  case grown =>
    have reached : pushes.1.next + (call.instruction.size : Int) =
        pushes.1.next + 16 + (fslxActionsSize (call.actions.map FslxActionCall.action) : Nat) := by
      omega
    rw [reached]
    exact stored.2.trans grown

theorem fslxInstruction_pushed {call : FslxInstructionCall} (none_ : call.actions = [])
    (routine : call.routine host = fslxPushInstruction call.instruction.subtype call.operands)
    (len : call.len host = bytes16 16) (room : FslxRoom pushes.1 call.instruction.size) :
    FslxInstructionWritten host pushes
      (pushes.call .instructionPushSuccess (call.routine host)) call := by
  have size := call.size_eq
  have small := room.small
  have found := @FslxRoom.found pushes call.instruction.size 16 room (by omega)
  have counted : u16 (pushes.1.desc.dataLen + 16) = pushes.1.desc.dataLen + 16 :=
    u16_of_lt (by omega)
  apply @plain_written host pushes call { pushes.1.desc with
    ptr2 := pushes.1.next, length2 := 16, dataLen := pushes.1.desc.dataLen + 16 } none_
  case outcome =>
    rw [routine, fslxPushInstruction, pushInstruction, if_neg found, counted,
      FslxInstructionCall.fields, len]
    rfl
  case bufferLen => rfl
  case dataLen => rfl
  case next => rfl

theorem fslxGroup_pushed {call : FslxInstructionCall} {groupId : UInt32}
    (none_ : call.actions = []) (operands : call.operands = [(12, bytes32 groupId)])
    (routine : call.routine host = fslxPushGroup (call.len host) call.instruction.subtype groupId)
    (room : FslxRoom pushes.1 call.instruction.size) :
    FslxInstructionWritten host pushes
      (pushes.call .instructionPushSuccess (call.routine host)) call := by
  have size := call.size_eq
  have small := room.small
  have found := @FslxRoom.found pushes call.instruction.size 16 room (by omega)
  have counted : u16 (pushes.1.desc.dataLen + 16) = pushes.1.desc.dataLen + 16 :=
    u16_of_lt (by omega)
  apply @plain_written host pushes call { pushes.1.desc with
    ptr2 := pushes.1.next, length2 := 16, length3 := 0,
    dataLen := pushes.1.desc.dataLen + 16 } none_
  case outcome =>
    rw [routine, fslxPushGroup, if_neg found, counted, FslxInstructionCall.fields, operands]
    rfl
  case bufferLen => rfl
  case dataLen => rfl
  case next => rfl

/-- With room, an instruction is written. -/
theorem fslx_instruction_written {call : FslxInstructionCall}
    (room : FslxRoom pushes.1 call.instruction.size) :
    FslxInstructionWritten host pushes (encodeFslxInstruction host pushes call) call := by
  cases call with
  | applyActionsDuringAddMod actions =>
    exact @actions_written host pushes (.applyActionsDuringAddMod actions) _ rfl rfl room _
      fun _ => rfl
  | applyActionsDuringDel actions =>
    exact @actions_written host pushes (.applyActionsDuringDel actions) _ rfl rfl room _
      fun _ => rfl
  | writeGroupActions groupId =>
    exact @fslxGroup_pushed host pushes (.writeGroupActions groupId) groupId rfl rfl rfl room
  | applyGroupActions groupId =>
    exact @fslxGroup_pushed host pushes (.applyGroupActions groupId) groupId rfl rfl rfl room
  | waitToCompletePktOuts state =>
    exact @fslxInstruction_pushed host pushes (.waitToCompletePktOuts state) rfl rfl rfl room
  | writePriorityRegister regValue =>
    exact @fslxInstruction_pushed host pushes (.writePriorityRegister regValue) rfl rfl rfl room
  | writePriorityRegFromNextFlow =>
    exact @fslxInstruction_pushed host pushes .writePriorityRegFromNextFlow rfl rfl rfl room
  | writePriorityRegFromCurrentFlow =>
    exact @fslxInstruction_pushed host pushes .writePriorityRegFromCurrentFlow rfl rfl rfl room
  | reLookup prioRegType =>
    exact @fslxInstruction_pushed host pushes (.reLookup prioRegType) rfl rfl rfl room
  | reInjectTo tableId prioRegType =>
    exact @fslxInstruction_pushed host pushes (.reInjectTo tableId prioRegType) rfl rfl rfl room

end Written

/-! ## Sequences of instructions -/

/-- The lengths of instructions together. -/
def fslxSize (calls : List FslxInstructionCall) : Nat :=
  (calls.map fun call => call.instruction.size).sum

/-- What the calls for instructions add. -/
structure FslxWritten (host : ByteOrder) (pushes pushes' : Pushes)
    (calls : List FslxInstructionCall) : Prop where
  dataLen : pushes'.1.desc.dataLen = pushes.1.desc.dataLen + fslxSize calls
  next : pushes'.1.next = pushes.1.next + fslxSize calls
  succeeded : pushes'.2 = pushes.2
  blocks : SpellsAll (InstructionBlock host) calls
    (pushes'.1.memory.slice pushes.1.next (fslxSize calls))
  grown : Extends pushes.1.memory pushes'.1.memory pushes.1.next (pushes.1.next + fslxSize calls)

/-- With room, all instructions are written. -/
theorem fslx_written {host : ByteOrder} {pushes : Pushes} {calls : List FslxInstructionCall}
    (room : FslxRoom pushes.1 (fslxSize calls)) :
    FslxWritten host pushes (calls.foldl (encodeFslxInstruction host) pushes) calls := by
  induction calls generalizing pushes with
  | nil =>
    constructor
    case dataLen => rfl
    case next => exact (add_zero _).symm
    case succeeded => rfl
    case blocks => exact SpellsAll.nil
    case grown => simpa [fslxSize] using Extends.refl pushes.1.memory _
  | cons call calls ih =>
  have sizes : fslxSize (call :: calls) = call.instruction.size + fslxSize calls := by
    simp [fslxSize]
  have fits := room.fits
  have small := room.small
  have one := @fslx_instruction_written host pushes call ⟨by omega, by omega⟩
  have others := @ih (encodeFslxInstruction host pushes call) (by
    constructor
    · rw [one.next, one.bufferLen]
      omega
    · rw [one.dataLen]
      omega)
  have blocks := others.blocks
  have grown := others.grown
  rw [one.next] at blocks grown
  rw [foldl_cons]
  constructor
  case dataLen => rw [others.dataLen, one.dataLen, sizes, Nat.add_assoc]
  case next =>
    rw [others.next, one.next, sizes]
    omega
  case succeeded => rw [others.succeeded, one.succeeded]
  case blocks =>
    rw [sizes, slice_add]
    apply SpellsAll.cons _ blocks
    rw [(grown.same le_rfl).slice_eq]
    exact one.block
  case grown =>
    rw [sizes, Nat.cast_add, ← add_assoc]
    exact one.grown.trans grown

/-! ## When the sequence is read back -/

/-- The pushes succeed, the next element goes behind the last one, where the data end, and
what was added to the data parses back to the sequence. -/
structure FslxRight (host : ByteOrder) (calls : List FslxInstructionCall)
    (state : EncoderState) : Prop where
  succeeded : (encodeFslx host calls state).2 = true
  next : (encodeFslx host calls state).1.next = state.next + fslxSize calls
  counted : ((encodeFslx host calls state).1.desc.dataLen : Int) =
    (encodeFslx host calls state).1.next
  parsed : parseFslxInstructions ((encodeFslx host calls state).1.memory.slice state.next
      ((encodeFslx host calls state).1.desc.dataLen - state.desc.dataLen)) =
    some (calls.map FslxInstructionCall.instruction)

/-- The actions take as many bytes as are missing from the length in the header of their
instruction, as the host stores it, and the size of each is a multiple of eight. -/
def ActionsCovered (host : ByteOrder) (actions : List FslxActionCall) : Prop :=
  match host with
  | .littleEndian =>
    fslxActionsSize (actions.map FslxActionCall.action) = 4080 ∧
      ∀ action ∈ actions, 8 ∣ action.action.size
  | .bigEndian => actions = []

/-- An instruction whose length in the message covers its own bytes: no actions under a
deletion, and under an addition none but on a little-endian host, where 16 stored in the order
of the host reads as 4096, 4080 bytes of them; and there no group is written. -/
def FslxKept (host : ByteOrder) : FslxInstructionCall → Prop
  | .applyActionsDuringAddMod actions => ActionsCovered host actions
  | .applyActionsDuringDel actions => actions = []
  | .writeGroupActions _ => host = .bigEndian
  | _ => True

theorem no_actions_iff (actions : List FslxActionCall) :
    16 = 16 + fslxActionsSize (actions.map FslxActionCall.action) ↔ actions = [] := by
  constructor
  · intro same
    cases actions with
    | nil => rfl
    | cons action rest =>
    have bounds := action.action.size_bounds
    simp only [fslxActionsSize, map_cons, sum_cons] at same
    omega
  · rintro rfl
    rfl

/-- An instruction is kept exactly when its stored length covers it. -/
theorem fslxKept_iff (host : ByteOrder) (call : FslxInstructionCall) :
    FslxKept host call ↔ netNat (call.len host) = call.instruction.size ∧
      ∀ action ∈ call.actions, 8 ∣ action.action.size := by
  have empty : ∀ actions : List FslxActionCall, actions = [] →
      ∀ action ∈ actions, 8 ∣ action.action.size := by
    rintro _ rfl
    nofun
  rw [call.size_eq]
  cases call with
  | applyActionsDuringAddMod actions =>
    cases host with
    | littleEndian =>
      have swapped : netNat (hostBytes .littleEndian 2 16) = 4096 := rfl
      change ActionsCovered .littleEndian actions ↔
        netNat (hostBytes .littleEndian 2 16) = 16 + fslxActionsSize _ ∧ _
      constructor
      · exact fun ⟨covers, aligned⟩ => ⟨by rw [FslxInstructionCall.actions]; omega, aligned⟩
      · rintro ⟨covers, aligned⟩
        rw [FslxInstructionCall.actions] at covers
        exact ⟨by omega, aligned⟩
    | bigEndian =>
    change actions = [] ↔ 16 = 16 + _ ∧ _
    rw [← no_actions_iff]
    exact ⟨fun same => ⟨same, empty _ ((no_actions_iff _).mp same)⟩, And.left⟩
  | applyActionsDuringDel actions =>
    change actions = [] ↔ 16 = 16 + _ ∧ _
    rw [← no_actions_iff]
    exact ⟨fun same => ⟨same, empty _ ((no_actions_iff _).mp same)⟩, And.left⟩
  | writeGroupActions groupId =>
    cases host with
    | littleEndian =>
      constructor
      · nofun
      · intro impossible
        have same : 4096 = 16 := impossible.1
        omega
    | bigEndian => exact ⟨fun _ => ⟨rfl, nofun⟩, fun _ => rfl⟩
  | _ => exact ⟨fun _ => ⟨rfl, nofun⟩, fun _ => trivial⟩

/-- With room, the calls leave a message that parses back to the sequence if and only if the
length stored with each instruction covers it; and a routine that finds no room stores
nothing, leaves the descriptor, and fails. -/
theorem fslx_parses_back_iff (host : ByteOrder) :
    (∀ (calls : List FslxInstructionCall) (state : EncoderState),
      FslxReady state (fslxSize calls) →
        (FslxRight host calls state ↔ ∀ call ∈ calls, FslxKept host call)) ∧
    (∀ (call : FslxActionCall) (desc : MsgDescriptor),
      desc.noRoom (desc.ptr3 + desc.length3) call.action.size →
        call.routine host desc = refuse desc) ∧
    (∀ (call : FslxInstructionCall) (desc : MsgDescriptor),
      desc.noRoom (desc.ptr2 + desc.length2) 16 → call.routine host desc = refuse desc) := by
  constructor
  case left =>
    intro calls state ready
    have counted := ready.counted
    have fits := ready.fits
    have short := ready.bufferLen_lt
    have small : state.desc.dataLen + fslxSize calls < 2 ^ 16 := by omega
    have written := @fslx_written host (state, true) calls ⟨fits, small⟩
    have dataLen : (encodeFslx host calls state).1.desc.dataLen =
        state.desc.dataLen + fslxSize calls := written.dataLen
    have next : (encodeFslx host calls state).1.next = state.next + fslxSize calls :=
      written.next
    have added : (encodeFslx host calls state).1.desc.dataLen - state.desc.dataLen =
        fslxSize calls := by omega
    have read := @parseAll_iff _ _ _ _ parseFslxInstruction_consumes _
      FslxInstructionCall.instruction (FslxKept host) calls _
      (by
        intro call piece rest block
        have size := call.size_eq
        refine ⟨block.length, by omega, ?_⟩
        rw [instruction_read_iff block, fslxKept_iff])
      written.blocks
    rw [← read]
    constructor
    case mp =>
      intro right
      have parsed := right.parsed
      rw [added] at parsed
      exact parsed
    case mpr =>
      intro parsed
      constructor
      case succeeded => exact written.succeeded
      case next => exact next
      case counted =>
        omega
      case parsed =>
        rw [added]
        exact parsed
  case right =>
    constructor
    case left =>
      intro call desc full
      rw [call.routine_eq host]
      exact if_pos full
    case right =>
      intro call desc full
      cases call <;> exact if_pos full

/-- A message of 64 bytes, 48 of them counted, with the cursor behind these. -/
def smallMessage : EncoderState where
  desc := { bufferLen := 64, dataLen := 48, utilsPtr := 48, ptr2 := 48 }
  memory := fun _ => 0

theorem smallMessage_ready : FslxReady smallMessage 16 where
  counted := rfl
  fits := le_rfl
  bufferLen_lt := by decide

/-- An instruction that re-injects, and one of 4096 bytes that drops the packet 255 times. -/
def manyDrops : List FslxInstructionCall :=
  [.reInjectTo 3 1, .applyActionsDuringAddMod (replicate 255 .dropPacket)]

theorem drops_size :
    fslxActionsSize ((replicate 255 FslxActionCall.dropPacket).map FslxActionCall.action) =
      4080 := by
  rw [fslxActionsSize, map_replicate, map_replicate, sum_replicate_nat]
  rfl

theorem manyDrops_size : fslxSize manyDrops = 4112 := by
  simp only [fslxSize, manyDrops, map_cons, map_nil, sum_cons, sum_nil,
    FslxInstructionCall.size_eq, FslxInstructionCall.actions, drops_size]
  decide

theorem manyDrops_kept : ∀ call ∈ manyDrops, FslxKept .littleEndian call := by
  intro call listed
  rcases mem_cons.mp listed with rfl | listed
  case inl => trivial
  rcases mem_singleton.mp listed with rfl
  refine ⟨drops_size, fun action dropped => ?_⟩
  rw [eq_of_mem_replicate dropped]
  decide

/-- A message with room for these. -/
def largeMessage : EncoderState where
  desc := { smallMessage.desc with bufferLen := 8192 }
  memory := fun _ => 0

theorem largeMessage_ready : FslxReady largeMessage (fslxSize manyDrops) where
  counted := rfl
  fits := by rw [manyDrops_size]; decide
  bufferLen_lt := by decide

theorem fslx_parses_back_drops :
    FslxRight .littleEndian manyDrops largeMessage ∧
      (FslxActionCall.dropPacket).routine .littleEndian { smallMessage.desc with ptr3 := 60 } =
        refuse { smallMessage.desc with ptr3 := 60 } ∧
      (FslxInstructionCall.applyGroupActions 7).routine .littleEndian
        { smallMessage.desc with ptr2 := 56 } =
          refuse { smallMessage.desc with ptr2 := 56 } := by
  refine ⟨?_, ?_, ?_⟩
  · exact ((fslx_parses_back_iff .littleEndian).1 _ _ largeMessage_ready).mpr manyDrops_kept
  · exact (fslx_parses_back_iff .littleEndian).2.1 .dropPacket _ (by decide)
  · exact (fslx_parses_back_iff .littleEndian).2.2 (.applyGroupActions 7) _ (by decide)

/-- A group that is written on a little-endian host: the length in the message is 4096, and
nothing is read back. -/
theorem writeGroup_lost :
    FslxReady smallMessage (fslxSize [.writeGroupActions 7]) ∧
      ¬ FslxRight .littleEndian [.writeGroupActions 7] smallMessage := by
  constructor
  · exact smallMessage_ready
  · intro right
    have parsed := right.parsed
    exact absurd parsed (by decide)

end OpenFlowController.Encoder
