/-
Module: Messages.FlowBodyEncoding
Purpose: What a match and a list of instructions leave in the message buffer when they are
  pushed in the order that the routines ask for.
Source: ofproto/src/messages/of_msg_utils.c 32-1505, 3096-3110
Trusted boundary: none
-/
import OpenFlowController.Messages.ActionEncoding

namespace OpenFlowController.Encoder

open Include List Library Library.ByteMemory

/-! ## The order of the calls -/

/-- The message after a field has been set. -/
def EncoderState.set (state : EncoderState) (entry : MatchField) : EncoderState :=
  state.after (ofSetMatchField entry.field entry.value entry.mask state.desc)

/-- The calls that write a match, and the length that the last of them returns. -/
def encodeMatch (host : ByteOrder) (fields : List MatchField) (state : EncoderState) :
    EncoderState × Nat :=
  let started := state.after (ofuStartSettingMatchFieldValues host state.desc)
  let filled := fields.foldl EncoderState.set started
  let ended := ofuEndSettingMatchFieldValues host filled.memory filled.desc
  (filled.after ended, ended.returned)

/-- The calls that write an instruction with actions: it is begun, the actions are pushed,
their end gives the length, and the length is filled in. -/
def encodeActions (begin_ : MsgDescriptor → Outcome) (actions : List WireAction)
    (state : EncoderState) : EncoderState :=
  let pushed := pushActions actions (state.after (begin_ state.desc))
  let ended := ofuEndPushingActions pushed.desc
  let counted := pushed.after ended
  counted.after (ofuEndPushingApplyActionInstruction ended.returned counted.desc)

/-- The calls that write an instruction. -/
def encodeInstruction (state : EncoderState) : WireInstruction → EncoderState
  | .gotoTable tableId => state.after (ofuPushGoToTableInstruction tableId state.desc)
  | .writeMetadata metadata mask =>
    state.after (ofuPushWriteMetaDataInstruction metadata mask state.desc)
  | .writeActions actions =>
    encodeActions ofuStartPushingWriteActionInstruction actions state
  | .applyActions actions =>
    encodeActions ofuStartPushingApplyActionInstruction actions state
  | .clearActions => state.after (ofuPushClearActionInstruction state.desc)
  | .meter meterId => state.after (ofuPushMeterInstruction meterId state.desc)

/-- The calls that write a match and the instructions behind it. -/
def encodeFlowBody (host : ByteOrder) (fields : List MatchField)
    (instructions : List WireInstruction) (state : EncoderState) : EncoderState :=
  let (matched, length) := encodeMatch host fields state
  let started := matched.after (ofuStartPushingInstructions length matched.desc)
  let pushed := instructions.foldl encodeInstruction started
  pushed.after (ofuEndPushingInstructions pushed.desc)

/-! ## What the routines write as it is -/

/-- A field that its routine writes as it is.  A VLAN id, a tunnel id and an I-SID with a
mask are counted without it, and of an I-SID one byte of three is stored. -/
def FieldKept (entry : MatchField) : Prop :=
  (entry.mask.isSome = true → maskLen entry.field = 4 + 2 * entry.field.width) ∧
    (entry.field = .pbbIsid → ∀ byte ∈ entry.value.drop 1, byte = 0)

/-- An instruction that the routines write as it is. -/
def InstructionKept : WireInstruction → Prop
  | .writeActions actions | .applyActions actions => ActionsKept actions
  | _ => True

/-! ## Fields of a match -/

/-- Room and zeros for fields at the first cursor. -/
structure FieldRoom (state : EncoderState) (size : Nat) : Prop where
  fits : state.desc.ptr1 + state.desc.length1 + size ≤ state.desc.bufferLen
  small : state.desc.length1 + size < 2 ^ 16
  zeros : ∀ address ≥ state.desc.ptr1 + state.desc.length1,
    address < state.desc.bufferLen → state.memory address = 0

/-- What setting fields adds to the message. -/
structure FieldsSet (state state' : EncoderState) (bytes : List UInt8) : Prop where
  desc : state'.desc = { state.desc with length1 := state.desc.length1 + bytes.length }
  held : state'.memory.Holds (state.desc.ptr1 + state.desc.length1) bytes
  grown : Extends state.memory state'.memory (state.desc.ptr1 + state.desc.length1)
    (state.desc.ptr1 + state.desc.length1 + bytes.length)

section Fields

variable {state : EncoderState}

theorem FieldRoom.found {size : Nat} (room : FieldRoom state size) :
    ¬ state.desc.noRoom (state.desc.ptr1 + state.desc.length1) size := by
  have fits := room.fits
  intro full
  change (state.desc.bufferLen : Int) < _ at full
  omega

variable {entry : MatchField}

/-- An unmasked service id is held in the three bytes it has. -/
theorem isid_held {memory : ByteMemory} {place : Int} (isid : entry.field = .pbbIsid)
    (unmasked : entry.mask = none) (rest : ∀ byte ∈ entry.value.drop 1, byte = 0)
    (zeros : ∀ address ≥ place, address < place + entry.tlv.length → memory address = 0) :
    let memory' := memory.write [⟨place, oxmHeader entry.field false entry.field.width⟩,
      ⟨place + 4, storedValue entry.field entry.value⟩]
    memory'.Holds place entry.tlv ∧ Extends memory memory' place (place + entry.tlv.length) := by
  intro memory'
  have three : entry.value.length = 3 := by
    rw [entry.valueWidth, isid]
    rfl
  have behind : entry.value.drop 1 = List.replicate 2 0 := by
    rw [eq_replicate_iff]
    exact ⟨by rw [length_drop, three], rest⟩
  have tlv : entry.tlv = oxmHeader entry.field false entry.field.width ++
      entry.value.take 1 ++ List.replicate 2 0 := by
    rw [MatchField.tlv, MatchField.payload, unmasked, ← behind, append_assoc,
      take_append_drop, Option.getD_none, append_nil, entry.valueWidth,
      Option.isSome_none]
  have one : (entry.value.take 1).length = 1 := by rw [length_take, three]; rfl
  have stored : storedValue entry.field entry.value = entry.value.take 1 := if_pos isid
  obtain ⟨held, grown⟩ := @write_contiguous memory place
    [⟨place, oxmHeader entry.field false entry.field.width⟩,
      ⟨place + 4, entry.value.take 1⟩] ⟨rfl, rfl, trivial⟩
  have long : entry.tlv.length = 7 := by
    rw [tlv, length_append, length_append, one]
    rfl
  change Holds (memory.write _) place entry.tlv ∧ Extends memory (memory.write _) place _
  rw [stored, tlv, holds_append]
  simp only [flatMap_cons, flatMap_nil, append_nil, length_append, one,
    oxmHeader, length_cons, length_nil] at held grown ⊢
  refine ⟨⟨held, ?_⟩, grown.mono le_rfl⟩
  rw [holds_replicate]
  intro address low high
  apply grown.zeros address (by omega)
  exact zeros address (by omega) (by omega)

/-- With room, a kept field is set. -/
theorem field_set (kept : FieldKept entry) (room : FieldRoom state entry.tlv.length) :
    (ofSetMatchField entry.field entry.value entry.mask state.desc).status =
        some .setFieldSuccess ∧
      FieldsSet state (state.set entry) entry.tlv := by
  have long := entry.length_tlv
  rw [entry.length_payload] at long
  have found := room.found
  rw [EncoderState.set]
  cases masked : entry.mask with
  | none =>
    simp only [masked, Option.isSome_none, Bool.false_eq_true, if_false] at long
    rw [ofSetMatchField_unmasked entry.valueWidth, setField, ← long, if_neg found,
      u16_of_lt room.small]
    by_cases isid : entry.field = .pbbIsid
    · have fits := room.fits
      obtain ⟨held, grown⟩ := isid_held isid masked (kept.2 isid) fun address low high =>
        room.zeros address low (by omega)
      exact ⟨rfl, rfl, held, grown⟩
    have whole : storedValue entry.field entry.value = entry.value := if_neg isid
    have tlv : [(⟨state.desc.ptr1 + state.desc.length1,
        oxmHeader entry.field false entry.field.width⟩ : Store),
        ⟨state.desc.ptr1 + state.desc.length1 + ofOxmHdrLen, entry.value⟩].flatMap
          Store.bytes = entry.tlv := by
      simp [MatchField.tlv, MatchField.payload, masked, entry.valueWidth]
    rw [whole]
    obtain ⟨held, grown⟩ := @write_contiguous state.memory
      (state.desc.ptr1 + state.desc.length1) [⟨state.desc.ptr1 + state.desc.length1,
        oxmHeader entry.field false entry.field.width⟩,
        ⟨state.desc.ptr1 + state.desc.length1 + ofOxmHdrLen, entry.value⟩]
      ⟨rfl, rfl, trivial⟩
    rw [tlv] at held grown
    exact ⟨rfl, rfl, held, grown⟩
  | some bits =>
  have isSome : entry.mask.isSome = true := by rw [masked]; rfl
  have counted := kept.1 isSome
  have notIsid : entry.field ≠ .pbbIsid := by
    intro isid
    rw [isid] at counted
    exact absurd counted (by decide)
  have whole (bytes : List UInt8) : storedValue entry.field bytes = bytes :=
    if_neg notIsid
  simp only [masked, Option.isSome_some, if_true] at long
  rw [ofSetMatchField_masked (entry.maskable isSome) entry.valueWidth
    (entry.maskWidth bits masked), setFieldMasked, counted, ← long, if_neg found,
    u16_of_lt room.small, whole, whole]
  have tlv : [(⟨state.desc.ptr1 + state.desc.length1,
      oxmHeader entry.field true (2 * entry.field.width)⟩ : Store),
      ⟨state.desc.ptr1 + state.desc.length1 + ofOxmHdrLen, entry.value⟩,
      ⟨state.desc.ptr1 + state.desc.length1 + (4 + entry.field.width : Nat), bits⟩].flatMap
        Store.bytes = entry.tlv := by
    rw [MatchField.tlv, entry.length_payload, masked]
    simp [MatchField.payload, masked]
  have third : state.desc.ptr1 + state.desc.length1 + (4 + entry.field.width : Nat) =
      state.desc.ptr1 + state.desc.length1 + 4 + entry.value.length := by
    rw [entry.valueWidth]
    omega
  obtain ⟨held, grown⟩ := @write_contiguous state.memory
    (state.desc.ptr1 + state.desc.length1) [⟨state.desc.ptr1 + state.desc.length1,
      oxmHeader entry.field true (2 * entry.field.width)⟩,
      ⟨state.desc.ptr1 + state.desc.length1 + ofOxmHdrLen, entry.value⟩,
      ⟨state.desc.ptr1 + state.desc.length1 + (4 + entry.field.width : Nat), bits⟩]
    ⟨rfl, rfl, third, trivial⟩
  rw [tlv] at held grown
  exact ⟨rfl, rfl, held, grown⟩

/-- The bytes of fields together. -/
def tlvs (fields : List MatchField) : List UInt8 := (fields.map MatchField.tlv).flatten

/-- With room, all kept fields are set. -/
theorem fields_set {fields : List MatchField} (kept : ∀ entry ∈ fields, FieldKept entry)
    (room : FieldRoom state (tlvs fields).length) :
    FieldsSet state (fields.foldl EncoderState.set state) (tlvs fields) := by
  induction fields generalizing state with
  | nil =>
    constructor
    case desc => rfl
    case held => trivial
    case grown => simpa [tlvs] using Extends.refl state.memory _
  | cons entry rest ih =>
  have bytes : tlvs (entry :: rest) = entry.tlv ++ tlvs rest := rfl
  have fits := room.fits
  have small := room.small
  rw [bytes, length_append] at fits small
  obtain ⟨desc, held, grown⟩ := (field_set (kept entry mem_cons_self)
    ⟨by omega, by omega, room.zeros⟩).2
  have next : ((state.set entry).desc.ptr1 + (state.set entry).desc.length1 : Int) =
      state.desc.ptr1 + state.desc.length1 + entry.tlv.length := by
    simp only [desc, Nat.cast_add]
    omega
  have others := @ih (state.set entry) (fun entry member => kept entry (mem_cons_of_mem _ member))
    { fits := by
        rw [next, desc]
        change _ ≤ (state.desc.bufferLen : Int)
        omega
      small := by
        rw [desc]
        change state.desc.length1 + entry.tlv.length + _ < _
        omega
      zeros := by
        rw [next, desc]
        intro address above inside
        apply grown.zeros address above
        exact room.zeros address (by omega) inside }
  have othersHeld := others.held
  have othersGrown := others.grown
  rw [next] at othersHeld othersGrown
  rw [bytes]
  constructor
  case desc =>
    rw [foldl_cons, others.desc, desc, length_append, Nat.add_assoc]
  case held =>
    rw [holds_append]
    exact ⟨othersGrown.holds held le_rfl, othersHeld⟩
  case grown =>
    rw [length_append, Nat.cast_add, ← add_assoc]
    exact grown.trans othersGrown

end Fields

/-! ## The match -/

/-- The length of fields on the wire, filled up, without the header of the match. -/
def fieldsSize (fields : List MatchField) : Nat :=
  (tlvs fields).length + roundUp (4 + (tlvs fields).length)

theorem matchLength_eq (fields : List MatchField) :
    matchLength fields = 4 + (tlvs fields).length := by
  rw [matchLength, tlvs, length_flatten, map_map]
  rfl

theorem load_hostBytes (host : ByteOrder) : load host (hostBytes host 2 4) = 4 := by
  cases host <;> decide

/-- Where a match is to go: room and zeros behind a header. -/
structure MatchRoom (state : EncoderState) (size : Nat) : Prop where
  fits : state.desc.utilsPtr + 4 + size ≤ state.desc.bufferLen
  small : state.desc.dataLen + size < 2 ^ 16
  short : 4 + size < 2 ^ 16
  zeros : ∀ address ≥ state.desc.utilsPtr, address < state.desc.bufferLen →
    state.memory address = 0

/-- What writing a match adds to the message. -/
structure MatchWritten (state state' : EncoderState) (fields : List MatchField) : Prop where
  bufferLen : state'.desc.bufferLen = state.desc.bufferLen
  dataLen : state'.desc.dataLen = state.desc.dataLen + fieldsSize fields
  ptr1 : state'.desc.ptr1 = state.desc.utilsPtr + 4
  length1 : state'.desc.length1 = fieldsSize fields
  spelled : SpellsMatch fields (state'.memory.slice state.desc.utilsPtr (4 + fieldsSize fields))
  grown : Extends state.memory state'.memory state.desc.utilsPtr
    (state.desc.utilsPtr + 4 + fieldsSize fields)

/-- The end of the match stores the length, and the match is spelled. -/
theorem matchEnd_spelled {memory : ByteMemory} {place : Int} {host : ByteOrder}
    {fields : List MatchField} (short : matchLength fields < 2 ^ 16)
    (held : memory.Holds place (bytes16 ofpmtOxm ++ hostBytes host 2 4 ++ tlvs fields)) :
    let memory' := memory.write
      [⟨place + 2, bytes16 (UInt16.ofNat (matchLength fields))⟩,
        ⟨place + 4 + ((tlvs fields).length : Nat), List.replicate (roundUp (matchLength fields)) 0⟩]
    SpellsMatch fields (memory'.slice place (4 + fieldsSize fields)) ∧
      Extends memory memory' place (place + 4 + fieldsSize fields) := by
  have length := matchLength_eq fields
  have size : fieldsSize fields = (tlvs fields).length + roundUp (matchLength fields) := by
    rw [length]
    rfl
  have four : (bytes16 ofpmtOxm ++ hostBytes host 2 4).length = 4 := by
    cases host <;> rfl
  rw [holds_append, four] at held
  obtain ⟨header, values⟩ := held
  rw [holds_append] at header
  have one := put_extends memory (place + 2) (bytes16 (UInt16.ofNat (matchLength fields)))
  have counted := put_holds memory (place + 2) (bytes16 (UInt16.ofNat (matchLength fields)))
  have valuesLeft : (memory.put ⟨place + 2,
      bytes16 (UInt16.ofNat (matchLength fields))⟩).Holds (place + 4) (tlvs fields) := by
    apply values.same
    apply put_same
    right
    right
    change place + 2 + ((bytes16 _).length : Int) ≤ _
    rw [length_bytes16]
    omega
  have kindLeft := one.holds header.1 (by rw [length_bytes16]; omega)
  intro memory'
  obtain ⟨middle, is⟩ : ∃ middle, middle = memory.put
    ⟨place + 2, bytes16 (UInt16.ofNat (matchLength fields))⟩ := ⟨_, rfl⟩
  have last : memory' = middle.put ⟨place + 4 + ((tlvs fields).length : Nat),
      List.replicate (roundUp (matchLength fields)) 0⟩ := by
    rw [is]
    rfl
  rw [← is] at one counted valuesLeft kindLeft
  have two := put_extends middle (place + 4 + ((tlvs fields).length : Nat))
    (List.replicate (roundUp (matchLength fields)) 0)
  have zeros := put_holds middle (place + 4 + ((tlvs fields).length : Nat))
    (List.replicate (roundUp (matchLength fields)) 0)
  rw [← last] at two zeros
  have whole : memory'.Holds place (bytes16 ofpmtOxm ++
      bytes16 (UInt16.ofNat (matchLength fields)) ++ tlvs fields ++
      List.replicate (roundUp (matchLength fields)) 0) := by
    rw [holds_append, holds_append, holds_append]
    simp only [length_append, length_bytes16]
    refine ⟨⟨⟨?kind, ?length⟩, ?values⟩, ?zeros⟩
    case kind => exact two.holds kindLeft (by rw [length_bytes16]; omega)
    case length => exact two.holds counted (by rw [length_bytes16]; omega)
    case values => exact two.holds valuesLeft le_rfl
    case zeros =>
      have behind : place + ((2 + 2 + (tlvs fields).length : Nat) : Int) =
          place + 4 + ((tlvs fields).length : Nat) := by omega
      rw [behind]
      exact zeros
  constructor
  case left =>
    have bytes := whole.slice_eq
    have total : 2 + 2 + (tlvs fields).length + roundUp (matchLength fields) =
        4 + fieldsSize fields := by omega
    simp only [length_append, length_bytes16, length_replicate, total] at bytes
    exact ⟨short, bytes⟩
  case right =>
    rw [length_bytes16] at one
    rw [length_replicate] at two
    have before : Extends memory middle place (place + 4 + ((tlvs fields).length : Nat)) :=
      one.mono
    refine (before.trans two).mono le_rfl ?_
    omega

/-- The calls for a match write a match of its fields. -/
theorem match_encoded {host : ByteOrder} {state : EncoderState} {fields : List MatchField}
    (kept : ∀ entry ∈ fields, FieldKept entry) (room : MatchRoom state (fieldsSize fields)) :
    (encodeMatch host fields state).2 = fieldsSize fields ∧
      MatchWritten state (encodeMatch host fields state).1 fields := by
  have fits := room.fits
  have small := room.small
  have short := room.short
  have size : fieldsSize fields =
      (tlvs fields).length + roundUp (4 + (tlvs fields).length) := rfl
  generalize began : state.after (ofuStartSettingMatchFieldValues host state.desc) = started
  have startedMemory : started.memory = state.memory.put
      ⟨state.desc.utilsPtr, bytes16 ofpmtOxm ++ hostBytes host 2 4⟩ := by
    rw [← began]
    rfl
  have startedDesc : started.desc =
      { state.desc with ptr1 := state.desc.utilsPtr + 4, length1 := 0, utilsLength := 4 } := by
    rw [← began]
    rfl
  have four : (bytes16 ofpmtOxm ++ hostBytes host 2 4).length = 4 := by
    cases host <;> rfl
  have header := put_extends state.memory state.desc.utilsPtr
    (bytes16 ofpmtOxm ++ hostBytes host 2 4)
  have headerHeld := put_holds state.memory state.desc.utilsPtr
    (bytes16 ofpmtOxm ++ hostBytes host 2 4)
  rw [← startedMemory] at header headerHeld
  rw [four] at header
  have place : started.desc.ptr1 + (started.desc.length1 : Int) =
      state.desc.utilsPtr + 4 := by
    rw [startedDesc]
    exact add_zero _
  have set := @fields_set started fields kept
    { fits := by
        rw [place, startedDesc]
        change _ ≤ (state.desc.bufferLen : Int)
        omega
      small := by
        rw [startedDesc]
        change 0 + _ < _
        omega
      zeros := by
        rw [place, startedDesc]
        intro address above inside
        apply header.zeros address above
        exact room.zeros address (by omega) inside }
  have filledDesc := set.desc
  have filledHeld := set.held
  have filledGrown := set.grown
  rw [place] at filledHeld filledGrown
  generalize filling : fields.foldl EncoderState.set started = filled
    at filledDesc filledHeld filledGrown
  have whole : filled.memory.Holds state.desc.utilsPtr
      (bytes16 ofpmtOxm ++ hostBytes host 2 4 ++ tlvs fields) := by
    rw [holds_append, four]
    exact ⟨filledGrown.holds headerHeld (by rw [four]; omega), filledHeld⟩
  have length := matchLength_eq fields
  have read : load host (filled.memory.slice (state.desc.utilsPtr + 2) 2) = 4 := by
    rw [holds_append, holds_append, length_bytes16] at whole
    have bytes := whole.1.2.slice_eq
    have two : (hostBytes host 2 4).length = 2 := by cases host <;> rfl
    rw [two] at bytes
    rw [← load_hostBytes host, ← bytes]
    rfl
  have written := @matchEnd_spelled _ _ host fields (by omega) whole
  have utils : filled.desc.utilsPtr = state.desc.utilsPtr := by rw [filledDesc, startedDesc]
  have counted : filled.desc.length1 = (tlvs fields).length := by
    rw [filledDesc, startedDesc]
    exact Nat.zero_add _
  have matchLen : u16 (filled.desc.length1 +
      load host (filled.memory.slice (filled.desc.utilsPtr + 2) 2)) = matchLength fields := by
    rw [utils, counted, read, u16_of_lt (by omega), length, Nat.add_comm]
  have length1 : u16 (filled.desc.length1 + roundUp (matchLength fields)) =
      fieldsSize fields := by
    rw [counted, length, ← size, u16_of_lt (by omega)]
  have data : filled.desc.dataLen = state.desc.dataLen := by rw [filledDesc, startedDesc]
  have encoded : encodeMatch host fields state =
      (filled.after (ofuEndSettingMatchFieldValues host filled.memory filled.desc),
        (ofuEndSettingMatchFieldValues host filled.memory filled.desc).returned) := by
    rw [← filling, ← began]
    rfl
  rw [encoded, ofuEndSettingMatchFieldValues]
  simp only [matchLen, length1]
  constructor
  case left => trivial
  case right =>
  constructor
  case bufferLen => simp only [EncoderState.after, filledDesc, startedDesc]
  case dataLen => simp only [EncoderState.after, data, u16_of_lt small]
  case ptr1 => simp only [EncoderState.after, filledDesc, startedDesc]
  case length1 => rfl
  case spelled =>
    simp only [EncoderState.after, utils, counted]
    exact written.1
  case grown =>
    simp only [EncoderState.after, utils, counted]
    have before := header.trans filledGrown
    exact before.trans written.2 le_rfl (by omega)

/-! ## One instruction -/

/-- Where the next instruction goes. -/
def EncoderState.next (state : EncoderState) : Int := state.desc.ptr2 + state.desc.length2

/-- Where an instruction is to go: behind the match, with room and zeros there. -/
structure InstructionRoom (state : EncoderState) (size : Nat) : Prop where
  behind : state.desc.ptr1 + state.desc.length1 ≤ state.next
  fits : state.next + size ≤ state.desc.bufferLen
  small : state.desc.dataLen + size < 2 ^ 16
  short : size < 2 ^ 16
  zeros : ∀ address ≥ state.next, address < state.desc.bufferLen → state.memory address = 0

/-- What writing an instruction adds to the message. -/
structure InstructionWritten (state state' : EncoderState) (instruction : WireInstruction) :
    Prop where
  bufferLen : state'.desc.bufferLen = state.desc.bufferLen
  ptr1 : state'.desc.ptr1 = state.desc.ptr1
  length1 : state'.desc.length1 = state.desc.length1
  next : state'.next = state.next + instruction.size
  dataLen : state'.desc.dataLen = state.desc.dataLen + instruction.size
  spelled : instruction.Spells (state'.memory.slice state.next instruction.size)
  grown : Extends state.memory state'.memory state.next (state.next + instruction.size)

section Instruction

variable {state : EncoderState} {instruction : WireInstruction}

theorem InstructionRoom.found {size : Nat} (room : InstructionRoom state size)
    {checked : Nat} (less : checked ≤ size) : ¬ state.desc.noRoom state.next checked := by
  have fits := room.fits
  intro full
  change (state.desc.bufferLen : Int) < _ at full
  omega

theorem pushInstruction_written {stores : Int → List Store}
    (room : InstructionRoom state instruction.size)
    (spelled : instruction.Spells
      ((state.memory.write (stores state.next)).slice state.next instruction.size))
    (grown : Extends state.memory (state.memory.write (stores state.next)) state.next
      (state.next + instruction.size)) :
    (pushInstruction instruction.size stores state.desc).status =
        some .instructionPushSuccess ∧
      InstructionWritten state
        (state.after (pushInstruction instruction.size stores state.desc)) instruction := by
  have found : ¬ state.desc.noRoom (state.desc.ptr2 + state.desc.length2)
      instruction.size := room.found le_rfl
  rw [pushInstruction, if_neg found]
  constructor
  · rfl
  constructor
  case bufferLen => rfl
  case ptr1 => rfl
  case length1 => rfl
  case next => rfl
  case dataLen => exact u16_of_lt room.small
  case spelled => exact spelled
  case grown => exact grown

theorem oneStore_written {length : Nat} {operands : List UInt8} (is : instruction.size = length)
    (room : InstructionRoom state instruction.size)
    (short : 4 + operands.length ≤ instruction.size)
    (body : ∀ pad : List UInt8, 4 + operands.length + pad.length = instruction.size →
      instruction.SpellsBody (operands ++ pad)) :
    (pushInstruction length (fun place => [⟨place, bytes16 instruction.type ++
        bytes16 (UInt16.ofNat length) ++ operands⟩]) state.desc).status =
        some .instructionPushSuccess ∧
      InstructionWritten state (state.after (pushInstruction length
        (fun place => [⟨place, bytes16 instruction.type ++
          bytes16 (UInt16.ofNat length) ++ operands⟩]) state.desc)) instruction := by
  rw [← is]
  have held := put_holds state.memory state.next
    (bytes16 instruction.type ++ bytes16 (UInt16.ofNat instruction.size) ++ operands)
  have grown := put_extends state.memory state.next
    (bytes16 instruction.type ++ bytes16 (UInt16.ofNat instruction.size) ++ operands)
  have long : (bytes16 instruction.type ++ bytes16 (UInt16.ofNat instruction.size) ++
      operands).length = 4 + operands.length := by
    simp only [length_append, length_bytes16]
  apply pushInstruction_written room
  case spelled =>
    have whole := held.slice_add (instruction.size - (4 + operands.length))
    rw [long, Nat.add_sub_cancel' short, append_assoc _ operands] at whole
    refine ⟨room.short, _, body _ ?_, whole⟩
    rw [length_slice, Nat.add_sub_cancel' short]
  case grown => exact grown.mono le_rfl

/-- With room, a metadata instruction is written. -/
theorem writeMetadata_written {metadata mask : UInt64} (room : InstructionRoom state 24) :
    (ofuPushWriteMetaDataInstruction metadata mask state.desc).status =
        some .instructionPushSuccess ∧
      InstructionWritten state
        (state.after (ofuPushWriteMetaDataInstruction metadata mask state.desc))
        (.writeMetadata metadata mask) := by
  generalize is : bytes16 Ofpit.writeMetadata ++ bytes16 24 = front
  generalize values : bytes64 metadata ++ bytes64 mask = back
  have four : front.length = 4 := by rw [← is]; rfl
  have sixteen : back.length = 16 := by
    rw [← values, length_append, length_bytes64, length_bytes64]
  have header := put_extends state.memory state.next front
  have headerHeld := put_holds state.memory state.next front
  obtain ⟨middle, one⟩ : ∃ middle, middle = state.memory.put ⟨state.next, front⟩ := ⟨_, rfl⟩
  rw [← one] at header headerHeld
  have behind := put_extends middle (state.next + 8) back
  have behindHeld := put_holds middle (state.next + 8) back
  have grown := header.trans behind
  have held := behind.holds headerHeld (by omega)
  apply @pushInstruction_written state (.writeMetadata metadata mask)
  case room => exact room
  case spelled =>
    rw [is, values, write_cons, ← one, write_cons, write_nil]
    have first := held.slice_add 20
    have second := slice_add (middle.put ⟨state.next + 8, back⟩) (state.next + 4) 4 16
    have third := behindHeld.slice_eq
    have eight : state.next + 4 + (4 : Nat) = state.next + 8 := by omega
    rw [sixteen] at third
    rw [eight, third] at second
    rw [four] at first
    generalize middle.put ⟨state.next + 8, back⟩ = memory at first second
    refine ⟨room.short, memory.slice (state.next + 4) 4 ++ bytes64 metadata ++ bytes64 mask,
      ⟨_, length_slice _ _ _, rfl⟩, ?_⟩
    rw [append_assoc (slice ..), values]
    change memory.slice state.next 24 = _ ++ memory.slice (state.next + 4) 20 at first
    change memory.slice state.next 24 = _
    rw [first, second, ← is]
    rfl
  case grown =>
    rw [is, values, write_cons, ← one, write_cons, write_nil]
    refine grown.mono le_rfl ?_
    change _ ≤ state.next + ((24 : Nat) : Int)
    omega

/-- An instruction with actions is written with them. -/
theorem encodeActions_written {actions : List WireAction} (kept : ActionsKept actions)
    (size : instruction.size = 8 + actionsSize actions)
    (body : ∀ pad bytes : List UInt8, pad.length = 4 →
      SpellsAll WireAction.Spells actions bytes → instruction.SpellsBody (pad ++ bytes))
    (room : InstructionRoom state instruction.size) :
    InstructionWritten state (encodeActions (pushActionsInstruction instruction.type) actions state)
      instruction := by
  have fits := room.fits
  have small := room.small
  have short := room.short
  have behind := room.behind
  have found : ¬ state.desc.noRoom (state.desc.ptr2 + state.desc.length2) 8 :=
    room.found (by omega)
  generalize began : state.after (pushActionsInstruction instruction.type state.desc) =
    started
  have startedDesc : started.desc = { state.desc with
      ptr2 := state.next, length2 := 8, length3 := 0, ptr3 := state.next + 8 } := by
    rw [← began, pushActionsInstruction, if_neg found]
    rfl
  have startedMemory : started.memory =
      state.memory.put ⟨state.next, bytes16 instruction.type ++ bytes16 0⟩ := by
    rw [← began, pushActionsInstruction, if_neg found]
    rfl
  have four : (bytes16 instruction.type ++ bytes16 0).length = 4 := rfl
  have header := put_extends state.memory state.next (bytes16 instruction.type ++ bytes16 0)
  have headerHeld := put_holds state.memory state.next (bytes16 instruction.type ++ bytes16 0)
  rw [← startedMemory] at header headerHeld
  have place : started.desc.ptr3 + (started.desc.length3 : Int) = state.next + 8 := by
    rw [startedDesc]
    exact add_zero _
  have pushed := @actions_pushed started actions kept.1 kept.2 (fun _ => by rw [startedDesc])
    { behind := by
        rw [place, startedDesc]
        change (state.desc.ptr1 + state.desc.length1 + 8 : Int) ≤ _
        omega
      fits := by
        rw [place, startedDesc]
        change _ ≤ (state.desc.bufferLen : Int)
        omega
      small := by
        rw [startedDesc]
        change 0 + _ < _
        omega
      zeros := by
        rw [place, startedDesc]
        intro address above inside
        apply header.zeros address (by omega)
        exact room.zeros address (by omega) inside }
  have pushedDesc := pushed.desc
  have pushedSpelled := pushed.spelled
  have pushedGrown := pushed.grown
  rw [place] at pushedSpelled pushedGrown
  rw [startedDesc] at pushedDesc
  generalize pushing : pushActions actions started = filled
    at pushedDesc pushedSpelled pushedGrown
  have length2 : u16 (filled.desc.length2 + filled.desc.length3) = instruction.size := by
    rw [pushedDesc]
    rw [Nat.zero_add, ← size, u16_of_lt short]
  have dataLen : u16 (filled.desc.dataLen + instruction.size) =
      state.desc.dataLen + instruction.size := by
    rw [pushedDesc, u16_of_lt small]
  have place2 : filled.desc.ptr2 = state.next := by rw [pushedDesc]
  have encoded : encodeActions (pushActionsInstruction instruction.type) actions state =
      { desc := { filled.desc with
          length2 := instruction.size, dataLen := state.desc.dataLen + instruction.size }
        memory := filled.memory.put
          ⟨state.next + 2, bytes16 (UInt16.ofNat instruction.size)⟩ } := by
    rw [encodeActions, began, pushing, ofuEndPushingActions]
    simp only [length2, dataLen, EncoderState.after, ofuEndPushingApplyActionInstruction, place2]
    rfl
  have pair : (bytes16 (UInt16.ofNat instruction.size)).length = 2 := length_bytes16 _
  have counted := put_extends filled.memory (state.next + 2)
    (bytes16 (UInt16.ofNat instruction.size))
  have countedHeld := put_holds filled.memory (state.next + 2)
    (bytes16 (UInt16.ofNat instruction.size))
  rw [encoded]
  constructor
  case bufferLen => simp only [pushedDesc]
  case ptr1 => simp only [pushedDesc]
  case length1 => simp only [pushedDesc]
  case next => simp only [EncoderState.next, place2]
  case dataLen => rfl
  case spelled =>
    have kindHeld : started.memory.Holds state.next (bytes16 instruction.type) :=
      (holds_append.mp headerHeld).1
    have kind := counted.holds (pushedGrown.holds kindHeld (by rw [length_bytes16]; omega))
      (by rw [length_bytes16]; omega)
    have actionsLeft : Same filled.memory (filled.memory.put
        ⟨state.next + 2, bytes16 (UInt16.ofNat instruction.size)⟩) (state.next + 8)
        (state.next + 8 + actionsSize actions) := by
      apply put_same
      right
      right
      change state.next + 2 + ((bytes16 _).length : Int) ≤ _
      omega
    have actionsBytes := actionsLeft.slice_eq
    generalize filled.memory.put ⟨state.next + 2, bytes16 (UInt16.ofNat instruction.size)⟩ = memory
      at kind actionsBytes countedHeld
    have front : memory.Holds state.next
        (bytes16 instruction.type ++ bytes16 (UInt16.ofNat instruction.size)) := by
      rw [holds_append]
      exact ⟨kind, countedHeld⟩
    have long : (bytes16 instruction.type ++
        bytes16 (UInt16.ofNat instruction.size)).length = 4 := rfl
    have whole := front.slice_add (4 + actionsSize actions)
    have eight : state.next + (4 : Nat) + (4 : Nat) = state.next + 8 := by omega
    have total : 4 + (4 + actionsSize actions) = instruction.size := by omega
    rw [long, total, slice_add, eight, actionsBytes] at whole
    exact ⟨short, _, body _ _ (length_slice _ _ _) pushedSpelled, whole⟩
  case grown =>
    have before := header.trans pushedGrown
    have covered : Extends filled.memory _ (state.next + 2)
        (state.next + instruction.size) := counted.mono le_rfl
    exact before.trans covered

/-- With room, an instruction is written. -/
theorem instruction_encoded (kept : InstructionKept instruction)
    (room : InstructionRoom state instruction.size) :
    InstructionWritten state (encodeInstruction state instruction) instruction := by
  cases instruction with
  | gotoTable tableId =>
    apply (@oneStore_written state (.gotoTable tableId) 8 [tableId] rfl room _ _).2
    · exact Nat.le_of_ble_eq_true rfl
    · intro pad long
      exact ⟨pad, Nat.add_left_cancel long, rfl⟩
  | writeMetadata metadata mask => exact (writeMetadata_written room).2
  | clearActions =>
    have pushed := (@oneStore_written state .clearActions 8 [] rfl room
      (Nat.le_of_ble_eq_true rfl) fun pad long => Nat.add_left_cancel long).2
    exact pushed
  | meter meterId =>
    apply (@oneStore_written state (.meter meterId) 8 (bytes32 meterId) rfl room _ _).2
    · exact le_rfl
    · intro pad long
      have nothing : pad = [] := eq_nil_of_length_eq_zero (Nat.add_left_cancel long)
      rw [nothing, append_nil]
      rfl
  | writeActions actions =>
    exact @encodeActions_written state (.writeActions actions) actions kept rfl
      (fun pad bytes four spelled => ⟨pad, bytes, four, spelled, rfl⟩) room
  | applyActions actions =>
    exact @encodeActions_written state (.applyActions actions) actions kept rfl
      (fun pad bytes four spelled => ⟨pad, bytes, four, spelled, rfl⟩) room

theorem InstructionRoom.mono {size less : Nat} (room : InstructionRoom state size)
    (smaller : less ≤ size) : InstructionRoom state less where
  behind := room.behind
  fits := by have := room.fits; omega
  small := by have := room.small; omega
  short := by have := room.short; omega
  zeros := room.zeros

theorem InstructionWritten.roomLeft {state' : EncoderState} {left : Nat}
    (written : InstructionWritten state state' instruction)
    (room : InstructionRoom state (instruction.size + left)) :
    InstructionRoom state' left := by
  have fits := room.fits
  have small := room.small
  have behind := room.behind
  constructor
  case behind =>
    rw [written.ptr1, written.length1, written.next]
    omega
  case fits =>
    rw [written.bufferLen, written.next]
    omega
  case small =>
    rw [written.dataLen]
    omega
  case short => omega
  case zeros =>
    rw [written.bufferLen, written.next]
    intro address above inside
    apply written.grown.zeros address above
    exact room.zeros address (by omega) inside

end Instruction

/-! ## Lists of instructions -/

/-- The lengths of instructions together. -/
def instructionsSize (instructions : List WireInstruction) : Nat :=
  (instructions.map WireInstruction.size).sum

/-- What writing instructions adds to the message. -/
structure InstructionsWritten (state state' : EncoderState)
    (instructions : List WireInstruction) : Prop where
  dataLen : state'.desc.dataLen = state.desc.dataLen + instructionsSize instructions
  spelled : SpellsAll WireInstruction.Spells instructions
    (state'.memory.slice state.next (instructionsSize instructions))
  grown : Extends state.memory state'.memory state.next (state.next + instructionsSize instructions)

variable {state : EncoderState} {instructions : List WireInstruction}

/-- With room, all instructions are written. -/
theorem instructions_encoded (kept : ∀ instruction ∈ instructions, InstructionKept instruction)
    (room : InstructionRoom state (instructionsSize instructions)) :
    InstructionsWritten state (instructions.foldl encodeInstruction state) instructions := by
  induction instructions generalizing state with
  | nil =>
    constructor
    case dataLen => rfl
    case spelled => exact SpellsAll.nil
    case grown => simpa [instructionsSize] using Extends.refl state.memory _
  | cons instruction rest ih =>
  have sizes : instructionsSize (instruction :: rest) =
      instruction.size + instructionsSize rest := by
    simp [instructionsSize]
  have written := instruction_encoded (kept instruction mem_cons_self) (room.mono (by omega))
  have others := @ih (encodeInstruction state instruction)
    (fun instruction member => kept instruction (mem_cons_of_mem _ member))
    (written.roomLeft room)
  have spelled := others.spelled
  have grown := others.grown
  rw [written.next] at spelled grown
  rw [foldl_cons]
  constructor
  case dataLen => rw [others.dataLen, written.dataLen, sizes, Nat.add_assoc]
  case spelled =>
    rw [sizes, slice_add]
    apply SpellsAll.cons _ spelled
    rw [(grown.same le_rfl).slice_eq]
    exact written.spelled
  case grown =>
    rw [sizes, Nat.cast_add, ← add_assoc]
    exact written.grown.trans grown

/-! ## A match and the instructions behind it -/

/-- The length of a match with instructions behind it. -/
def flowBodySize (fields : List MatchField) (instructions : List WireInstruction) : Nat :=
  4 + fieldsSize fields + instructionsSize instructions

/-- A message that a match and instructions can be written into: what lies before the
match and the header of the match are counted, and from the match on there are room and
zeros. -/
structure BeforeMatch (state : EncoderState) (size : Nat) : Prop where
  counted : (state.desc.dataLen : Int) = state.desc.utilsPtr + 4
  behind : 0 ≤ state.desc.utilsPtr
  fits : state.desc.utilsPtr + size ≤ state.desc.bufferLen
  small : state.desc.utilsPtr + size < 2 ^ 16
  zeros : ∀ address ≥ state.desc.utilsPtr, address < state.desc.bufferLen →
    state.memory address = 0

/-- The message with its match, where the instructions begin. -/
def behindMatch (host : ByteOrder) (fields : List MatchField) (state : EncoderState) :
    EncoderState :=
  let (matched, length) := encodeMatch host fields state
  matched.after (ofuStartPushingInstructions length matched.desc)

/-- What lies behind a match: the instructions begin where it ends, which is where the data
ends so far. -/
structure MatchBehind (state state' : EncoderState) (fields : List MatchField)
    (size : Nat) : Prop where
  next : state'.next = state.desc.utilsPtr + 4 + fieldsSize fields
  dataLen : (state'.desc.dataLen : Int) = state'.next
  bufferLen : state'.desc.bufferLen = state.desc.bufferLen
  room : InstructionRoom state' size
  spelled : SpellsMatch fields (state'.memory.slice state.desc.utilsPtr (4 + fieldsSize fields))

/-- Behind a match the instructions have their room. -/
theorem match_behind {host : ByteOrder} {state : EncoderState} {fields : List MatchField}
    {size : Nat} (kept : ∀ entry ∈ fields, FieldKept entry)
    (start : BeforeMatch state (4 + fieldsSize fields + size)) :
    MatchBehind state (behindMatch host fields state) fields size := by
  have counted := start.counted
  have behind := start.behind
  have fits := start.fits
  have small := start.small
  have matchRoom : MatchRoom state (fieldsSize fields) :=
    { fits := by omega
      small := by omega
      short := by omega
      zeros := start.zeros }
  obtain ⟨returned, written⟩ := @match_encoded host _ _ kept matchRoom
  rw [behindMatch]
  generalize encodeMatch host fields state = result at returned written
  obtain ⟨matched, length⟩ := result
  change MatchBehind state
    (matched.after (ofuStartPushingInstructions length matched.desc)) fields size
  generalize began : matched.after (ofuStartPushingInstructions length matched.desc) =
    started
  have startedDesc : started.desc =
      { matched.desc with ptr2 := matched.desc.ptr1 + length, length2 := 0 } := by
    rw [← began]
    rfl
  have startedMemory : started.memory = matched.memory := by
    rw [← began]
    rfl
  have place : started.next = state.desc.utilsPtr + 4 + fieldsSize fields := by
    rw [EncoderState.next, startedDesc, ← written.ptr1, ← returned]
    exact add_zero _
  have dataLen : started.desc.dataLen = state.desc.dataLen + fieldsSize fields := by
    rw [startedDesc, ← written.dataLen]
  have bufferLen : started.desc.bufferLen = state.desc.bufferLen := by
    rw [startedDesc, ← written.bufferLen]
  constructor
  case next => exact place
  case dataLen =>
    omega
  case bufferLen => exact bufferLen
  case room =>
    constructor
    case behind =>
      rw [place, startedDesc]
      rw [written.ptr1, written.length1]
    case fits =>
      omega
    case small =>
      omega
    case short => omega
    case zeros =>
      rw [place, bufferLen, startedMemory]
      intro address above inside
      apply written.grown.zeros address (by omega)
      exact start.zeros address (by omega) inside
  case spelled =>
    rw [startedMemory]
    exact written.spelled

/-- Fields and instructions that are kept lie in the message as they were pushed, and the
length of the data is where they end. -/
theorem flowBody_encoded {host : ByteOrder} {state : EncoderState}
    {fields : List MatchField} {instructions : List WireInstruction}
    (fieldsKept : ∀ entry ∈ fields, FieldKept entry)
    (instructionsKept : ∀ instruction ∈ instructions, InstructionKept instruction)
    (start : BeforeMatch state (flowBodySize fields instructions)) :
    SpellsFlowBody fields instructions
        ((encodeFlowBody host fields instructions state).memory.slice state.desc.utilsPtr
          (flowBodySize fields instructions)) ∧
      ((encodeFlowBody host fields instructions state).desc.dataLen : Int) =
        state.desc.utilsPtr + flowBodySize fields instructions := by
  have size : flowBodySize fields instructions =
      4 + fieldsSize fields + instructionsSize instructions := rfl
  have matched := @match_behind host _ _ _ fieldsKept start
  have encoded : encodeFlowBody host fields instructions state =
      instructions.foldl encodeInstruction (behindMatch host fields state) := rfl
  rw [encoded]
  have pushed := instructions_encoded instructionsKept matched.room
  have spelled := pushed.spelled
  have grown := pushed.grown
  have dataLen := matched.dataLen
  rw [matched.next] at spelled grown dataLen
  constructor
  case left =>
    have header : state.desc.utilsPtr + ((4 + fieldsSize fields : Nat) : Int) =
        state.desc.utilsPtr + 4 + fieldsSize fields := by omega
    rw [size, slice_add, header]
    refine ⟨_, _, ?_, spelled, rfl⟩
    rw [(grown.same (by omega)).slice_eq]
    exact matched.spelled
  case right =>
    rw [pushed.dataLen, size]
    omega

/-- What the calls for a match and instructions leave from the match up to the end of the
data. -/
def flowBodyBytes (host : ByteOrder) (fields : List MatchField)
    (instructions : List WireInstruction) (state : EncoderState) : List UInt8 :=
  let ended := encodeFlowBody host fields instructions state
  ended.memory.slice state.desc.utilsPtr (ended.desc.dataLen - state.desc.utilsPtr).toNat

/-- Fields and instructions that the routines write as they are can be read back: the bytes
up to the end of the data spell them and nothing else. -/
theorem flow_body_round_trip {host : ByteOrder} {state : EncoderState}
    {fields : List MatchField} {instructions : List WireInstruction}
    (fieldsKept : ∀ entry ∈ fields, FieldKept entry)
    (instructionsKept : ∀ instruction ∈ instructions, InstructionKept instruction)
    (start : BeforeMatch state (flowBodySize fields instructions)) :
    SpellsFlowBody fields instructions (flowBodyBytes host fields instructions state) ∧
      parseFlowBody (flowBodyBytes host fields instructions state) =
        some (fields, instructions) ∧
      ((encodeFlowBody host fields instructions state).desc.dataLen : Int) =
        state.desc.utilsPtr + (flowBodyBytes host fields instructions state).length := by
  obtain ⟨spelled, dataLen⟩ :=
    @flowBody_encoded host state fields instructions fieldsKept instructionsKept start
  have length : (((encodeFlowBody host fields instructions state).desc.dataLen : Int) -
      state.desc.utilsPtr).toNat = flowBodySize fields instructions := by
    omega
  have bytes : flowBodyBytes host fields instructions state =
      (encodeFlowBody host fields instructions state).memory.slice state.desc.utilsPtr
        (flowBodySize fields instructions) := by
    rw [flowBodyBytes, length]
  rw [bytes, length_slice]
  exact ⟨spelled, parseFlowBody_spelled spelled, dataLen⟩

theorem allocFlowMod_beforeMatch {bufferLen size : Nat} (fits : 48 + size ≤ bufferLen)
    (small : 48 + size < 2 ^ 16) : BeforeMatch (allocFlowMod bufferLen) size where
  counted := rfl
  behind := by
    change (0 : Int) ≤ 48
    decide
  fits := by
    change (48 : Int) + size ≤ (bufferLen : Int)
    omega
  small := by
    change (48 : Int) + size < 2 ^ 16
    omega
  zeros _ _ _ := rfl

/-- A port without a mask. -/
def inPortField : MatchField where
  field := .inPort
  value := [0, 0, 0, 1]
  mask := none
  valueWidth := rfl
  maskWidth _ none := nomatch none
  maskable none := nomatch none

theorem flow_body_round_trip_port :
    parseFlowBody (flowBodyBytes .littleEndian [inPortField]
      [.applyActions [.copyTtlIn, .output 2 64], .gotoTable 3] (allocFlowMod 200)) =
        some ([inPortField], [.applyActions [.copyTtlIn, .output 2 64], .gotoTable 3]) := by
  have fieldKept : ∀ entry ∈ [inPortField], FieldKept entry := by
    intro entry member
    rw [mem_singleton.mp member]
    exact ⟨(nomatch ·), (nomatch ·)⟩
  have actionsKept : ActionsKept [.copyTtlIn, .output 2 64] := by
    simp [ActionsKept, ActionPlain]
  have instructionsKept : ∀ instruction ∈
      [WireInstruction.applyActions [.copyTtlIn, .output 2 64], .gotoTable 3],
      InstructionKept instruction := by
    intro instruction member
    rcases mem_cons.mp member with rfl | rest
    · exact actionsKept
    · rw [mem_singleton.mp rest]
      trivial
  exact (flow_body_round_trip fieldKept instructionsKept
    (allocFlowMod_beforeMatch (by decide) (by decide))).2.1

/-- A VLAN id with a mask. -/
def maskedVlanField : MatchField where
  field := .vlanVid
  value := [0x10, 0]
  mask := some [0x10, 0]
  valueWidth := rfl
  maskWidth bits is := by cases is; rfl
  maskable _ := rfl

/-- A VLAN id with a mask is counted without the mask: what is written holds no field that
can be read back. -/
theorem masked_vlan_lost :
    BeforeMatch (allocFlowMod 200) (flowBodySize [maskedVlanField] []) ∧
      (parseFlowBody
        (flowBodyBytes .littleEndian [maskedVlanField] [] (allocFlowMod 200))).isNone = true := by
  constructor
  · exact allocFlowMod_beforeMatch (by decide) (by decide)
  · decide +kernel

end OpenFlowController.Encoder
