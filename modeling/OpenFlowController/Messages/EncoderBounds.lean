/-
Module: Messages.EncoderBounds
Purpose: Which calls of the routines that write into a message buffer stay inside it, and
  refuse what it has no room for.
Trusted boundary: none
-/
import OpenFlowController.Library.Run
import OpenFlowController.Messages.Encoder

namespace OpenFlowController.Encoder

open Include List Library

/-! ## What a call owes the buffer -/

/-- These bytes lie in the buffer. -/
def MsgDescriptor.InBuffer (desc : MsgDescriptor) (place : Int) (length : Nat) : Prop :=
  0 ≤ place ∧ place + length ≤ desc.bufferLen

instance (desc : MsgDescriptor) (place : Int) (length : Nat) :
    Decidable (desc.InBuffer place length) :=
  inferInstanceAs (Decidable (_ ∧ _))

/-- What a call adds to the message: the place, and the length with all padding.  A bucket
goes behind the last one, that is behind its properties and padding. -/
def EncoderCall.element (desc : MsgDescriptor) : EncoderCall → Option (Int × Nat)
  | .setMatchField entry => some (desc.ptr1 + desc.length1, entry.tlv.length)
  | .startPushingApplyActionInstruction | .startPushingWriteActionInstruction
  | .pushGoToTableInstruction _ | .pushClearActionInstruction | .pushMeterInstruction _ =>
    some (desc.ptr2 + desc.length2, 8)
  | .pushWriteMetaDataInstruction .. => some (desc.ptr2 + desc.length2, 24)
  | .pushAction action _ _ => some (desc.ptr3 + desc.length3, action.size)
  | .appendBucket .. => some (desc.ptr2 + desc.length2Closed 1, 8)
  | .attachProp _ => some (desc.ptr1 + desc.length1, 8)
  | .appendBandDrop .. | .appendBandDscpRemark .. => some (desc.ptr2 + desc.length2, 16)
  | _ => none

/-- Every byte written lies in the buffer, and what there is no room for is refused, with
the descriptor and the buffer left as they are. -/
def Bounded (state : EncoderState) (element : Option (Int × Nat)) (outcome : Outcome) :
    Prop :=
  (∀ store ∈ outcome.stores, store.Inside 0 state.desc.bufferLen) ∧
    ∀ place length, element = some (place, length) → ¬ state.desc.InBuffer place length →
      outcome.status = some .noRoomInBuffer ∧ outcome.desc = state.desc ∧
        state.memory.write outcome.stores = state.memory

/-- The call stays inside the buffer. -/
def StaysInside (host : ByteOrder) (state : EncoderState) (call : EncoderCall) : Prop :=
  Bounded state (call.element state.desc) (call.run host state.memory state.desc)

/-! ## When it does -/

/-- The length that the routine for a field compares with the room left. -/
def fieldLen (entry : MatchField) : Nat :=
  if entry.mask.isSome then maskLen entry.field else 4 + entry.field.width

/-- The length that the routine for an action compares with the room at the first cursor. -/
def checkedLen : WireAction → Nat
  | .decNwTtl => 8
  | .setField value => 8 + value.field.width
  | _ => 16

/-- How far the routine for an action writes.  The zeros behind a field that is set begin
four bytes too late. -/
def reach : WireAction → Nat
  | .setField value =>
    8 + value.field.width + roundUp (paddedWidth value.field) +
      (if roundUp (paddedWidth value.field) = 0 then 0 else 4)
  | action => action.size

/-- The lengths and the padding of the last bucket lie in the buffer. -/
def ClosesInside (desc : MsgDescriptor) : Prop :=
  desc.InBuffer desc.lastBucket 4 ∧
    (roundUp desc.bucketLen = 0 ∨
      desc.InBuffer (desc.lastBucket + desc.bucketLen) (roundUp desc.bucketLen))

/-- How often the routine for a bucket counts the properties of the last one. -/
def propsCounted : GroupType → Nat
  | .fastFailover => 2
  | _ => 1

/-- The condition for a bucket: the last one closes inside the buffer, and the new one
fits behind it and where its number is stored, or it is refused at a time when closing the
last one changes nothing. -/
def BucketFits (state : EncoderState) (type : GroupType) : Prop :=
  let desc := state.desc
  let length2 := desc.length2Closed (propsCounted type)
  (0 < desc.length2 → ClosesInside desc) ∧
    if desc.noRoom (desc.ptr2 + length2) 8 then
      desc.InBuffer (desc.ptr2 + desc.length2Closed 1) 8 ∨
        length2 = desc.length2 ∧
          (0 < desc.length2 → state.memory.write desc.closing = state.memory)
    else
      desc.InBuffer (desc.ptr2 + desc.length2Closed 1) 8 ∧
        desc.InBuffer (desc.ptr2 + length2 + desc.length1 + 4) 4

/-- The condition on a call.  Where a routine looks for room, either it finds none, or what
it is to add fits where it writes it; where it looks for none, what it writes fits. -/
def FitsBuffer (host : ByteOrder) (state : EncoderState) : EncoderCall → Prop
  | .startSettingMatchFieldValues => state.desc.InBuffer state.desc.utilsPtr 4
  | .setMatchField entry =>
    state.desc.noRoom (state.desc.ptr1 + state.desc.length1) (fieldLen entry) ∨
      state.desc.InBuffer (state.desc.ptr1 + state.desc.length1) entry.tlv.length
  | .endSettingMatchFieldValues =>
    let padding := roundUp (u16 (state.desc.length1 +
      load host (state.memory.slice (state.desc.utilsPtr + 2) 2)))
    state.desc.InBuffer (state.desc.utilsPtr + 2) 2 ∧
      (padding = 0 ∨ state.desc.InBuffer (state.desc.utilsPtr + 4 + state.desc.length1) padding)
  | .startPushingApplyActionInstruction | .startPushingWriteActionInstruction
  | .pushGoToTableInstruction _ | .pushClearActionInstruction | .pushMeterInstruction _ =>
    state.desc.noRoom (state.desc.ptr2 + state.desc.length2) 8 ∨
      state.desc.InBuffer (state.desc.ptr2 + state.desc.length2) 8
  | .pushWriteMetaDataInstruction .. =>
    state.desc.noRoom (state.desc.ptr2 + state.desc.length2) 24 ∨
      state.desc.InBuffer (state.desc.ptr2 + state.desc.length2) 24
  | .endPushingApplyActionInstruction _ => state.desc.InBuffer (state.desc.ptr2 + 2) 2
  | .pushAction action _ _ =>
    state.desc.noRoom (state.desc.ptr1 + state.desc.length1) (checkedLen action) ∨
      state.desc.InBuffer (state.desc.ptr3 + state.desc.length3) (reach action)
  | .appendBucket type _ => BucketFits state type
  | .endAppendingBucketsToGroup => ClosesInside state.desc
  | .attachProp _ =>
    state.desc.noRoom (state.desc.ptr1 + state.desc.length1) 8 ∨
      state.desc.InBuffer (state.desc.ptr1 + state.desc.length1) 8
  | .appendBandDrop .. | .appendBandDscpRemark .. =>
    state.desc.InBuffer (state.desc.ptr2 + state.desc.length2) 16
  | .startPushingInstructions _ | .endPushingInstructions | .startPushingActions
  | .endPushingActions | .startAppendingBucketsToGroup | .startAttachBucketProperties
  | .endAttachBucketProperties | .startAppendingBandsToMeter
  | .endAppendingBandsToMeter => True

/-! ## Stores in the buffer -/

section Stores

variable {desc : MsgDescriptor} {place : Int} {bytes : List UInt8} {length : Nat}

theorem MsgDescriptor.InBuffer.inside (fits : desc.InBuffer place length) {offset : Nat}
    (short : offset + bytes.length ≤ length) :
    Store.Inside ⟨place + offset, bytes⟩ 0 desc.bufferLen := by
  obtain ⟨low, high⟩ := fits
  right
  constructor
  · change (0 : Int) ≤ place + offset
    omega
  · change place + (offset : Int) + (bytes.length : Int) ≤ _
    omega

theorem MsgDescriptor.InBuffer.inside_first (fits : desc.InBuffer place length)
    (short : bytes.length ≤ length) : Store.Inside ⟨place, bytes⟩ 0 desc.bufferLen := by
  have at_zero := @MsgDescriptor.InBuffer.inside _ _ bytes _ fits 0 (by omega)
  rwa [Nat.cast_zero, add_zero] at at_zero

theorem inside_iff_inBuffer (some : 0 < bytes.length) (long : bytes.length = length) :
    Store.Inside ⟨place, bytes⟩ 0 desc.bufferLen ↔ desc.InBuffer place length := by
  constructor
  · rintro (empty | fits)
    · rw [show bytes = [] from empty] at some
      exact absurd some (lt_irrefl 0)
    · rw [← long]
      exact fits
  · intro fits
    exact fits.inside_first long.le

theorem zeros_inside_iff :
    Store.Inside ⟨place, replicate length 0⟩ 0 desc.bufferLen ↔
      length = 0 ∨ desc.InBuffer place length := by
  cases length with
  | zero => simp [Store.Inside]
  | succ length =>
    rw [inside_iff_inBuffer (by simp) length_replicate]
    simp

end Stores

/-! ## Calls that look for room -/

section Bounded

variable {state : EncoderState} {element : Option (Int × Nat)} {done : Outcome}
  {place : Int} {length far : Nat}

theorem bounded_refuse : Bounded state element (refuse state.desc) := by
  constructor
  · intro store member
    cases member
  · intro _ _ _ _
    exact ⟨rfl, rfl, rfl⟩

section

variable (adds : done.status ≠ some .noRoomInBuffer)

include adds

theorem bounded_of_adds :
    Bounded state (some (place, length)) done ↔
      (∀ store ∈ done.stores, store.Inside 0 state.desc.bufferLen) ∧
        state.desc.InBuffer place length := by
  refine and_congr_right fun _ => ?_
  constructor
  · intro refused
    by_contra full
    exact adds (refused place length rfl full).1
  · intro room _ _ same full
    cases same
    exact absurd room full

theorem bounded_checked {refused : Prop} [Decidable refused]
    (inside : (∀ store ∈ done.stores, store.Inside 0 state.desc.bufferLen) ∧
      state.desc.InBuffer place length ↔ state.desc.InBuffer place far) :
    Bounded state (some (place, length)) (if refused then refuse state.desc else done) ↔
      refused ∨ state.desc.InBuffer place far := by
  by_cases no : refused
  · rw [if_pos no]
    exact iff_of_true bounded_refuse (.inl no)
  · rw [if_neg no, bounded_of_adds adds, inside, or_iff_right no]

theorem bounded_checked_within {refused : Prop} [Decidable refused]
    (within : state.desc.InBuffer place length →
      ∀ store ∈ done.stores, store.Inside 0 state.desc.bufferLen) :
    Bounded state (some (place, length)) (if refused then refuse state.desc else done) ↔
      refused ∨ state.desc.InBuffer place length :=
  bounded_checked adds ⟨And.right, fun room => ⟨within room, room⟩⟩

end

theorem bounded_none :
    Bounded state none done ↔
      ∀ store ∈ done.stores, store.Inside 0 state.desc.bufferLen := by
  simp [Bounded]

end Bounded

/-! ## Each kind of call -/

section Calls

variable {state : EncoderState}

theorem storedValue_length_le (field : OxmField) (value : List UInt8) :
    (storedValue field value).length ≤ value.length := by
  unfold storedValue
  split
  · exact length_take_le' _ _
  · exact le_rfl

/-- A match field stays inside exactly when it is refused or the buffer has all its bytes. -/
theorem setMatchField_bounded (entry : MatchField) :
    Bounded state (some (state.desc.ptr1 + state.desc.length1, entry.tlv.length))
        (ofSetMatchField entry.field entry.value entry.mask state.desc) ↔
      state.desc.noRoom (state.desc.ptr1 + state.desc.length1) (fieldLen entry) ∨
        state.desc.InBuffer (state.desc.ptr1 + state.desc.length1) entry.tlv.length := by
  have valueFits := storedValue_length_le entry.field entry.value
  have long := entry.length_tlv
  rw [entry.length_payload] at long
  rw [entry.valueWidth] at valueFits
  cases masked : entry.mask with
  | none =>
    simp only [masked, Option.isSome_none, Bool.false_eq_true, if_false] at long
    rw [ofSetMatchField_unmasked entry.valueWidth, fieldLen, masked]
    apply bounded_checked_within (by simp)
    intro fits store member
    simp only [mem_cons, not_mem_nil, or_false] at member
    rcases member with rfl | rfl
    · apply fits.inside_first
      simp only [oxmHeader, length_cons, length_nil]
      omega
    · apply @MsgDescriptor.InBuffer.inside _ _ _ _ fits ofOxmHdrLen
      simp only [ofOxmHdrLen]
      omega
  | some bits =>
  have maskFits := storedValue_length_le entry.field bits
  rw [entry.maskWidth bits masked] at maskFits
  simp only [masked, Option.isSome_some, if_true] at long
  rw [ofSetMatchField_masked (entry.maskable (by rw [masked]; rfl)) entry.valueWidth
    (entry.maskWidth bits masked), fieldLen, masked]
  apply bounded_checked_within (by simp)
  intro fits store member
  simp only [mem_cons, not_mem_nil, or_false] at member
  rcases member with rfl | rfl | rfl
  · apply fits.inside_first
    simp only [oxmHeader, length_cons, length_nil]
    omega
  · apply @MsgDescriptor.InBuffer.inside _ _ _ _ fits ofOxmHdrLen
    simp only [ofOxmHdrLen]
    omega
  · apply @MsgDescriptor.InBuffer.inside _ _ _ _ fits (4 + entry.field.width)
    omega

theorem pushInstruction_bounded {length : Nat} {bytes : List UInt8}
    (short : bytes.length ≤ length) :
    Bounded state (some (state.desc.ptr2 + state.desc.length2, length))
        (pushInstruction length (fun place => [⟨place, bytes⟩]) state.desc) ↔
      state.desc.noRoom (state.desc.ptr2 + state.desc.length2) length ∨
        state.desc.InBuffer (state.desc.ptr2 + state.desc.length2) length := by
  apply bounded_checked_within (by simp)
  intro fits store member
  rw [mem_singleton] at member
  subst member
  exact fits.inside_first short

theorem writeMetaData_bounded (metaData mask : UInt64) :
    Bounded state (some (state.desc.ptr2 + state.desc.length2, 24))
        (ofuPushWriteMetaDataInstruction metaData mask state.desc) ↔
      state.desc.noRoom (state.desc.ptr2 + state.desc.length2) 24 ∨
        state.desc.InBuffer (state.desc.ptr2 + state.desc.length2) 24 := by
  apply bounded_checked_within (by simp)
  intro fits store member
  simp only [mem_cons, not_mem_nil, or_false] at member
  rcases member with rfl | rfl
  · exact fits.inside_first (by simp)
  · exact @MsgDescriptor.InBuffer.inside _ _ _ _ fits 8 (by simp)

theorem pushActionsInstruction_bounded (type : UInt16) :
    Bounded state (some (state.desc.ptr2 + state.desc.length2, 8))
        (pushActionsInstruction type state.desc) ↔
      state.desc.noRoom (state.desc.ptr2 + state.desc.length2) 8 ∨
        state.desc.InBuffer (state.desc.ptr2 + state.desc.length2) 8 := by
  apply bounded_checked_within (by simp)
  intro fits store member
  rw [mem_singleton] at member
  subst member
  exact fits.inside_first (by simp)

variable {operands : List UInt8} {type : UInt16}

theorem pushAction_bounded {checked length : Nat} (short : 4 + operands.length ≤ length) :
    Bounded state (some (state.desc.ptr3 + state.desc.length3, length))
        (pushAction checked type length operands state.desc) ↔
      state.desc.noRoom (state.desc.ptr1 + state.desc.length1) checked ∨
        state.desc.InBuffer (state.desc.ptr3 + state.desc.length3) length := by
  apply bounded_checked_within (by simp)
  intro fits store member
  rw [mem_singleton] at member
  subst member
  apply fits.inside_first
  simp only [length_append, length_bytes16]
  omega

variable (value : OxmValue)

theorem padding_reach :
    WireAction.size (.setField value) ≤ reach (.setField value) ∧
      8 + value.field.width ≤ WireAction.size (.setField value) := by
  have long : value.tlv.length = 4 + value.field.width := by
    simp [OxmValue.tlv, oxmHeader, value.width]
    omega
  rw [WireAction.size, long, reach]
  cases value.field <;> decide

/-- A set-field action stays inside exactly when it is refused or the buffer has its reach. -/
theorem pushSetField_bounded :
    Bounded state (some (state.desc.ptr3 + state.desc.length3, WireAction.size (.setField value)))
        (pushSetField value.field (8 + value.field.width) (paddedWidth value.field)
          (storedValue value.field value.bytes) state.desc) ↔
      state.desc.noRoom (state.desc.ptr1 + state.desc.length1) (8 + value.field.width) ∨
        state.desc.InBuffer (state.desc.ptr3 + state.desc.length3) (reach (.setField value)) := by
  obtain ⟨sizeReached, sizeCovers⟩ := padding_reach value
  have valueFits := storedValue_length_le value.field value.bytes
  rw [value.width] at valueFits
  apply bounded_checked (by simp)
  constructor
  · rintro ⟨inside, room⟩
    have zeros := inside _ (mem_cons_of_mem _ (mem_singleton_self _))
    rw [zeros_inside_iff] at zeros
    rcases zeros with none | ⟨_, high⟩
    · rw [reach, if_pos none, none]
      exact ⟨room.1, by have := room.2; omega⟩
    · refine ⟨room.1, ?_⟩
      rw [reach]
      split <;> omega
  · intro fits
    constructor
    case right => exact ⟨fits.1, by have := fits.2; omega⟩
    case left =>
    intro store member
    simp only [mem_cons, not_mem_nil, or_false] at member
    rcases member with rfl | rfl
    · apply fits.inside_first
      simp only [oxmHeader, length_append, length_bytes16, length_cons, length_nil]
      omega
    rw [zeros_inside_iff]
    by_cases none : roundUp (paddedWidth value.field) = 0
    · exact .inl none
    · right
      have high := fits.2
      rw [reach, if_neg none] at high
      exact ⟨by have := fits.1; omega, by push_cast at high ⊢; omega⟩

/-- An action stays inside exactly when it is refused or the buffer has its reach. -/
theorem action_bounded {action : WireAction} {routine : MsgDescriptor → Outcome}
    (is : actionRoutine action = some routine) :
    Bounded state (some (state.desc.ptr3 + state.desc.length3, action.size)) (routine state.desc) ↔
      state.desc.noRoom (state.desc.ptr1 + state.desc.length1) (checkedLen action) ∨
        state.desc.InBuffer (state.desc.ptr3 + state.desc.length3) (reach action) := by
  cases action with
  | experimenter vendor body => cases is
  | setField value =>
    have routed : value.field ≠ .metadata := by
      intro metadata
      simp only [actionRoutine, setFieldRoutine, metadata] at is
      cases is
    rw [actionRoutine, setFieldRoutine_eq value.width routed] at is
    cases is
    exact pushSetField_bounded value
  | setQueue queueId =>
    cases is
    apply bounded_checked_within (by simp)
    intro _ store member
    cases member
  | decMplsTtl | copyTtlIn =>
    cases is
    apply bounded_checked_within (by simp)
    intro fits store member
    rw [mem_singleton] at member
    subst member
    exact fits.inside_first (by simp [WireAction.size])
  | _ =>
    cases is
    exact pushAction_bounded (by simp [WireAction.size])

theorem attachProp_bounded (short : operands.length ≤ 4) :
    Bounded state (some (state.desc.ptr1 + state.desc.length1, 8))
        (attachProp type operands state.desc) ↔
      state.desc.noRoom (state.desc.ptr1 + state.desc.length1) 8 ∨
        state.desc.InBuffer (state.desc.ptr1 + state.desc.length1) 8 := by
  apply bounded_checked_within (by simp)
  intro fits store member
  rw [mem_singleton] at member
  subst member
  apply fits.inside_first
  simp only [length_append, length_bytes16]
  omega

theorem appendBand_bounded {rate burst : UInt32} (short : operands.length ≤ 4) :
    Bounded state (some (state.desc.ptr2 + state.desc.length2, 16))
        (appendBand type rate burst operands state.desc) ↔
      state.desc.InBuffer (state.desc.ptr2 + state.desc.length2) 16 := by
  rw [bounded_of_adds (by simp [appendBand])]
  refine and_iff_right_of_imp fun fits store member => ?_
  rw [appendBand, mem_singleton] at member
  subst member
  apply fits.inside_first
  simp only [length_append, length_bytes16, length_bytes32]
  omega

theorem closing_inside_iff (desc : MsgDescriptor) :
    (∀ store ∈ desc.closing, store.Inside 0 desc.bufferLen) ↔ ClosesInside desc := by
  rw [MsgDescriptor.closing, forall_mem_cons, forall_mem_singleton,
    zeros_inside_iff, @inside_iff_inBuffer desc _ _ 4 (by simp) (by simp), ClosesInside,
    and_comm]

/-- A bucket stays inside exactly when it fits. -/
theorem appendBucket_bounded (type : GroupType) (bucketId : UInt32) :
    Bounded state (some (state.desc.ptr2 + state.desc.length2Closed 1, 8))
        (ofuAppendBucketToGroup type bucketId state.desc) ↔ BucketFits state type := by
  have routine : ofuAppendBucketToGroup type bucketId state.desc =
      appendBucket (propsCounted type) bucketId state.desc := by
    cases type <;> rfl
  have closes : (∀ store ∈ (if 0 < state.desc.length2 then state.desc.closing else []),
      store.Inside 0 state.desc.bufferLen) ↔
        (0 < state.desc.length2 → ClosesInside state.desc) := by
    by_cases begun : 0 < state.desc.length2
    · rw [if_pos begun, closing_inside_iff, forall_prop_of_true begun]
    · rw [if_neg begun]
      simp [begun]
  have unchanged : state.memory.write
      (if 0 < state.desc.length2 then state.desc.closing else []) = state.memory ↔
        (0 < state.desc.length2 → state.memory.write state.desc.closing = state.memory) := by
    by_cases begun : 0 < state.desc.length2 <;> simp [begun]
  have kept (length2 : Nat) : ({ state.desc with length2 := length2 } : MsgDescriptor) =
      state.desc ↔ length2 = state.desc.length2 := by
    constructor
    · intro same
      exact congrArg MsgDescriptor.length2 same
    · rintro rfl
      rfl
  rw [routine, BucketFits, appendBucket]
  change Bounded _ _ (if state.desc.noRoom
    (state.desc.ptr2 + state.desc.length2Closed (propsCounted type)) 8 then _ else _) ↔ _
  by_cases full : state.desc.noRoom
      (state.desc.ptr2 + state.desc.length2Closed (propsCounted type)) 8
  · -- the routine refuses, and has closed the last bucket before
    rw [if_pos full, if_pos full, Bounded, closes]
    refine and_congr_right fun _ => ?_
    constructor
    · intro refused
      by_cases room : state.desc.InBuffer (state.desc.ptr2 + state.desc.length2Closed 1) 8
      · exact .inl room
      · obtain ⟨_, same, sameMemory⟩ := refused _ _ rfl room
        exact .inr ⟨(kept _).mp same, unchanged.mp sameMemory⟩
    · rintro (room | ⟨same, sameMemory⟩) _ _ place noRoom
      · cases place
        exact absurd room noRoom
      · exact ⟨rfl, (kept _).mpr same, unchanged.mpr sameMemory⟩
  · rw [if_neg full, if_neg full, bounded_of_adds (by simp), forall_mem_append,
      forall_mem_singleton, closes, inside_iff_inBuffer (by simp) (length_bytes32 _), and_assoc,
      and_congr_right_iff]
    intro _
    exact and_comm

/-- A call writes inside the buffer exactly when it fits. -/
theorem staysInside_iff (host : ByteOrder) (state : EncoderState) (call : EncoderCall) :
    StaysInside host state call ↔ FitsBuffer host state call := by
  have nothing {outcome : Outcome} (none : outcome.stores = []) :
      Bounded state Option.none outcome ↔ True := by
    rw [bounded_none, none]
    simp
  cases call with
  | startSettingMatchFieldValues =>
    have long : (bytes16 ofpmtOxm ++ hostBytes host 2 4).length = 4 := by
      cases host <;> rfl
    apply bounded_none.trans
    exact forall_mem_singleton.trans (inside_iff_inBuffer (by omega) long)
  | setMatchField entry => exact setMatchField_bounded entry
  | endSettingMatchFieldValues =>
    apply bounded_none.trans
    apply forall_mem_cons.trans
    apply and_congr
    · exact inside_iff_inBuffer (by simp) (length_bytes16 _)
    · exact forall_mem_singleton.trans zeros_inside_iff
  | startPushingApplyActionInstruction => exact pushActionsInstruction_bounded _
  | startPushingWriteActionInstruction => exact pushActionsInstruction_bounded _
  | pushWriteMetaDataInstruction metaData mask => exact writeMetaData_bounded metaData mask
  | pushGoToTableInstruction tableId => exact pushInstruction_bounded (by simp)
  | pushClearActionInstruction => exact pushInstruction_bounded (by simp)
  | pushMeterInstruction meterId => exact pushInstruction_bounded (by simp)
  | endPushingApplyActionInstruction length =>
    apply bounded_none.trans
    exact forall_mem_singleton.trans (inside_iff_inBuffer (by simp) (length_bytes16 _))
  | pushAction action routine is => exact action_bounded is
  | appendBucket type bucketId => exact appendBucket_bounded type bucketId
  | endAppendingBucketsToGroup => exact bounded_none.trans (closing_inside_iff _)
  | attachProp prop => cases prop <;> exact attachProp_bounded (by simp)
  | appendBandDrop rate burst => exact appendBand_bounded (by simp)
  | appendBandDscpRemark rate precLevel burst => exact appendBand_bounded (by simp)
  | _ => exact nothing rfl

end Calls

/-! ## Whole runs -/

/-- Along the calls of a run, every byte is written inside the buffer and every call
without room is refused without a change, exactly if each call meets the condition on the
message before it. -/
theorem encoders_stay_inside_iff (host : ByteOrder) (state : EncoderState)
    (calls : List EncoderCall) :
    Along (encoderStep host) (StaysInside host) state calls ↔
      Along (encoderStep host) (FitsBuffer host) state calls := by
  constructor
  · exact Along.mono fun state call => (staysInside_iff host state call).mp
  · exact Along.mono fun state call => (staysInside_iff host state call).mpr

/-- An empty match, and an action behind the header of its instruction. -/
def outputCalls : List EncoderCall :=
  [.startSettingMatchFieldValues, .endSettingMatchFieldValues, .startPushingInstructions 4,
    .startPushingApplyActionInstruction,
    .pushAction (.output 1 128) (ofuPushOutputAction 1 128) rfl]

/-- In a buffer of 72 bytes the action begins at 64 and is twelve bytes long; room for it
was looked for at 56. -/
theorem output_leaves_buffer :
    ¬ Along (encoderStep .littleEndian) (StaysInside .littleEndian) (allocFlowMod 72)
      outputCalls := by
  intro along
  have output := along.2.2.2.2.1.1
  revert output
  decide

end OpenFlowController.Encoder
