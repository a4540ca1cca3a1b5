/-
Module: Messages.ActionEncoding
Purpose: What a list of actions, pushed one after the other at the third cursor, leaves in
  the message buffer.
Trusted boundary: none
-/
import OpenFlowController.Include.WireParser
import OpenFlowController.Messages.Encoder

namespace OpenFlowController.Encoder

open Include List Library Library.ByteMemory

/-! ## Pushing actions -/

/-- The message after an action has been pushed.  What no routine writes is not pushed. -/
def EncoderState.push (state : EncoderState) (action : WireAction) : EncoderState :=
  match actionRoutine action with
  | some routine => state.after (routine state.desc)
  | none => state

/-- Actions pushed one after the other. -/
def pushActions (actions : List WireAction) (state : EncoderState) : EncoderState :=
  actions.foldl EncoderState.push state

/-- An action that its routine writes as it is, and behind which the next one can go.  The
routine for a queue writes nothing, the one for the TTL of MPLS moves the wrong cursor, the
one for an I-SID stores one byte of three and a wrong length, there is none for metadata,
and an output without a length for the controller gets one of 128. -/
def ActionPlain : WireAction → Prop
  | .output _ maxLen => maxLen ≠ 0
  | .setQueue _ | .decMplsTtl | .experimenter .. => False
  | .setField value => value.field ≠ .metadata ∧ value.field ≠ .pbbIsid
  | _ => True

/-- Actions that their routines write as they are: plain ones, of which none but the first
copies the TTL inwards, after which the routine counts no other. -/
def ActionsKept (actions : List WireAction) : Prop :=
  (∀ action ∈ actions, ActionPlain action) ∧ WireAction.copyTtlIn ∉ actions.tail

/-- The lengths of actions together. -/
def actionsSize (actions : List WireAction) : Nat := (actions.map WireAction.size).sum

/-! ## One action -/

variable {action : WireAction}

theorem spells_of_holds {memory : ByteMemory} {place : Int}
    (short : 4 + action.operands.length ≤ action.size) (holds : memory.Holds place
      (bytes16 action.type ++ bytes16 (UInt16.ofNat action.size) ++ action.operands)) :
    action.Spells (memory.slice place action.size) := by
  have front := holds.slice_eq
  have long : (bytes16 action.type ++ bytes16 (UInt16.ofNat action.size) ++
      action.operands).length + (action.size - (4 + action.operands.length)) =
        action.size := by
    simp only [length_append, length_bytes16]
    omega
  constructor
  · exact length_slice _ _ _
  · rw [← long, slice_add, front, long]
    exact ⟨_, rfl⟩

/-- What one push adds to the message. -/
structure ActionPushed (state state' : EncoderState) (action : WireAction) : Prop where
  desc : state'.desc =
    { state.desc with length3 := state.desc.length3 + action.size }
  spelled : action.Spells (state'.memory.slice (state.desc.ptr3 + state.desc.length3) action.size)
  grown : Extends state.memory state'.memory (state.desc.ptr3 + state.desc.length3)
    (state.desc.ptr3 + state.desc.length3 + action.size)

/-- Where an action is to go: behind the first cursor, with room and zeros there. -/
structure ActionRoom (state : EncoderState) (size : Nat) : Prop where
  behind : state.desc.ptr1 + state.desc.length1 + 8 ≤ state.desc.ptr3 + state.desc.length3
  fits : state.desc.ptr3 + state.desc.length3 + size ≤ state.desc.bufferLen
  small : state.desc.length3 + size < 2 ^ 16
  zeros : ∀ address ≥ state.desc.ptr3 + state.desc.length3,
    address < state.desc.bufferLen → state.memory address = 0

theorem u16_of_lt {value : Nat} (small : value < 2 ^ 16) : u16 value = value :=
  Nat.mod_eq_of_lt small

section One

variable {state : EncoderState} {action : WireAction}

theorem ActionRoom.found (room : ActionRoom state action.size) {checked : Nat}
    (less : checked ≤ action.size + 8) :
    ¬ state.desc.noRoom (state.desc.ptr1 + state.desc.length1) checked := by
  have behind := room.behind
  have fits := room.fits
  intro full
  change (state.desc.bufferLen : Int) < _ at full
  omega

theorem pushAction_pushed {checked : Nat} (room : ActionRoom state action.size)
    (less : checked ≤ action.size + 8)
    (short : 4 + action.operands.length ≤ action.size) :
    (pushAction checked action.type action.size action.operands state.desc).status =
        some .actionPushSuccess ∧
      ActionPushed state
        (state.after (pushAction checked action.type action.size action.operands state.desc))
        action := by
  have grown := put_extends state.memory (state.desc.ptr3 + state.desc.length3)
    (bytes16 action.type ++ bytes16 (UInt16.ofNat action.size) ++ action.operands)
  have held := put_holds state.memory (state.desc.ptr3 + state.desc.length3)
    (bytes16 action.type ++ bytes16 (UInt16.ofNat action.size) ++ action.operands)
  rw [pushAction, if_neg (room.found less), u16_of_lt room.small]
  constructor
  · rfl
  constructor
  case desc => rfl
  case spelled => exact spells_of_holds short held
  case grown =>
    refine grown.mono le_rfl ?_
    simp only [length_append, length_bytes16]
    omega

theorem tlv_length (value : OxmValue) : value.tlv.length = 4 + value.field.width := by
  simp only [OxmValue.tlv, oxmHeader, length_append, length_cons, length_nil, value.width]

variable {value : OxmValue}

theorem setField_size (plain : value.field ≠ .pbbIsid) :
    WireAction.size (.setField value) =
      8 + value.field.width + roundUp (paddedWidth value.field) := by
  rw [WireAction.size, tlv_length]
  generalize value.field = field at plain
  cases field <;> first | exact absurd rfl plain | rfl

/-- The stores of a set-field action spell it where zeros were. -/
theorem setFieldStores_spell {memory : ByteMemory} {place : Int} {value : OxmValue}
    (plain : value.field ≠ .pbbIsid)
    (zeros : ∀ address ≥ place,
      address < place + WireAction.size (.setField value) → memory address = 0) :
    let memory' := memory.write
      [⟨place, bytes16 Ofpat.setField ++
          bytes16 (UInt16.ofNat (WireAction.size (.setField value))) ++
          oxmHeader value.field false value.field.width ++ value.bytes⟩,
        ⟨place + 4 + (8 + value.field.width : Nat),
          replicate (roundUp (paddedWidth value.field)) 0⟩]
    (WireAction.setField value).Spells (memory'.slice place (WireAction.size (.setField value))) ∧
      Extends memory memory' place (place + WireAction.size (.setField value)) := by
  have size := setField_size plain
  have header : bytes16 Ofpat.setField ++
      bytes16 (UInt16.ofNat (WireAction.size (.setField value))) ++
      oxmHeader value.field false value.field.width ++ value.bytes =
        bytes16 Ofpat.setField ++
          bytes16 (UInt16.ofNat (WireAction.size (.setField value))) ++ value.tlv := by
    rw [OxmValue.tlv, ← append_assoc]
  rw [header]
  generalize is : bytes16 Ofpat.setField ++
    bytes16 (UInt16.ofNat (WireAction.size (.setField value))) ++ value.tlv = front
  have long : front.length = 8 + value.field.width := by
    simp only [← is, length_append, length_bytes16, tlv_length]
    omega
  have operands : (WireAction.setField value).operands =
      value.tlv ++ replicate (roundUp (paddedWidth value.field)) 0 := by
    have covered : (4 + value.tlv.length + 7) / 8 * 8 =
        WireAction.size (.setField value) := rfl
    rw [WireAction.operands, covered, size, tlv_length]
    congr 2
    omega
  have one := put_extends memory place front
  have held := put_holds memory place front
  constructor
  case left =>
    apply spells_of_holds
    case short =>
      rw [operands, length_append, tlv_length, length_replicate]
      omega
    case holds =>
    rw [operands, ← append_assoc]
    change Holds _ place (bytes16 Ofpat.setField ++
      bytes16 (UInt16.ofNat (WireAction.size (.setField value))) ++ value.tlv ++ _)
    rw [is, holds_append]
    constructor
    case left =>
      apply held.same
      apply put_same
      right
      left
      change place + (front.length : Int) ≤ place + 4 + ((8 + value.field.width : Nat) : Int)
      omega
    case right =>
      rw [holds_replicate]
      intro address low high
      apply put_zeros
      apply one.zeros address low
      exact zeros address (by omega) (by omega)
  case right =>
    constructor
    case below =>
      intro address before
      have two := put_extends (memory.put ⟨place, front⟩)
        (place + 4 + ((8 + value.field.width : Nat) : Int))
        (replicate (roundUp (paddedWidth value.field)) 0)
      exact (two.below address (by omega)).trans (one.below address before)
    case zeros =>
      intro address behind zero
      apply put_zeros
      exact one.zeros address (by omega) zero

theorem pushSetField_pushed (plain : value.field ≠ .pbbIsid)
    (room : ActionRoom state (WireAction.size (.setField value))) :
    (pushSetField value.field (8 + value.field.width) (paddedWidth value.field)
        (storedValue value.field value.bytes) state.desc).status =
        some .actionPushSuccess ∧
      ActionPushed state
        (state.after (pushSetField value.field (8 + value.field.width)
          (paddedWidth value.field) (storedValue value.field value.bytes) state.desc))
        (.setField value) := by
  have size := setField_size plain
  have whole : storedValue value.field value.bytes = value.bytes := if_neg plain
  have enough : 8 + value.field.width ≤ WireAction.size (.setField value) + 8 := by omega
  have fits := room.fits
  have written := @setFieldStores_spell state.memory
    (state.desc.ptr3 + state.desc.length3) value plain
    fun address low high => room.zeros address low (by omega)
  rw [pushSetField, if_neg (room.found enough), whole, ← size, u16_of_lt room.small]
  exact ⟨rfl, rfl, written.1, written.2⟩

attribute [local simp] WireAction.operands

theorem copyTtlIn_pushed (room : ActionRoom state (WireAction.size .copyTtlIn))
    (first : state.desc.length3 = 0) :
    (ofuPushCopyTtlInwardAction state.desc).status = some .actionPushSuccess ∧
      ActionPushed state (state.after (ofuPushCopyTtlInwardAction state.desc)) .copyTtlIn := by
  have pushed := @pushAction_pushed state .copyTtlIn ofuOutputActionLen room le_rfl
    (by simp [WireAction.size])
  have same : ofuPushCopyTtlInwardAction state.desc =
      pushAction ofuOutputActionLen Ofpat.copyTtlIn 8 [] state.desc := by
    simp only [ofuPushCopyTtlInwardAction, pushAction, first, u16, append_nil]
    rfl
  rw [same]
  exact pushed

/-- With room, a plain action is pushed behind the others. -/
theorem action_pushed {routine : MsgDescriptor → Outcome}
    (is : actionRoutine action = some routine) (plain : ActionPlain action)
    (copies : action = .copyTtlIn → state.desc.length3 = 0)
    (room : ActionRoom state action.size) :
    (routine state.desc).status = some .actionPushSuccess ∧
      ActionPushed state (state.after (routine state.desc)) action := by
  cases action with
  | setQueue | decMplsTtl | experimenter => exact plain.elim
  | setField value =>
    rw [actionRoutine, setFieldRoutine_eq value.width plain.1] at is
    cases is
    exact pushSetField_pushed plain.2 room
  | copyTtlIn =>
    cases is
    exact copyTtlIn_pushed room (copies rfl)
  | output port maxLen =>
    cases is
    have asked : (if maxLen = 0 then 128 else maxLen) = maxLen := if_neg plain
    rw [ofuPushOutputAction, asked]
    exact @pushAction_pushed state (.output port maxLen) ofuOutputActionLen room
      (by simp [ofuOutputActionLen, WireAction.size])
      (by simp [WireAction.size])
  | decNwTtl =>
    cases is
    exact @pushAction_pushed state .decNwTtl 8 room (by simp) (by simp [WireAction.size])
  | _ =>
  cases is
  refine @pushAction_pushed state _ ofuOutputActionLen room ?_ ?_ <;>
    simp [ofuOutputActionLen, WireAction.size]

end One

/-! ## Lists of actions -/

theorem push_of_routine {state : EncoderState} {action : WireAction}
    {routine : MsgDescriptor → Outcome} (is : actionRoutine action = some routine) :
    state.push action = state.after (routine state.desc) := by
  rw [EncoderState.push, is]

theorem routine_of_plain (plain : ActionPlain action) :
    ∃ routine, actionRoutine action = some routine := by
  cases action with
  | setQueue | decMplsTtl | experimenter => exact plain.elim
  | setField value => exact ⟨_, setFieldRoutine_eq value.width plain.1⟩
  | _ => exact ⟨_, rfl⟩

/-- What pushing a list of actions adds to the message. -/
structure ActionsPushed (state state' : EncoderState) (actions : List WireAction) :
    Prop where
  desc : state'.desc =
    { state.desc with length3 := state.desc.length3 + actionsSize actions }
  spelled : SpellsAll WireAction.Spells actions
    (state'.memory.slice (state.desc.ptr3 + state.desc.length3) (actionsSize actions))
  grown : Extends state.memory state'.memory (state.desc.ptr3 + state.desc.length3)
    (state.desc.ptr3 + state.desc.length3 + actionsSize actions)

theorem ActionPushed.roomLeft {state state' : EncoderState} {left : Nat}
    (pushed : ActionPushed state state' action) (room : ActionRoom state (action.size + left)) :
    ActionRoom state' left := by
  have behind := room.behind
  have fits := room.fits
  have small := room.small
  constructor
  case behind =>
    simp only [pushed.desc, Nat.cast_add]
    omega
  case fits =>
    simp only [pushed.desc, Nat.cast_add] at fits ⊢
    omega
  case small =>
    simp only [pushed.desc]
    omega
  case zeros =>
    simp only [pushed.desc, Nat.cast_add]
    intro address above inside
    apply pushed.grown.zeros address (by omega)
    exact room.zeros address (by omega) inside

theorem ActionRoom.mono {state : EncoderState} {size less : Nat}
    (room : ActionRoom state size) (smaller : less ≤ size) : ActionRoom state less where
  behind := room.behind
  fits := by have := room.fits; omega
  small := by have := room.small; omega
  zeros := room.zeros

/-- With room, plain actions are pushed one behind the other. -/
theorem actions_pushed {state : EncoderState} {actions : List WireAction}
    (plain : ∀ action ∈ actions, ActionPlain action)
    (others : WireAction.copyTtlIn ∉ actions.tail)
    (first : actions.head? = some .copyTtlIn → state.desc.length3 = 0)
    (room : ActionRoom state (actionsSize actions)) :
    ActionsPushed state (pushActions actions state) actions := by
  induction actions generalizing state with
  | nil =>
    have nothing : (state.desc.ptr3 + state.desc.length3 + (actionsSize [] : Nat) : Int) =
        state.desc.ptr3 + state.desc.length3 := by
      change _ + ((0 : Nat) : Int) = _
      omega
    constructor
    case desc => rfl
    case spelled => exact SpellsAll.nil
    case grown =>
      rw [nothing]
      exact Extends.refl _ _
  | cons action rest ih =>
  have sizes : actionsSize (action :: rest) = action.size + actionsSize rest := by
    simp [actionsSize]
  obtain ⟨routine, is⟩ := routine_of_plain (plain action mem_cons_self)
  have pushed := (action_pushed is (plain action mem_cons_self)
    (fun copies => first (by rw [copies]; rfl)) (room.mono (by omega))).2
  rw [← push_of_routine is] at pushed
  have noCopy : rest.head? ≠ some .copyTtlIn := fun head =>
    others (mem_of_mem_head? head)
  have behind := @ih (state.push action)
    (fun action member => plain action (mem_cons_of_mem _ member))
    (fun member => others (mem_of_mem_tail member))
    (fun head => absurd head noCopy) (pushed.roomLeft room)
  have place : ((state.push action).desc.ptr3 + (state.push action).desc.length3 : Int) =
      state.desc.ptr3 + state.desc.length3 + action.size := by
    rw [pushed.desc]
    change state.desc.ptr3 + ((state.desc.length3 + action.size : Nat) : Int) = _
    omega
  have grown := behind.grown
  have spelled := behind.spelled
  rw [place] at grown spelled
  change ActionsPushed state (pushActions rest (state.push action)) (action :: rest)
  constructor
  case desc =>
    rw [behind.desc, pushed.desc, sizes, Nat.add_assoc]
  case spelled =>
    rw [sizes, slice_add]
    apply SpellsAll.cons _ spelled
    rw [(grown.same le_rfl).slice_eq]
    exact pushed.spelled
  case grown =>
    rw [sizes, Nat.cast_add, ← add_assoc]
    exact pushed.grown.trans grown

end OpenFlowController.Encoder
