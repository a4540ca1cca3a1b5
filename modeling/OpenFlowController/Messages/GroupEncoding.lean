/-
Module: Messages.GroupEncoding
Purpose: What a list of buckets with actions and properties leaves in the message buffer
  when it is appended to a group.
Source: ofproto/src/messages/of_msg_utils.c 3215-3549; ofproto/src/messages/groupapi.c
  206-575 (of_frame_actions_and_buckets)
Trusted boundary: none
-/
import OpenFlowController.Messages.ActionEncoding

namespace OpenFlowController.Encoder

open Include List Library Library.ByteMemory

/-! ## The order of the calls -/

/-- A bucket to append.  Without properties the calls that begin and end them may be left
out. -/
structure GroupBucket where
  bucketId : UInt32
  actions : List WireAction
  attached : Option (List BucketProp)

/-- The properties of a bucket. -/
def GroupBucket.props (bucket : GroupBucket) : List BucketProp := bucket.attached.getD []

/-- A property as it is on the wire. -/
def BucketProp.wire : BucketProp → WireProp
  | .weight value => .weight value 0
  | .watchPort port => .watchPort port
  | .watchGroup groupId => .watchGroup groupId

/-- A bucket as it is on the wire. -/
def GroupBucket.wire (bucket : GroupBucket) : WireBucket where
  bucketId := bucket.bucketId
  actions := bucket.actions
  props := bucket.props.map BucketProp.wire

/-- The message after a property has been attached. -/
def EncoderState.attach (state : EncoderState) (prop : BucketProp) : EncoderState :=
  state.after (attachRoutine prop state.desc)

/-- The calls that attach properties. -/
def attachProps (props : List BucketProp) (state : EncoderState) : EncoderState :=
  let started := state.after (ofuStartAttachBucketProperties state.desc)
  let filled := props.foldl EncoderState.attach started
  filled.after (ofuEndAttachBucketProperties filled.desc)

/-- The calls that push the actions of a bucket. -/
def pushBucketActions (actions : List WireAction) (state : EncoderState) : EncoderState :=
  let started := state.after (ofuStartPushingActions state.desc)
  let pushed := pushActions actions started
  pushed.after (ofuEndPushingActions pushed.desc)

/-- The calls that fill a bucket. -/
def fillBucket (bucket : GroupBucket) (state : EncoderState) : EncoderState :=
  match bucket.attached with
  | none => pushBucketActions bucket.actions state
  | some props => attachProps props (pushBucketActions bucket.actions state)

/-- The calls for a bucket. -/
def encodeBucket (type : GroupType) (state : EncoderState) (bucket : GroupBucket) :
    EncoderState :=
  fillBucket bucket (state.after (ofuAppendBucketToGroup type bucket.bucketId state.desc))

/-- The calls for the buckets of a group, and the length that the last of them returns. -/
def encodeBuckets (type : GroupType) (buckets : List GroupBucket) (state : EncoderState) :
    EncoderState × Nat :=
  let started := state.after (ofuStartAppendingBucketsToGroup state.desc)
  let filled := buckets.foldl (encodeBucket type) started
  let ended := ofuEndAppendingBucketsToGroup filled.desc
  (filled.after ended, ended.returned)

/-! ## What the routines write as it is -/

/-- Buckets that the routines write as they are.  Behind the properties of a bucket the
routines put the header of the next one in a wrong place, so that only the last may have
some. -/
def BucketsKept : List GroupBucket → Prop
  | [] => True
  | bucket :: rest =>
    ActionsKept bucket.actions ∧ (rest ≠ [] → bucket.props = []) ∧ BucketsKept rest

/-- The lengths of buckets together. -/
def bucketsSize (buckets : List GroupBucket) : Nat :=
  (buckets.map fun bucket => bucket.wire.size).sum

theorem GroupBucket.size_eq (bucket : GroupBucket) :
    bucket.wire.size = 8 + actionsSize bucket.actions + 8 * bucket.props.length := by
  simp only [WireBucket.size, WireBucket.actionsSize, GroupBucket.wire, WireProp.size,
    actionsSize, length_map, Nat.mul_comm]

theorem roundUp_of_aligned {length : Nat} (aligned : 8 ∣ length) : roundUp length = 0 := by
  rw [roundUp]
  omega

/-! ## A bucket that has been begun -/

/-- A bucket has been begun at a place: its number is there, and actions are to follow. -/
structure Begun (state : EncoderState) (place : Int) (bucketId : UInt32) : Prop where
  first : state.desc.ptr2 = 24
  next : state.desc.ptr2 + state.desc.length2 = place + 8
  length1 : state.desc.length1 = 0
  cursor : state.desc.ptr2 = state.desc.ptr3 → state.desc.ptr1 = 24
  behind : state.desc.ptr1 ≤ place
  held : state.memory.Holds (place + 4) (bytes32 bucketId)
  zeros : ∀ address ≥ place + 8, address < state.desc.bufferLen → state.memory address = 0

/-- A bucket lies at a place, but for its lengths, which are still in the descriptor. -/
structure Filled (state : EncoderState) (place : Int) (bucket : GroupBucket) : Prop where
  first : state.desc.ptr2 = 24
  next : state.desc.ptr2 + state.desc.length2 = place + 8 + actionsSize bucket.actions
  length3 : state.desc.length3 = actionsSize bucket.actions
  length1 : state.desc.length1 = 8 * bucket.props.length
  ptr3 : state.desc.ptr3 = place + 8
  behind : state.desc.ptr1 + state.desc.length1 ≤ place + bucket.wire.size
  held : state.memory.Holds (place + 4) (bytes32 bucket.bucketId)
  actions : SpellsAll WireAction.Spells bucket.actions
    (state.memory.slice (place + 8) (actionsSize bucket.actions))
  props : SpellsAll WireProp.Spells bucket.wire.props
    (state.memory.slice (place + 8 + actionsSize bucket.actions) (8 * bucket.props.length))
  zeros : ∀ address ≥ place + bucket.wire.size, address < state.desc.bufferLen →
    state.memory address = 0

/-- Room for bytes from a place on, in a message that stays short enough. -/
structure PlaceRoom (state : EncoderState) (place : Int) (size : Nat) : Prop where
  start : 24 ≤ place
  fits : place + size ≤ state.desc.bufferLen
  small : place + size < 2 ^ 16

section Bucket

variable {state : EncoderState} {place : Int} {bucket : GroupBucket}

/-! ## Actions of a bucket -/

/-- What pushing the actions of a bucket leaves. -/
structure ActionsFilled (state state' : EncoderState) (place : Int)
    (actions : List WireAction) : Prop where
  desc : ∃ dataLen, state'.desc = { state.desc with
    length2 := state.desc.length2 + actionsSize actions
    ptr3 := place + 8, length3 := actionsSize actions, dataLen := dataLen }
  spelled : SpellsAll WireAction.Spells actions
    (state'.memory.slice (place + 8) (actionsSize actions))
  grown : Extends state.memory state'.memory (place + 8) (place + 8 + actionsSize actions)

/-- The actions of a bucket are filled in, one behind the other. -/
theorem bucketActions_filled {bucketId : UInt32} {actions : List WireAction}
    (begun : Begun state place bucketId) (kept : ActionsKept actions)
    (room : PlaceRoom state place (8 + actionsSize actions)) :
    ActionsFilled state (pushBucketActions actions state) place actions := by
  have fits := room.fits
  have small := room.small
  have next := begun.next
  have behind := begun.behind
  have first := begun.first
  have empty := begun.length1
  generalize startedIs : state.after (ofuStartPushingActions state.desc) = started
  have second : (if state.desc.ptr2 = state.desc.ptr3 then
      state.desc.ptr1 + (state.desc.length1 : Int) else state.desc.ptr2) =
        state.desc.ptr2 := by
    split
    · rename_i same
      rw [begun.cursor same, empty, first]
      rfl
    · rfl
  have startedDesc : started.desc =
      { state.desc with ptr3 := place + 8, length3 := 0 } := by
    rw [← startedIs, EncoderState.after, ofuStartPushingActions]
    simp only [second, next]
  have startedMemory : started.memory = state.memory := by
    rw [← startedIs]
    rfl
  have at3 : started.desc.ptr3 + (started.desc.length3 : Int) = place + 8 := by
    rw [startedDesc]
    exact add_zero _
  have pushed := @actions_pushed started actions kept.1 kept.2 (fun _ => by rw [startedDesc])
    { behind := by
        rw [at3, startedDesc]
        change state.desc.ptr1 + (state.desc.length1 : Int) + 8 ≤ _
        omega
      fits := by
        rw [at3, startedDesc]
        change _ ≤ (state.desc.bufferLen : Int)
        omega
      small := by
        rw [startedDesc]
        change 0 + _ < _
        omega
      zeros := by
        rw [at3, startedDesc, startedMemory]
        exact begun.zeros }
  have pushedDesc := pushed.desc
  have spelled := pushed.spelled
  have grown := pushed.grown
  rw [startedDesc] at pushedDesc
  rw [at3] at spelled grown
  rw [startedMemory] at grown
  have length2 : u16 ((pushActions actions started).desc.length2 +
      (pushActions actions started).desc.length3) =
        state.desc.length2 + actionsSize actions := by
    rw [pushedDesc]
    change u16 (state.desc.length2 + (0 + actionsSize actions)) = _
    rw [Nat.zero_add, u16_of_lt]
    omega
  have encoded : pushBucketActions actions state =
      (pushActions actions started).after
        (ofuEndPushingActions (pushActions actions started).desc) := by
    rw [pushBucketActions, startedIs]
  rw [encoded]
  constructor
  case desc =>
    rw [EncoderState.after, ofuEndPushingActions]
    simp only [length2]
    generalize u16 _ = dataLen
    rw [pushedDesc]
    simp only [Nat.zero_add]
    exact ⟨dataLen, rfl⟩
  case spelled => exact spelled
  case grown => exact grown

/-! ## Properties of a bucket -/

/-- Room and zeros for properties at the first cursor. -/
structure PropRoom (state : EncoderState) (size : Nat) : Prop where
  fits : state.desc.ptr1 + state.desc.length1 + size ≤ state.desc.bufferLen
  small : state.desc.length1 + size < 2 ^ 16
  zeros : ∀ address ≥ state.desc.ptr1 + state.desc.length1,
    address < state.desc.bufferLen → state.memory address = 0

/-- What attaching properties adds to the message. -/
structure PropsAdded (state state' : EncoderState) (props : List BucketProp) : Prop where
  desc : state'.desc =
    { state.desc with length1 := state.desc.length1 + 8 * props.length }
  spelled : SpellsAll WireProp.Spells (props.map BucketProp.wire)
    (state'.memory.slice (state.desc.ptr1 + state.desc.length1) (8 * props.length))
  grown : Extends state.memory state'.memory (state.desc.ptr1 + state.desc.length1)
    (state.desc.ptr1 + state.desc.length1 + (8 * props.length : Nat))

/-- A property is added behind the others. -/
theorem attachProp_added {prop : BucketProp} {type : UInt16} {operands : List UInt8}
    {count : Nat} (room : PropRoom state 8)
    (is : attachRoutine prop = attachProp type operands)
    (wire : bytes16 prop.wire.type ++ bytes16 (UInt16.ofNat WireProp.size) ++
      prop.wire.operands =
        bytes16 type ++ bytes16 8 ++ operands ++ replicate count 0) :
    PropsAdded state (state.attach prop) [prop] := by
  have fits := room.fits
  have found : ¬ state.desc.noRoom (state.desc.ptr1 + state.desc.length1) 8 := by
    intro full
    change (state.desc.bufferLen : Int) < _ at full
    omega
  generalize front : bytes16 type ++ bytes16 8 ++ operands = header at wire
  have held := put_holds state.memory (state.desc.ptr1 + state.desc.length1) header
  have grown := put_extends state.memory (state.desc.ptr1 + state.desc.length1) header
  have long : header.length + count = 8 := by
    have lengths := congrArg List.length wire
    simp only [length_append, length_bytes16, prop.wire.length_operands,
      length_replicate] at lengths
    omega
  rw [EncoderState.attach, is, attachProp]
  simp only [if_neg found, front, u16_of_lt room.small]
  constructor
  case desc => rfl
  case spelled =>
    refine ⟨[_], .cons ?_ .nil, (append_nil _).symm⟩
    have whole : Holds (state.memory.put ⟨state.desc.ptr1 + state.desc.length1, header⟩)
        (state.desc.ptr1 + state.desc.length1) (header ++ replicate count 0) := by
      rw [holds_append, holds_replicate]
      refine ⟨held, fun address low high => ?_⟩
      apply grown.zeros address low
      exact room.zeros address (by omega) (by omega)
    have bytes := whole.slice_eq
    rw [length_append, length_replicate, long] at bytes
    exact bytes.trans wire.symm
  case grown =>
    refine grown.mono le_rfl ?_
    change _ ≤ _ + ((8 : Nat) : Int)
    omega

theorem prop_added {prop : BucketProp} (room : PropRoom state 8) :
    PropsAdded state (state.attach prop) [prop] := by
  cases prop with
  | weight value =>
    apply @attachProp_added state (.weight value) _ _ 2 room rfl
    rfl
  | watchPort port =>
    apply @attachProp_added state (.watchPort port) _ _ 0 room rfl
    exact (append_nil _).symm
  | watchGroup groupId =>
    apply @attachProp_added state (.watchGroup groupId) _ _ 0 room rfl
    exact (append_nil _).symm

/-- With room, all properties are added. -/
theorem props_added {props : List BucketProp} (room : PropRoom state (8 * props.length)) :
    PropsAdded state (props.foldl EncoderState.attach state) props := by
  induction props generalizing state with
  | nil =>
    constructor
    case desc => rfl
    case spelled => exact SpellsAll.nil
    case grown => simpa using Extends.refl state.memory _
  | cons prop rest ih =>
  have fits := room.fits
  have small := room.small
  rw [length_cons] at fits small
  obtain ⟨desc, spelled, grown⟩ := @prop_added state prop ⟨by omega, by omega, room.zeros⟩
  change Extends _ _ _ (_ + ((8 : Nat) : Int)) at grown
  have next : (state.attach prop).desc.ptr1 + ((state.attach prop).desc.length1 : Int) =
      state.desc.ptr1 + state.desc.length1 + (8 : Nat) := by
    rw [desc]
    change state.desc.ptr1 + ((state.desc.length1 + 8 : Nat) : Int) = _
    omega
  have others := @ih (state.attach prop)
    { fits := by
        rw [next, desc]
        change _ ≤ (state.desc.bufferLen : Int)
        omega
      small := by
        rw [desc]
        change state.desc.length1 + 8 + _ < _
        omega
      zeros := by
        rw [next, desc]
        intro address above inside
        apply grown.zeros address above
        exact room.zeros address (by omega) inside }
  have othersSpelled := others.spelled
  have othersGrown := others.grown
  rw [next] at othersSpelled othersGrown
  have eight : 8 * (prop :: rest).length = 8 + 8 * rest.length := by
    rw [length_cons]
    omega
  rw [foldl_cons]
  constructor
  case desc =>
    rw [others.desc, desc, eight, ← Nat.add_assoc]
    rfl
  case spelled =>
    rw [eight, slice_add]
    have first : SpellsAll WireProp.Spells [prop.wire] (slice _ _ 8) := spelled
    rw [← (othersGrown.same (le_refl (_ + ((8 : Nat) : Int)))).slice_eq] at first
    exact first.append othersSpelled
  case grown =>
    rw [eight, Nat.cast_add, ← add_assoc]
    exact grown.trans othersGrown

/-- The properties are all added, behind the spot where they began. -/
theorem attachProps_added {props : List BucketProp} {spot : Int}
    (here : state.desc.ptr2 + state.desc.length2 = spot)
    (fits : spot + (8 * props.length : Nat) ≤ state.desc.bufferLen)
    (small : 8 * props.length < 2 ^ 16)
    (zeros : ∀ address ≥ spot, address < state.desc.bufferLen → state.memory address = 0) :
    (∃ dataLen, (attachProps props state).desc = { state.desc with
      ptr1 := spot, length1 := 8 * props.length, dataLen := dataLen }) ∧
    SpellsAll WireProp.Spells (props.map BucketProp.wire)
      ((attachProps props state).memory.slice spot (8 * props.length)) ∧
    Extends state.memory (attachProps props state).memory spot
      (spot + (8 * props.length : Nat)) := by
  generalize startedIs : state.after (ofuStartAttachBucketProperties state.desc) = started
  have startedDesc : started.desc = { state.desc with ptr1 := spot, length1 := 0 } := by
    rw [← startedIs, EncoderState.after, ofuStartAttachBucketProperties, here]
  have startedMemory : started.memory = state.memory := by
    rw [← startedIs]
    rfl
  have at1 : started.desc.ptr1 + (started.desc.length1 : Int) = spot := by
    rw [startedDesc]
    exact add_zero _
  have added := @props_added started props
    { fits := by
        rw [at1, startedDesc]
        exact fits
      small := by
        rw [startedDesc]
        change 0 + _ < _
        omega
      zeros := by
        rw [at1, startedDesc, startedMemory]
        exact zeros }
  have spelled := added.spelled
  have grown := added.grown
  rw [at1] at spelled grown
  rw [startedMemory] at grown
  have encoded : attachProps props state =
      (props.foldl EncoderState.attach started).after (ofuEndAttachBucketProperties
        (props.foldl EncoderState.attach started).desc) := by
    rw [attachProps, startedIs]
  rw [encoded]
  refine ⟨?_, spelled, grown⟩
  rw [EncoderState.after, ofuEndAttachBucketProperties]
  generalize u16 _ = dataLen
  rw [added.desc, startedDesc]
  simp only [Nat.zero_add]
  exact ⟨dataLen, rfl⟩

/-- A bucket begun is filled. -/
theorem bucket_filled (begun : Begun state place bucket.bucketId)
    (kept : ActionsKept bucket.actions) (room : PlaceRoom state place bucket.wire.size) :
    Filled (fillBucket bucket state) place bucket ∧
      (fillBucket bucket state).desc.bufferLen = state.desc.bufferLen ∧
      Extends state.memory (fillBucket bucket state).memory (place + 8)
        (place + bucket.wire.size) := by
  have start := room.start
  have fits := room.fits
  have small := room.small
  have next := begun.next
  have behind := begun.behind
  have size := bucket.size_eq
  have four : (bytes32 bucket.bucketId).length = 4 := length_bytes32 _
  obtain ⟨⟨dataLen, desc⟩, spelled, grown⟩ := bucketActions_filled begun kept
    ⟨start, by omega, by omega⟩
  generalize filledIs : pushBucketActions bucket.actions state = filled
    at desc spelled grown
  have spot : filled.desc.ptr2 + (filled.desc.length2 : Int) =
      place + 8 + actionsSize bucket.actions := by
    rw [desc]
    change state.desc.ptr2 + ((state.desc.length2 + actionsSize bucket.actions : Nat) : Int) = _
    omega
  have idHeld := grown.holds begun.held (by omega)
  cases attached : bucket.attached with
  | none =>
    have none : bucket.props = [] := by rw [GroupBucket.props, attached]; rfl
    have noWire : bucket.wire.props = [] := by
      rw [GroupBucket.wire, none]
      rfl
    have done : fillBucket bucket state = filled := by
      rw [fillBucket, attached, ← filledIs]
    rw [done]
    refine ⟨?_, by rw [desc], grown.mono le_rfl⟩
    constructor
    case first => rw [desc]; exact begun.first
    case next => exact spot
    case length3 => rw [desc]
    case length1 =>
      rw [desc, none]
      exact begun.length1
    case ptr3 => rw [desc]
    case behind =>
      have empty := begun.length1
      rw [desc]
      change state.desc.ptr1 + (state.desc.length1 : Int) ≤ _
      omega
    case held => exact idHeld
    case actions => exact spelled
    case props =>
      rw [noWire, none]
      exact SpellsAll.nil
    case zeros =>
      rw [desc]
      intro address above inside
      apply grown.zeros address (by omega)
      exact begun.zeros address (by omega) inside
  | some props =>
  have is : bucket.props = props := by rw [GroupBucket.props, attached]; rfl
  have wire : bucket.wire.props = props.map BucketProp.wire := by
    rw [GroupBucket.wire, is]
  rw [is] at size
  have bufferLen : filled.desc.bufferLen = state.desc.bufferLen := by rw [desc]
  obtain ⟨⟨dataLen', desc'⟩, props', grown'⟩ := @attachProps_added filled props _ spot
    (by rw [bufferLen]; omega) (by omega) (by
      rw [bufferLen]
      intro address above inside
      apply grown.zeros address above
      exact begun.zeros address (by omega) inside)
  have done : fillBucket bucket state = attachProps props filled := by
    rw [fillBucket, attached, ← filledIs]
  rw [done]
  refine ⟨?_, by rw [desc', desc], ?_⟩
  · constructor
    case first => rw [desc', desc]; exact begun.first
    case next =>
      rw [desc']
      exact spot
    case length3 => rw [desc', desc]
    case length1 => rw [desc', is]
    case ptr3 => rw [desc', desc]
    case behind =>
      rw [desc']
      change place + 8 + (actionsSize bucket.actions : Int) + ((8 * props.length : Nat) : Int) ≤ _
      omega
    case held => exact grown'.holds idHeld (by omega)
    case actions =>
      rw [(grown'.same le_rfl).slice_eq]
      exact spelled
    case props =>
      rw [wire, is]
      exact props'
    case zeros =>
      rw [desc', desc]
      intro address above inside
      apply grown'.zeros address (by omega)
      apply grown.zeros address (by omega)
      exact begun.zeros address (by omega) inside
  · exact (grown.trans grown').mono le_rfl

/-! ## Closing a bucket -/

theorem Filled.closing (filled : Filled state place bucket)
    (room : PlaceRoom state place bucket.wire.size) :
    state.desc.closing = [⟨place + bucket.wire.size, []⟩,
        ⟨place, bytes16 (UInt16.ofNat bucket.wire.size) ++
          bytes16 (UInt16.ofNat (actionsSize bucket.actions))⟩] ∧
      state.desc.bucketLen = bucket.wire.size := by
  have start := room.start
  have small := room.small
  have size := bucket.size_eq
  have next := filled.next
  have aligned := bucket.wire.aligned
  have bucketLen : state.desc.bucketLen = bucket.wire.size := by
    rw [MsgDescriptor.bucketLen, filled.length3, filled.length1, u16_of_lt, size]
    · rfl
    · rw [ofuGroupActionBucketLen]
      omega
  have lastBucket : state.desc.lastBucket = place := by
    rw [MsgDescriptor.lastBucket, next, filled.length3, ofuGroupActionBucketLen]
    omega
  refine ⟨?_, bucketLen⟩
  rw [MsgDescriptor.closing, bucketLen, lastBucket, roundUp_of_aligned aligned, filled.length3]
  rfl

/-- A bucket filled spells itself once its length is stored. -/
theorem Filled.spelled (filled : Filled state place bucket)
    (room : PlaceRoom state place bucket.wire.size) :
    bucket.wire.Spells ((state.memory.write state.desc.closing).slice place bucket.wire.size) ∧
      Extends state.memory (state.memory.write state.desc.closing) place
        (place + bucket.wire.size) := by
  have start := room.start
  have small := room.small
  have size := bucket.size_eq
  have header : (bytes16 (UInt16.ofNat bucket.wire.size) ++
      bytes16 (UInt16.ofNat (actionsSize bucket.actions))).length = 4 := by
    rw [length_append, length_bytes16, length_bytes16]
  have nothing : state.memory.put ⟨place + bucket.wire.size, []⟩ = state.memory := by
    funext address
    apply if_neg
    rintro ⟨low, high⟩
    change place + (bucket.wire.size : Int) ≤ address at low
    change address < place + (bucket.wire.size : Int) + 0 at high
    omega
  rw [(filled.closing room).1, write_cons, nothing, write_cons, write_nil]
  generalize frontIs : bytes16 (UInt16.ofNat bucket.wire.size) ++
    bytes16 (UInt16.ofNat (actionsSize bucket.actions)) = front at header
  have grown := put_extends state.memory place front
  have frontHeld := put_holds state.memory place front
  have kept (first last : Int) (behind : place + 4 ≤ first) :
      Same state.memory (state.memory.put ⟨place, front⟩) first last := by
    apply put_same
    right
    right
    change place + (front.length : Int) ≤ first
    omega
  generalize state.memory.put ⟨place, front⟩ = memory at grown frontHeld kept
  have four : (bytes32 bucket.bucketId).length = 4 := length_bytes32 _
  have idHeld := filled.held.same (kept _ _ le_rfl)
  have actions := filled.actions
  have props := filled.props
  rw [← (kept _ _ (by omega)).slice_eq] at actions props
  constructor
  case left =>
    refine ⟨by omega, _, _, actions, props, ?_⟩
    have whole : memory.Holds place (front ++ bytes32 bucket.bucketId) := by
      rw [holds_append, header]
      exact ⟨frontHeld, idHeld⟩
    have bytes := whole.slice_add (actionsSize bucket.actions + 8 * bucket.props.length)
    rw [length_append, header, four] at bytes
    have total : 4 + 4 + (actionsSize bucket.actions + 8 * bucket.props.length) =
        bucket.wire.size := by omega
    have eight : place + ((4 + 4 : Nat) : Int) = place + 8 := by omega
    rw [total, eight, slice_add memory (place + 8), ← frontIs, ← append_assoc] at bytes
    exact bytes
  case right => exact grown.mono le_rfl

/-! ## Appending a bucket -/

theorem ofuAppendBucketToGroup_eq (type : GroupType) :
    ∃ counted, ∀ bucketId, ofuAppendBucketToGroup type bucketId =
      appendBucket counted bucketId := by
  cases type with
  | all | select | indirect => exact ⟨1, fun _ => rfl⟩
  | fastFailover => exact ⟨2, fun _ => rfl⟩

/-- Behind a bucket without properties the next one is begun where it ends, and it is
closed by that. -/
theorem bucket_appended {type : GroupType} {bucketId : UInt32}
    (filled : Filled state place bucket) (none : bucket.props = [])
    (room : PlaceRoom state place (bucket.wire.size + 8)) :
    Begun (state.after (ofuAppendBucketToGroup type bucketId state.desc))
        (place + bucket.wire.size) bucketId ∧
      (state.after (ofuAppendBucketToGroup type bucketId state.desc)).desc.bufferLen =
        state.desc.bufferLen ∧
      bucket.wire.Spells ((state.after (ofuAppendBucketToGroup type bucketId
        state.desc)).memory.slice place bucket.wire.size) ∧
      Extends state.memory
        (state.after (ofuAppendBucketToGroup type bucketId state.desc)).memory place
        (place + bucket.wire.size + 8) := by
  have start := room.start
  have fits := room.fits
  have small := room.small
  have size := bucket.size_eq
  have next := filled.next
  have first := filled.first
  have length1 := filled.length1
  rw [none, length_nil] at size length1
  have own : PlaceRoom state place bucket.wire.size := ⟨start, by omega, by omega⟩
  have closed := filled.spelled own
  have bucketLen := (filled.closing own).2
  obtain ⟨counted, is⟩ := ofuAppendBucketToGroup_eq type
  have some : 0 < state.desc.length2 := by omega
  have length2 : state.desc.length2Closed counted = state.desc.length2 := by
    rw [MsgDescriptor.length2Closed, if_pos some, bucketLen,
      roundUp_of_aligned bucket.wire.aligned, length1]
    apply u16_of_lt
    omega
  have spot : state.desc.ptr2 + (state.desc.length2 : Int) = place + bucket.wire.size := by
    omega
  have found : ¬ state.desc.bufferLen < state.desc.ptr2 + state.desc.length2 +
      (ofuGroupActionBucketLen : Int) := by
    rw [ofuGroupActionBucketLen]
    omega
  have appended : appendBucket counted bucketId state.desc =
      { status := Option.some .appendBucketSuccess
        desc := { state.desc with length2 := state.desc.length2 + 8 }
        stores := state.desc.closing ++
          [⟨place + bucket.wire.size + 4, bytes32 bucketId⟩] } := by
    have grows : u16 (state.desc.length2 + ofuGroupActionBucketLen) =
        state.desc.length2 + 8 := by
      rw [ofuGroupActionBucketLen, u16_of_lt]
      omega
    have stray : place + (bucket.wire.size : Int) + ((8 * 0 : Nat) : Int) + 4 =
        place + bucket.wire.size + 4 := by omega
    simp only [appendBucket, if_pos some, length2, MsgDescriptor.noRoom]
    rw [if_neg found, spot, length1, stray, grows]
  have done : state.after (ofuAppendBucketToGroup type bucketId state.desc) =
      { desc := { state.desc with length2 := state.desc.length2 + 8 }
        memory := (state.memory.write state.desc.closing).put
          ⟨place + bucket.wire.size + 4, bytes32 bucketId⟩ } := by
    rw [is, appended, EncoderState.after, write_append]
    rfl
  rw [done]
  have four : (bytes32 bucketId).length = 4 := length_bytes32 _
  generalize state.memory.write state.desc.closing = middle at closed
  have grown := put_extends middle (place + bucket.wire.size + 4) (bytes32 bucketId)
  have held := put_holds middle (place + bucket.wire.size + 4) (bytes32 bucketId)
  have whole : Extends state.memory (middle.put
      ⟨place + bucket.wire.size + 4, bytes32 bucketId⟩) place
      (place + bucket.wire.size + 8) :=
    closed.2.trans (grown.mono le_rfl)
  refine ⟨?_, rfl, ?_, whole⟩
  · have behind := filled.behind
    have ptr3 := filled.ptr3
    constructor
    case first => exact first
    case next =>
      change state.desc.ptr2 + ((state.desc.length2 + 8 : Nat) : Int) = _
      omega
    case length1 => exact length1
    case cursor =>
      intro same
      change state.desc.ptr2 = state.desc.ptr3 at same
      omega
    case behind =>
      change state.desc.ptr1 ≤ _
      omega
    case held => exact held
    case zeros =>
      intro address above inside
      apply whole.zeros address above
      exact filled.zeros address (by omega) inside
  · rw [(grown.same (by omega)).slice_eq]
    exact closed.1

/-! ## All buckets -/

/-- What the end of the buckets leaves. -/
def endBuckets (state : EncoderState) : EncoderState × Nat :=
  let ended := ofuEndAppendingBucketsToGroup state.desc
  (state.after ended, ended.returned)

/-- The buckets are written one behind the other. -/
theorem buckets_encoded {type : GroupType} {rest : List GroupBucket}
    (filled : Filled state place bucket) (kept : BucketsKept (bucket :: rest))
    (room : PlaceRoom state place (bucketsSize (bucket :: rest))) :
    let ended := endBuckets (rest.foldl (encodeBucket type) state)
    24 + (ended.2 : Int) = place + bucketsSize (bucket :: rest) ∧
      SpellsAll WireBucket.Spells ((bucket :: rest).map GroupBucket.wire)
        (ended.1.memory.slice place (bucketsSize (bucket :: rest))) ∧
      Extends state.memory ended.1.memory place (place + bucketsSize (bucket :: rest)) := by
  have cons (bucket : GroupBucket) (rest : List GroupBucket) :
      bucketsSize (bucket :: rest) = bucket.wire.size + bucketsSize rest := by
    simp only [bucketsSize, map_cons, sum_cons]
  induction rest generalizing state place bucket with
  | nil =>
    have small := room.small
    have size := bucket.size_eq
    have next := filled.next
    have first := filled.first
    have one : bucketsSize [bucket] = bucket.wire.size := cons bucket []
    have closed := filled.spelled room
    have returned : (endBuckets state).2 =
        state.desc.length2 + 0 + 8 * bucket.props.length := by
      have bucketLen := (filled.closing room).2
      change u16 (state.desc.length2 + roundUp state.desc.bucketLen + state.desc.length1) = _
      rw [bucketLen, roundUp_of_aligned bucket.wire.aligned, filled.length1, u16_of_lt]
      omega
    intro ended
    refine ⟨?_, ⟨[_], .cons closed.1 .nil, (append_nil _).symm⟩, closed.2⟩
    change 24 + ((endBuckets state).2 : Int) = _
    omega
  | cons next rest ih =>
  have start := room.start
  have fits := room.fits
  have small := room.small
  have both := cons bucket (next :: rest)
  have more := cons next rest
  have nextSize := next.size_eq
  obtain ⟨begun, appendedLen, spelled, grown⟩ := @bucket_appended _ _ _ type
    next.bucketId filled (kept.2.1 (cons_ne_nil _ _)) ⟨start, by omega, by omega⟩
  generalize appendedIs : state.after (ofuAppendBucketToGroup type next.bucketId
    state.desc) = appended at begun appendedLen spelled grown
  obtain ⟨nextFilled, filledLen, filledGrown⟩ := bucket_filled begun kept.2.2.1
    ⟨by omega, by omega, by omega⟩
  have encoded : encodeBucket type state next = fillBucket next appended := by
    rw [encodeBucket, appendedIs]
  obtain ⟨returned, others, othersGrown⟩ := ih nextFilled kept.2.2 ⟨by omega, by omega, by omega⟩
  rw [foldl_cons, encoded, both]
  intro ended
  refine ⟨?_, ?_, ?_⟩
  · change 24 + (ended.2 : Int) = _ at returned
    omega
  · rw [slice_add, map_cons]
    apply SpellsAll.cons _ others
    rw [(othersGrown.same le_rfl).slice_eq, (filledGrown.same (by omega)).slice_eq]
    exact spelled
  · have before := grown.trans filledGrown
    exact (before.trans othersGrown).mono le_rfl

end Bucket

/-! ## From the first bucket on -/

/-- What goes before the first bucket: the fixed part of the message, and zeros with room
behind it. -/
structure BeforeBuckets (state : EncoderState) (size : Nat) : Prop where
  ptr1 : state.desc.ptr1 = 24
  length1 : state.desc.length1 = 0
  length3 : state.desc.length3 = 0
  fits : 24 + size ≤ state.desc.bufferLen
  small : 24 + size < 2 ^ 16
  zeros : ∀ address ≥ (24 : Int), address < state.desc.bufferLen → state.memory address = 0

/-- A group modification of the length that was asked for, as it is before its buckets. -/
def allocGroupMod (bufferLen : Nat) : EncoderState where
  desc := { bufferLen := bufferLen, dataLen := 24, utilsPtr := 24, ptr1 := 24, ptr2 := 24,
            ptr3 := 24 }
  memory := fun _ => 0

theorem allocGroupMod_beforeBuckets {bufferLen size : Nat} (fits : 24 + size ≤ bufferLen)
    (small : 24 + size < 2 ^ 16) : BeforeBuckets (allocGroupMod bufferLen) size where
  ptr1 := rfl
  length1 := rfl
  length3 := rfl
  fits := fits
  small := small
  zeros _ _ _ := rfl

/-- The first bucket begins behind the header of the group. -/
theorem first_begun {state : EncoderState} {type : GroupType} {bucketId : UInt32}
    (first : state.desc.ptr2 = 24) (nothing : state.desc.length2 = 0)
    (ptr1 : state.desc.ptr1 = 24) (length1 : state.desc.length1 = 0)
    (fits : 32 ≤ state.desc.bufferLen)
    (zeros : ∀ address ≥ (24 : Int), address < state.desc.bufferLen → state.memory address = 0) :
    Begun (state.after (ofuAppendBucketToGroup type bucketId state.desc)) 24 bucketId ∧
      (state.after (ofuAppendBucketToGroup type bucketId state.desc)).desc.bufferLen =
        state.desc.bufferLen := by
  obtain ⟨counted, is⟩ := ofuAppendBucketToGroup_eq type
  have none : ¬ 0 < state.desc.length2 := by omega
  have length2 : state.desc.length2Closed counted = 0 := by
    rw [MsgDescriptor.length2Closed, if_neg none, nothing]
  have found : ¬ (state.desc.bufferLen : Int) < 24 + ((0 : Nat) : Int) +
      (ofuGroupActionBucketLen : Int) := by
    rw [ofuGroupActionBucketLen]
    omega
  have appended : appendBucket counted bucketId state.desc =
      { status := some .appendBucketSuccess
        desc := { state.desc with length2 := 8 }
        stores := [⟨28, bytes32 bucketId⟩] } := by
    simp only [appendBucket, if_neg none, length2, MsgDescriptor.noRoom, first]
    rw [if_neg found, length1]
    rfl
  have done : state.after (ofuAppendBucketToGroup type bucketId state.desc) =
      { desc := { state.desc with length2 := 8 }
        memory := state.memory.put ⟨28, bytes32 bucketId⟩ } := by
    rw [is, appended]
    rfl
  rw [done]
  have four : (bytes32 bucketId).length = 4 := length_bytes32 _
  have grown := put_extends state.memory 28 (bytes32 bucketId)
  refine ⟨?_, rfl⟩
  constructor
  case first => exact first
  case next =>
    change state.desc.ptr2 + ((8 : Nat) : Int) = _
    omega
  case length1 => exact length1
  case cursor => exact fun _ => ptr1
  case behind => exact ptr1.le
  case held => exact put_holds state.memory 28 (bytes32 bucketId)
  case zeros =>
    intro address above inside
    apply grown.zeros address (by omega)
    exact zeros address (by omega) inside

/-- What the calls for the buckets of a group leave behind its fixed part, as far as the
returned length reaches. -/
def bucketsBytes (type : GroupType) (buckets : List GroupBucket) (state : EncoderState) :
    List UInt8 :=
  let (ended, lengthOfBucket) := encodeBuckets type buckets state
  ended.memory.slice 24 lengthOfBucket

/-- Buckets that the routines write as they are can be read back: the bytes that the
returned length covers spell them one behind the other and nothing else. -/
theorem group_round_trip {type : GroupType} {state : EncoderState}
    {buckets : List GroupBucket} (kept : BucketsKept buckets)
    (start : BeforeBuckets state (bucketsSize buckets)) :
    SpellsAll WireBucket.Spells (buckets.map GroupBucket.wire) (bucketsBytes type buckets state) ∧
      parseBuckets (bucketsBytes type buckets state) =
        some (buckets.map GroupBucket.wire) ∧
      (encodeBuckets type buckets state).2 = bucketsSize buckets := by
  have fits := start.fits
  have small := start.small
  generalize startedIs : state.after (ofuStartAppendingBucketsToGroup state.desc) = started
  have startedDesc : started.desc = { state.desc with ptr2 := 24, length2 := 0 } := by
    rw [← startedIs]
    rfl
  have startedMemory : started.memory = state.memory := by
    rw [← startedIs]
    rfl
  have encoded : encodeBuckets type buckets state =
      endBuckets (buckets.foldl (encodeBucket type) started) := by
    rw [encodeBuckets, startedIs]
    rfl
  have spelled : SpellsAll WireBucket.Spells (buckets.map GroupBucket.wire)
      (bucketsBytes type buckets state) ∧
        (encodeBuckets type buckets state).2 = bucketsSize buckets := by
    cases buckets with
    | nil =>
      have returned : (endBuckets started).2 = 0 := by
        change u16 (started.desc.length2 +
          roundUp (u16 (ofuGroupActionBucketLen + started.desc.length3 +
            started.desc.length1)) + started.desc.length1) = 0
        rw [startedDesc]
        rw [start.length3, start.length1]
        rfl
      rw [bucketsBytes, encoded]
      change SpellsAll _ [] (slice _ 24 (endBuckets started).2) ∧
        (endBuckets started).2 = 0
      rw [returned]
      exact ⟨SpellsAll.nil, rfl⟩
    | cons bucket rest =>
    have size := bucket.size_eq
    have total : bucketsSize (bucket :: rest) = bucket.wire.size + bucketsSize rest := by
      simp only [bucketsSize, map_cons, sum_cons]
    obtain ⟨begun, bufferLen⟩ := @first_begun started type bucket.bucketId
      (by rw [startedDesc]) (by rw [startedDesc])
      (by rw [startedDesc]; exact start.ptr1)
      (by rw [startedDesc]; exact start.length1)
      (by
        rw [startedDesc]
        change 32 ≤ state.desc.bufferLen
        omega)
      (by
        rw [startedDesc, startedMemory]
        exact start.zeros)
    have startedLen : started.desc.bufferLen = state.desc.bufferLen := by
      rw [startedDesc]
    obtain ⟨filled, filledLen, grown⟩ := bucket_filled begun kept.1 ⟨le_rfl, by omega, by omega⟩
    obtain ⟨returned, others, _⟩ := @buckets_encoded _ _ _ type rest filled kept
      ⟨le_rfl, by omega, by omega⟩
    rw [bucketsBytes, encoded]
    rw [foldl_cons]
    change 24 + ((endBuckets (rest.foldl (encodeBucket type)
      (encodeBucket type started bucket))).2 : Int) = _ at returned
    have length : (endBuckets (rest.foldl (encodeBucket type)
        (encodeBucket type started bucket))).2 = bucketsSize (bucket :: rest) := by
      omega
    change SpellsAll _ _ (slice _ 24 (endBuckets (rest.foldl (encodeBucket type)
      (encodeBucket type started bucket))).2) ∧ _
    rw [length]
    exact ⟨others, rfl⟩
  exact ⟨spelled.1, parseBuckets_spelled spelled.1, spelled.2⟩

theorem group_round_trip_two :
    parseBuckets (bucketsBytes .select
      [⟨1, [.output 2 64], none⟩, ⟨2, [.group 7], some [.weight 5]⟩] (allocGroupMod 200)) =
        some [⟨1, [.output 2 64], []⟩, ⟨2, [.group 7], [.weight 5 0]⟩] := by
  have kept : BucketsKept [⟨1, [.output 2 64], none⟩, ⟨2, [.group 7], some [.weight 5]⟩] := by
    simp [BucketsKept, ActionsKept, ActionPlain, GroupBucket.props]
  exact (group_round_trip kept (allocGroupMod_beforeBuckets (by decide) (by decide))).2.1

/-- Two buckets with a weight each: the number of the second is stored behind where it
belongs. -/
theorem weighted_buckets_lost :
    BeforeBuckets (allocGroupMod 200)
        (bucketsSize [⟨1, [], some [.weight 5]⟩, ⟨2, [], some [.weight 5]⟩]) ∧
      (parseBuckets (bucketsBytes .select
        [⟨1, [], some [.weight 5]⟩, ⟨2, [], some [.weight 5]⟩] (allocGroupMod 200))).map
          (fun buckets => buckets.map WireBucket.bucketId) = some [1, 0] := by
  constructor
  · exact allocGroupMod_beforeBuckets (by decide) (by decide)
  · decide +kernel

end OpenFlowController.Encoder
