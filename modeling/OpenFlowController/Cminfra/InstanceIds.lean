/-
Module: Cminfra.InstanceIds
Purpose: The two allocators of instance ids, the bitmap of the job executor and the counter of a
  table node, and the runs in which every id they give is new.
Source: cminfra/infra/je/basic/jeinstid.c; cminfra/infra/dm/basic/dminst.c 2176-2240
Trusted boundary: memory is not short, pointers are not null
-/
import OpenFlowController.Library.Run

namespace OpenFlowController.Cminfra

open Library List

/-- `je_instance_info`.  A bit of the bitmap is found by its byte and its place there, which is 0
for the highest. -/
structure JeInstanceInfo where
  maxInstanceId : Nat
  maxInstanceSize : Nat
  instanceId : Nat
  bufInstanceId : Nat
  instanceIdValid : Nat × Nat → Bool

/-- `je_instanceid_generator_init` with this configured maximum. -/
def jeInstanceidGeneratorInit (configured : UInt32) : JeInstanceInfo :=
  let maximum := if configured.toNat % 8 ≠ 0 then (configured.toNat / 8 * 8 + 8) % 2 ^ 32
    else configured.toNat
  ⟨maximum, maximum / 8, 0, 0, fun _ => false⟩

/-- The bytes from `first` to before `last`, each with its bits from the highest, which is
bit 0. -/
def bitsOf (first last : Nat) : List (Nat × Nat) :=
  (range' first (last - first)).flatMap fun byte => (range 8).map (byte, ·)

theorem mem_bitsOf {first last : Nat} {place : Nat × Nat} :
    place ∈ bitsOf first last ↔ first ≤ place.1 ∧ place.1 < last ∧ place.2 < 8 := by
  obtain ⟨byte, bit⟩ := place
  simp only [bitsOf, mem_flatMap, mem_range'_1, mem_map, mem_range, Prod.mk.injEq]
  constructor
  · rintro ⟨_, bounds, _, small, rfl, rfl⟩
    omega
  · intro bounds
    exact ⟨byte, by omega, bit, bounds.2.2, rfl, rfl⟩

namespace JeInstanceInfo

variable (info : JeInstanceInfo)

/-- The positions that the search tries one after the other.  The second pass is empty where the
first one began with the first byte. -/
def searchOrder : List (Nat × Nat) :=
  let start := (if info.bufInstanceId = info.maxInstanceId then 0 else info.bufInstanceId) / 8
  bitsOf start info.maxInstanceSize ++ bitsOf 0 start

/-- The id of a position: the first one is that of the maximum. -/
def idAt (place : Nat × Nat) : Nat :=
  if place = (0, 0) then info.maxInstanceId else place.1 * 8 + place.2

def jeGetNewInstanceId : JeInstanceInfo × Option Nat :=
  if info.instanceId < info.maxInstanceId then
    ({ info with instanceId := info.instanceId + 1 }, some (info.instanceId + 1))
  else
    match info.searchOrder.find? (!info.instanceIdValid ·) with
    | none =>
      ({ info with bufInstanceId :=
          if info.bufInstanceId = info.maxInstanceId then 0 else info.bufInstanceId }, none)
    | some place => ({ info with bufInstanceId := info.idAt place }, some (info.idAt place))

/-- Where the bit of an id lies. -/
def placeOf (id : Nat) : Nat × Nat :=
  if id / 8 = info.maxInstanceSize ∧ id % 8 = 0 then (0, 0) else (id / 8, id % 8)

/-- `je_set_bit_for_instance_id`, and whether it succeeds. -/
def jeSetBitForInstanceId (id : Nat) (setflag : UInt8) : JeInstanceInfo × Bool :=
  if info.maxInstanceId < id then (info, id < 0xffffffff)
  else if setflag = 1 ∨ setflag = 0 then
    if info.instanceIdValid (info.placeOf id) = decide (setflag = 1) then (info, false)
    else
      ({ info with instanceIdValid :=
          Function.update info.instanceIdValid (info.placeOf id) (setflag = 1) }, true)
  else (info, false)

def jeSetInstanceIdValue (value : Nat) : JeInstanceInfo :=
  if 0 < value ∧ value ≤ info.maxInstanceId ∧ info.instanceId < value then
    { info with instanceId := value }
  else info

end JeInstanceInfo

/-- The calls on the bitmap.  An allocation marks the id it returns. -/
inductive JeIdCall where
  | allocate
  | setBit (id : UInt32) (setflag : UInt8)
  | setValue (value : UInt32)

namespace JeInstanceInfo

def step (info : JeInstanceInfo) : JeIdCall → JeInstanceInfo
  | .allocate =>
    match info.jeGetNewInstanceId with
    | (after, none) => after
    | (after, some id) => (after.jeSetBitForInstanceId id 1).1
  | .setBit id setflag => (info.jeSetBitForInstanceId id.toNat setflag).1
  | .setValue value => info.jeSetInstanceIdValue value.toNat

variable (info : JeInstanceInfo)

/-- The ids there are. -/
def Has (id : Nat) : Prop := 1 ≤ id ∧ id ≤ info.maxInstanceId

def inUse (id : Nat) : Bool := info.instanceIdValid (info.placeOf id)

/-- A call left one id with this status, and the others as they were. -/
structure Marks (after : JeInstanceInfo) (id : Nat) (used : Bool) : Prop where
  itself : info.Has id → after.inUse id = used
  others : ∀ other, info.Has other → other ≠ id → after.inUse other = info.inUse other

/-- What a call is to do. -/
def Answers : JeIdCall → Prop
  | .allocate =>
    (∀ place ∈ info.searchOrder, place.1 < info.maxInstanceSize) ∧
      match info.jeGetNewInstanceId.2 with
      | none => ∀ id, info.Has id → info.inUse id
      | some id => info.Has id ∧ info.inUse id = false ∧ info.Marks (info.step .allocate) id true
  | .setBit id setflag =>
    (id.toNat ≤ info.maxInstanceId → setflag = 1 ∨ setflag = 0 →
      (info.placeOf id.toNat).1 < info.maxInstanceSize) ∧
    info.Marks (info.step (.setBit id setflag)) id.toNat
      (if setflag = 1 then true else if setflag = 0 then false else info.inUse id.toNat)
  | .setValue value => info.Marks (info.step (.setValue value)) value.toNat true

/-- The calls that reach no defect: the counter does not meet an id that was reserved, id 0,
which has the bit of the maximum, is not marked otherwise than that, and an id that the counter is
set to is in use. -/
def Sound : JeIdCall → Prop
  | .allocate => info.instanceId < info.maxInstanceId → info.inUse (info.instanceId + 1) = false
  | .setBit id setflag => id = 0 → setflag = 1 ∨ setflag = 0 →
      0 < info.maxInstanceSize ∧ info.inUse info.maxInstanceId = decide (setflag = 1)
  | .setValue value => info.Has value.toNat → info.inUse value.toNat

/-- What every call keeps. -/
structure Inv : Prop where
  whole : info.maxInstanceId = info.maxInstanceSize * 8
  counter : info.instanceId ≤ info.maxInstanceId
  last : info.bufInstanceId ≤ info.maxInstanceId

variable {info}

theorem placeOf_small (id : Nat) : (info.placeOf id).2 < 8 := by
  unfold placeOf
  split
  · decide
  · exact Nat.mod_lt _ (by decide)

theorem setValue_iff (value : UInt32) :
    info.Answers (.setValue value) ↔ info.Sound (.setValue value) := by
  have same (id : Nat) : (info.step (.setValue value)).inUse id = info.inUse id := by
    rw [JeInstanceInfo.step, jeSetInstanceIdValue]
    split <;> rfl
  exact ⟨fun marks member => (same _).symm.trans (marks.itself member),
    fun used => ⟨fun member => (same _).trans (used member), fun _ _ _ => same _⟩⟩

namespace Inv

variable (inv : Inv info)

include inv

theorem placeOf_spec {id : Nat} (member : info.Has id) :
    (info.placeOf id).1 < info.maxInstanceSize ∧ info.idAt (info.placeOf id) = id := by
  obtain ⟨low, high⟩ := member
  have whole := inv.whole
  unfold placeOf idAt
  split
  · refine ⟨by omega, ?_⟩
    rw [if_pos rfl]
    omega
  · refine ⟨by omega, ?_⟩
    rw [if_neg (by simp only [Prod.mk.injEq]; omega)]
    omega

theorem idAt_spec {place : Nat × Nat} (inside : place.1 < info.maxInstanceSize)
    (small : place.2 < 8) :
    info.Has (info.idAt place) ∧ info.placeOf (info.idAt place) = place := by
  have whole := inv.whole
  obtain ⟨byte, bit⟩ := place
  simp only [idAt, Has, placeOf, Prod.mk.injEq] at *
  split <;> split <;> simp only [Prod.mk.injEq] <;> omega

theorem mem_searchOrder {place : Nat × Nat} :
    place ∈ info.searchOrder ↔ place.1 < info.maxInstanceSize ∧ place.2 < 8 := by
  have whole := inv.whole
  have last := inv.last
  simp only [searchOrder, mem_append, mem_bitsOf]
  split <;> omega

theorem setBit_marks {id : Nat} (member : info.Has id) {setflag : UInt8}
    (valid : setflag = 1 ∨ setflag = 0) :
    info.Marks (info.jeSetBitForInstanceId id setflag).1 id (setflag = 1) := by
  rw [jeSetBitForInstanceId, if_neg (Nat.not_lt.mpr member.2), if_pos valid]
  split
  case isTrue same => exact ⟨fun _ => same, fun _ _ _ => rfl⟩
  case isFalse =>
    refine ⟨fun _ => Function.update_self _ _ _, fun other known apart => ?_⟩
    refine Function.update_of_ne (fun same => apart ?_) _ _
    have place : info.placeOf other = info.placeOf id := same
    rw [← (inv.placeOf_spec known).2, ← (inv.placeOf_spec member).2, place]

/-- Every call keeps the invariant. -/
theorem step (call : JeIdCall) : Inv (info.step call) := by
  have counter := inv.counter
  have set (id : Nat) (setflag : UInt8) {before : JeInstanceInfo} (inv : Inv before) :
      Inv (before.jeSetBitForInstanceId id setflag).1 := by
    unfold jeSetBitForInstanceId
    split_ifs <;> exact ⟨inv.whole, inv.counter, inv.last⟩
  cases call with
  | allocate =>
    by_cases more : info.instanceId < info.maxInstanceId
    · simp only [JeInstanceInfo.step, jeGetNewInstanceId, more, if_true]
      exact set _ 1 ⟨inv.whole, more, inv.last⟩
    simp only [JeInstanceInfo.step, jeGetNewInstanceId, more, if_false]
    cases searched : info.searchOrder.find? (!info.instanceIdValid ·) with
    | none =>
      refine ⟨inv.whole, counter, ?_⟩
      dsimp only
      have last := inv.last
      split <;> omega
    | some place =>
      have inside := inv.mem_searchOrder.mp (mem_of_find?_eq_some searched)
      exact set _ 1 ⟨inv.whole, counter, (inv.idAt_spec inside.1 inside.2).1.2⟩
  | setBit id setflag => exact set _ _ inv
  | setValue value =>
  rw [JeInstanceInfo.step, jeSetInstanceIdValue]
  split_ifs with raised
  · exact ⟨inv.whole, raised.2.1, inv.last⟩
  · exact inv

/-- An allocation answers right exactly when it is sound. -/
theorem allocate_iff : info.Answers .allocate ↔ info.Sound .allocate := by
  have inside : ∀ place ∈ info.searchOrder, place.1 < info.maxInstanceSize :=
    fun place searched => (inv.mem_searchOrder.mp searched).1
  rw [Answers, and_iff_right inside, Sound]
  by_cases more : info.instanceId < info.maxInstanceId
  · simp only [JeInstanceInfo.step, jeGetNewInstanceId, more, if_true]
    have member : info.Has (info.instanceId + 1) := ⟨Nat.succ_pos _, more⟩
    have marks := @setBit_marks { info with instanceId := info.instanceId + 1 }
      ⟨inv.whole, more, inv.last⟩ _ member _ (.inl rfl)
    constructor
    · exact fun right _ => right.2.1
    · exact fun free => ⟨member, free trivial, marks.itself, marks.others⟩
  refine iff_of_true ?_ (fun less => absurd less more)
  simp only [JeInstanceInfo.step, jeGetNewInstanceId, more, if_false]
  cases searched : info.searchOrder.find? (!info.instanceIdValid ·) with
  | none =>
    intro id member
    have spot := inv.mem_searchOrder.mpr ⟨(inv.placeOf_spec member).1, placeOf_small id⟩
    simpa [inUse] using find?_eq_none.mp searched _ spot
  | some place =>
  have found := inv.mem_searchOrder.mp (mem_of_find?_eq_some searched)
  obtain ⟨member, spot⟩ := inv.idAt_spec found.1 found.2
  have marks := @setBit_marks { info with bufInstanceId := info.idAt place }
    ⟨inv.whole, inv.counter, member.2⟩ _ member _ (.inl rfl)
  refine ⟨member, ?_, marks.itself, marks.others⟩
  rw [inUse, spot]
  simpa using find?_some searched

/-- A bit is set right exactly when the call is sound. -/
theorem setBit_iff (id : UInt32) (setflag : UInt8) :
    info.Answers (.setBit id setflag) ↔ info.Sound (.setBit id setflag) := by
  by_cases valid : setflag = 1 ∨ setflag = 0
  case neg =>
    have kept : info.step (.setBit id setflag) = info := by
      rw [JeInstanceInfo.step, jeSetBitForInstanceId, if_neg valid]
      split <;> rfl
    refine iff_of_true ⟨fun _ flag => absurd flag valid, ?_⟩ (fun _ flag => absurd flag valid)
    rw [kept, if_neg (not_or.mp valid).1, if_neg (not_or.mp valid).2]
    exact ⟨fun _ => rfl, fun _ _ _ => rfl⟩
  case pos =>
  have used : (if setflag = 1 then true else if setflag = 0 then false else info.inUse id.toNat) =
      decide (setflag = 1) := by
    rcases valid with rfl | rfl <;> rfl
  rw [Answers, used]
  by_cases member : info.Has id.toNat
  · have nonzero : id ≠ 0 := fun zero => absurd member.1 (by rw [zero]; decide)
    exact iff_of_true ⟨fun _ _ => (inv.placeOf_spec member).1, inv.setBit_marks member valid⟩
      (fun zero => absurd zero nonzero)
  by_cases high : info.maxInstanceId < id.toNat
  · have kept : info.step (.setBit id setflag) = info := by
      rw [JeInstanceInfo.step, jeSetBitForInstanceId, if_pos high]
    have nonzero : id ≠ 0 := fun zero => Nat.not_lt_zero _ (by rwa [zero] at high)
    rw [kept]
    exact iff_of_true ⟨fun low => absurd high (Nat.not_lt.mpr low),
      fun known => absurd known member, fun _ _ _ => rfl⟩ (fun zero => absurd zero nonzero)
  -- id 0 has the place of the maximum
  obtain rfl : id = 0 := by
    apply UInt32.toNat.inj
    by_contra nonzero
    exact member ⟨Nat.pos_of_ne_zero nonzero, Nat.not_lt.mp high⟩
  have place : info.placeOf 0 = (0, 0) := by
    unfold placeOf
    split <;> rfl
  have maximum : info.placeOf info.maxInstanceId = (0, 0) :=
    if_pos (by have := inv.whole; omega)
  have zero : (0 : UInt32).toNat = 0 := rfl
  rw [Sound, forall_prop_of_true rfl, inUse, maximum, forall_prop_of_true valid, zero,
    forall_prop_of_true (Nat.zero_le _), forall_prop_of_true valid, place]
  refine and_congr_right fun some => ?_
  have step : info.step (.setBit 0 setflag) = (info.jeSetBitForInstanceId 0 setflag).1 := rfl
  rw [step, jeSetBitForInstanceId, if_neg (Nat.not_lt_zero _), if_pos valid, place]
  split
  case isTrue same =>
    exact iff_of_true ⟨fun known => absurd known.1 (by decide), fun _ _ _ => rfl⟩ same
  case isFalse changed =>
    refine iff_of_false (fun marks => changed ?_) changed
    have whole := inv.whole
    have kept : Function.update _ _ _ (info.placeOf info.maxInstanceId) = _ :=
      marks.others info.maxInstanceId ⟨by omega, Nat.le_refl _⟩ (by omega)
    rw [inUse, maximum, Function.update_self] at kept
    exact kept.symm

end Inv

end JeInstanceInfo

/-! ## The ids of the instances of a table node -/

/-- The counter of a table node, and which ids `cmi_dm_get_instance_using_id` finds. -/
structure InodeIds where
  uiNextFreeID : Nat
  bIDWrapped : Bool
  held : Nat → Bool

/-- What the counter is after an id. -/
def idAfter (id : Nat) : Nat :=
  let more := (id + 1) % 2 ^ 32
  if more = 0 then more + 1 else more

/-- `uiStartIndex` for a counter. -/
def startIndex (next : Nat) : Nat :=
  let less := (next + 0xffffffff) % 2 ^ 32
  if less = 0 then 0xffffffff else less

/-- The loop over the ids: where the counter is at its end, and `bFound`. -/
def searchFree (held : Nat → Bool) (start : Nat) : Nat → Nat → Option (Nat × Bool)
  | 0, _ => none
  | fuel + 1, next =>
    if next = start then some (next, false)
    else if held next = false then some (next, true)
    else searchFree held start fuel (idAfter next)

namespace InodeIds

variable (ids : InodeIds)

/-- `cmi_dm_get_new_instance_id_from_inode`; none where the loop does not end. -/
def cmiDmGetNewInstanceIdFromInode : Option (InodeIds × Option Nat) :=
  let searched :=
    if ids.bIDWrapped then
      searchFree ids.held (startIndex ids.uiNextFreeID) (2 ^ 32) ids.uiNextFreeID
    else some (ids.uiNextFreeID, true)
  searched.map fun
    | (next, false) => ({ ids with uiNextFreeID := next }, none)
    | (next, true) =>
      ({ ids with
          uiNextFreeID := idAfter next
          bIDWrapped := ids.bIDWrapped || idAfter next < next }, some next)

end InodeIds

/-- An id is asked for, or the instances of the node change. -/
inductive InodeIdEvent where
  | getNew
  | instances (held : Nat → Bool)

namespace InodeIds

def step (ids : InodeIds) : InodeIdEvent → InodeIds
  | .getNew => (ids.cmiDmGetNewInstanceIdFromInode.map Prod.fst).getD ids
  | .instances held => { ids with held }

/-- The counter of a new node. -/
def initial : InodeIds := ⟨1, false, fun _ => false⟩

/-- The ids that fit the counter. -/
def InRange (id : Nat) : Prop := 1 ≤ id ∧ id < 2 ^ 32

variable (ids : InodeIds)

/-- What the call is to do: it ends, with an id that no instance has, or without one where all
are taken. -/
def Answers : InodeIdEvent → Prop
  | .getNew => ∃ after, ids.cmiDmGetNewInstanceIdFromInode = some after ∧
      match after.2 with
      | some id => InRange id ∧ ids.held id = false
      | none => ∀ id, InRange id → ids.held id
  | .instances _ => True

/-- The calls that reach no defect: the counter that has not wrapped does not meet an instance,
and where it has, the id before it, which is not looked at, is not the only free one. -/
def Sound : InodeIdEvent → Prop
  | .getNew =>
    if ids.bIDWrapped then
      ids.held (startIndex ids.uiNextFreeID) = false →
        ∃ id, InRange id ∧ id ≠ startIndex ids.uiNextFreeID ∧ ids.held id = false
    else ids.held ids.uiNextFreeID = false
  | .instances _ => True

theorem idAfter_range (id : Nat) : InRange (idAfter id) := by
  simp only [idAfter, InRange]
  split <;> omega

theorem startIndex_spec {next : Nat} (counter : InRange next) :
    InRange (startIndex next) ∧
      (startIndex next + 0xffffffff - next) % 0xffffffff = 0xfffffffe := by
  simp only [startIndex, InRange] at *
  split <;> omega

/-- The search ends at a free id, or has met only held ones. -/
theorem searchFree_spec {held : Nat → Bool} {start next fuel : Nat} (known : InRange start)
    (counter : InRange next) (enough : (start + 0xffffffff - next) % 0xffffffff < fuel) :
    ∃ last, InRange last ∧ (searchFree held start fuel next = some (last, true) ∧
        held last = false ∧ last ≠ start ∨
      searchFree held start fuel next = some (last, false) ∧ ∀ id, InRange id →
        (id + 0xffffffff - next) % 0xffffffff < (start + 0xffffffff - next) % 0xffffffff →
          held id) := by
  induction fuel generalizing next with
  | zero => exact absurd enough (Nat.not_lt_zero _)
  | succ fuel ih =>
  rw [searchFree]
  by_cases ended : next = start
  · refine ⟨next, counter, .inr ⟨if_pos ended, fun id _ near => ?_⟩⟩
    omega
  rw [if_neg ended]
  cases taken : held next with
  | false => exact ⟨next, counter, .inl ⟨if_pos rfl, taken, ended⟩⟩
  | true =>
  have nearer : (start + 0xffffffff - idAfter next) % 0xffffffff + 1 =
      (start + 0xffffffff - next) % 0xffffffff := by
    simp only [InRange, idAfter] at *
    split <;> omega
  obtain ⟨last, inRange, found | ⟨searched, all⟩⟩ := ih (idAfter_range next) (by omega)
  · exact ⟨last, inRange, .inl found⟩
  refine ⟨last, inRange, .inr ⟨searched, fun id member near => ?_⟩⟩
  by_cases same : id = next
  · rw [same, taken]
  apply all id member
  simp only [InRange, idAfter] at *
  split <;> omega

/-- A new id is right exactly when the call is sound, and its counter stays in range. -/
theorem getNew_spec {ids : InodeIds} (counter : InRange ids.uiNextFreeID) :
    (ids.Answers .getNew ↔ ids.Sound .getNew) ∧ InRange (ids.step .getNew).uiNextFreeID := by
  unfold Answers Sound step cmiDmGetNewInstanceIdFromInode
  cases ids.bIDWrapped with
  | false => simpa [counter] using idAfter_range _
  | true =>
  obtain ⟨known, far⟩ := startIndex_spec counter
  generalize startIndex ids.uiNextFreeID = start at *
  obtain ⟨last, inRange, ⟨searched, free, apart⟩ | ⟨searched, all⟩⟩ :=
    @searchFree_spec ids.held _ _ (2 ^ 32) known counter (by omega)
  · simp only [if_true, searched, Option.map_some, Option.getD_some]
    refine ⟨iff_of_true ⟨_, rfl, inRange, free⟩ fun _ => ⟨last, inRange, apart, free⟩, ?_⟩
    exact idAfter_range last
  simp only [if_true, searched, Option.map_some, Option.getD_some]
  refine ⟨⟨?_, ?_⟩, inRange⟩
  · rintro ⟨_, same, taken⟩ free
    obtain rfl := Option.some.inj same
    rw [taken _ known] at free
    cases free
  intro other
  have taken : ∀ id, InRange id → id ≠ start → ids.held id := by
    intro id member apart
    apply all id member
    simp only [InRange] at *
    omega
  refine ⟨_, rfl, fun id member => ?_⟩
  by_contra free
  by_cases same : id = start
  · obtain ⟨spare, inside, apart, unused⟩ := other (same ▸ eq_false_of_ne_true free)
    rw [taken spare inside apart] at unused
    cases unused
  · exact free (taken id member same)

end InodeIds

/-- In every run from the start, every call on the bitmap does what it is to do exactly when no
call reaches a defect, and so does every call on the counter of a table node. -/
theorem instance_ids_right_iff (configured : UInt32) (calls : List JeIdCall)
    (events : List InodeIdEvent) :
    (Along JeInstanceInfo.step JeInstanceInfo.Answers (jeInstanceidGeneratorInit configured) calls ↔
      Along JeInstanceInfo.step JeInstanceInfo.Sound (jeInstanceidGeneratorInit configured) calls) ∧
    (Along InodeIds.step InodeIds.Answers .initial events ↔
      Along InodeIds.step InodeIds.Sound .initial events) := by
  constructor
  · have start : (jeInstanceidGeneratorInit configured).Inv := by
      refine ⟨?_, Nat.zero_le _, Nat.zero_le _⟩
      simp only [jeInstanceidGeneratorInit]
      split <;> omega
    refine Along.iff_of_invariant (fun _ call inv _ => inv.step call) (fun _ call inv => ?_) start
    cases call with
    | allocate => exact inv.allocate_iff
    | setBit id setflag => exact inv.setBit_iff id setflag
    | setValue value => exact JeInstanceInfo.setValue_iff value
  have start : InodeIds.InRange InodeIds.initial.uiNextFreeID := ⟨Nat.le_refl _, by decide⟩
  refine @Along.iff_of_invariant _ _ InodeIds.step _ _ (InodeIds.InRange ·.uiNextFreeID)
    (fun ids event inv _ => ?_) (fun ids event inv => ?_) _ _ start
  · cases event with
    | getNew => exact (InodeIds.getNew_spec inv).2
    | instances held => exact inv
  · cases event with
    | getNew => exact (InodeIds.getNew_spec inv).1
    | instances held => exact Iff.rfl

/-- Id 1 is reserved, and the first allocation gives it again. -/
theorem reserved_id_allocated :
    ¬ ∀ (configured : UInt32) (calls : List JeIdCall),
      Along JeInstanceInfo.step JeInstanceInfo.Answers (jeInstanceidGeneratorInit configured)
        calls := by
  intro all
  have answers := (all 8 [.setBit 1 1, .allocate]).2.1.2
  exact absurd answers.2.1 (by decide)

end OpenFlowController.Cminfra
