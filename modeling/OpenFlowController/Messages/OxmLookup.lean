/-
Module: Messages.OxmLookup
Purpose: The functions that an application calls on the match fields of a message: the search
  for one field, with the value or the store behind it, and the walk that stores the fields of
  a flow removed message; when the look-ups do what they are for, and when the fields are
  stored as they are in the match.
Source: ofproto/src/messages/of_msg_utils.c (ofu_get_in_port_field,
  ofu_set_in_port_field_as_controller, ofu_get_metadata_field,
  of_get_flow_rem_msg_match_fields), include/of_utilities.h, ofproto/src/include/openflow.h
Trusted boundary: a function stops at the first byte that it reads behind the given length
-/
import OpenFlowController.Include.OxmList
import OpenFlowController.Messages.GroupDesc

namespace OpenFlowController.Messages

open Include Library

/-! ## The search for a field -/

/-- `OXM_FIELD`. -/
def oxmFieldOf (oxmHeader : UInt32) : Nat := oxmHeader.toNat / 2 ^ 9 % 2 ^ 7

/-- `OXM_LENGTH`. -/
def oxmLengthOf (oxmHeader : UInt32) : Nat := oxmHeader.toNat % 2 ^ 8

def ofppController : UInt32 := 0xfffffffd

section Search

variable (host : ByteOrder) (field : Nat) (counts : Bool)

/-- The loop of the three searches; `left` is the length that the guard tests, and `counts`
tells whether the loop takes each field off it.  A search that finds the field ends with the
place of its header and the bytes behind that header. -/
def oxmWalk : Nat → Nat → Nat → List UInt8 → Except Stop (Option (Nat × List UInt8))
  | 0, _, _, _ => .error .running
  | fuel + 1, place, left, rest =>
    if left = 0 then .ok none
    else do
      let oxmHeader ← ntohlAt host rest 0
      if oxmFieldOf oxmHeader = field then pure (some (place, rest.drop 4))
      else
        let parsedDataLen := ofOxmHdrLen + oxmLengthOf oxmHeader
        oxmWalk fuel (place + parsedDataLen)
          (if counts then (left + 2 ^ 16 - parsedDataLen) % 2 ^ 16 else left)
          (rest.drop parsedDataLen)

/-- The loop over the whole list.  Every turn reads four bytes of it. -/
def oxmSearch (matchFields : List UInt8) : Except Stop (Option (Nat × List UInt8)) :=
  oxmWalk host field counts (matchFields.length + 1) 0 matchFields.length matchFields

end Search

/-- `ofu_get_in_port_field`: the value, and where its field was met.  The loop counts down a
variable that its guard does not test. -/
def ofuGetInPortField (host : ByteOrder) (matchFields : List UInt8) :
    Except Stop (Option (Nat × UInt32)) := do
  match ← oxmSearch host OxmField.inPort.code false matchFields with
  | none => pure none
  | some (place, behind) =>
    let inPhyPort ← ntohlAt host behind 0
    pure (some (place, inPhyPort))

/-- `ofu_set_in_port_field_as_controller`: where the field was met, and the list after the
store. -/
def ofuSetInPortFieldAsController (host : ByteOrder) (matchFields : List UInt8) :
    Except Stop (Option Nat × List UInt8) := do
  match ← oxmSearch host OxmField.inPort.code true matchFields with
  | none => pure (none, matchFields)
  | some (place, behind) =>
    let _ ← peek behind 0 4
    pure (some place, matchFields.take (place + ofOxmHdrLen) ++ bytes32 ofppController ++
      matchFields.drop (place + ofOxmHdrLen + 4))

def ofuGetMetadataField (host : ByteOrder) (matchFields : List UInt8) :
    Except Stop (Option (Nat × UInt64)) := do
  match ← oxmSearch host OxmField.metadata.code true matchFields with
  | none => pure none
  | some (place, behind) =>
    let metadata ← ntohllAt host behind 0
    pure (some (place, metadata))

/-! ## The fields of a flow removed message -/

/-- `of_match_tlv_t`, without the value behind it. -/
structure OfMatchTlv where
  oxmClass : Nat
  oxmField : Nat
  hasMask : Nat
  oxmLength : Nat

/-- The bit fields of the four bytes: they fill the word from its low end on a little-endian
host, and from its high end on a big-endian one. -/
def OfMatchTlv.ofWord (host : ByteOrder) (word : Nat) : OfMatchTlv :=
  match host with
  | .littleEndian =>
    { oxmClass := word % 2 ^ 16, oxmField := word / 2 ^ 16 % 2 ^ 7
      hasMask := word / 2 ^ 23 % 2, oxmLength := word / 2 ^ 24 }
  | .bigEndian =>
    { oxmClass := word / 2 ^ 16, oxmField := word / 2 ^ 9 % 2 ^ 7
      hasMask := word / 2 ^ 8 % 2, oxmLength := word % 2 ^ 8 }

def ofpxmcOpenflowBasic : Nat := 0x8000

/-- `struct ofl_oxm_match_fields`: a member for every field. -/
abbrev OflOxmMatchFields := OxmField → Nat

/-- The member that the case of a field stores to, for the fields that have such a case.  The
case of the Ethernet source stores to the destination. -/
def oxmStored : OxmField → Option OxmField
  | .inPort => some .inPort
  | .inPhyPort => some .inPhyPort
  | .metadata => some .metadata
  | .ethDst => some .ethDst
  | .ethSrc => some .ethDst
  | .ethType => some .ethType
  | .vlanVid => some .vlanVid
  | .vlanPcp => some .vlanPcp
  | .ipDscp => some .ipDscp
  | .ipEcn => some .ipEcn
  | .ipProto => some .ipProto
  | .ipv4Src => some .ipv4Src
  | .ipv4Dst => some .ipv4Dst
  | .arpOp => some .arpOp
  | .arpSpa => some .arpSpa
  | .arpTpa => some .arpTpa
  | .arpSha => some .arpSha
  | .arpTha => some .arpTha
  | _ => none

/-- `OXM_GET_DATA_*` at the width of a field: `OXM_GET_DATA_BYTES6` shifts the first four
bytes by four bits, in 32 bits. -/
def oxmGetData (host : ByteOrder) (value : List UInt8) : Nat :=
  if value.length = 6 then
    load host (value.take 4) * 2 ^ 4 % 2 ^ 32 ||| load host (value.drop 4)
  else load host value

/-- What the function fills: the members, and the flags. -/
structure FlowRemFields where
  members : OflOxmMatchFields
  flags : Nat

namespace FlowRemFields

/-- A case that stores: the member, and the flag of the field. -/
def store (fields : FlowRemFields) (member field : OxmField) (value : Nat) : FlowRemFields where
  members := Function.update fields.members member value
  flags := fields.flags ||| 2 ^ field.code

end FlowRemFields

/-- What the loop does with a TLV: the `switch` over the field in the basic class, and nothing
in the other classes. -/
def flowRemCase (host : ByteOrder) (tlv : OfMatchTlv) (oxmValue : List UInt8)
    (fields : FlowRemFields) : Except Stop FlowRemFields :=
  if tlv.oxmClass = ofpxmcOpenflowBasic then
    match OxmField.ofCode tlv.oxmField with
    | none => .ok fields
    | some field =>
      match oxmStored field with
      | none => .ok fields
      | some member => do
          let value ← peek oxmValue 0 field.width
          pure (fields.store member field (oxmGetData host value))
  else .ok fields

/-- The loop of `of_get_flow_rem_msg_match_fields`. -/
def flowRemLoop (host : ByteOrder) :
    Nat → Nat → List UInt8 → FlowRemFields → Except Stop FlowRemFields
  | 0, _, _, _ => .error .running
  | fuel + 1, length, rest, fields =>
    if length = 0 then .ok fields
    else do
      let word ← loadAt host rest 0 4
      let tlv := OfMatchTlv.ofWord host word
      let fields ← flowRemCase host tlv (rest.drop 4) fields
      let tlvLen := 4 + tlv.oxmLength
      flowRemLoop host fuel ((length + 2 ^ 32 - tlvLen) % 2 ^ 32) (rest.drop tlvLen) fields

/-- `of_get_flow_rem_msg_match_fields`, which takes the match fields for a `struct
ofp_match`. -/
def ofGetFlowRemMsgMatchFields (host : ByteOrder) (matchFields : List UInt8)
    (fields : FlowRemFields) : Except Stop FlowRemFields := do
  let ofpMatchLength ← loadAt host matchFields 2 2
  flowRemLoop host (matchFields.length + 1) ((ofpMatchLength + 2 ^ 32 - 4) % 2 ^ 32)
    (matchFields.drop 4) fields

open List

/-! ## The headers of a list -/

theorem sum_heads_le (place : Nat) (bytes : List UInt8) :
    ((heads place bytes).map OxmHead.length).sum ≤ bytes.length + 255 := by
  induction place, bytes using heads_induction with
  | short place bytes short => simp [heads_short short]
  | field head ih =>
  have small := head.size_lt
  rw [heads_wire, map_cons, sum_cons, OxmHead.length, head.length_wire]
  by_cases inside : head.size.toNat ≤ head.behind.length
  · rw [head.length_rest, OxmHead.length] at ih
    omega
  have few : head.rest.length < 4 := by
    rw [head.length_rest]
    omega
  rw [heads_short few]
  simp only [map_nil, sum_nil]
  omega

variable {bytes : List UInt8} {head : OxmHead}

theorem place_le_of_mem_heads {place : Nat} (member : head ∈ heads place bytes) :
    place ≤ head.place := by
  induction place, bytes using heads_induction with
  | short place bytes short =>
    rw [heads_short short] at member
    cases member
  | field first ih =>
  rw [heads_wire] at member
  rcases mem_cons.mp member with rfl | later
  · exact Nat.le_refl _
  · exact (Nat.le_add_right _ _).trans (ih later)

theorem heads_place_inj {place : Nat} {one two : OxmHead} (first : one ∈ heads place bytes)
    (second : two ∈ heads place bytes) (same : one.place = two.place) : one = two := by
  induction place, bytes using heads_induction with
  | short place bytes short =>
    rw [heads_short short] at first
    cases first
  | field head ih =>
  have long : 4 ≤ head.length := Nat.le_add_right _ _
  rw [heads_wire] at first second
  rcases mem_cons.mp first with rfl | first <;>
    rcases mem_cons.mp second with rfl | second
  · rfl
  · have later := place_le_of_mem_heads second
    omega
  · have later := place_le_of_mem_heads first
    omega
  · exact ih first second

/-! ## Reading -/

section Reading

variable (host : ByteOrder) (bytes : List UInt8)

theorem ntohlAt_zero : ntohlAt host bytes 0 =
    if 4 ≤ bytes.length then .ok (word32 (bytes.take 4)) else .error .outside := by
  unfold ntohlAt loadAt peek
  split
  case isFalse => rfl
  case isTrue long =>
    have width : (bytes.take 4).length = 4 := length_take_of_le long
    change Except.ok (UInt32.ofNat (ntoh host 4 (load host (bytes.take 4)))) = _
    rw [ntoh_load width]
    rfl

theorem ntohllAt_zero : ntohllAt host bytes 0 =
    if 8 ≤ bytes.length then .ok (word64 (bytes.take 8)) else .error .outside := by
  unfold ntohllAt loadAt peek
  split
  case isFalse => rfl
  case isTrue long =>
    have width : (bytes.take 8).length = 8 := length_take_of_le long
    change Except.ok (UInt64.ofNat (ntoh host 8 (load host (bytes.take 8)))) = _
    rw [ntoh_load width]
    rfl

variable (head : OxmHead)

theorem netNat_header : netNat (head.wire.take 4) =
    2 ^ 24 * head.classHigh.toNat + 2 ^ 16 * head.classLow.toNat +
      2 ^ 8 * head.kind.toNat + head.size.toNat := by
  simp only [OxmHead.wire, take_succ_cons, take_zero, netNat, foldl_cons, foldl_nil]
  omega

theorem toNat_header : (word32 (head.wire.take 4)).toNat =
    2 ^ 24 * head.classHigh.toNat + 2 ^ 16 * head.classLow.toNat +
      2 ^ 8 * head.kind.toNat + head.size.toNat := by
  have high := head.classHigh.toNat_lt
  have low := head.classLow.toNat_lt
  have third := head.kind.toNat_lt
  have fourth := head.size.toNat_lt
  rw [word32, netNat_header, UInt32.toNat_ofNat_of_lt']
  have bound : UInt32.size = 2 ^ 32 := rfl
  omega

theorem oxmFieldOf_header : oxmFieldOf (word32 (head.wire.take 4)) = head.number := by
  have third := head.kind.toNat_lt
  have fourth := head.size.toNat_lt
  rw [oxmFieldOf, toNat_header, OxmHead.number]
  omega

theorem oxmLengthOf_header : oxmLengthOf (word32 (head.wire.take 4)) = head.size.toNat := by
  have fourth := head.size.toNat_lt
  rw [oxmLengthOf, toNat_header]
  omega

end Reading

/-! ## The search -/

/-- What a search that meets these headers ends with; `whole` tells whether it may end without
the field. -/
def searched (field : Nat) (met : List OxmHead) (whole : Prop) [Decidable whole] :
    Except Stop (Option (Nat × List UInt8)) :=
  match met.find? fun head => head.number = field with
  | some head => .ok (some (head.place, head.behind))
  | none => if whole then .ok none else .error .outside

theorem searched_found {field : Nat} (found : head.number = field) (met : List OxmHead)
    (whole : Prop) [Decidable whole] :
    searched field (head :: met) whole = .ok (some (head.place, head.behind)) := by
  rw [searched, find?_cons_of_pos (by simpa using found)]

theorem searched_other {field : Nat} (other : head.number ≠ field) (met : List OxmHead)
    {whole whole' : Prop} [Decidable whole] [Decidable whole'] (same : whole ↔ whole') :
    searched field (head :: met) whole = searched field met whole' := by
  rw [searched, find?_cons_of_neg (by simpa using other), searched]
  simp only [same]

section Search

variable {host : ByteOrder} {field : Nat} {counts : Bool} {fuel left : Nat}

theorem oxmWalk_header (turn : left ≠ 0) (head : OxmHead) :
    oxmWalk host field counts (fuel + 1) head.place left head.wire =
      if head.number = field then .ok (some (head.place, head.behind))
      else
        oxmWalk host field counts fuel (head.place + head.length)
          (if counts then (left + 2 ^ 16 - head.length) % 2 ^ 16 else left) head.rest := by
  rw [oxmWalk, if_neg turn, ntohlAt_zero, if_pos (by rw [head.length_wire]; omega)]
  change (if oxmFieldOf _ = field then _ else _) = _
  rw [oxmFieldOf_header, oxmLengthOf_header]
  split
  · rfl
  · change oxmWalk host field counts fuel (head.place + head.length)
      (if counts then (left + 2 ^ 16 - head.length) % 2 ^ 16 else left)
      (head.wire.drop head.length) = _
    rw [head.drop_wire]

variable {rest : List UInt8} {place : Nat}

theorem oxmWalk_short (turn : left ≠ 0) (short : rest.length < 4) :
    oxmWalk host field counts (fuel + 1) place left rest = .error .outside := by
  rw [oxmWalk, if_neg turn, ntohlAt_zero, if_neg (by omega)]
  rfl

/-- The walk searches the fields whose lengths add up. -/
theorem oxmWalk_counting (enough : rest.length < fuel) (small : rest.length < 2 ^ 16) :
    oxmWalk host field true fuel place rest.length rest =
      searched field (heads place rest)
        (((heads place rest).map OxmHead.length).sum = rest.length) := by
  induction fuel generalizing place rest with
  | zero => omega
  | succ fuel ih =>
  by_cases empty : rest.length = 0
  · rw [length_eq_zero_iff.mp empty, heads_short (by decide), oxmWalk]
    rfl
  by_cases short : rest.length < 4
  · rw [oxmWalk_short empty short, heads_short short]
    exact (if_neg (Ne.symm empty)).symm
  obtain ⟨head, rfl, rfl⟩ := exists_header (Nat.le_of_not_lt short) place
  have bound := head.size_lt
  rw [oxmWalk_header empty, heads_wire]
  by_cases found : head.number = field
  · rw [if_pos found, searched_found found]
  rw [if_neg found, if_pos rfl]
  simp only [head.length_wire, map_cons, sum_cons, OxmHead.length] at *
  by_cases inside : head.size.toNat ≤ head.behind.length
  · have left : (4 + head.behind.length + 2 ^ 16 - (4 + head.size.toNat)) % 2 ^ 16 =
        head.rest.length := by
      rw [head.length_rest]
      omega
    rw [left, ih (by rw [head.length_rest]; omega) (by rw [head.length_rest]; omega)]
    refine (searched_other found _ ?_).symm
    omega
  · -- The field reaches behind the list: the next turn reads there.
    have none_left : head.rest = [] := drop_eq_nil_of_le (by omega)
    have turn : (4 + head.behind.length + 2 ^ 16 - (4 + head.size.toNat)) % 2 ^ 16 ≠
        0 := by omega
    obtain ⟨fuel, rfl⟩ : ∃ more, fuel = more + 1 := ⟨fuel - 1, by omega⟩
    rw [none_left, oxmWalk_short turn (by decide), heads_short (by decide)]
    have never : 4 + head.size.toNat + (([] : List OxmHead).map OxmHead.length).sum =
        4 + head.behind.length ↔ False := by
      exact iff_false_intro (by omega)
    exact (searched_other found [] never).symm

theorem oxmWalk_not_counting (enough : rest.length < fuel) (turn : left ≠ 0) :
    oxmWalk host field false fuel place left rest =
      searched field (heads place rest) False := by
  induction fuel generalizing place rest with
  | zero => omega
  | succ fuel ih =>
  by_cases short : rest.length < 4
  · rw [oxmWalk_short turn short, heads_short short]
    rfl
  obtain ⟨head, rfl, rfl⟩ := exists_header (Nat.le_of_not_lt short) place
  rw [oxmWalk_header turn, heads_wire]
  by_cases found : head.number = field
  · rw [if_pos found, searched_found found]
  have fewer : head.rest.length < fuel := by
    rw [head.length_wire] at enough
    rw [head.length_rest]
    omega
  rw [if_neg found, searched_other found _ Iff.rfl]
  exact ih fewer

theorem oxmSearch_eq {matchFields : List UInt8} (small : matchFields.length < 2 ^ 16) :
    oxmSearch host field counts matchFields =
      searched field (heads 0 matchFields)
        (if counts then Tiled matchFields else matchFields = []) := by
  cases counts with
  | true => exact oxmWalk_counting (Nat.lt_succ_self _) small
  | false =>
  by_cases empty : matchFields = []
  · subst empty
    rw [heads_short (by decide)]
    rfl
  · have turn : matchFields.length ≠ 0 := fun none =>
      empty (length_eq_zero_iff.mp none)
    rw [oxmSearch, oxmWalk_not_counting (Nat.lt_succ_self _) turn]
    simp only [empty, Bool.false_eq_true, if_false]

end Search

/-! ## What a search promises -/

/-- A field is found at its place, or it is not in the list and not found. -/
def FoundAt (field : OxmField) (matchFields : List UInt8) (found : Option Nat) : Prop :=
  (found = none ∧ ∀ head ∈ heads 0 matchFields, ¬ head.IsOf field) ∨
    ∃ head ∈ heads 0 matchFields, head.IsOf field ∧ found = some head.place

/-- The search for a value is right: it reads inside the list; on a well-formed list it finds
the field that is there; and the value is the one at the place it gives. -/
def GetRight {α : Type} (field : OxmField) (value : List UInt8 → α) (matchFields : List UInt8)
    (outcome : Except Stop (Option (Nat × α))) : Prop :=
  ∃ result, outcome = .ok result ∧
    (WellFormedOxm matchFields → FoundAt field matchFields (result.map Prod.fst)) ∧
    ∀ place found, result = some (place, found) →
      found = value ((matchFields.drop (place + ofOxmHdrLen)).take field.width)

/-- The list with the in-port of the field at a place replaced. -/
def withController (matchFields : List UInt8) : Option Nat → List UInt8
  | none => matchFields
  | some place => matchFields.take (place + ofOxmHdrLen) ++ bytes32 ofppController ++
      matchFields.drop (place + ofOxmHdrLen + OxmField.inPort.width)

/-- The store is right: it reads inside the list, on a well-formed list it finds the field that
is there, and it changes the value of that field only. -/
def SetRight (matchFields : List UInt8) (outcome : Except Stop (Option Nat × List UInt8)) : Prop :=
  ∃ found, outcome = .ok (found, withController matchFields found) ∧
    (WellFormedOxm matchFields → FoundAt .inPort matchFields found)

/-- The condition on a list that is searched: the first field with the number has a whole value
behind its header, and is of the basic class if the list is well formed; or no field has the
number, and the fields fill the list where the search counts down, and there is no list at all
where it does not. -/
def SearchFits (field : OxmField) (counts : Bool) (matchFields : List UInt8) : Prop :=
  match (heads 0 matchFields).find? fun head => head.number = field.code with
  | some head => field.width ≤ head.behind.length ∧ (WellFormedOxm matchFields → head.Basic)
  | none => if counts then Tiled matchFields else matchFields = []

section SearchRight

variable {host : ByteOrder} {field : OxmField} {counts : Bool} {matchFields : List UInt8}
  {head : OxmHead}

theorem behind_eq_drop {start : Nat} {bytes : List UInt8} (member : head ∈ heads start bytes) :
    head.behind = bytes.drop (head.place - start + 4) := by
  induction start, bytes using heads_induction with
  | short place bytes short =>
    rw [heads_short short] at member
    cases member
  | field first ih =>
  rw [heads_wire] at member
  rcases mem_cons.mp member with rfl | later
  · rw [Nat.sub_self]
    rfl
  have low := place_le_of_mem_heads later
  have place : head.place - first.place + 4 =
      first.length + (head.place - (first.place + first.length) + 4) := by omega
  rw [place, ← drop_drop, first.drop_wire]
  exact ih later

theorem behind_of_heads (member : head ∈ heads 0 matchFields) :
    head.behind = matchFields.drop (head.place + ofOxmHdrLen) :=
  behind_eq_drop member

theorem foundAt_iff
    (first : (heads 0 matchFields).find? (fun head => head.number = field.code) = some head) :
    FoundAt field matchFields (some head.place) ↔ head.Basic := by
  have number : head.number = field.code := by simpa using find?_some first
  have member := mem_of_find?_eq_some first
  constructor
  · rintro (⟨none, -⟩ | ⟨other, inside, isOf, same⟩)
    · cases none
    · rw [heads_place_inj member inside (Option.some.inj same)]
      exact isOf.1
  · intro basic
    exact .inr ⟨head, member, ⟨basic, number⟩, rfl⟩

theorem foundAt_none
    (absent : (heads 0 matchFields).find? (fun head => head.number = field.code) = none) :
    FoundAt field matchFields none := by
  refine .inl ⟨rfl, fun head member isOf => ?_⟩
  have other := find?_eq_none.mp absent head member
  exact other (by simpa using isOf.2)

/-- A search for a value, with what it reads behind the header, is right on the lists that meet
the condition. -/
theorem getRight_iff {α : Type} (small : matchFields.length < 2 ^ 16)
    (value : List UInt8 → α) (read : List UInt8 → Except Stop α)
    (reads : ∀ behind, read behind =
      if field.width ≤ behind.length then .ok (value (behind.take field.width))
      else .error .outside) :
    GetRight field value matchFields (do
        match ← oxmSearch host field.code counts matchFields with
        | none => pure none
        | some (place, behind) =>
          let found ← read behind
          pure (some (place, found))) ↔
      SearchFits field counts matchFields := by
  rw [oxmSearch_eq small, searched, SearchFits]
  cases first : (heads 0 matchFields).find? fun head => head.number = field.code with
  | none =>
    by_cases whole : if counts then Tiled matchFields else matchFields = []
    · rw [if_pos whole]
      exact ⟨fun _ => whole, fun _ => ⟨none, rfl, fun _ => foundAt_none first, nofun⟩⟩
    rw [if_neg whole]
    constructor
    · rintro ⟨result, ended, -⟩
      cases ended
    · exact fun fits => absurd fits whole
  | some head =>
  have behind := behind_of_heads (mem_of_find?_eq_some first)
  change GetRight field value matchFields (do
    let found ← read head.behind
    pure (some (head.place, found))) ↔ _
  rw [reads]
  by_cases inside : field.width ≤ head.behind.length
  · rw [if_pos inside]
    constructor
    · rintro ⟨result, ended, found, -⟩
      cases ended
      exact ⟨inside, fun formed => (foundAt_iff first).mp (found formed)⟩
    · rintro ⟨-, basic⟩
      refine ⟨_, rfl, fun formed => (foundAt_iff first).mpr (basic formed), ?_⟩
      rintro place found ⟨⟩
      rw [behind]
  · rw [if_neg inside]
    constructor
    · rintro ⟨result, ended, -⟩
      cases ended
    · exact fun fits => absurd fits.1 inside

theorem ofuGetInPortField_right_iff (host : ByteOrder) (small : matchFields.length < 2 ^ 16) :
    GetRight .inPort word32 matchFields (ofuGetInPortField host matchFields) ↔
      SearchFits .inPort false matchFields :=
  getRight_iff small word32 _ (ntohlAt_zero host)

theorem ofuGetMetadataField_right_iff (host : ByteOrder) (small : matchFields.length < 2 ^ 16) :
    GetRight .metadata word64 matchFields (ofuGetMetadataField host matchFields) ↔
      SearchFits .metadata true matchFields :=
  getRight_iff small word64 _ (ntohllAt_zero host)

/-- The port is set right exactly when the search fits. -/
theorem ofuSetInPortFieldAsController_right_iff (host : ByteOrder)
    (small : matchFields.length < 2 ^ 16) :
    SetRight matchFields (ofuSetInPortFieldAsController host matchFields) ↔
      SearchFits .inPort true matchFields := by
  rw [ofuSetInPortFieldAsController, oxmSearch_eq small, searched, SearchFits]
  cases first : (heads 0 matchFields).find? fun head =>
      head.number = OxmField.inPort.code with
  | none =>
    by_cases whole : Tiled matchFields
    · rw [if_pos (by exact whole)]
      exact ⟨fun _ => whole, fun _ => ⟨none, rfl, fun _ => foundAt_none first⟩⟩
    rw [if_neg (by exact whole)]
    constructor
    · rintro ⟨result, ended, -⟩
      cases ended
    · exact fun fits => absurd fits whole
  | some head =>
  by_cases inside : OxmField.inPort.width ≤ head.behind.length
  · have read : peek head.behind 0 4 = .ok ((head.behind.drop 0).take 4) :=
      if_pos (by rw [Nat.zero_add]; exact inside)
    constructor
    · rintro ⟨result, ended, found⟩
      change (do
        let _ ← peek head.behind 0 4
        pure _) = _ at ended
      rw [read] at ended
      have place := (Prod.mk.inj (Except.ok.inj ended)).1
      rw [← place] at found
      exact ⟨inside, fun formed => (foundAt_iff first).mp (found formed)⟩
    rintro ⟨-, basic⟩
    refine ⟨some head.place, ?_, fun formed => (foundAt_iff first).mpr (basic formed)⟩
    change (do
      let _ ← peek head.behind 0 4
      pure _) = _
    rw [read]
    rfl
  · have read : peek head.behind 0 4 = .error .outside :=
      if_neg (by rw [Nat.zero_add]; exact inside)
    constructor
    · rintro ⟨result, ended, -⟩
      change (do
        let _ ← peek head.behind 0 4
        pure _) = _ at ended
      rw [read] at ended
      cases ended
    · exact fun fits => absurd fits.1 inside

end SearchRight

open List Option

/-! ## What the walk meets -/

section Met

variable (host : ByteOrder)

/-- The bit fields of a header, as the host has them. -/
def tlvOf (head : OxmHead) : OfMatchTlv :=
  OfMatchTlv.ofWord host (load host (head.wire.take 4))

/-- The field that a header is taken for, when its case stores something. -/
def metField (head : OxmHead) : Option OxmField :=
  if (tlvOf host head).oxmClass = ofpxmcOpenflowBasic then
    (OxmField.ofCode (tlvOf host head).oxmField).filter fun field => (oxmStored field).isSome
  else none

/-- The value behind a header that is taken for a field. -/
def metValue (head : OxmHead) (field : OxmField) : Nat :=
  oxmGetData host (head.behind.take field.width)

/-- The last value that is met of a field. -/
def lastMet (met : List OxmHead) (field : OxmField) : Option Nat :=
  ((met.filter fun head => metField host head = some field).getLast?).map fun head =>
    metValue host head field

/-- The values behind the headers are in the list. -/
def ValuesInside (met : List OxmHead) : Prop :=
  ∀ head ∈ met, ∀ field, metField host head = some field →
    field.width ≤ head.behind.length

/-- What a header stores. -/
def storeMet (fields : FlowRemFields) (head : OxmHead) : FlowRemFields :=
  match metField host head with
  | none => fields
  | some field =>
    match oxmStored field with
    | none => fields
    | some member => fields.store member field (metValue host head field)

end Met

/-! ## What the function promises -/

/-- Each field that the function decodes is stored in its member, with its flag, when it is in
the list; the other members and flags stay. -/
def Stored (matchFields : List UInt8) (fields stored : FlowRemFields) : Prop :=
  ∀ field, (oxmStored field).isSome →
    (∀ head ∈ heads 0 matchFields, head.IsOf field →
      stored.members field = netNat (head.behind.take field.width) ∧
        stored.flags.testBit field.code = true) ∧
    ((∀ head ∈ heads 0 matchFields, ¬ head.IsOf field) →
      stored.members field = fields.members field ∧
        stored.flags.testBit field.code = fields.flags.testBit field.code)

/-- The function is right: it reads inside the list, and stores the fields of a well-formed
list, whatever was in the members before. -/
def FlowRemRight (host : ByteOrder) (matchFields : List UInt8) : Prop :=
  ∀ fields, ∃ stored, ofGetFlowRemMsgMatchFields host matchFields fields = .ok stored ∧
    (WellFormedOxm matchFields → Stored matchFields fields stored)

/-- The last values that are met are the values of the fields in the list, and neither has an
Ethernet source. -/
structure MeetsFields (host : ByteOrder) (matchFields : List UInt8) (met : List OxmHead) :
    Prop where
  noSource : ∀ head ∈ heads 0 matchFields, ¬ head.IsOf .ethSrc
  noSourceMet : lastMet host met .ethSrc = none
  values : ∀ field, (oxmStored field).isSome → field ≠ .ethSrc → lastMet host met field =
    ((heads 0 matchFields).find? fun head => head.IsOf field).map fun head =>
      netNat (head.behind.take field.width)

/-- The condition on the list: from the fifth byte on, fields with their values inside the list
take up as many bytes as the third and fourth byte say, those four included; and if the list
is well formed they are the fields of the list. -/
def FlowRemFits (host : ByteOrder) (matchFields : List UInt8) : Prop :=
  4 ≤ matchFields.length ∧
    ∃ met, met <+: heads 4 (matchFields.drop 4) ∧
      4 + (met.map OxmHead.length).sum = load host ((matchFields.drop 2).take 2) ∧
      ValuesInside host met ∧
      (WellFormedOxm matchFields → MeetsFields host matchFields met)

/-! ## The loop -/

section Loop

variable {host : ByteOrder}

theorem oxmLength_tlvOf (head : OxmHead) : (tlvOf host head).oxmLength = head.size.toNat := by
  have high := head.classHigh.toNat_lt
  have low := head.classLow.toNat_lt
  have third := head.kind.toNat_lt
  have fourth := head.size.toNat_lt
  cases host with
  | bigEndian =>
    change netNat (head.wire.take 4) % 2 ^ 8 = _
    rw [netNat_header]
    omega
  | littleEndian =>
  change netNat [head.size, head.kind, head.classLow, head.classHigh] / 2 ^ 24 = _
  simp only [netNat, foldl_cons, foldl_nil]
  omega

variable {head : OxmHead}

theorem valuesInside_of_none (none : metField host head = none) : ValuesInside host [head] := by
  intro other member field met
  rw [mem_singleton.mp member, none] at met
  cases met

variable {field : OxmField}

theorem valuesInside_of_some (met : metField host head = some field) :
    ValuesInside host [head] ↔ field.width ≤ head.behind.length := by
  constructor
  · exact fun inside => inside head (mem_singleton_self head) field met
  intro inside other member field' met'
  rw [mem_singleton.mp member] at met' ⊢
  rw [met] at met'
  cases met'
  exact inside

variable {met : List OxmHead}

theorem valuesInside_cons :
    ValuesInside host (head :: met) ↔ ValuesInside host [head] ∧ ValuesInside host met := by
  simp only [ValuesInside, mem_cons, not_mem_nil, or_false, forall_eq_or_imp, forall_eq]

theorem peek_value (behind : List UInt8) (width : Nat) :
    peek behind 0 width =
      if width ≤ behind.length then .ok (behind.take width) else .error .outside := by
  rw [peek, Nat.zero_add, drop_zero]

/-- A field is stored exactly when its value is inside. -/
theorem flowRemCase_ok_iff (head : OxmHead) (fields stored : FlowRemFields) :
    flowRemCase host (tlvOf host head) head.behind fields = .ok stored ↔
      ValuesInside host [head] ∧ stored = storeMet host fields head := by
  have nothing : metField host head = none →
      ((Except.ok fields : Except Stop FlowRemFields) = .ok stored ↔
        ValuesInside host [head] ∧ stored = storeMet host fields head) := by
    intro none
    rw [storeMet, none]
    constructor
    · rintro ⟨⟩
      exact ⟨valuesInside_of_none none, rfl⟩
    · rintro ⟨-, rfl⟩
      rfl
  unfold flowRemCase
  by_cases basic : (tlvOf host head).oxmClass = ofpxmcOpenflowBasic
  case neg =>
    rw [if_neg basic]
    exact nothing (if_neg basic)
  case pos =>
  rw [if_pos basic]
  cases code : OxmField.ofCode (tlvOf host head).oxmField with
  | none => exact nothing (by rw [metField, if_pos basic, code]; rfl)
  | some field =>
  cases member : oxmStored field with
  | none =>
    dsimp only
    rw [member]
    refine nothing ?_
    rw [metField, if_pos basic, code, filter_some, member]
    rfl
  | some target =>
  have met : metField host head = some field := by
    rw [metField, if_pos basic, code, filter_some, member]
    rfl
  rw [valuesInside_of_some met, storeMet, met]
  dsimp only
  rw [member, peek_value]
  by_cases inside : field.width ≤ head.behind.length
  · rw [if_pos inside]
    constructor
    · rintro ⟨⟩
      exact ⟨inside, rfl⟩
    · rintro ⟨-, rfl⟩
      rfl
  · rw [if_neg inside]
    constructor
    · rintro ⟨⟩
    · exact fun both => absurd both.1 inside

/-- Each turn of the loop takes one field. -/
theorem flowRemLoop_header {fuel length : Nat} (turn : length ≠ 0) (head : OxmHead)
    (fields stored : FlowRemFields) :
    flowRemLoop host (fuel + 1) length head.wire fields = .ok stored ↔
      ValuesInside host [head] ∧
        flowRemLoop host fuel ((length + 2 ^ 32 - head.length) % 2 ^ 32) head.rest
          (storeMet host fields head) = .ok stored := by
  have read : loadAt host head.wire 0 4 = .ok (load host (head.wire.take 4)) := by
    rfl
  have next : head.wire.drop (4 + (tlvOf host head).oxmLength) = head.rest := by
    rw [oxmLength_tlvOf]
    exact head.drop_wire
  have size : 4 + (tlvOf host head).oxmLength = head.length := by
    rw [oxmLength_tlvOf]
    rfl
  rw [flowRemLoop, if_neg turn, read]
  change (do
    let fields ← flowRemCase host (tlvOf host head) head.behind fields
    flowRemLoop host fuel ((length + 2 ^ 32 - (4 + (tlvOf host head).oxmLength)) % 2 ^ 32)
      (head.wire.drop (4 + (tlvOf host head).oxmLength)) fields) = .ok stored ↔ _
  rw [next, size]
  have turned : ∀ mid, flowRemCase host (tlvOf host head) head.behind fields = .ok mid ↔ _ :=
    fun mid => flowRemCase_ok_iff head fields mid
  cases outcome : flowRemCase host (tlvOf host head) head.behind fields with
  | error stop =>
    rw [outcome] at turned
    constructor
    · rintro ⟨⟩
    · rintro ⟨inside, -⟩
      cases (turned _).mpr ⟨inside, rfl⟩
  | ok mid =>
  rw [outcome] at turned
  obtain ⟨inside, same⟩ := (turned mid).mp rfl
  subst same
  exact ⟨fun rest => ⟨inside, rest⟩, fun both => both.2⟩

/-- The loop ends well exactly when fields with their values inside take up the length. -/
theorem flowRemLoop_ok_iff {fuel length place : Nat} {rest : List UInt8}
    {fields stored : FlowRemFields} (enough : rest.length < fuel)
    (small : rest.length < 2 ^ 16) (word : length < 2 ^ 32) :
    flowRemLoop host fuel length rest fields = .ok stored ↔
      ∃ met, met <+: heads place rest ∧ (met.map OxmHead.length).sum = length ∧
        ValuesInside host met ∧ stored = met.foldl (storeMet host) fields := by
  induction fuel generalizing length place rest fields with
  | zero => omega
  | succ fuel ih =>
  by_cases turn : length = 0
  · subst turn
    constructor
    · rintro ⟨⟩
      exact ⟨[], nil_prefix, rfl, fun _ member => absurd member not_mem_nil, rfl⟩
    rintro ⟨met, -, none, -, rfl⟩
    cases met with
    | nil => rfl
    | cons head met =>
      simp only [map_cons, sum_cons, OxmHead.length] at none
      omega
  by_cases short : rest.length < 4
  · have unread : loadAt host rest 0 4 = .error .outside := by
      rw [loadAt, peek_value, if_neg (by omega)]
      rfl
    rw [flowRemLoop, if_neg turn, unread, heads_short short]
    constructor
    · rintro ⟨⟩
    · rintro ⟨met, before, sum, -⟩
      rw [prefix_nil.mp before] at sum
      exact absurd sum.symm turn
  obtain ⟨head, rfl, rfl⟩ := exists_header (Nat.le_of_not_lt short) place
  have bound := head.size_lt
  have size : head.length = 4 + head.size.toNat := rfl
  rw [head.length_wire] at enough small
  have fewer := head.length_rest
  rw [flowRemLoop_header turn, heads_wire,
    ih (by omega) (by omega) (Nat.mod_lt _ (by decide))]
  have total := sum_heads_le (head.place + head.length) head.rest
  constructor
  · rintro ⟨inside, met, before, sum, others, rfl⟩
    refine ⟨head :: met, prefix_cons_iff.mpr (.inr ⟨met, rfl, before⟩), ?_,
      valuesInside_cons.mpr ⟨inside, others⟩, rfl⟩
    -- A length that wrapped is more than the fields of any list here take up.
    obtain ⟨behind, whole⟩ := before
    rw [← whole, map_append, sum_append] at total
    rw [map_cons, sum_cons]
    omega
  rintro ⟨met, before, sum, inside, rfl⟩
  rcases prefix_cons_iff.mp before with rfl | ⟨met, rfl, front⟩
  · exact absurd sum.symm turn
  · obtain ⟨inside, others⟩ := valuesInside_cons.mp inside
    rw [map_cons, sum_cons] at sum
    exact ⟨inside, met, front, by omega, others, rfl⟩

/-! ## What is stored in the end -/

theorem lastMet_concat (met : List OxmHead) (head : OxmHead) (field : OxmField) :
    lastMet host (met ++ [head]) field =
      if metField host head = some field then some (metValue host head field)
      else lastMet host met field := by
  rw [lastMet, filter_append]
  by_cases same : metField host head = some field
  · rw [if_pos same, filter_cons_of_pos (by simpa using same), filter_nil, getLast?_concat]
    rfl
  · rw [if_neg same, filter_cons_of_neg (by simpa using same), filter_nil, append_nil]
    rfl

theorem stored_of_metField (met : metField host head = some field) : (oxmStored field).isSome := by
  unfold metField at met
  split at met
  · exact (Option.filter_eq_some_iff.mp met).2
  · cases met

theorem oxmStored_self (decoded : (oxmStored field).isSome) (other : field ≠ .ethSrc) :
    oxmStored field = some field := by
  cases field <;> first | rfl | exact absurd rfl other | cases decoded

theorem code_inj {field' : OxmField} (same : field.code = field'.code) : field = field' := by
  have found := OxmField.ofCode_code field
  rw [same, OxmField.ofCode_code] at found
  exact (some.inj found).symm

/-- A member holds the last value met for it. -/
theorem members_foldl (noSource : lastMet host met .ethSrc = none) (fields : FlowRemFields)
    (field : OxmField) :
    (met.foldl (storeMet host) fields).members field =
      (lastMet host met field).getD (fields.members field) := by
  induction met using List.reverseRecOn with
  | nil => rfl
  | append_singleton met head ih =>
  rw [lastMet_concat] at noSource ⊢
  rw [foldl_append, foldl_cons, foldl_nil, storeMet]
  cases taken : metField host head with
  | none =>
    rw [taken, if_neg nofun] at noSource
    exact ih noSource
  | some other =>
  have notSource : other ≠ .ethSrc := by
    rintro rfl
    rw [if_pos taken] at noSource
    cases noSource
  rw [if_neg (by rw [taken]; exact fun same => notSource (some.inj same))]
    at noSource
  dsimp only
  rw [oxmStored_self (stored_of_metField taken) notSource]
  dsimp only [FlowRemFields.store]
  by_cases same : other = field
  · subst same
    rw [Function.update_self, if_pos rfl]
    rfl
  · rw [Function.update_of_ne (Ne.symm same), if_neg fun equal => same (some.inj equal)]
    exact ih noSource

theorem flags_foldl (met : List OxmHead) (fields : FlowRemFields) (field : OxmField) :
    (met.foldl (storeMet host) fields).flags.testBit field.code =
      (fields.flags.testBit field.code || (lastMet host met field).isSome) := by
  induction met using List.reverseRecOn with
  | nil => simp [lastMet]
  | append_singleton met head ih =>
  rw [lastMet_concat, foldl_append, foldl_cons, foldl_nil, storeMet]
  cases taken : metField host head with
  | none =>
    exact ih
  | some other =>
  obtain ⟨member, stored⟩ := isSome_iff_exists.mp (stored_of_metField taken)
  dsimp only
  rw [stored]
  dsimp only [FlowRemFields.store]
  rw [Nat.testBit_or, ih, Nat.testBit_two_pow]
  by_cases same : other = field
  · subst same
    simp
  · have apart : ¬ other.code = field.code := fun equal => same (code_inj equal)
    rw [if_neg fun equal => same (some.inj equal)]
    simp [apart]

/-! ## When the function is right -/

variable {matchFields : List UInt8}

/-- The loop ends exactly where the length ends behind a field, with all values inside. -/
theorem flowRem_ok_iff (small : matchFields.length < 2 ^ 16) (fields stored : FlowRemFields) :
    ofGetFlowRemMsgMatchFields host matchFields fields = .ok stored ↔
      4 ≤ matchFields.length ∧ ∃ met, met <+: heads 4 (matchFields.drop 4) ∧
        4 + (met.map OxmHead.length).sum = load host ((matchFields.drop 2).take 2) ∧
        ValuesInside host met ∧ stored = met.foldl (storeMet host) fields := by
  by_cases long : 4 ≤ matchFields.length
  case neg =>
    have unread : loadAt host matchFields 2 2 = .error .outside := by
      rw [loadAt, peek, if_neg long]
      rfl
    rw [ofGetFlowRemMsgMatchFields, unread]
    constructor
    · rintro ⟨⟩
    · exact fun both => absurd both.1 long
  case pos =>
    have read : loadAt host matchFields 2 2 =
        pure (load host ((matchFields.drop 2).take 2)) := by
      rw [loadAt, peek, if_pos long]
      rfl
    have half : load host ((matchFields.drop 2).take 2) < 2 ^ 16 := by
      have two : ((matchFields.drop 2).take 2).length = 2 := by
        rw [length_take, length_drop]
        omega
      cases host with
      | bigEndian =>
        have bound := netNat_lt ((matchFields.drop 2).take 2)
        rw [two] at bound
        exact bound
      | littleEndian =>
      have bound := netNat_lt ((matchFields.drop 2).take 2).reverse
      rw [length_reverse, two] at bound
      exact bound
    have fewer : (matchFields.drop 4).length = matchFields.length - 4 := length_drop
    rw [ofGetFlowRemMsgMatchFields, read, pure_bind,
      flowRemLoop_ok_iff (by omega) (by omega) (Nat.mod_lt _ (by decide))]
    have total := sum_heads_le 4 (matchFields.drop 4)
    constructor
    · rintro ⟨met, before, sum, inside, same⟩
      refine ⟨long, met, before, ?_, inside, same⟩
      obtain ⟨behind, whole⟩ := before
      rw [← whole, map_append, sum_append] at total
      omega
    · rintro ⟨-, met, before, sum, inside, same⟩
      exact ⟨met, before, by omega, inside, same⟩

theorem source_foldl (met : List OxmHead) (fields : FlowRemFields) :
    (met.foldl (storeMet host) fields).members .ethSrc = fields.members .ethSrc := by
  have never : ∀ field member, oxmStored field = some member → OxmField.ethSrc ≠ member := by
    rintro field _ stored rfl
    cases field <;> cases stored
  induction met generalizing fields with
  | nil => rfl
  | cons head met ih =>
  rw [foldl_cons, ih, storeMet]
  cases metField host head with
  | none => rfl
  | some field =>
  dsimp only
  cases stored : oxmStored field with
  | none => rfl
  | some member => exact Function.update_of_ne (never field member stored) _ _

/-- Fields that are all stored were all met. -/
theorem meets_of_stored
    (stored : ∀ fields, Stored matchFields fields (met.foldl (storeMet host) fields)) :
    MeetsFields host matchFields met := by
  have noSource : ∀ head ∈ heads 0 matchFields, ¬ head.IsOf .ethSrc := by
    intro head member isOf
    let more : OflOxmMatchFields := fun _ =>
      netNat (head.behind.take OxmField.ethSrc.width) + 1
    have value := ((stored ⟨more, 0⟩ .ethSrc rfl).1 head member isOf).1
    rw [source_foldl] at value
    exact absurd value (Nat.succ_ne_self _)
  have absent : ∀ field, (oxmStored field).isSome →
      (∀ head ∈ heads 0 matchFields, ¬ head.IsOf field) → lastMet host met field = none := by
    intro field decoded none
    have flag := ((stored ⟨fun _ => 0, 0⟩ field decoded).2 none).2
    rw [flags_foldl, Nat.zero_testBit, Bool.false_or] at flag
    exact not_isSome_iff_eq_none.mp (by rw [flag]; exact nofun)
  refine ⟨noSource, absent .ethSrc rfl noSource, fun field decoded other => ?_⟩
  cases found : (heads 0 matchFields).find? fun head => head.IsOf field with
  | none =>
    refine absent field decoded fun head member isOf => ?_
    have apart := find?_eq_none.mp found head member
    exact absurd (decide_eq_true isOf) apart
  | some head =>
  obtain ⟨value, flag⟩ := (stored ⟨fun _ => 0, 0⟩ field decoded).1 head
    (mem_of_find?_eq_some found) (by simpa using find?_some found)
  rw [flags_foldl, Nat.zero_testBit, Bool.false_or] at flag
  obtain ⟨last, some_⟩ := isSome_iff_exists.mp flag
  rw [members_foldl (absent .ethSrc rfl noSource), some_] at value
  rw [some_]
  exact congrArg some value

/-- Fields that were met are stored. -/
theorem MeetsFields.stored (formed : WellFormedOxm matchFields) {met : List OxmHead}
    (meets : MeetsFields host matchFields met) (fields : FlowRemFields) :
    Stored matchFields fields (met.foldl (storeMet host) fields) := by
  intro field decoded
  have last : lastMet host met field =
      ((heads 0 matchFields).find? fun head => head.IsOf field).map fun head =>
        netNat (head.behind.take field.width) := by
    by_cases source : field = .ethSrc
    · subst source
      have none : (heads 0 matchFields).find? (fun head => head.IsOf .ethSrc) = none :=
        find?_eq_none.mpr fun head member => by
          simpa using meets.noSource head member
      rw [none, meets.noSourceMet]
      rfl
    · exact meets.values field decoded source
  rw [members_foldl meets.noSourceMet, flags_foldl, last]
  constructor
  · intro head member isOf
    rw [formed.find_eq member isOf]
    exact ⟨rfl, Bool.or_true _⟩
  intro absent
  have none : (heads 0 matchFields).find? (fun head => head.IsOf field) = none :=
    find?_eq_none.mpr fun head member => by simpa using absent head member
  rw [none]
  exact ⟨rfl, Bool.or_false _⟩

theorem flowRemRight_iff (small : matchFields.length < 2 ^ 16) :
    FlowRemRight host matchFields ↔ FlowRemFits host matchFields := by
  constructor
  · intro right
    obtain ⟨_, ended, -⟩ := right ⟨fun _ => 0, 0⟩
    obtain ⟨long, met, before, sum, inside, -⟩ := (flowRem_ok_iff small _ _).mp ended
    refine ⟨long, met, before, sum, inside, fun formed => meets_of_stored fun fields => ?_⟩
    have same := (flowRem_ok_iff small fields _).mpr ⟨long, met, before, sum, inside, rfl⟩
    obtain ⟨stored, ended, holds⟩ := right fields
    rw [same] at ended
    cases ended
    exact holds formed
  · rintro ⟨long, met, before, sum, inside, meets⟩ fields
    exact ⟨_, (flowRem_ok_iff small fields _).mpr ⟨long, met, before, sum, inside, rfl⟩,
      fun formed => (meets formed).stored formed fields⟩

end Loop

/-! ## The four functions -/

/-- The match fields of a message, with a length of sixteen bits. -/
structure MatchFields where
  bytes : List UInt8
  short : bytes.length < 2 ^ 16

/-- One of the functions on match fields. -/
inductive OxmCall where
  | getInPort
  | setInPortAsController
  | getMetadata
  | getFlowRemFields

/-- The call is right on a list. -/
def OxmCall.Right (host : ByteOrder) (matchFields : List UInt8) : OxmCall → Prop
  | getInPort => GetRight .inPort word32 matchFields (ofuGetInPortField host matchFields)
  | setInPortAsController =>
    SetRight matchFields (ofuSetInPortFieldAsController host matchFields)
  | getMetadata => GetRight .metadata word64 matchFields (ofuGetMetadataField host matchFields)
  | getFlowRemFields => FlowRemRight host matchFields

/-- The condition of the call on a list. -/
def OxmCall.Fits (host : ByteOrder) (matchFields : List UInt8) : OxmCall → Prop
  | getInPort => SearchFits .inPort false matchFields
  | setInPortAsController => SearchFits .inPort true matchFields
  | getMetadata => SearchFits .metadata true matchFields
  | getFlowRemFields => FlowRemFits host matchFields

/-- On any bytes, each of the four functions is right exactly when the list meets its
condition. -/
theorem oxm_calls_right_iff (host : ByteOrder) (matchFields : MatchFields) (call : OxmCall) :
    call.Right host matchFields.bytes ↔ call.Fits host matchFields.bytes := by
  cases call with
  | getInPort => exact ofuGetInPortField_right_iff host matchFields.short
  | setInPortAsController => exact ofuSetInPortFieldAsController_right_iff host matchFields.short
  | getMetadata => exact ofuGetMetadataField_right_iff host matchFields.short
  | getFlowRemFields => exact flowRemRight_iff matchFields.short

/-- A match on the Ethernet type alone. -/
def ethTypeOnly : List UInt8 := [0x80, 0, 0x0a, 2, 0x08, 0]

/-- The list is well formed and has no in-port, and the search for one leaves it. -/
theorem in_port_search_leaves_list :
    WellFormedOxm ethTypeOnly ∧ ¬ OxmCall.getInPort.Right .bigEndian ethTypeOnly := by
  have met : heads 0 ethTypeOnly =
      [{ place := 0, classHigh := 0x80, classLow := 0, kind := 0x0a, size := 2
         behind := [0x08, 0] }] := by
    simp [ethTypeOnly, heads]
  constructor
  · refine ⟨?_, ?_, ?_⟩
    · rw [Tiled, met]
      rfl
    · intro head member field isOf
      rw [met] at member
      rw [mem_singleton.mp member] at isOf ⊢
      have code : OxmField.ethType.code = field.code := isOf.2
      rw [← code_inj code]
      rfl
    · rw [met]
      decide
  · rintro ⟨result, ended, -⟩
    cases ended

end OpenFlowController.Messages
