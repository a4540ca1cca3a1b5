/-
Module: Include.WireParser
Purpose: A parser for matches, instructions, actions and buckets, and that it reads back
  what spells them.
Source: ofproto/src/include/openflow.h (struct ofp_match, struct ofp_instruction_*, struct
  ofp_action_*, struct ofp_bucket, struct ofp_group_bucket_prop_*)
Trusted boundary: none
-/
import OpenFlowController.Include.ActionFormat

namespace OpenFlowController.Include

open Library List

/-! ## Elements one behind the other -/

/-- Elements up to the end of the bytes, of which there are not more than `fuel`. -/
def parseAll {α : Type} (parse : List UInt8 → Option (α × List UInt8)) :
    Nat → List UInt8 → Option (List α)
  | _, [] => some []
  | 0, _ :: _ => none
  | fuel + 1, byte :: bytes =>
    match parse (byte :: bytes) with
    | none => none
    | some (first, rest) => (parseAll parse fuel rest).map (first :: ·)

theorem SpellsAll.cons {α : Type} {spells : α → List UInt8 → Prop} {first : α}
    {rest : List α} {front back : List UInt8} (one : spells first front)
    (others : SpellsAll spells rest back) :
    SpellsAll spells (first :: rest) (front ++ back) := by
  obtain ⟨pieces, each, rfl⟩ := others
  exact ⟨front :: pieces, .cons one each, rfl⟩

theorem SpellsAll.nil {α : Type} {spells : α → List UInt8 → Prop} : SpellsAll spells [] [] :=
  ⟨[], .nil, rfl⟩

theorem SpellsAll.append {α : Type} {spells : α → List UInt8 → Prop} {one two : List α}
    {front back : List UInt8} (first : SpellsAll spells one front)
    (second : SpellsAll spells two back) : SpellsAll spells (one ++ two) (front ++ back) := by
  obtain ⟨pieces, each, rfl⟩ := first
  induction each with
  | nil => exact second
  | cons spelled _ ih =>
    rw [flatten_cons, append_assoc]
    exact SpellsAll.cons spelled ih

theorem parseAll_spelled {α : Type} {parse : List UInt8 → Option (α × List UInt8)}
    {spells : α → List UInt8 → Prop} {list : List α} {bytes : List UInt8} {fuel : Nat}
    (one : ∀ element ∈ list, ∀ piece rest : List UInt8, spells element piece →
      piece ≠ [] ∧ parse (piece ++ rest) = some (element, rest))
    (spelled : SpellsAll spells list bytes) (enough : bytes.length ≤ fuel) :
    parseAll parse fuel bytes = some list := by
  obtain ⟨pieces, each, rfl⟩ := spelled
  induction each generalizing fuel with
  | nil => cases fuel <;> rfl
  | @cons element piece list pieces first _ ih =>
  obtain ⟨some, parsed⟩ := one element mem_cons_self piece pieces.flatten first
  obtain ⟨byte, bytes, rfl⟩ := exists_cons_of_ne_nil some
  rw [flatten_cons, length_append, length_cons] at enough
  cases fuel with
  | zero => omega
  | succ fuel =>
  have others := @ih fuel (fun element member => one element (mem_cons_of_mem _ member)) (by omega)
  rw [cons_append] at parsed
  rw [flatten_cons, cons_append, parseAll, parsed]
  simp only [others, Option.map_some]

/-! ## `type` and `len` -/

/-- The `type` of an action or an instruction, what lies behind its `len` as far as that
reaches, and what follows.  The length is a multiple of eight. -/
def parseHeader (bytes : List UInt8) : Option (UInt16 × List UInt8 × List UInt8) :=
  let length := netNat ((bytes.drop 2).take 2)
  if 4 ≤ length ∧ 8 ∣ length ∧ length ≤ bytes.length then
    some (word16 (bytes.take 2), (bytes.take length).drop 4, bytes.drop length)
  else none

theorem netNat_bytes16 {value : Nat} (small : value < 2 ^ 16) :
    netNat (bytes16 (UInt16.ofNat value)) = value := by
  rw [bytes16, UInt16.toNat_ofNat_of_lt' small]
  exact netNat_netBytes_of_lt small

variable {body : List UInt8}

theorem parseHeader_spelled {type : UInt16} {size : Nat} {rest : List UInt8}
    (long : 4 + body.length = size) (aligned : 8 ∣ size) (small : size < 2 ^ 16) :
    parseHeader (bytes16 type ++ bytes16 (UInt16.ofNat size) ++ body ++ rest) =
      some (type, body, rest) := by
  have kind : (bytes16 type ++ bytes16 (UInt16.ofNat size) ++ body ++ rest).take 2 =
      bytes16 type := by
    exact take_left' (length_bytes16 type)
  have length : ((bytes16 type ++ bytes16 (UInt16.ofNat size) ++ body ++ rest).drop 2).take 2 =
      bytes16 (UInt16.ofNat size) := by
    exact take_left' (length_bytes16 _)
  have whole : (bytes16 type ++ bytes16 (UInt16.ofNat size) ++ body).length = size := by
    rw [← long]
    simp only [length_append, length_bytes16]
  have inside : (bytes16 type ++ bytes16 (UInt16.ofNat size) ++ body).drop 4 = body :=
    drop_left' rfl
  rw [parseHeader, kind, length, netNat_bytes16 small, word16_bytes16]
  have fits : size ≤ (bytes16 type ++ bytes16 (UInt16.ofNat size) ++ body ++ rest).length := by
    rw [length_append, whole]
    omega
  simp only [take_left' whole, drop_left' whole, inside]
  exact if_pos ⟨by omega, aligned, fits⟩

/-! ## Fields -/

/-- A field, maybe with a mask. -/
def parseField : List UInt8 → Option (MatchField × List UInt8)
  | 0x80 :: 0 :: kind :: length :: rest =>
    match OxmField.ofCode (kind.toNat / 2) with
    | none => none
    | some field =>
      let value := rest.take field.width
      let mask :=
        if kind.toNat % 2 = 1 then some ((rest.drop field.width).take field.width)
        else none
      if good : value.length = field.width ∧
          (∀ bits ∈ mask, bits.length = field.width) ∧
          (mask.isSome = true → field.maskable = true) ∧
          length.toNat = (value ++ mask.getD []).length then
        some (⟨field, value, mask, good.1, good.2.1, good.2.2.1⟩, rest.drop length.toNat)
      else none
  | _ => none

theorem toNat_ofNat8 {value : Nat} (small : value < 2 ^ 8) :
    (UInt8.ofNat value).toNat = value := UInt8.toNat_ofNat_of_lt' small

/-- A match field is read back from its bytes. -/
theorem parseField_tlv (entry : MatchField) (rest : List UInt8) :
    parseField (entry.tlv ++ rest) = some (entry, rest) := by
  have code := entry.field.code_lt
  have width := entry.field.width_le
  have payload := entry.length_payload
  have short : entry.payload.length < 2 ^ 8 := by
    rw [payload]
    split <;> omega
  have kind : 2 * entry.field.code + entry.mask.isSome.toNat < 2 ^ 8 := by
    have bit : entry.mask.isSome.toNat ≤ 1 := Bool.toNat_le _
    omega
  obtain ⟨field, value, mask, valueWidth, maskWidth, maskable⟩ := entry
  change (value ++ mask.getD []).length < 2 ^ 8 at short
  change parseField (oxmHeader field mask.isSome (value ++ mask.getD []).length ++
    (value ++ mask.getD []) ++ rest) = _
  simp only [oxmHeader, cons_append, nil_append, parseField, toNat_ofNat8 kind, toNat_ofNat8 short]
  cases mask with
  | none =>
    have front : (value ++ rest).take field.width = value := take_left' valueWidth
    simp [front, valueWidth]
  | some bits =>
  have bitsWidth := maskWidth bits rfl
  have half : (2 * field.code + (Option.isSome (some bits)).toNat) / 2 = field.code := by
    simp
    omega
  have odd : (2 * field.code + (Option.isSome (some bits)).toNat) % 2 = 1 := by
    simp
  have front : (value ++ (bits ++ rest)).take field.width = value :=
    take_left' valueWidth
  have back : ((value ++ (bits ++ rest)).drop field.width).take field.width = bits := by
    rw [drop_left' valueWidth]
    exact take_left' bitsWidth
  simp only [half, odd, OxmField.ofCode_code, Option.getD_some, append_assoc, front, back, if_true]
  have behind : (value ++ (bits ++ rest)).drop (value ++ bits).length = rest := by
    rw [← append_assoc]
    exact drop_left' rfl
  rw [dif_pos ⟨valueWidth, maskWidth, maskable, trivial⟩, behind]

theorem tlv_ne_nil (entry : MatchField) : entry.tlv ≠ [] := by
  simp [MatchField.tlv, oxmHeader]

/-! ## Actions -/

/-- What a `set_field` sets: a field without a mask, filled up with zeros. -/
def parseSetField (body : List UInt8) : Option WireAction :=
  match parseField body with
  | none => none
  | some (entry, pad) =>
    if entry.mask = none ∧ ∀ byte ∈ pad, byte = 0 then
      some (.setField ⟨entry.field, entry.value, entry.valueWidth⟩)
    else none

/-- What an experimenter's action holds. -/
def parseExperimenter (body : List UInt8) : Option WireAction :=
  if good : 8 ∣ (body.drop 4).length ∧ 8 + (body.drop 4).length < 2 ^ 16 then
    some (.experimenter (word32 (body.take 4)) ⟨body.drop 4, good.1, good.2⟩)
  else none

/-- What an action of eight bytes holds in the last four. -/
def parseShort : Nat → List UInt8 → Option WireAction
  | 11, _ => some .copyTtlOut
  | 12, _ => some .copyTtlIn
  | 15, ttl :: _ => some (.setMplsTtl ttl)
  | 16, _ => some .decMplsTtl
  | 17, body => some (.pushVlan (word16 (body.take 2)))
  | 18, _ => some .popVlan
  | 19, body => some (.pushMpls (word16 (body.take 2)))
  | 20, body => some (.popMpls (word16 (body.take 2)))
  | 21, body => some (.setQueue (word32 body))
  | 22, body => some (.group (word32 body))
  | 23, ttl :: _ => some (.setNwTtl ttl)
  | 24, _ => some .decNwTtl
  | 26, body => some (.pushPbb (word16 (body.take 2)))
  | 27, _ => some .popPbb
  | _, _ => none

/-- What an action holds behind its `len`. -/
def parseOperands (type : UInt16) (body : List UInt8) : Option WireAction :=
  if type = Ofpat.output then
    if body.length = 12 then
      some (.output (word32 (body.take 4)) (word16 ((body.drop 4).take 2)))
    else none
  else if type = Ofpat.setField then parseSetField body
  else if type = Ofpat.experimenter then parseExperimenter body
  else if body.length = 4 then parseShort type.toNat body
  else none

/-- An action, and what follows it. -/
def parseAction (bytes : List UInt8) : Option (WireAction × List UInt8) :=
  match parseHeader bytes with
  | none => none
  | some (type, body, rest) => (parseOperands type body).map fun action => (action, rest)

theorem WireAction.aligned (action : WireAction) : 8 ∣ action.size := by
  cases action with
  | setField value => exact Nat.dvd_mul_left 8 _
  | experimenter vendor body => exact (Nat.dvd_add_right (Nat.dvd_refl 8)).mpr body.aligned
  | output port maxLen => exact ⟨2, rfl⟩
  | _ => exact Nat.dvd_refl 8

theorem WireAction.size_lt (action : WireAction) : action.size < 2 ^ 16 := by
  cases action with
  | setField value =>
    have width := value.field.width_le
    simp only [size, OxmValue.tlv, oxmHeader, length_append, length_cons, length_nil, value.width]
    omega
  | experimenter vendor body => exact body.fits
  | _ => simp [size]

/-- A value to set, as a field to match. -/
def OxmValue.entry (value : OxmValue) : MatchField where
  field := value.field
  value := value.bytes
  mask := none
  valueWidth := value.width
  maskWidth _ none := nomatch none
  maskable none := nomatch none

variable (value : OxmValue)

theorem OxmValue.entry_tlv : value.entry.tlv = value.tlv := by
  simp [MatchField.tlv, MatchField.payload, OxmValue.tlv, OxmValue.entry, value.width]

theorem parseSetField_spelled (count : Nat) :
    parseSetField (value.tlv ++ List.replicate count 0) = some (.setField value) := by
  rw [parseSetField, ← value.entry_tlv, parseField_tlv]
  apply if_pos
  constructor
  · rfl
  · intro byte member
    exact eq_of_mem_replicate member

theorem parseExperimenter_spelled (vendor : UInt32) (body : ExperimenterBody) :
    parseExperimenter (bytes32 vendor ++ body.bytes) =
      some (.experimenter vendor body) := by
  have front : (bytes32 vendor ++ body.bytes).take 4 = bytes32 vendor :=
    take_left' (length_bytes32 vendor)
  have back : (bytes32 vendor ++ body.bytes).drop 4 = body.bytes :=
    drop_left' (length_bytes32 vendor)
  simp only [parseExperimenter, front, back, word32_bytes32]
  exact dif_pos ⟨body.aligned, body.fits⟩

theorem parseOperands_short {type : UInt16}
    (other : type ≠ Ofpat.output ∧ type ≠ Ofpat.setField ∧ type ≠ Ofpat.experimenter)
    (four : body.length = 4) : parseOperands type body = parseShort type.toNat body := by
  rw [parseOperands, if_neg other.1, if_neg other.2.1, if_neg other.2.2, if_pos four]

variable {action : WireAction} {pad : List UInt8}

/-- An action is read back from its operands and any padding. -/
theorem parseOperands_spelled (long : 4 + (action.operands ++ pad).length = action.size) :
    parseOperands action.type (action.operands ++ pad) = some action := by
  rw [length_append] at long
  cases action with
  | setField value =>
    have nothing : pad = [] := by
      apply eq_nil_of_length_eq_zero
      simp only [WireAction.operands, WireAction.size, length_append, length_replicate] at long
      omega
    rw [nothing, append_nil]
    exact parseSetField_spelled value _
  | experimenter vendor body =>
    have nothing : pad = [] := by
      apply eq_nil_of_length_eq_zero
      simp only [WireAction.operands, WireAction.size, length_append, length_bytes32] at long
      omega
    rw [nothing, append_nil]
    exact parseExperimenter_spelled vendor body
  | output port maxLen =>
    have whole : (bytes32 port ++ bytes16 maxLen ++ pad).length = 12 := by
      simp only [WireAction.operands, WireAction.size, length_append,
        length_bytes32, length_bytes16] at long ⊢
      omega
    have front : (bytes32 port ++ bytes16 maxLen ++ pad).take 4 = bytes32 port := by
      exact take_left' (length_bytes32 port)
    have back : ((bytes32 port ++ bytes16 maxLen ++ pad).drop 4).take 2 =
        bytes16 maxLen := by
      exact take_left' (length_bytes16 maxLen)
    change (if (bytes32 port ++ bytes16 maxLen ++ pad).length = 12 then _ else none) = _
    rw [if_pos whole, WireAction.operands, front, back, word32_bytes32, word16_bytes16]
  | setQueue number | group number =>
    have nothing : pad = [] := by
      apply eq_nil_of_length_eq_zero
      simp only [WireAction.operands, WireAction.size, length_bytes32] at long
      omega
    rw [nothing, append_nil]
    change parseOperands _ (bytes32 number) = _
    change some _ = _
    rw [word32_bytes32]
  | pushVlan etherType | pushMpls etherType | popMpls etherType | pushPbb etherType =>
    have four : (bytes16 etherType ++ pad).length = 4 := by
      simp only [WireAction.operands, WireAction.size, length_append, length_bytes16] at long ⊢
      omega
    have front : (bytes16 etherType ++ pad).take 2 = bytes16 etherType :=
      take_left' (length_bytes16 etherType)
    change parseOperands _ (bytes16 etherType ++ pad) = _
    rw [parseOperands_short (by rw [WireAction.type]; decide) four]
    change some _ = _
    rw [front, word16_bytes16]
  | setMplsTtl ttl | setNwTtl ttl =>
    have four : (ttl :: pad).length = 4 := by
      simp only [WireAction.operands, WireAction.size, length_cons, length_nil] at long ⊢
      omega
    exact parseOperands_short (by rw [WireAction.type]; decide) four
  | _ =>
  have four : pad.length = 4 := by
    simp only [WireAction.operands, WireAction.size, length_nil] at long
    omega
  exact parseOperands_short (by decide) four

variable {piece : List UInt8}

theorem parseAction_spelled (spelled : action.Spells piece) (rest : List UInt8) :
    piece ≠ [] ∧ parseAction (piece ++ rest) = some (action, rest) := by
  obtain ⟨size, pad, rfl⟩ := spelled
  rw [append_assoc _ action.operands] at size ⊢
  have long : 4 + (action.operands ++ pad).length = action.size := by
    rw [← size]
    simp only [length_append, length_bytes16]
  constructor
  · apply ne_nil_of_length_pos
    omega
  · rw [parseAction, parseHeader_spelled long action.aligned action.size_lt]
    simp only [parseOperands_spelled long, Option.map_some]

/-! ## Matches -/

/-- A match, whose zeros fill it up to a multiple of eight, and what follows it. -/
def parseMatch (bytes : List UInt8) : Option (List MatchField × List UInt8) :=
  let length := netNat ((bytes.drop 2).take 2)
  let fields := (bytes.take length).drop 4
  let padding := (bytes.drop length).take (roundUp length)
  if word16 (bytes.take 2) = ofpmtOxm ∧ 4 ≤ length ∧ length ≤ bytes.length ∧
      padding = List.replicate (roundUp length) 0 then
    (parseAll parseField fields.length fields).map fun fields =>
      (fields, bytes.drop (length + roundUp length))
  else none

theorem spellsAll_tlvs (fields : List MatchField) :
    SpellsAll (fun entry piece => piece = entry.tlv) fields
      (fields.map MatchField.tlv).flatten := by
  induction fields with
  | nil => exact SpellsAll.nil
  | cons entry rest ih => exact SpellsAll.cons rfl ih

variable {bytes : List UInt8} {fields : List MatchField}

/-- A match is read back from its bytes. -/
theorem parseMatch_spelled (spelled : SpellsMatch fields bytes) (rest : List UInt8) :
    parseMatch (bytes ++ rest) = some (fields, rest) := by
  obtain ⟨small, rfl⟩ := spelled
  generalize is : (fields.map MatchField.tlv).flatten = values
  have size : (bytes16 ofpmtOxm ++ bytes16 (UInt16.ofNat (matchLength fields)) ++
      values).length = matchLength fields := by
    rw [← is, matchLength, length_append, length_flatten, map_map]
    rfl
  have parsed := @parseAll_spelled _ parseField _ fields _ values.length
    (fun entry _ piece rest (spelled : piece = entry.tlv) => by
      rw [spelled]
      exact ⟨tlv_ne_nil entry, parseField_tlv entry rest⟩)
    (spellsAll_tlvs fields) (by rw [is])
  rw [is] at parsed
  generalize matchLength fields = length at small size ⊢
  have zeros : (List.replicate (roundUp length) (0 : UInt8)).length = roundUp length :=
    length_replicate
  generalize padIs : List.replicate (roundUp length) (0 : UInt8) = padding at zeros ⊢
  rw [append_assoc]
  have kind : (bytes16 ofpmtOxm ++ bytes16 (UInt16.ofNat length) ++ values ++
      (padding ++ rest)).take 2 = bytes16 ofpmtOxm := by
    exact take_left' (length_bytes16 _)
  have counted : ((bytes16 ofpmtOxm ++ bytes16 (UInt16.ofNat length) ++ values ++
      (padding ++ rest)).drop 2).take 2 = bytes16 (UInt16.ofNat length) := by
    exact take_left' (length_bytes16 _)
  have inside : (bytes16 ofpmtOxm ++ bytes16 (UInt16.ofNat length) ++ values).drop 4 =
      values := drop_left' rfl
  have fits : 4 ≤ length := by
    rw [← size]
    simp only [length_append, length_bytes16]
    omega
  have enough : length ≤ (bytes16 ofpmtOxm ++ bytes16 (UInt16.ofNat length) ++ values ++
      (padding ++ rest)).length := by
    rw [length_append, size]
    omega
  simp only [parseMatch, kind, counted, netNat_bytes16 small, word16_bytes16,
    take_left' size, drop_left' size, inside, take_left' zeros, parsed]
  rw [if_pos ⟨trivial, fits, enough, padIs.symm⟩, ← drop_drop, drop_left' size, drop_left' zeros]
  rfl

/-! ## Instructions -/

/-- What an instruction holds behind its `len`. -/
def parseBody (type : UInt16) (body : List UInt8) : Option WireInstruction :=
  match type.toNat with
  | 1 => if body.length = 4 then some (.gotoTable (body.headD 0)) else none
  | 2 =>
    if body.length = 20 then
      some (.writeMetadata (word64 ((body.drop 4).take 8)) (word64 (body.drop 12)))
    else none
  | 3 =>
    if 4 ≤ body.length then
      (parseAll parseAction body.length (body.drop 4)).map .writeActions
    else none
  | 4 =>
    if 4 ≤ body.length then
      (parseAll parseAction body.length (body.drop 4)).map .applyActions
    else none
  | 5 => if body.length = 4 then some .clearActions else none
  | 6 => if body.length = 4 then some (.meter (word32 body)) else none
  | _ => none

/-- An instruction, and what follows it. -/
def parseInstruction (bytes : List UInt8) : Option (WireInstruction × List UInt8) :=
  match parseHeader bytes with
  | none => none
  | some (type, body, rest) =>
    (parseBody type body).map fun instruction => (instruction, rest)

theorem WireInstruction.aligned (instruction : WireInstruction) : 8 ∣ instruction.size := by
  have actionsAligned (actions : List WireAction) : 8 ∣ (actions.map WireAction.size).sum := by
    induction actions with
    | nil => exact Nat.dvd_zero 8
    | cons action rest ih =>
      exact Nat.dvd_add action.aligned ih
  cases instruction with
  | writeActions actions | applyActions actions =>
    exact (Nat.dvd_add_right (Nat.dvd_refl 8)).mpr (actionsAligned actions)
  | writeMetadata metadata mask => exact ⟨3, rfl⟩
  | _ => exact Nat.dvd_refl 8

variable {actions : List WireAction}

theorem length_spelled (spelled : SpellsAll WireAction.Spells actions bytes) :
    bytes.length = (actions.map WireAction.size).sum := by
  obtain ⟨pieces, each, rfl⟩ := spelled
  induction each with
  | nil => rfl
  | cons first _ ih =>
    rw [flatten_cons, length_append, ih, first.1, map_cons, sum_cons]

theorem parseActions_spelled (four : pad.length = 4)
    (spelled : SpellsAll WireAction.Spells actions bytes) :
    parseAll parseAction (pad ++ bytes).length ((pad ++ bytes).drop 4) = some actions := by
  rw [drop_left' four]
  apply parseAll_spelled _ spelled
  · rw [length_append]
    omega
  · intro action _ piece rest spelled
    exact parseAction_spelled spelled rest

variable {instruction : WireInstruction}

/-- An instruction is read back from its body. -/
theorem parseBody_spelled (spelled : instruction.SpellsBody body) :
    4 + body.length = instruction.size ∧
      parseBody instruction.type body = some instruction := by
  cases instruction with
  | gotoTable tableId =>
    obtain ⟨pad, three, rfl⟩ := spelled
    have four : ([tableId] ++ pad).length = 4 := by simp [three]
    constructor
    · rw [four]
      rfl
    · exact if_pos four
  | writeMetadata metadata mask =>
    obtain ⟨pad, four, rfl⟩ := spelled
    have long : (pad ++ bytes64 metadata ++ bytes64 mask).length = 20 := by
      simp [four]
    have front : ((pad ++ bytes64 metadata ++ bytes64 mask).drop 4).take 8 =
        bytes64 metadata := by
      rw [append_assoc, drop_left' four]
      exact take_left' (length_bytes64 metadata)
    have back : (pad ++ bytes64 metadata ++ bytes64 mask).drop 12 = bytes64 mask := by
      apply drop_left'
      rw [length_append, four, length_bytes64]
    constructor
    · rw [long]
      rfl
    · change (if _ then _ else none) = _
      rw [if_pos long, front, back, word64_bytes64, word64_bytes64]
  | writeActions actions | applyActions actions =>
    obtain ⟨pad, bytes, four, each, rfl⟩ := spelled
    have long := length_spelled each
    constructor
    · rw [length_append, four, long, WireInstruction.size]
      omega
    · change (if _ then _ else none) = _
      rw [if_pos (by rw [length_append, four]; omega), parseActions_spelled four each]
      rfl
  | clearActions =>
    constructor
    · rw [show body.length = 4 from spelled]
      rfl
    · exact if_pos spelled
  | meter meterId =>
  have is : body = bytes32 meterId := spelled
  constructor
  · rw [is, length_bytes32]
    rfl
  · change (if _ then _ else none) = _
    rw [is, if_pos (length_bytes32 meterId), word32_bytes32]

theorem parseInstruction_spelled (spelled : instruction.Spells piece) (rest : List UInt8) :
    piece ≠ [] ∧ parseInstruction (piece ++ rest) = some (instruction, rest) := by
  obtain ⟨small, body, inside, rfl⟩ := spelled
  obtain ⟨long, parsed⟩ := parseBody_spelled inside
  constructor
  · apply ne_nil_of_length_pos
    simp only [length_append, length_bytes16]
    omega
  · rw [parseInstruction, parseHeader_spelled long instruction.aligned small]
    simp only [parsed, Option.map_some]

/-! ## A match and the instructions behind it -/

/-- A match and the instructions behind it, up to the end of the bytes. -/
def parseFlowBody (bytes : List UInt8) : Option (List MatchField × List WireInstruction) :=
  match parseMatch bytes with
  | none => none
  | some (fields, rest) =>
    (parseAll parseInstruction rest.length rest).map fun instructions =>
      (fields, instructions)

theorem parseFlowBody_spelled {instructions : List WireInstruction}
    (spelled : SpellsFlowBody fields instructions bytes) :
    parseFlowBody bytes = some (fields, instructions) := by
  obtain ⟨front, back, match_, each, rfl⟩ := spelled
  have parsed : parseAll parseInstruction back.length back = some instructions := by
    apply parseAll_spelled _ each le_rfl
    intro instruction _ piece rest spelled
    exact parseInstruction_spelled spelled rest
  rw [parseFlowBody, parseMatch_spelled match_]
  simp only [parsed, Option.map_some]

/-! ## Buckets of a group -/

/-- What a property holds behind its `length`. -/
def parsePropOperands (type : UInt16) (body : List UInt8) : Option WireProp :=
  match type.toNat with
  | 0 => some (.weight (word16 (body.take 2)) (word16 (body.drop 2)))
  | 1 => some (.watchPort (word32 body))
  | 2 => some (.watchGroup (word32 body))
  | _ => none

/-- A property, and what follows it. -/
def parseProp (bytes : List UInt8) : Option (WireProp × List UInt8) :=
  match parseHeader bytes with
  | none => none
  | some (type, body, rest) =>
    if body.length = 4 then (parsePropOperands type body).map fun prop => (prop, rest)
    else none

/-- A bucket, and what follows it.  Its length is a multiple of eight. -/
def parseBucket (bytes : List UInt8) : Option (WireBucket × List UInt8) :=
  let length := netNat (bytes.take 2)
  let actionsLength := netNat ((bytes.drop 2).take 2)
  let content := (bytes.take length).drop 8
  if 8 + actionsLength ≤ length ∧ 8 ∣ length ∧ length ≤ bytes.length then
    match parseAll parseAction content.length (content.take actionsLength),
      parseAll parseProp content.length (content.drop actionsLength) with
    | some actions, some props =>
      some (⟨word32 ((bytes.drop 4).take 4), actions, props⟩, bytes.drop length)
    | _, _ => none
  else none

/-- Buckets up to the end of the bytes. -/
def parseBuckets (bytes : List UInt8) : Option (List WireBucket) :=
  parseAll parseBucket bytes.length bytes

variable (prop : WireProp)

theorem WireProp.length_operands : prop.operands.length = 4 := by
  cases prop with
  | weight value pad =>
    rw [operands, length_append, length_bytes16, length_bytes16]
  | watchPort number | watchGroup number => exact length_bytes32 number

theorem parsePropOperands_spelled : parsePropOperands prop.type prop.operands = some prop := by
  cases prop with
  | weight value pad =>
    have front : (bytes16 value ++ bytes16 pad).take 2 = bytes16 value :=
      take_left' (length_bytes16 value)
    have back : (bytes16 value ++ bytes16 pad).drop 2 = bytes16 pad :=
      drop_left' (length_bytes16 value)
    change some (WireProp.weight (word16 ((bytes16 value ++ bytes16 pad).take 2))
      (word16 ((bytes16 value ++ bytes16 pad).drop 2))) = _
    rw [front, back, word16_bytes16, word16_bytes16]
  | watchPort number =>
    change some (WireProp.watchPort (word32 (bytes32 number))) = _
    rw [word32_bytes32]
  | watchGroup number =>
    change some (WireProp.watchGroup (word32 (bytes32 number))) = _
    rw [word32_bytes32]

theorem parseProp_spelled {prop : WireProp} (spelled : prop.Spells piece) (rest : List UInt8) :
    piece ≠ [] ∧ parseProp (piece ++ rest) = some (prop, rest) := by
  have four := prop.length_operands
  rw [spelled]
  constructor
  · apply ne_nil_of_length_pos
    simp only [length_append, length_bytes16]
    omega
  · rw [parseProp, parseHeader_spelled (by rw [four]; rfl) (by decide) (by decide)]
    simp only [four, if_true, parsePropOperands_spelled, Option.map_some]

theorem length_props {props : List WireProp} (spelled : SpellsAll WireProp.Spells props bytes) :
    bytes.length = props.length * WireProp.size := by
  obtain ⟨pieces, each, rfl⟩ := spelled
  induction each with
  | nil => rfl
  | @cons prop piece props pieces first _ ih =>
  have eight : piece.length = WireProp.size := by
    rw [show piece = _ from first]
    simp only [length_append, length_bytes16, prop.length_operands]
    rfl
  rw [flatten_cons, length_append, ih, eight, length_cons, Nat.add_mul, Nat.one_mul, Nat.add_comm]

theorem WireBucket.aligned (bucket : WireBucket) : 8 ∣ bucket.size := by
  have actions := (WireInstruction.applyActions bucket.actions).aligned
  have props : 8 ∣ bucket.props.length * WireProp.size := Nat.dvd_mul_left 8 _
  exact Nat.dvd_add actions props

/-- A bucket is read back from its bytes. -/
theorem parseBucket_spelled {bucket : WireBucket} (spelled : bucket.Spells piece)
    (rest : List UInt8) : piece ≠ [] ∧ parseBucket (piece ++ rest) = some (bucket, rest) := by
  obtain ⟨small, actions, props, actionsSpelled, propsSpelled, rfl⟩ := spelled
  have actionsLength := length_spelled actionsSpelled
  have propsLength := length_props propsSpelled
  change actions.length = bucket.actionsSize at actionsLength
  have sizes : bucket.size = 8 + bucket.actionsSize + props.length := by
    rw [propsLength]
    rfl
  generalize lengthIs : bytes16 (UInt16.ofNat bucket.size) = length
  generalize countIs : bytes16 (UInt16.ofNat bucket.actionsSize) = count
  generalize idIs : bytes32 bucket.bucketId = id
  have lengthTwo : length.length = 2 := by rw [← lengthIs, length_bytes16]
  have countTwo : count.length = 2 := by rw [← countIs, length_bytes16]
  have idFour : id.length = 4 := by rw [← idIs, length_bytes32]
  have whole : (length ++ count ++ id ++ actions ++ props).length = bucket.size := by
    simp only [length_append]
    omega
  have first : (length ++ count ++ id ++ actions ++ props ++ rest).take 2 = length := by
    simp only [append_assoc]
    exact take_left' lengthTwo
  have second : ((length ++ count ++ id ++ actions ++ props ++ rest).drop 2).take 2 =
      count := by
    simp only [append_assoc]
    rw [drop_left' lengthTwo]
    exact take_left' countTwo
  have third : ((length ++ count ++ id ++ actions ++ props ++ rest).drop 4).take 4 = id := by
    have four : (length ++ count).length = 4 := by
      rw [length_append, lengthTwo, countTwo]
    rw [append_assoc, append_assoc, append_assoc (length ++ count), drop_left' four]
    exact take_left' idFour
  have content : ((length ++ count ++ id ++ actions ++ props ++ rest).take bucket.size).drop
      8 = actions ++ props := by
    rw [take_left' whole, append_assoc (length ++ count ++ id)]
    apply drop_left'
    simp only [length_append]
    omega
  have actionsParsed : parseAll parseAction (actions ++ props).length actions =
      some bucket.actions := by
    apply parseAll_spelled _ actionsSpelled
    · rw [length_append]
      omega
    · intro action _ piece rest spelled
      exact parseAction_spelled spelled rest
  have propsParsed : parseAll parseProp (actions ++ props).length props =
      some bucket.props := by
    apply parseAll_spelled _ propsSpelled
    · rw [length_append]
      omega
    · intro prop _ piece rest spelled
      exact parseProp_spelled spelled rest
  constructor
  case left =>
    apply ne_nil_of_length_pos
    omega
  case right =>
  have enough : bucket.size ≤
      (length ++ count ++ id ++ actions ++ props ++ rest).length := by
    rw [length_append, whole]
    omega
  have sizeRead : netNat length = bucket.size := by
    rw [← lengthIs]
    exact netNat_bytes16 small
  have countRead : netNat count = bucket.actionsSize := by
    rw [← countIs]
    exact netNat_bytes16 (by omega)
  simp only [parseBucket, first, second, third, sizeRead, countRead, content]
  rw [if_pos ⟨by omega, bucket.aligned, enough⟩, take_left' actionsLength,
    drop_left' actionsLength, actionsParsed, propsParsed, drop_left' whole,
    ← idIs, word32_bytes32]

theorem parseBuckets_spelled {buckets : List WireBucket}
    (spelled : SpellsAll WireBucket.Spells buckets bytes) : parseBuckets bytes = some buckets := by
  apply parseAll_spelled _ spelled le_rfl
  intro bucket _ piece rest spelled
  exact parseBucket_spelled spelled rest

end OpenFlowController.Include
