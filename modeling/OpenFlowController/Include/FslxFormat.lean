/-
Module: Include.FslxFormat
Purpose: The actions and instructions of the Freescale extensions, as they lie on the wire,
  and a parser for them.
Source: l3extutils/include/fsl_ext.h (struct fslx_action_*, struct fslxit_*, struct
  fslx_instrctn_operation_actns, struct fslx_instruction_group);
  ofproto/src/include/openflow.h (struct ofp_action_experimenter_header, struct
  ofp_instruction_experimenter)
Trusted boundary: none
-/
import OpenFlowController.Include.WireParser

namespace OpenFlowController.Include

open Library List Option

/-! ## Elements of a known size -/

section Sized

variable {α : Type} {parse : List UInt8 → Option (α × List UInt8)} {size : α → Nat}

/-- An element is read from the front, and takes as many bytes as its size says. -/
def Consumes (parse : List UInt8 → Option (α × List UInt8)) (size : α → Nat) : Prop :=
  ∀ bytes element rest, parse bytes = some (element, rest) →
    0 < size element ∧ size element ≤ bytes.length ∧ rest = bytes.drop (size element)

/-- A list that is parsed takes all bytes. -/
theorem parseAll_consumed (consumes : Consumes parse size) {fuel : Nat} {bytes : List UInt8}
    {list : List α} (parsed : parseAll parse fuel bytes = some list) :
    bytes.length = (list.map size).sum := by
  induction fuel generalizing bytes list with
  | zero =>
    cases bytes with
    | nil =>
      cases some.inj (parsed : some [] = some list)
      rfl
    | cons byte bytes => cases parsed
  | succ fuel ih =>
  cases bytes with
  | nil =>
    cases some.inj (parsed : some [] = some list)
    rfl
  | cons byte bytes =>
  rw [parseAll] at parsed
  generalize read : parse (byte :: bytes) = result at parsed
  cases result with
  | none => cases parsed
  | some pair =>
    obtain ⟨first, rest⟩ := pair
    obtain ⟨others, tail, rfl⟩ := map_eq_some_iff.mp parsed
    obtain ⟨_, fits, rfl⟩ := consumes _ _ _ read
    have left := ih tail
    rw [length_drop] at left
    rw [map_cons, sum_cons]
    omega

/-- A list starts with an element exactly when its piece parses to it. -/
theorem parseAll_cons_iff (consumes : Consumes parse size) {fuel : Nat}
    {piece bytes : List UInt8} {first : α} {others : List α}
    (long : piece.length = size first) (positive : 0 < size first)
    (enough : (piece ++ bytes).length ≤ fuel + 1) :
    parseAll parse (fuel + 1) (piece ++ bytes) = some (first :: others) ↔
      parse (piece ++ bytes) = some (first, bytes) ∧
        parseAll parse fuel bytes = some others := by
  obtain ⟨byte, tail, is⟩ : ∃ byte tail, piece ++ bytes = byte :: tail := by
    cases piece with
    | nil =>
      rw [length_nil] at long
      omega
    | cons byte tail => exact ⟨byte, tail ++ bytes, rfl⟩
  have cut : (piece ++ bytes).drop (size first) = bytes := drop_left' long
  rw [is] at cut ⊢
  rw [parseAll]
  generalize read : parse (byte :: tail) = result
  cases result with
  | none => simp
  | some pair =>
    obtain ⟨element, rest⟩ := pair
    obtain ⟨_, _, left⟩ := consumes _ _ _ read
    constructor
    · intro parsed
      obtain ⟨list, done, same⟩ := map_eq_some_iff.mp parsed
      cases same
      rw [cut] at left
      rw [left] at done ⊢
      exact ⟨rfl, done⟩
    · rintro ⟨same, done⟩
      cases some.inj same
      simp only [done, map_some]

end Sized

/-- Fuel for every byte is enough. -/
theorem parseAll_fuel {α : Type} {parse : List UInt8 → Option (α × List UInt8)}
    {size : α → Nat} (consumes : Consumes parse size) {fuel more : Nat} {bytes : List UInt8}
    (enough : bytes.length ≤ fuel) (less : fuel ≤ more) :
    parseAll parse more bytes = parseAll parse fuel bytes := by
  induction fuel generalizing more bytes with
  | zero =>
    have nothing : bytes = [] := eq_nil_of_length_eq_zero (by omega)
    subst nothing
    cases more <;> rfl
  | succ fuel ih =>
  cases more with
  | zero => omega
  | succ more =>
  cases bytes with
  | nil => rfl
  | cons byte bytes =>
  rw [parseAll, parseAll]
  generalize read : parse (byte :: bytes) = result
  cases result with
  | none => rfl
  | some pair =>
    obtain ⟨first, rest⟩ := pair
    obtain ⟨positive, _, rfl⟩ := consumes _ _ _ read
    rw [length_cons] at enough
    have shorter : ((byte :: bytes).drop (size first)).length ≤ fuel := by
      rw [length_drop, length_cons]
      omega
    simp only
    rw [ih shorter (by omega)]

section Blocks

variable {α β : Type} {parse : List UInt8 → Option (α × List UInt8)} {size : α → Nat}

theorem parseAll_front_iff (consumes : Consumes parse size) {piece bytes : List UInt8}
    {first : α} {others : List α} (long : piece.length = size first)
    (positive : 0 < size first) :
    parseAll parse (piece ++ bytes).length (piece ++ bytes) = some (first :: others) ↔
      parse (piece ++ bytes) = some (first, bytes) ∧
        parseAll parse bytes.length bytes = some others := by
  have whole : (piece ++ bytes).length = piece.length - 1 + bytes.length + 1 := by
    rw [length_append]
    omega
  have less : bytes.length ≤ piece.length - 1 + bytes.length := Nat.le_add_left _ _
  have fuel := parseAll_fuel consumes le_rfl less
  rw [whole, parseAll_cons_iff consumes long positive whole.le, fuel]

theorem parseAll_iff (consumes : Consumes parse size) {block : β → List UInt8 → Prop}
    {element : β → α} {good : β → Prop} {calls : List β} {bytes : List UInt8}
    (one : ∀ call piece rest, block call piece →
      piece.length = size (element call) ∧ 0 < size (element call) ∧
        (parse (piece ++ rest) = some (element call, rest) ↔ good call))
    (spelled : SpellsAll block calls bytes) :
    parseAll parse bytes.length bytes = some (calls.map element) ↔
      ∀ call ∈ calls, good call := by
  obtain ⟨pieces, each, rfl⟩ := spelled
  induction each with
  | nil => simp [parseAll]
  | @cons call piece calls pieces here _ ih =>
  obtain ⟨long, positive, read⟩ := one call piece pieces.flatten here
  rw [flatten_cons, map_cons, parseAll_front_iff consumes long positive, read, ih, forall_mem_cons]

end Blocks

/-! ## Actions -/

def fslxVendorId : UInt32 := 0x0000049f

/-- `uint8_t mac[OFP_ETH_ALEN]`. -/
abbrev MacAddress := { bytes : List UInt8 // bytes.length = 6 }

/-- An action of the extensions.  The MTU of a fragmentation is a number other than zero or
lies in a register. -/
inductive FslxAction where
  | writeMetadataFromPkt (fieldId : UInt32) (maskval : UInt64)
  | writeMetadata (metaData : UInt64)
  | ipFragmentMtu (mtu : UInt32) (nonzero : mtu ≠ 0)
  | ipFragmentMtuReg (mtuReg : UInt32) (offset nbits : UInt8)
  | setInPhyPort (inPhyPort : UInt32)
  | setMetadata (metaData : UInt64)
  | setTunnelId (tunnelId : UInt64)
  | startTable (tableId : UInt8)
  | dropPacket
  | arpResponse (targetMac : MacAddress)
  | icmpv4TimeExceed (code : UInt8)
  | icmpv4DestUnreachable (code : UInt8) (nextHopMtu : Option UInt16)
  | ipReasm
deriving DecidableEq

namespace FslxAction

/-- `enum fslx_action_subtype`. -/
def subtype : FslxAction → UInt16
  | setInPhyPort _ => 11
  | setMetadata _ => 12
  | setTunnelId _ => 13
  | arpResponse _ => 15
  | writeMetadataFromPkt .. => 16
  | startTable _ => 19
  | ipReasm => 20
  | ipFragmentMtu .. | ipFragmentMtuReg .. => 21
  | icmpv4TimeExceed _ => 22
  | icmpv4DestUnreachable .. => 23
  | dropPacket => 24
  | writeMetadata _ => 30

/-- The size of the structure of an action. -/
def size : FslxAction → Nat
  | writeMetadataFromPkt .. | writeMetadata _ | ipFragmentMtu .. | ipFragmentMtuReg ..
  | setMetadata _ | setTunnelId _ | arpResponse _ => 24
  | icmpv4DestUnreachable .. => 20
  | setInPhyPort _ | startTable _ | dropPacket | icmpv4TimeExceed _ | ipReasm => 16

end FslxAction

/-- `FSLX_ICMPV4_DR_EC_DFBIT_SET`: the code with a next hop MTU. -/
def dfbitSet : UInt8 := 4

/-- The `width` bytes at an offset. -/
def fieldAt (bytes : List UInt8) (offset width : Nat) : List UInt8 :=
  (bytes.drop offset).take width

def byteAt (bytes : List UInt8) (offset : Nat) : UInt8 := (fieldAt bytes offset 1).headD 0

/-- The operands of the fragmentation. -/
def ipFragmentOf (bytes : List UInt8) : FslxAction :=
  let mtu := word32 (fieldAt bytes 16 4)
  if nonzero : mtu ≠ 0 then .ipFragmentMtu mtu nonzero
  else .ipFragmentMtuReg (word32 (fieldAt bytes 12 4)) (byteAt bytes 10) (byteAt bytes 11)

/-- The action whose structure these bytes are, by its subtype and its size. -/
def fslxActionOf (bytes : List UInt8) : Option FslxAction :=
  match (word16 (fieldAt bytes 8 2)).toNat, bytes.length with
  | 11, 16 => some (.setInPhyPort (word32 (fieldAt bytes 12 4)))
  | 12, 24 => some (.setMetadata (word64 (fieldAt bytes 16 8)))
  | 13, 24 => some (.setTunnelId (word64 (fieldAt bytes 16 8)))
  | 15, 24 =>
    if six : (fieldAt bytes 10 6).length = 6 then some (.arpResponse ⟨_, six⟩) else none
  | 16, 24 =>
    some (.writeMetadataFromPkt (word32 (fieldAt bytes 12 4)) (word64 (fieldAt bytes 16 8)))
  | 19, 16 => some (.startTable (byteAt bytes 10))
  | 20, 16 => some .ipReasm
  | 21, 24 => some (ipFragmentOf bytes)
  | 22, 16 => some (.icmpv4TimeExceed (byteAt bytes 10))
  | 23, 20 =>
    some (.icmpv4DestUnreachable (byteAt bytes 10)
      (if byteAt bytes 10 = dfbitSet then some (word16 (fieldAt bytes 12 2)) else none))
  | 24, 16 => some .dropPacket
  | 30, 24 => some (.writeMetadata (word64 (fieldAt bytes 16 8)))
  | _, _ => none

/-- The structure in front of the bytes: its type is that of an experimenter, its length,
which is a multiple of eight, lies within the bytes, and its vendor is Freescale. -/
def fslxStruct (bytes : List UInt8) : Option (List UInt8) :=
  let length := netNat (fieldAt bytes 2 2)
  if word16 (fieldAt bytes 0 2) = Ofpat.experimenter ∧ 16 ≤ length ∧ 8 ∣ length ∧
      length ≤ bytes.length ∧ word32 (fieldAt bytes 4 4) = fslxVendorId then
    some (bytes.take length)
  else none

/-- An element whose structure is in front. -/
def parseFslx {α : Type} (read : List UInt8 → Option α) (bytes : List UInt8) :
    Option (α × List UInt8) :=
  match fslxStruct bytes with
  | none => none
  | some piece => (read piece).map (·, bytes.drop piece.length)

def parseFslxAction : List UInt8 → Option (FslxAction × List UInt8) := parseFslx fslxActionOf

/-! ## Instructions -/

/-- An instruction of the extensions. -/
inductive FslxInstruction where
  | applyActionsOnCreate (actions : List FslxAction)
  | applyActionsOnDelete (actions : List FslxAction)
  | waitToCompletePktOuts (state : UInt16)
  | writePriorityRegister (priorityValue : UInt16)
  | writePriorityRegFromCurrentFlow
  | reLookup (prioRegType : UInt8)
  | reInjectTo (tableId prioRegType : UInt8)
  | applyGroup (groupId : UInt32)
  | writeGroup (groupId : UInt32)
  | writePriorityRegFromNextFlow
deriving DecidableEq

/-- The sizes of actions together. -/
def fslxActionsSize (actions : List FslxAction) : Nat := (actions.map FslxAction.size).sum

namespace FslxInstruction

/-- `enum fslx_instrctn_subtype`. -/
def subtype : FslxInstruction → UInt16
  | applyActionsOnCreate _ => 1
  | applyActionsOnDelete _ => 2
  | waitToCompletePktOuts _ => 3
  | writePriorityRegister _ => 5
  | writePriorityRegFromCurrentFlow => 6
  | reLookup _ => 7
  | reInjectTo .. => 8
  | applyGroup _ => 9
  | writeGroup _ => 10
  | writePriorityRegFromNextFlow => 11

/-- The length of an instruction: that of its structure, and of the actions behind it. -/
def size : FslxInstruction → Nat
  | applyActionsOnCreate actions | applyActionsOnDelete actions => 16 + fslxActionsSize actions
  | _ => 16

end FslxInstruction

/-- The actions up to the end of the bytes. -/
def parseFslxActions (bytes : List UInt8) : Option (List FslxAction) :=
  parseAll parseFslxAction bytes.length bytes

/-- The instruction whose structure, with actions behind it, these bytes are. -/
def fslxInstructionOf (bytes : List UInt8) : Option FslxInstruction :=
  match (word16 (fieldAt bytes 8 2)).toNat with
  | 1 => (parseFslxActions (bytes.drop 16)).map .applyActionsOnCreate
  | 2 => (parseFslxActions (bytes.drop 16)).map .applyActionsOnDelete
  | subtype =>
    if bytes.length = 16 then
      match subtype with
      | 3 => some (.waitToCompletePktOuts (word16 (fieldAt bytes 10 2)))
      | 5 => some (.writePriorityRegister (word16 (fieldAt bytes 10 2)))
      | 6 => some .writePriorityRegFromCurrentFlow
      | 7 => some (.reLookup (byteAt bytes 10))
      | 8 => some (.reInjectTo (byteAt bytes 10) (byteAt bytes 11))
      | 9 => some (.applyGroup (word32 (fieldAt bytes 12 4)))
      | 10 => some (.writeGroup (word32 (fieldAt bytes 12 4)))
      | 11 => some .writePriorityRegFromNextFlow
      | _ => none
    else none

def parseFslxInstruction : List UInt8 → Option (FslxInstruction × List UInt8) :=
  parseFslx fslxInstructionOf

/-- The instructions up to the end of the bytes. -/
def parseFslxInstructions (bytes : List UInt8) : Option (List FslxInstruction) :=
  parseAll parseFslxInstruction bytes.length bytes

/-! ## What is read has the size of its structure -/

variable {bytes : List UInt8}

theorem fslxStruct_eq {piece : List UInt8} (read : fslxStruct bytes = some piece) :
    piece.length = netNat (fieldAt bytes 2 2) ∧ piece = bytes.take piece.length ∧
      16 ≤ piece.length ∧ 8 ∣ piece.length ∧ piece.length ≤ bytes.length := by
  rw [fslxStruct] at read
  split at read
  case isFalse => cases read
  case isTrue found =>
  obtain ⟨_, long, aligned, fits, _⟩ := found
  cases some.inj read
  have length : (bytes.take (netNat (fieldAt bytes 2 2))).length =
      netNat (fieldAt bytes 2 2) := by
    rw [length_take]
    omega
  rw [length]
  exact ⟨rfl, rfl, long, aligned, fits⟩

theorem fslxActionOf_size {action : FslxAction} (read : fslxActionOf bytes = some action) :
    bytes.length = action.size := by
  unfold fslxActionOf at read
  split at read
  case h_4 long =>
    split at read
    case isTrue =>
      cases read
      exact long
    case isFalse => exact absurd read nofun
  case h_8 long =>
    cases read
    rw [ipFragmentOf]
    split <;> exact long
  all_goals cases read <;> assumption

theorem FslxAction.size_bounds (action : FslxAction) : 16 ≤ action.size ∧ action.size ≤ 24 := by
  cases action <;> simp [FslxAction.size]

theorem parseFslx_consumes {α : Type} {read : List UInt8 → Option α} {size : α → Nat}
    (sized : ∀ bytes element, 16 ≤ bytes.length → read bytes = some element →
      bytes.length = size element) :
    Consumes (parseFslx read) size := by
  intro bytes element rest parsed
  rw [parseFslx] at parsed
  generalize front : fslxStruct bytes = result at parsed
  match result with
  | none => exact absurd parsed nofun
  | some piece =>
    obtain ⟨_, whole, long, _, fits⟩ := fslxStruct_eq front
    obtain ⟨_, done, same⟩ := map_eq_some_iff.mp parsed
    cases same
    have length := sized piece element long done
    rw [← length]
    exact ⟨by omega, fits, rfl⟩

theorem parseFslxAction_consumes : Consumes parseFslxAction FslxAction.size :=
  parseFslx_consumes fun _ _ _ read => fslxActionOf_size read

theorem parseFslxActions_size {actions : List FslxAction}
    (parsed : parseFslxActions bytes = some actions) : bytes.length = fslxActionsSize actions :=
  parseAll_consumed parseFslxAction_consumes parsed

theorem fslxInstructionOf_size {instruction : FslxInstruction} (long : 16 ≤ bytes.length)
    (read : fslxInstructionOf bytes = some instruction) : bytes.length = instruction.size := by
  unfold fslxInstructionOf at read
  have behind : (bytes.drop 16).length = bytes.length - 16 := length_drop
  split at read
  case h_1 =>
    obtain ⟨actions, parsed, rfl⟩ := map_eq_some_iff.mp read
    have size := parseFslxActions_size parsed
    change bytes.length = 16 + fslxActionsSize actions
    omega
  case h_2 =>
    obtain ⟨actions, parsed, rfl⟩ := map_eq_some_iff.mp read
    have size := parseFslxActions_size parsed
    change bytes.length = 16 + fslxActionsSize actions
    omega
  case h_3 =>
    split at read
    case isFalse => exact absurd read nofun
    case isTrue sixteen =>
      split at read <;> cases read <;> exact sixteen

theorem parseFslxInstruction_consumes : Consumes parseFslxInstruction FslxInstruction.size :=
  parseFslx_consumes fun _ _ long read => fslxInstructionOf_size long read

end OpenFlowController.Include
