/-
Module: Include.TableFeaturesFormat
Purpose: The request for table features, as it lies on the wire, and a parser for it.
Source: ofproto/src/include/openflow.h (struct ofp_multipart_request, struct
  ofp_table_features, struct ofp_table_feature_prop_oxm, struct
  ofp_table_feature_prop_experimenter); l3extutils/include/fsl_ext.h
Trusted boundary: of the properties, only those that list fields are here
-/
import OpenFlowController.Include.FslxFormat

namespace OpenFlowController.Include

open Library List

/-! ## Blocks that are read, or not -/

theorem parseAll_blocks {α β : Type} {parse : List UInt8 → Option (α × List UInt8)}
    {block : β → List UInt8 → Prop} {element : β → α} {good : β → Prop} [DecidablePred good]
    {calls : List β} {bytes : List UInt8} {fuel : Nat}
    (one : ∀ call ∈ calls, ∀ piece rest, block call piece →
      piece ≠ [] ∧
        parse (piece ++ rest) = if good call then some (element call, rest) else none)
    (spelled : SpellsAll block calls bytes) (enough : bytes.length ≤ fuel) :
    parseAll parse fuel bytes =
      if ∀ call ∈ calls, good call then some (calls.map element) else none := by
  obtain ⟨pieces, each, rfl⟩ := spelled
  induction each generalizing fuel with
  | nil => cases fuel <;> rfl
  | @cons call piece calls pieces first _ ih =>
  obtain ⟨nonempty, read⟩ := one call mem_cons_self piece pieces.flatten first
  rw [flatten_cons] at enough ⊢
  obtain ⟨byte, tail, rfl⟩ := exists_cons_of_ne_nil nonempty
  rw [length_append, length_cons] at enough
  obtain ⟨fuel, rfl⟩ : ∃ less, fuel = less + 1 := ⟨fuel - 1, by omega⟩
  have others := @ih fuel (fun call member => one call (mem_cons_of_mem _ member)) (by omega)
  rw [cons_append] at read ⊢
  rw [parseAll, read]
  simp only [forall_mem_cons]
  by_cases here : good call
  · rw [if_pos here]
    simp only [others, here, true_and]
    split <;> rfl
  · rw [if_neg here, if_neg fun both => here both.1]

/-! ## Properties -/

namespace Ofptfpt

/-- `enum ofp_table_feature_prop_type`. -/
def match_ : UInt16 := 8
def wildcards : UInt16 := 10
def experimenter : UInt16 := 0xfffe

end Ofptfpt

def fslxtfptLpm : UInt32 := 1

/-- A property of a table that lists fields. -/
inductive TableProp where
  | match_ (oxmIds : List UInt32)
  | wildcards (oxmIds : List UInt32)
  | experimenter (vendor expType : UInt32) (data : List UInt32)

namespace TableProp

/-- The `type` of a property. -/
def type : TableProp → UInt16
  | match_ _ => Ofptfpt.match_
  | wildcards _ => Ofptfpt.wildcards
  | experimenter .. => Ofptfpt.experimenter

/-- What lies behind `type` and `length`. -/
def operands : TableProp → List UInt8
  | match_ oxmIds | wildcards oxmIds => oxmIds.flatMap bytes32
  | experimenter vendor expType data =>
    bytes32 vendor ++ bytes32 expType ++ data.flatMap bytes32

/-- The `length` of a property, which does not count the bytes that fill up. -/
def size (prop : TableProp) : Nat := 4 + prop.operands.length

/-- `round_up(length, 8)`. -/
def padded (length : Nat) : Nat := (length + 7) / 8 * 8

/-- The property, with its type as it is stored. -/
def spelled (type : List UInt8) (prop : TableProp) : List UInt8 :=
  type ++ bytes16 (UInt16.ofNat prop.size) ++ prop.operands ++
    List.replicate (padded prop.size - prop.size) 0

end TableProp

/-- Words of 32 bits up to the end of the bytes. -/
def parseWords : List UInt8 → Option (List UInt32)
  | [] => some []
  | a :: b :: c :: d :: rest => (parseWords rest).map (word32 [a, b, c, d] :: ·)
  | _ => none

/-- `experimenter`, `exp_type` and the words behind them. -/
def parseTableExperimenter (body : List UInt8) : Option TableProp :=
  if 8 ≤ body.length then
    (parseWords (body.drop 8)).map
      (.experimenter (word32 (fieldAt body 0 4)) (word32 (fieldAt body 4 4)))
  else none

/-- What a property holds behind its `length`. -/
def parseTableOperands (type : UInt16) (body : List UInt8) : Option TableProp :=
  match type.toNat with
  | 8 => (parseWords body).map .match_
  | 10 => (parseWords body).map .wildcards
  | 0xfffe => parseTableExperimenter body
  | _ => none

/-- A property, and what follows the zeros behind it. -/
def parseTableProp (bytes : List UInt8) : Option (TableProp × List UInt8) :=
  let length := netNat (fieldAt bytes 2 2)
  let padding := TableProp.padded length - length
  if 4 ≤ length ∧ length + padding ≤ bytes.length ∧
      fieldAt bytes length padding = List.replicate padding 0 then
    (parseTableOperands (word16 (fieldAt bytes 0 2)) ((bytes.take length).drop 4)).map
      (·, bytes.drop (length + padding))
  else none

/-! ## Tables -/

/-- The features of a table, with the properties in order.  Nothing is left of the meaning
of `config`. -/
structure TableFeatures where
  tableId : UInt8
  name : List UInt8
  metadataMatch : UInt64
  metadataWrite : UInt64
  maxEntries : UInt32
  props : List TableProp

/-- The characters of a string before its end. -/
def cString (bytes : List UInt8) : List UInt8 := bytes.takeWhile (· ≠ 0)

/-- `struct ofp_table_features` and the properties behind it. -/
def parseTableFeatures (bytes : List UInt8) : Option (TableFeatures × List UInt8) :=
  let length := netNat (fieldAt bytes 0 2)
  if 64 ≤ length ∧ 8 ∣ length ∧ length ≤ bytes.length then
    (parseAll parseTableProp length ((bytes.take length).drop 64)).map fun props =>
      ({ tableId := byteAt bytes 2, name := cString (fieldAt bytes 8 32),
         metadataMatch := word64 (fieldAt bytes 40 8),
         metadataWrite := word64 (fieldAt bytes 48 8),
         maxEntries := word32 (fieldAt bytes 60 4), props }, bytes.drop length)
  else none

/-- A multipart request that asks for table features, nothing of which is to come. -/
def parseTableFeaturesRequest (bytes : List UInt8) : Option (List TableFeatures) :=
  if byteAt bytes 0 = 4 ∧ byteAt bytes 1 = 18 ∧ netNat (fieldAt bytes 2 2) = bytes.length ∧
      16 ≤ bytes.length ∧ netNat (fieldAt bytes 8 2) = 12 ∧ netNat (fieldAt bytes 10 2) = 0 then
    parseAll parseTableFeatures bytes.length (bytes.drop 16)
  else none

/-! ## Properties that are spelled -/

theorem parseWords_flatMap (words : List UInt32) :
    parseWords (words.flatMap bytes32) = some words := by
  induction words with
  | nil => rfl
  | cons word rest ih =>
  have front : ∃ a b c d, bytes32 word = [a, b, c, d] := by
    have four := length_bytes32 word
    match whole : bytes32 word with
    | [a, b, c, d] => exact ⟨a, b, c, d, rfl⟩
    | [] | [_] | [_, _] | [_, _, _] | _ :: _ :: _ :: _ :: _ :: _ =>
      rw [whole] at four
      simp at four
  obtain ⟨a, b, c, d, is⟩ := front
  have value : word32 [a, b, c, d] = word := by rw [← is, word32_bytes32]
  rw [flatMap_cons, is]
  change (parseWords (rest.flatMap bytes32)).map (word32 [a, b, c, d] :: ·) = _
  rw [ih, value]
  rfl

theorem parseTableOperands_operands (prop : TableProp) :
    parseTableOperands prop.type prop.operands = some prop := by
  cases prop with
  | match_ oxmIds | wildcards oxmIds =>
    change (parseWords (oxmIds.flatMap bytes32)).map _ = _
    rw [parseWords_flatMap]
    rfl
  | experimenter vendor expType data =>
  have front : (bytes32 vendor ++ bytes32 expType).length = 8 := by simp
  have long : 8 ≤ (TableProp.experimenter vendor expType data).operands.length := by
    rw [TableProp.operands, length_append, front]
    omega
  change parseTableExperimenter (TableProp.experimenter vendor expType data).operands = _
  rw [parseTableExperimenter, if_pos long, TableProp.operands, drop_left' front, parseWords_flatMap,
    fieldAt, fieldAt, drop_zero, append_assoc, take_left' (length_bytes32 vendor),
    drop_left' (length_bytes32 vendor), take_left' (length_bytes32 expType),
    word32_bytes32, word32_bytes32]
  rfl

variable {type : List UInt8}

theorem TableProp.length_spelled (two : type.length = 2) (prop : TableProp) :
    (prop.spelled type).length = padded prop.size := by
  have : prop.size ≤ padded prop.size := by
    rw [padded]
    omega
  simp only [spelled, length_append, length_bytes16, length_replicate, two]
  rw [size] at this ⊢
  omega

/-- A property is read back from its bytes. -/
theorem parseTableProp_spelled {prop : TableProp} (two : type.length = 2)
    (small : prop.size < 2 ^ 16) (rest : List UInt8) :
    parseTableProp (prop.spelled type ++ rest) =
      (parseTableOperands (word16 type) prop.operands).map (·, rest) := by
  have whole := prop.length_spelled two
  have head : (type ++ bytes16 (UInt16.ofNat prop.size)).length = 4 := by
    simp [two]
  have body : (type ++ bytes16 (UInt16.ofNat prop.size) ++ prop.operands).length =
      prop.size := by
    rw [length_append, head, TableProp.size]
  have four : 4 ≤ prop.size := Nat.le_add_right _ _
  have counted : netNat (fieldAt (prop.spelled type ++ rest) 2 2) = prop.size := by
    rw [fieldAt, TableProp.spelled]
    simp only [append_assoc]
    rw [drop_left' two, take_left' (length_bytes16 _), netNat_bytes16 small]
  have kind : fieldAt (prop.spelled type ++ rest) 0 2 = type := by
    rw [fieldAt, TableProp.spelled]
    simp only [append_assoc, drop_zero]
    exact take_left' two
  generalize padding : TableProp.padded prop.size - prop.size = zeros
  have zerosRead : fieldAt (prop.spelled type ++ rest) prop.size zeros =
      replicate zeros 0 := by
    rw [fieldAt, TableProp.spelled, padding, append_assoc, drop_left' body]
    exact take_left' length_replicate
  have reached : prop.size + zeros = (prop.spelled type).length := by
    rw [whole, ← padding, TableProp.padded]
    omega
  have inside : ((prop.spelled type ++ rest).take prop.size).drop 4 = prop.operands := by
    rw [TableProp.spelled, append_assoc, take_left' body, drop_left' head]
  have fits : prop.size + zeros ≤ (prop.spelled type ++ rest).length := by
    rw [reached, length_append]
    exact Nat.le_add_right _ _
  simp only [parseTableProp, counted, kind, padding]
  rw [if_pos ⟨four, fits, zerosRead⟩, inside, drop_left' reached.symm]

end OpenFlowController.Include
