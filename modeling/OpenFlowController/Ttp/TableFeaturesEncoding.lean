/-
Module: Ttp.TableFeaturesEncoding
Purpose: What the stores of the request for the tables of a pattern leave in the message,
  and what is read back of it.
Trusted boundary: none
-/
import OpenFlowController.Ttp.TableFeatures
import OpenFlowController.L3extutils.FslxEncoding

namespace OpenFlowController.Ttp

open Include List Library Library.ByteMemory
open Encoder (u16 hostBytes length_hostBytes u16_of_lt StructFields
  HasFields fields_stored fieldAt_slice fieldAt_append)

/-! ## Members in the order of the host -/

theorem load_hostBytes {value : Nat} (host : ByteOrder) (small : value < 2 ^ 16) :
    load host (hostBytes host 2 value) = value := by
  cases host with
  | littleEndian =>
    rw [load, hostBytes, reverse_reverse]
    exact netNat_netBytes_of_lt small
  | bigEndian => exact netNat_netBytes_of_lt small

namespace Request

variable {host : ByteOrder} {request : Request} {place value : Nat} {bytes : List UInt8}

@[simp] theorem memory_store (request : Request) (place : Nat) (bytes : List UInt8) :
    (request.store place bytes).memory = request.memory.put ⟨place, bytes⟩ := by
  rw [memory, store, write_append]
  rfl

theorem load16_of_holds (held : request.memory.Holds place (hostBytes host 2 value))
    (small : value < 2 ^ 16) : request.load16 host place = value := by
  have bytes := held.slice_eq
  rw [length_hostBytes] at bytes
  rw [load16, bytes, load_hostBytes host small]

theorem holds_store {start : Int} {held : List UInt8} (holds : request.memory.Holds start held)
    (apart : start + held.length ≤ place ∨ (place : Int) + bytes.length ≤ start) :
    (request.store place bytes).memory.Holds start held := by
  rw [memory_store]
  exact holds.same (put_same (.inr apart))

theorem store_holds (request : Request) (place : Nat) (bytes : List UInt8) :
    (request.store place bytes).memory.Holds place bytes := by
  rw [memory_store]
  exact put_holds _ _ _

end Request

/-- The stores that were added lie from `first` on, before `last`. -/
def StoresInside (before request : Request) (first last : Nat) : Prop :=
  ∃ added, request.stores = before.stores ++ added ∧ ∀ store ∈ added, store.Inside first last

namespace StoresInside

variable {before request : Request} {first last : Nat}

theorem refl (request : Request) (first last : Nat) : StoresInside request request first last :=
  ⟨[], by simp⟩

theorem store (inside : StoresInside before request first last) {place : Nat}
    {bytes : List UInt8} (low : first ≤ place := by omega)
    (high : place + bytes.length ≤ last := by omega) :
    StoresInside before (request.store place bytes) first last := by
  obtain ⟨added, is, each⟩ := inside
  refine ⟨added ++ [⟨place, bytes⟩], ?_, ?_⟩
  · simp only [Request.store, is, append_assoc]
  intro store member
  rcases mem_append.mp member with earlier | last
  · exact each store earlier
  rw [mem_singleton.mp last]
  refine .inr ⟨?_, ?_⟩
  · change (first : Int) ≤ place
    omega
  · change (place : Int) + bytes.length ≤ _
    omega

theorem mono {first' last' : Nat} (inside : StoresInside before request first last)
    (low : first' ≤ first := by omega) (high : last ≤ last' := by omega) :
    StoresInside before request first' last' := by
  obtain ⟨added, is, each⟩ := inside
  refine ⟨added, is, fun store member => ?_⟩
  rcases each store member with empty | ⟨above, below⟩
  · exact .inl empty
  · exact .inr ⟨by omega, by omega⟩

theorem trans {after : Request} (one : StoresInside before request first last)
    (two : StoresInside request after first last) : StoresInside before after first last := by
  obtain ⟨added, is, each⟩ := one
  obtain ⟨more, then_, others⟩ := two
  refine ⟨added ++ more, by rw [then_, is, append_assoc], ?_⟩
  intro store member
  exact (mem_append.mp member).elim (each store) (others store)

end StoresInside

/-! ## One property -/

section Property

variable {host : ByteOrder} {before request : Request} {prop header : Nat}
  {type words body : List UInt8} {chosen : TableMatchFieldEntry → Bool}

/-- The identifiers of the fields that are chosen. -/
def chosenIds (chosen : TableMatchFieldEntry → Bool) (fields : List TableMatchFieldEntry) :
    List UInt32 :=
  (fields.filter chosen).map TableMatchFieldEntry.matchField

/-- A property whose type, length and body so far lie in the message. -/
structure PropFilled (host : ByteOrder) (before request : Request) (prop : Nat)
    (type body : List UInt8) : Prop where
  dataLen : request.dataLen = before.dataLen
  typed : request.memory.Holds prop type
  counted : request.memory.Holds (prop + 2 : Nat) (hostBytes host 2 (4 + body.length))
  filled : request.memory.Holds (prop + 4 : Nat) body
  grown : Extends before.memory request.memory prop (prop + (4 + body.length) : Nat)
  inside : StoresInside before request prop (prop + (4 + body.length))

/-- One more word is filled into a property. -/
theorem PropFilled.word (two : type.length = 2)
    (filled : PropFilled host before request prop type body) {place : Nat} {bytes : List UInt8}
    (behind : place = prop + (4 + body.length))
    (small : 4 + (body ++ bytes).length < 2 ^ 16) (four : bytes.length = 4) :
    PropFilled host before ((request.store place bytes).addHost host (prop + 2) 4) prop type
      (body ++ bytes) := by
  subst behind
  have long : (body ++ bytes).length = body.length + 4 := by rw [length_append, four]
  have lengthKept : (request.store (prop + (4 + body.length)) bytes).memory.Holds
      (prop + 2 : Nat) (hostBytes host 2 (4 + body.length)) :=
    Request.holds_store filled.counted (by rw [length_hostBytes]; omega)
  have read := Request.load16_of_holds lengthKept (by omega)
  have sum : 4 + body.length + 4 = 4 + (body ++ bytes).length := by omega
  rw [Request.addHost, read, sum]
  constructor
  case dataLen => exact filled.dataLen
  case typed =>
    apply Request.holds_store
    · exact Request.holds_store filled.typed (by omega)
    · omega
  case counted => exact Request.store_holds _ _ _
  case filled =>
    apply Request.holds_store
    · rw [holds_append]
      constructor
      · exact Request.holds_store filled.filled (by omega)
      have placed := Request.store_holds request (prop + (4 + body.length)) bytes
      have spot : ((prop + 4 : Nat) : Int) + body.length =
          (prop + (4 + body.length) : Nat) := by omega
      rw [spot]
      exact placed
    · rw [length_hostBytes]
      omega
  case grown =>
    rw [Request.storeHost, Request.memory_store, Request.memory_store]
    have word := put_extends request.memory (prop + (4 + body.length) : Nat) bytes
    have length := put_extends (request.memory.put ⟨(prop + (4 + body.length) : Nat), bytes⟩)
      (prop + 2 : Nat) (hostBytes host 2 (4 + (body ++ bytes).length))
    rw [length_hostBytes] at length
    have further : Extends before.memory _ prop (prop + (4 + (body ++ bytes).length) : Nat) :=
      filled.grown.trans (word.mono le_rfl)
    exact further.trans (length.mono) le_rfl le_rfl
  case inside =>
    apply StoresInside.store
    · exact (filled.inside.mono le_rfl).store
    · omega
    · rw [length_hostBytes]
      omega

/-- All chosen fields are filled into a property. -/
theorem addFields_filled (two : type.length = 2) {fields : List TableMatchFieldEntry}
    {ii : Nat} (filled : PropFilled host before request prop type body)
    (behind : header + 4 * ii = 4 + body.length)
    (small : 4 + (body ++ (chosenIds chosen fields).flatMap bytes32).length < 2 ^ 16) :
    PropFilled host before (addFields host prop (prop + header) chosen ii fields request) prop
      type (body ++ (chosenIds chosen fields).flatMap bytes32) := by
  induction fields generalizing ii request body with
  | nil => simpa [addFields, chosenIds] using filled
  | cons field fields ih =>
  rw [addFields]
  by_cases here : chosen field
  · have ids : chosenIds chosen (field :: fields) =
        field.matchField :: chosenIds chosen fields := by
      rw [chosenIds, filter_cons_of_pos here]
      rfl
    rw [ids, flatMap_cons, ← append_assoc] at small ⊢
    rw [if_pos here]
    have four := length_bytes32 field.matchField
    have place : prop + header + 4 * ii = prop + (4 + body.length) := by omega
    have short : 4 + (body ++ bytes32 field.matchField).length < 2 ^ 16 := by
      rw [length_append] at small
      omega
    apply ih (filled.word two place short four) _ small
    rw [length_append, four]
    omega
  · have ids : chosenIds chosen (field :: fields) = chosenIds chosen fields := by
      rw [chosenIds, filter_cons_of_neg here]
      rfl
    rw [ids] at small ⊢
    rw [if_neg here]
    exact ih filled behind small

/-- A property begins with its header. -/
theorem started_filled (host : ByteOrder) (request : Request) (prop : Nat)
    (two : type.length = 2) (headerIs : header = 4 + words.length) :
    PropFilled host request
      (((request.store prop type).storeHost host (prop + 2) header).store (prop + 4) words)
      prop type words := by
  subst headerIs
  constructor
  case dataLen => rfl
  case typed =>
    apply Request.holds_store
    · apply Request.holds_store (Request.store_holds _ _ _)
      omega
    · omega
  case counted =>
    apply Request.holds_store (Request.store_holds _ _ _)
    rw [length_hostBytes]
    omega
  case filled => exact Request.store_holds _ _ _
  case grown =>
    rw [Request.memory_store, Request.storeHost, Request.memory_store, Request.memory_store]
    have one := put_extends request.memory prop type
    have second := put_extends (request.memory.put ⟨prop, type⟩) (prop + 2 : Nat)
      (hostBytes host 2 (4 + words.length))
    have third := put_extends ((request.memory.put ⟨prop, type⟩).put
      ⟨(prop + 2 : Nat), hostBytes host 2 (4 + words.length)⟩) (prop + 4 : Nat) words
    rw [length_hostBytes] at second
    have front := one.trans second
    have last : ((prop + 4 : Nat) : Int) + words.length ≤ (prop + (4 + words.length) : Nat) := by
      omega
    exact front.trans (third.mono le_rfl last)
  case inside =>
    apply StoresInside.store
    · apply StoresInside.store
      · exact (StoresInside.refl request _ _).store le_rfl (by omega)
      · omega
      · rw [length_hostBytes]
        omega
    · omega
    · omega

end Property

/-! ## One table -/

section Table

variable {host : ByteOrder} {before request : Request} {tbl header : Nat}
  {type words body : List UInt8} {chosen : TableMatchFieldEntry → Bool}

/-- A table whose length so far, and what lies behind it, are in the message. -/
structure TableOpen (host : ByteOrder) (before request : Request) (tbl : Nat)
    (body : List UInt8) : Prop where
  dataLen : request.dataLen = before.dataLen
  counted : request.memory.Holds tbl (hostBytes host 2 (2 + body.length))
  filled : request.memory.Holds (tbl + 2 : Nat) body
  grown : Extends before.memory request.memory tbl (tbl + (2 + body.length) : Nat)
  inside : StoresInside before request tbl (tbl + (2 + body.length))

theorem holds_closed {place : Nat} {start : Int} {length swapped held : List UInt8}
    (holds : request.memory.Holds start held) (two : length.length = 2)
    (swappedTwo : swapped.length = 2) (behindTable : (tbl : Int) + 2 ≤ start := by omega)
    (apart : start + held.length ≤ (place + 2 : Nat) ∨ (place + 4 : Nat) ≤ start := by omega) :
    ((request.store tbl length).store (place + 2) swapped).memory.Holds start held := by
  apply Request.holds_store
  · exact Request.holds_store holds (by omega)
  · omega

/-- The lengths of the table and of the property are stored behind the loop. -/
theorem TableOpen.closed (two : type.length = 2)
    (fresh : ∀ address : Int, tbl ≤ address → before.memory address = 0)
    (table : TableOpen host before request tbl body) {property : TableProp} {looped : Request}
    (filled : PropFilled host request looped (tbl + (2 + body.length)) type property.operands) :
    TableOpen host before
      ((looped.store tbl (hostBytes host 2 (2 + (body ++ property.spelled type).length))).store
        (tbl + (2 + body.length) + 2) (bytes16 (UInt16.ofNat property.size)))
      tbl (body ++ property.spelled type) := by
  have long := property.length_spelled two
  have sizes : property.size = 4 + property.operands.length := rfl
  have fills : property.size ≤ TableProp.padded property.size := by
    rw [TableProp.padded]
    omega
  have whole : (body ++ property.spelled type).length =
      body.length + TableProp.padded property.size := by
    rw [length_append, long]
  have lengthTwo :=
    length_hostBytes host 2 (2 + (body ++ property.spelled type).length)
  have swappedTwo := length_bytes16 (UInt16.ofNat property.size)
  constructor
  case dataLen => exact filled.dataLen.trans table.dataLen
  case counted =>
    apply Request.holds_store (Request.store_holds _ _ _)
    omega
  case filled =>
    have place : ((tbl + 2 : Nat) : Int) + body.length = (tbl + (2 + body.length) : Nat) := by
      omega
    rw [holds_append, place]
    constructor
    case left =>
      apply holds_closed _ lengthTwo swappedTwo
      exact filled.grown.holds table.filled (by omega)
    case right =>
    rw [TableProp.spelled, holds_append, holds_append, holds_append]
    refine ⟨⟨⟨?_, ?_⟩, ?_⟩, ?_⟩
    · exact holds_closed filled.typed lengthTwo swappedTwo
    · rw [two]
      exact Request.store_holds _ _ _
    · have spot : ((tbl + (2 + body.length) : Nat) : Int) +
          (type ++ bytes16 (UInt16.ofNat property.size)).length =
            (tbl + (2 + body.length) + 4 : Nat) := by
        rw [length_append, two, length_bytes16]
        omega
      rw [spot]
      exact holds_closed filled.filled lengthTwo swappedTwo
    have spot : ((tbl + (2 + body.length) : Nat) : Int) +
        (type ++ bytes16 (UInt16.ofNat property.size) ++ property.operands).length =
          (tbl + (2 + body.length) + property.size : Nat) := by
      rw [length_append, length_append, two, length_bytes16]
      omega
    apply holds_closed _ lengthTwo swappedTwo
    rw [holds_replicate]
    intro address low _
    apply filled.grown.zeros address (by omega)
    exact table.grown.zeros address (by omega) (fresh address (by omega))
  case grown =>
    rw [Request.memory_store, Request.memory_store]
    have length := put_extends looped.memory tbl
      (hostBytes host 2 (2 + (body ++ property.spelled type).length))
    have swapped := put_extends (looped.memory.put
      ⟨tbl, hostBytes host 2 (2 + (body ++ property.spelled type).length)⟩)
      (tbl + (2 + body.length) + 2 : Nat) (bytes16 (UInt16.ofNat property.size))
    have looped_ : Extends before.memory looped.memory tbl
        (tbl + (2 + (body ++ property.spelled type).length) : Nat) :=
      table.grown.trans (filled.grown.mono le_rfl)
    have counted := looped_.trans (length.mono le_rfl) le_rfl le_rfl
    exact counted.trans (swapped.mono) le_rfl le_rfl
  case inside =>
    apply StoresInside.store
    · apply StoresInside.store
      · apply (table.inside.mono le_rfl).trans
        exact filled.inside.mono
      · exact le_rfl
      · rw [lengthTwo]
        omega
    · omega
    · rw [swappedTwo]
      omega

/-- A property is added to an open table. -/
theorem TableOpen.prop (two : type.length = 2)
    (fresh : ∀ address : Int, tbl ≤ address → before.memory address = 0)
    (table : TableOpen host before request tbl body) {property : TableProp}
    {fields : List TableMatchFieldEntry} {place : Nat} (headerIs : header = 4 + words.length)
    (operands : property.operands = words ++ (chosenIds chosen fields).flatMap bytes32)
    (behind : place = tbl + (2 + body.length))
    (small : 2 + (body ++ property.spelled type).length < 2 ^ 16) :
    TableOpen host before (addProp host tbl place type words header chosen fields request) tbl
      (body ++ property.spelled type) := by
  subst behind
  have long := property.length_spelled two
  have sizes : property.size = 4 + property.operands.length := rfl
  have fills : property.size ≤ TableProp.padded property.size := by
    rw [TableProp.padded]
    omega
  rw [length_append, long] at small
  have started := started_filled host request (tbl + (2 + body.length)) two headerIs
  have filled := @addFields_filled host request _ _ header type words chosen two fields 0
    started (by omega) (by rw [← operands]; omega)
  rw [← operands] at filled
  rw [addProp]
  generalize addFields host (tbl + (2 + body.length)) (tbl + (2 + body.length) + header) chosen 0
    fields _ = looped at filled ⊢
  have lengthRead : looped.load16 host (tbl + (2 + body.length) + 2) = property.size :=
    Request.load16_of_holds filled.counted (by omega)
  have tableRead : looped.load16 host tbl = 2 + body.length :=
    Request.load16_of_holds
      (filled.grown.holds table.counted (by rw [length_hostBytes]; omega)) (by omega)
  have sum : 2 + body.length + roundUp property.size =
      2 + (body ++ property.spelled type).length := by
    rw [length_append, long, Nat.add_assoc]
    rfl
  rw [lengthRead, Request.addHost, tableRead, sum, Request.storeHost]
  have lengthKept := @Request.holds_store looped tbl
    (hostBytes host 2 (2 + (body ++ property.spelled type).length)) _ _ filled.counted
    (by rw [length_hostBytes, length_hostBytes]; omega)
  have lengthAgain := Request.load16_of_holds lengthKept (by omega)
  rw [Request.swap, lengthAgain]
  exact table.closed two fresh filled
/-- The members of a table behind its length, by their offset there. -/
def headerFields (table : TtpTableEntry) : StructFields :=
  [(0, [table.tableId]), (6, strncpy table.tableName.1 32), (38, List.replicate 8 0xff),
    (46, List.replicate 8 0xff), (58, bytes32 table.maxRows)]

theorem length_strncpy (source : List UInt8) (size : Nat) :
    (strncpy source size).length = size := by
  simp only [strncpy, length_append, length_replicate, length_take]
  omega

theorem headerFields_within (table : TtpTableEntry) : (headerFields table).Within 62 0 := by
  simp [headerFields, StructFields.Within, length_strncpy]

theorem addTableHeader_memory (host : ByteOrder) (tbl : Nat) (table : TtpTableEntry)
    (request : Request) :
    (addTableHeader host tbl table request).memory =
      (request.memory.write ((headerFields table).stores (tbl + 2 : Nat))).put
        ⟨tbl, hostBytes host 2 64⟩ := by
  simp only [addTableHeader, Request.storeHost, Request.memory_store, headerFields,
    StructFields.stores, map_cons, map_nil, write_cons, write_nil]
  rfl

/-- A table is opened by its header. -/
theorem addTableHeader_open (host : ByteOrder) (table : TtpTableEntry) (request : Request)
    (tbl : Nat) :
    ∃ front, front.length = 62 ∧ HasFields front (headerFields table) ∧
      TableOpen host request (addTableHeader host tbl table request) tbl front := by
  have memory := addTableHeader_memory host tbl table request
  have within := headerFields_within table
  obtain ⟨held, grown⟩ := @fields_stored request.memory (tbl + 2 : Nat) _ _ _ within
  have length := put_extends (request.memory.write ((headerFields table).stores (tbl + 2 : Nat)))
    tbl (hostBytes host 2 64)
  have counted := put_holds (request.memory.write ((headerFields table).stores (tbl + 2 : Nat)))
    tbl (hostBytes host 2 64)
  rw [length_hostBytes, ← memory] at length
  rw [← memory] at counted
  refine ⟨(addTableHeader host tbl table request).memory.slice (tbl + 2 : Nat) 62,
    length_slice _ _ _, ?_, ?_⟩
  · intro field member
    have inside := within.member_le member
    rw [fieldAt_slice inside]
    apply Holds.slice_eq
    rw [memory]
    exact (held field member).same (put_same (.inr (.inr (by
      change (tbl : Int) + (hostBytes host 2 64).length ≤ _
      rw [length_hostBytes]
      omega))))
  · constructor
    case dataLen => rfl
    case counted =>
      exact counted
    case filled => exact holds_slice _ _ _
    case grown =>
      have first : Extends request.memory _ tbl (tbl + (2 + 62) : Nat) :=
        grown.mono
      exact first.trans (length.mono le_rfl) le_rfl le_rfl
    case inside =>
      have name := length_strncpy table.tableName.1 32
      have rows := length_bytes32 table.maxRows
      have eight : (replicate 8 (0xff : UInt8)).length = 8 := rfl
      have one : [table.tableId].length = 1 := rfl
      have two := length_hostBytes host 2 64
      have start := StoresInside.refl request tbl (tbl + (2 + 62))
      simp only [addTableHeader, Request.storeHost]
      refine StoresInside.store (.store (.store (.store (.store (.store start ?_ ?_) ?_ ?_)
        ?_ ?_) ?_ ?_) ?_ ?_) ?_ ?_
      all_goals omega

/-- The type of a property, as it is stored. -/
def storedType (host : ByteOrder) : TableProp → List UInt8
  | .wildcards _ => hostBytes host 2 Ofptfpt.wildcards.toNat
  | prop => bytes16 prop.type

theorem length_storedType (host : ByteOrder) (prop : TableProp) :
    (storedType host prop).length = 2 := by
  cases prop with
  | wildcards => exact length_hostBytes _ _ _
  | match_ | experimenter => exact length_bytes16 _

/-- The properties that are stored for a table. -/
def TtpTableEntry.props (table : TtpTableEntry) : List TableProp :=
  .match_ (chosenIds (fun _ => true) table.matchFieldsList) ::
    ((if table.isWcEntryPresent then
        [.wildcards (chosenIds TableMatchFieldEntry.isWildCard table.matchFieldsList)]
      else []) ++
    (if table.isLpmEntryPresent then
        [.experimenter fslxVendorId fslxtfptLpm
          (chosenIds TableMatchFieldEntry.isLpm table.matchFieldsList)]
      else []))

/-- Properties one behind the other, as they are stored. -/
def spelledProps (host : ByteOrder) (props : List TableProp) : List UInt8 :=
  props.flatMap fun prop => prop.spelled (storedType host prop)

/-- The sizes of properties together, with the zeros that fill up. -/
def propsSize (props : List TableProp) : Nat :=
  (props.map fun prop => TableProp.padded prop.size).sum

theorem length_spelledProps (host : ByteOrder) (props : List TableProp) :
    (spelledProps host props).length = propsSize props := by
  induction props with
  | nil => rfl
  | cons prop props ih =>
  have long := prop.length_spelled (length_storedType host prop)
  rw [spelledProps, flatMap_cons, length_append, long]
  change _ + (spelledProps host props).length = _
  rw [ih, propsSize, propsSize, map_cons, sum_cons]

/-- The bytes that a table takes in the message. -/
def TtpTableEntry.size (table : TtpTableEntry) : Nat := 64 + propsSize table.props

theorem spelledProps_append (host : ByteOrder) (one two : List TableProp) :
    spelledProps host (one ++ two) = spelledProps host one ++ spelledProps host two :=
  flatMap_append

theorem spelledProps_singleton (host : ByteOrder) (prop : TableProp) :
    spelledProps host [prop] = prop.spelled (storedType host prop) := by
  simp [spelledProps]

section Kinds

variable {table : TtpTableEntry}
  (fresh : ∀ address : Int, tbl ≤ address → before.memory address = 0)
  (isOpen : TableOpen host before request tbl body)
include fresh isOpen

theorem addMatchProp_open (long : body.length = 62)
    (small : 2 + (body ++ spelledProps host
      [.match_ (chosenIds (fun _ => true) table.matchFieldsList)]).length < 2 ^ 16) :
    TableOpen host before (addMatchProp host tbl table request) tbl
      (body ++ spelledProps host [.match_ (chosenIds (fun _ => true) table.matchFieldsList)]) := by
  rw [spelledProps_singleton] at small ⊢
  apply isOpen.prop (length_storedType host _) fresh _ _ _ small
  · rfl
  · rfl
  · omega

theorem addWildcardsProp_open
    (small : 2 + (body ++ spelledProps host
      [.wildcards (chosenIds TableMatchFieldEntry.isWildCard table.matchFieldsList)]).length <
        2 ^ 16) :
    TableOpen host before (addWildcardsProp host tbl table request) tbl
      (body ++ spelledProps host
        [.wildcards (chosenIds TableMatchFieldEntry.isWildCard table.matchFieldsList)]) := by
  have read := Request.load16_of_holds isOpen.counted (by
    rw [length_append] at small
    omega)
  rw [spelledProps_singleton] at small ⊢
  apply isOpen.prop (length_storedType host _) fresh _ _ _ small
  · rfl
  · rfl
  · rw [read]

theorem addLpmProp_open
    (small : 2 + (body ++ spelledProps host
      [.experimenter fslxVendorId fslxtfptLpm
        (chosenIds TableMatchFieldEntry.isLpm table.matchFieldsList)]).length < 2 ^ 16) :
    TableOpen host before (addLpmProp host tbl table request) tbl
      (body ++ spelledProps host
        [.experimenter fslxVendorId fslxtfptLpm
          (chosenIds TableMatchFieldEntry.isLpm table.matchFieldsList)]) := by
  have read := Request.load16_of_holds isOpen.counted (by
    rw [length_append] at small
    omega)
  rw [spelledProps_singleton] at small ⊢
  apply isOpen.prop (length_storedType host _) fresh _ _ _ small
  · rfl
  · rfl
  · rw [read]

end Kinds

/-- The properties of a table are added behind its header. -/
theorem addTableProps_open (host : ByteOrder) (table : TtpTableEntry) (request : Request)
    (tbl : Nat) (fresh : ∀ address : Int, tbl ≤ address → request.memory address = 0)
    (small : table.size < 2 ^ 16) :
    ∃ front, front.length = 62 ∧ HasFields front (headerFields table) ∧
      TableOpen host request (addTableProps host tbl table request) tbl
        (front ++ spelledProps host table.props) := by
  obtain ⟨front, long, fields, started⟩ := addTableHeader_open host table request tbl
  have whole : 2 + (front ++ spelledProps host table.props).length = table.size := by
    rw [length_append, length_spelledProps, long, TtpTableEntry.size]
    omega
  rw [← whole] at small
  refine ⟨front, long, fields, ?_⟩
  rw [TtpTableEntry.props, ← singleton_append, spelledProps_append, spelledProps_append,
    ← append_assoc, ← append_assoc] at small ⊢
  rw [length_append, length_append] at small
  have matched : TableOpen host request
      (addMatchProp host tbl table (addTableHeader host tbl table request)) tbl
      (front ++ spelledProps host [.match_ (chosenIds (fun _ => true) table.matchFieldsList)]) :=
    addMatchProp_open fresh started long (by omega)
  have wild : TableOpen host request
      (if table.isWcEntryPresent then addWildcardsProp host tbl table
        (addMatchProp host tbl table (addTableHeader host tbl table request))
      else addMatchProp host tbl table (addTableHeader host tbl table request)) tbl
      (front ++ spelledProps host [.match_ (chosenIds (fun _ => true) table.matchFieldsList)] ++
        spelledProps host (if table.isWcEntryPresent then
          [.wildcards (chosenIds TableMatchFieldEntry.isWildCard table.matchFieldsList)]
        else [])) := by
    by_cases present : table.isWcEntryPresent
    · simp only [if_pos present] at small ⊢
      apply addWildcardsProp_open fresh matched
      rw [length_append]
      omega
    · simp only [if_neg present, spelledProps, flatMap_nil, append_nil] at small ⊢
      exact matched
  rw [addTableProps]
  by_cases present : table.isLpmEntryPresent
  · simp only [if_pos present] at small ⊢
    apply addLpmProp_open fresh wild
    rw [length_append, length_append]
    omega
  · simp only [if_neg present, spelledProps, flatMap_nil, append_nil] at small ⊢
    exact wild

/-- These bytes are the table, with its properties as they are stored. -/
def TableBlock (host : ByteOrder) (table : TtpTableEntry) (piece : List UInt8) : Prop :=
  ∃ front, front.length = 62 ∧ HasFields front (headerFields table) ∧
    piece = bytes16 (UInt16.ofNat table.size) ++ (front ++ spelledProps host table.props)

theorem TableBlock.length {table : TtpTableEntry} {piece : List UInt8}
    (block : TableBlock host table piece) : piece.length = table.size := by
  obtain ⟨front, long, _, rfl⟩ := block
  rw [length_append, length_append, length_bytes16, long, length_spelledProps, TtpTableEntry.size]
  omega

/-- A table that is added lies where the data ended. -/
structure TableAdded (host : ByteOrder) (request request' : Request) (table : TtpTableEntry) :
    Prop where
  dataLen : request'.dataLen = request.dataLen + table.size
  block : TableBlock host table (request'.memory.slice request.dataLen table.size)
  grown : Extends request.memory request'.memory request.dataLen
    (request.dataLen + table.size : Nat)
  inside : StoresInside request request' request.dataLen (request.dataLen + table.size)

/-- A table with columns is added to the request. -/
theorem addTableFeatures_added {table : TtpTableEntry} (columns : table.maxColumns ≠ 0)
    (fresh : ∀ address : Int, request.dataLen ≤ address → request.memory address = 0)
    (small : request.dataLen + table.size < 2 ^ 16) :
    TableAdded host request (addTableFeatures host request table) table := by
  obtain ⟨front, long, fields, isOpen⟩ :=
    addTableProps_open host table request request.dataLen fresh (by omega)
  have whole : 2 + (front ++ spelledProps host table.props).length = table.size := by
    rw [length_append, length_spelledProps, long, TtpTableEntry.size]
    omega
  rw [addTableFeatures, if_neg columns]
  dsimp only
  generalize addTableProps host request.dataLen table request = filled at isOpen ⊢
  have counted := isOpen.counted
  have grown := isOpen.grown
  have inside := isOpen.inside
  rw [whole] at counted grown inside
  have read : filled.load16 host request.dataLen = table.size :=
    Request.load16_of_holds counted (by omega)
  have again : Request.load16 host
      { filled with dataLen := u16 (filled.dataLen + table.size) } request.dataLen =
        table.size := read
  have memory : (Request.store
      { filled with dataLen := u16 (filled.dataLen + table.size) } request.dataLen
        (bytes16 (UInt16.ofNat table.size))).memory =
      filled.memory.put ⟨request.dataLen, bytes16 (UInt16.ofNat table.size)⟩ :=
    Request.memory_store _ _ _
  have length := put_extends filled.memory request.dataLen (bytes16 (UInt16.ofNat table.size))
  have front16 := put_holds filled.memory request.dataLen (bytes16 (UInt16.ofNat table.size))
  rw [length_bytes16] at length
  simp only [read, Request.swap, again]
  constructor
  case dataLen =>
    change u16 (filled.dataLen + table.size) = _
    rw [isOpen.dataLen, u16_of_lt small]
  case block =>
    refine ⟨front, long, fields, ?_⟩
    have size : table.size = (bytes16 (UInt16.ofNat table.size) ++
        (front ++ spelledProps host table.props)).length := by
      rw [length_append, length_bytes16, whole]
    have held : (filled.memory.put
        ⟨request.dataLen, bytes16 (UInt16.ofNat table.size)⟩).Holds request.dataLen
        (bytes16 (UInt16.ofNat table.size) ++ (front ++ spelledProps host table.props)) := by
      rw [holds_append]
      refine ⟨front16, ?_⟩
      exact isOpen.filled.same (put_same (.inr (.inr (by
        change (request.dataLen : Int) + (bytes16 (UInt16.ofNat table.size)).length ≤ _
        rw [length_bytes16]
        omega))))
    have slice := held.slice_eq
    rw [← size] at slice
    rw [memory, slice]
  case grown =>
    rw [memory]
    exact grown.trans (length.mono le_rfl) le_rfl le_rfl
  case inside =>
    have same : StoresInside request
        { filled with dataLen := u16 (filled.dataLen + table.size) } request.dataLen
        (request.dataLen + table.size) := inside
    refine same.store le_rfl ?_
    rw [length_bytes16]
    omega

end Table

/-! ## All tables -/

/-- The tables that are stored: those with columns. -/
def emitted (tables : List TtpTableEntry) : List TtpTableEntry :=
  tables.filter fun table => table.maxColumns ≠ 0

/-- The bytes that the tables take. -/
def tablesSize (tables : List TtpTableEntry) : Nat :=
  ((emitted tables).map TtpTableEntry.size).sum

/-- The tables that are added, one behind the other. -/
structure TablesAdded (host : ByteOrder) (request request' : Request)
    (tables : List TtpTableEntry) : Prop where
  dataLen : request'.dataLen = request.dataLen + tablesSize tables
  blocks : SpellsAll (TableBlock host) (emitted tables)
    (request'.memory.slice request.dataLen (tablesSize tables))
  grown : Extends request.memory request'.memory request.dataLen
    (request.dataLen + tablesSize tables : Nat)
  inside : StoresInside request request' request.dataLen (request.dataLen + tablesSize tables)

/-- All tables are added to the request. -/
theorem tables_added {host : ByteOrder} {request : Request} {tables : List TtpTableEntry}
    (fresh : ∀ address : Int, request.dataLen ≤ address → request.memory address = 0)
    (small : request.dataLen + tablesSize tables < 2 ^ 16) :
    TablesAdded host request (tables.foldl (addTableFeatures host) request) tables := by
  induction tables generalizing request with
  | nil =>
    constructor
    case dataLen => rfl
    case blocks => exact SpellsAll.nil
    case grown => exact Extends.refl _ _
    case inside => exact StoresInside.refl _ _ _
  | cons table tables ih =>
  rw [foldl_cons]
  by_cases columns : table.maxColumns = 0
  · have skipped : emitted (table :: tables) = emitted tables := by
      simp [emitted, columns]
    have same : addTableFeatures host request table = request := if_pos columns
    rw [tablesSize, skipped] at small
    have others := ih fresh small
    rw [same]
    constructor
    all_goals rw [tablesSize, skipped]
    · exact others.dataLen
    · exact others.blocks
    · exact others.grown
    · exact others.inside
  · have added : emitted (table :: tables) = table :: emitted tables := by
      simp [emitted, columns]
    have sizes : tablesSize (table :: tables) = table.size + tablesSize tables := by
      rw [tablesSize, added]
      rfl
    have one := @addTableFeatures_added host request table columns fresh (by omega)
    have dataLen := one.dataLen
    have others := @ih (addTableFeatures host request table)
      (fun address low => one.grown.zeros address (by omega) (fresh address (by omega)))
      (by omega)
    have blocks := others.blocks
    have grown := others.grown
    have inside := others.inside
    rw [dataLen] at blocks grown inside
    constructor
    case dataLen => rw [others.dataLen, dataLen, sizes, Nat.add_assoc]
    case blocks =>
      rw [added, sizes, slice_add]
      apply SpellsAll.cons _ blocks
      rw [(grown.same (by omega)).slice_eq]
      exact one.block
    case grown =>
      rw [sizes, ← Nat.add_assoc]
      exact one.grown.trans grown
    case inside =>
      rw [sizes]
      exact (one.inside.mono le_rfl).trans (inside.mono)

/-! ## What is read back -/

/-- A property whose type is stored as the grammar has it. -/
def PropRead (host : ByteOrder) : TableProp → Prop
  | .wildcards _ => host = .bigEndian
  | _ => True

instance (host : ByteOrder) : DecidablePred (PropRead host) := fun prop =>
  match prop with
  | .wildcards _ => inferInstanceAs (Decidable (host = .bigEndian))
  | .match_ _ | .experimenter .. => inferInstanceAs (Decidable True)

variable {host : ByteOrder} {prop : TableProp}

theorem parseTableProp_stored (rest : List UInt8) (small : prop.size < 2 ^ 16) :
    parseTableProp (prop.spelled (storedType host prop) ++ rest) =
      if PropRead host prop then some (prop, rest) else none := by
  rw [parseTableProp_spelled (length_storedType host prop) small]
  have operands := parseTableOperands_operands prop
  cases prop with
  | match_ ids | experimenter vendor expType data =>
    rw [storedType, word16_bytes16, operands]
    · rfl
    · exact nofun
  | wildcards ids =>
  cases host with
  | littleEndian => rfl
  | bigEndian =>
  change Option.map _ (parseTableOperands (TableProp.wildcards ids).type _) = _
  rw [operands]
  rfl

theorem TableProp.padded_aligned (length : Nat) : 8 ∣ TableProp.padded length :=
  Nat.dvd_mul_left _ _

theorem propsSize_aligned (props : List TableProp) : 8 ∣ propsSize props := by
  induction props with
  | nil => exact Nat.dvd_zero 8
  | cons prop props ih =>
    rw [propsSize, map_cons, sum_cons]
    exact Nat.dvd_add (TableProp.padded_aligned _) ih

theorem size_le_propsSize {props : List TableProp} (member : prop ∈ props) :
    prop.size ≤ propsSize props := by
  have one : TableProp.padded prop.size ≤ propsSize props :=
    single_le_sum (fun _ _ => Nat.zero_le _) _ (mem_map_of_mem member)
  have fills : prop.size ≤ TableProp.padded prop.size := by
    rw [TableProp.padded]
    omega
  exact fills.trans one

theorem spellsAll_spelledProps (host : ByteOrder) (props : List TableProp) :
    SpellsAll (fun prop piece => piece = prop.spelled (storedType host prop)) props
      (spelledProps host props) := by
  induction props with
  | nil => exact SpellsAll.nil
  | cons prop props ih => exact SpellsAll.cons rfl ih

theorem cString_strncpy {name : List UInt8} {size : Nat} (fits : name.length ≤ size) :
    cString (strncpy name size) = cString name := by
  have short : (cString name).length ≤ size :=
    (List.takeWhile_prefix _).length_le.trans fits
  have string : ∀ byte ∈ cString name, decide (byte ≠ 0) = true := by
    intro byte member
    have kept := mem_takeWhile_imp member
    exact kept
  have zeros : (replicate (size - (cString name).length) (0 : UInt8)).takeWhile
      (fun byte => decide (byte ≠ 0)) = [] := by
    cases size - (cString name).length <;> rfl
  rw [strncpy, take_of_length_le short]
  change List.takeWhile _ (cString name ++ _) = _
  rw [takeWhile_append_of_pos string, zeros, append_nil]

/-- The features of the datapath's table that the grammar has for a table. -/
def TtpTableEntry.features (table : TtpTableEntry) : TableFeatures where
  tableId := table.tableId
  name := cString table.tableName.1
  metadataMatch := 0xffffffffffffffff
  metadataWrite := 0xffffffffffffffff
  maxEntries := table.maxRows
  props := table.props

theorem fieldAt_behind {two bytes : List UInt8} (long : two.length = 2) (offset width : Nat) :
    fieldAt (two ++ bytes) (2 + offset) width = fieldAt bytes offset width := by
  rw [fieldAt, fieldAt, ← drop_drop, drop_left' long]

/-- A table is read back from its block when its properties are. -/
theorem parseTableFeatures_stored {table : TtpTableEntry} {piece : List UInt8}
    (block : TableBlock host table piece) (small : table.size < 2 ^ 16) (rest : List UInt8) :
    parseTableFeatures (piece ++ rest) =
      if ∀ prop ∈ table.props, PropRead host prop then some (table.features, rest)
      else none := by
  have whole := block.length
  obtain ⟨front, long, fields, rfl⟩ := block
  generalize lengthIs : bytes16 (UInt16.ofNat table.size) = length at whole ⊢
  have two : length.length = 2 := by rw [← lengthIs, length_bytes16]
  have read : netNat length = table.size := by rw [← lengthIs, netNat_bytes16 small]
  have head : (length ++ front).length = 64 := by rw [length_append, two, long]
  have sixtyFour : 64 ≤ table.size := Nat.le_add_right _ _
  have aligned : 8 ∣ table.size := Nat.dvd_add ⟨8, rfl⟩ (propsSize_aligned _)
  have fits : table.size ≤ (length ++ (front ++ spelledProps host table.props) ++ rest).length := by
    rw [length_append, whole]
    exact Nat.le_add_right _ _
  have counted : netNat (fieldAt (length ++ (front ++ spelledProps host table.props) ++ rest)
      0 2) = table.size := by
    rw [fieldAt, drop_zero, append_assoc, take_left' two, read]
  have member (offset width : Nat) (inside : offset + width ≤ 62) :
      fieldAt (length ++ (front ++ spelledProps host table.props) ++ rest) (2 + offset) width =
        fieldAt front offset width := by
    rw [append_assoc, fieldAt_behind two, append_assoc, fieldAt_append]
    omega
  have tail : ((length ++ (front ++ spelledProps host table.props) ++ rest).take
      table.size).drop 64 = spelledProps host table.props := by
    rw [← whole, take_left' rfl, ← append_assoc, drop_left' head]
  have props : parseAll parseTableProp table.size (spelledProps host table.props) =
      if ∀ prop ∈ table.props, PropRead host prop then some (table.props.map id)
      else none := by
    apply parseAll_blocks _ (spellsAll_spelledProps host table.props)
    · rw [length_spelledProps, TtpTableEntry.size]
      omega
    rintro prop inside piece rest rfl
    have less := size_le_propsSize inside
    have fits : prop.size < 2 ^ 16 := by
      rw [TtpTableEntry.size] at small
      omega
    have long := prop.length_spelled (length_storedType host prop)
    refine ⟨?_, parseTableProp_stored rest fits⟩
    apply ne_nil_of_length_pos
    rw [long, TableProp.padded, TableProp.size]
    omega
  have id : byteAt (length ++ (front ++ spelledProps host table.props) ++ rest) 2 =
      table.tableId := by
    have stored := fields (0, [table.tableId]) (by simp [headerFields])
    rw [byteAt, member 0 1 (by omega)]
    exact congrArg (List.headD · 0) stored
  have name := fields (6, strncpy table.tableName.1 32) (by simp [headerFields])
  have metadataMatch := fields (38, replicate 8 0xff) (by simp [headerFields])
  have metadataWrite := fields (46, replicate 8 0xff) (by simp [headerFields])
  have maxEntries := fields (58, bytes32 table.maxRows) (by simp [headerFields])
  rw [length_strncpy] at name
  rw [length_bytes32] at maxEntries
  change fieldAt front 38 8 = _ at metadataMatch
  change fieldAt front 46 8 = _ at metadataWrite
  have string : cString (strncpy table.tableName.1 32) = cString table.tableName.1 :=
    cString_strncpy table.tableName.2.le
  simp only [parseTableFeatures, counted]
  rw [if_pos ⟨sixtyFour, aligned, fits⟩, tail, props, id, member 6 32 (by omega),
    member 38 8 (by omega), member 46 8 (by omega), member 58 4 (by omega), name, maxEntries,
    metadataMatch, metadataWrite, drop_left' whole, string, word32_bytes32, map_id]
  split
  · rfl
  · rfl

/-! ## The whole message -/

/-- The bytes that the message takes. -/
def requestSize (tables : List TtpTableEntry) : Nat := 16 + tablesSize tables

theorem startRequest_holds :
    startRequest.memory.Holds 0 [4, 18, 0, 0, 0, 0, 0, 0, 0, 12, 0, 0, 0, 0, 0, 0] := by
  refine ⟨?_, ?_, ?_, ?_, ?_, ?_, ?_, ?_, ?_, ?_, ?_, ?_, ?_, ?_, ?_, ?_, trivial⟩
  all_goals rfl

theorem startRequest_fresh (address : Int) (behind : 16 ≤ address) :
    startRequest.memory address = 0 := by
  have same : ByteMemory.Same (fun _ => 0) startRequest.memory 16 (address + 1) := by
    apply write_same
    intro store member
    right
    right
    have each : ∀ store ∈ startRequest.stores, store.start + store.bytes.length ≤ 16 := by
      decide
    exact each store member
  exact same address behind (by omega)

section Whole

variable {host : ByteOrder} {tables : List TtpTableEntry}

/-- What lies in the message whose size is not too large. -/
structure MessageBuilt (host : ByteOrder) (tables : List TtpTableEntry) (request : Request) :
    Prop where
  dataLen : request.dataLen = requestSize tables
  front : request.memory.Holds 0 [4, 18]
  counted : request.memory.Holds 2 (bytes16 (UInt16.ofNat (requestSize tables)))
  middle : request.memory.Holds 4 [0, 0, 0, 0, 0, 12, 0, 0, 0, 0, 0, 0]
  blocks : SpellsAll (TableBlock host) (emitted tables)
    (request.memory.slice 16 (tablesSize tables))
  inside : ∀ store ∈ request.stores, store.Inside 0 (requestSize tables)

/-- The message holds the tables in order. -/
theorem message_built (small : requestSize tables < 2 ^ 16) :
    MessageBuilt host tables (tableFeaturesRequest host tables) := by
  have added := @tables_added host startRequest tables startRequest_fresh small
  rw [tableFeaturesRequest]
  generalize tables.foldl (addTableFeatures host) startRequest = request at added ⊢
  have dataLen := added.dataLen
  have grown := added.grown
  have inside := added.inside
  have blocks := added.blocks
  change request.dataLen = requestSize tables at dataLen
  have header := grown.holds startRequest_holds (by decide)
  rw [dataLen]
  have two := length_bytes16 (UInt16.ofNat (requestSize tables))
  have parts : ([4, 18, 0, 0, 0, 0, 0, 0, 0, 12, 0, 0, 0, 0, 0, 0] : List UInt8) =
      [4, 18] ++ ([0, 0] ++ [0, 0, 0, 0, 0, 12, 0, 0, 0, 0, 0, 0]) := rfl
  rw [parts, holds_append, holds_append] at header
  obtain ⟨front, _, middle⟩ := header
  constructor
  case dataLen => exact dataLen
  case front => exact Request.holds_store front (.inl (by decide))
  case counted => exact Request.store_holds request 2 _
  case middle =>
    apply Request.holds_store middle
    right
    rw [two]
    decide
  case blocks =>
    rw [Request.memory_store]
    have same : Same request.memory
        (request.memory.put ⟨(2 : Nat), bytes16 (UInt16.ofNat (requestSize tables))⟩) 16
        (16 + tablesSize tables) :=
      put_same (.inr (.inr (by
        change ((2 : Nat) : Int) + (bytes16 (UInt16.ofNat (requestSize tables))).length ≤ 16
        rw [two]
        decide)))
    rw [same.slice_eq]
    exact blocks
  case inside =>
    intro store member
    obtain ⟨more, is, each⟩ := inside
    have sixteen : 16 ≤ requestSize tables := Nat.le_add_right _ _
    rcases mem_append.mp member with earlier | last
    · rw [is] at earlier
      rcases mem_append.mp earlier with start | behind
      · have early : ∀ store ∈ startRequest.stores,
            0 ≤ store.start ∧ store.start + store.bytes.length ≤ 16 := by decide
        obtain ⟨low, high⟩ := early store start
        exact .inr ⟨low, by omega⟩
      rcases each store behind with empty | ⟨low, high⟩
      · exact .inl empty
      · have low : (16 : Int) ≤ store.start := low
        exact .inr ⟨by omega, high⟩
    · rw [mem_singleton.mp last]
      right
      constructor
      · exact Int.natCast_nonneg 2
      · change ((2 : Nat) : Int) + (bytes16 (UInt16.ofNat (requestSize tables))).length ≤ _
        rw [two]
        omega

theorem size_le_tablesSize {table : TtpTableEntry} (member : table ∈ emitted tables) :
    table.size ≤ tablesSize tables :=
  single_le_sum (fun _ _ => Nat.zero_le _) _ (mem_map_of_mem member)

/-- The message is read back exactly when every property is. -/
theorem message_parsed (small : requestSize tables < 2 ^ 16) :
    parseTableFeaturesRequest (tableFeaturesRequest host tables).message =
      if ∀ table ∈ emitted tables, ∀ prop ∈ table.props, PropRead host prop then
        some ((emitted tables).map TtpTableEntry.features)
      else none := by
  have built := @message_built host tables small
  rw [Request.message, built.dataLen]
  generalize tableFeaturesRequest host tables = request at built ⊢
  have sixteen : 16 ≤ requestSize tables := Nat.le_add_right _ _
  have long := length_slice request.memory 0 (requestSize tables)
  have field (offset width : Nat) (fits : offset + width ≤ 16) :
      fieldAt (request.memory.slice 0 (requestSize tables)) offset width =
        request.memory.slice (0 + offset) width :=
    fieldAt_slice (by omega)
  obtain ⟨version, type, _⟩ := built.front
  have parts : ([0, 0, 0, 0, 0, 12, 0, 0, 0, 0, 0, 0] : List UInt8) =
      [0, 0, 0, 0] ++ ([0, 12] ++ ([0, 0] ++ [0, 0, 0, 0])) := rfl
  have middle := built.middle
  rw [parts, holds_append, holds_append, holds_append] at middle
  obtain ⟨_, kind, flags, _⟩ := middle
  have counted := built.counted.slice_eq
  have size : netNat (fieldAt (request.memory.slice 0 (requestSize tables)) 2 2) =
      requestSize tables := by
    rw [field 2 2 (by decide)]
    exact (congrArg netNat counted).trans (netNat_bytes16 small)
  have kindRead : netNat (fieldAt (request.memory.slice 0 (requestSize tables)) 8 2) = 12 := by
    rw [field 8 2 (by decide)]
    exact congrArg netNat kind.slice_eq
  have flagsRead : netNat (fieldAt (request.memory.slice 0 (requestSize tables)) 10 2) = 0 := by
    rw [field 10 2 (by decide)]
    exact congrArg netNat flags.slice_eq
  have versionRead : byteAt (request.memory.slice 0 (requestSize tables)) 0 = 4 := by
    rw [byteAt, field 0 1 (by decide)]
    exact version
  have typeRead : byteAt (request.memory.slice 0 (requestSize tables)) 1 = 18 := by
    rw [byteAt, field 1 1 (by decide)]
    exact type
  have behind : (request.memory.slice 0 (requestSize tables)).drop 16 =
      request.memory.slice 16 (tablesSize tables) := by
    rw [requestSize, slice_add]
    exact drop_left' (length_slice _ _ _)
  rw [parseTableFeaturesRequest, if_pos ⟨versionRead, typeRead, by rw [size, long],
    by rw [long]; exact sixteen, kindRead, flagsRead⟩, behind]
  apply parseAll_blocks _ built.blocks
  · rw [length_slice, long, requestSize]
    omega
  intro table member piece rest block
  have less := size_le_tablesSize member
  have fits : table.size < 2 ^ 16 := by
    rw [requestSize] at small
    omega
  refine ⟨?_, parseTableFeatures_stored block fits rest⟩
  apply ne_nil_of_length_pos
  rw [block.length, TtpTableEntry.size]
  omega

end Whole

end OpenFlowController.Ttp
