/-
Module: Ttp.PatternRequest
Purpose: When the request for the tables of a pattern fits in the length that was asked for
  and parses back to the pattern.
Trusted boundary: none
-/
import OpenFlowController.Ttp.TableFeaturesEncoding

namespace OpenFlowController.Ttp

open Include List Library
open Encoder (u16 hostBytes)

/-! ## What is asked for -/

/-- What a pattern says of a table. -/
structure TableRecord where
  tableId : UInt8
  name : List UInt8
  maxEntries : UInt32
  matches_ : List UInt32
  wildcards : List UInt32
  lpms : List UInt32

/-- The fields that the properties of a kind list. -/
def propIds (kind : TableProp → List UInt32) (props : List TableProp) : List UInt32 :=
  props.flatMap kind

def TableProp.matchIds : TableProp → List UInt32
  | .match_ ids => ids
  | _ => []

def TableProp.wildcardIds : TableProp → List UInt32
  | .wildcards ids => ids
  | _ => []

def TableProp.lpmIds : TableProp → List UInt32
  | .experimenter vendor expType ids =>
    if vendor = fslxVendorId ∧ expType = fslxtfptLpm then ids else []
  | _ => []

/-- What the features of a table say. -/
def featuresRecord (features : TableFeatures) : TableRecord where
  tableId := features.tableId
  name := features.name
  maxEntries := features.maxEntries
  matches_ := propIds TableProp.matchIds features.props
  wildcards := propIds TableProp.wildcardIds features.props
  lpms := propIds TableProp.lpmIds features.props

def TtpTableEntry.record (table : TtpTableEntry) : TableRecord where
  tableId := table.tableId
  name := cString table.tableName.1
  maxEntries := table.maxRows
  matches_ := table.matchFieldsList.map TableMatchFieldEntry.matchField
  wildcards := chosenIds TableMatchFieldEntry.isWildCard table.matchFieldsList
  lpms := chosenIds TableMatchFieldEntry.isLpm table.matchFieldsList

/-- The tables with match fields. -/
def nonEmpty (tables : List TtpTableEntry) : List TtpTableEntry :=
  tables.filter fun table => table.matchFieldsList ≠ []

/-- The message is not longer than its length field can say, lies within the length that was
asked for, has its length in its header, and parses back to the tables of the pattern. -/
structure RequestRight (tables : List TtpTableEntry) (request : Request) : Prop where
  small : requestSize tables < 2 ^ 16
  predicted : requestSize tables ≤ cntlrTtpTblFeatureLen tables
  inside : ∀ store ∈ request.stores, store.Inside 0 (cntlrTtpTblFeatureLen tables)
  written : request.message.length = requestSize tables
  counted : netNat (fieldAt request.message 2 2) = requestSize tables
  parsed : (parseTableFeaturesRequest request.message).map (List.map featuresRecord) =
    some ((nonEmpty tables).map TtpTableEntry.record)

/-! ## Declared sizes -/

/-- The size of a table by the counts that are declared. -/
def TtpTableEntry.declared (table : TtpTableEntry) : Nat :=
  64 + TableProp.padded (4 + 4 * table.maxColumns.toNat) +
    (if table.isWcEntryPresent then TableProp.padded (4 + 4 * table.maxWcs.toNat) else 0) +
    (if table.isLpmEntryPresent then TableProp.padded (12 + 4 * table.maxLpms.toNat) else 0)

/-- The size of the message by the counts that are declared. -/
def declaredSize (tables : List TtpTableEntry) : Nat :=
  16 + ((emitted tables).map TtpTableEntry.declared).sum

variable (table : TtpTableEntry)

theorem tblFtrReqLen_eq : tblFtrReqLen table = table.declared % 2 ^ 16 := by
  simp only [tblFtrReqLen, TtpTableEntry.declared, roundUp, TableProp.padded, u16]
  split <;> split <;> omega

theorem cntlrTtpTblFeatureLen_eq (tables : List TtpTableEntry) :
    cntlrTtpTblFeatureLen tables = declaredSize tables % 2 ^ 16 := by
  have all (start : Nat) (small : start < 2 ^ 16) :
      tables.foldl (fun msgLen table =>
        if table.maxColumns = 0 then msgLen else u16 (msgLen + tblFtrReqLen table)) start =
          (start + ((emitted tables).map TtpTableEntry.declared).sum) % 2 ^ 16 := by
    induction tables generalizing start with
    | nil => exact (Nat.mod_eq_of_lt small).symm
    | cons table tables ih =>
    rw [foldl_cons]
    by_cases columns : table.maxColumns = 0
    · have skipped : emitted (table :: tables) = emitted tables := by
        simp [emitted, columns]
      rw [if_pos columns, ih start small, skipped]
    have added : emitted (table :: tables) = table :: emitted tables := by
      simp [emitted, columns]
    have cut : u16 (start + tblFtrReqLen table) < 2 ^ 16 := Nat.mod_lt _ (by decide)
    rw [if_neg columns, ih _ cut, added, map_cons, sum_cons, u16, tblFtrReqLen_eq]
    omega
  exact all 16 (by decide)

/-! ## When the pattern is read back -/

/-- A table is declared to have columns if it has fields, a wildcard property is stored only
where the host has the order of the network, and what is not stored has no fields. -/
structure TableAgrees (host : ByteOrder) (table : TtpTableEntry) : Prop where
  columns : table.maxColumns ≠ 0 ↔ table.matchFieldsList ≠ []
  wildcards : table.matchFieldsList ≠ [] →
    if table.isWcEntryPresent then host = .bigEndian
    else ∀ field ∈ table.matchFieldsList, field.isWildCard = false
  lpms : table.isLpmEntryPresent = false →
    ∀ field ∈ table.matchFieldsList, field.isLpm = false

/-- The message fits in sixteen bits and in the declared size, and every table agrees. -/
structure PatternAgrees (host : ByteOrder) (tables : List TtpTableEntry) : Prop where
  small : requestSize tables < 2 ^ 16
  declared : requestSize tables ≤ declaredSize tables % 2 ^ 16
  tables : ∀ table ∈ tables, TableAgrees host table

theorem chosenIds_all (fields : List TableMatchFieldEntry) :
    chosenIds (fun _ => true) fields = fields.map TableMatchFieldEntry.matchField := by
  rw [chosenIds, filter_true]

theorem chosenIds_nil_iff {chosen : TableMatchFieldEntry → Bool}
    {fields : List TableMatchFieldEntry} :
    chosenIds chosen fields = [] ↔ ∀ field ∈ fields, chosen field = false := by
  simp [chosenIds, filter_eq_nil_iff]

theorem features_record :
    featuresRecord table.features = { table.record with
      wildcards := if table.isWcEntryPresent then table.record.wildcards else []
      lpms := if table.isLpmEntryPresent then table.record.lpms else [] } := by
  cases wc : table.isWcEntryPresent <;> cases lpm : table.isLpmEntryPresent <;>
    simp [featuresRecord, TtpTableEntry.features, TtpTableEntry.props, TtpTableEntry.record,
      propIds, TableProp.matchIds, TableProp.wildcardIds, TableProp.lpmIds, wc, lpm,
      chosenIds_all]

variable (host : ByteOrder)

theorem propsRead_iff (table : TtpTableEntry) :
    (∀ prop ∈ table.props, PropRead host prop) ↔
      (table.isWcEntryPresent = true → host = .bigEndian) := by
  cases wc : table.isWcEntryPresent <;> cases lpm : table.isLpmEntryPresent <;>
    simp [TtpTableEntry.props, PropRead, wc, lpm]

theorem features_record_iff :
    featuresRecord table.features = table.record ↔
      (table.isWcEntryPresent = false → ∀ field ∈ table.matchFieldsList, field.isWildCard = false) ∧
      (table.isLpmEntryPresent = false → ∀ field ∈ table.matchFieldsList, field.isLpm = false) := by
  rw [features_record, ← chosenIds_nil_iff, ← chosenIds_nil_iff]
  cases wc : table.isWcEntryPresent <;> cases lpm : table.isLpmEntryPresent <;>
    simp [TtpTableEntry.record, @eq_comm _ ([] : List UInt32)]

variable {tables : List TtpTableEntry}

/-- The tables emitted are those that are not empty when the records agree. -/
theorem emitted_nonEmpty (same : ((emitted tables).map TtpTableEntry.features).map featuresRecord =
      (nonEmpty tables).map TtpTableEntry.record) :
    (∀ table ∈ tables, table.maxColumns ≠ 0 ↔ table.matchFieldsList ≠ []) ∧
      ∀ table ∈ nonEmpty tables, featuresRecord table.features = table.record := by
  have fields : ∀ table ∈ tables, table.maxColumns ≠ 0 → table.matchFieldsList ≠ [] := by
    intro table member columns
    have stored : table ∈ emitted tables := by simp [emitted, member, columns]
    have read : featuresRecord table.features ∈ (nonEmpty tables).map TtpTableEntry.record := by
      rw [← same]
      exact mem_map_of_mem (mem_map_of_mem stored)
    obtain ⟨other, inside, is⟩ := mem_map.mp read
    have matches_ := congrArg TableRecord.matches_ is
    rw [features_record] at matches_
    intro empty
    simp only [TtpTableEntry.record, empty, map_nil, map_eq_nil_iff] at matches_
    simp [nonEmpty, matches_] at inside
  have both : emitted tables = (nonEmpty tables).filter fun table => table.maxColumns ≠ 0 := by
    rw [emitted, nonEmpty, filter_filter]
    apply filter_congr
    intro table member
    by_cases columns : table.maxColumns = 0
    · simp [columns]
    · simp [columns, fields table member columns]
  have lengths := congrArg List.length same
  rw [length_map, length_map, length_map, both] at lengths
  have all := length_filter_eq_length_iff.mp lengths
  have whole : emitted tables = nonEmpty tables := by
    rw [both, filter_eq_self.mpr all]
  constructor
  · intro table member
    refine ⟨fields table member, fun some_ => ?_⟩
    have inside : table ∈ nonEmpty tables := by simp [nonEmpty, member, some_]
    simpa using all table inside
  · rw [whole, map_map] at same
    exact map_inj_left.mp same

/-- The request is read back exactly when its properties are. -/
theorem parsed_iff {host : ByteOrder} (small : requestSize tables < 2 ^ 16) :
    (parseTableFeaturesRequest (tableFeaturesRequest host tables).message).map
        (List.map featuresRecord) = some ((nonEmpty tables).map TtpTableEntry.record) ↔
      ∀ table ∈ tables, TableAgrees host table := by
  rw [message_parsed small]
  constructor
  case mp =>
    intro read
    split at read
    case isFalse => exact absurd read nofun
    case isTrue good =>
    obtain ⟨columns, records⟩ := emitted_nonEmpty (Option.some.inj read)
    intro table member
    by_cases fields : table.matchFieldsList = []
    · constructor
      case columns => exact columns table member
      case wildcards => exact fun some_ => absurd fields some_
      case lpms =>
        rw [fields]
        exact fun _ => nofun
    have stored : table ∈ emitted tables := by
      simp [emitted, member, (columns table member).mpr fields]
    have inside : table ∈ nonEmpty tables := by simp [nonEmpty, member, fields]
    have network := (propsRead_iff host table).mp (good table stored)
    obtain ⟨wildcards, lpms⟩ := (features_record_iff table).mp (records table inside)
    constructor
    case columns => exact columns table member
    case wildcards =>
      intro _
      split
      case isTrue present => exact network present
      case isFalse absent => exact wildcards (Bool.eq_false_of_not_eq_true absent)
    case lpms => exact lpms
  case mpr =>
    intro agrees
    have whole : emitted tables = nonEmpty tables := by
      apply filter_congr
      intro table member
      simp [(agrees table member).columns]
    have each : ∀ table ∈ nonEmpty tables, table ∈ tables ∧ table.matchFieldsList ≠ [] := by
      intro table member
      simpa [nonEmpty] using member
    have good : ∀ table ∈ emitted tables, ∀ prop ∈ table.props, PropRead host prop := by
      rw [whole]
      intro table member
      obtain ⟨inside, fields⟩ := each table member
      rw [propsRead_iff]
      intro present
      have network := (agrees table inside).wildcards fields
      rwa [if_pos present] at network
    rw [if_pos good, whole, Option.map_some, map_map]
    apply congrArg some
    apply map_congr_left
    intro table member
    obtain ⟨inside, fields⟩ := each table member
    apply (features_record_iff table).mpr
    constructor
    · intro absent
      have none_ := (agrees table inside).wildcards fields
      rw [absent] at none_
      exact none_
    · exact (agrees table inside).lpms

/-- A request is right exactly when the pattern agrees. -/
theorem request_right_iff (tables : List TtpTableEntry) :
    RequestRight tables (tableFeaturesRequest host tables) ↔ PatternAgrees host tables := by
  constructor
  case mp =>
    intro right
    constructor
    case small => exact right.small
    case declared =>
      rw [← cntlrTtpTblFeatureLen_eq]
      exact right.predicted
    case tables => exact (parsed_iff right.small).mp right.parsed
  case mpr =>
    intro agrees
    have built := @message_built host tables agrees.small
    have predicted := agrees.declared
    rw [← cntlrTtpTblFeatureLen_eq] at predicted
    have written : (tableFeaturesRequest host tables).message.length = requestSize tables := by
      rw [Request.message, ByteMemory.length_slice, built.dataLen]
    constructor
    case small => exact agrees.small
    case predicted => exact predicted
    case inside =>
      intro store member
      rcases built.inside store member with empty | ⟨low, high⟩
      · exact .inl empty
      · exact .inr ⟨low, by omega⟩
    case written => exact written
    case counted =>
      have sixteen : 16 ≤ requestSize tables := Nat.le_add_right _ _
      have counted := built.counted.slice_eq
      rw [Request.message, built.dataLen, Encoder.fieldAt_slice (by omega)]
      exact (congrArg netNat counted).trans (netNat_bytes16 agrees.small)
    case parsed => exact (parsed_iff agrees.small).mpr agrees.tables

/-! ## The event -/

/-- Nothing is missing on the way to the message. -/
structure DpReadyAnswers.Ready (answers : DpReadyAnswers) (ttp : TtpNode) : Prop where
  datapathFound : answers.datapathFound = true
  domainFound : answers.domainFound = true
  ttpFound : answers.ttp = some ttp
  mainConnPresent : answers.mainConnPresent = true
  connTable : answers.connTable = true
  numberOfTables : ttp.numberOfTables ≠ 0
  allocated : answers.allocated = true

/-- What is handed to the channel is right, for the pattern of the datapath's domain. -/
def DpReadyRight (host : ByteOrder) (answers : DpReadyAnswers) : Prop :=
  ∀ request, (cntlrTtpDpReadyEvent host answers).handed = some request →
    ∃ ttp, answers.ttp = some ttp ∧ RequestRight ttp.tableList request

/-- The request handed over is the one of the pattern that is ready. -/
theorem handed_iff (answers : DpReadyAnswers) (request : Request) :
    (cntlrTtpDpReadyEvent host answers).handed = some request ↔
      ∃ ttp, answers.Ready ttp ∧ request = tableFeaturesRequest host ttp.tableList := by
  constructor
  case mp =>
    intro handed
    unfold cntlrTtpDpReadyEvent at handed
    split at handed
    case isTrue => exact absurd handed nofun
    case isFalse datapath =>
    split at handed
    case isTrue => exact absurd handed nofun
    case isFalse domain =>
    split at handed
    case h_1 => exact absurd handed nofun
    case h_2 ttp found =>
    split at handed
    case isTrue => exact absurd handed nofun
    case isFalse conn =>
    split at handed
    case isTrue => exact absurd handed nofun
    case isFalse table =>
    split at handed
    case isTrue => exact absurd handed nofun
    case isFalse number =>
    split at handed
    case isTrue => exact absurd handed nofun
    case isFalse allocated =>
      refine ⟨ttp, ?_, (Option.some.inj handed).symm⟩
      simp only [not_not] at datapath domain conn table allocated
      exact ⟨datapath, domain, found, conn, table, number, allocated⟩
  case mpr =>
    rintro ⟨ttp, ready, rfl⟩
    simp only [cntlrTtpDpReadyEvent, ready.datapathFound, ready.domainFound, ready.ttpFound,
      ready.mainConnPresent, ready.connTable, ready.allocated, not_true_eq_false, if_false]
    rw [if_neg ready.numberOfTables]

/-- Whatever the lookups, the pool and the channel answer, the message that is handed to the
channel is right if and only if the pattern agrees, whenever nothing is missing on the way to
it. -/
theorem table_features_right_iff (host : ByteOrder) (answers : DpReadyAnswers) :
    DpReadyRight host answers ↔
      ∀ ttp, answers.Ready ttp → PatternAgrees host ttp.tableList := by
  constructor
  case mp =>
    intro right ttp ready
    obtain ⟨other, found, request⟩ := right _ ((handed_iff host answers _).mpr ⟨ttp, ready, rfl⟩)
    cases Option.some.inj (ready.ttpFound.symm.trans found)
    exact (request_right_iff host _).mp request
  case mpr =>
    intro agrees request handed
    obtain ⟨ttp, ready, rfl⟩ := (handed_iff host answers request).mp handed
    exact ⟨ttp, ready.ttpFound, (request_right_iff host _).mpr (agrees ttp ready)⟩

/-- A table that matches the port an Ethernet frame came in by, and its destination or none. -/
def macTable : TtpTableEntry where
  tableId := 1
  tableName := ⟨List.replicate 32 0, rfl⟩
  maxRows := 16
  maxColumns := 2
  isWcEntryPresent := true
  maxWcs := 1
  isLpmEntryPresent := false
  maxLpms := 0
  matchFieldsList := [⟨0x80000004, false, false⟩, ⟨0x80000606, true, false⟩]

/-- Everything is found, and the pattern has the one table. -/
def macTableReady : DpReadyAnswers where
  datapathFound := true
  domainFound := true
  ttp := some { numberOfTables := 1, tableList := [macTable] }
  mainConnPresent := true
  connTable := true
  allocated := true
  sent := true

/-- On a little-endian host the type of the wildcard property reads as 2560. -/
theorem macTable_lost : ¬ DpReadyRight .littleEndian macTableReady := by
  intro right
  obtain ⟨ttp, found, request⟩ := right (tableFeaturesRequest .littleEndian [macTable]) rfl
  cases Option.some.inj found
  have agrees := ((request_right_iff _ _).mp request).tables macTable (mem_singleton_self _)
  exact absurd (agrees.wildcards (by decide)) (by decide)

end OpenFlowController.Ttp
