/-
Module: Ttp.TableFeatures
Purpose: The request that configures the tables of a datapath as its table type pattern
  has them: the length that is asked for, and the stores into the message.
Source: ofproto/src/ttp/ttpapi.c 40, 255-281, 421-715; ofproto/src/include/ttpldef.h
  (struct ttp_table_entry, struct table_match_field_entry); of_multipart.h
  (OFU_TABLE_FEATURES_REQ_MESSAGE_LEN)
Trusted boundary: the lookups, the pool and the channel answer, and addresses count from
  `start_of_data`
-/
import OpenFlowController.Include.TableFeaturesFormat
import OpenFlowController.L3extutils.FslxPush

namespace OpenFlowController.Ttp

open Include Library
open Encoder (u16 hostBytes)

/-! ## Table type patterns -/

/-- `struct table_match_field_entry`; the flags are compared with `TRUE`. -/
structure TableMatchFieldEntry where
  matchField : UInt32
  isWildCard : Bool
  isLpm : Bool

/-- `struct ttp_table_entry`.  How many fields there are of each kind is declared next to
the list. -/
structure TtpTableEntry where
  tableId : UInt8
  tableName : { name : List UInt8 // name.length = 32 }
  maxRows : UInt32
  maxColumns : UInt32
  isWcEntryPresent : Bool
  maxWcs : UInt32
  isLpmEntryPresent : Bool
  maxLpms : UInt32
  matchFieldsList : List TableMatchFieldEntry

/-! ## The length that is asked for -/

/-- `round_up(v, 8)`. -/
def roundUp (value : Nat) : Nat := (value + 8 - 1) / 8 * 8

/-- The length that is predicted for a table, in variables of the type `uint16_t`. -/
def tblFtrReqLen (table : TtpTableEntry) : Nat :=
  let matchPropLen := u16 (4 + table.maxColumns.toNat * 4)
  let len := u16 (64 + roundUp matchPropLen)
  let len :=
    if table.isWcEntryPresent then
      let wcPropLen := u16 (4 + table.maxWcs.toNat * 4)
      u16 (len + roundUp wcPropLen)
    else len
  if table.isLpmEntryPresent then
    let lpmPropLen := u16 (12 + table.maxLpms.toNat * 4)
    u16 (len + roundUp lpmPropLen)
  else len

/-- `cntlr_ttp_tbl_feature_len`, which always succeeds. -/
def cntlrTtpTblFeatureLen (tableList : List TtpTableEntry) : Nat :=
  tableList.foldl
    (fun msgLen table =>
      if table.maxColumns = 0 then msgLen else u16 (msgLen + tblFtrReqLen table))
    16

/-! ## The request while it is built -/

/-- The stores so far, one after the other, and `data_len`. -/
structure Request where
  stores : List Store := []
  dataLen : Nat := 0

namespace Request

/-- What lies in the message, which `ofu_alloc_message` filled with zeros. -/
def memory (request : Request) : ByteMemory := ByteMemory.write (fun _ => 0) request.stores

def store (request : Request) (place : Nat) (bytes : List UInt8) : Request :=
  { request with stores := request.stores ++ [⟨place, bytes⟩] }

/-- A member of the type `uint16_t`, as the host reads it. -/
def load16 (host : ByteOrder) (request : Request) (place : Nat) : Nat :=
  load host (request.memory.slice place 2)

/-- A member of the type `uint16_t`, as the host stores it. -/
def storeHost (host : ByteOrder) (request : Request) (place value : Nat) : Request :=
  request.store place (hostBytes host 2 value)

/-- `member += amount`. -/
def addHost (host : ByteOrder) (request : Request) (place amount : Nat) : Request :=
  request.storeHost host place (request.load16 host place + amount)

/-- `member = htons(member)`. -/
def swap (host : ByteOrder) (request : Request) (place : Nat) : Request :=
  request.store place (bytes16 (UInt16.ofNat (request.load16 host place)))

end Request

/-! ## Properties -/

/-- The loop over the fields of a table: a field that is chosen goes behind the `ii` fields
before it, and the length of the property grows in the message. -/
def addFields (host : ByteOrder) (prop idsAt : Nat) (chosen : TableMatchFieldEntry → Bool) :
    Nat → List TableMatchFieldEntry → Request → Request
  | _, [], request => request
  | ii, field :: rest, request =>
    if chosen field then
      let stored := request.store (idsAt + 4 * ii) (bytes32 field.matchField)
      addFields host prop idsAt chosen (ii + 1) rest (stored.addHost host (prop + 2) 4)
    else addFields host prop idsAt chosen ii rest request

/-- What is done for every property: its type and the words behind its length are given,
and `header` is the size of its structure. -/
def addProp (host : ByteOrder) (tbl prop : Nat) (type words : List UInt8) (header : Nat)
    (chosen : TableMatchFieldEntry → Bool) (fields : List TableMatchFieldEntry)
    (request : Request) : Request :=
  let started := (request.store prop type).storeHost host (prop + 2) header
  let named := started.store (prop + 4) words
  let filled := addFields host prop (prop + header) chosen 0 fields named
  let counted := filled.addHost host tbl (roundUp (filled.load16 host (prop + 2)))
  counted.swap host (prop + 2)

def addMatchProp (host : ByteOrder) (tbl : Nat) (table : TtpTableEntry) (request : Request) :
    Request :=
  addProp host tbl (tbl + 64) (bytes16 Ofptfpt.match_) [] 4 (fun _ => true)
    table.matchFieldsList request

/-- The type is stored in the order of the host. -/
def addWildcardsProp (host : ByteOrder) (tbl : Nat) (table : TtpTableEntry)
    (request : Request) : Request :=
  addProp host tbl (tbl + request.load16 host tbl) (hostBytes host 2 Ofptfpt.wildcards.toNat)
    [] 4 TableMatchFieldEntry.isWildCard table.matchFieldsList request

def addLpmProp (host : ByteOrder) (tbl : Nat) (table : TtpTableEntry) (request : Request) :
    Request :=
  addProp host tbl (tbl + request.load16 host tbl) (bytes16 Ofptfpt.experimenter)
    (bytes32 fslxVendorId ++ bytes32 fslxtfptLpm) 12 TableMatchFieldEntry.isLpm
    table.matchFieldsList request

/-! ## Tables -/

/-- `strncpy` into an array of `size` characters. -/
def strncpy (source : List UInt8) (size : Nat) : List UInt8 :=
  let string := (cString source).take size
  string ++ List.replicate (size - string.length) 0

/-- The members of a table before its properties. -/
def addTableHeader (host : ByteOrder) (tbl : Nat) (table : TtpTableEntry)
    (request : Request) : Request :=
  let request := request.store (tbl + 2) [table.tableId]
  let request := request.store (tbl + 8) (strncpy table.tableName.1 32)
  let request := request.store (tbl + 40) (List.replicate 8 0xff)
  let request := request.store (tbl + 48) (List.replicate 8 0xff)
  let request := request.store (tbl + 60) (bytes32 table.maxRows)
  request.storeHost host tbl 64

/-- The members of a table and its properties, with the length in the order of the host. -/
def addTableProps (host : ByteOrder) (tbl : Nat) (table : TtpTableEntry) (request : Request) :
    Request :=
  let request := addMatchProp host tbl table (addTableHeader host tbl table request)
  let request :=
    if table.isWcEntryPresent then addWildcardsProp host tbl table request else request
  if table.isLpmEntryPresent then addLpmProp host tbl table request else request

/-- The body of the loop over the tables; a table goes where the data end. -/
def addTableFeatures (host : ByteOrder) (request : Request) (table : TtpTableEntry) :
    Request :=
  if table.maxColumns = 0 then request
  else
    let tbl := request.dataLen
    let request := addTableProps host tbl table request
    let counted := { request with dataLen := u16 (request.dataLen + request.load16 host tbl) }
    counted.swap host tbl

/-- The header of the multipart request, all but its length. -/
def startRequest : Request where
  stores := [⟨0, [4]⟩, ⟨1, [18]⟩, ⟨4, bytes32 0⟩, ⟨8, bytes16 12⟩]
  dataLen := 16

/-- The message that is built for a pattern. -/
def tableFeaturesRequest (host : ByteOrder) (tableList : List TtpTableEntry) : Request :=
  let request := tableList.foldl (addTableFeatures host) startRequest
  request.store 2 (bytes16 (UInt16.ofNat request.dataLen))

/-- The bytes of the message that are sent. -/
def Request.message (request : Request) : List UInt8 := request.memory.slice 0 request.dataLen

/-! ## The event -/

/-- `struct ttp_node_info`, as far as it is used. -/
structure TtpNode where
  numberOfTables : Nat
  tableList : List TtpTableEntry

inductive DpReadyStatus where
  | success
  | ttpFailure
  | chnClosed
  | failure
  | sendMsgToDpError

/-- What the lookups, the pool and the channel answer. -/
structure DpReadyAnswers where
  datapathFound : Bool
  domainFound : Bool
  ttp : Option TtpNode
  mainConnPresent : Bool
  connTable : Bool
  allocated : Bool
  sent : Bool

/-- The status of the event, and the message that is handed to the channel. -/
structure DpReadyOutcome where
  status : DpReadyStatus
  handed : Option Request := none

def cntlrTtpDpReadyEvent (host : ByteOrder) (answers : DpReadyAnswers) : DpReadyOutcome :=
  if ¬ answers.datapathFound then { status := .ttpFailure }
  else if ¬ answers.domainFound then { status := .ttpFailure }
  else
    match answers.ttp with
    | none => { status := .ttpFailure }
    | some ttp =>
      if ¬ answers.mainConnPresent then { status := .chnClosed }
      else if ¬ answers.connTable then { status := .failure }
      else if ttp.numberOfTables = 0 then { status := .ttpFailure }
      else if ¬ answers.allocated then { status := .failure }
      else {
        status := if answers.sent then .success else .sendMsgToDpError
        handed := some (tableFeaturesRequest host ttp.tableList) }

end OpenFlowController.Ttp
