/-
Module: Messages.FlowStore
Purpose: The static flows of the datapaths: how flows, and the match fields, instructions
  and actions of a flow, are added, updated, found and removed.
Source: ofproto/src/messages/of_flow.c 40-679 (of_datapath_add_static_flow to
  of_flow_remove_instruction_from_list), 4138-4622 (of_get_flow to of_flow_update_actionlist);
  include/of_flowinfo.h; ofproto/src/include/cntlr_list.h
Trusted boundary: a list of nodes is a list of entries, and the caller of an addition gives a
  record of its own, allocated with `calloc`
-/
import OpenFlowController.Library.KeyedList
import OpenFlowController.Utils.Mchash

namespace OpenFlowController.FlowStore

open Library.KeyedList Utils

/-! ## Entries -/

/-- The members that hold a value; which of them does depends on the field. -/
structure FlowData where
  ui8Data : UInt8 := 0
  ui16Data : UInt16 := 0
  ui32Data : UInt32 := 0
  ui64Data : UInt64 := 0
  ui8DataArray : List UInt8 := List.replicate 6 0
  ipv6Addr : List UInt8 := List.replicate 16 0
  arrayWidth : ui8DataArray.length = 6 := by decide
  addrWidth : ipv6Addr.length = 16 := by decide

theorem zeroArray_width : (List.replicate 6 (0 : UInt8)).length = 6 := rfl

theorem zeroAddr_width : (List.replicate 16 (0 : UInt8)).length = 16 := rfl

structure OfiFlowMatchFields extends FlowData where
  fieldType : UInt8
  isMaskSet : UInt8 := 0
  mask : List UInt8 := List.replicate 46 0
  maskWidth : mask.length = 46 := by decide

structure OfiFlowAction extends FlowData where
  actionType : UInt8
  portNo : UInt32 := 0
  maxLen : UInt16 := 0
  ttl : UInt8 := 0
  etherType : UInt16 := 0
  queueId : UInt32 := 0
  groupId : UInt32 := 0
  setfieldType : Int8 := -1

/-- `struct ofi_flow_match_fields` in its list. -/
structure MatchEntry extends OfiFlowMatchFields where
  fieldId : UInt16
  fieldLen : UInt8 := 0
  maskLen : UInt8 := 0

/-- `struct ofi_flow_action` in its list. -/
structure ActionEntry extends OfiFlowAction where
  actionId : UInt16
  actionLen : UInt8 := 0

/-- `struct ofi_flow_instruction` but for its list of actions. -/
structure InstructionValues where
  instId : UInt16
  instructionType : UInt8
  instructionLen : UInt8 := 0
  ui8Data : UInt8 := 0
  ui16Data : UInt16 := 0
  ui32Data : UInt32 := 0
  ui64Data : UInt64 := 0
  ui8DataArray : List UInt8 := List.replicate 6 0
  isMaskSet : UInt8 := 0
  mask : List UInt8 := List.replicate 16 0
  maskLen : UInt8 := 0

/-- `struct ofi_flow_instruction`. -/
structure InstructionEntry extends InstructionValues where
  actionList : List ActionEntry := []

/-- `struct ofi_flow_mod_info` but for its lists. -/
structure FlowValues where
  flowId : UInt32
  tableId : UInt8 := 0
  priority : UInt16 := 0
  command : UInt8 := 0
  idleTimeout : UInt16 := 0
  hardTimeout : UInt16 := 0
  cookie : UInt64 := 0
  cookieMask : UInt64 := 0
  flowFlags : UInt8 := 0
  outPort : UInt32 := 0
  outGroup : UInt32 := 0

/-- `struct ofi_flow_mod_info`. -/
structure FlowEntry extends FlowValues where
  matchFieldList : List MatchEntry := []
  instructionList : List InstructionEntry := []
  actionList : List ActionEntry := []

def MatchEntry.key (entry : MatchEntry) : Nat := entry.fieldId.toNat

def ActionEntry.key (entry : ActionEntry) : Nat := entry.actionId.toNat

def InstructionValues.key (values : InstructionValues) : Nat := values.instId.toNat

def InstructionEntry.key (entry : InstructionEntry) : Nat := entry.toInstructionValues.key

def FlowValues.key (values : FlowValues) : Nat := values.flowId.toNat

def FlowEntry.key (entry : FlowEntry) : Nat := entry.toFlowValues.key

/-- What an operation returns: a status, or what a pointer leads to. -/
inductive Answer (F I : Type) where
  | ofSuccess
  | ofFailure
  | flow (found : F)
  | field (found : MatchEntry)
  | instruction (found : I)
  | action (found : ActionEntry)

/-- An answer with entries of the lists. -/
abbrev EntryAnswer := Answer FlowEntry InstructionEntry

/-- What `get_datapath_byhandle` makes of every handle, with the `flow_table` of a datapath that
is registered.  A handle with the magic number 0 and the index of a free entry finds a null
datapath with success, one with an index beyond the table reads what is behind it. -/
abbrev Store := UInt64 → AccessResult (List FlowEntry)

/-! ## Datapath and flow -/

/-- The flows of a datapath are tried until the change of one with the id succeeds. -/
def onFlow (store : Store) (datapathHandle : UInt64) (flowId : UInt32)
    (change : FlowEntry → Option (FlowEntry × EntryAnswer)) : Option (Store × EntryAnswer) :=
  match store datapathHandle with
  | .valid (some flows) =>
    match tryFirst FlowEntry.key flowId.toNat change flows with
    | none => some (store, .ofFailure)
    | some (flows', answer) =>
      some (Function.update store datapathHandle (.valid (some flows')), answer)
  | .invalid => some (store, .ofFailure)
  | _ => none

/-- The search ends at the first flow with the id. -/
def onFirstFlow (store : Store) (datapathHandle : UInt64) (flowId : UInt32)
    (change : FlowEntry → Option (FlowEntry × EntryAnswer)) : Option (Store × EntryAnswer) :=
  match store datapathHandle with
  | .valid (some flows) =>
    match updateFirst FlowEntry.key flowId.toNat change flows with
    | none => some (store, .ofFailure)
    | some (flows', answer) =>
      some (Function.update store datapathHandle (.valid (some flows')), answer)
  | .invalid => some (store, .ofFailure)
  | _ => none

/-- The default values of a flow that is added. -/
def FlowValues.added (values : FlowValues) : FlowValues :=
  { values with
    cookie := 0, cookieMask := 0, command := 0, priority := 0, idleTimeout := 0,
    hardTimeout := 0, tableId := 0xff }

def ofDatapathAddStaticFlow (store : Store) (datapathHandle : UInt64) :
    Option FlowValues → Option (Store × EntryAnswer)
  | none => some (store, .ofFailure)
  | some flowEntry =>
    match store datapathHandle with
    | .valid (some flows) =>
      some (Function.update store datapathHandle
        (.valid (some (flows ++ [{ toFlowValues := flowEntry.added }]))), .ofSuccess)
    | .invalid => some (store, .ofFailure)
    | _ => none

/-- The values that `of_datapath_update_flow` copies. -/
def copyFlow (flowEntry flowInfo : FlowValues) : FlowValues :=
  { flowEntry with
    tableId := flowInfo.tableId
    priority := flowInfo.priority
    command := flowInfo.command
    flowFlags := flowInfo.flowFlags
    cookie := flowInfo.cookie
    cookieMask := flowInfo.cookieMask
    idleTimeout := flowInfo.idleTimeout
    hardTimeout := flowInfo.hardTimeout }

def ofDatapathUpdateFlow (store : Store) (datapathHandle : UInt64) :
    Option FlowValues → Option (Store × EntryAnswer)
  | none => some (store, .ofFailure)
  | some flowInfo =>
    onFirstFlow store datapathHandle flowInfo.flowId fun flowEntry =>
      some ({ flowEntry with toFlowValues := copyFlow flowEntry.toFlowValues flowInfo }, .ofSuccess)

/-- A flow that is found is unlinked and freed.  The status is `OF_SUCCESS` also when it is
not found: then the null pointer is taken for a node, which empties a list of one node and
is followed in any other. -/
def ofDatapathRemoveStaticFlow (store : Store) (datapathHandle : UInt64) (flowId : UInt32) :
    Option (Store × EntryAnswer) :=
  match store datapathHandle with
  | .valid (some flows) =>
    match eraseFirst FlowEntry.key flowId.toNat flows, flows with
    | some flows', _ =>
      some (Function.update store datapathHandle (.valid (some flows')), .ofSuccess)
    | none, [_] => some (Function.update store datapathHandle (.valid (some [])), .ofSuccess)
    | none, _ => none
  | _ => none

def ofGetFlow (store : Store) (datapathHandle : UInt64) (flowId : UInt32) :
    Option (Store × EntryAnswer) :=
  onFirstFlow store datapathHandle flowId fun flowEntry => some (flowEntry, .flow flowEntry)

/-! ## Lists of a flow -/

/-- What the three additions to a flow have in common.  Without the datapath the status is
still `OF_SUCCESS`, and the list is looked for in a flow that is null. -/
def addToFlow (store : Store) (datapathHandle : UInt64) (flowId : UInt32)
    (append : FlowEntry → FlowEntry) : Option (Store × EntryAnswer) :=
  match store datapathHandle with
  | .valid (some _) =>
    onFirstFlow store datapathHandle flowId fun flowEntry =>
      some (append flowEntry, .ofSuccess)
  | _ => none

def ofFlowAddMatchFieldToList (store : Store) (datapathHandle : UInt64) (flowId : UInt32) :
    Option MatchEntry → Option (Store × EntryAnswer)
  | none => some (store, .ofFailure)
  | some matchInfo =>
    addToFlow store datapathHandle flowId fun flowEntry =>
      { flowEntry with matchFieldList := flowEntry.matchFieldList ++ [matchInfo] }

def ofFlowAddActionToList (store : Store) (datapathHandle : UInt64) (flowId : UInt32) :
    Option ActionEntry → Option (Store × EntryAnswer)
  | none => some (store, .ofFailure)
  | some actionInfo =>
    addToFlow store datapathHandle flowId fun flowEntry =>
      { flowEntry with actionList := flowEntry.actionList ++ [actionInfo] }

def ofFlowAddInstructionToList (store : Store) (datapathHandle : UInt64) (flowId : UInt32) :
    Option InstructionValues → Option (Store × EntryAnswer)
  | none => some (store, .ofFailure)
  | some instructionInfo =>
    addToFlow store datapathHandle flowId fun flowEntry =>
      { flowEntry with instructionList :=
          flowEntry.instructionList ++ [{ toInstructionValues := instructionInfo }] }

def ofFlowRemoveMatchFieldFromList (store : Store) (datapathHandle : UInt64)
    (flowId : UInt32) (matchFieldId : UInt8) : Option (Store × EntryAnswer) :=
  onFlow store datapathHandle flowId fun flowEntry =>
    (eraseFirst MatchEntry.key matchFieldId.toNat flowEntry.matchFieldList).map fun left =>
      ({ flowEntry with matchFieldList := left }, .ofSuccess)

def ofFlowRemoveActionFromList (store : Store) (datapathHandle : UInt64) (flowId : UInt32)
    (actionId : UInt8) : Option (Store × EntryAnswer) :=
  onFlow store datapathHandle flowId fun flowEntry =>
    (eraseFirst ActionEntry.key actionId.toNat flowEntry.actionList).map fun left =>
      ({ flowEntry with actionList := left }, .ofSuccess)

def ofFlowRemoveInstructionFromList (store : Store) (datapathHandle : UInt64)
    (flowId : UInt32) (instructionId : UInt8) : Option (Store × EntryAnswer) :=
  onFlow store datapathHandle flowId fun flowEntry =>
    (eraseFirst InstructionEntry.key instructionId.toNat flowEntry.instructionList).map
      fun left => ({ flowEntry with instructionList := left }, .ofSuccess)

def ofGetFlowMatchField (store : Store) (datapathHandle : UInt64) (flowId fieldId : UInt32) :
    Option (Store × EntryAnswer) :=
  onFlow store datapathHandle flowId fun flowEntry =>
    (lookup MatchEntry.key fieldId.toNat flowEntry.matchFieldList).map fun found =>
      (flowEntry, .field found)

def ofGetFlowInst (store : Store) (datapathHandle : UInt64) (flowId instId : UInt32) :
    Option (Store × EntryAnswer) :=
  onFlow store datapathHandle flowId fun flowEntry =>
    (lookup InstructionEntry.key instId.toNat flowEntry.instructionList).map fun found =>
      (flowEntry, .instruction found)

def ofGetFlowAction (store : Store) (datapathHandle : UInt64) (flowId actionId : UInt32) :
    Option (Store × EntryAnswer) :=
  onFlow store datapathHandle flowId fun flowEntry =>
    (lookup ActionEntry.key actionId.toNat flowEntry.actionList).map fun found =>
      (flowEntry, .action found)

/-! ## Updates -/

def ofFlowCopyInstruction (dst src : InstructionValues) : InstructionValues :=
  { dst with
    instructionType := src.instructionType
    instructionLen := src.instructionLen
    ui8Data := src.ui8Data
    ui16Data := src.ui16Data
    ui32Data := src.ui32Data
    ui64Data := src.ui64Data
    ui8DataArray := src.ui8DataArray
    isMaskSet := src.isMaskSet
    maskLen := src.maskLen
    mask := src.mask.take 8 ++ dst.mask.drop 8 }

def ofFlowCopyAction (dst src : ActionEntry) : ActionEntry :=
  { dst with
    actionType := src.actionType
    actionLen := src.actionLen
    groupId := src.groupId
    queueId := src.queueId
    portNo := src.portNo
    maxLen := src.maxLen
    etherType := src.etherType
    ttl := src.ttl }

/-- A record of zeros from `calloc`. -/
def callocInstruction : InstructionEntry := { instId := 0, instructionType := 0 }

def callocAction : ActionEntry :=
  { actionId := 0, actionType := 0, arrayWidth := zeroArray_width, addrWidth := zeroAddr_width }

/-- The instruction of the flow is overwritten; one with another id is added when there is
none. -/
def updateInst (instEntry : InstructionValues) (memory : Bool) (flowEntry : FlowEntry) :
    Option (FlowEntry × EntryAnswer) :=
  let copy (instInfo : InstructionEntry) : InstructionEntry :=
    { instInfo with
      toInstructionValues := ofFlowCopyInstruction instInfo.toInstructionValues instEntry }
  match updateFirst InstructionEntry.key instEntry.key
      (fun instInfo => some (copy instInfo, Answer.ofSuccess)) flowEntry.instructionList with
  | some (instructions, answer) =>
    some ({ flowEntry with instructionList := instructions }, answer)
  | none =>
    if memory then
      some ({ flowEntry with
        instructionList := flowEntry.instructionList ++ [copy callocInstruction] },
        .ofSuccess)
    else none

def ofFlowUpdateInst (store : Store) (datapathHandle : UInt64) (flowId : UInt32)
    (instEntry : InstructionValues) (memory : Bool) : Option (Store × EntryAnswer) :=
  onFirstFlow store datapathHandle flowId (updateInst instEntry memory)

/-- The action of the flow is overwritten; one with another id is added when there is
none. -/
def updateAction (actionEntry : ActionEntry) (memory : Bool) (flowEntry : FlowEntry) :
    Option (FlowEntry × EntryAnswer) :=
  match updateFirst ActionEntry.key actionEntry.key
      (fun actionInfo => some (ofFlowCopyAction actionInfo actionEntry, Answer.ofSuccess))
      flowEntry.actionList with
  | some (actions, answer) => some ({ flowEntry with actionList := actions }, answer)
  | none =>
    if memory then
      some ({ flowEntry with
        actionList := flowEntry.actionList ++
          [ofFlowCopyAction callocAction actionEntry] }, .ofSuccess)
    else none

def ofFlowUpdateActionset (store : Store) (datapathHandle : UInt64) (flowId : UInt32)
    (actionEntry : ActionEntry) (memory : Bool) : Option (Store × EntryAnswer) :=
  onFirstFlow store datapathHandle flowId (updateAction actionEntry memory)

/-! ## Actions of an instruction -/

/-- The instructions of a flow are searched for the first with the id. -/
def onInstruction (flowEntry : FlowEntry) (instId : Nat)
    (change : InstructionEntry → Option (InstructionEntry × EntryAnswer)) :
    Option (FlowEntry × EntryAnswer) :=
  (updateFirst InstructionEntry.key instId change flowEntry.instructionList).map
    fun (instructions, answer) =>
      ({ flowEntry with instructionList := instructions }, answer)

def ofFlowInstructionAddActionToList (store : Store) (datapathHandle : UInt64)
    (flowId : UInt32) (instructionId : UInt16) :
    Option ActionEntry → Option (Store × EntryAnswer)
  | none => some (store, .ofFailure)
  | some actionInfo =>
    onFlow store datapathHandle flowId fun flowEntry =>
      onInstruction flowEntry instructionId.toNat fun instEntry =>
        some ({ instEntry with actionList := instEntry.actionList ++ [actionInfo] }, .ofSuccess)

/-- The loop over the flows: one without the instruction ends it, one whose instruction
lacks the action does not. -/
def removeInstructionAction (flowId instructionId actionId : Nat) :
    List FlowEntry → Option (List FlowEntry × EntryAnswer)
  | [] => none
  | flowEntry :: rest =>
    let later := (removeInstructionAction flowId instructionId actionId rest).map
      (Prod.map (flowEntry :: ·) id)
    if flowEntry.key = flowId then
      match lookup InstructionEntry.key instructionId flowEntry.instructionList with
      | none => none
      | some _ =>
        match onInstruction flowEntry instructionId (fun instEntry =>
            (eraseFirst ActionEntry.key actionId instEntry.actionList).map fun left =>
              ({ instEntry with actionList := left }, .ofSuccess)) with
        | some (flowEntry', answer) => some (flowEntry' :: rest, answer)
        | none => later
    else later

def ofFlowInstructionRemoveActionFromList (store : Store) (datapathHandle : UInt64)
    (flowId : UInt32) (instructionId : UInt8) :
    Option ActionEntry → Option (Store × EntryAnswer)
  | none => some (store, .ofFailure)
  | some actionInfo =>
    match store datapathHandle with
    | .valid (some flows) =>
      match removeInstructionAction flowId.toNat instructionId.toNat actionInfo.key flows with
      | none => some (store, .ofFailure)
      | some (flows', answer) =>
        some (Function.update store datapathHandle (.valid (some flows')), answer)
    | .invalid => some (store, .ofFailure)
    | _ => none

def ofGetFlowActionFromActionlist (store : Store) (datapathHandle : UInt64)
    (flowId instId actionId : UInt32) : Option (Store × EntryAnswer) :=
  onFlow store datapathHandle flowId fun flowEntry =>
    (tryFirst InstructionEntry.key instId.toNat (fun instInfo =>
      (lookup ActionEntry.key actionId.toNat instInfo.actionList).map fun found =>
        (instInfo, Answer.action found)) flowEntry.instructionList).map
      fun (_, answer) => (flowEntry, answer)

/-- The action is looked for among those of the flow, and added to those of the
instruction, with another id, when it is not found there. -/
def updateListedAction (instId : Nat) (actionEntry : ActionEntry) (memory : Bool)
    (flowEntry : FlowEntry) : Option (FlowEntry × EntryAnswer) :=
  (lookup InstructionEntry.key instId flowEntry.instructionList).bind fun _ =>
    match updateFirst ActionEntry.key actionEntry.key
        (fun actionInfo => some (ofFlowCopyAction actionInfo actionEntry, Answer.ofSuccess))
        flowEntry.actionList with
    | some (actions, answer) => some ({ flowEntry with actionList := actions }, answer)
    | none =>
      if memory then
        onInstruction flowEntry instId fun instInfo =>
          some ({ instInfo with
            actionList := instInfo.actionList ++
              [ofFlowCopyAction callocAction actionEntry] }, .ofSuccess)
      else some (flowEntry, .ofFailure)

def ofFlowUpdateActionlist (store : Store) (datapathHandle : UInt64)
    (flowId instId : UInt32) (actionEntry : ActionEntry) (memory : Bool) :
    Option (Store × EntryAnswer) :=
  onFlow store datapathHandle flowId (updateListedAction instId.toNat actionEntry memory)

/-! ## Operations -/

/-- A call, with the handle and the ids it is given, and whether `calloc` has memory. -/
inductive StoreOp where
  | addStaticFlow (datapathHandle : UInt64) (flowEntry : Option FlowValues)
  | updateFlow (datapathHandle : UInt64) (flowInfo : Option FlowValues)
  | removeStaticFlow (datapathHandle : UInt64) (flowId : UInt32)
  | getFlow (datapathHandle : UInt64) (flowId : UInt32)
  | addMatchField (datapathHandle : UInt64) (flowId : UInt32) (matchInfo : Option MatchEntry)
  | addAction (datapathHandle : UInt64) (flowId : UInt32) (actionInfo : Option ActionEntry)
  | addInstruction (datapathHandle : UInt64) (flowId : UInt32)
      (instructionInfo : Option InstructionValues)
  | removeMatchField (datapathHandle : UInt64) (flowId : UInt32) (matchFieldId : UInt8)
  | removeAction (datapathHandle : UInt64) (flowId : UInt32) (actionId : UInt8)
  | removeInstruction (datapathHandle : UInt64) (flowId : UInt32) (instructionId : UInt8)
  | getMatchField (datapathHandle : UInt64) (flowId fieldId : UInt32)
  | getInst (datapathHandle : UInt64) (flowId instId : UInt32)
  | getAction (datapathHandle : UInt64) (flowId actionId : UInt32)
  | updateInst (datapathHandle : UInt64) (flowId : UInt32) (instEntry : InstructionValues)
      (memory : Bool)
  | updateActionset (datapathHandle : UInt64) (flowId : UInt32) (actionEntry : ActionEntry)
      (memory : Bool)
  | instructionAddAction (datapathHandle : UInt64) (flowId : UInt32) (instructionId : UInt16)
      (actionInfo : Option ActionEntry)
  | instructionRemoveAction (datapathHandle : UInt64) (flowId : UInt32)
      (instructionId : UInt8) (actionInfo : Option ActionEntry)
  | getActionFromActionlist (datapathHandle : UInt64) (flowId instId actionId : UInt32)
  | updateActionlist (datapathHandle : UInt64) (flowId instId : UInt32)
      (actionEntry : ActionEntry) (memory : Bool)

/-- The handle that a call looks up, unless a null record ends it before. -/
def StoreOp.looksUp : StoreOp → Option UInt64
  | .addStaticFlow _ none | .updateFlow _ none | .addMatchField _ _ none | .addAction _ _ none
  | .addInstruction _ _ none | .instructionAddAction _ _ _ none
  | .instructionRemoveAction _ _ _ none => none
  | .addStaticFlow handle _ | .updateFlow handle _ | .removeStaticFlow handle _
  | .getFlow handle _ | .addMatchField handle _ _ | .addAction handle _ _
  | .addInstruction handle _ _ | .removeMatchField handle _ _ | .removeAction handle _ _
  | .removeInstruction handle _ _ | .getMatchField handle _ _ | .getInst handle _ _
  | .getAction handle _ _ | .updateInst handle _ _ _ | .updateActionset handle _ _ _
  | .instructionAddAction handle _ _ _ | .instructionRemoveAction handle _ _ _
  | .getActionFromActionlist handle _ _ _ | .updateActionlist handle _ _ _ _ => some handle

/-- The call of an operation: none when it follows a null pointer. -/
def step (store : Store) : StoreOp → Option (Store × EntryAnswer)
  | .addStaticFlow handle flowEntry => ofDatapathAddStaticFlow store handle flowEntry
  | .updateFlow handle flowInfo => ofDatapathUpdateFlow store handle flowInfo
  | .removeStaticFlow handle flowId => ofDatapathRemoveStaticFlow store handle flowId
  | .getFlow handle flowId => ofGetFlow store handle flowId
  | .addMatchField handle flowId info => ofFlowAddMatchFieldToList store handle flowId info
  | .addAction handle flowId info => ofFlowAddActionToList store handle flowId info
  | .addInstruction handle flowId info => ofFlowAddInstructionToList store handle flowId info
  | .removeMatchField handle flowId id => ofFlowRemoveMatchFieldFromList store handle flowId id
  | .removeAction handle flowId id => ofFlowRemoveActionFromList store handle flowId id
  | .removeInstruction handle flowId id =>
    ofFlowRemoveInstructionFromList store handle flowId id
  | .getMatchField handle flowId id => ofGetFlowMatchField store handle flowId id
  | .getInst handle flowId id => ofGetFlowInst store handle flowId id
  | .getAction handle flowId id => ofGetFlowAction store handle flowId id
  | .updateInst handle flowId entry memory => ofFlowUpdateInst store handle flowId entry memory
  | .updateActionset handle flowId entry memory =>
    ofFlowUpdateActionset store handle flowId entry memory
  | .instructionAddAction handle flowId id info =>
    ofFlowInstructionAddActionToList store handle flowId id info
  | .instructionRemoveAction handle flowId id info =>
    ofFlowInstructionRemoveActionFromList store handle flowId id info
  | .getActionFromActionlist handle flowId instId actionId =>
    ofGetFlowActionFromActionlist store handle flowId instId actionId
  | .updateActionlist handle flowId instId entry memory =>
    ofFlowUpdateActionlist store handle flowId instId entry memory

end OpenFlowController.FlowStore
