/-
Module: Messages.FlowStoreMaps
Purpose: The static flows as nested maps from ids, and when an operation does to them what
  it is meant to do.
Source: ofproto/src/messages/of_flow.c 40-679, 4138-4622
Trusted boundary: none
-/
import OpenFlowController.Messages.FlowStore

namespace OpenFlowController.FlowStore

open Function Option Library Library.KeyedList Utils

/-! ## Nested maps -/

/-- An instruction and its actions by their ids. -/
structure InstructionMap where
  values : InstructionValues
  actions : Nat → Option ActionEntry

/-- A flow, and its match fields, instructions and actions by their ids. -/
structure FlowMap where
  values : FlowValues
  fields : Nat → Option MatchEntry
  instructions : Nat → Option InstructionMap
  actions : Nat → Option ActionEntry

/-- The flows of every datapath that is registered, by their ids. -/
abbrev Maps := UInt64 → Option (Nat → Option FlowMap)

/-- An answer with values of the maps. -/
abbrev MapAnswer := Answer FlowMap InstructionMap

/-- The flow with the id is altered, if there is one and the alteration succeeds. -/
def alterFlow (maps : Maps) (handle : UInt64) (flowId : Nat)
    (alter : FlowMap → Option (FlowMap × MapAnswer)) : Maps × MapAnswer :=
  match (maps handle).bind (change flowId alter) with
  | none => (maps, .ofFailure)
  | some (flows, answer) => (Function.update maps handle (some flows), answer)

/-- The instruction with the id is altered. -/
def alterInstruction (flow : FlowMap) (instId : Nat)
    (alter : InstructionMap → Option (InstructionMap × MapAnswer)) :
    Option (FlowMap × MapAnswer) :=
  (change instId alter flow.instructions).map fun (instructions, answer) =>
    ({ flow with instructions := instructions }, answer)

/-- What an operation is for: an addition puts an element under its id, an update changes
the element with the id, a removal deletes it, and none of them does anything where there
is no datapath, flow, instruction or element. -/
def specStep (maps : Maps) : StoreOp → Maps × MapAnswer
  | .addStaticFlow handle (some flow) =>
    match maps handle with
    | none => (maps, .ofFailure)
    | some flows =>
      (Function.update maps handle (some (Function.update flows flow.key
        (some ⟨flow.added, fun _ => none, fun _ => none, fun _ => none⟩))), .ofSuccess)
  | .updateFlow handle (some info) =>
    alterFlow maps handle info.key fun flow => some ({ flow with values := info }, .ofSuccess)
  | .removeStaticFlow handle flowId =>
    match (maps handle).bind (remove flowId.toNat) with
    | none => (maps, .ofFailure)
    | some flows => (Function.update maps handle (some flows), .ofSuccess)
  | .getFlow handle flowId =>
    alterFlow maps handle flowId.toNat fun flow => some (flow, .flow flow)
  | .addMatchField handle flowId (some info) =>
    alterFlow maps handle flowId.toNat fun flow =>
      some ({ flow with fields := Function.update flow.fields info.key (some info) }, .ofSuccess)
  | .addAction handle flowId (some info) =>
    alterFlow maps handle flowId.toNat fun flow =>
      some ({ flow with actions := Function.update flow.actions info.key (some info) }, .ofSuccess)
  | .addInstruction handle flowId (some info) =>
    alterFlow maps handle flowId.toNat fun flow =>
      some ({ flow with
        instructions :=
          Function.update flow.instructions info.key (some ⟨info, fun _ => none⟩) },
        .ofSuccess)
  | .removeMatchField handle flowId id =>
    alterFlow maps handle flowId.toNat fun flow =>
      (remove id.toNat flow.fields).map fun left => ({ flow with fields := left }, .ofSuccess)
  | .removeAction handle flowId id =>
    alterFlow maps handle flowId.toNat fun flow =>
      (remove id.toNat flow.actions).map fun left =>
        ({ flow with actions := left }, .ofSuccess)
  | .removeInstruction handle flowId id =>
    alterFlow maps handle flowId.toNat fun flow =>
      (remove id.toNat flow.instructions).map fun left =>
        ({ flow with instructions := left }, .ofSuccess)
  | .getMatchField handle flowId id =>
    alterFlow maps handle flowId.toNat fun flow =>
      (flow.fields id.toNat).map fun found => (flow, .field found)
  | .getInst handle flowId id =>
    alterFlow maps handle flowId.toNat fun flow =>
      (flow.instructions id.toNat).map fun found => (flow, .instruction found)
  | .getAction handle flowId id =>
    alterFlow maps handle flowId.toNat fun flow =>
      (flow.actions id.toNat).map fun found => (flow, .action found)
  | .updateInst handle flowId entry _ =>
    alterFlow maps handle flowId.toNat fun flow =>
      alterInstruction flow entry.key fun inst =>
        some ({ inst with values := entry }, .ofSuccess)
  | .updateActionset handle flowId entry _ =>
    alterFlow maps handle flowId.toNat fun flow =>
      (flow.actions entry.key).map fun _ =>
        ({ flow with actions := Function.update flow.actions entry.key (some entry) }, .ofSuccess)
  | .instructionAddAction handle flowId instId (some info) =>
    alterFlow maps handle flowId.toNat fun flow =>
      alterInstruction flow instId.toNat fun inst =>
        some ({ inst with actions := Function.update inst.actions info.key (some info) },
          .ofSuccess)
  | .instructionRemoveAction handle flowId instId (some info) =>
    alterFlow maps handle flowId.toNat fun flow =>
      alterInstruction flow instId.toNat fun inst =>
        (remove info.key inst.actions).map fun left =>
          ({ inst with actions := left }, .ofSuccess)
  | .getActionFromActionlist handle flowId instId actionId =>
    alterFlow maps handle flowId.toNat fun flow =>
      alterInstruction flow instId.toNat fun inst =>
        (inst.actions actionId.toNat).map fun found => (inst, .action found)
  | .updateActionlist handle flowId instId entry _ =>
    alterFlow maps handle flowId.toNat fun flow =>
      alterInstruction flow instId.toNat fun inst =>
        (inst.actions entry.key).map fun _ =>
          ({ inst with actions := Function.update inst.actions entry.key (some entry) }, .ofSuccess)
  | .addStaticFlow _ none | .updateFlow _ none | .addMatchField _ _ none
  | .addAction _ _ none | .addInstruction _ _ none | .instructionAddAction _ _ _ none
  | .instructionRemoveAction _ _ _ none => (maps, .ofFailure)

/-! ## Lists as maps -/

def InstructionEntry.view (entry : InstructionEntry) : InstructionMap where
  values := entry.toInstructionValues
  actions := KeyedList.view ActionEntry.key id entry.actionList

def FlowEntry.view (entry : FlowEntry) : FlowMap where
  values := entry.toFlowValues
  fields := KeyedList.view MatchEntry.key id entry.matchFieldList
  instructions := KeyedList.view InstructionEntry.key InstructionEntry.view
    entry.instructionList
  actions := KeyedList.view ActionEntry.key id entry.actionList

def Store.view (store : Store) : Maps := fun handle =>
  match store handle with
  | .valid (some flows) => some (KeyedList.view FlowEntry.key FlowEntry.view flows)
  | _ => none

def Answer.view : EntryAnswer → MapAnswer
  | .ofSuccess => .ofSuccess
  | .ofFailure => .ofFailure
  | .flow found => .flow found.view
  | .field found => .field found
  | .instruction found => .instruction found.view
  | .action found => .action found

/-- No two actions of the instruction have the same id. -/
def InstructionEntry.Sound (entry : InstructionEntry) : Prop :=
  Keyed ActionEntry.key (fun _ => True) entry.actionList

/-- No two elements of one list of the flow have the same id. -/
structure FlowEntry.Sound (entry : FlowEntry) : Prop where
  fields : Keyed MatchEntry.key (fun _ => True) entry.matchFieldList
  instructions : Keyed InstructionEntry.key InstructionEntry.Sound entry.instructionList
  actions : Keyed ActionEntry.key (fun _ => True) entry.actionList

/-- No two elements of one list of the store have the same id. -/
def Store.Sound (store : Store) : Prop :=
  ∀ handle flows, store handle = .valid (some flows) → Keyed FlowEntry.key FlowEntry.Sound flows

/-- The call does what it is meant to do, and leaves the store sound. -/
def Refines (store : Store) (op : StoreOp) : Prop :=
  ∃ store' answer, step store op = some (store', answer) ∧ store'.Sound ∧
    specStep store.view op = (store'.view, answer.view)

/-- The look-up of a handle fails or leads to a datapath. -/
def Looked (store : Store) (handle : UInt64) : Prop :=
  store handle = .invalid ∨ ∃ flows, store handle = .valid (some flows)

/-! ## Steps down the nested lists -/

/-- A change of a flow that is an alteration of its map. -/
structure Alters (change : FlowEntry → Option (FlowEntry × EntryAnswer))
    (alter : FlowMap → Option (FlowMap × MapAnswer)) (flow : FlowEntry) : Prop where
  agrees : (change flow).map (Prod.map FlowEntry.view Answer.view) = alter flow.view
  keeps : ∀ flow' answer, change flow = some (flow', answer) →
    flow'.key = flow.key ∧ flow'.Sound

section Steps

variable {store : Store} {handle : UInt64} {flowId : UInt32}
  {change : FlowEntry → Option (FlowEntry × EntryAnswer)}
  {alter : FlowMap → Option (FlowMap × MapAnswer)} {flows : List FlowEntry}

theorem view_update :
    Store.view (update store handle (.valid (some flows))) =
      update store.view handle (some (KeyedList.view FlowEntry.key FlowEntry.view flows)) := by
  funext other
  rw [Store.view]
  by_cases here : other = handle
  · subst here
    rw [update_self, update_self]
  · rw [update_of_ne here, update_of_ne here, Store.view]

theorem Store.Sound.update (sound : store.Sound) (keyed : Keyed FlowEntry.key FlowEntry.Sound flows) :
    Store.Sound (update store handle (.valid (some flows))) := by
  intro other flows' is
  by_cases here : other = handle
  · subst here
    rw [update_self] at is
    cases is
    exact keyed
  · rw [update_of_ne here] at is
    exact sound other flows' is

theorem view_registered (registered : store handle = .valid (some flows)) :
    store.view handle = some (KeyedList.view FlowEntry.key FlowEntry.view flows) := by
  rw [Store.view, registered]

theorem view_invalid (invalid : store handle = .invalid) : store.view handle = none := by
  rw [Store.view, invalid]

/-- A change that refines a flow refines the store. -/
theorem onFlow_refines (sound : store.Sound) (looked : Looked store handle)
    (alters : ∀ flows, store handle = .valid (some flows) → ∀ flow ∈ flows,
      flow.key = flowId.toNat → flow.Sound → Alters change alter flow) :
    ∃ store' answer, onFlow store handle flowId change = some (store', answer) ∧
      store'.Sound ∧
      alterFlow store.view handle flowId.toNat alter = (store'.view, answer.view) := by
  rw [onFlow, alterFlow]
  rcases looked with invalid | ⟨flows, registered⟩
  · rw [invalid, view_invalid invalid]
    exact ⟨store, .ofFailure, rfl, sound, rfl⟩
  rw [registered, view_registered registered]
  have keyed := sound handle flows registered
  have alters := alters flows registered
  have agrees := @view_tryFirst _ _ _ _ _ _ FlowEntry.key FlowEntry.view
    FlowEntry.Sound flows flowId.toNat change alter Answer.view keyed
    (fun flow member sound same flow' answer changed =>
      ((alters flow member same sound).keeps flow' answer changed).1)
    (fun flow member sound same => (alters flow member same sound).agrees)
  simp only [bind_some]
  rw [← agrees]
  cases tried : tryFirst FlowEntry.key flowId.toNat change flows with
  | none => exact ⟨store, .ofFailure, rfl, sound, rfl⟩
  | some changed =>
  obtain ⟨flows', answer⟩ := changed
  have keyed' := (tryFirst_keyed keyed
    (fun flow member sound same flow' answer changed =>
      (alters flow member same sound).keeps flow' answer changed) tried).1
  refine ⟨_, answer, rfl, sound.update keyed', ?_⟩
  simp only [map_some, Prod.map_apply, view_update]

theorem onFirstFlow_eq (sound : store.Sound) :
    onFirstFlow store handle flowId change = onFlow store handle flowId change := by
  rw [onFirstFlow, onFlow]
  split
  · rename_i flows registered
    simp only [updateFirst_eq_tryFirst (sound handle flows registered)]
  · rfl
  · rfl

end Steps

/-! ## When an operation does what it is meant to do -/

/-- What holds of the flow that is addressed, if there is one. -/
def AtFlow (store : Store) (handle : UInt64) (flowId : UInt32) (P : FlowEntry → Prop) :
    Prop :=
  ∀ flows, store handle = .valid (some flows) → ∀ flow ∈ flows, flow.key = flowId.toNat → P flow

/-- An addition is to a datapath that is registered, of an id that is not there yet; an
update finds its element and has no other values than those that are copied; a flow that is
removed is there; actions of an instruction are not updated. -/
def Fits (store : Store) : StoreOp → Prop
  | .addStaticFlow handle (some flow) =>
    ∀ flows, store handle = .valid (some flows) → flow.key ∉ flows.map FlowEntry.key
  | .updateFlow handle (some info) =>
    AtFlow store handle info.flowId fun flow => copyFlow flow.toFlowValues info = info
  | .removeStaticFlow handle flowId =>
    ∃ flows, store handle = .valid (some flows) ∧ flowId.toNat ∈ flows.map FlowEntry.key
  | .addMatchField handle flowId (some info) =>
    store handle ≠ .invalid ∧ AtFlow store handle flowId fun flow =>
      info.key ∉ flow.matchFieldList.map MatchEntry.key
  | .addAction handle flowId (some info) =>
    store handle ≠ .invalid ∧ AtFlow store handle flowId fun flow =>
      info.key ∉ flow.actionList.map ActionEntry.key
  | .addInstruction handle flowId (some info) =>
    store handle ≠ .invalid ∧ AtFlow store handle flowId fun flow =>
      info.key ∉ flow.instructionList.map InstructionEntry.key
  | .updateInst handle flowId entry memory =>
    AtFlow store handle flowId fun flow =>
      (∀ inst ∈ flow.instructionList, inst.key = entry.key →
        ofFlowCopyInstruction inst.toInstructionValues entry = entry) ∧
      (memory = true → entry.key ∈ flow.instructionList.map InstructionEntry.key)
  | .updateActionset handle flowId entry memory =>
    AtFlow store handle flowId fun flow =>
      (∀ action ∈ flow.actionList, action.key = entry.key → ofFlowCopyAction action entry = entry) ∧
      (memory = true → entry.key ∈ flow.actionList.map ActionEntry.key)
  | .instructionAddAction handle flowId instId (some info) =>
    AtFlow store handle flowId fun flow =>
      ∀ inst ∈ flow.instructionList, inst.key = instId.toNat →
        info.key ∉ inst.actionList.map ActionEntry.key
  | .updateActionlist handle flowId instId _ _ =>
    AtFlow store handle flowId fun flow =>
      instId.toNat ∉ flow.instructionList.map InstructionEntry.key
  | _ => True

/-- A call fits the store, and its handle does not have the magic number 0 and the index of a
free entry, nor an index beyond the table of the datapaths. -/
structure Meets (store : Store) (op : StoreOp) : Prop where
  looked : ∀ handle, op.looksUp = some handle → Looked store handle
  fits : Fits store op

section Flows

variable {flow : FlowEntry} {inst : InstructionEntry} {k : Nat}

theorem view_id {α : Type} {key : α → Nat} {entries : List α} :
    KeyedList.view key id entries k = lookup key k entries := by
  rw [KeyedList.view, Option.map_id, id]

theorem found_agrees {α β : Type} {key : α → Nat} {abstract : α → β} {entries : List α}
    {answer : α → EntryAnswer} {answer' : β → MapAnswer}
    (viewed : ∀ found, (answer found).view = answer' (abstract found)) :
    ((lookup key k entries).map fun found => (flow, answer found)).map
        (Prod.map FlowEntry.view Answer.view) =
      (KeyedList.view key abstract entries k).map fun found => (flow.view, answer' found) := by
  simp only [KeyedList.view, Option.map_map]
  congr 1
  funext found
  simp only [Function.comp_apply, Prod.map_apply, viewed]

theorem found_keeps {α : Type} {key : α → Nat} {entries : List α} {answer : α → EntryAnswer}
    (sound : flow.Sound) (flow' : FlowEntry) (result : EntryAnswer)
    (changed : ((lookup key k entries).map fun found => (flow, answer found)) =
      some (flow', result)) : flow'.key = flow.key ∧ flow'.Sound := by
  obtain ⟨found, -, is⟩ := map_eq_some_iff.mp changed
  cases is
  exact ⟨rfl, sound⟩

theorem erased_agrees {α β : Type} {key : α → Nat} {abstract : α → β} {S : α → Prop}
    {entries : List α} {put : List α → FlowEntry} {put' : (Nat → Option β) → FlowMap}
    (keyed : Keyed key S entries)
    (viewed : ∀ left, (put left).view = put' (KeyedList.view key abstract left)) :
    ((eraseFirst key k entries).map fun left => (put left, Answer.ofSuccess)).map
        (Prod.map FlowEntry.view Answer.view) =
      (remove k (KeyedList.view key abstract entries)).map fun left =>
        (put' left, Answer.ofSuccess) := by
  rw [← view_eraseFirst keyed, Option.map_map, Option.map_map]
  congr 1
  funext left
  simp only [Function.comp_apply, Prod.map_apply, viewed]
  rfl

section

variable (sound : flow.Sound)

include sound

variable {id : UInt8}

theorem removeMatchField_alters :
    Alters (fun flow => (eraseFirst MatchEntry.key id.toNat flow.matchFieldList).map
        fun left => ({ flow with matchFieldList := left }, .ofSuccess))
      (fun flow => (remove id.toNat flow.fields).map fun left =>
        ({ flow with fields := left }, .ofSuccess)) flow where
  agrees := erased_agrees sound.fields fun _ => rfl
  keeps flow' result changed := by
    obtain ⟨left, erased, is⟩ := map_eq_some_iff.mp changed
    cases is
    exact ⟨rfl, eraseFirst_keyed sound.fields erased, sound.instructions, sound.actions⟩

theorem removeAction_alters :
    Alters (fun flow => (eraseFirst ActionEntry.key id.toNat flow.actionList).map
        fun left => ({ flow with actionList := left }, .ofSuccess))
      (fun flow => (remove id.toNat flow.actions).map fun left =>
        ({ flow with actions := left }, .ofSuccess)) flow where
  agrees := erased_agrees sound.actions fun _ => rfl
  keeps flow' result changed := by
    obtain ⟨left, erased, is⟩ := map_eq_some_iff.mp changed
    cases is
    exact ⟨rfl, sound.fields, sound.instructions, eraseFirst_keyed sound.actions erased⟩

theorem removeInstruction_alters :
    Alters (fun flow => (eraseFirst InstructionEntry.key id.toNat flow.instructionList).map
        fun left => ({ flow with instructionList := left }, .ofSuccess))
      (fun flow => (remove id.toNat flow.instructions).map fun left =>
        ({ flow with instructions := left }, .ofSuccess)) flow where
  agrees := erased_agrees sound.instructions fun _ => rfl
  keeps flow' result changed := by
    obtain ⟨left, erased, is⟩ := map_eq_some_iff.mp changed
    cases is
    exact ⟨rfl, sound.fields, eraseFirst_keyed sound.instructions erased, sound.actions⟩

theorem addMatchField_alters {info : MatchEntry}
    (fresh : info.key ∉ flow.matchFieldList.map MatchEntry.key) :
    Alters (fun flow => some ({ flow with
        matchFieldList := flow.matchFieldList ++ [info] }, .ofSuccess))
      (fun flow => some ({ flow with
        fields := update flow.fields info.key (some info) }, .ofSuccess)) flow where
  agrees := by
    simp only [map_some, Prod.map_apply, FlowEntry.view, view_append fresh]
    rfl
  keeps flow' result changed := by
    cases changed
    exact ⟨rfl, sound.fields.append fresh trivial, sound.instructions, sound.actions⟩

theorem addAction_alters {info : ActionEntry}
    (fresh : info.key ∉ flow.actionList.map ActionEntry.key) :
    Alters (fun flow => some ({ flow with
        actionList := flow.actionList ++ [info] }, .ofSuccess))
      (fun flow => some ({ flow with
        actions := update flow.actions info.key (some info) }, .ofSuccess))
      flow where
  agrees := by
    simp only [map_some, Prod.map_apply, FlowEntry.view, view_append fresh]
    rfl
  keeps flow' result changed := by
    cases changed
    exact ⟨rfl, sound.fields, sound.instructions, sound.actions.append fresh trivial⟩

theorem addInstruction_alters {info : InstructionValues}
    (fresh : info.key ∉ flow.instructionList.map InstructionEntry.key) :
    Alters (fun flow => some ({ flow with
        instructionList := flow.instructionList ++ [{ toInstructionValues := info }] },
        .ofSuccess))
      (fun flow => some ({ flow with
        instructions :=
          update flow.instructions info.key (some ⟨info, fun _ => none⟩) },
        .ofSuccess)) flow where
  agrees := by
    have appended := @view_append _ _ _ _ InstructionEntry.key InstructionEntry.view
      flow.instructionList { toInstructionValues := info } fresh
    simp only [map_some, Prod.map_apply, FlowEntry.view, appended]
    rfl
  keeps flow' result changed := by
    cases changed
    exact ⟨rfl, sound.fields, sound.instructions.append fresh keyed_nil, sound.actions⟩

end

/-- Copying over an entry is setting its key in the map. -/
theorem copied_agrees {α : Type} {key : α → Nat} {copy : α → α} {entries : List α}
    {k : Nat} {value : α} {put : List α → FlowEntry}
    {put' : (Nat → Option α) → FlowMap} (keyed : Keyed key (fun _ => True) entries)
    (copies : ∀ entry ∈ entries, key entry = k → copy entry = value) (same : key value = k)
    (viewed : ∀ left, (put left).view = put' (KeyedList.view key id left)) :
    ((updateFirst key k (fun entry => some (copy entry, Answer.ofSuccess)) entries).map
        (Prod.map put id)).map (Prod.map FlowEntry.view Answer.view) =
      (KeyedList.view key id entries k).map fun _ =>
        (put' (update (KeyedList.view key id entries) k (some value)), Answer.ofSuccess) := by
  have agrees := @view_tryFirst _ _ _ _ _ _ key id (fun _ => True) entries k
    (fun entry => some (copy entry, (Answer.ofSuccess : EntryAnswer)))
    (fun _ => some (value, (Answer.ofSuccess : MapAnswer))) Answer.view keyed
    (fun entry member _ here entry' result changed => by
      cases changed
      rw [copies entry member here, same, here])
    (fun entry member _ here => by
      simp only [map_some, Prod.map_apply, copies entry member here, id]
      rfl)
  rw [updateFirst_eq_tryFirst keyed]
  have step (outcome : Option (List α × EntryAnswer)) :
      (outcome.map (Prod.map put id)).map (Prod.map FlowEntry.view Answer.view) =
        (outcome.map (Prod.map (KeyedList.view key id) Answer.view)).map (Prod.map put' id) := by
    rw [Option.map_map, Option.map_map]
    congr 1
    funext ⟨left, answer⟩
    simp only [Function.comp_apply, Prod.map_apply, viewed, id]
  rw [step, agrees, change]
  cases KeyedList.view key id entries k with
  | none => rfl
  | some old => rfl

theorem copied_keyed {α : Type} {key : α → Nat} {S : α → Prop} {copy : α → α}
    {entries left : List α} {k : Nat} {answer : EntryAnswer} (keyed : Keyed key S entries)
    (keeps : ∀ entry, S entry → key (copy entry) = key entry ∧ S (copy entry))
    (done : updateFirst key k (fun entry => some (copy entry, Answer.ofSuccess)) entries =
      some (left, answer)) : Keyed key S left := by
  rw [updateFirst_eq_tryFirst keyed] at done
  refine (tryFirst_keyed keyed ?_ done).1
  intro entry _ sound _ entry' result changed
  cases changed
  exact keeps entry sound

/-- A change of an instruction that is an alteration of its map. -/
structure InstAlters (change : InstructionEntry → Option (InstructionEntry × EntryAnswer))
    (alter : InstructionMap → Option (InstructionMap × MapAnswer))
    (inst : InstructionEntry) : Prop where
  agrees : (change inst).map (Prod.map InstructionEntry.view Answer.view) = alter inst.view
  keeps : ∀ inst' answer, change inst = some (inst', answer) →
    inst'.key = inst.key ∧ inst'.Sound

section Instructions

variable {instId : Nat} {change : InstructionEntry → Option (InstructionEntry × EntryAnswer)}
  {alter : InstructionMap → Option (InstructionMap × MapAnswer)}

/-- A change of an instruction alters its flow. -/
theorem onInstruction_alters (sound : flow.Sound)
    (alters : ∀ inst ∈ flow.instructionList, inst.key = instId → inst.Sound →
      InstAlters change alter inst) :
    Alters (fun flow => onInstruction flow instId change)
      (fun flow => alterInstruction flow instId alter) flow := by
  have keyed := sound.instructions
  have agrees := @view_tryFirst _ _ _ _ _ _ InstructionEntry.key InstructionEntry.view
    InstructionEntry.Sound flow.instructionList instId change alter Answer.view keyed
    (fun inst member sound same inst' answer changed =>
      ((alters inst member same sound).keeps inst' answer changed).1)
    (fun inst member sound same => (alters inst member same sound).agrees)
  constructor
  case agrees =>
    rw [onInstruction, alterInstruction, updateFirst_eq_tryFirst keyed]
    change _ = (KeyedList.change instId alter (KeyedList.view InstructionEntry.key
      InstructionEntry.view flow.instructionList)).map _
    rw [← agrees, Option.map_map, Option.map_map]
    rfl
  case keeps =>
    intro flow' answer changed
    rw [onInstruction, updateFirst_eq_tryFirst keyed] at changed
    obtain ⟨⟨instructions, result⟩, tried, is⟩ := map_eq_some_iff.mp changed
    cases is
    have keyed' := (tryFirst_keyed keyed
      (fun inst member sound same inst' answer changed =>
        (alters inst member same sound).keeps inst' answer changed) tried).1
    exact ⟨rfl, sound.fields, keyed', sound.actions⟩

theorem addListedAction_alters {info : ActionEntry} (sound : inst.Sound)
    (fresh : info.key ∉ inst.actionList.map ActionEntry.key) :
    InstAlters (fun inst => some ({ inst with
        actionList := inst.actionList ++ [info] }, .ofSuccess))
      (fun inst => some ({ inst with
        actions := update inst.actions info.key (some info) }, .ofSuccess))
      inst where
  agrees := by
    simp only [map_some, Prod.map_apply, InstructionEntry.view, view_append fresh]
    rfl
  keeps inst' result changed := by
    cases changed
    exact ⟨rfl, Keyed.append sound fresh trivial⟩

theorem removeListedAction_alters {k : Nat} (sound : inst.Sound) :
    InstAlters (fun inst => (eraseFirst ActionEntry.key k inst.actionList).map
        fun left => ({ inst with actionList := left }, .ofSuccess))
      (fun inst => (remove k inst.actions).map fun left =>
        ({ inst with actions := left }, .ofSuccess)) inst where
  agrees := by
    have erased := @view_eraseFirst _ _ _ _ ActionEntry.key id _ inst.actionList k sound
    change _ = (remove k (KeyedList.view ActionEntry.key id inst.actionList)).map _
    rw [← erased, Option.map_map, Option.map_map]
    rfl
  keeps inst' result changed := by
    obtain ⟨left, erased, is⟩ := map_eq_some_iff.mp changed
    cases is
    exact ⟨rfl, eraseFirst_keyed sound erased⟩

variable {values : InstructionValues}

theorem copyInstruction_alters (sound : inst.Sound)
    (copies : ofFlowCopyInstruction inst.toInstructionValues values = values) :
    InstAlters (fun inst => some ({ inst with
        toInstructionValues := ofFlowCopyInstruction inst.toInstructionValues values },
        .ofSuccess))
      (fun inst => some ({ inst with values := values }, .ofSuccess)) inst where
  agrees := by
    simp only [map_some, Prod.map_apply, InstructionEntry.view, copies]
    rfl
  keeps inst' result changed := by
    cases changed
    exact ⟨rfl, sound⟩

variable {memory : Bool}

/-- Updating an instruction alters the one of its key. -/
theorem updateInst_alters (sound : flow.Sound)
    (copies : ∀ inst ∈ flow.instructionList, inst.key = values.key →
      ofFlowCopyInstruction inst.toInstructionValues values = values)
    (there : memory = true → values.key ∈ flow.instructionList.map InstructionEntry.key) :
    Alters (updateInst values memory)
      (fun flow => alterInstruction flow values.key fun inst =>
        some ({ inst with values := values }, .ofSuccess)) flow := by
  have updated := @onInstruction_alters flow values.key
    (fun inst => some ({ inst with
      toInstructionValues := ofFlowCopyInstruction inst.toInstructionValues values },
      .ofSuccess))
    (fun inst => some ({ inst with values := values }, .ofSuccess)) sound
    (fun inst member same sound => copyInstruction_alters sound (copies inst member same))
  have same : updateInst values memory flow = onInstruction flow values.key (fun inst =>
      some ({ inst with
        toInstructionValues := ofFlowCopyInstruction inst.toInstructionValues values },
        .ofSuccess)) := by
    rw [updateInst, onInstruction]
    cases tried : updateFirst InstructionEntry.key values.key (fun instInfo =>
        some (({ instInfo with
          toInstructionValues := ofFlowCopyInstruction instInfo.toInstructionValues values } :
            InstructionEntry), (Answer.ofSuccess : EntryAnswer))) flow.instructionList with
    | some changed => rfl
    | none =>
    cases memory with
    | false => rfl
    | true => exact absurd (there rfl) (updateFirst_none tried)
  exact ⟨by rw [same]; exact updated.agrees, by rw [same]; exact updated.keeps⟩

variable {entry : ActionEntry}

/-- Updating an action alters the one of its key. -/
theorem updateAction_alters (sound : flow.Sound)
    (copies : ∀ action ∈ flow.actionList, action.key = entry.key →
      ofFlowCopyAction action entry = entry)
    (there : memory = true → entry.key ∈ flow.actionList.map ActionEntry.key) :
    Alters (updateAction entry memory)
      (fun flow => (flow.actions entry.key).map fun _ =>
        ({ flow with actions := update flow.actions entry.key (some entry) },
          .ofSuccess)) flow := by
  have agrees := @copied_agrees _ ActionEntry.key (ofFlowCopyAction · entry)
    flow.actionList entry.key entry (fun actions => { flow with actionList := actions })
    (fun actions => { flow.view with actions := actions }) sound.actions copies rfl
    (fun _ => rfl)
  have same : updateAction entry memory flow =
      (updateFirst ActionEntry.key entry.key
        (fun action => some (ofFlowCopyAction action entry, Answer.ofSuccess))
        flow.actionList).map
        (Prod.map (fun actions => { flow with actionList := actions }) id) := by
    rw [updateAction]
    cases tried : updateFirst ActionEntry.key entry.key
        (fun action => some (ofFlowCopyAction action entry, (Answer.ofSuccess : EntryAnswer)))
        flow.actionList with
    | some changed => rfl
    | none =>
    cases memory with
    | false => rfl
    | true => exact absurd (there rfl) (updateFirst_none tried)
  constructor
  case agrees =>
    rw [same, agrees]
    rfl
  case keeps =>
  intro flow' answer changed
  rw [same] at changed
  obtain ⟨⟨actions, result⟩, tried, is⟩ := map_eq_some_iff.mp changed
  cases is
  have keyed := @copied_keyed _ ActionEntry.key _ (ofFlowCopyAction · entry) _ _ _ _
    sound.actions (fun action _ => ⟨rfl, trivial⟩) tried
  exact ⟨rfl, sound.fields, sound.instructions, keyed⟩

theorem updateListedAction_alters {alter : InstructionMap → Option (InstructionMap × MapAnswer)}
    (absent : instId ∉ flow.instructionList.map InstructionEntry.key) :
    Alters (updateListedAction instId entry memory)
      (fun flow => alterInstruction flow instId alter) flow := by
  have missing : lookup InstructionEntry.key instId flow.instructionList = none := by
    rw [lookup, List.find?_eq_none]
    intro inst inside is
    exact absent (List.mem_map.mpr ⟨inst, inside, of_decide_eq_true is⟩)
  have nothing : updateListedAction instId entry memory flow = none := by
    rw [updateListedAction, missing, bind_none]
  have nowhere : flow.view.instructions instId = none := view_of_absent absent
  constructor
  case agrees =>
    simp only [nothing, alterInstruction, change, nowhere, bind_none, map_none]
  case keeps =>
    intro flow' answer changed
    rw [nothing] at changed
    cases changed

/-- Removing an action is the change of one instruction of one flow. -/
theorem removeInstructionAction_eq {flows : List FlowEntry} {flowId actionId : Nat}
    (keyed : Keyed FlowEntry.key FlowEntry.Sound flows) :
    removeInstructionAction flowId instId actionId flows =
      tryFirst FlowEntry.key flowId (fun flowEntry =>
        onInstruction flowEntry instId fun instEntry =>
          (eraseFirst ActionEntry.key actionId instEntry.actionList).map fun left =>
            ({ instEntry with actionList := left }, .ofSuccess)) flows := by
  induction flows with
  | nil => rfl
  | cons flowEntry rest ih =>
  obtain ⟨fresh, sound, others⟩ := keyed.of_cons
  rw [removeInstructionAction, tryFirst, ← ih others]
  by_cases same : flowEntry.key = flowId
  · simp only [if_pos same]
    cases found : lookup InstructionEntry.key instId flowEntry.instructionList with
    | some inst =>
      generalize onInstruction flowEntry instId _ = outcome
      cases outcome <;> rfl
    | none =>
    have absent : onInstruction flowEntry instId (fun instEntry =>
        (eraseFirst ActionEntry.key actionId instEntry.actionList).map fun left =>
          ({ instEntry with actionList := left }, .ofSuccess)) = none := by
      have missing : instId ∉ flowEntry.instructionList.map InstructionEntry.key := by
        intro member
        obtain ⟨inst, inside, is⟩ := List.mem_map.mp member
        have no := List.find?_eq_none.mp found inst inside
        exact no (decide_eq_true is)
      rw [onInstruction, updateFirst_eq_tryFirst sound.instructions,
        tryFirst_absent missing, map_none]
    have none_ : removeInstructionAction flowId instId actionId rest = none := by
      rw [ih others]
      apply tryFirst_absent
      rw [← same]
      exact fresh
    rw [absent, none_]
    rfl
  · simp only [if_neg same]

/-- Reading an action of an instruction alters nothing. -/
theorem getListedAction_alters {k : Nat} (sound : flow.Sound) :
    Alters (fun flow => (tryFirst InstructionEntry.key instId (fun instInfo =>
        (lookup ActionEntry.key k instInfo.actionList).map fun found =>
          (instInfo, (Answer.action found : EntryAnswer))) flow.instructionList).map
        fun (_, answer) => (flow, answer))
      (fun flow => alterInstruction flow instId fun inst =>
        (inst.actions k).map fun found => (inst, .action found)) flow := by
  have updated := @onInstruction_alters flow instId
    (fun inst => (lookup ActionEntry.key k inst.actionList).map fun found =>
      (inst, Answer.action found))
    (fun inst => (inst.actions k).map fun found => (inst, .action found)) sound
    (fun inst member same sound =>
      { agrees := by
          change _ = (KeyedList.view ActionEntry.key id inst.actionList k).map _
          rw [view_id, Option.map_map]
          rfl
        keeps := by
          intro inst' answer changed
          obtain ⟨found, -, is⟩ := map_eq_some_iff.mp changed
          cases is
          exact ⟨rfl, sound⟩ })
  have same : (tryFirst InstructionEntry.key instId (fun instInfo =>
        (lookup ActionEntry.key k instInfo.actionList).map fun found =>
          (instInfo, (Answer.action found : EntryAnswer))) flow.instructionList).map
        (fun (_, answer) => (flow, answer)) =
      onInstruction flow instId fun inst =>
        (lookup ActionEntry.key k inst.actionList).map fun found =>
          (inst, Answer.action found) := by
    rw [onInstruction, updateFirst_eq_tryFirst sound.instructions]
    cases tried : tryFirst InstructionEntry.key instId (fun instInfo =>
        (lookup ActionEntry.key k instInfo.actionList).map fun found =>
          (instInfo, (Answer.action found : EntryAnswer))) flow.instructionList with
    | none => rfl
    | some changed =>
    have unchanged := tryFirst_same (fun inst inst' answer changed => by
      obtain ⟨found, -, is⟩ := map_eq_some_iff.mp changed
      cases is
      rfl) tried
    simp only [map_some, unchanged]
  constructor
  case agrees =>
    simp only [same]
    exact updated.agrees
  case keeps =>
    simp only [same]
    exact updated.keeps

end Instructions

end Flows

/-! ## Every call -/

section Calls

variable {store : Store} {handle : UInt64} {flowId : UInt32}

section

variable (sound : store.Sound)

include sound

theorem refines_failure {op : StoreOp} (called : step store op = some (store, .ofFailure))
    (meant : specStep store.view op = (store.view, .ofFailure)) : Refines store op :=
  ⟨store, .ofFailure, called, sound, meant⟩

theorem addStaticFlow_refines {flow : FlowValues} (looked : Looked store handle)
    (fresh : ∀ flows, store handle = .valid (some flows) → flow.key ∉ flows.map FlowEntry.key) :
    Refines store (.addStaticFlow handle (some flow)) := by
  rw [Refines, step, ofDatapathAddStaticFlow, specStep]
  rcases looked with invalid | ⟨flows, registered⟩
  · rw [invalid, view_invalid invalid]
    exact ⟨store, .ofFailure, rfl, sound, rfl⟩
  rw [registered, view_registered registered]
  have new : FlowEntry.key { toFlowValues := flow.added } ∉ flows.map FlowEntry.key :=
    fresh flows registered
  have keyed := (sound handle flows registered).append new ⟨keyed_nil, keyed_nil, keyed_nil⟩
  refine ⟨_, .ofSuccess, rfl, sound.update keyed, ?_⟩
  have appended := @view_append _ _ _ _ FlowEntry.key FlowEntry.view flows _ new
  rw [view_update, appended]
  rfl

theorem removeStaticFlow_refines
    (there : ∃ flows, store handle = .valid (some flows) ∧ flowId.toNat ∈ flows.map FlowEntry.key) :
    Refines store (.removeStaticFlow handle flowId) := by
  obtain ⟨flows, registered, member⟩ := there
  have keyed := sound handle flows registered
  have removed := @view_eraseFirst _ _ _ _ FlowEntry.key FlowEntry.view _ flows flowId.toNat keyed
  rw [Refines, step, ofDatapathRemoveStaticFlow, specStep]
  rw [view_registered registered, registered, bind_some, ← removed]
  cases erased : eraseFirst FlowEntry.key flowId.toNat flows with
  | none => exact absurd member (eraseFirst_none erased)
  | some flows' =>
  refine ⟨update store handle (.valid (some flows')), .ofSuccess, ?_,
    sound.update (eraseFirst_keyed keyed erased), ?_⟩
  · simp only [erased]
  · rw [map_some, view_update]
    rfl

theorem addToFlow_refines {append : FlowEntry → FlowEntry}
    {alter : FlowMap → Option (FlowMap × MapAnswer)} (looked : Looked store handle)
    (registered : store handle ≠ .invalid)
    (alters : AtFlow store handle flowId fun flow => flow.Sound →
      Alters (fun flow => some (append flow, .ofSuccess)) alter flow) :
    ∃ store' answer, addToFlow store handle flowId append = some (store', answer) ∧
      store'.Sound ∧
      alterFlow store.view handle flowId.toNat alter = (store'.view, answer.view) := by
  obtain ⟨flows, is⟩ := looked.resolve_left registered
  rw [addToFlow, is]
  rw [onFirstFlow_eq sound]
  exact onFlow_refines sound looked alters

/-- Every call that meets its condition refines the maps. -/
theorem step_refines {op : StoreOp} (meets : Meets store op) : Refines store op := by
  obtain ⟨looked, meets⟩ := meets
  cases op with
  | addStaticFlow handle flow =>
    cases flow with
    | none => exact refines_failure sound rfl rfl
    | some flow => exact addStaticFlow_refines sound (looked _ rfl) meets
  | updateFlow handle info =>
    cases info with
    | none => exact refines_failure sound rfl rfl
    | some info =>
    rw [Refines, step, ofDatapathUpdateFlow, onFirstFlow_eq sound]
    refine onFlow_refines sound (looked _ rfl) fun flows registered flow member same sound => ?_
    have copies := meets flows registered flow member same
    constructor
    case agrees =>
      simp only [map_some, Prod.map_apply, copies, FlowEntry.view]
      rfl
    case keeps =>
      intro flow' answer changed
      cases changed
      exact ⟨rfl, sound.fields, sound.instructions, sound.actions⟩
  | removeStaticFlow handle flowId => exact removeStaticFlow_refines sound meets
  | getFlow handle flowId =>
    rw [Refines, step, ofGetFlow, onFirstFlow_eq sound]
    refine onFlow_refines sound (looked _ rfl) fun flows registered flow member same sound => ?_
    constructor
    case agrees => rfl
    case keeps =>
      intro flow' answer changed
      cases changed
      exact ⟨rfl, sound⟩
  | addMatchField handle flowId info =>
    cases info with
    | none => exact refines_failure sound rfl rfl
    | some info =>
      exact addToFlow_refines sound (looked _ rfl) meets.1
        fun flows registered flow member same sound =>
          addMatchField_alters sound (meets.2 flows registered flow member same)
  | addAction handle flowId info =>
    cases info with
    | none => exact refines_failure sound rfl rfl
    | some info =>
      exact addToFlow_refines sound (looked _ rfl) meets.1
        fun flows registered flow member same sound =>
          addAction_alters sound (meets.2 flows registered flow member same)
  | addInstruction handle flowId info =>
    cases info with
    | none => exact refines_failure sound rfl rfl
    | some info =>
      exact addToFlow_refines sound (looked _ rfl) meets.1
        fun flows registered flow member same sound =>
          addInstruction_alters sound (meets.2 flows registered flow member same)
  | removeMatchField handle flowId id =>
    exact onFlow_refines sound (looked _ rfl) fun _ _ _ _ _ sound => removeMatchField_alters sound
  | removeAction handle flowId id =>
    exact onFlow_refines sound (looked _ rfl) fun _ _ _ _ _ sound => removeAction_alters sound
  | removeInstruction handle flowId id =>
    exact onFlow_refines sound (looked _ rfl) fun _ _ _ _ _ sound => removeInstruction_alters sound
  | getMatchField handle flowId id =>
    exact onFlow_refines sound (looked _ rfl) fun _ _ _ _ _ sound =>
      ⟨found_agrees fun _ => rfl, found_keeps sound⟩
  | getInst handle flowId id =>
    exact onFlow_refines sound (looked _ rfl) fun _ _ _ _ _ sound =>
      ⟨found_agrees fun _ => rfl, found_keeps sound⟩
  | getAction handle flowId id =>
    exact onFlow_refines sound (looked _ rfl) fun _ _ _ _ _ sound =>
      ⟨found_agrees fun _ => rfl, found_keeps sound⟩
  | updateInst handle flowId entry memory =>
    rw [Refines, step, ofFlowUpdateInst, onFirstFlow_eq sound]
    refine onFlow_refines sound (looked _ rfl) fun flows registered flow member same sound => ?_
    have met := meets flows registered flow member same
    exact updateInst_alters sound met.1 met.2
  | updateActionset handle flowId entry memory =>
    rw [Refines, step, ofFlowUpdateActionset, onFirstFlow_eq sound]
    refine onFlow_refines sound (looked _ rfl) fun flows registered flow member same sound => ?_
    have met := meets flows registered flow member same
    exact updateAction_alters sound met.1 met.2
  | instructionAddAction handle flowId instId info =>
    cases info with
    | none => exact refines_failure sound rfl rfl
    | some info =>
    exact onFlow_refines sound (looked _ rfl) fun flows registered flow member same sound =>
      onInstruction_alters sound fun inst inside here sound =>
        addListedAction_alters sound (meets flows registered flow member same inst inside here)
  | instructionRemoveAction handle flowId instId info =>
    cases info with
    | none => exact refines_failure sound rfl rfl
    | some info =>
    have called : step store (.instructionRemoveAction handle flowId instId (some info)) =
        onFlow store handle flowId fun flowEntry =>
          onInstruction flowEntry instId.toNat fun instEntry =>
            (eraseFirst ActionEntry.key info.key instEntry.actionList).map fun left =>
              ({ instEntry with actionList := left }, .ofSuccess) := by
      rw [step, ofFlowInstructionRemoveActionFromList, onFlow]
      split
      · rename_i flows registered
        simp only [removeInstructionAction_eq (sound handle flows registered)]
      · rfl
      · rfl
    rw [Refines, called]
    exact onFlow_refines sound (looked _ rfl) fun _ _ _ _ _ sound =>
      onInstruction_alters sound fun _ _ _ sound => removeListedAction_alters sound
  | getActionFromActionlist handle flowId instId actionId =>
    exact onFlow_refines sound (looked _ rfl) fun _ _ _ _ _ sound => getListedAction_alters sound
  | updateActionlist handle flowId instId entry memory =>
    exact onFlow_refines sound (looked _ rfl) fun flows registered flow member same _ =>
      updateListedAction_alters (meets flows registered flow member same)

end

end Calls

/-! ## Every sequence of calls -/

/-- The answers of calls one after the other, unless one of them follows a null pointer. -/
def run : Store → List StoreOp → Option (Store × List EntryAnswer)
  | store, [] => some (store, [])
  | store, op :: rest =>
    match step store op with
    | none => none
    | some (store', answer) => (run store' rest).map (Prod.map id (answer :: ·))

/-- The answers that calls are meant to have. -/
def specRun : Maps → List StoreOp → Maps × List MapAnswer
  | maps, [] => (maps, [])
  | maps, op :: rest =>
    let (maps', answer) := specStep maps op
    Prod.map id (answer :: ·) (specRun maps' rest)

/-- Every call meets the condition in the store that it finds. -/
def MeetsAll : Store → List StoreOp → Prop
  | _, [] => True
  | store, op :: rest =>
    Meets store op ∧
      ∀ store' answer, step store op = some (store', answer) → MeetsAll store' rest

/-- Calls that meet the condition treat the store as nested maps: no null pointer is
followed, the answers are those of the maps, and so is the store that is left. -/
theorem flow_store_nested_maps {store : Store} {ops : List StoreOp} (sound : store.Sound)
    (meets : MeetsAll store ops) :
    ∃ store' answers, run store ops = some (store', answers) ∧ store'.Sound ∧
      specRun store.view ops = (store'.view, answers.map Answer.view) := by
  induction ops generalizing store with
  | nil => exact ⟨store, [], rfl, sound, rfl⟩
  | cons op rest ih =>
  obtain ⟨store', answer, called, sound', meant⟩ := step_refines sound meets.1
  obtain ⟨ended, answers, ran, endSound, maps⟩ :=
    ih sound' (meets.2 store' answer called)
  refine ⟨ended, answer :: answers, ?_, endSound, ?_⟩
  · rw [run, called]
    simp only [ran, map_some, Prod.map_apply, id]
  · rw [specRun, meant]
    simp only [maps, Prod.map_apply, id, List.map_cons]

/-- One datapath, without flows. -/
def oneDatapath : Store := fun handle => if handle = 1 then .valid (some []) else .invalid

theorem oneDatapath_sound : oneDatapath.Sound := by
  intro handle flows is
  rw [oneDatapath] at is
  split at is
  · cases is
    exact keyed_nil
  · cases is

/-- A match field of a flow is added, found and removed. -/
def fieldOps : List StoreOp :=
  [.addStaticFlow 1 (some { flowId := 7 }),
    .addMatchField 1 7 (some
      { fieldId := 2, fieldType := 0, ui32Data := 3
        arrayWidth := zeroArray_width, addrWidth := zeroAddr_width }),
    .getMatchField 1 7 2, .removeMatchField 1 7 2]

/-- A run with instructions and a field on one datapath. -/
theorem flow_store_nested_maps_field :
    ∃ store' answers, run oneDatapath fieldOps = some (store', answers) ∧ store'.Sound ∧
      specRun oneDatapath.view fieldOps = (store'.view, answers.map Answer.view) := by
  apply flow_store_nested_maps oneDatapath_sound
  have looked (store : Store) (there : ∃ flows, store 1 = .valid (some flows)) (op : StoreOp)
      (asks : op.looksUp = some 1) : ∀ handle, op.looksUp = some handle → Looked store handle := by
    intro handle is
    cases asks.symm.trans is
    exact .inr there
  refine ⟨⟨looked _ ⟨_, rfl⟩ _ rfl, ?_⟩, ?_⟩
  · intro flows is
    cases is
    exact List.not_mem_nil
  rintro _ _ ⟨⟩
  refine ⟨⟨looked _ ⟨_, rfl⟩ _ rfl, nofun, ?_⟩, ?_⟩
  · intro flows is flow member _
    cases is
    rw [List.mem_singleton.mp member]
    exact List.not_mem_nil
  rintro _ _ ⟨⟩
  refine ⟨⟨looked _ ⟨_, rfl⟩ _ rfl, trivial⟩, ?_⟩
  rintro _ _ ⟨⟩
  refine ⟨⟨looked _ ⟨_, rfl⟩ _ rfl, trivial⟩, ?_⟩
  rintro _ _ ⟨⟩
  trivial

/-- The removal of a flow that is not there removes the only one that is. -/
theorem absent_flow_removes_other :
    ¬ ∃ store' answers,
      run oneDatapath [.addStaticFlow 1 (some { flowId := 7 }), .removeStaticFlow 1 8] =
        some (store', answers) ∧
      specRun oneDatapath.view [.addStaticFlow 1 (some { flowId := 7 }), .removeStaticFlow 1 8] =
        (store'.view, answers.map Answer.view) := by
  rintro ⟨store', answers, ran, maps⟩
  cases ran
  have left := congrArg (fun result => ((result.1 1).bind (· 7)).isSome) maps
  exact absurd left (by decide)

end OpenFlowController.FlowStore
