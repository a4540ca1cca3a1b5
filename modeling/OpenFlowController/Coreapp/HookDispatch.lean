/-
Module: Coreapp.HookDispatch
Purpose: The dispatch of packet-in and flow-removed messages to the hooks of a table, with the
  release of the message, and exactly when both are right.
Source: messages/of_async_msgapi.c; messages/of_cntlr_msg.c; dprm/dprmapi.c; ttp/ttpapi.c
Trusted boundary: the message is read, the handle of its datapath resolves, and hooks do not
  register hooks
-/
import OpenFlowController.Coreapp.CntlrEvent

namespace OpenFlowController.Coreapp

open Include Library List

/-- What the dispatch uses of a datapath: the pattern of its domain, and the ids of its tables
with their ids in the domain. -/
structure HookDatapath where
  ttpName : String
  tableList : List (UInt8 × UInt8)

/-- A message.  Only a packet-in is looked at for an OXM match. -/
inductive AsyncMsg where
  | packetIn (tableId : UInt8) (oxmMatch : Bool)
  | flowRemoved (tableId : UInt8)

/-- The hooks that are called, and how often the dispatcher releases the message. -/
structure Dispatch where
  called : List Nat
  released : Nat

def ofpttAll : UInt8 := 255

/-- `get_domaintableid_by_dptableid`, where `OF_FAILURE` is -1. -/
def getDomaintableidByDptableid (datapath : HookDatapath) (dpTableId : UInt8) : Int :=
  match datapath.tableList.find? (·.1 = dpTableId) with
  | none => -1
  | some entry => entry.2.toNat

/-- How often the message is released after these calls, by what the last one answered. -/
def releasedAfter (answer : Nat → Int) (called : List Nat) : Nat :=
  let retval := (called.getLast?.map answer).getD 2
  if retval = 3 ∨ retval = 2 then 1 else 0

/-- The loop over the hooks and what follows it. -/
def callHooks (s : AppHooks) (table : String × UInt8) (msgId : UInt8) (answer : Nat → Int) :
    Dispatch :=
  let called := handoverMsgToApp s table msgId answer
  { called := called, released := releasedAfter answer called }

/-- `handover_pkt_in_msg_to_app`, with the id in the domain in an `int8_t`; a failure is
`none`. -/
def handoverPktInMsgToApp (s : AppHooks) (datapath : HookDatapath) (tableId : UInt8)
    (answer : Nat → Int) : Option Dispatch :=
  let domainTableId := (getDomaintableidByDptableid datapath tableId).bmod 256
  let table := (datapath.ttpName, UInt8.ofNat domainTableId.toNat)
  if domainTableId < 0 then none
  else if s.ttpTables table then some (callHooks s table 1 answer)
  else none

def handoverFlowRemovedEventToApp (s : AppHooks) (datapath : HookDatapath) (tableId : UInt8)
    (answer : Nat → Int) : Option Dispatch :=
  let table := (datapath.ttpName, tableId)
  if s.ttpTables table then some (callHooks s table 2 answer) else none

/-- `of_handle_pkt_in_msg` and `of_handle_flow_removed_event`; after a failure they reset the
channel. -/
def ofHandleMsg (s : AppHooks) (datapath : HookDatapath) (answer : Nat → Int) : AsyncMsg → Dispatch
  | .packetIn tableId oxmMatch =>
    if tableId = ofpttAll ∨ oxmMatch = false then ⟨[], 1⟩
    else (handoverPktInMsgToApp s datapath tableId answer).getD ⟨[], 0⟩
  | .flowRemoved tableId =>
    if tableId = ofpttAll then ⟨[], 0⟩
    else (handoverFlowRemovedEventToApp s datapath tableId answer).getD ⟨[], 0⟩

/-! ## What a dispatch promises -/

/-- The hooks of each table and message. -/
abbrev TableHooks := String × UInt8 → UInt8 → List Nat

/-- A registration that succeeds adds the hook it allocates; a new table has none. -/
def registeredAfter (s : AppHooks) (registered : TableHooks) : HookCall → TableHooks
  | .addTable ttpName tableId =>
    fun table msgId => if table = (ttpName, tableId) then [] else registered table msgId
  | .registerMessageHook domainHandle tableId reg =>
    match messageHookOwner s domainHandle tableId with
    | .ok table =>
      if (ofRegisterAsynchronousMessageHook s domainHandle tableId reg).1 = .success then
        withHook registered table reg.eventType
          (s.messages.allocated :: registered table reg.eventType)
      else registered
    | .error _ => registered
  | _ => registered

def dispatchStep (run : AppHooks × TableHooks) (call : HookCall) : AppHooks × TableHooks :=
  (hookStep run.1 call, registeredAfter run.1 run.2 call)

/-- The registries after these calls. -/
def hookRun (calls : List HookCall) : AppHooks × TableHooks :=
  calls.foldl dispatchStep (.empty, fun _ _ => [])

/-- The hooks of a table of the datapath, which is a table of the domain. -/
def domainHooks (hooks : TableHooks) (datapath : HookDatapath) (tableId msgId : UInt8) :
    List Nat :=
  match datapath.tableList.find? (·.1 = tableId) with
  | none => []
  | some entry => hooks (datapath.ttpName, entry.2) msgId

/-- The hooks that a message is for: none where it names no single table, or is a packet-in
without an OXM match. -/
def meantHooks (hooks : TableHooks) (datapath : HookDatapath) : AsyncMsg → List Nat
  | .packetIn tableId oxmMatch =>
    if tableId = ofpttAll ∨ oxmMatch = false then [] else domainHooks hooks datapath tableId 1
  | .flowRemoved tableId =>
    if tableId = ofpttAll then [] else domainHooks hooks datapath tableId 2

/-- The nodes up to and including the first that stops. -/
def upToFirst (stops : Nat → Bool) : List Nat → List Nat
  | [] => []
  | node :: rest => if stops node then [node] else node :: upToFirst stops rest

/-- The registered hooks are called by decreasing priority, up to the first that does not pass
the message on, and the message is released once unless one consumed it. -/
def DispatchRight (run : AppHooks × TableHooks) (datapath : HookDatapath) (answer : Nat → Int)
    (msg : AsyncMsg) (dispatch : Dispatch) : Prop :=
  ∃ nodes, nodes.Perm (meantHooks run.2 datapath msg) ∧
    Descending run.1.messages.hooks nodes ∧
    dispatch.called = upToFirst (answer · ≠ 2) nodes ∧
    dispatch.released = if ∃ app ∈ dispatch.called, answer app = 1 then 0 else 1

/-! ## When it is kept -/

/-- The hooks in the list of a table. -/
def listedHooks (s : AppHooks) : TableHooks :=
  fun table msgId => s.messages.scan (s.messages.appList table msgId)

/-- The first hook that does not pass the message on, if any, consumes or drops it. -/
def StopsDefined (answer : Nat → Int) (nodes : List Nat) : Prop :=
  ∀ app, nodes.find? (answer · ≠ 2) = some app → answer app = 1 ∨ answer app = 3

/-- A packet-in is for no hooks, or its table has an id below 128 in the domain, and is in the
pattern; a flow-removed message names one table, the id of the datapath is in the pattern, and
its hooks are those that the message is for. -/
def DispatchFits (s : AppHooks) (datapath : HookDatapath) (answer : Nat → Int) : AsyncMsg → Prop
  | .packetIn tableId oxmMatch =>
    tableId = ofpttAll ∨ oxmMatch = false ∨
      ∃ entry, datapath.tableList.find? (·.1 = tableId) = some entry ∧ entry.2.toNat < 128 ∧
        s.ttpTables (datapath.ttpName, entry.2) ∧
        StopsDefined answer (listedHooks s (datapath.ttpName, entry.2) 1)
  | .flowRemoved tableId =>
    tableId ≠ ofpttAll ∧ s.ttpTables (datapath.ttpName, tableId) ∧
      StopsDefined answer (listedHooks s (datapath.ttpName, tableId) 2) ∧
      listedHooks s (datapath.ttpName, tableId) 2 =
        domainHooks (listedHooks s) datapath tableId 2

/-! ## One dispatch -/

theorem callApps_eq {pNext : PNext} {nodes : List Nat} {start : Option Nat} {fuel : Nat}
    (stops : Int → Bool) (answer : Nat → Int) (chain : Seg pNext start nodes none)
    (enough : nodes.length ≤ fuel) :
    HookTable.callApps pNext stops answer fuel start =
      upToFirst (fun app => stops (answer app)) nodes := by
  induction nodes generalizing start fuel with
  | nil =>
    subst chain
    cases fuel <;> rfl
  | cons app rest ih =>
  rcases chain with ⟨rfl, restChain⟩
  cases fuel with
  | zero => cases enough
  | succ fuel => simp [HookTable.callApps, upToFirst, ih restChain (by simpa using enough)]

theorem head?_upToFirst (stops : Nat → Bool) (nodes : List Nat) :
    (upToFirst stops nodes).head? = nodes.head? := by
  cases nodes with
  | nil => rfl
  | cons app rest =>
    unfold upToFirst
    split <;> rfl

theorem releasedAfter_cons {answer : Nat → Int} {app : Nat} (pass : answer app = 2)
    (called : List Nat) : releasedAfter answer (app :: called) = releasedAfter answer called := by
  cases called with
  | nil => simp [releasedAfter, pass]
  | cons next rest => simp [releasedAfter, getLast?_cons_cons]

/-- The hooks that are called are the right ones, and the message is released as it should be. -/
def CalledRight (answer : Nat → Int) (called nodes : List Nat) : Prop :=
  called = upToFirst (answer · ≠ 2) nodes ∧
    releasedAfter answer called = if ∃ app ∈ called, answer app = 1 then 0 else 1

/-- The calls are right exactly when the application that stops them answers 1 or 3. -/
theorem calledRight_iff (answer : Nat → Int) (nodes : List Nat) :
    CalledRight answer (upToFirst (fun app => answer app = 1 ∨ answer app = 3) nodes) nodes ↔
      StopsDefined answer nodes := by
  induction nodes with
  | nil => simp [CalledRight, upToFirst, releasedAfter, StopsDefined]
  | cons app rest ih =>
  by_cases pass : answer app = 2
  · simpa [CalledRight, StopsDefined, upToFirst, pass, releasedAfter_cons pass] using ih
  have defined : StopsDefined answer (app :: rest) ↔ answer app = 1 ∨ answer app = 3 := by
    simp [StopsDefined, pass]
  rw [defined]
  by_cases known : answer app = 1 ∨ answer app = 3
  · rcases known with one | three
    · simp [CalledRight, upToFirst, releasedAfter, one]
    · simp [CalledRight, upToFirst, releasedAfter, three]
  refine iff_of_false ?_ known
  rintro ⟨called, released⟩
  have alone : upToFirst (fun app => answer app = 1 ∨ answer app = 3) (app :: rest) =
      [app] := by
    rw [called]
    simp [upToFirst, pass]
  rw [alone] at released
  simp [releasedAfter, pass, not_or.mp known] at released

theorem meantHooks_cases (datapath : HookDatapath) (msg : AsyncMsg) :
    (∀ hooks, meantHooks hooks datapath msg = []) ∨
      ∃ table msgId, ∀ hooks, meantHooks hooks datapath msg = hooks table msgId := by
  cases msg <;> simp only [meantHooks, domainHooks] <;> split <;> try split
  all_goals first | exact .inl fun _ => rfl | exact .inr ⟨_, _, fun _ => rfl⟩

/-! ## The hooks of a run -/

/-- The lists hold the registered hooks. -/
structure Registered (run : AppHooks × TableHooks) (nodes : TableHooks) : Prop where
  inv : HookInv run.1.messages nodes
  perm : ∀ table msgId, (nodes table msgId).Perm (run.2 table msgId)

/-- Every call keeps the chains. -/
theorem Registered.step {run : AppHooks × TableHooks} {nodes : TableHooks}
    (holds : Registered run nodes) (call : HookCall) :
    ∃ nodes, Registered (dispatchStep run call) nodes := by
  cases call with
  | registerDomain | unregisterDomain | registerEventHook => exact ⟨nodes, holds.inv, holds.perm⟩
  | addTable ttpName tableId =>
    refine ⟨_, initOwner_hooks holds.inv (ttpName, tableId), fun table msgId => ?_⟩
    by_cases same : table = (ttpName, tableId)
    · simp [dispatchStep, registeredAfter, same]
    · simpa [dispatchStep, registeredAfter, same] using holds.perm table msgId
  | registerMessageHook domainHandle tableId reg =>
  rcases register_cases messageHookLimits run.1.messages
      (messageHookOwner run.1 domainHandle tableId) reg with
    ⟨same, refused⟩ | ⟨table, hook, is, accepts, priority, added⟩
  · refine ⟨nodes, ?_, ?_⟩
    · simpa [dispatchStep, hookStep, ofRegisterAsynchronousMessageHook, same] using holds.inv
    cases is : messageHookOwner run.1 domainHandle tableId with
    | error status => simpa [dispatchStep, registeredAfter, is] using holds.perm
    | ok table =>
    have failed := (refused table is).1
    rw [is] at failed
    simpa [dispatchStep, registeredAfter, is, ofRegisterAsynchronousMessageHook, failed]
      using holds.perm
  have new := accepts.newPriority
  rw [holds.inv.scan_eq, ← priority] at new
  rw [is] at added
  rcases addHook_inv holds.inv table reg.eventType hook new with ⟨front, back, parts, later, -⟩
  refine ⟨withHook nodes table reg.eventType (front ++ run.1.messages.allocated :: back), ?_,
    fun other msgId => ?_⟩
  · simpa [dispatchStep, hookStep, ofRegisterAsynchronousMessageHook, is, added] using later
  have perm := holds.perm other msgId
  by_cases same : other = table ∧ msgId = reg.eventType
  · rcases same with ⟨rfl, rfl⟩
    rw [parts] at perm
    simpa [dispatchStep, registeredAfter, is, ofRegisterAsynchronousMessageHook, added,
      withHook] using perm_middle.trans (perm.cons _)
  · simpa [dispatchStep, registeredAfter, is, ofRegisterAsynchronousMessageHook, added,
      withHook, same] using perm

variable {run : AppHooks × TableHooks} {nodes : TableHooks}

theorem not_right {datapath : HookDatapath} {answer : Nat → Int} {msg : AsyncMsg} :
    ¬ DispatchRight run datapath answer msg ⟨[], 0⟩ := by
  rintro ⟨_, -, -, -, released⟩
  simp at released

variable (holds : Registered run nodes)

include holds

theorem Registered.listed : listedHooks run.1 = nodes := by
  funext table msgId
  exact holds.inv.scan_eq table msgId

theorem Registered.handover (table : String × UInt8) (msgId : UInt8) (answer : Nat → Int) :
    handoverMsgToApp run.1 table msgId answer =
      upToFirst (fun app => answer app = 1 ∨ answer app = 3) (nodes table msgId) := by
  have eq := callApps_eq (fun retval => retval = 1 ∨ retval = 3) answer
    (holds.inv.links table msgId).chain (holds.inv.length_le table msgId)
  exact eq

theorem Registered.right_iff (datapath : HookDatapath) (answer : Nat → Int) (msg : AsyncMsg)
    (dispatch : Dispatch) :
    DispatchRight run datapath answer msg dispatch ↔
      dispatch.called = upToFirst (answer · ≠ 2) (meantHooks nodes datapath msg) ∧
        dispatch.released = if ∃ app ∈ dispatch.called, answer app = 1 then 0 else 1 := by
  obtain ⟨perm, sorted⟩ : (meantHooks nodes datapath msg).Perm (meantHooks run.2 datapath msg) ∧
      Descending run.1.messages.hooks (meantHooks nodes datapath msg) := by
    rcases meantHooks_cases datapath msg with none_ | ⟨table, msgId, eq⟩
    · rw [none_, none_]
      exact ⟨.nil, .nil⟩
    · rw [eq, eq]
      exact ⟨holds.perm table msgId, holds.inv.descending table msgId⟩
  constructor
  · rintro ⟨others, othersPerm, othersSorted, right⟩
    have same : others = meantHooks nodes datapath msg :=
      (othersPerm.trans perm.symm).eq_of_pairwise
        (fun _ _ _ _ lower higher => absurd (UInt8.lt_trans lower higher) (UInt8.lt_irrefl _))
        othersSorted sorted
    exact same ▸ right
  · exact fun right => ⟨_, perm, sorted, right⟩

theorem Registered.callHooks_iff {datapath : HookDatapath} {answer : Nat → Int} {msg : AsyncMsg}
    {table : String × UInt8} {msgId : UInt8} :
    DispatchRight run datapath answer msg (callHooks run.1 table msgId answer) ↔
      CalledRight answer
        (upToFirst (fun app => answer app = 1 ∨ answer app = 3) (nodes table msgId))
        (meantHooks nodes datapath msg) := by
  rw [holds.right_iff, callHooks, holds.handover]
  rfl

/-- A packet-in is dispatched right exactly when it fits. -/
theorem Registered.packetIn_iff (datapath : HookDatapath) (answer : Nat → Int) (tableId : UInt8)
    (oxmMatch : Bool) :
    DispatchRight run datapath answer (.packetIn tableId oxmMatch)
        (ofHandleMsg run.1 datapath answer (.packetIn tableId oxmMatch)) ↔
      DispatchFits run.1 datapath answer (.packetIn tableId oxmMatch) := by
  by_cases early : tableId = ofpttAll ∨ oxmMatch = false
  · rw [holds.right_iff]
    exact iff_of_true (by simp [ofHandleMsg, meantHooks, early, upToFirst]) (early.imp id .inl)
  obtain ⟨notAll, rfl⟩ : tableId ≠ ofpttAll ∧ oxmMatch = true := by simpa using early
  rw [DispatchFits, ofHandleMsg, if_neg early, handoverPktInMsgToApp, getDomaintableidByDptableid]
  cases found : datapath.tableList.find? (·.1 = tableId) with
  | none => simp [notAll, not_right]
  | some entry =>
  have below := entry.2.toNat_lt
  have meant : meantHooks nodes datapath (.packetIn tableId true) =
      nodes (datapath.ttpName, entry.2) 1 := by
    simp [meantHooks, notAll, domainHooks, found]
  by_cases small : entry.2.toNat < 128
  case neg =>
    have negative : (entry.2.toNat : Int).bmod 256 < 0 := by
      simp only [Int.bmod]
      omega
    simp [notAll, negative, small, not_right]
  have kept : (entry.2.toNat : Int).bmod 256 = entry.2.toNat := by
    simp only [Int.bmod]
    omega
  have positive : ¬ (entry.2.toNat : Int) < 0 := by omega
  by_cases inPattern : run.1.ttpTables (datapath.ttpName, entry.2)
  case neg => simp [notAll, kept, positive, inPattern, not_right]
  simpa [notAll, kept, positive, inPattern, small, holds.listed, holds.callHooks_iff, meant]
    using calledRight_iff answer (nodes (datapath.ttpName, entry.2) 1)

/-- A flow-removed message is dispatched right exactly when it fits. -/
theorem Registered.flowRemoved_iff (datapath : HookDatapath) (answer : Nat → Int)
    (tableId : UInt8) :
    DispatchRight run datapath answer (.flowRemoved tableId)
        (ofHandleMsg run.1 datapath answer (.flowRemoved tableId)) ↔
      DispatchFits run.1 datapath answer (.flowRemoved tableId) := by
  rw [DispatchFits, ofHandleMsg, handoverFlowRemovedEventToApp, holds.listed]
  by_cases all : tableId = ofpttAll
  case pos => simp [all, not_right]
  by_cases inPattern : run.1.ttpTables (datapath.ttpName, tableId)
  case neg => simp [all, inPattern, not_right]
  have meant : meantHooks nodes datapath (.flowRemoved tableId) =
      domainHooks nodes datapath tableId 2 := by
    simp [meantHooks, all]
  rw [if_neg all, if_pos inPattern, Option.getD_some, holds.callHooks_iff, meant]
  constructor
  · intro right
    have heads := congrArg head? right.1
    rw [head?_upToFirst, head?_upToFirst] at heads
    have same : nodes (datapath.ttpName, tableId) 2 = domainHooks nodes datapath tableId 2 := by
      unfold domainHooks at heads ⊢
      split at heads
      · simpa using heads
      cases first : (nodes (datapath.ttpName, tableId) 2).head? with
      | none =>
        rw [first] at heads
        rw [head?_eq_none_iff.mp first, head?_eq_none_iff.mp heads.symm]
      | some app =>
      have table := (holds.inv.disjoint _ _ _ _ app (mem_of_head? first)
        (mem_of_head? (heads ▸ first))).1
      rw [table]
    rw [← same] at right
    exact ⟨all, inPattern, (calledRight_iff answer _).mp right, same⟩
  · rintro ⟨-, -, stops, same⟩
    rw [← same]
    exact (calledRight_iff answer _).mpr stops

omit holds

theorem registered_run (calls : List HookCall) : ∃ nodes, Registered (hookRun calls) nodes := by
  refine foldlRecOn calls dispatchStep (motive := fun run => ∃ nodes, Registered run nodes) ?_ ?_
  · exact ⟨fun _ _ => [], empty_inv, fun _ _ => .nil⟩
  · rintro run ⟨nodes, holds⟩ call -
    exact holds.step call

/-- A hook registration names a registered domain.  Another handle may be followed to a null
entry or out of the domain table. -/
def NamesDomain (run : AppHooks × TableHooks) : HookCall → Prop
  | .registerEventHook domainHandle _ | .registerMessageHook domainHandle _ _ =>
    run.1.domains domainHandle ≠ none
  | _ => True

instance (run : AppHooks × TableHooks) : ∀ call, Decidable (NamesDomain run call)
  | .registerEventHook domainHandle _ | .registerMessageHook domainHandle _ _ =>
    inferInstanceAs (Decidable (run.1.domains domainHandle ≠ none))
  | .registerDomain .. | .unregisterDomain _ | .addTable .. => isTrue trivial

/-- After every run of calls on registered domains, whatever they return, the list of a table goes
through its registered hooks once each, by decreasing priority, and no hook is in two lists. -/
theorem hooks_listed_by_priority (calls : List HookCall)
    (_named : Along dispatchStep NamesDomain (.empty, fun _ _ => []) calls) :
    let run := hookRun calls
    run.1.messages.undefined = false ∧
      (∀ table msgId, (listedHooks run.1 table msgId).Perm (run.2 table msgId) ∧
        Descending run.1.messages.hooks (listedHooks run.1 table msgId)) ∧
      ∀ table msgId other otherId app, app ∈ listedHooks run.1 table msgId →
        app ∈ listedHooks run.1 other otherId → other = table ∧ otherId = msgId := by
  intro run
  obtain ⟨nodes, holds⟩ := registered_run calls
  have listed : listedHooks run.1 = nodes := holds.listed
  rw [listed]
  exact ⟨holds.inv.defined, fun table msgId =>
    ⟨holds.perm table msgId, holds.inv.descending table msgId⟩, holds.inv.disjoint⟩

/-- Two hooks for a message of one table, the second with the higher priority, and one that has
the priority of the first and is refused. -/
def threeHooks : List HookCall :=
  let hook (priority : UInt8) : Registration :=
    { eventType := 1, priority := priority, callBack := some 0, cbkArg1 := 0, cbkArg2 := 0
      calloc := true }
  [.registerDomain 1 "l3_router", .addTable "l3_router" 0, .registerMessageHook 1 0 (hook 2),
    .registerMessageHook 1 0 (hook 3), .registerMessageHook 1 0 (hook 2)]

theorem threeHooks_listed :
    let run := hookRun threeHooks
    (listedHooks run.1 ("l3_router", 0) 1).Perm [1, 0] ∧
      Descending run.1.messages.hooks (listedHooks run.1 ("l3_router", 0) 1) := by
  have listed := (hooks_listed_by_priority threeHooks
    (by decide)).2.1 ("l3_router", 0) 1
  have registered : (hookRun threeHooks).2 ("l3_router", 0) 1 = [1, 0] := by decide
  rw [registered] at listed
  exact listed

/-- After every run of calls, a message is dispatched right exactly where it fits. -/
theorem hook_dispatch_right_iff (calls : List HookCall) (datapath : HookDatapath)
    (answer : Nat → Int) (msg : AsyncMsg) :
    DispatchRight (hookRun calls) datapath answer msg
        (ofHandleMsg (hookRun calls).1 datapath answer msg) ↔
      DispatchFits (hookRun calls).1 datapath answer msg := by
  obtain ⟨nodes, holds⟩ := registered_run calls
  cases msg with
  | packetIn tableId oxmMatch => exact holds.packetIn_iff datapath answer tableId oxmMatch
  | flowRemoved tableId => exact holds.flowRemoved_iff datapath answer tableId

/-- A packet-in of a table that is not in the list of its datapath is not released. -/
theorem unmapped_packetIn_leaked :
    ¬ ∀ (calls : List HookCall) (datapath : HookDatapath) (answer : Nat → Int) (msg : AsyncMsg),
      DispatchRight (hookRun calls) datapath answer msg
        (ofHandleMsg (hookRun calls).1 datapath answer msg) := by
  intro right
  exact not_right (right [] ⟨"pattern", []⟩ (fun _ => 2) (.packetIn 5 true))

end OpenFlowController.Coreapp
