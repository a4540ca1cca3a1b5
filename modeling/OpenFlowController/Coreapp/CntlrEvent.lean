/-
Module: Coreapp.CntlrEvent
Purpose: The registration of application callbacks for events and asynchronous messages, and
  their dispatch.  In every run the list of each owner and event is sorted by strictly decreasing
  priority; its count is its length exactly as long as every hook goes to the tail.
Source: ofproto/src/coreapp/cntlr_event.c, ofproto/src/messages/of_async_msgapi.c,
  ofproto/src/dprm/dprm.c, ofproto/src/include/cntlr_list.h
Trusted boundary: callbacks answer and do not register, and a registration names a registered
  domain or gets the error for an unknown one
-/
import OpenFlowController.Include.CntlrList

namespace OpenFlowController.Coreapp

open Include Library

/-- `struct of_app_hook_info`; a callback is known by a number. -/
structure AppHookInfo where
  priority : UInt8
  callBack : Nat
  cbkArg1 : Nat
  cbkArg2 : Nat

/-- The lists of application hooks that each owner keeps for its events, and the
memory of the hooks in them. -/
structure HookTable (ω : Type) where
  appList : ω → UInt8 → OfList
  allocated : Nat
  hooks : Nat → AppHookInfo
  pNext : PNext
  undefined : Bool

/-- What a registration answers. -/
inductive HookStatus where
  | success
  | failure
  | invalidEventType
  | invalidPriority
  | nullCallback
  | invalidDomain
  | duplicatePriority
  | memAllocError
deriving DecidableEq

/-- The bounds that a registration is checked against. -/
structure HookLimits where
  firstEventType : UInt8
  lastEventType : UInt8
  minPriority : Nat
  maxPriority : Nat

/-- The arguments of a registration, and whether `calloc` gives memory for it.  A null
callback is `none`. -/
structure Registration where
  eventType : UInt8
  priority : UInt8
  callBack : Option Nat
  cbkArg1 : Nat
  cbkArg2 : Nat
  calloc : Bool

namespace HookTable

variable {ω : Type} [DecidableEq ω]

def empty : HookTable ω :=
  { appList := fun _ _ => ofListInit
    allocated := 0
    hooks := fun _ => ⟨0, 0, 0, 0⟩
    pNext := fun _ => none
    undefined := false }

/-- `cntlr_domain_init` and `of_async_msg_table_init`: the lists of an owner start
empty. -/
def initOwner (table : HookTable ω) (owner : ω) : HookTable ω :=
  { table with
    appList := fun other => if other = owner then fun _ => ofListInit else table.appList other }

/-- The hooks of a list in the order of a scan. -/
def scan (table : HookTable ω) (list : OfList) : List Nat :=
  ofListScan table.pNext table.allocated list.head

/-- `of_get_event_app_hook`, which is also `of_get_async_msg_app_hook`. -/
def getAppHook (table : HookTable ω) (list : OfList) (priority : UInt8) : Option Nat :=
  (table.scan list).find? (fun app => (table.hooks app).priority = priority)

/-- The loop of `cntlr_insert_app_event_hook_in_a_dscnding_priority`, which is also the
loop of `of_insert_app_hook_in_a_dscnding_priority`. -/
def insertInADscndingPriority (hooks : Nat → AppHookInfo) (list : OfList) (app : Nat)
    (pNext : PNext) : Nat → Option Nat → Option Nat → Option (OfList × PNext)
  | 0, _, _ => none
  | _ + 1, _, none => ofAppendNodeToList list app pNext
  | fuel + 1, prev, some curr =>
    if (hooks curr).priority < (hooks app).priority then
      some (ofListInsertNode list prev app (some curr) pNext)
    else
      insertInADscndingPriority hooks list app pNext fuel (some curr) (pNext curr)

/-- A new hook of an owner, from `calloc`. -/
def addHook (table : HookTable ω) (owner : ω) (eventType : UInt8) (hook : AppHookInfo) :
    HookTable ω :=
  let app := table.allocated
  let hooks := Function.update table.hooks app hook
  let pNext := Function.update table.pNext app none
  let list := table.appList owner eventType
  match insertInADscndingPriority hooks list app pNext (app + 1) none list.head with
  | none => { table with undefined := true }
  | some (list, pNext) =>
    { table with
      appList := fun other otherType =>
        if other = owner ∧ otherType = eventType then list
        else table.appList other otherType
      allocated := app + 1
      hooks := hooks
      pNext := pNext }

/-- The body of the two registrations; `owner` is what the lookup of the owner
answered. -/
def register (limits : HookLimits) (table : HookTable ω) (owner : Except HookStatus ω)
    (reg : Registration) : HookStatus × HookTable ω :=
  if reg.eventType < limits.firstEventType ∨ limits.lastEventType < reg.eventType then
    (.invalidEventType, table)
  else if reg.priority.toNat < limits.minPriority ∨
      limits.maxPriority < reg.priority.toNat then
    (.invalidPriority, table)
  else
    match reg.callBack, owner with
    | none, _ => (.nullCallback, table)
    | some _, .error status => (status, table)
    | some callBack, .ok owner =>
      if (table.getAppHook (table.appList owner reg.eventType) reg.priority).isSome then
        (.duplicatePriority, table)
      else if reg.calloc = false then
        (.memAllocError, table)
      else
        (.success,
          table.addHook owner reg.eventType
            { priority := reg.priority
              callBack := callBack
              cbkArg1 := reg.cbkArg1
              cbkArg2 := reg.cbkArg2 })

/-- The loop that calls the applications of a list, each with what it answers, until
one of them stops it. -/
def callApps (pNext : PNext) (stops : Int → Bool) (answer : Nat → Int) : Nat → Option Nat → List Nat
  | 0, _ => []
  | _ + 1, none => []
  | fuel + 1, some app =>
    if stops (answer app) then [app]
    else app :: callApps pNext stops answer fuel (pNext app)

end HookTable

/-! ## The two registries -/

/-- The registered domains with the names of their table type patterns, the tables of
these, and the two kinds of hooks. -/
structure AppHooks where
  domains : UInt64 → Option String
  ttpTables : String × UInt8 → Bool
  events : HookTable UInt64
  messages : HookTable (String × UInt8)

def AppHooks.empty : AppHooks :=
  { domains := fun _ => none
    ttpTables := fun _ => false
    events := .empty
    messages := .empty }

/-- `CNTLR_FIRST_EVENT_TYPE`, `CNTLR_LAST_EVENT_TYPE` and `APP_EVENT_*_PRIORITY`. -/
def eventHookLimits : HookLimits :=
  { firstEventType := 1, lastEventType := 10, minPriority := 1, maxPriority := 16 }

/-- `OF_FIRST_ASYNC_EVENT` and `OF_LAST_ASYNC_EVENT` as `ttpldef.h` defines them, and
`OF_ASYNC_MSG_APP_*_PRIORITY`. -/
def messageHookLimits : HookLimits :=
  { firstEventType := 1, lastEventType := 4, minPriority := 1, maxPriority := 256 }

/-- The domain of an event hook, from `get_domain_byhandle`. -/
def eventHookOwner (s : AppHooks) (domainHandle : UInt64) : Except HookStatus UInt64 :=
  match s.domains domainHandle with
  | none => .error .invalidDomain
  | some _ => .ok domainHandle

/-- The table of a message hook, from `get_domain_byhandle` and `get_ttp_tbl_info`. -/
def messageHookOwner (s : AppHooks) (domainHandle : UInt64) (tableId : UInt8) :
    Except HookStatus (String × UInt8) :=
  match s.domains domainHandle with
  | none => .error .invalidDomain
  | some ttpName =>
    if s.ttpTables (ttpName, tableId) then .ok (ttpName, tableId) else .error .failure

def cntlrRegisterAsynchronousEventHook (s : AppHooks) (domainHandle : UInt64)
    (reg : Registration) : HookStatus × AppHooks :=
  let answer := s.events.register eventHookLimits (eventHookOwner s domainHandle) reg
  (answer.1, { s with events := answer.2 })

def ofRegisterAsynchronousMessageHook (s : AppHooks) (domainHandle : UInt64)
    (tableId : UInt8) (reg : Registration) : HookStatus × AppHooks :=
  let answer :=
    s.messages.register messageHookLimits (messageHookOwner s domainHandle tableId) reg
  (answer.1, { s with messages := answer.2 })

/-- `inform_event_to_app`: the applications that are called, which answer
`EVENT_CONSUMED_BY_APP` to stop it. -/
def informEventToApp (s : AppHooks) (domainHandle : UInt64) (eventType : UInt8)
    (answer : Nat → Int) : List Nat :=
  HookTable.callApps s.events.pNext (fun retval => retval = 2) answer s.events.allocated
    (s.events.appList domainHandle eventType).head

/-- The loop of `handover_pkt_in_msg_to_app` and `handover_flow_removed_event_to_app`,
which `OF_ASYNC_MSG_CONSUMED` and `OF_ASYNC_MSG_DROP` stop. -/
def handoverMsgToApp (s : AppHooks) (table : String × UInt8) (msgId : UInt8)
    (answer : Nat → Int) : List Nat :=
  HookTable.callApps s.messages.pNext (fun retval => retval = 1 ∨ retval = 3) answer
    s.messages.allocated (s.messages.appList table msgId).head

/-- The calls that change the registries. -/
inductive HookCall where
  | registerDomain (domainHandle : UInt64) (ttpName : String)
  | unregisterDomain (domainHandle : UInt64)
  | addTable (ttpName : String) (tableId : UInt8)
  | registerEventHook (domainHandle : UInt64) (reg : Registration)
  | registerMessageHook (domainHandle : UInt64) (tableId : UInt8) (reg : Registration)

/-- One call. -/
def hookStep (s : AppHooks) (call : HookCall) : AppHooks :=
  match call with
  | .registerDomain domainHandle ttpName =>
    { s with
      domains := Function.update s.domains domainHandle (some ttpName)
      events := s.events.initOwner domainHandle }
  | .unregisterDomain domainHandle =>
    { s with domains := Function.update s.domains domainHandle none }
  | .addTable ttpName tableId =>
    { s with
      ttpTables := Function.update s.ttpTables (ttpName, tableId) true
      messages := s.messages.initOwner (ttpName, tableId) }
  | .registerEventHook domainHandle reg =>
    (cntlrRegisterAsynchronousEventHook s domainHandle reg).2
  | .registerMessageHook domainHandle tableId reg =>
    (ofRegisterAsynchronousMessageHook s domainHandle tableId reg).2

open List

/-- Strictly decreasing priority, so no two hooks have the same. -/
def Descending (hooks : Nat → AppHookInfo) (nodes : List Nat) : Prop :=
  nodes.Pairwise fun app later => (hooks later).priority < (hooks app).priority

/-- The applications are called in the order of the list, up to the first that stops
the dispatch. -/
structure CalledInOrder (stops : Int → Bool) (answer : Nat → Int)
    (nodes called : List Nat) : Prop where
  inOrder : called <+: nodes
  once : called.Nodup
  passed : ∀ app ∈ called.dropLast, stops (answer app) = false
  stopped : called = nodes ∨ ∃ last, called.getLast? = some last ∧ stops (answer last) = true

/-- What a list of hooks is for. -/
def ListConsistent {ω : Type} (table : HookTable ω) (list : OfList) : Prop :=
  ∃ nodes, list.Links table.pNext nodes ∧ Descending table.hooks nodes ∧
    list.count = nodes.length ∧
    ∀ stops answer,
      CalledInOrder stops answer nodes
        (HookTable.callApps table.pNext stops answer table.allocated list.head)

/-! ## Dispatch -/

/-- The walk calls the applications in order, up to the first that stops it. -/
theorem callApps_inOrder {pNext : PNext} {nodes : List Nat} {start : Option Nat} {fuel : Nat}
    (stops : Int → Bool) (answer : Nat → Int) (chain : Seg pNext start nodes none)
    (nodup : nodes.Nodup) (enough : nodes.length ≤ fuel) :
    CalledInOrder stops answer nodes (HookTable.callApps pNext stops answer fuel start) := by
  induction nodes generalizing start fuel with
  | nil =>
    subst chain
    have none_ : HookTable.callApps pNext stops answer fuel none = [] := by
      cases fuel <;> rfl
    rw [none_]
    exact ⟨prefix_rfl, nodup_nil, by simp, .inl rfl⟩
  | cons app rest ih =>
  rcases chain with ⟨rfl, restChain⟩
  cases fuel with
  | zero => cases enough
  | succ fuel =>
  have later := ih restChain nodup.of_cons (Nat.le_of_succ_le_succ enough)
  unfold HookTable.callApps
  split
  · rename_i stop
    exact ⟨⟨rest, rfl⟩, nodup_singleton app, by simp, .inr ⟨app, rfl, stop⟩⟩
  rename_i passes
  generalize HookTable.callApps pNext stops answer fuel (pNext app) = called
    at later ⊢
  constructor
  case inOrder => exact cons_prefix_cons.mpr ⟨rfl, later.inOrder⟩
  case once =>
    refine nodup_cons.mpr ⟨?_, later.once⟩
    intro again
    exact (nodup_cons.mp nodup).1 (later.inOrder.subset again)
  case passed =>
    cases called with
    | nil => simp
    | cons next more =>
    intro other member
    rcases mem_cons.mp member with rfl | member
    · simpa using passes
    · exact later.passed other member
  case stopped =>
    rcases later.stopped with all | ⟨last, isLast, stop⟩
    · exact .inl (by rw [all])
    · refine .inr ⟨last, ?_, stop⟩
      cases called with
      | nil => cases isLast
      | cons next more => rw [getLast?_cons_cons, isLast]

/-! ## Insertion -/

section Insertion

variable {hooks : Nat → AppHookInfo} {list : OfList} {pNext : PNext} {app : Nat}

theorem links_next {before after : List Nat} {curr : Nat}
    (links : list.Links pNext (before ++ curr :: after)) : pNext curr = after.head? := by
  rcases Seg.append_iff.mp links.chain with ⟨_, _, rest⟩
  have behind := rest.2.start_eq
  rwa [Option.or_none] at behind

/-- The loop puts the hook in front of the first of lower priority, or at the tail. -/
theorem insertInADscndingPriority_links {fuel : Nat} {before after : List Nat}
    (links : list.Links pNext (before ++ after)) (fresh : app ∉ before ++ after)
    (unlinked : pNext app = none) (enough : after.length < fuel) :
    ∃ later pNext' front back,
      HookTable.insertInADscndingPriority hooks list app pNext fuel before.getLast?
          after.head? = some (later, pNext') ∧
      after = front ++ back ∧ later.Links pNext' (before ++ (front ++ app :: back)) ∧
      (∀ other ∈ front, ¬ (hooks other).priority < (hooks app).priority) ∧
      (∀ next ∈ back.head?, (hooks next).priority < (hooks app).priority) ∧
      later.count = (if back = [] then uint32Succ list.count else list.count) ∧
      ∀ other, other ∉ app :: (before ++ after) → pNext' other = pNext other := by
  induction after generalizing before fuel with
  | nil =>
    cases fuel with
    | zero => cases enough
    | succ fuel =>
    rw [append_nil] at links fresh
    rcases ofAppendNodeToList_links links fresh unlinked with
      ⟨later, pNext', appended, laterLinks, counted, frame⟩
    refine ⟨later, pNext', [], [], appended, rfl, laterLinks, by simp, by simp, counted, ?_⟩
    intro other outside
    apply frame
    intro member
    exact outside (by simp [member])
  | cons curr rest ih =>
  cases fuel with
  | zero => cases enough
  | succ fuel =>
  unfold HookTable.insertInADscndingPriority
  by_cases lower : (hooks curr).priority < (hooks app).priority
  · rcases ofListInsertNode_links links fresh with
      ⟨later, pNext', inserted, laterLinks, counted, frame⟩
    refine ⟨later, pNext', [], curr :: rest, ?_, rfl, laterLinks, by simp, ?_, ?_, ?_⟩
    · rw [head?_cons]
      dsimp only
      rw [if_pos lower, inserted]
    · intro next isNext
      cases isNext
      exact lower
    · rw [if_neg (by simp), counted]
    intro other outside
    apply frame
    intro member
    apply outside
    rcases mem_cons.mp member with same | member
    · simp [same]
    · simp [member]
  · have next := links_next links
    have split : before ++ curr :: rest = (before ++ [curr]) ++ rest := by simp
    rw [split] at links fresh
    rcases ih links fresh (Nat.lt_of_succ_lt_succ enough) with
      ⟨later, pNext', front, back, looped, parts, laterLinks, higher, below, counted, frame⟩
    refine ⟨later, pNext', curr :: front, back, ?_, ?_, ?_, ?_, below, counted, ?_⟩
    · rw [head?_cons]
      dsimp only
      rw [if_neg lower, next]
      rwa [getLast?_concat] at looped
    · rw [parts, cons_append]
    · simpa using laterLinks
    · intro other member
      rcases mem_cons.mp member with rfl | member
      · exact lower
      · exact higher other member
    · intro other outside
      apply frame
      rwa [← split]

end Insertion

/-! ## The invariant of a table of hooks -/

/-- The hooks that the lists of a table go through. -/
structure HookInv {ω : Type} (table : HookTable ω) (nodes : ω → UInt8 → List Nat) : Prop where
  defined : table.undefined = false
  links : ∀ owner event, (table.appList owner event).Links table.pNext (nodes owner event)
  known : ∀ owner event, ∀ app ∈ nodes owner event, app < table.allocated
  disjoint : ∀ owner event other otherEvent app,
    app ∈ nodes owner event → app ∈ nodes other otherEvent →
      other = owner ∧ otherEvent = event
  descending : ∀ owner event, Descending table.hooks (nodes owner event)

/-- Every count is the length of its list. -/
def Counted {ω : Type} (table : HookTable ω) (nodes : ω → UInt8 → List Nat) : Prop :=
  ∀ owner event, (table.appList owner event).count = (nodes owner event).length

/-- Every list of a table is what it is for. -/
def TableConsistent {ω : Type} (table : HookTable ω) : Prop :=
  table.undefined = false ∧
    ∀ owner event, ListConsistent table (table.appList owner event)

namespace HookInv

variable {ω : Type} {table : HookTable ω} {nodes : ω → UInt8 → List Nat}

section

variable (inv : HookInv table nodes)

include inv

theorem length_le (owner : ω) (event : UInt8) : (nodes owner event).length ≤ table.allocated := by
  have nodup := (inv.links owner event).nodup
  have inside : nodes owner event ⊆ range table.allocated := by
    intro app member
    exact mem_range.mpr (inv.known owner event app member)
  simpa using (nodup.subperm inside).length_le

theorem scan_eq (owner : ω) (event : UInt8) :
    table.scan (table.appList owner event) = nodes owner event :=
  (inv.links owner event).scan (inv.length_le owner event)

theorem length_small (owner : ω) (event : UInt8) : (nodes owner event).length ≤ 256 := by
  have distinct : ((nodes owner event).map fun app =>
      (table.hooks app).priority.toNat).Nodup := by
    rw [List.Nodup, pairwise_map]
    refine (inv.descending owner event).imp ?_
    intro app later lower
    exact Nat.ne_of_gt (UInt8.lt_iff_toNat_lt.mp lower)
  have inside : ((nodes owner event).map fun app => (table.hooks app).priority.toNat) ⊆
      range 256 := by
    intro priority member
    rcases mem_map.mp member with ⟨app, _, rfl⟩
    exact mem_range.mpr (UInt8.toNat_lt _)
  simpa using (distinct.subperm inside).length_le

theorem consistent (counted : Counted table nodes) : TableConsistent table := by
  refine ⟨inv.defined, ?_⟩
  intro owner event
  have links := inv.links owner event
  refine ⟨nodes owner event, links, inv.descending owner event, counted owner event, ?_⟩
  intro stops answer
  exact callApps_inOrder stops answer links.chain links.nodup (inv.length_le owner event)

theorem counted_of_consistent (consistent : TableConsistent table) : Counted table nodes := by
  intro owner event
  rcases consistent.2 owner event with ⟨others, links, _, count, _⟩
  rw [count, links.unique (inv.links owner event)]

end

end HookInv

section Registration

variable {ω : Type} [DecidableEq ω] {table : HookTable ω} {nodes : ω → UInt8 → List Nat}

omit [DecidableEq ω] in
theorem empty_inv : HookInv (HookTable.empty : HookTable ω) (fun _ _ => []) where
  defined := rfl
  links := fun _ _ => OfList.Links.init _
  known := by simp
  disjoint := by simp
  descending := fun _ _ => List.Pairwise.nil

attribute [local simp] HookTable.initOwner

/-- A new owner has no hooks, and the others keep theirs. -/
theorem initOwner_hooks (inv : HookInv table nodes) (owner : ω) :
    HookInv (table.initOwner owner)
      (fun other event => if other = owner then [] else nodes other event) where
  defined := inv.defined
  links := by
    intro other event
    by_cases same : other = owner
    · simpa [same] using OfList.Links.init table.pNext
    · simpa [same] using inv.links other event
  known := by
    intro other event app member
    by_cases same : other = owner
    · simp [same] at member
    · exact inv.known other event app (by simpa [same] using member)
  disjoint := by
    intro other event third thirdEvent app member again
    by_cases same : other = owner
    · simp [same] at member
    · by_cases sameThird : third = owner
      · simp [sameThird] at again
      · exact inv.disjoint other event third thirdEvent app (by simpa [same] using member)
          (by simpa [sameThird] using again)
  descending := by
    intro other event
    by_cases same : other = owner
    · simp [same, Descending]
    · simpa [same] using inv.descending other event

theorem initOwner_inv (inv : HookInv table nodes) (counted : Counted table nodes) (owner : ω) :
    ∃ nodes', HookInv (table.initOwner owner) nodes' ∧
      Counted (table.initOwner owner) nodes' := by
  refine ⟨_, initOwner_hooks inv owner, ?_⟩
  intro other event
  by_cases same : other = owner
  · simp [same, ofListInit]
  · simpa [same] using counted other event

/-- The list of an owner and event with a new hook. -/
def withHook (nodes : ω → UInt8 → List Nat) (owner : ω) (event : UInt8) (list : List Nat) :
    ω → UInt8 → List Nat :=
  fun other otherEvent =>
    if other = owner ∧ otherEvent = event then list else nodes other otherEvent

variable {front back : List Nat}

theorem mem_withHook {owner owner' : ω} {event event' : UInt8} {app node : Nat}
    (parts : nodes owner event = front ++ back) :
    node ∈ withHook nodes owner event (front ++ app :: back) owner' event' ↔
      node = app ∧ owner' = owner ∧ event' = event ∨ node ∈ nodes owner' event' := by
  unfold withHook
  split
  · rename_i same
    rcases same with ⟨rfl, rfl⟩
    rw [parts]
    simp [or_left_comm]
  rename_i elsewhere
  constructor
  · exact Or.inr
  · rintro (⟨_, same⟩ | member)
    · exact absurd same elsewhere
    · exact member

/-- A hook between higher and lower ones keeps the order. -/
theorem descending_insert {hooks hooks' : Nat → AppHookInfo} {app : Nat}
    (descending : Descending hooks (front ++ back))
    (kept : ∀ node ∈ front ++ back, hooks' node = hooks node)
    (higher : ∀ node ∈ front, (hooks' app).priority < (hooks node).priority)
    (below : ∀ node ∈ back.head?, (hooks node).priority < (hooks' app).priority) :
    Descending hooks' (front ++ app :: back) := by
  have same : Descending hooks' (front ++ back) := by
    refine List.Pairwise.imp_of_mem ?_ descending
    intro node later member laterMember lower
    rwa [kept node member, kept later laterMember]
  rcases pairwise_append.mp same with ⟨frontSorted, backSorted, across⟩
  have lower : ∀ node ∈ back, (hooks' node).priority < (hooks' app).priority := by
    cases back with
    | nil => simp
    | cons first rest =>
    have firstLower : (hooks' first).priority < (hooks' app).priority := by
      rw [kept first (by simp)]
      exact below first rfl
    intro node member
    rcases mem_cons.mp member with rfl | member
    · exact firstLower
    · exact UInt8.lt_trans ((pairwise_cons.mp backSorted).1 node member) firstLower
  refine pairwise_append.mpr ⟨frontSorted, pairwise_cons.mpr ⟨lower, backSorted⟩, ?_⟩
  intro node member later laterMember
  rcases mem_cons.mp laterMember with rfl | laterMember
  · rw [kept node (mem_append_left _ member)]
    exact higher node member
  · exact across node member later laterMember

/-- A hook with a new priority is linked in by its priority, and counted only at the
tail. -/
theorem addHook_inv (inv : HookInv table nodes) (owner : ω) (event : UInt8) (hook : AppHookInfo)
    (other : ∀ app ∈ nodes owner event, (table.hooks app).priority ≠ hook.priority) :
    ∃ front back, nodes owner event = front ++ back ∧
      HookInv (table.addHook owner event hook)
        (withHook nodes owner event (front ++ table.allocated :: back)) ∧
      (∀ app ∈ front, hook.priority < (table.hooks app).priority) ∧
      (∀ app ∈ back.head?, (table.hooks app).priority < hook.priority) ∧
      ∀ owner' event', ((table.addHook owner event hook).appList owner' event').count =
        if owner' = owner ∧ event' = event ∧ back = [] then
          uint32Succ (table.appList owner event).count
        else
          (table.appList owner' event').count := by
  let app := table.allocated
  let hooks := Function.update table.hooks app hook
  let pNext := Function.update table.pNext app none
  have outside (owner' : ω) (event' : UInt8) : app ∉ nodes owner' event' := by
    intro member
    exact Nat.lt_irrefl _ (inv.known owner' event' app member)
  have apart {owner' : ω} {event' : UInt8} {node : Nat} (member : node ∈ nodes owner' event') :
      node ≠ app := by
    rintro rfl
    exact outside owner' event' member
  have kept {owner' : ω} {event' : UInt8} {node : Nat} (member : node ∈ nodes owner' event') :
      hooks node = table.hooks node := Function.update_of_ne (apart member) _ _
  have new : hooks app = hook := Function.update_self ..
  have linksNow (owner' : ω) (event' : UInt8) :
      (table.appList owner' event').Links pNext (nodes owner' event') := by
    refine (inv.links owner' event').frame fun node member => ?_
    exact Function.update_of_ne (apart member) _ _
  have enough : (nodes owner event).length < app + 1 :=
    Nat.lt_succ_of_le (inv.length_le owner event)
  rcases @insertInADscndingPriority_links hooks (table.appList owner event) pNext app (app + 1)
      [] (nodes owner event) (linksNow owner event) (outside owner event)
      (Function.update_self ..) enough with
    ⟨later, pNext', front, back, looped, parts, laterLinks, higher, below, counted, frame⟩
  have start : (nodes owner event).head? = (table.appList owner event).head := by
    rw [(linksNow owner event).chain.start_eq, Option.or_none]
  rw [start, getLast?_nil] at looped
  have added : table.addHook owner event hook =
      { table with
        appList := fun other otherType =>
          if other = owner ∧ otherType = event then later else table.appList other otherType
        allocated := app + 1
        hooks := hooks
        pNext := pNext' } := by
    unfold HookTable.addHook
    dsimp only
    rw [looped]
  have frontHigher : ∀ node ∈ front, hook.priority < (table.hooks node).priority := by
    intro node member
    have mem : node ∈ nodes owner event := by simp [parts, member]
    have notLower := higher node member
    rw [kept mem, new] at notLower
    exact UInt8.lt_of_le_of_ne (UInt8.not_lt.mp notLower) (fun same => other node mem same.symm)
  have backLower : ∀ node ∈ back.head?, (table.hooks node).priority < hook.priority := by
    intro node isHead
    have mem : node ∈ nodes owner event := by
      rw [parts]
      exact mem_append_right _ (mem_of_mem_head? isHead)
    have lower := below node isHead
    rwa [kept mem, new] at lower
  refine ⟨front, back, parts, ?_, frontHigher, backLower, ?_⟩
  · rw [added]
    constructor
    case defined => exact inv.defined
    case links =>
      intro owner' event'
      unfold withHook
      dsimp only
      split
      · exact laterLinks
      rename_i elsewhere
      refine (linksNow owner' event').frame fun node member => frame node ?_
      intro inside
      rcases mem_cons.mp inside with same | inside
      · exact apart member same
      · exact elsewhere (inv.disjoint owner event owner' event' node inside member)
    case known =>
      intro owner' event' node member
      rcases (mem_withHook parts).mp member with ⟨rfl, _⟩ | member
      · exact Nat.lt_succ_self _
      · exact Nat.lt_succ_of_lt (inv.known owner' event' node member)
    case disjoint =>
      intro owner' event' third thirdEvent node member again
      rcases (mem_withHook parts).mp member with ⟨rfl, rfl, rfl⟩ | member
      · rcases (mem_withHook parts).mp again with ⟨_, same⟩ | again
        · exact same
        · exact absurd again (outside third thirdEvent)
      · rcases (mem_withHook parts).mp again with ⟨rfl, _⟩ | again
        · exact absurd member (outside owner' event')
        · exact inv.disjoint owner' event' third thirdEvent node member again
    case descending =>
      intro owner' event'
      unfold withHook
      split
      · have sorted := inv.descending owner event
        rw [parts] at sorted
        have higherNow : ∀ node ∈ front, (hooks app).priority < (table.hooks node).priority := by
          rw [new]
          exact frontHigher
        have belowNow : ∀ node ∈ back.head?, (table.hooks node).priority <
            (hooks app).priority := by
          rw [new]
          exact backLower
        exact descending_insert sorted (fun node member => kept (parts ▸ member)) higherNow belowNow
      · refine List.Pairwise.imp_of_mem ?_ (inv.descending owner' event')
        intro node below member belowMember lower
        dsimp only
        rwa [kept member, kept belowMember]
  · intro owner' event'
    rw [added]
    dsimp only
    by_cases same : owner' = owner ∧ event' = event
    · rcases same with ⟨rfl, rfl⟩
      simp [counted]
    · rw [if_neg same, if_neg (fun all => same ⟨all.1, all.2.1⟩)]

/-- The checks of a registration pass, and there is memory. -/
structure HookTable.Accepts (limits : HookLimits) (table : HookTable ω) (owner : ω)
    (reg : Registration) : Prop where
  eventType : ¬ (reg.eventType < limits.firstEventType ∨ limits.lastEventType < reg.eventType)
  priority : ¬ (reg.priority.toNat < limits.minPriority ∨ limits.maxPriority < reg.priority.toNat)
  callBack : reg.callBack ≠ none
  newPriority : ∀ app ∈ table.scan (table.appList owner reg.eventType),
    (table.hooks app).priority ≠ reg.priority
  calloc : reg.calloc = true

/-- A hook that is accepted has a lower priority than all hooks of its list. -/
def HookTable.GoesToTail (limits : HookLimits) (table : HookTable ω)
    (owner : Except HookStatus ω) (reg : Registration) : Prop :=
  ∀ owner', owner = .ok owner' → table.Accepts limits owner' reg →
    ∀ app ∈ table.scan (table.appList owner' reg.eventType),
      reg.priority < (table.hooks app).priority

/-- A registration is refused and changes nothing, or is accepted and linked. -/
theorem register_cases (limits : HookLimits) (table : HookTable ω)
    (owner : Except HookStatus ω) (reg : Registration) :
    ((table.register limits owner reg).2 = table ∧ ∀ owner', owner = .ok owner' →
        (table.register limits owner reg).1 ≠ .success ∧ ¬ table.Accepts limits owner' reg) ∨
      ∃ owner' hook, owner = .ok owner' ∧ table.Accepts limits owner' reg ∧
        hook.priority = reg.priority ∧
        table.register limits owner reg =
          (.success, table.addHook owner' reg.eventType hook) := by
  unfold HookTable.register
  by_cases eventType : reg.eventType < limits.firstEventType ∨
      limits.lastEventType < reg.eventType
  · rw [if_pos eventType]
    exact .inl ⟨rfl, fun _ _ => ⟨nofun, fun accepts => accepts.eventType eventType⟩⟩
  rw [if_neg eventType]
  by_cases priority : reg.priority.toNat < limits.minPriority ∨
      limits.maxPriority < reg.priority.toNat
  · rw [if_pos priority]
    exact .inl ⟨rfl, fun _ _ => ⟨nofun, fun accepts => accepts.priority priority⟩⟩
  rw [if_neg priority]
  cases callBack : reg.callBack with
  | none => exact .inl ⟨rfl, fun _ _ => ⟨nofun, fun accepts => accepts.callBack callBack⟩⟩
  | some function =>
  cases owner with
  | error status => exact .inl ⟨rfl, nofun⟩
  | ok owner =>
  dsimp only
  by_cases duplicate : (table.getAppHook (table.appList owner reg.eventType) reg.priority).isSome
  · rw [if_pos duplicate]
    refine .inl ⟨rfl, fun _ same => ⟨nofun, fun accepts => ?_⟩⟩
    cases same
    rcases find?_isSome.mp duplicate with ⟨app, member, same⟩
    exact accepts.newPriority app member (by simpa using same)
  rw [if_neg duplicate]
  by_cases memory : reg.calloc = false
  · rw [if_pos memory]
    refine .inl ⟨rfl, fun _ _ => ⟨nofun, fun accepts => ?_⟩⟩
    cases memory.symm.trans accepts.calloc
  rw [if_neg memory]
  refine .inr ⟨owner, _, rfl, ⟨eventType, priority, by simp [callBack], ?_,
    by simpa using memory⟩, rfl, rfl⟩
  intro app member same
  exact duplicate (find?_isSome.mpr ⟨app, member, by simpa using same⟩)

/-- A registration keeps the invariant, and the count exactly when it goes to the tail. -/
theorem register_inv (inv : HookInv table nodes) (counted : Counted table nodes)
    (limits : HookLimits) (owner : Except HookStatus ω) (reg : Registration) :
    ∃ nodes', HookInv (table.register limits owner reg).2 nodes' ∧
      (Counted (table.register limits owner reg).2 nodes' ↔ table.GoesToTail limits owner reg) := by
  rcases register_cases limits table owner reg with
    ⟨same, refused⟩ | ⟨owner', hook, rfl, accepts, priority, added⟩
  · rw [same]
    refine ⟨nodes, inv, ?_⟩
    exact iff_of_true counted (fun owner' isOwner accepts =>
      absurd accepts (refused owner' isOwner).2)
  have scanned := inv.scan_eq owner' reg.eventType
  have newPriority := accepts.newPriority
  rw [scanned, ← priority] at newPriority
  rcases addHook_inv inv owner' reg.eventType hook newPriority with
    ⟨front, back, parts, later, higher, below, counts⟩
  rw [added]
  refine ⟨_, later, ?_⟩
  have before := counted owner' reg.eventType
  have atEnd : table.GoesToTail limits (.ok owner') reg ↔ back = [] := by
    constructor
    · intro tail
      cases back with
      | nil => rfl
      | cons first rest =>
      have member : first ∈ table.scan (table.appList owner' reg.eventType) := by
        simp [scanned, parts]
      have above := tail owner' rfl accepts first member
      rw [← priority] at above
      exact absurd (UInt8.lt_trans above (below first rfl)) (UInt8.lt_irrefl _)
    · rintro rfl _ ⟨⟩ _ app member
      rw [scanned, parts, append_nil] at member
      rw [← priority]
      exact higher app member
  rw [atEnd]
  constructor
  · intro countedNow
    have here := countedNow owner' reg.eventType
    by_contra more
    rw [counts, if_neg (fun all => more all.2.2), before, parts] at here
    simp [withHook] at here
  rintro rfl other otherEvent
  rw [counts]
  unfold withHook
  by_cases same : other = owner' ∧ otherEvent = reg.eventType
  · have short := inv.length_small owner' reg.eventType
    rw [if_pos same, if_pos ⟨same.1, same.2, rfl⟩, before, uint32Succ_of_lt (by omega), parts]
    simp
  · rw [if_neg same, if_neg (fun all => same ⟨all.1, all.2.1⟩)]
    exact counted other otherEvent

end Registration

/-! ## Runs -/

/-- Both registries are what they are for. -/
def RegistriesConsistent (s : AppHooks) : Prop :=
  TableConsistent s.events ∧ TableConsistent s.messages

/-- Events and messages reach the hooks of their lists in order, up to the first that stops
them. -/
theorem RegistriesConsistent.dispatch {s : AppHooks} (consistent : RegistriesConsistent s)
    (answer : Nat → Int) :
    (∀ domainHandle eventType, ∃ nodes,
      (s.events.appList domainHandle eventType).Links s.events.pNext nodes ∧
        CalledInOrder (· = 2) answer nodes (informEventToApp s domainHandle eventType answer)) ∧
      ∀ table msgId, ∃ nodes, (s.messages.appList table msgId).Links s.messages.pNext nodes ∧
        CalledInOrder (fun retval => retval = 1 ∨ retval = 3) answer nodes
          (handoverMsgToApp s table msgId answer) := by
  constructor
  · intro domainHandle eventType
    obtain ⟨nodes, links, -, -, called⟩ := consistent.1.2 domainHandle eventType
    exact ⟨nodes, links, called _ answer⟩
  · intro table msgId
    obtain ⟨nodes, links, -, -, called⟩ := consistent.2.2 table msgId
    exact ⟨nodes, links, called _ answer⟩

/-- The hook of a registration goes to the tail of its list. -/
def AppendsAtTail (s : AppHooks) (call : HookCall) : Prop :=
  match call with
  | .registerEventHook domainHandle reg =>
    s.events.GoesToTail eventHookLimits (eventHookOwner s domainHandle) reg
  | .registerMessageHook domainHandle tableId reg =>
    s.messages.GoesToTail messageHookLimits (messageHookOwner s domainHandle tableId) reg
  | _ => True

/-- The lists of both registries with their counts. -/
def RegistriesInv (s : AppHooks) : Prop :=
  (∃ nodes, HookInv s.events nodes ∧ Counted s.events nodes) ∧
    ∃ nodes, HookInv s.messages nodes ∧ Counted s.messages nodes

theorem RegistriesInv.consistent {s : AppHooks} (inv : RegistriesInv s) :
    RegistriesConsistent s := by
  rcases inv with ⟨⟨_, events, eventsCounted⟩, ⟨_, messages, messagesCounted⟩⟩
  exact ⟨events.consistent eventsCounted, messages.consistent messagesCounted⟩

/-- A call keeps both registries consistent exactly when it appends at the tail. -/
theorem hookStep_inv {s : AppHooks} (inv : RegistriesInv s) (call : HookCall) :
    (RegistriesConsistent (hookStep s call) ↔ AppendsAtTail s call) ∧
      (RegistriesConsistent (hookStep s call) → RegistriesInv (hookStep s call)) := by
  have always (after : RegistriesInv (hookStep s call)) (met : AppendsAtTail s call) :
      (RegistriesConsistent (hookStep s call) ↔ AppendsAtTail s call) ∧
        (RegistriesConsistent (hookStep s call) → RegistriesInv (hookStep s call)) :=
    ⟨iff_of_true after.consistent met, fun _ => after⟩
  rcases inv with ⟨⟨nodes, events, eventsCounted⟩, ⟨nodes', messages, messagesCounted⟩⟩
  have eventsNow := events.consistent eventsCounted
  have messagesNow := messages.consistent messagesCounted
  cases call with
  | registerDomain domainHandle ttpName =>
    exact always ⟨initOwner_inv events eventsCounted domainHandle,
      ⟨nodes', messages, messagesCounted⟩⟩ trivial
  | unregisterDomain domainHandle =>
    exact always ⟨⟨nodes, events, eventsCounted⟩, ⟨nodes', messages, messagesCounted⟩⟩ trivial
  | addTable ttpName tableId =>
    exact always ⟨⟨nodes, events, eventsCounted⟩,
      initOwner_inv messages messagesCounted (ttpName, tableId)⟩ trivial
  | registerEventHook domainHandle reg =>
    rcases register_inv events eventsCounted eventHookLimits (eventHookOwner s domainHandle)
      reg with ⟨later, laterInv, counted⟩
    refine ⟨?_, ?_⟩
    · constructor
      · intro consistent
        exact counted.mp (laterInv.counted_of_consistent consistent.1)
      · intro tail
        exact ⟨laterInv.consistent (counted.mpr tail), messagesNow⟩
    · intro consistent
      exact ⟨⟨later, laterInv, laterInv.counted_of_consistent consistent.1⟩,
        ⟨nodes', messages, messagesCounted⟩⟩
  | registerMessageHook domainHandle tableId reg =>
  rcases register_inv messages messagesCounted messageHookLimits
    (messageHookOwner s domainHandle tableId) reg with ⟨later, laterInv, counted⟩
  refine ⟨?_, ?_⟩
  · constructor
    · intro consistent
      exact counted.mp (laterInv.counted_of_consistent consistent.2)
    · intro tail
      exact ⟨eventsNow, laterInv.consistent (counted.mpr tail)⟩
  · intro consistent
    exact ⟨⟨nodes, events, eventsCounted⟩,
      ⟨later, laterInv, laterInv.counted_of_consistent consistent.2⟩⟩

theorem empty_registriesInv : RegistriesInv AppHooks.empty :=
  ⟨⟨_, empty_inv, fun _ _ => rfl⟩, ⟨_, empty_inv, fun _ _ => rfl⟩⟩

/-- In every run of registrations, the lists stay sorted, duplicate free and counted, and
dispatch calls them in order, exactly as long as every hook goes to the tail of its
list. -/
theorem registries_consistent_iff (calls : List HookCall) :
    Along hookStep (fun s call => RegistriesConsistent (hookStep s call)) AppHooks.empty calls ↔
      Along hookStep AppendsAtTail AppHooks.empty calls :=
  Along.iff_of_invariant (fun _ call inv consistent => (hookStep_inv inv call).2 consistent)
    (fun _ call inv => (hookStep_inv inv call).1) empty_registriesInv

/-- Two applications register, the second with the higher priority: the list has two
hooks and the count 1. -/
theorem insertion_not_counted :
    ¬ Along hookStep (fun s call => RegistriesConsistent (hookStep s call)) AppHooks.empty
        [.registerDomain 1 "l3_router",
          .registerEventHook 1
            { eventType := 4, priority := 2, callBack := some 0, cbkArg1 := 0, cbkArg2 := 0
              calloc := true },
          .registerEventHook 1
            { eventType := 4, priority := 3, callBack := some 1, cbkArg1 := 0, cbkArg2 := 0
              calloc := true }] := by
  rintro ⟨_, _, consistent, _⟩
  rcases consistent.1.2 1 4 with ⟨nodes, links, _, counted, _⟩
  have both : nodes = [1, 0] := links.chain.unique ⟨by decide, by decide, rfl⟩
  rw [both] at counted
  exact absurd counted (by decide)

end OpenFlowController.Coreapp
