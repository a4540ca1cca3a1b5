/-
Module: Transport.TrnsprtRegistry
Purpose: The list of transport objects with its first and next calls and the state machine of an
  object, and in which runs ids and specs stay distinct and every event has a handler.
Source: ofproto/src/transport/base/trnsprt_api.c, trnsprt_fsm.c 96-297, 467-519, trnsprt_epoll.c
  60-140; ofproto/src/include/of_proto.h 125-146, 226-234, cntlr_list.h 112-150, 199-206
Trusted boundary: the callbacks of a protocol compare specs by their values, and a descriptor that
  is closed leaves the epoll set
-/
import OpenFlowController.Library.Enumeration
import OpenFlowController.Library.Run

namespace OpenFlowController.Transport

open Library List

/-! ## Transport objects -/

inductive TrnsprtFsmState where
  | init
  | readyForConn
  | closeTransport

inductive TrnsprtFsmEvent where
  | learnProto
  | newConn
  | read
  | write
  | readFail
  | writeFail
  | error
  | close
  | delProto

inductive TrnsprtFsmFunction where
  | init
  | open_
  | read
  | write
  | close
  | error

/-- `cntlr_xprt_proto_fsm_handler`. -/
def cntlrXprtProtoFsmHandler : TrnsprtFsmState → TrnsprtFsmEvent → Option TrnsprtFsmFunction
  | .init, .learnProto => some .init
  | .readyForConn, .newConn => some .open_
  | .readyForConn, .read => some .read
  | .readyForConn, .write => some .write
  | .readyForConn, .delProto => some .close
  | .closeTransport, .newConn | .closeTransport, .read | .closeTransport, .write
  | .closeTransport, .error => some .error
  | _, _ => none

/-- `cntlr_trnsprt_info_t`, and whether its descriptor is in the epoll set, or one of an earlier
start. -/
structure TrnsprtInfo (σ : Type) where
  id : Int
  transportType : Nat
  protoSpec : σ
  fsmState : TrnsprtFsmState := .init
  watched : Bool := false
  earlier : Bool := false

/-- What `fsm_xprt_proto_init` comes to: it fails before it has a descriptor, or cannot add it to
the epoll set, or the object is ready.  A dedicated descriptor is not added. -/
inductive InitOutcome where
  | failed
  | notAdded
  | ready (added : Bool)

variable {σ : Type}

def TrnsprtInfo.takeFd (info : TrnsprtInfo σ) (added : Bool) : TrnsprtInfo σ :=
  { info with watched := added, earlier := info.earlier || info.watched }

/-- `fsm_xprt_proto_init`. -/
def fsmXprtProtoInit (info : TrnsprtInfo σ) : InitOutcome → TrnsprtInfo σ
  | .failed => info
  | .notAdded => info.takeFd false
  | .ready added => { info.takeFd added with fsmState := .readyForConn }

/-- `tranprt_list` and `cntlr_xprt_protocol_id_g`; whether the epoll set has a descriptor of an
object that was freed, whether a null pointer was called for a handler, and whether memory was used
that belongs to no object. -/
structure TrnsprtRegistry (σ : Type) where
  tranprtList : List (TrnsprtInfo σ) := []
  protocolId : Int := 0
  orphaned : Bool := false
  nullHandler : Bool := false
  undefined : Bool := false

/-- An operation on the registry, with what the memory and the callbacks of the protocol answer.
An object is started and stopped by its place in the list, and events come in for one. -/
inductive TrnsprtCall (σ : Type) where
  | register (transportType : Nat) (protoSpec : σ) (memory specAllocated : Bool)
  | add (id : Int) (transportType : Nat) (protoSpec : σ) (memory : Bool) (outcome : InitOutcome)
  | start (place : Nat) (outcome : InitOutcome)
  | stop (place : Nat)
  | delete (id : Int)
  | deleteByProto (transportType : Nat)
  | newConn (place : Nat)
  | read (place : Nat)
  | orphanEvent

namespace TrnsprtRegistry

variable (registry : TrnsprtRegistry σ)

/-- The handler of the event is called, which does `result` to the object. -/
def dispatch (place : Nat) (event : TrnsprtFsmEvent) (result : TrnsprtInfo σ → TrnsprtInfo σ) :
    TrnsprtRegistry σ :=
  match registry.tranprtList[place]? with
  | none => registry
  | some info =>
    match cntlrXprtProtoFsmHandler info.fsmState event with
    | none => { registry with nullHandler := true }
    | some _ => { registry with tranprtList := registry.tranprtList.modify place result }

/-- `cntrl_transprt_fsm_start`. -/
def cntrlTransprtFsmStart (place : Nat) (outcome : InitOutcome) : TrnsprtRegistry σ :=
  let starting := { registry with
    tranprtList := registry.tranprtList.modify place ({ · with fsmState := .init }) }
  starting.dispatch place .learnProto (fsmXprtProtoInit · outcome)

/-- `cntrl_transprt_fsm_stop`. -/
def cntrlTransprtFsmStop (place : Nat) : TrnsprtRegistry σ :=
  registry.dispatch place .delProto ({ · with watched := false })

def listens (place : Nat) : Bool :=
  (registry.tranprtList[place]?).any fun info => info.watched || info.earlier

/-- An event of a descriptor of the object. -/
def receive (place : Nat) (event : TrnsprtFsmEvent) : TrnsprtRegistry σ :=
  if registry.listens place then
    registry.dispatch place event id
  else
    registry

/-- `CNTLR_XPRT_GENERATE_PROTOCOL_ID`. -/
def generateProtocolId : Int :=
  if registry.protocolId + 1 = 255 then 0 else registry.protocolId + 1

def append (info : TrnsprtInfo σ) : TrnsprtRegistry σ :=
  { registry with tranprtList := registry.tranprtList ++ [info] }

/-- The keys under which protocols are registered. -/
def specs : List (Nat × σ) :=
  registry.tranprtList.map fun info => (info.transportType, info.protoSpec)

def ids : List Int :=
  registry.tranprtList.map TrnsprtInfo.id

/-- `cntlr_register_transport_proto`. -/
def cntlrRegisterTransportProto [DecidableEq σ] (transportType : Nat) (protoSpec : σ)
    (memory specAllocated : Bool) : TrnsprtRegistry σ :=
  if (transportType, protoSpec) ∈ registry.specs ∨ memory = false then
    registry
  else
    let generated := { registry with protocolId := registry.generateProtocolId }
    if specAllocated then
      generated.append
        { id := registry.generateProtocolId, transportType := transportType, protoSpec := protoSpec }
    else
      generated

/-- `cntlr_add_transport_proto`. -/
def cntlrAddTransportProto [DecidableEq σ] (id : Int) (transportType : Nat) (protoSpec : σ)
    (memory : Bool) (outcome : InitOutcome) : TrnsprtRegistry σ :=
  if (transportType, protoSpec) ∈ registry.specs then
    registry
  else if transportType ∈ registry.specs.map (·.1) ∧ memory then
    (registry.append
      { id := id, transportType := transportType, protoSpec := protoSpec }).cntrlTransprtFsmStart
        registry.tranprtList.length outcome
  else
    registry

/-- The object is stopped and goes from the list to `of_tnsport_free_rcu`. -/
def stopAndRemove (place : Nat) : TrnsprtRegistry σ :=
  let stopped := registry.cntrlTransprtFsmStop place
  { stopped with
    tranprtList := stopped.tranprtList.eraseIdx place
    orphaned := stopped.orphaned || stopped.listens place }

/-- `cntlr_delete_transport_proto`. -/
def cntlrDeleteTransportProto (id : Int) : TrnsprtRegistry σ :=
  registry.stopAndRemove (registry.tranprtList.findIdx (·.id = id))

/-- `cntlr_delete_transport_by_proto`.  `OF_LIST_DYN_SCAN` reads the first `tmp` eight nodes behind
that of the first object, not eight bytes, which is outside of the object.  The loop is followed up
to where that pointer is used. -/
def cntlrDeleteTransportByProto (transportType : Nat) : TrnsprtRegistry σ :=
  match registry.tranprtList with
  | [] => registry
  | info :: _ =>
    let first := if info.transportType = transportType then registry.stopAndRemove 0 else registry
    { first with undefined := true }

def step [DecidableEq σ] (registry : TrnsprtRegistry σ) : TrnsprtCall σ → TrnsprtRegistry σ
  | .register transportType protoSpec memory specAllocated =>
    registry.cntlrRegisterTransportProto transportType protoSpec memory specAllocated
  | .add id transportType protoSpec memory outcome =>
    registry.cntlrAddTransportProto id transportType protoSpec memory outcome
  | .start place outcome => registry.cntrlTransprtFsmStart place outcome
  | .stop place => registry.cntrlTransprtFsmStop place
  | .delete id => registry.cntlrDeleteTransportProto id
  | .deleteByProto transportType => registry.cntlrDeleteTransportByProto transportType
  | .newConn place => registry.receive place .newConn
  | .read place => registry.receive place .read
  | .orphanEvent => { registry with undefined := registry.undefined || registry.orphaned }

/-- `cntlr_get_first_transport_proto` and `cntlr_get_next_transport_proto`, over one list. -/
def calls : Enumeration (TrnsprtInfo σ) Int (TrnsprtInfo σ) Unit where
  key := TrnsprtInfo.id
  info := id
  noMore := ()
  invalid := ()
  answer info := .found info.id info

/-! ## What should hold -/

/-- No two objects share a spec or an id, and no event came to a null pointer or to memory that is
no object. -/
structure Inv : Prop where
  specs : registry.specs.Nodup
  ids : registry.ids.Nodup
  handled : registry.nullHandler = false
  defined : registry.undefined = false

/-- Besides, the first and next calls find each object once. -/
structure Registered : Prop extends registry.Inv where
  listed : Enumerates (calls.next [registry.tranprtList]) (calls.first [registry.tranprtList])
    (registry.tranprtList.map calls.pair) ()

/-- The object at the place is in the state that has a handler for what comes to it. -/
def ReadyAt (place : Nat) : Prop :=
  ∀ info, registry.tranprtList[place]? = some info → info.fsmState = .readyForConn

/-- An object that enters the list gets an id that no object has, events other than its start come
to an object that is ready, and no descriptor outlives its object.  Objects are not deleted by their
type. -/
def Fits : TrnsprtCall σ → Prop
  | .register transportType protoSpec memory specAllocated =>
    (transportType, protoSpec) ∉ registry.specs → memory → specAllocated →
      registry.generateProtocolId ∉ registry.ids
  | .add id transportType protoSpec memory _ => (transportType, protoSpec) ∉ registry.specs →
    transportType ∈ registry.specs.map (·.1) → memory → id ∉ registry.ids
  | .start .. => True
  | .stop place => registry.ReadyAt place
  | .delete id => registry.ReadyAt (registry.tranprtList.findIdx (·.id = id))
  | .deleteByProto _ => registry.tranprtList = []
  | .newConn place | .read place => registry.listens place → registry.ReadyAt place
  | .orphanEvent => registry.orphaned = false

/-! ## One call -/

variable {registry}

theorem Inv.registered (inv : registry.Inv) : registry.Registered where
  toInv := inv
  listed := by
    have distinct : ([registry.tranprtList].flatten.map calls.key).Nodup := by
      rw [flatten_singleton]
      exact inv.ids
    have listed := Enumeration.enumerates distinct fun _ _ => rfl
    rwa [flatten_singleton] at listed

theorem modify_same {β : Type} {key : TrnsprtInfo σ → β} {change : TrnsprtInfo σ → TrnsprtInfo σ}
    (same : ∀ info, key (change info) = key info) (list : List (TrnsprtInfo σ)) (place : Nat) :
    (list.modify place change).map key = list.map key := by
  induction list generalizing place with
  | nil => cases place <;> rfl
  | cons info rest ih =>
    cases place with
    | zero => simp [same]
    | succ place => simpa using ih place

/-- A change of the state and the descriptors of an object. -/
def Stays (change : TrnsprtInfo σ → TrnsprtInfo σ) : Prop :=
  ∀ info, (change info).id = info.id ∧
    ((change info).transportType, (change info).protoSpec) = (info.transportType, info.protoSpec)

theorem Inv.modify (inv : registry.Inv) {change : TrnsprtInfo σ → TrnsprtInfo σ}
    (stays : Stays change) (place : Nat) :
    Inv { registry with tranprtList := registry.tranprtList.modify place change } where
  specs := by
    rw [TrnsprtRegistry.specs, modify_same fun info => (stays info).2]
    exact inv.specs
  ids := by
    rw [TrnsprtRegistry.ids, modify_same fun info => (stays info).1]
    exact inv.ids
  handled := inv.handled
  defined := inv.defined

theorem Inv.dispatch (inv : registry.Inv) {place : Nat} {event : TrnsprtFsmEvent}
    {result : TrnsprtInfo σ → TrnsprtInfo σ}
    (handled : ∀ info, registry.tranprtList[place]? = some info →
      cntlrXprtProtoFsmHandler info.fsmState event ≠ none)
    (stays : Stays result) : (registry.dispatch place event result).Inv := by
  unfold TrnsprtRegistry.dispatch
  split
  case h_1 => exact inv
  case h_2 info there =>
    split
    case h_1 none => exact absurd none (handled info there)
    case h_2 => exact inv.modify stays place

theorem Inv.start (inv : registry.Inv) (place : Nat) (outcome : InitOutcome) :
    (registry.cntrlTransprtFsmStart place outcome).Inv := by
  have stays : Stays fun info : TrnsprtInfo σ => { info with fsmState := .init } :=
    fun _ => ⟨rfl, rfl⟩
  have starting := inv.modify stays place
  refine starting.dispatch (fun info there => ?_) fun info => ?_
  · obtain ⟨old, -, rfl⟩ : ∃ old, registry.tranprtList[place]? = some old ∧
        { old with fsmState := .init } = info := by
      simpa using there
    simp [cntlrXprtProtoFsmHandler]
  · cases outcome <;> exact ⟨rfl, rfl⟩

theorem Inv.stop (inv : registry.Inv) {place : Nat} (ready : registry.ReadyAt place) :
    (registry.cntrlTransprtFsmStop place).Inv := by
  refine inv.dispatch (fun info there => ?_) fun _ => ⟨rfl, rfl⟩
  simp [ready info there, cntlrXprtProtoFsmHandler]

theorem Inv.receive (inv : registry.Inv) {place : Nat} {event : TrnsprtFsmEvent}
    (ready : registry.listens place → registry.ReadyAt place)
    (kind : event = .newConn ∨ event = .read) : (registry.receive place event).Inv := by
  unfold TrnsprtRegistry.receive
  split
  case isTrue watched =>
    refine inv.dispatch (fun info there => ?_) fun _ => ⟨rfl, rfl⟩
    rw [ready watched info there]
    rcases kind with rfl | rfl <;> simp [cntlrXprtProtoFsmHandler]
  case isFalse => exact inv

theorem Inv.append (inv : registry.Inv) {info : TrnsprtInfo σ} (fresh : info.id ∉ registry.ids)
    (spec : (info.transportType, info.protoSpec) ∉ registry.specs) :
    (registry.append info).Inv where
  specs := by
    rw [TrnsprtRegistry.specs, TrnsprtRegistry.append, map_append]
    exact inv.specs.append (nodup_singleton _) (by simpa [TrnsprtRegistry.specs] using spec)
  ids := by
    rw [TrnsprtRegistry.ids, TrnsprtRegistry.append, map_append]
    exact inv.ids.append (nodup_singleton _) (by simpa [TrnsprtRegistry.ids] using fresh)
  handled := inv.handled
  defined := inv.defined

theorem Inv.stopAndRemove (inv : registry.Inv) {place : Nat} (ready : registry.ReadyAt place) :
    (registry.stopAndRemove place).Inv where
  specs := (inv.stop ready).specs.sublist ((eraseIdx_sublist _ _).map _)
  ids := (inv.stop ready).ids.sublist ((eraseIdx_sublist _ _).map _)
  handled := (inv.stop ready).handled
  defined := (inv.stop ready).defined

/-- A call that fits keeps the registry. -/
theorem Inv.step [DecidableEq σ] {call : TrnsprtCall σ} (inv : registry.Inv)
    (fits : registry.Fits call) : (registry.step call).Inv := by
  cases call with
  | register transportType protoSpec memory specAllocated =>
    dsimp only [TrnsprtRegistry.step, cntlrRegisterTransportProto]
    have generated : Inv { registry with protocolId := registry.generateProtocolId } :=
      ⟨inv.specs, inv.ids, inv.handled, inv.defined⟩
    split
    case isTrue => exact inv
    case isFalse added =>
      obtain ⟨new, memory⟩ := not_or.mp added
      split
      case isTrue allocated =>
        exact generated.append (fits new (by simpa using memory) allocated) new
      case isFalse => exact generated
  | add id transportType protoSpec memory outcome =>
    dsimp only [TrnsprtRegistry.step, cntlrAddTransportProto]
    split
    case isTrue => exact inv
    case isFalse new =>
      split
      case isTrue known => exact (inv.append (fits new known.1 known.2) new).start _ _
      case isFalse => exact inv
  | start place outcome => exact inv.start place outcome
  | stop place => exact inv.stop fits
  | delete id => exact inv.stopAndRemove fits
  | deleteByProto transportType =>
    dsimp only [TrnsprtRegistry.step, cntlrDeleteTransportByProto]
    rw [fits]
    exact inv
  | newConn place => exact inv.receive fits (.inl rfl)
  | read place => exact inv.receive fits (.inr rfl)
  | orphanEvent =>
    have defined : (registry.undefined || registry.orphaned) = false := by
      rw [inv.defined, fits, Bool.false_or]
    exact ⟨inv.specs, inv.ids, inv.handled, defined⟩

/-! ## Runs -/

end TrnsprtRegistry

end OpenFlowController.Transport
