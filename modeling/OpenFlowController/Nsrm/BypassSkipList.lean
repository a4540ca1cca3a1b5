/-
Module: Nsrm.BypassSkipList
Purpose: The services that a bypass rule skips: the calls that attach and detach them, the
  queries, and the runs in which the list is what the calls made it.
Source: nsrm/nsrm_brule.c 118-142, 1160-1510; include/nsrmldef.h 310-317; include/cntlr_list.h
Trusted boundary: the list is the sequence of its nodes, the pointers of a call are not null, and a
  call is atomic
-/
import OpenFlowController.Library.Run
import OpenFlowController.Nsrm.Objects

namespace OpenFlowController.Nsrm

open Library List

/-- What a `nsrm_nwservice_bypass_rule` has of the services it skips: the names in the nodes of
`skip_nwservice_objects`, and `no_of_nwservice_objects`; and whether memory that is no block of the
pool was released to it. -/
structure SkipList where
  skipNwserviceObjects : List Name
  noOfNwserviceObjects : UInt8
  misreleased : Bool

/-- The blocks of `nsrm_nwservice_skip_list_mempool_g`. -/
def nsrmMaxSkipListEntries : Nat := 64

/-- Which names of a key the tables know. -/
structure SkipKey where
  nschain : Bool
  nwservice : Bool
  bypassRule : Bool

/-- What a call does: a query that succeeds reports a number, and writes names into the output
records of these indices. -/
inductive SkipAnswer where
  | returned (status : NsrmStatus)
  | listed (numberReturned : Nat) (writes : List (Nat × Name))
  /-- an access through a null pointer -/
  | undefined
  /-- a loop without end -/
  | endless
deriving DecidableEq

/-- The calls.  `block` and `nameMemory` tell whether the pool and `calloc` have memory, and
`requested` is the number after its conversion to `uint32_t`. -/
inductive SkipEvent where
  | attach (key : SkipKey) (name : Name) (block nameMemory : Bool)
  | detach (key : SkipKey) (name : Name)
  | getFirst (key : SkipKey) (requested : UInt32)
  | getNext (key : SkipKey) (relative : Option Name) (requested : UInt32)

/-- The lookups that the calls which change the list start with. -/
def SkipKey.refusal (key : SkipKey) : Option NsrmStatus :=
  if !key.nschain then some .errorNschainObjectNameInvalid
  else if !key.nwservice then some .errorNwserviceObjectNameInvalid
  else if !key.bypassRule then some .errorInvalidBypassRuleName
  else none

/-- The scan of the detach call with `OF_REMOVE_NODE_FROM_LIST`, which uses the node the scan
ended with: none where it ended with a null pointer. -/
def removeScanned (name : Name) : List Name → Option (List Name)
  | [] => none
  | node :: rest =>
    if node = name then some rest else (removeScanned name rest).map (node :: ·)

/-- The loops of the first query, over this many scans of the list; it starts again at the head
while services are still requested. -/
def getFirstScans (names : List Name) : Nat → Nat → Option (List Name)
  | _, 0 => some []
  | 0, _ + 1 => none
  | scans + 1, requested =>
    (getFirstScans names scans (requested - (names.take requested).length)).map
      (names.take requested ++ ·)

/-- The scan of the next query, with `node_found_b`. -/
def getNextScan (relative : Name) : Bool → Nat → List Name → List Name
  | _, _, [] => []
  | false, requested, node :: rest => getNextScan relative (node == relative) requested rest
  | true, requested, node :: rest =>
    node :: if requested = 1 then [] else getNextScan relative true (requested - 1) rest

namespace SkipList

/-- The list of a rule that was just added. -/
def initial : SkipList where
  skipNwserviceObjects := []
  noOfNwserviceObjects := 0
  misreleased := false

variable (list : SkipList)

/-- `nsrm_attach_nwservice_to_bypass_rule`.  Each node holds a block of the pool. -/
def attach (key : SkipKey) (name : Name) (block nameMemory : Bool) : SkipList × SkipAnswer :=
  match key.refusal with
  | some status => (list, .returned status)
  | none =>
    if list.noOfNwserviceObjects ≠ 0 ∧ name ∈ list.skipNwserviceObjects then
      (list, .returned .errorDuplicateResource)
    else if !block ∨ nsrmMaxSkipListEntries ≤ list.skipNwserviceObjects.length then
      (list, .returned .failure)
    else if !nameMemory then
      (list, .undefined)
    else
      ({ list with
         skipNwserviceObjects := list.skipNwserviceObjects ++ [name]
         noOfNwserviceObjects := list.noOfNwserviceObjects + 1 }, .returned .success)

/-- `nsrm_detach_nwservice_from_bypass_rule`.  `OF_REMOVE_NODE_FROM_LIST` has the list node, which
begins the block, handed to `nsrm_free_nwservice_rule_skip_list_entry_rcu`, and that releases what
lies the length of a list node in front of it. -/
def detach (key : SkipKey) (name : Name) : SkipList × SkipAnswer :=
  match key.refusal with
  | some status => (list, .returned status)
  | none =>
    if list.noOfNwserviceObjects = 0 then
      (list, .returned .failure)
    else
      match removeScanned name list.skipNwserviceObjects with
      | none => (list, .undefined)
      | some names =>
        ({ skipNwserviceObjects := names
           noOfNwserviceObjects := list.noOfNwserviceObjects - 1
           misreleased := true }, .returned .success)

/-- The end of a query that wrote these names; `recs_p` never moves. -/
def finish (requested : UInt32) (names : List Name) : SkipAnswer :=
  if names.length = requested.toNat then .listed names.length (names.map (0, ·))
  else .returned .failure

/-- `nsrm_get_first_nwservice_objects_from_bypass_rule`. -/
def getFirst (key : SkipKey) (requested : UInt32) : SkipAnswer :=
  if !key.bypassRule || !key.nschain || list.noOfNwserviceObjects == 0 then .returned .failure
  else
    match getFirstScans list.skipNwserviceObjects requested.toNat requested.toNat with
    | none => .endless
    | some names => finish requested names

/-- `nsrm_get_next_nwservice_objects_from_bypass_rule`. -/
def getNext (key : SkipKey) (relative : Option Name) (requested : UInt32) : SkipAnswer :=
  match relative with
  | none => .returned .errorNoMoreEntries
  | some name =>
    if !key.bypassRule || !key.nschain || list.noOfNwserviceObjects == 0 then
      .returned .failure
    else if requested = 0 then finish requested []
    else finish requested (getNextScan name false requested.toNat list.skipNwserviceObjects)

def call : SkipEvent → SkipList × SkipAnswer
  | .attach key name block nameMemory => list.attach key name block nameMemory
  | .detach key name => list.detach key name
  | .getFirst key requested => (list, list.getFirst key requested)
  | .getNext key relative requested => (list, list.getNext key relative requested)

end SkipList

/-! ## What the calls promise -/

/-- The services that are attached and not since detached, by what the calls reported. -/
def attachedAfter (attached : List Name) (event : SkipEvent) (answer : SkipAnswer) : List Name :=
  match event, answer with
  | .attach _ name _ _, .returned .success => attached ++ [name]
  | .detach _ name, .returned .success => attached.filter (· != name)
  | _, _ => attached

/-- A list and the services attached to it take one call together. -/
def skipStep (run : SkipList × List Name) (event : SkipEvent) : SkipList × List Name :=
  ((run.1.call event).1, attachedAfter run.2 event (run.1.call event).2)

/-- The list holds the attached services, each once, and counts them, and nothing but blocks went
back to their pool. -/
structure SkipList.Holds (run : SkipList × List Name) : Prop where
  names : run.1.skipNwserviceObjects = run.2
  nodup : run.1.skipNwserviceObjects.Nodup
  count : run.1.noOfNwserviceObjects.toNat = run.1.skipNwserviceObjects.length
  blocks : run.1.skipNwserviceObjects.length ≤ nsrmMaxSkipListEntries
  released : run.1.misreleased = false

/-- The answer to a call is right. -/
structure SkipList.Answers (list : SkipList) (event : SkipEvent) : Prop where
  ends : (list.call event).2 ≠ .undefined ∧ (list.call event).2 ≠ .endless
  absent : ∀ key name, event = .detach key name → name ∉ list.skipNwserviceObjects →
    (list.call event).2 ≠ .returned .success ∧ (list.call event).1 = list
  pages : ∀ number writes, (list.call event).2 = .listed number writes →
    number = writes.length ∧ (writes.map (·.1)).Nodup ∧ (writes.map (·.2)).Nodup ∧
      ∀ record ∈ writes, record.2 ∈ list.skipNwserviceObjects

/-- The services behind this one. -/
def servicesBehind (name : Name) (names : List Name) : List Name :=
  (names.dropWhile (· != name)).tail

/-- The calls that do not reach a defect: the name of a service gets memory, none is detached from
a list that has some, and no query writes a second name into the first record. -/
def SoundSkipCall (run : SkipList × List Name) : SkipEvent → Prop
  | .attach key name block nameMemory =>
    key.refusal = none → name ∉ run.1.skipNwserviceObjects → block →
      run.1.skipNwserviceObjects.length < nsrmMaxSkipListEntries → nameMemory
  | .detach key _ => key.refusal = none → run.1.skipNwserviceObjects = []
  | .getFirst key requested =>
    key.bypassRule → key.nschain → run.1.skipNwserviceObjects ≠ [] → requested.toNat ≤ 1
  | .getNext key relative requested =>
    key.bypassRule → key.nschain → ∀ name ∈ relative, requested.toNat ≤ 1 ∨
      (servicesBehind name run.1.skipNwserviceObjects).length < requested.toNat

/-! ## One call -/

theorem SkipKey.refusal_ne (key : SkipKey) : key.refusal ≠ some .success := by
  unfold refusal
  split_ifs <;> simp

theorem getFirstScans_few {names : List Name} {requested : Nat} (few : requested ≤ 1)
    (some_ : names ≠ []) :
    getFirstScans names requested requested = some (names.take requested) := by
  obtain ⟨node, rest, rfl⟩ := exists_cons_of_ne_nil some_
  obtain rfl | rfl : requested = 0 ∨ requested = 1 := by omega
  all_goals simp [getFirstScans]

variable (relative : Name)

theorem getNextScan_found (requested : Nat) (names : List Name) :
    getNextScan relative true (requested + 1) names = names.take (requested + 1) := by
  induction names generalizing requested with
  | nil => rfl
  | cons node rest ih =>
  cases requested with
  | zero => simp [getNextScan]
  | succ requested => simp [getNextScan, ih]

theorem getNextScan_eq (requested : Nat) (names : List Name) :
    getNextScan relative false (requested + 1) names =
      (servicesBehind relative names).take (requested + 1) := by
  induction names with
  | nil => rfl
  | cons node rest ih =>
  by_cases same : node = relative
  · simp [getNextScan, servicesBehind, same, getNextScan_found]
  · have other : (node == relative) = false := by simpa using same
    simpa [getNextScan, servicesBehind, same, other] using ih

namespace SkipList

variable {list : SkipList} {event : SkipEvent}

theorem finish_answers {requested : UInt32} {names : List Name}
    (answer : list.call event = (list, finish requested names))
    (few : names.length = requested.toNat → names.length ≤ 1)
    (inside : names ⊆ list.skipNwserviceObjects) : list.Answers event := by
  constructor
  case ends =>
    rw [answer, finish]
    split <;> simp
  case absent =>
    intro key name eq missing
    rw [answer, finish]
    split <;> simp
  case pages =>
    intro number writes listed
    rw [answer, finish] at listed
    split at listed
    case isTrue all =>
      obtain ⟨rfl, rfl⟩ := SkipAnswer.listed.inj listed
      have short : names.length ≤ 1 := few all
      match names with
      | [] => simp
      | [name] => simpa using inside
    case isFalse => cases listed

attribute [local simp] SkipList.attach SkipList.detach skipStep

variable {run : SkipList × List Name} (holds : Holds run)

include holds

theorem Holds.zero_iff : run.1.noOfNwserviceObjects = 0 ↔ run.1.skipNwserviceObjects = [] := by
  rw [← UInt8.toNat_inj, holds.count]
  simp

theorem Holds.refused {event : SkipEvent} (status : NsrmStatus) (failed : status ≠ .success)
    (answer : run.1.call event = (run.1, .returned status)) :
    run.1.Answers event ∧ Holds (skipStep run event) := by
  have kept : attachedAfter run.2 event (.returned status) = run.2 := by
    cases event <;> cases status <;> first | rfl | exact absurd rfl failed
  constructor
  case left => exact ⟨by simp [answer], by simp [answer, failed], by simp [answer]⟩
  simpa [answer, kept] using holds

/-- A sound attach answers right and is held. -/
theorem Holds.attach {key : SkipKey} {name : Name} {block nameMemory : Bool}
    (sound : SoundSkipCall run (.attach key name block nameMemory)) :
    run.1.Answers (.attach key name block nameMemory) ∧
      Holds (skipStep run (.attach key name block nameMemory)) := by
  cases refusal : key.refusal with
  | some status =>
    exact holds.refused status (fun eq => key.refusal_ne (eq ▸ refusal))
      (by simp [SkipList.call, refusal])
  | none =>
  by_cases known : name ∈ run.1.skipNwserviceObjects
  · have nonzero := mt holds.zero_iff.mp (ne_nil_of_mem known)
    exact holds.refused .errorDuplicateResource (by simp)
      (by simp [SkipList.call, refusal, known, nonzero])
  by_cases full : !block ∨ nsrmMaxSkipListEntries ≤ run.1.skipNwserviceObjects.length
  · exact holds.refused .failure (by simp)
      (by simp only [SkipList.call, SkipList.attach, refusal, known, and_false, if_false, if_pos full])
  obtain ⟨given, left⟩ := not_or.mp full
  have room := Nat.lt_of_not_le left
  obtain rfl : block = true := by simpa using given
  obtain rfl : nameMemory = true := sound refusal known rfl room
  have answer : run.1.call (.attach key name true true) =
      (⟨run.1.skipNwserviceObjects ++ [name], run.1.noOfNwserviceObjects + 1, run.1.misreleased⟩,
        .returned .success) := by
    simp [SkipList.call, refusal, known, left]
  constructor
  case left => constructor <;> simp [answer]
  constructor
  case names => simp [answer, attachedAfter, holds.names]
  case nodup =>
    have new : ∀ node ∈ run.1.skipNwserviceObjects, node ≠ name :=
      fun node inside eq => known (eq ▸ inside)
    simpa [answer, nodup_append, holds.nodup] using new
  case count =>
    have count := holds.count
    rw [nsrmMaxSkipListEntries] at room
    simp [answer]
    omega
  case blocks => simpa [answer] using room
  case released => simpa [answer] using holds.released

theorem Holds.detach {key : SkipKey} {name : Name} (sound : SoundSkipCall run (.detach key name)) :
    run.1.Answers (.detach key name) ∧ Holds (skipStep run (.detach key name)) := by
  cases refusal : key.refusal with
  | some status =>
    exact holds.refused status (fun eq => key.refusal_ne (eq ▸ refusal))
      (by simp [SkipList.call, refusal])
  | none =>
  have zero := holds.zero_iff.mpr (sound refusal)
  exact holds.refused .failure (by simp) (by simp [SkipList.call, refusal, zero])

/-- Every sound call answers right and is held. -/
theorem Holds.call (sound : SoundSkipCall run event) :
    run.1.Answers event ∧ Holds (skipStep run event) := by
  cases event with
  | attach key name block nameMemory => exact holds.attach sound
  | detach key name => exact holds.detach sound
  | getFirst key requested =>
    by_cases refused : !key.bypassRule || !key.nschain || run.1.noOfNwserviceObjects == 0
    · exact holds.refused .failure (by simp) (by rw [SkipList.call, getFirst, if_pos refused])
    have zero := holds.zero_iff
    have some_ : run.1.skipNwserviceObjects ≠ [] := by simp_all
    have few : requested.toNat ≤ 1 := by simp_all [SoundSkipCall]
    have answer : run.1.getFirst key requested =
        finish requested (run.1.skipNwserviceObjects.take requested.toNat) := by
      rw [getFirst, if_neg refused, getFirstScans_few few some_]
    exact ⟨finish_answers (by rw [SkipList.call, answer]) (fun all => all ▸ few)
      (take_subset _ _), holds⟩
  | getNext key relative requested =>
  cases relative with
  | none => exact holds.refused .errorNoMoreEntries (by simp) rfl
  | some name =>
  by_cases refused : !key.bypassRule || !key.nschain || run.1.noOfNwserviceObjects == 0
  · exact holds.refused .failure (by simp) (by rw [SkipList.call, getNext, if_pos refused])
  have few : requested.toNat ≤ 1 ∨
      (servicesBehind name run.1.skipNwserviceObjects).length < requested.toNat := by
    simp_all [SoundSkipCall]
  have answer : run.1.getNext key (some name) requested = finish requested
      ((servicesBehind name run.1.skipNwserviceObjects).take requested.toNat) := by
    rw [getNext, if_neg refused]
    split
    case isTrue none_ => simp [none_]
    case isFalse some_ =>
      have positive : requested.toNat ≠ 0 := fun eq => some_ (UInt32.toNat_inj.mp eq)
      obtain ⟨more, more_eq⟩ := Nat.exists_eq_succ_of_ne_zero positive
      rw [more_eq, getNextScan_eq]
  have inside : servicesBehind name run.1.skipNwserviceObjects ⊆ run.1.skipNwserviceObjects :=
    Subset.trans (tail_subset _) (dropWhile_subset _)
  refine ⟨finish_answers (by rw [SkipList.call, answer]) (fun all => ?_)
    (Subset.trans (take_subset _ _) inside), holds⟩
  rw [length_take] at all ⊢
  omega

end SkipList

/-! ## Every run -/

/-- In every run of calls that reach no defect, every call answers right, and the list holds the
services that are attached and not since detached. -/
theorem skip_list_shows_attached (events : List SkipEvent)
    (sound : Along skipStep SoundSkipCall (.initial, []) events) :
    Along skipStep (fun run event => run.1.Answers event) (.initial, []) events ∧
      SkipList.Holds (events.foldl skipStep (.initial, [])) := by
  have start : SkipList.Holds (.initial, []) := ⟨rfl, nodup_nil, rfl, by decide, rfl⟩
  constructor
  case left =>
    exact Along.mono_of_invariant (fun _ _ holds sound => (holds.call sound).2)
      (fun _ _ holds sound => (holds.call sound).1) start sound
  exact Along.invariant (fun _ _ holds sound => (holds.call sound).2) start sound

/-- A key whose names are known. -/
def knownKey : SkipKey := ⟨true, true, true⟩

/-- A service is detached before there is one, two are attached, the first query asks for one, and
the next for more than there are. -/
theorem skip_list_shows_attached_two :
    ∃ events : List SkipEvent, events.length = 5 ∧
      SkipList.Holds (events.foldl skipStep (.initial, [])) := by
  refine ⟨[.detach knownKey [1], .attach knownKey [1] true true, .attach knownKey [2] true true,
    .getFirst knownKey 1, .getNext knownKey (some [1]) 3], rfl, (skip_list_shows_attached _ ?_).2⟩
  exact ⟨fun _ => rfl, fun _ _ _ _ => rfl, fun _ _ _ _ => rfl, fun _ _ _ => by decide,
    fun _ _ _ named => by cases named; decide, trivial⟩

/-- A service that was never attached is detached: the call uses a null pointer. -/
theorem absent_service_detached :
    ¬ ∀ events : List SkipEvent,
      Along skipStep (fun run event => run.1.Answers event) (.initial, []) events ∧
        SkipList.Holds (events.foldl skipStep (.initial, [])) := by
  intro all
  have answers := (all [.attach knownKey [1] true true, .detach knownKey [2]]).1
  exact answers.2.1.ends.1 (by decide)

end OpenFlowController.Nsrm
