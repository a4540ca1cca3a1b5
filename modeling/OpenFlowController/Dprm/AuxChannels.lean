/-
Module: Dprm.AuxChannels
Purpose: The auxiliary channels of a datapath: the circular list with its head, tail and count,
  the calls that add, remove, look up and list channels, the close of the main channel, and when
  the list is right: exactly along the runs in which no channel is added beside another one.
Source: dprm/dprm.c, dprm/dprmapi.c, transport/base/trnsprt_channel.c,
  transport/base/channel_fsm.c, include/dprmldef.h
Trusted boundary: the handle of the datapath resolves, a removed channel is freed before the next
  call, and `fsm_xprt_proto_channel_detach_dp` is the removal of the main connection, whose entry
  is all of the list that it clears
-/
import OpenFlowController.Library.Enumeration
import OpenFlowController.Library.Run
import OpenFlowController.Utils.Mchash

namespace OpenFlowController.Dprm

open Library Utils

/-- `dprm_dp_channel_entry_t` of an auxiliary channel; `allocated` is false once it was given
back. -/
structure DpChannelEntry where
  next : Option Nat
  prev : Option Nat
  auxiliaryId : Nat
  connSafeRef : MchashNoderef
  allocated : Bool

/-- What a `dprm_datapath_entry` has of its channels, with the entries behind the pointers. -/
structure AuxChannels where
  isMainConnPresent : Bool
  auxChannels : Option Nat
  auxChnTail : Option Nat
  currNoOfAuxChanels : UInt8
  entries : Nat → DpChannelEntry
  nextBlock : Nat
  /-- memory was used through a null pointer or after it was freed, or a loop did not end -/
  undefined : Bool

/-- `OF_TRNSPRT_MAIN_CONN_ID`. -/
def mainConnId : Nat := 0

/-- What a search for a channel ends with. -/
inductive Seek where
  | main
  | found (channel : Nat)
  | absent
  | undefined

/-- What the calls that list the channels read of a `cntlr_channel_info_t`. -/
structure AuxchannelInfo where
  auxiliaryId : Nat
  recvBytes : Nat
  txBytes : Nat

/-- What the calls that list the channels end with. -/
inductive AuxListing where
  | failure
  | undefined

namespace AuxChannels

/-- The channels of a datapath that was just registered. -/
def initial : AuxChannels where
  isMainConnPresent := false
  auxChannels := none
  auxChnTail := none
  currNoOfAuxChanels := 0
  entries := fun _ =>
    { next := none, prev := none, auxiliaryId := 0, connSafeRef := { index := 0, magic := 0 }
      allocated := false }
  nextBlock := 0
  undefined := false

def fault (channels : AuxChannels) : AuxChannels :=
  { channels with undefined := true }

/-- An entry rewritten by `change`. -/
def write (channels : AuxChannels) (channel : Nat)
    (change : DpChannelEntry → DpChannelEntry) : AuxChannels :=
  { channels with
    entries := Function.update channels.entries channel (change (channels.entries channel)) }

/-- The entry behind a pointer, if one is there. -/
def deref (channels : AuxChannels) (pointer : Option Nat) : Option Nat :=
  match pointer with
  | some channel => if (channels.entries channel).allocated then some channel else none
  | none => none

/-! ## Adding -/

/-- The list writes of `of_add_channel_to_dp` for a channel that was allocated. -/
def append (channels : AuxChannels) (channel : Nat) : AuxChannels :=
  match channels.auxChannels with
  | none =>
    { (channels.write channel fun entry =>
        { entry with prev := some channel, next := some channel }) with
      auxChannels := some channel
      auxChnTail := some channel
      currNoOfAuxChanels := channels.currNoOfAuxChanels + 1 }
  | some head =>
    match channels.deref channels.auxChnTail with
    | none => channels.fault
    | some tail =>
      { ((channels.write tail fun entry => { entry with next := some channel }).write channel
          fun entry => { entry with prev := some tail, next := some head }) with
        auxChnTail := some channel
        currNoOfAuxChanels := channels.currNoOfAuxChanels + 1 }

/-- `of_add_channel_to_dp`; the connection that is not the first one is auxiliary whatever its
id is. -/
def ofAddChannelToDp (channels : AuxChannels) (auxiliaryId : UInt8)
    (connSafeRef : MchashNoderef) (memory : Bool) : AuxChannels :=
  if channels.isMainConnPresent = false then
    if auxiliaryId.toNat ≠ mainConnId then channels
    else if memory = false then channels
    else { channels with isMainConnPresent := true }
  else if memory = false then channels
  else
    let channel := channels.nextBlock
    { channels with
      nextBlock := channel + 1
      entries := Function.update channels.entries channel
        { next := none, prev := none, auxiliaryId := auxiliaryId.toNat
          connSafeRef := connSafeRef, allocated := true } }.append channel

/-! ## Looking up and removing -/

/-- The loop that looks for an id from `current` on.  No walk that ends meets more channels
than were ever allocated. -/
def seek (channels : AuxChannels) (auxiliaryId : Nat) : Nat → Option Nat → Seek
  | 0, _ => .undefined
  | fuel + 1, current =>
    match channels.deref current with
    | none => .undefined
    | some channel =>
      if (channels.entries channel).auxiliaryId = auxiliaryId then .found channel
      else if (channels.entries channel).next = channels.auxChannels then .absent
      else channels.seek auxiliaryId fuel (channels.entries channel).next

/-- The search through the whole list. -/
def seekChannel (channels : AuxChannels) (auxiliaryId : Nat) : Seek :=
  channels.seek auxiliaryId (channels.nextBlock + 1) channels.auxChannels

def ofGetDpChannel (channels : AuxChannels) (auxiliaryId : Nat) : Seek :=
  if auxiliaryId = mainConnId then .main else channels.seekChannel auxiliaryId

/-- The list writes of `of_remove_channel_from_dp`, and the release of the channel. -/
def unlink (channels : AuxChannels) (channel : Nat) : AuxChannels :=
  match channels.deref (channels.entries channel).prev,
      channels.deref (channels.entries channel).next with
  | some prev, some next =>
    let linked :=
      (channels.write prev fun entry =>
          { entry with next := (channels.entries channel).next }).write next
        fun entry => { entry with prev := (channels.entries channel).prev }
    let count := channels.currNoOfAuxChanels - 1
    { (linked.write channel fun entry => { entry with allocated := false }) with
      currNoOfAuxChanels := count
      auxChannels :=
        if count = 0 then none
        else if channels.auxChannels = some channel then (linked.entries channel).next
        else channels.auxChannels }
  | _, _ => channels.fault

def ofRemoveChannelFromDp (channels : AuxChannels) (auxiliaryId : Nat) : AuxChannels :=
  match channels.ofGetDpChannel auxiliaryId with
  | .main => { channels with isMainConnPresent := false }
  | .found channel => channels.unlink channel
  | .absent => channels
  | .undefined => channels.fault

/-- The loop of `fsm_xprt_proto_channel_close` over the auxiliary channels of a datapath whose
main channel closes; `closes` tells of which channels the connection is found and closed. -/
def closeLoop (closes : Nat → Bool) : Nat → AuxChannels → AuxChannels
  | 0, channels => channels
  | fuel + 1, channels =>
    if channels.currNoOfAuxChanels = 0 then channels
    else
      match channels.deref channels.auxChnTail with
      | none => channels.fault
      | some tail =>
        if closes tail then
          let relinked :=
            if channels.auxChnTail = channels.auxChannels then channels
            else
              match channels.deref (channels.entries tail).prev with
              | none => channels.fault
              | some prev =>
                { (channels.write prev fun entry =>
                    { entry with next := channels.auxChannels }) with
                  auxChnTail := some prev }
          let count := channels.currNoOfAuxChanels - 1
          closeLoop closes fuel
            { (relinked.write tail fun entry => { entry with allocated := false }) with
              currNoOfAuxChanels := count
              auxChannels := if count = 0 then none else channels.auxChannels
              auxChnTail := if count = 0 then none else relinked.auxChnTail }
        else channels

/-- The auxiliary part of `fsm_xprt_proto_channel_close` for a main channel. -/
def mainChannelClose (channels : AuxChannels) (closes : Nat → Bool) : AuxChannels :=
  if channels.isMainConnPresent ∧ channels.auxChannels ≠ none then
    closeLoop closes channels.currNoOfAuxChanels.toNat channels
  else channels

/-! ## Listing -/

/-- The answer made of a channel entry: the information behind its safe reference. -/
def channelAnswer (channels : AuxChannels) (connections : MchashNoderef → Option AuxchannelInfo)
    (channel : Nat) : Reply Nat AuxchannelInfo AuxListing :=
  match connections (channels.entries channel).connSafeRef with
  | some info => .found info.auxiliaryId info
  | none => .ended .failure

/-- `dprm_get_first_auxchannel_info`; the key of the answer is the id it gives. -/
def dprmGetFirstAuxchannelInfo (channels : AuxChannels)
    (connections : MchashNoderef → Option AuxchannelInfo) : Reply Nat AuxchannelInfo AuxListing :=
  match channels.auxChannels with
  | none => .ended .failure
  | some head =>
    match channels.deref (some head) with
    | none => .ended .undefined
    | some channel => channels.channelAnswer connections channel

def dprmGetNextAuxchannelInfo (channels : AuxChannels)
    (connections : MchashNoderef → Option AuxchannelInfo) (auxiliaryId : Nat) :
    Reply Nat AuxchannelInfo AuxListing :=
  if channels.currNoOfAuxChanels.toNat ≤ auxiliaryId then .ended .failure
  else
    match channels.seekChannel auxiliaryId with
    | .undefined => .ended .undefined
    | .main => .ended .failure
    | .absent => .ended .failure
    | .found channel =>
      match channels.deref (channels.entries channel).next with
      | none => .ended .undefined
      | some next => channels.channelAnswer connections next

/-! ## Runs -/

/-- One call on the channels of a datapath. -/
inductive AuxEvent where
  | add (auxiliaryId : UInt8) (connSafeRef : MchashNoderef) (memory : Bool)
  | remove (auxiliaryId : Nat)
  | closeMain (closes : Nat → Bool)
  | lookUp (auxiliaryId : Nat)
  | list (connections : MchashNoderef → Option AuxchannelInfo)

def step (channels : AuxChannels) : AuxEvent → AuxChannels
  | .add auxiliaryId connSafeRef memory =>
    channels.ofAddChannelToDp auxiliaryId connSafeRef memory
  | .remove auxiliaryId => channels.ofRemoveChannelFromDp auxiliaryId
  | .closeMain closes => channels.mainChannelClose closes
  | .lookUp _ => channels
  | .list _ => channels

end AuxChannels

open List Function

/-! ## What the list promises -/

/-- One channel is followed by another, in both directions. -/
def NextTo (entries : Nat → DpChannelEntry) (before after : Nat) : Prop :=
  (entries before).next = some after ∧ (entries after).prev = some before

/-- The channels are the members of a ring, from the first one on. -/
def RingOf (entries : Nat → DpChannelEntry) : List Nat → Prop
  | [] => True
  | first :: rest => List.IsChain (NextTo entries) (first :: rest ++ [first])

namespace AuxChannels

/-- The list has these members: they are on a ring that begins at the head and has the tail,
there is no list without them, each is an auxiliary channel, and the counter is their
number. -/
structure ListOf (channels : AuxChannels) (members : List Nat) : Prop where
  head : channels.auxChannels = members.head?
  tail : members ≠ [] → ∃ channel ∈ members, channels.auxChnTail = some channel
  ring : RingOf channels.entries members
  once : members.Nodup
  allocated : ∀ channel ∈ members, (channels.entries channel).allocated = true
  auxiliary : ∀ channel ∈ members, (channels.entries channel).auxiliaryId ≠ mainConnId
  counted : channels.currNoOfAuxChanels.toNat = members.length

/-- The members that a call leaves. -/
def membersAfter (channels : AuxChannels) (members : List Nat) : AuxEvent → List Nat
  | .add _ _ memory =>
    if channels.isMainConnPresent ∧ memory then members ++ [channels.nextBlock] else members
  | .remove auxiliaryId =>
    members.filter fun channel =>
      auxiliaryId = mainConnId ∨ (channels.entries channel).auxiliaryId ≠ auxiliaryId
  | .closeMain closes =>
    if channels.isMainConnPresent then members.rdropWhile closes else members
  | .lookUp _ => members
  | .list _ => members

/-- A look-up of an auxiliary id finds the member that has it, or no member has it. -/
def LookedUp (channels : AuxChannels) (members : List Nat) (auxiliaryId : Nat) : Prop :=
  (∃ channel ∈ members, (channels.entries channel).auxiliaryId = auxiliaryId ∧
      channels.ofGetDpChannel auxiliaryId = .found channel) ∨
    ((∀ channel ∈ members, (channels.entries channel).auxiliaryId ≠ auxiliaryId) ∧
      channels.ofGetDpChannel auxiliaryId = .absent)

/-- The first call and next calls list every member once, by its id, and then stop. -/
def Listed (channels : AuxChannels) (members : List Nat)
    (connections : MchashNoderef → Option AuxchannelInfo) : Prop :=
  ∃ order, (order.map Prod.fst).Perm
      (members.map fun channel => (channels.entries channel).auxiliaryId) ∧
    Enumerates (channels.dprmGetNextAuxchannelInfo connections)
      (channels.dprmGetFirstAuxchannelInfo connections) order .failure

/-- What a call answers agrees with the members. -/
def AnswerRight (channels : AuxChannels) (members : List Nat) : AuxEvent → Prop
  | .lookUp auxiliaryId =>
    auxiliaryId ≠ mainConnId → channels.LookedUp members auxiliaryId
  | .list connections => channels.Listed members connections
  | .add _ _ _ | .remove _ | .closeMain _ => True

/-- One call is right: it finds a list, leaves the list it should, answers right, and uses no
memory that it must not. -/
def StepRight (channels : AuxChannels) (event : AuxEvent) : Prop :=
  ∃ members, channels.ListOf members ∧
    (channels.step event).ListOf (channels.membersAfter members event) ∧
    (channels.step event).undefined = false ∧ channels.AnswerRight members event

/-- The condition on a call and the channels it finds: a channel is added to an empty list and
under an auxiliary id, an empty list is not searched, and the connection of the channel listed
is known under its id. -/
def StepFits (channels : AuxChannels) : AuxEvent → Prop
  | .add auxiliaryId _ memory =>
    channels.isMainConnPresent = true → memory = true →
      channels.auxChannels = none ∧ auxiliaryId.toNat ≠ mainConnId
  | .remove auxiliaryId => auxiliaryId ≠ mainConnId → channels.auxChannels ≠ none
  | .closeMain _ => True
  | .lookUp auxiliaryId => auxiliaryId ≠ mainConnId → channels.auxChannels ≠ none
  | .list connections => ∀ channel, channels.auxChannels = some channel →
      ∃ info, connections (channels.entries channel).connSafeRef = some info ∧
        info.auxiliaryId = (channels.entries channel).auxiliaryId

/-! ## Lists of at most one channel -/

structure NoneLeft (channels : AuxChannels) : Prop where
  head : channels.auxChannels = none
  count : channels.currNoOfAuxChanels = 0

structure OnlyOne (channels : AuxChannels) (channel : Nat) : Prop where
  head : channels.auxChannels = some channel
  tail : channels.auxChnTail = some channel
  count : channels.currNoOfAuxChanels = 1
  next : (channels.entries channel).next = some channel
  prev : (channels.entries channel).prev = some channel
  allocated : (channels.entries channel).allocated = true
  auxiliary : (channels.entries channel).auxiliaryId ≠ mainConnId
  known : channel < channels.nextBlock

/-- The list has no channel or one. -/
inductive Short (channels : AuxChannels) : List Nat → Prop where
  | none : channels.NoneLeft → Short channels []
  | one {channel : Nat} : channels.OnlyOne channel → Short channels [channel]

/-- The channels have a short list, and no memory was used that must not be. -/
structure AtMostOne (channels : AuxChannels) : Prop where
  defined : channels.undefined = false
  short : ∃ members, channels.Short members

variable {channels : AuxChannels} {channel : Nat} {members : List Nat}

theorem NoneLeft.listOf (empty : channels.NoneLeft) : channels.ListOf [] where
  head := empty.head
  tail := fun other => absurd rfl other
  ring := trivial
  once := nodup_nil
  allocated := fun _ member => absurd member not_mem_nil
  auxiliary := fun _ member => absurd member not_mem_nil
  counted := by rw [empty.count]; rfl

theorem OnlyOne.listOf (single : channels.OnlyOne channel) : channels.ListOf [channel] where
  head := single.head
  tail := fun _ => ⟨channel, mem_singleton_self channel, single.tail⟩
  ring := List.IsChain.cons_cons ⟨single.next, single.prev⟩ (List.IsChain.singleton _)
  once := by simp
  allocated := by
    intro other member
    rw [mem_singleton.mp member]
    exact single.allocated
  auxiliary := by
    intro other member
    rw [mem_singleton.mp member]
    exact single.auxiliary
  counted := by rw [single.count]; rfl

theorem NoneLeft.members_eq (empty : channels.NoneLeft) (listed : channels.ListOf members) :
    members = [] := by
  have head := listed.head
  rw [empty.head] at head
  exact head?_eq_none_iff.mp head.symm

theorem OnlyOne.members_eq (single : channels.OnlyOne channel)
    (listed : channels.ListOf members) : members = [channel] := by
  have counted := listed.counted
  rw [single.count] at counted
  obtain ⟨other, rfl⟩ := length_eq_one_iff.mp counted.symm
  have head := listed.head
  rw [single.head] at head
  rw [Option.some.inj head]

theorem Short.listOf (short : channels.Short members) : channels.ListOf members := by
  cases short with
  | none empty => exact empty.listOf
  | one single => exact single.listOf

theorem Short.setMain (short : channels.Short members) (isMainConnPresent : Bool) :
    Short { channels with isMainConnPresent := isMainConnPresent } members := by
  cases short with
  | none empty => exact Short.none ⟨empty.head, empty.count⟩
  | one single =>
    exact Short.one ⟨single.head, single.tail, single.count, single.next, single.prev,
      single.allocated, single.auxiliary, single.known⟩

theorem OnlyOne.deref_eq (single : channels.OnlyOne channel) :
    channels.deref (some channel) = some channel :=
  if_pos single.allocated

/-! ## What each call does -/

theorem NoneLeft.seek_eq (empty : channels.NoneLeft) (auxiliaryId : Nat) :
    channels.seekChannel auxiliaryId = .undefined := by
  rw [seekChannel, empty.head, seek]
  rfl

theorem OnlyOne.seek_eq (single : channels.OnlyOne channel) (auxiliaryId : Nat) :
    channels.seekChannel auxiliaryId =
      if (channels.entries channel).auxiliaryId = auxiliaryId then .found channel
      else .absent := by
  rw [seekChannel, single.head, seek, single.deref_eq]
  dsimp only
  split
  · rfl
  · rw [if_pos (single.next.trans single.head.symm)]

theorem OnlyOne.unlink_eq (single : channels.OnlyOne channel) :
    (channels.unlink channel).NoneLeft ∧ (channels.unlink channel).undefined =
      channels.undefined := by
  have last : channels.currNoOfAuxChanels - 1 = 0 := by
    rw [single.count]
    rfl
  unfold unlink
  rw [single.prev, single.next, single.deref_eq]
  rw [last]
  exact ⟨⟨rfl, rfl⟩, rfl⟩

theorem NoneLeft.add_eq (empty : channels.NoneLeft) (main : channels.isMainConnPresent = true)
    (auxiliaryId : UInt8) (connSafeRef : MchashNoderef) :
    channels.ofAddChannelToDp auxiliaryId connSafeRef true =
      { channels with
        auxChannels := some channels.nextBlock
        auxChnTail := some channels.nextBlock
        currNoOfAuxChanels := 1
        entries := update channels.entries channels.nextBlock
          { next := some channels.nextBlock, prev := some channels.nextBlock
            auxiliaryId := auxiliaryId.toNat, connSafeRef := connSafeRef, allocated := true }
        nextBlock := channels.nextBlock + 1 } := by
  rw [ofAddChannelToDp, if_neg (by rw [main]; exact nofun), if_neg nofun]
  dsimp only [append]
  rw [empty.head]
  dsimp only [write]
  rw [empty.count, update_self, update_idem]
  rfl

theorem OnlyOne.add_eq (single : channels.OnlyOne channel)
    (main : channels.isMainConnPresent = true) (auxiliaryId : UInt8)
    (connSafeRef : MchashNoderef) :
    ((channels.ofAddChannelToDp auxiliaryId connSafeRef true).entries channel).prev =
      some channel := by
  have apart : channel ≠ channels.nextBlock := Nat.ne_of_lt single.known
  rw [ofAddChannelToDp, if_neg (by rw [main]; exact nofun), if_neg nofun]
  dsimp only [append]
  rw [single.head, single.tail]
  simp only [deref, update_of_ne apart, single.allocated, if_true, write, update_self]
  exact single.prev

theorem OnlyOne.closeMain_eq (single : channels.OnlyOne channel)
    (main : channels.isMainConnPresent = true) (closes : Nat → Bool) :
    (closes channel = true → (channels.mainChannelClose closes).NoneLeft ∧
        (channels.mainChannelClose closes).undefined = channels.undefined) ∧
      (closes channel = false → channels.mainChannelClose closes = channels) := by
  have entered : channels.mainChannelClose closes = closeLoop closes 1 channels := by
    rw [mainChannelClose, if_pos ⟨main, by rw [single.head]; exact nofun⟩, single.count]
    rfl
  have turn : ¬ channels.currNoOfAuxChanels = 0 := by
    rw [single.count]
    decide
  rw [entered, closeLoop, if_neg turn, single.tail, single.deref_eq]
  dsimp only
  constructor
  · intro closed
    have last : channels.currNoOfAuxChanels - 1 = 0 := by
      rw [single.count]
      rfl
    rw [if_pos closed, if_pos single.head.symm]
    rw [last]
    exact ⟨⟨rfl, rfl⟩, rfl⟩
  · intro kept
    rw [if_neg (by rw [kept]; exact nofun)]

/-! ## One call -/

theorem NoneLeft.seeks (empty : channels.NoneLeft) {auxiliaryId : Nat}
    (auxiliary : auxiliaryId ≠ mainConnId) :
    channels.ofGetDpChannel auxiliaryId = .undefined := by
  rw [ofGetDpChannel, if_neg auxiliary]
  exact empty.seek_eq auxiliaryId

theorem OnlyOne.lookedUp (single : channels.OnlyOne channel) {auxiliaryId : Nat}
    (auxiliary : auxiliaryId ≠ mainConnId) : channels.LookedUp [channel] auxiliaryId := by
  have sought : channels.ofGetDpChannel auxiliaryId = _ :=
    (if_neg auxiliary).trans (single.seek_eq auxiliaryId)
  by_cases same : (channels.entries channel).auxiliaryId = auxiliaryId
  · rw [if_pos same] at sought
    exact .inl ⟨channel, mem_singleton_self channel, same, sought⟩
  · rw [if_neg same] at sought
    refine .inr ⟨fun other member => ?_, sought⟩
    rw [mem_singleton.mp member]
    exact same

/-- The only channel is listed exactly when its connection has its id. -/
theorem OnlyOne.listed_iff (single : channels.OnlyOne channel)
    (connections : MchashNoderef → Option AuxchannelInfo) :
    channels.Listed [channel] connections ↔
      ∃ info, connections (channels.entries channel).connSafeRef = some info ∧
        info.auxiliaryId = (channels.entries channel).auxiliaryId := by
  have first : channels.dprmGetFirstAuxchannelInfo connections =
      channels.channelAnswer connections channel := by
    rw [dprmGetFirstAuxchannelInfo, single.head]
    dsimp only
    rw [single.deref_eq]
  rw [Listed, first, channelAnswer]
  constructor
  · rintro ⟨order, keys, enumerated⟩
    have keys := perm_singleton.mp keys
    cases known : connections (channels.entries channel).connSafeRef with
    | none =>
      rw [known] at enumerated
      cases enumerated
      cases keys
    | some info =>
    rw [known] at enumerated
    cases enumerated with
    | found calls => exact ⟨info, rfl, (List.cons.inj keys).1⟩
  · rintro ⟨info, known, same⟩
    rw [known]
    refine ⟨[(info.auxiliaryId, info)], by simp [same], Enumerates.found ?_⟩
    -- The only id is not less than the number of channels.
    have stopped : channels.dprmGetNextAuxchannelInfo connections info.auxiliaryId =
        .ended .failure := by
      rw [dprmGetNextAuxchannelInfo, single.count, same]
      exact if_pos (Nat.pos_of_ne_zero single.auxiliary)
    rw [stopped]
    exact Enumerates.ended _

theorem ofAddChannelToDp_other (auxiliaryId : UInt8) (connSafeRef : MchashNoderef)
    {memory : Bool} (other : ¬ (channels.isMainConnPresent = true ∧ memory = true)) :
    ∃ isMainConnPresent, channels.ofAddChannelToDp auxiliaryId connSafeRef memory =
      { channels with isMainConnPresent := isMainConnPresent } := by
  unfold ofAddChannelToDp
  by_cases main : channels.isMainConnPresent = false
  · rw [if_pos main]
    split
    · exact ⟨channels.isMainConnPresent, rfl⟩
    · split
      · exact ⟨channels.isMainConnPresent, rfl⟩
      · exact ⟨true, rfl⟩
  · have absent : memory = false :=
      Bool.eq_false_iff.mpr fun memory => other ⟨(Bool.not_eq_false _).mp main, memory⟩
    rw [if_neg main, if_pos absent]
    exact ⟨channels.isMainConnPresent, rfl⟩

/-- What a call that meets the condition leaves of a short list. -/
def Kept (channels : AuxChannels) (members : List Nat) (event : AuxEvent) : Prop :=
  (channels.step event).Short (channels.membersAfter members event) ∧
    (channels.step event).undefined = channels.undefined ∧ channels.AnswerRight members event

theorem Short.add_other (short : channels.Short members) (auxiliaryId : UInt8)
    (connSafeRef : MchashNoderef) {memory : Bool}
    (other : ¬ (channels.isMainConnPresent = true ∧ memory = true)) :
    channels.Kept members (.add auxiliaryId connSafeRef memory) := by
  obtain ⟨isMainConnPresent, same⟩ := ofAddChannelToDp_other auxiliaryId connSafeRef other
  dsimp only [Kept, step, membersAfter]
  rw [same, if_neg other]
  exact ⟨short.setMain _, rfl, trivial⟩

/-- A call that fits keeps the empty list right. -/
theorem NoneLeft.kept (empty : channels.NoneLeft) {event : AuxEvent}
    (fits : channels.StepFits event) : channels.Kept [] event := by
  cases event with
  | add auxiliaryId connSafeRef memory =>
    by_cases added : channels.isMainConnPresent = true ∧ memory = true
    case neg => exact (Short.none empty).add_other auxiliaryId connSafeRef added
    case pos =>
    obtain ⟨main, rfl⟩ := added
    dsimp only [Kept, step, membersAfter]
    rw [empty.add_eq main auxiliaryId connSafeRef, if_pos ⟨main, rfl⟩]
    refine ⟨Short.one ?_, rfl, trivial⟩
    exact
      { head := rfl, tail := rfl, count := rfl
        next := by dsimp only; rw [update_self]
        prev := by dsimp only; rw [update_self]
        allocated := by dsimp only; rw [update_self]
        auxiliary := by dsimp only; rw [update_self]; exact (fits main rfl).2
        known := Nat.lt_succ_self _ }
  | remove auxiliaryId =>
    by_cases main : auxiliaryId = mainConnId
    case neg => exact absurd empty.head (fits main)
    case pos =>
      dsimp only [Kept, step, ofRemoveChannelFromDp, ofGetDpChannel]
      rw [if_pos main]
      exact ⟨(Short.none empty).setMain false, rfl, trivial⟩
  | closeMain closes =>
    have same : channels.mainChannelClose closes = channels :=
      if_neg fun opened => opened.2 empty.head
    dsimp only [Kept, step, membersAfter]
    rw [same, rdropWhile_nil, ite_self]
    exact ⟨Short.none empty, rfl, trivial⟩
  | lookUp auxiliaryId =>
    exact ⟨Short.none empty, rfl, fun auxiliary => absurd empty.head (fits auxiliary)⟩
  | list connections =>
  refine ⟨Short.none empty, rfl, [], List.Perm.refl _, ?_⟩
  rw [dprmGetFirstAuxchannelInfo, empty.head]
  exact Enumerates.ended _

/-- A call that fits keeps the list of one channel right. -/
theorem OnlyOne.kept (single : channels.OnlyOne channel) {event : AuxEvent}
    (fits : channels.StepFits event) : channels.Kept [channel] event := by
  have short := Short.one single
  cases event with
  | add auxiliaryId connSafeRef memory =>
    refine short.add_other auxiliaryId connSafeRef fun added => ?_
    have head := (fits added.1 added.2).1
    rw [single.head] at head
    cases head
  | remove auxiliaryId =>
    dsimp only [Kept, step, membersAfter, ofRemoveChannelFromDp, ofGetDpChannel]
    by_cases main : auxiliaryId = mainConnId
    case pos =>
      rw [if_pos main, filter_cons_of_pos (by simp [main])]
      exact ⟨short.setMain false, rfl, trivial⟩
    case neg =>
    rw [if_neg main, single.seek_eq]
    by_cases same : (channels.entries channel).auxiliaryId = auxiliaryId
    case pos =>
      obtain ⟨empty, defined⟩ := single.unlink_eq
      rw [if_pos same, filter_cons_of_neg (by simp [main, same])]
      exact ⟨Short.none empty, defined, trivial⟩
    case neg =>
      rw [if_neg same, filter_cons_of_pos (by simp [same])]
      exact ⟨short, rfl, trivial⟩
  | closeMain closes =>
    dsimp only [Kept, step, membersAfter]
    by_cases main : channels.isMainConnPresent = true
    case neg =>
      have same : channels.mainChannelClose closes = channels :=
        if_neg fun opened => main opened.1
      rw [same, if_neg main]
      exact ⟨short, rfl, trivial⟩
    case pos =>
      obtain ⟨closed, kept⟩ := single.closeMain_eq main closes
      rw [if_pos main]
      by_cases doesClose : closes channel = true
      case pos =>
        obtain ⟨empty, defined⟩ := closed doesClose
        have left : List.rdropWhile closes [channel] = [] := by
          simp [List.rdropWhile, doesClose]
        rw [left]
        exact ⟨Short.none empty, defined, trivial⟩
      case neg =>
        have left : List.rdropWhile closes [channel] = [channel] := by
          simp [List.rdropWhile, doesClose]
        rw [kept (Bool.eq_false_iff.mpr doesClose), left]
        exact ⟨short, rfl, trivial⟩
  | lookUp auxiliaryId => exact ⟨short, rfl, single.lookedUp⟩
  | list connections =>
    exact ⟨short, rfl, (single.listed_iff connections).mpr (fits channel single.head)⟩

theorem Short.kept (short : channels.Short members) {event : AuxEvent}
    (fits : channels.StepFits event) : channels.Kept members event := by
  cases short with
  | none empty => exact empty.kept fits
  | one single => exact single.kept fits

/-- On the empty list only a call that fits is right. -/
theorem NoneLeft.fits (empty : channels.NoneLeft) {event : AuxEvent}
    (right : channels.StepRight event) : channels.StepFits event := by
  obtain ⟨members, listed, after, defined, answer⟩ := right
  obtain rfl := empty.members_eq listed
  cases event with
  | add auxiliaryId connSafeRef memory =>
    rintro main rfl
    refine ⟨empty.head, fun same => ?_⟩
    have auxiliary := after.auxiliary
    dsimp only [step, membersAfter] at auxiliary
    rw [empty.add_eq main auxiliaryId connSafeRef, if_pos ⟨main, rfl⟩] at auxiliary
    refine auxiliary channels.nextBlock (mem_singleton_self _) ?_
    dsimp only
    rw [update_self]
    exact same
  | remove auxiliaryId =>
    intro auxiliary
    dsimp only [step, ofRemoveChannelFromDp] at defined
    rw [empty.seeks auxiliary] at defined
    cases defined
  | closeMain closes => trivial
  | lookUp auxiliaryId =>
    intro auxiliary
    obtain ⟨channel, member, -, -⟩ | ⟨-, absent⟩ := answer auxiliary
    · exact absurd member not_mem_nil
    · rw [empty.seeks auxiliary] at absent
      cases absent
  | list connections =>
  intro channel head
  rw [empty.head] at head
  cases head

/-- On a list of one channel only a call that fits is right. -/
theorem OnlyOne.fits (single : channels.OnlyOne channel) {event : AuxEvent}
    (right : channels.StepRight event) : channels.StepFits event := by
  have present : channels.auxChannels ≠ none := by
    rw [single.head]
    exact nofun
  obtain ⟨members, listed, after, defined, answer⟩ := right
  obtain rfl := single.members_eq listed
  cases event with
  | add auxiliaryId connSafeRef memory =>
    rintro main rfl
    -- The new channel is the last of the ring, and the head does not point back to it.
    have ring := after.ring
    dsimp only [step, membersAfter] at ring
    rw [if_pos ⟨main, rfl⟩] at ring
    have last := (isChain_cons_cons.mp (isChain_cons_cons.mp ring).2).1.2
    rw [single.add_eq main auxiliaryId connSafeRef] at last
    exact absurd (Option.some.inj last) (Nat.ne_of_lt single.known)
  | remove auxiliaryId => exact fun _ => present
  | closeMain closes => trivial
  | lookUp auxiliaryId => exact fun _ => present
  | list connections =>
  intro other head
  rw [single.head] at head
  cases head
  exact (single.listed_iff connections).mp answer

/-! ## Every run -/

theorem AtMostOne.initial : AuxChannels.initial.AtMostOne :=
  ⟨rfl, [], Short.none ⟨rfl, rfl⟩⟩

theorem AtMostOne.stepRight_iff (most : channels.AtMostOne) (event : AuxEvent) :
    channels.StepRight event ↔ channels.StepFits event := by
  obtain ⟨defined, members, short⟩ := most
  constructor
  · intro right
    cases short with
    | none empty => exact empty.fits right
    | one single => exact single.fits right
  · intro fits
    obtain ⟨after, undefined, answer⟩ := short.kept fits
    exact ⟨members, short.listOf, after.listOf, undefined.trans defined, answer⟩

theorem AtMostOne.step_of_fits (most : channels.AtMostOne) {event : AuxEvent}
    (fits : channels.StepFits event) : (channels.step event).AtMostOne := by
  obtain ⟨defined, members, short⟩ := most
  obtain ⟨after, undefined, -⟩ := short.kept fits
  exact ⟨undefined.trans defined, _, after⟩

/-- Over any calls on a new datapath, the list of auxiliary channels is right at every call
exactly when every call meets the condition. -/
theorem aux_channels_right_iff (events : List AuxEvent) :
    Along step StepRight initial events ↔ Along step StepFits initial events :=
  (Along.iff_of_invariant (fun _ _ most fits => most.step_of_fits fits)
    (fun _ event most => (most.stepRight_iff event).symm) AtMostOne.initial).symm

/-- The main connection and two auxiliary ones: the list is wrong after the second auxiliary
channel. -/
theorem second_aux_channel_not_linked :
    ¬ Along step StepRight initial
      [.add 0 { index := 1, magic := 1 } true, .add 1 { index := 2, magic := 1 } true,
        .add 2 { index := 3, magic := 1 } true] := by
  rintro ⟨-, -, right, -⟩
  have main : (initial.step (.add 0 { index := 1, magic := 1 } true)).AtMostOne :=
    AtMostOne.initial.step_of_fits fun present => by cases present
  have alone : (initial.step (.add 0 { index := 1, magic := 1 } true)).StepFits
      (.add 1 { index := 2, magic := 1 } true) := fun _ _ => ⟨rfl, by decide⟩
  have first := main.step_of_fits alone
  have fits := (first.stepRight_iff _).mp right
  cases (fits rfl rfl).1

end AuxChannels

end OpenFlowController.Dprm
