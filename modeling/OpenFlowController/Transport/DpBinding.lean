/-
Module: Transport.DpBinding
Purpose: The main reference, the auxiliary list and the count of a datapath
  agree with the channels that are bound to it, in every run without the steps
  that clear a datapath through one of its auxiliary channels.
Trusted boundary: none
-/
import OpenFlowController.Transport.DpChannel

namespace OpenFlowController.Transport

open Library List Function

/-! ## Roles of a channel -/

/-- The channel is added to the datapath as its main channel. -/
def ChannelInfo.MainOf (info : ChannelInfo) (datapath : Nat) : Prop :=
  info.isChnAddedToDp = true ∧ info.datapath = some datapath ∧ info.auxiliaryId = 0

/-- The channel is added to the datapath with an auxiliary id of its own. -/
def ChannelInfo.AuxOf (info : ChannelInfo) (datapath : Nat) : Prop :=
  info.isChnAddedToDp = true ∧ info.datapath = some datapath ∧ info.auxiliaryId ≠ 0

instance (info : ChannelInfo) (datapath : Nat) : Decidable (info.MainOf datapath) :=
  inferInstanceAs (Decidable (_ ∧ _ ∧ _))

instance (info : ChannelInfo) (datapath : Nat) : Decidable (info.AuxOf datapath) :=
  inferInstanceAs (Decidable (_ ∧ _ ∧ _))

namespace ChannelInfo

variable {info : ChannelInfo} {datapath datapath' : Nat}

theorem MainOf.unique (main : info.MainOf datapath) (other : info.MainOf datapath') :
    datapath' = datapath := by
  obtain ⟨_, attached, _⟩ := main
  obtain ⟨_, attached', _⟩ := other
  exact Option.some.inj (attached'.symm.trans attached)

theorem MainOf.not_auxOf (main : info.MainOf datapath) : ¬ info.AuxOf datapath' := by
  intro aux
  exact aux.2.2 main.2.2

theorem AuxOf.unique (aux : info.AuxOf datapath) (other : info.AuxOf datapath') :
    datapath' = datapath := by
  obtain ⟨_, attached, _⟩ := aux
  obtain ⟨_, attached', _⟩ := other
  exact Option.some.inj (attached'.symm.trans attached)

theorem not_mainOf_of_not_added (notAdded : info.isChnAddedToDp = false) :
    ¬ info.MainOf datapath := by
  intro main
  exact Bool.false_ne_true (notAdded.symm.trans main.1)

theorem not_auxOf_of_not_added (notAdded : info.isChnAddedToDp = false) :
    ¬ info.AuxOf datapath := by
  intro aux
  exact Bool.false_ne_true (notAdded.symm.trans aux.1)

end ChannelInfo

namespace Binding

variable (binding : Binding) (channel datapath : Nat) (info : ChannelInfo)
  (change : DatapathEntry → DatapathEntry)

@[simp]
theorem setChannel_same : (binding.setChannel channel info).channels channel = info :=
  update_self _ _ _

variable {other : Nat}

theorem setChannel_other (different : other ≠ channel) :
    (binding.setChannel channel info).channels other = binding.channels other :=
  update_of_ne different _ _

@[simp]
theorem setChannel_setChannel (info' : ChannelInfo) :
    (binding.setChannel channel info).setChannel channel info' =
      binding.setChannel channel info' := by
  simp [setChannel]

@[simp]
theorem modifyDatapath_setChannel :
    (binding.setChannel channel info).modifyDatapath datapath change =
      (binding.modifyDatapath datapath change).setChannel channel info :=
  rfl

attribute [local simp] modifyDatapath

theorem modifyDatapath_modifyDatapath (change' : DatapathEntry → DatapathEntry) :
    (binding.modifyDatapath datapath change).modifyDatapath datapath change' =
      binding.modifyDatapath datapath (fun entry => change' (change entry)) := by
  cases stored : binding.datapaths datapath <;> simp [stored]

theorem modifyDatapath_some {entry : DatapathEntry}
    (stored : (binding.modifyDatapath datapath change).datapaths other = some entry) :
    (other = datapath ∧ ∃ before, binding.datapaths datapath = some before ∧
        change before = entry) ∨
      (other ≠ datapath ∧ binding.datapaths other = some entry) := by
  by_cases same : other = datapath
  · subst same
    left
    simpa using stored
  · right
    exact ⟨same, by simpa [update_of_ne same] using stored⟩

theorem modifyDatapath_present (present : binding.datapaths other ≠ none) :
    (binding.modifyDatapath datapath change).datapaths other ≠ none := by
  by_cases same : other = datapath
  · subst same
    simpa using present
  · simpa [update_of_ne same] using present

theorem modifyDatapath_absent (absent : binding.datapaths other = none) :
    (binding.modifyDatapath datapath change).datapaths other = none := by
  by_cases same : other = datapath
  · subst same
    simp [absent]
  · simpa [update_of_ne same] using absent

variable {binding channel datapath info}

section

variable (notAdded : info.isChnAddedToDp = false)

include notAdded

theorem mainOf_setChannel_notAdded (other datapath' : Nat) :
    ((binding.setChannel channel info).channels other).MainOf datapath' ↔
      (binding.channels other).MainOf datapath' ∧ other ≠ channel := by
  by_cases same : other = channel
  · subst same
    simp [ChannelInfo.not_mainOf_of_not_added notAdded]
  · simp [setChannel_other _ _ _ same, same]

theorem auxOf_setChannel_notAdded (other datapath' : Nat) :
    ((binding.setChannel channel info).channels other).AuxOf datapath' ↔
      (binding.channels other).AuxOf datapath' ∧ other ≠ channel := by
  by_cases same : other = channel
  · subst same
    simp [ChannelInfo.not_auxOf_of_not_added notAdded]
  · simp [setChannel_other _ _ _ same, same]

theorem mainOf_kept (notMain : ¬ (binding.channels channel).MainOf datapath) (other : Nat) :
    (binding.channels other).MainOf datapath ↔
      ((binding.setChannel channel info).channels other).MainOf datapath := by
  rw [mainOf_setChannel_notAdded notAdded]
  constructor
  · intro main
    refine ⟨main, ?_⟩
    rintro rfl
    exact notMain main
  · exact And.left

theorem auxOf_kept (notAux : ¬ (binding.channels channel).AuxOf datapath) (other : Nat) :
    (binding.channels other).AuxOf datapath ↔
      ((binding.setChannel channel info).channels other).AuxOf datapath := by
  rw [auxOf_setChannel_notAdded notAdded]
  constructor
  · intro aux
    refine ⟨aux, ?_⟩
    rintro rfl
    exact notAux aux
  · exact And.left

end

end Binding

/-! ## Entries that agree with the channels -/

/-- The main reference of the entry names the one channel that `owns` it, and
the flag says whether there is one. -/
structure MainBound (entry : DatapathEntry) (owns : Nat → Prop) : Prop where
  present : entry.isMainConnPresent = true ↔ entry.mainChannel.connSafeRef ≠ none
  named : ∀ channel, entry.mainChannel.connSafeRef = some channel ↔ owns channel

/-- The auxiliary list of the entry names the `members`, each once, and the count
is their number. -/
def AuxBound (entry : DatapathEntry) (members : Nat → Prop) : Prop :=
  ∃ ids : List Nat,
    entry.auxChannels.map DpChannelEntry.connSafeRef = ids.map some ∧ ids.Nodup ∧
      (∀ channel, channel ∈ ids ↔ members channel) ∧
        entry.currNoOfAuxChanels.toNat = ids.length

namespace MainBound

variable {entry : DatapathEntry} {owns owns' : Nat → Prop}

theorem congr (bound : MainBound entry owns) (same : ∀ channel, owns channel ↔ owns' channel) :
    MainBound entry owns' :=
  ⟨bound.present, fun channel => (bound.named channel).trans (same channel)⟩

theorem clearMain (unowned : ∀ channel, ¬ owns channel) : MainBound entry.clearMain owns := by
  constructor
  · simp [DatapathEntry.clearMain, DpChannelEntry.zeroed]
  · intro channel
    simp [DatapathEntry.clearMain, DpChannelEntry.zeroed, unowned channel]

variable {dpChannel : DpChannelEntry}

theorem setMain {channel : Nat} (reference : dpChannel.connSafeRef = some channel)
    (owned : ∀ other, owns other ↔ other = channel) : MainBound (entry.setMain dpChannel) owns := by
  constructor
  · simp [DatapathEntry.setMain, reference]
  · intro other
    simp [DatapathEntry.setMain, reference, owned other, eq_comm]

theorem appendAux (bound : MainBound entry owns) : MainBound (entry.appendAux dpChannel) owns :=
  ⟨bound.present, bound.named⟩

theorem create (unowned : ∀ channel, ¬ owns channel) : MainBound DatapathEntry.create owns :=
  @clearMain DatapathEntry.create owns unowned

end MainBound

namespace AuxBound

variable {entry : DatapathEntry} {members members' : Nat → Prop}

theorem congr (bound : AuxBound entry members)
    (same : ∀ channel, members channel ↔ members' channel) : AuxBound entry members' := by
  obtain ⟨ids, references, distinct, exact', count⟩ := bound
  exact ⟨ids, references, distinct, fun channel => (exact' channel).trans (same channel), count⟩

theorem clearMain (bound : AuxBound entry members) : AuxBound entry.clearMain members :=
  bound

variable {dpChannel : DpChannelEntry}

theorem setMain (bound : AuxBound entry members) : AuxBound (entry.setMain dpChannel) members :=
  bound

theorem create (nobody : ∀ channel, ¬ members channel) : AuxBound DatapathEntry.create members :=
  ⟨[], rfl, nodup_nil, by simpa using nobody, rfl⟩

theorem appendAux {channel : Nat} (bound : AuxBound entry members)
    (reference : dpChannel.connSafeRef = some channel) (new : ¬ members channel)
    (room : entry.currNoOfAuxChanels.toNat < 255)
    (same : ∀ other, members' other ↔ members other ∨ other = channel) :
    AuxBound (entry.appendAux dpChannel) members' := by
  obtain ⟨ids, references, distinct, exact', count⟩ := bound
  refine ⟨ids ++ [channel], ?_, ?_, ?_, ?_⟩
  · simp [DatapathEntry.appendAux, references, reference]
  · refine nodup_append.mpr ⟨distinct, nodup_singleton _, ?_⟩
    intro id member id' member' equal
    rw [mem_singleton] at member'
    subst member' equal
    exact new ((exact' id).mp member)
  · intro other
    simp [exact' other, same other]
  · simp only [DatapathEntry.appendAux, length_append, length_singleton,
      UInt8.toNat_add, UInt8.toNat_one]
    rw [Nat.mod_eq_of_lt (by omega), count]

/-- The tail of the list names a member, and unlinking it takes out that member
only. -/
theorem removeTail (bound : AuxBound entry members)
    (tail : entry.auxChannels.getLast? = some dpChannel) :
    ∃ channel, dpChannel.connSafeRef = some channel ∧ members channel ∧
      ∀ members' : Nat → Prop,
        (∀ other, members' other ↔ members other ∧ other ≠ channel) →
          AuxBound entry.removeTail members' := by
  obtain ⟨ids, references, distinct, exact', count⟩ := bound
  obtain ⟨front, listEq⟩ := getLast?_eq_some_iff.mp tail
  obtain ⟨frontIds, lastIds, idsEq, frontReferences, lastReferences⟩ :
      ∃ frontIds lastIds, ids = frontIds ++ lastIds ∧
        frontIds.map some = front.map DpChannelEntry.connSafeRef ∧
          lastIds.map some = [dpChannel.connSafeRef] := by
    rw [listEq, map_append] at references
    obtain ⟨frontIds, lastIds, idsEq, frontEq, lastEq⟩ := map_eq_append_iff.mp references.symm
    exact ⟨frontIds, lastIds, idsEq, frontEq, lastEq⟩
  obtain ⟨channel, rfl, reference⟩ : ∃ channel, lastIds = [channel] ∧
      dpChannel.connSafeRef = some channel := by
    obtain ⟨channel, lastEq, reference⟩ := map_eq_singleton_iff.mp lastReferences
    exact ⟨channel, lastEq, reference.symm⟩
  subst idsEq
  have apart := nodup_append.mp distinct
  refine ⟨channel, reference, (exact' channel).mp (by simp), ?_⟩
  intro members' same
  have pred : (entry.currNoOfAuxChanels - 1).toNat = frontIds.length := by
    have positive : 1 ≤ entry.currNoOfAuxChanels := by
      rw [UInt8.le_iff_toNat_le, count]
      simp
    rw [UInt8.toNat_sub_of_le _ _ positive, count]
    simp
  refine ⟨frontIds, ?_, apart.1, ?_, pred⟩
  · simp only [DatapathEntry.removeTail]
    split
    case isTrue zero =>
      have none' : frontIds.length = 0 := by
        rw [← pred, zero]
        rfl
      simp [length_eq_zero_iff.mp none']
    case isFalse nonzero =>
      rw [listEq, dropLast_concat, frontReferences]
  · intro other
    rw [same other, ← exact' other]
    constructor
    · intro member
      exact ⟨by simp [member], fun equal => apart.2.2 other member channel (by simp) equal⟩
    · rintro ⟨member, different⟩
      simpa [different] using member

end AuxBound

/-! ## The invariant -/

/-- What holds of one channel: it is in the connection table while it listens,
and bound to an existing place while it is added to a datapath. -/
structure ChannelBound (binding : Binding) (channel : Nat) (info : ChannelInfo) : Prop where
  added : info.isChnAddedToDp = true ↔ info.fsmState = .boundToDp
  listening : info.isChnAdded2HashTbl = true ↔
    (info.fsmState = .waitForHandshake ∨ info.fsmState = .boundToDp)
  created : info.isChnAdded2HashTbl = true → channel < binding.numberOfChannels
  attached : info.isChnAddedToDp = true →
    ∃ datapath, info.datapath = some datapath ∧ datapath < binding.numberOfDatapaths ∧
      (info.auxiliaryId = 0 → binding.datapaths datapath ≠ none)

/-- What holds throughout, also between the steps of one event: the auxiliary
lists agree with the channels. -/
structure AuxInv (binding : Binding) : Prop where
  channels : ∀ channel, ChannelBound binding channel (binding.channels channel)
  fresh : ∀ datapath, binding.numberOfDatapaths ≤ datapath → binding.datapaths datapath = none
  aux : ∀ datapath entry, binding.datapaths datapath = some entry →
    AuxBound entry fun channel => (binding.channels channel).AuxOf datapath

/-- Main references and auxiliary lists agree with the channels. -/
structure BindingInv (binding : Binding) : Prop extends AuxInv binding where
  main : ∀ datapath entry, binding.datapaths datapath = some entry →
    MainBound entry fun channel => (binding.channels channel).MainOf datapath

/-- The main channel `owner` of `closing` is about to be detached; the entry of
`closing` may have lost it already. -/
structure ClosingInv (binding : Binding) (closing owner : Nat) : Prop
    extends AuxInv binding where
  main : ∀ datapath entry, datapath ≠ closing → binding.datapaths datapath = some entry →
    MainBound entry fun channel => (binding.channels channel).MainOf datapath
  owned : ∀ channel, (binding.channels channel).MainOf closing ↔ channel = owner

namespace ChannelBound

variable {binding : Binding} {channel : Nat} {info : ChannelInfo}

section

variable (bound : ChannelBound binding channel info)

include bound

theorem waiting (live : info.isChnAdded2HashTbl = true) (notAdded : info.isChnAddedToDp = false) :
    info.fsmState = .waitForHandshake := by
  rcases bound.listening.mp live with waiting | isBound
  · exact waiting
  · have added := bound.added.mpr isBound
    exact absurd (notAdded.symm.trans added) Bool.false_ne_true

theorem live (added : info.isChnAddedToDp = true) : info.isChnAdded2HashTbl = true :=
  bound.listening.mpr (.inr (bound.added.mp added))

theorem unbound (live : info.isChnAdded2HashTbl = true) :
    ChannelBound binding channel info.unbound where
  added := by simp [ChannelInfo.unbound]
  listening := by simp [ChannelInfo.unbound, live]
  created := bound.created
  attached := by simp [ChannelInfo.unbound]

end

attribute [local simp] ChannelInfo.closed

theorem closed (notAdded : info.isChnAddedToDp = false) :
    ChannelBound binding channel info.closed where
  added := by simp [notAdded]
  listening := by simp
  created := by simp
  attached := by simp [notAdded]

end ChannelBound

namespace AuxInv

variable {binding : Binding} {channel datapath : Nat} {info : ChannelInfo}

theorem setChannel_channels (inv : AuxInv binding)
    (bound : ChannelBound binding channel info) (other : Nat) :
    ChannelBound (binding.setChannel channel info) other
      ((binding.setChannel channel info).channels other) := by
  by_cases same : other = channel
  · subst same
    rw [Binding.setChannel_same]
    exact ⟨bound.added, bound.listening, bound.created, bound.attached⟩
  · rw [Binding.setChannel_other _ _ _ same]
    have old := inv.channels other
    exact ⟨old.added, old.listening, old.created, old.attached⟩

theorem write_channels (inv : AuxInv binding) (change : DatapathEntry → DatapathEntry)
    (bound : ChannelBound binding channel info) (other : Nat) :
    ChannelBound ((binding.modifyDatapath datapath change).setChannel channel info) other
      (((binding.modifyDatapath datapath change).setChannel channel info).channels other) := by
  have old := inv.setChannel_channels bound other
  refine ⟨old.added, old.listening, old.created, ?_⟩
  intro added
  obtain ⟨attachedTo, attached, known, present⟩ := old.attached added
  exact ⟨attachedTo, attached, known,
    fun zero => Binding.modifyDatapath_present _ _ _ (present zero)⟩

theorem write_fresh (inv : AuxInv binding) (change : DatapathEntry → DatapathEntry)
    (other : Nat) (beyond : binding.numberOfDatapaths ≤ other) :
    ((binding.modifyDatapath datapath change).setChannel channel info).datapaths other = none :=
  Binding.modifyDatapath_absent _ _ _ (inv.fresh other beyond)

end AuxInv

/-! ## Giving up channels -/

namespace BindingInv

variable {binding : Binding} {channel datapath : Nat} {info : ChannelInfo}

theorem setChannel_notAdded (inv : BindingInv binding)
    (before : (binding.channels channel).isChnAddedToDp = false)
    (after : info.isChnAddedToDp = false) (bound : ChannelBound binding channel info) :
    BindingInv (binding.setChannel channel info) where
  channels := inv.setChannel_channels bound
  fresh := inv.fresh
  aux := fun datapath entry stored =>
    (inv.aux datapath entry stored).congr
      (Binding.auxOf_kept after (ChannelInfo.not_auxOf_of_not_added before))
  main := fun datapath entry stored =>
    (inv.main datapath entry stored).congr
      (Binding.mainOf_kept after (ChannelInfo.not_mainOf_of_not_added before))

theorem closing (inv : BindingInv binding) (main : (binding.channels channel).MainOf datapath) :
    ClosingInv binding datapath channel where
  toAuxInv := inv.toAuxInv
  main := fun other entry _ stored => inv.main other entry stored
  owned := by
    obtain ⟨added, attachedTo, zero⟩ := main
    obtain ⟨attached, sameDatapath, _, present⟩ := (inv.channels channel).attached added
    obtain rfl : datapath = attached := Option.some.inj (attachedTo.symm.trans sameDatapath)
    obtain ⟨entry, stored⟩ := Option.ne_none_iff_exists'.mp (present zero)
    have bound := inv.main datapath entry stored
    have named := (bound.named channel).mpr ⟨added, attachedTo, zero⟩
    intro other
    rw [← bound.named other, named, Option.some.injEq, eq_comm]

end BindingInv

namespace ClosingInv

variable {binding : Binding} {datapath owner channel : Nat} {info : ChannelInfo}

theorem clearMain (inv : ClosingInv binding datapath owner) (after : info.isChnAddedToDp = false)
    (bound : ChannelBound binding owner info) :
    BindingInv
      ((binding.modifyDatapath datapath DatapathEntry.clearMain).setChannel owner info) where
  channels := inv.write_channels _ bound
  fresh := inv.write_fresh _
  aux := by
    have isMain := (inv.owned owner).mpr rfl
    intro other entry stored
    rcases Binding.modifyDatapath_some _ _ _ stored with ⟨rfl, before, storedBefore, rfl⟩ | ⟨_, kept⟩
    · exact ((inv.aux other before storedBefore).congr
        (Binding.auxOf_kept after isMain.not_auxOf)).clearMain
    · exact (inv.aux other entry kept).congr (Binding.auxOf_kept after isMain.not_auxOf)
  main := by
    have isMain := (inv.owned owner).mpr rfl
    intro other entry stored
    rcases Binding.modifyDatapath_some _ _ _ stored with ⟨rfl, before, _, rfl⟩ | ⟨different, kept⟩
    · apply MainBound.clearMain
      intro named main
      obtain ⟨main, notOwner⟩ := (Binding.mainOf_setChannel_notAdded after named other).mp main
      exact notOwner ((inv.owned named).mp main)
    · exact (inv.main other entry different kept).congr
        (Binding.mainOf_kept after fun main => different (isMain.unique main))

/-- Closing the auxiliary channel at the tail keeps what the closing needs. -/
theorem removeTail {entry : DatapathEntry} {dpChannel : DpChannelEntry}
    (inv : ClosingInv binding datapath owner)
    (stored : binding.datapaths datapath = some entry)
    (tail : entry.auxChannels.getLast? = some dpChannel)
    (reference : dpChannel.connSafeRef = some channel)
    (after : info.isChnAddedToDp = false) (bound : ChannelBound binding channel info) :
    ClosingInv
      ((binding.modifyDatapath datapath fun entry => entry.clearMain.removeTail).setChannel
        channel info) datapath owner := by
  obtain ⟨named, sameReference, isAux, removed⟩ :=
    ((inv.aux datapath entry stored).clearMain).removeTail tail
  obtain rfl : named = channel := Option.some.inj (sameReference.symm.trans reference)
  have notMain : ∀ attachedTo, ¬ (binding.channels named).MainOf attachedTo :=
    fun _ main => main.not_auxOf isAux
  constructor
  case toAuxInv =>
    refine ⟨inv.write_channels _ bound, inv.write_fresh _, ?_⟩
    intro other entry' stored'
    rcases Binding.modifyDatapath_some _ _ _ stored' with
      ⟨rfl, before, storedBefore, rfl⟩ | ⟨different, kept⟩
    · obtain rfl : entry = before := Option.some.inj (stored.symm.trans storedBefore)
      exact removed _ fun member => Binding.auxOf_setChannel_notAdded after member other
    · exact (inv.aux other entry' kept).congr
        (Binding.auxOf_kept after fun aux => different (isAux.unique aux))
  case main =>
    intro other entry' different stored'
    rcases Binding.modifyDatapath_some _ _ _ stored' with ⟨same, _⟩ | ⟨_, kept⟩
    · exact absurd same different
    · exact (inv.main other entry' different kept).congr (Binding.mainOf_kept after (notMain other))
  case owned =>
    intro other
    exact (Binding.mainOf_kept after (notMain datapath) other).symm.trans (inv.owned other)

end ClosingInv

/-! ## Detach and close -/

section Events

variable {binding : Binding} {channel datapath : Nat} {outcomes : ChannelOutcomes}

theorem fsmDetachEvent_notAdded (notAdded : (binding.channels channel).isChnAddedToDp = false) :
    fsmDetachEvent binding channel outcomes = binding := by
  unfold fsmDetachEvent fsmChannelDetachDp
  cases (binding.channels channel).fsmState <;> simp [notAdded]

theorem fsmDetachEvent_notReAdded (notReAdded : outcomes.epollReAdded channel = false) :
    fsmDetachEvent binding channel outcomes = binding := by
  unfold fsmDetachEvent fsmChannelDetachDp
  cases (binding.channels channel).fsmState <;> simp [notReAdded]

theorem fsmDetachEvent_added (bound : ChannelBound binding channel (binding.channels channel))
    (added : (binding.channels channel).isChnAddedToDp = true)
    (attached : (binding.channels channel).datapath = some datapath)
    (reAdded : outcomes.epollReAdded channel = true) :
    fsmDetachEvent binding channel outcomes =
      (binding.modifyDatapath datapath DatapathEntry.clearMain).setChannel channel
        (binding.channels channel).unbound := by
  have isBound := bound.added.mp added
  simp [fsmDetachEvent, fsmChannelDetachDp, isBound, added, attached, reAdded]

theorem ClosingInv.detach (inv : ClosingInv binding datapath channel)
    (reAdded : outcomes.epollReAdded channel = true) :
    BindingInv (fsmDetachEvent binding channel outcomes) ∧
      ((fsmDetachEvent binding channel outcomes).channels channel).isChnAddedToDp = false := by
  obtain ⟨added, attached, _⟩ := (inv.owned channel).mpr rfl
  have bound := inv.channels channel
  rw [fsmDetachEvent_added bound added attached reAdded]
  exact ⟨inv.clearMain rfl (bound.unbound (bound.live added)), by simp [ChannelInfo.unbound]⟩

theorem BindingInv.close_notAdded (inv : BindingInv binding)
    (notAdded : (binding.channels channel).isChnAddedToDp = false) :
    BindingInv (xprtProtoChannelClose binding channel outcomes).1 := by
  unfold xprtProtoChannelClose
  rw [fsmDetachEvent_notAdded notAdded]
  cases outcomes.transportClosed channel with
  | true =>
    exact inv.setChannel_notAdded notAdded notAdded (ChannelBound.closed notAdded)
  | false => exact inv

theorem ClosingInv.close (inv : ClosingInv binding datapath channel)
    (reAdded : outcomes.epollReAdded channel = true) :
    BindingInv (xprtProtoChannelClose binding channel outcomes).1 := by
  obtain ⟨detached, notAdded⟩ := inv.detach reAdded
  unfold xprtProtoChannelClose
  cases outcomes.transportClosed channel with
  | true =>
    exact detached.setChannel_notAdded notAdded notAdded (ChannelBound.closed notAdded)
  | false => exact detached

/-- What epoll and the transport answer for the auxiliary channels of an entry
lets all of them be closed. -/
def DatapathEntry.AuxClosable (entry : DatapathEntry) (outcomes : ChannelOutcomes) : Prop :=
  ∀ dpChannel ∈ entry.auxChannels, ∀ channel ∈ dpChannel.connSafeRef,
    outcomes.epollReAdded channel = true ∧ outcomes.transportClosed channel = true

instance (entry : DatapathEntry) (outcomes : ChannelOutcomes) :
    Decidable (entry.AuxClosable outcomes) :=
  inferInstanceAs (Decidable (∀ _ ∈ _, _))

variable {entry : DatapathEntry}

theorem DatapathEntry.mem_of_mem_removeTail {dpChannel : DpChannelEntry}
    (member : dpChannel ∈ entry.removeTail.auxChannels) : dpChannel ∈ entry.auxChannels := by
  simp only [DatapathEntry.removeTail] at member
  by_cases last : entry.currNoOfAuxChanels - 1 = 0
  · rw [if_pos last] at member
    exact absurd member not_mem_nil
  · rw [if_neg last] at member
    exact dropLast_subset _ member

theorem DatapathEntry.AuxClosable.removeTail (closable : entry.AuxClosable outcomes) :
    entry.clearMain.removeTail.AuxClosable outcomes := by
  intro dpChannel member
  exact closable dpChannel (DatapathEntry.mem_of_mem_removeTail member)

/-- Closing all auxiliary channels keeps it. -/
theorem ClosingInv.closeAux {owner : Nat} (count : Nat) (inv : ClosingInv binding datapath owner)
    (closable : ∀ entry, binding.datapaths datapath = some entry → entry.AuxClosable outcomes) :
    ClosingInv (closeAuxChannels datapath outcomes count binding) datapath owner := by
  induction count generalizing binding with
  | zero => exact inv
  | succ count ih =>
  simp only [closeAuxChannels]
  cases stored : binding.datapaths datapath with
  | none => simpa using inv
  | some entry =>
  cases tail : entry.auxChannels.getLast? with
  | none => simpa [tail] using inv
  | some dpChannel =>
  obtain ⟨channel, reference, isAux, _⟩ :=
    (inv.aux datapath entry stored).removeTail tail
  have bound := inv.channels channel
  have live := bound.live isAux.1
  obtain ⟨reAdded, closed⟩ :=
    closable entry stored dpChannel (mem_of_getLast? tail) channel reference
  have detached := fsmDetachEvent_added bound isAux.1 isAux.2.1 reAdded
  simp only [Option.bind_some, tail, reference, live, if_true,
    xprtProtoChannelClose, detached, closed, Binding.setChannel_same,
    Binding.setChannel_setChannel, Binding.modifyDatapath_setChannel,
    Binding.modifyDatapath_modifyDatapath]
  apply ih
  · exact inv.removeTail stored tail reference rfl (ChannelBound.closed rfl)
  intro entry' stored'
  rcases Binding.modifyDatapath_some _ _ _ stored' with
    ⟨_, before, storedBefore, rfl⟩ | ⟨different, _⟩
  · exact (closable before storedBefore).removeTail
  · exact absurd rfl different

theorem BindingInv.closeMain (inv : BindingInv binding)
    (main : (binding.channels channel).MainOf datapath)
    (reAdded : outcomes.epollReAdded channel = true)
    (closable : ∀ entry, binding.datapaths datapath = some entry → entry.AuxClosable outcomes) :
    BindingInv (fsmChannelClose binding channel outcomes) := by
  have closing := inv.closing main
  have auxClosed : ClosingInv (closeAuxChannelsOf binding channel outcomes) datapath channel := by
    simp only [closeAuxChannelsOf, main.1, main.2.1, main.2.2, and_self, if_true]
    cases stored : binding.datapaths datapath with
    | none => exact closing
    | some entry =>
    dsimp only
    split
    · exact closing
    · exact closing.closeAux _ closable
  exact auxClosed.close reAdded

theorem BindingInv.closeEvent_notAdded (inv : BindingInv binding)
    (notAdded : (binding.channels channel).isChnAddedToDp = false) :
    BindingInv (fsmCloseEvent binding channel outcomes) := by
  have closed : BindingInv (fsmChannelClose binding channel outcomes) := by
    simp only [fsmChannelClose, closeAuxChannelsOf, notAdded, Bool.false_eq_true, and_false,
      if_false]
    exact inv.close_notAdded notAdded
  unfold fsmCloseEvent
  cases (binding.channels channel).fsmState with
  | init => exact inv
  | closeConn => exact inv
  | waitForHandshake => exact closed
  | boundToDp => exact closed

theorem BindingInv.closeEvent_main (inv : BindingInv binding)
    (main : (binding.channels channel).MainOf datapath)
    (reAdded : outcomes.epollReAdded channel = true)
    (closable : ∀ entry, binding.datapaths datapath = some entry → entry.AuxClosable outcomes) :
    BindingInv (fsmCloseEvent binding channel outcomes) := by
  have closed := inv.closeMain main reAdded closable
  unfold fsmCloseEvent
  cases (binding.channels channel).fsmState with
  | init => exact inv
  | closeConn => exact inv
  | waitForHandshake => exact closed
  | boundToDp => exact closed

end Events

/-! ## Taking channels -/

/-- The channel after a features reply that added it. -/
def ChannelInfo.boundTo (info : ChannelInfo) (datapath : Nat) (auxiliaryId : UInt8) :
    ChannelInfo :=
  { info with
    auxiliaryId := auxiliaryId.toUInt32
    datapath := some datapath
    isChnAddedToDp := true
    fsmState := .boundToDp }

namespace BindingInv

variable {binding : Binding} {channel datapath : Nat} {info : ChannelInfo}
  {auxiliaryId : UInt8} {entry : DatapathEntry} {dpChannel : DpChannelEntry}

theorem toUInt32_eq_zero : auxiliaryId.toUInt32 = 0 ↔ auxiliaryId = 0 := by
  exact UInt8.toUInt32_inj (b := 0)

theorem mainOf_boundTo (notAdded : (binding.channels channel).isChnAddedToDp = false)
    (other datapath' : Nat) :
    ((binding.setChannel channel (info.boundTo datapath auxiliaryId)).channels other).MainOf
        datapath' ↔
      (binding.channels other).MainOf datapath' ∨
        (other = channel ∧ datapath' = datapath ∧ auxiliaryId = 0) := by
  by_cases same : other = channel
  · subst same
    simp [notAdded, ChannelInfo.MainOf, ChannelInfo.boundTo,
      toUInt32_eq_zero, @eq_comm Nat datapath]
  · simp [Binding.setChannel_other _ _ _ same, same]

theorem auxOf_boundTo (notAdded : (binding.channels channel).isChnAddedToDp = false)
    (other datapath' : Nat) :
    ((binding.setChannel channel (info.boundTo datapath auxiliaryId)).channels other).AuxOf
        datapath' ↔
      (binding.channels other).AuxOf datapath' ∨
        (other = channel ∧ datapath' = datapath ∧ auxiliaryId ≠ 0) := by
  by_cases same : other = channel
  · subst same
    simp [notAdded, ChannelInfo.AuxOf, ChannelInfo.boundTo, toUInt32_eq_zero, @eq_comm Nat datapath]
  · simp [Binding.setChannel_other _ _ _ same, same]

section

variable (inv : BindingInv binding)

include inv

theorem boundTo_channel (auxiliaryId : UInt8)
    (live : (binding.channels channel).isChnAdded2HashTbl = true)
    (stored : binding.datapaths datapath = some entry) :
    ChannelBound binding channel ((binding.channels channel).boundTo datapath auxiliaryId) where
  added := by simp [ChannelInfo.boundTo]
  listening := by simp [ChannelInfo.boundTo, live]
  created := (inv.channels channel).created
  attached := by
    intro _
    refine ⟨datapath, rfl, ?_, fun _ => by simp [stored]⟩
    by_contra beyond
    have absent := inv.fresh datapath (Nat.le_of_not_lt beyond)
    rw [stored] at absent
    cases absent

/-- Binding an auxiliary channel keeps the bindings. -/
theorem bindAux (live : (binding.channels channel).isChnAdded2HashTbl = true)
    (notAdded : (binding.channels channel).isChnAddedToDp = false)
    (stored : binding.datapaths datapath = some entry) (nonzero : auxiliaryId ≠ 0)
    (room : entry.currNoOfAuxChanels.toNat < 255) (reference : dpChannel.connSafeRef = some channel) :
    BindingInv
      ((binding.modifyDatapath datapath fun entry => entry.appendAux dpChannel).setChannel channel
        ((binding.channels channel).boundTo datapath auxiliaryId)) := by
  have new : ¬ (binding.channels channel).AuxOf datapath :=
    ChannelInfo.not_auxOf_of_not_added notAdded
  have bound := inv.boundTo_channel auxiliaryId live stored
  have mainSame : ∀ attachedTo other, (binding.channels other).MainOf attachedTo ↔
      ((binding.setChannel channel ((binding.channels channel).boundTo datapath
        auxiliaryId)).channels other).MainOf attachedTo := by
    intro attachedTo other
    simp [mainOf_boundTo notAdded, nonzero]
  constructor
  case toAuxInv =>
    refine ⟨inv.write_channels _ bound, inv.write_fresh _, ?_⟩
    intro other entry' stored'
    rcases Binding.modifyDatapath_some _ _ _ stored' with
      ⟨rfl, before, storedBefore, rfl⟩ | ⟨different, kept⟩
    · obtain rfl : entry = before := Option.some.inj (stored.symm.trans storedBefore)
      refine (inv.aux other entry stored).appendAux reference new room fun member => ?_
      refine (auxOf_boundTo notAdded member other).trans ?_
      simp [nonzero]
    · refine (inv.aux other entry' kept).congr fun member => ?_
      refine Iff.trans ?_ (auxOf_boundTo notAdded member other).symm
      simp [different]
  case main =>
    intro other entry' stored'
    rcases Binding.modifyDatapath_some _ _ _ stored' with
      ⟨rfl, before, storedBefore, rfl⟩ | ⟨_, kept⟩
    · exact ((inv.main other before storedBefore).congr (mainSame other)).appendAux
    · exact (inv.main other entry' kept).congr (mainSame other)

/-- Binding the main channel keeps the bindings. -/
theorem bindMain (live : (binding.channels channel).isChnAdded2HashTbl = true)
    (notAdded : (binding.channels channel).isChnAddedToDp = false)
    (stored : binding.datapaths datapath = some entry) (absent : entry.isMainConnPresent = false)
    (reference : dpChannel.connSafeRef = some channel) :
    BindingInv
      ((binding.modifyDatapath datapath fun entry => entry.setMain dpChannel).setChannel channel
        ((binding.channels channel).boundTo datapath 0)) := by
  have bound := inv.boundTo_channel 0 live stored
  have auxSame : ∀ attachedTo other, (binding.channels other).AuxOf attachedTo ↔
      ((binding.setChannel channel ((binding.channels channel).boundTo datapath
        0)).channels other).AuxOf attachedTo := by
    intro attachedTo other
    simp [auxOf_boundTo notAdded]
  have unowned : ∀ other, ¬ (binding.channels other).MainOf datapath := by
    intro other main
    have mainBound := inv.main datapath entry stored
    have present := mainBound.present.mpr (by simp [(mainBound.named other).mpr main])
    exact Bool.false_ne_true (absent.symm.trans present)
  constructor
  case toAuxInv =>
    refine ⟨inv.write_channels _ bound, inv.write_fresh _, ?_⟩
    intro other entry' stored'
    rcases Binding.modifyDatapath_some _ _ _ stored' with
      ⟨rfl, before, storedBefore, rfl⟩ | ⟨_, kept⟩
    · exact ((inv.aux other before storedBefore).congr (auxSame other)).setMain
    · exact (inv.aux other entry' kept).congr (auxSame other)
  case main =>
    intro other entry' stored'
    rcases Binding.modifyDatapath_some _ _ _ stored' with ⟨rfl, before, _, rfl⟩ | ⟨different, kept⟩
    · refine MainBound.setMain reference fun named => ?_
      refine (mainOf_boundTo notAdded named other).trans ?_
      simp [unowned named]
    · refine (inv.main other entry' kept).congr fun named => ?_
      refine Iff.trans ?_ (mainOf_boundTo notAdded named other).symm
      simp [different]

end

end BindingInv

/-! ## Runs -/

/-- The steps that leave the binding whole, as conditions on the state before
them.  A features reply with auxiliary id zero does not reach a datapath that has
a main connection, and an auxiliary channel is added while the count is below 255;
an auxiliary channel is detached and closed only with its main channel; and when a
main channel is closed or its datapath deleted, epoll and the transport let go of
the channels concerned. -/
def BindingEvent.KeepsBinding (binding : Binding) : BindingEvent → Prop
  | .connect => True
  | .registerDatapath => True
  | .featureReply channel datapath auxiliaryId attach outcomes =>
    (binding.channels channel).isChnAddedToDp = false →
      ∀ entry ∈ binding.datapaths datapath,
        if entry.isMainConnPresent then
          attach.entryAllocated = true →
            auxiliaryId ≠ 0 ∧ entry.currNoOfAuxChanels.toNat < 255
        else
          auxiliaryId = 0 ∧ attach.switchConfigured = false →
            outcomes.epollReAdded channel = true ∧ entry.AuxClosable outcomes
  | .detach channel outcomes =>
    (binding.channels channel).isChnAddedToDp = true ∧ outcomes.epollReAdded channel = true →
      (binding.channels channel).auxiliaryId = 0
  | .close channel outcomes =>
    (binding.channels channel).isChnAddedToDp = true →
      (binding.channels channel).auxiliaryId = 0 ∧ outcomes.epollReAdded channel = true ∧
        ∀ datapath ∈ (binding.channels channel).datapath,
          ∀ entry ∈ binding.datapaths datapath, entry.AuxClosable outcomes
  | .unregisterDatapath datapath removable outcomes =>
    removable = true → ∀ entry ∈ binding.datapaths datapath,
      ∀ channel ∈ entry.mainChannel.connSafeRef, outcomes.epollReAdded channel = true

instance (binding : Binding) (event : BindingEvent) : Decidable (event.KeepsBinding binding) := by
  cases event <;> unfold BindingEvent.KeepsBinding <;> infer_instance

namespace BindingInv

variable {binding : Binding} {channel datapath : Nat}

theorem create : BindingInv Binding.create where
  channels := fun channel => by constructor <;> simp [Binding.create]
  fresh := fun _ _ => rfl
  aux := by simp [Binding.create]
  main := by simp [Binding.create]

section

variable (inv : BindingInv binding)

include inv

theorem connect : BindingInv (fsmChannelLearn binding) := by
  have notAdded : (binding.channels binding.numberOfChannels).isChnAddedToDp = false := by
    by_contra added
    have bound := inv.channels binding.numberOfChannels
    exact Nat.lt_irrefl _ (bound.created (bound.live (by simpa using added)))
  have grown : ∀ channel info, ChannelBound binding channel info →
      ChannelBound { binding with numberOfChannels := binding.numberOfChannels + 1 } channel
        info := by
    intro channel info bound
    exact ⟨bound.added, bound.listening, fun live => Nat.lt_succ_of_lt (bound.created live),
      bound.attached⟩
  have wider : BindingInv { binding with numberOfChannels := binding.numberOfChannels + 1 } :=
    { channels := fun channel => grown channel _ (inv.channels channel)
      fresh := inv.fresh
      aux := inv.aux
      main := inv.main }
  exact wider.setChannel_notAdded notAdded rfl (by constructor <;> simp)

attribute [local simp] dprmRegisterDatapath

/-- A new datapath keeps the bindings. -/
theorem registerDatapath : BindingInv (dprmRegisterDatapath binding) := by
  have unbound : ∀ channel, (binding.channels channel).isChnAddedToDp = true →
      (binding.channels channel).datapath ≠ some binding.numberOfDatapaths := by
    intro channel added attachedTo
    obtain ⟨datapath, attached, known, _⟩ := (inv.channels channel).attached added
    obtain rfl := Option.some.inj (attachedTo.symm.trans attached)
    exact Nat.lt_irrefl _ known
  have stored : ∀ {datapath entry},
      (dprmRegisterDatapath binding).datapaths datapath = some entry →
        (datapath = binding.numberOfDatapaths ∧ entry = DatapathEntry.create) ∨
          binding.datapaths datapath = some entry := by
    intro datapath entry stored
    by_cases new : datapath = binding.numberOfDatapaths
    · subst new
      left
      simpa [eq_comm] using stored
    · right
      simpa [update_of_ne new] using stored
  refine { channels := ?_, fresh := ?_, aux := ?_, main := ?_ }
  · intro channel
    have old := inv.channels channel
    refine ⟨old.added, old.listening, old.created, ?_⟩
    intro added
    obtain ⟨datapath, attached, known, present⟩ := old.attached added
    refine ⟨datapath, attached, Nat.lt_succ_of_lt known, ?_⟩
    intro zero
    have different : datapath ≠ binding.numberOfDatapaths := Nat.ne_of_lt known
    simpa [update_of_ne different] using present zero
  · intro datapath beyond
    have different : datapath ≠ binding.numberOfDatapaths := Nat.ne_of_gt beyond
    simpa [update_of_ne different] using inv.fresh datapath (Nat.le_of_succ_le beyond)
  · intro datapath entry storedAt
    rcases stored storedAt with ⟨rfl, rfl⟩ | kept
    · exact AuxBound.create fun channel aux => unbound channel aux.1 aux.2.1
    · exact inv.aux datapath entry kept
  · intro datapath entry storedAt
    rcases stored storedAt with ⟨rfl, rfl⟩ | kept
    · exact MainBound.create fun channel main => unbound channel main.1 main.2.1
    · exact inv.main datapath entry kept

/-- A datapath that no channel owns may go. -/
theorem remove (unowned : ∀ channel, ¬ (binding.channels channel).MainOf datapath) :
    BindingInv { binding with datapaths := Function.update binding.datapaths datapath none } := by
  have stored : ∀ {other entry},
      update binding.datapaths datapath none other = some entry →
        binding.datapaths other = some entry := by
    intro other entry stored
    by_cases same : other = datapath
    · subst same
      simp at stored
    · simpa [update_of_ne same] using stored
  refine { channels := ?_, fresh := ?_, aux := ?_, main := ?_ }
  · intro channel
    have old := inv.channels channel
    refine ⟨old.added, old.listening, old.created, ?_⟩
    intro added
    obtain ⟨attachedTo, attached, known, present⟩ := old.attached added
    refine ⟨attachedTo, attached, known, ?_⟩
    intro zero
    have different : attachedTo ≠ datapath := by
      rintro rfl
      exact unowned channel ⟨added, attached, zero⟩
    simpa [update_of_ne different] using present zero
  · intro other beyond
    have absent := inv.fresh other beyond
    by_contra present
    obtain ⟨entry, storedAt⟩ := Option.ne_none_iff_exists'.mp present
    rw [stored storedAt] at absent
    cases absent
  · exact fun other entry storedAt => inv.aux other entry (stored storedAt)
  · exact fun other entry storedAt => inv.main other entry (stored storedAt)

theorem mainOf_of_zero (added : (binding.channels channel).isChnAddedToDp = true)
    (zero : (binding.channels channel).auxiliaryId = 0) :
    ∃ datapath, (binding.channels channel).MainOf datapath := by
  obtain ⟨datapath, attached, _⟩ := (inv.channels channel).attached added
  exact ⟨datapath, added, attached, zero⟩

end

variable {outcomes : ChannelOutcomes}

theorem detach (inv : BindingInv binding)
    (keeps : (BindingEvent.detach channel outcomes).KeepsBinding binding) :
    BindingInv (fsmDetachEvent binding channel outcomes) := by
  cases added : (binding.channels channel).isChnAddedToDp with
  | false =>
    rw [fsmDetachEvent_notAdded added]
    exact inv
  | true =>
  cases reAdded : outcomes.epollReAdded channel with
  | false =>
    rw [fsmDetachEvent_notReAdded reAdded]
    exact inv
  | true =>
    obtain ⟨datapath, main⟩ := inv.mainOf_of_zero added (keeps ⟨added, reAdded⟩)
    exact ((inv.closing main).detach reAdded).1

theorem close (inv : BindingInv binding)
    (keeps : (BindingEvent.close channel outcomes).KeepsBinding binding) :
    BindingInv (fsmCloseEvent binding channel outcomes) := by
  cases added : (binding.channels channel).isChnAddedToDp with
  | false => exact inv.closeEvent_notAdded added
  | true =>
  obtain ⟨zero, reAdded, closable⟩ := keeps added
  obtain ⟨datapath, main⟩ := inv.mainOf_of_zero added zero
  exact inv.closeEvent_main main reAdded (closable datapath main.2.1)

/-- An unregistration keeps the bindings. -/
theorem unregisterDatapath {removable : Bool} (inv : BindingInv binding)
    (keeps : (BindingEvent.unregisterDatapath datapath removable outcomes).KeepsBinding binding) :
    BindingInv (dprmUnregisterDatapath binding datapath removable outcomes) := by
  unfold dprmUnregisterDatapath
  cases stored : binding.datapaths datapath with
  | none => exact inv
  | some entry =>
  cases removable with
  | false => exact inv
  | true =>
  have bound := inv.main datapath entry stored
  simp only [if_true, dprmFreeDatapathChannels]
  cases reference : entry.mainChannel.connSafeRef with
  | none =>
    have unowned : ∀ channel, ¬ (binding.channels channel).MainOf datapath := by
      intro channel main
      have named := (bound.named channel).mpr main
      rw [reference] at named
      cases named
    simpa using inv.remove unowned
  | some channel =>
  have present := bound.present.mpr (by simp [reference])
  have main := (bound.named channel).mp reference
  have channelBound := inv.channels channel
  have closing := inv.closing main
  have reAdded := keeps rfl entry stored channel reference
  have detached := (closing.detach reAdded).1
  rw [fsmDetachEvent_added channelBound main.1 main.2.1 reAdded] at detached
  simp only [present, channelBound.live main.1, if_true,
    fsmDetachEvent_added channelBound main.1 main.2.1 reAdded,
    Binding.setChannel_same, Binding.setChannel_setChannel]
  apply detached.remove
  intro other otherMain
  obtain ⟨otherMain, different⟩ :=
    (Binding.mainOf_setChannel_notAdded rfl other datapath).mp otherMain
  exact different ((closing.owned other).mp otherMain)

end BindingInv

section FeatureReply

variable {binding : Binding} {channel datapath : Nat} {auxiliaryId : UInt8}
  {attach : AttachOutcomes} {outcomes : ChannelOutcomes}

/-- The three ends of `of_add_channel_to_dp`: the channel is refused, becomes the
new tail of the auxiliary list, or becomes the main channel. -/
theorem ofAddChannelToDp_cases (binding : Binding) (channel datapath : Nat)
    (auxiliaryId : UInt8) (attach : AttachOutcomes) :
    ofAddChannelToDp binding channel datapath auxiliaryId attach = (binding, false) ∨
      (∃ entry dpChannel, binding.datapaths datapath = some entry ∧
        entry.isMainConnPresent = true ∧ attach.entryAllocated = true ∧
        dpChannel.connSafeRef = some channel ∧
        ofAddChannelToDp binding channel datapath auxiliaryId attach =
          (binding.modifyDatapath datapath fun entry => entry.appendAux dpChannel, true)) ∨
      (∃ entry dpChannel, binding.datapaths datapath = some entry ∧
        entry.isMainConnPresent = false ∧ auxiliaryId = 0 ∧
        dpChannel.connSafeRef = some channel ∧
        ofAddChannelToDp binding channel datapath auxiliaryId attach =
          (binding.modifyDatapath datapath fun entry => entry.setMain dpChannel, true)) := by
  unfold ofAddChannelToDp
  cases stored : binding.datapaths datapath with
  | none => exact .inl rfl
  | some entry =>
  cases present : entry.isMainConnPresent with
  | true =>
    cases allocated : attach.entryAllocated with
    | false =>
      left
      simp [present]
    | true =>
    right; left
    exact ⟨entry, ⟨auxiliaryId.toUInt32, some channel, some datapath⟩, rfl, present,
      rfl, rfl, by simp [present]⟩
  | false =>
  by_cases zero : auxiliaryId = 0
  · cases initialised : attach.tableInitialised with
    | false =>
      left
      simp [present, zero]
    | true =>
      right; right
      exact ⟨entry, ⟨0, some channel, some datapath⟩, rfl, present, zero, rfl,
        by simp [present, zero]⟩
  · left
    simp [present, zero]

theorem attachEvent_eq (change : DatapathEntry → DatapathEntry)
    (waiting : (binding.channels channel).fsmState = .waitForHandshake) :
    fsmAttachEvent
        (((binding.storeAuxiliaryId channel auxiliaryId).modifyDatapath datapath
          change).storeDatapath channel datapath) channel =
      (binding.modifyDatapath datapath change).setChannel channel
        ((binding.channels channel).boundTo datapath auxiliaryId) := by
  simp [fsmAttachEvent, Binding.storeAuxiliaryId, Binding.storeDatapath, fsmChannelLearnDp,
    waiting, ChannelInfo.boundTo]

theorem ofProcessFeatureReplyMsg_notAdded
    (notAdded : (binding.channels channel).isChnAddedToDp = false) :
    ofProcessFeatureReplyMsg binding channel datapath auxiliaryId attach outcomes =
      let added := ofAddChannelToDp (binding.storeAuxiliaryId channel auxiliaryId) channel
        datapath auxiliaryId attach
      if added.2 then
        let binding := fsmAttachEvent (added.1.storeDatapath channel datapath) channel
        if auxiliaryId = 0 ∧ attach.switchConfigured = false then
          fsmCloseEvent binding channel outcomes
        else
          binding
      else
        fsmCloseEvent added.1 channel outcomes := by
  rw [ofProcessFeatureReplyMsg, if_neg (by simp [notAdded])]

theorem BindingInv.configured {entry : DatapathEntry} {dpChannel : DpChannelEntry}
    (inv : BindingInv
      ((binding.modifyDatapath datapath fun entry => entry.setMain dpChannel).setChannel channel
        ((binding.channels channel).boundTo datapath 0)))
    (stored : binding.datapaths datapath = some entry)
    (whole : attach.switchConfigured = false →
      outcomes.epollReAdded channel = true ∧ entry.AuxClosable outcomes) :
    BindingInv
      (if attach.switchConfigured = false then
        fsmCloseEvent
          ((binding.modifyDatapath datapath fun entry => entry.setMain dpChannel).setChannel
            channel ((binding.channels channel).boundTo datapath 0)) channel outcomes
      else
        (binding.modifyDatapath datapath fun entry => entry.setMain dpChannel).setChannel channel
          ((binding.channels channel).boundTo datapath 0)) := by
  cases configured : attach.switchConfigured with
  | true => exact inv
  | false =>
  obtain ⟨reAdded, closable⟩ := whole configured
  refine inv.closeEvent_main (?_ : ChannelInfo.MainOf _ datapath) reAdded ?_
  · simp [ChannelInfo.MainOf, ChannelInfo.boundTo]
  intro entry' stored'
  rcases Binding.modifyDatapath_some _ _ _ stored' with
    ⟨_, before, storedBefore, rfl⟩ | ⟨different, _⟩
  · obtain rfl : entry = before := Option.some.inj (stored.symm.trans storedBefore)
    exact closable
  · exact absurd rfl different

/-- A features reply keeps the bindings. -/
theorem BindingInv.featureReply (inv : BindingInv binding)
    (live : (binding.channels channel).isChnAdded2HashTbl = true)
    (keeps : (BindingEvent.featureReply channel datapath auxiliaryId attach outcomes).KeepsBinding
      binding) :
    BindingInv (ofProcessFeatureReplyMsg binding channel datapath auxiliaryId attach outcomes) := by
  cases notAdded : (binding.channels channel).isChnAddedToDp with
  | true =>
    rw [ofProcessFeatureReplyMsg, if_pos notAdded]
    exact inv
  | false =>
  have old := inv.channels channel
  have waiting := old.waiting live notAdded
  rw [ofProcessFeatureReplyMsg_notAdded notAdded]
  rcases ofAddChannelToDp_cases (binding.storeAuxiliaryId channel auxiliaryId) channel datapath
      auxiliaryId attach with
    refused | ⟨entry, dpChannel, stored, present, allocated, reference, added⟩ |
      ⟨entry, dpChannel, stored, absent, rfl, reference, added⟩
  · have named : BindingInv (binding.storeAuxiliaryId channel auxiliaryId) :=
      inv.setChannel_notAdded notAdded notAdded
        ⟨old.added, old.listening, old.created, by simp [notAdded]⟩
    simp only [refused, Bool.false_eq_true, if_false]
    exact named.closeEvent_notAdded (by simp [Binding.storeAuxiliaryId, notAdded])
  · have whole := keeps notAdded entry stored
    rw [if_pos present] at whole
    obtain ⟨nonzero, room⟩ := whole allocated
    simp only [added, if_true, attachEvent_eq _ waiting, nonzero, false_and, if_false]
    exact inv.bindAux live notAdded stored nonzero room reference
  have whole := keeps notAdded entry stored
  rw [if_neg (by simp [absent])] at whole
  have bound := inv.bindMain live notAdded stored absent reference
  simp only [added, if_true, attachEvent_eq _ waiting, true_and]
  exact bound.configured stored fun failed => whole ⟨rfl, failed⟩

end FeatureReply

variable {binding : Binding}

theorem BindingInv.step {event : BindingEvent} (inv : BindingInv binding)
    (keeps : event.KeepsBinding binding) : BindingInv (bindingStep binding event) := by
  cases event with
  | connect => exact inv.connect
  | registerDatapath => exact inv.registerDatapath
  | featureReply channel datapath auxiliaryId attach outcomes =>
    simp only [bindingStep]
    split
    case isTrue live => exact inv.featureReply live keeps
    case isFalse => exact inv
  | detach channel outcomes =>
    simp only [bindingStep]
    split
    · exact inv.detach keeps
    · exact inv
  | close channel outcomes =>
    simp only [bindingStep]
    split
    · exact inv.close keeps
    · exact inv
  | unregisterDatapath datapath removable outcomes => exact inv.unregisterDatapath keeps

/-- The channel is live and bound to the datapath. -/
def Binding.BoundTo (binding : Binding) (channel datapath : Nat) : Prop :=
  (binding.channels channel).isChnAdded2HashTbl = true ∧
    (binding.channels channel).fsmState = .boundToDp ∧
      (binding.channels channel).datapath = some datapath

/-- The flag and the main reference of an entry agree with the channels, and its
auxiliary list names the live channels bound to it with an auxiliary id other than
zero, each once, with the count equal to their number. -/
structure EntryConsistent (binding : Binding) (datapath : Nat) (entry : DatapathEntry) :
    Prop where
  main : entry.isMainConnPresent = true ↔
    ∃ channel, entry.mainChannel.connSafeRef = some channel ∧
      (binding.channels channel).isChnAdded2HashTbl = true ∧
        (binding.channels channel).fsmState = .boundToDp ∧
          (binding.channels channel).auxiliaryId = 0
  aux : ∃ ids : List Nat,
    entry.auxChannels.map DpChannelEntry.connSafeRef = ids.map some ∧ ids.Nodup ∧
      (∀ channel, channel ∈ ids ↔
        binding.BoundTo channel datapath ∧ (binding.channels channel).auxiliaryId ≠ 0) ∧
        entry.currNoOfAuxChanels.toNat = ids.length

/-- Every datapath agrees with the channels. -/
def BindingConsistent (binding : Binding) : Prop :=
  ∀ datapath entry, binding.datapaths datapath = some entry →
    EntryConsistent binding datapath entry

/-- The invariant makes the bindings consistent. -/
theorem BindingInv.consistent (inv : BindingInv binding) : BindingConsistent binding := by
  intro datapath entry stored
  have bound := inv.main datapath entry stored
  constructor
  case main =>
    rw [bound.present]
    constructor
    · intro present
      obtain ⟨channel, reference⟩ := Option.ne_none_iff_exists'.mp present
      obtain ⟨added, _, zero⟩ := (bound.named channel).mp reference
      have channelBound := inv.channels channel
      exact ⟨channel, reference, channelBound.live added, channelBound.added.mp added, zero⟩
    · rintro ⟨channel, reference, _⟩
      simp [reference]
  case aux =>
    apply (inv.aux datapath entry stored).congr
    intro channel
    have channelBound := inv.channels channel
    constructor
    · rintro ⟨added, attached, nonzero⟩
      exact ⟨⟨channelBound.live added, channelBound.added.mp added, attached⟩, nonzero⟩
    · rintro ⟨⟨_, isBound, attached⟩, nonzero⟩
      exact ⟨channelBound.added.mpr isBound, attached, nonzero⟩

/-- In every run whose steps keep the binding, the datapaths agree with the
channels. -/
theorem binding_consistent (events : List BindingEvent)
    (keeps : Along bindingStep (fun binding event => event.KeepsBinding binding)
      Binding.create events) :
    BindingConsistent (events.foldl bindingStep Binding.create) :=
  (Along.invariant (fun _ _ inv allowed => BindingInv.step inv allowed) BindingInv.create
    keeps).consistent

/-- A main channel with two auxiliary ones, closed, and the next connections of the same
datapath, which stay bound; another datapath is deleted meanwhile. -/
theorem binding_consistent_reconnect :
    let attach : AttachOutcomes :=
      { entryAllocated := true, tableInitialised := true, switchConfigured := true }
    let outcomes : ChannelOutcomes :=
      { epollReAdded := fun _ => true, transportClosed := fun _ => true }
    let events : List BindingEvent :=
      [.registerDatapath, .registerDatapath, .connect, .connect, .connect,
        .featureReply 0 0 0 attach outcomes, .featureReply 1 0 1 attach outcomes,
        .featureReply 2 0 1 attach outcomes, .close 0 outcomes, .connect, .connect,
        .featureReply 3 0 0 attach outcomes, .unregisterDatapath 1 true outcomes,
        .featureReply 4 0 1 attach outcomes]
    BindingConsistent (events.foldl bindingStep Binding.create) :=
  binding_consistent _ (by decide)

/-- The detaching of an auxiliary channel takes the main connection from its
datapath, and leaves the auxiliary entry. -/
theorem auxiliary_detach_clears_main :
    let attach : AttachOutcomes :=
      { entryAllocated := true, tableInitialised := true, switchConfigured := true }
    let outcomes : ChannelOutcomes :=
      { epollReAdded := fun _ => true, transportClosed := fun _ => true }
    let events : List BindingEvent :=
      [.registerDatapath, .connect, .connect, .featureReply 0 0 0 attach outcomes,
        .featureReply 1 0 1 attach outcomes, .detach 1 outcomes]
    let reached := events.foldl bindingStep Binding.create
    reached.BoundTo 0 0 ∧ (reached.channels 0).auxiliaryId = 0 ∧
      (reached.datapaths 0).map DatapathEntry.isMainConnPresent = some false ∧
        ¬ BindingConsistent reached := by
  intro attach outcomes events reached
  refine ⟨⟨by decide, by decide, by decide⟩, by decide, by decide, ?_⟩
  intro consistent
  obtain ⟨entry, stored, listed⟩ : ∃ entry, reached.datapaths 0 = some entry ∧
      entry.auxChannels.map DpChannelEntry.connSafeRef = [some 1] := ⟨_, rfl, by decide⟩
  obtain ⟨ids, references, _, named, _⟩ := (consistent 0 entry stored).aux
  have member : 1 ∈ ids := by
    have inList : some 1 ∈ ids.map some := by
      rw [← references, listed]
      exact mem_singleton_self _
    simpa using inList
  have isBound := ((named 1).mp member).1.2.1
  cases isBound

end OpenFlowController.Transport
