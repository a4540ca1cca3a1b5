/-
Module: Utils.Epoll
Purpose: The descriptors that a thread polls: the table of slots with its free list, the
  registrations of the kernel's epoll instance, and the dispatch of a batch of events, in
  which handlers may add, modify and delete descriptors.  Who owns the slots, as long as no
  descriptor is deleted, and that the first deletion breaks the free list.
Source: utils/epoll.c, ofproto/src/include/cntlr_epoll.h
Trusted boundary: the kernel refuses to add a descriptor that is registered and to modify or
  delete one that is not, and may refuse anything else
-/
import OpenFlowController.Library.FreeList
import OpenFlowController.Library.Run

namespace OpenFlowController.Utils

/-! ## The tables -/

/-- `ePOLL_FD_ACTIVE`, `ePOLL_FD_DELETED`. -/
def ePollFdActive : UInt8 := 0x01

def ePollFdDeleted : UInt8 := 0x02

/-- `ePOLL_POLLERR | ePOLL_POLLHUP`. -/
def ePollErrHup : UInt32 := 0x08 ||| 0x10

def epollMaxEvents : Nat := 20

/-- `epoll_user_data_t`. -/
structure EpollUserData (π : Type*) where
  arg1 : π
  arg2 : π
  arg3 : π
  index : UInt32
  magic : UInt32

/-- `epoll_fd_t`.  A null handler is `none`. -/
structure EpollFd (η π : Type*) where
  flag : UInt8
  fd : Int
  intrestedEvents : UInt32
  userData : EpollUserData π
  userHandler : Option η

/-- `epoll_fd_list_t`; a pointer to a slot is its position. -/
structure EpollFdList (η π : Type*) where
  next : Option Nat
  index : Nat
  epollFd : Option (EpollFd η π)

/-- `epoll_cntxt_t`. -/
structure EpollCntxt (η π : Type*) where
  maxNoOfFds : Nat
  fdList : Nat → EpollFdList η π
  fdFreeList : Option Nat
  fdFreeListTail : Nat

/-- What the kernel knows of a registered descriptor: the events and `event.data.u32`. -/
structure KernelFd where
  events : UInt32
  data : Nat

/-- What the callers registered last for a descriptor. -/
structure Registration (η π : Type*) where
  userData : EpollUserData π
  userHandler : Option η

/-- An event of a batch: the descriptor that raised it, and what `epoll_wait` filled in. -/
structure ReadyFd where
  fd : Int
  data : Nat
  events : UInt32

/-- A call of a handler. -/
structure HandlerCall (η π : Type*) where
  handler : η
  fd : Int
  userData : EpollUserData π
  receivedEvents : UInt32

/-- The epoll context of a thread, the kernel's epoll instance, and the events of the
current batch that are not dispatched yet. -/
structure EpollThread (η π : Type*) where
  cntxt : EpollCntxt η π
  kernel : Int → Option KernelFd
  registered : Int → Option (Registration η π)
  pending : List ReadyFd

variable {η π : Type*}

/-! ## Initialization -/

namespace EpollCntxt

/-- The loop `while(temp_index > 1)`, which chains the slots below `temp_index`. -/
def buildFreeList : Nat → EpollCntxt η π → EpollCntxt η π
  | 0, cntxt => cntxt
  | 1, cntxt => cntxt
  | tempIndex + 2, cntxt =>
    buildFreeList (tempIndex + 1)
      { cntxt with
        fdList := Function.update cntxt.fdList (tempIndex + 1)
          { cntxt.fdList (tempIndex + 1) with
            index := tempIndex + 1
            next := cntxt.fdFreeList }
        fdFreeList := some (tempIndex + 1) }

/-- The scan of the table for a descriptor, from slot 1. -/
def findFd (cntxt : EpollCntxt η π) (fd : Int) : Option Nat :=
  (List.range' 1 cntxt.maxNoOfFds).find? fun index =>
    (cntxt.fdList index).epollFd.any fun epollFd => epollFd.fd = fd

end EpollCntxt

/-- `cntlr_epoll_init`, when memory is there.  `epoll_create` takes an `int` and wants it
positive. -/
def cntlrEpollInit (η π : Type*) (maxFds : Nat) : Option (EpollThread η π) :=
  if 0 < maxFds ∧ maxFds < 2 ^ 31 then
    let zeroed : Nat → EpollFdList η π := fun _ => { next := none, index := 0, epollFd := none }
    some
      { cntxt := EpollCntxt.buildFreeList maxFds
          { maxNoOfFds := maxFds
            fdList := Function.update zeroed maxFds { zeroed maxFds with index := maxFds }
            fdFreeList := some maxFds
            fdFreeListTail := maxFds }
        kernel := fun _ => none
        registered := fun _ => none
        pending := [] }
  else none

namespace EpollThread

/-! ## Descriptors -/

/-- `cntlr_epoll_add_fd_to_thread`; the answer tells whether it returned `OF_SUCCESS`.
`callocOk` and `ctlOk` tell whether memory was there and whether the kernel had no reason
of its own to refuse. -/
def addFdToThread (thread : EpollThread η π) (fd : Int) (intrestedEvents : UInt32)
    (userData : EpollUserData π) (userHandler : Option η) (callocOk ctlOk : Bool) :
    EpollThread η π × Bool :=
  let cntxt := thread.cntxt
  match cntxt.fdFreeList with
  | none => (thread, false)
  | some head =>
    let fdListPos := (cntxt.fdList head).index
    if callocOk then
      let epollFd : EpollFd η π :=
        { flag := 0 ||| ePollFdActive
          fd := fd
          intrestedEvents := intrestedEvents ||| ePollErrHup
          userData := userData
          userHandler := userHandler }
      let setEpollFd (epollFd : Option (EpollFd η π)) : EpollCntxt η π :=
        { cntxt with
          fdList := Function.update cntxt.fdList fdListPos
            { cntxt.fdList fdListPos with epollFd := epollFd } }
      if ctlOk ∧ thread.kernel fd = none then
        let stored := setEpollFd (some epollFd)
        ({ thread with
            cntxt := { stored with fdFreeList := (stored.fdList head).next }
            kernel := Function.update thread.kernel fd
              (some { events := epollFd.intrestedEvents ||| ePollErrHup, data := fdListPos })
            registered := Function.update thread.registered fd
              (some { userData := userData, userHandler := userHandler }) },
          true)
      else
        ({ thread with cntxt := setEpollFd none }, false)
    else (thread, false)

/-- `cntlr_epoll_mod_fd_of_thread`.  The index and the magic of the user data stay. -/
def modFdOfThread (thread : EpollThread η π) (fd : Int) (intrestedEvents : UInt32)
    (userData : EpollUserData π) (userHandler : Option η) (ctlOk : Bool) :
    EpollThread η π × Bool :=
  let cntxt := thread.cntxt
  match cntxt.findFd fd with
  | none => (thread, false)
  | some index =>
    let modified (old : EpollUserData π) : EpollUserData π :=
      { old with arg1 := userData.arg1, arg2 := userData.arg2, arg3 := userData.arg3 }
    let stored : EpollThread η π :=
      { thread with
        cntxt :=
          { cntxt with
            fdList := Function.update cntxt.fdList index
              { cntxt.fdList index with
                epollFd := (cntxt.fdList index).epollFd.map fun epollFd =>
                  { epollFd with
                    intrestedEvents := intrestedEvents ||| ePollErrHup
                    userData := modified epollFd.userData
                    userHandler := userHandler } } }
        registered := Function.update thread.registered fd
          ((thread.registered fd).map fun registration =>
            { userData := modified registration.userData, userHandler := userHandler }) }
    if ctlOk ∧ thread.kernel fd ≠ none then
      ({ stored with
          kernel := Function.update thread.kernel fd
            (some { events := (intrestedEvents ||| ePollErrHup) ||| ePollErrHup
                    data := index }) },
        true)
    else (stored, false)

/-- `cntlr_epoll_del_fd_from_thread`. -/
def delFdFromThread (thread : EpollThread η π) (fd : Int) (ctlOk : Bool) : EpollThread η π :=
  let cntxt := thread.cntxt
  match cntxt.findFd fd with
  | none => thread
  | some index =>
    if ctlOk ∧ thread.kernel fd ≠ none then
      let freed := Function.update cntxt.fdList index { cntxt.fdList index with epollFd := none }
      { thread with
        cntxt :=
          { cntxt with
            fdList := Function.update freed cntxt.fdFreeListTail
              { freed cntxt.fdFreeListTail with next := some index }
            fdFreeListTail := index }
        kernel := Function.update thread.kernel fd none
        registered := Function.update thread.registered fd none }
    else thread

/-! ## Dispatch -/

/-- The handler call that the loop of `cntlr_epoll_wait` makes for an event. -/
def callFor (thread : EpollThread η π) (ready : ReadyFd) : Option (HandlerCall η π) :=
  let fdListPos := ready.data
  if fdListPos < 1 ∨ thread.cntxt.maxNoOfFds < fdListPos then none
  else
    match (thread.cntxt.fdList fdListPos).epollFd with
    | none => none
    | some epollFd =>
      if epollFd.flag &&& ePollFdDeleted ≠ 0 ∨ epollFd.flag &&& ePollFdActive = 0 then none
      else
        epollFd.userHandler.map fun handler =>
          { handler := handler
            fd := epollFd.fd
            userData := epollFd.userData
            receivedEvents := ready.events }

end EpollThread

/-- What happens on the thread: an operation, of the thread itself or of a handler while a
batch is dispatched; a batch of events that the kernel reports for registered descriptors;
and the dispatch of the next event of the batch. -/
inductive EpollEvent (η π : Type*) where
  | add (fd : Int) (intrestedEvents : UInt32) (userData : EpollUserData π)
      (userHandler : Option η) (callocOk ctlOk : Bool)
  | mod (fd : Int) (intrestedEvents : UInt32) (userData : EpollUserData π)
      (userHandler : Option η) (ctlOk : Bool)
  | del (fd : Int) (ctlOk : Bool)
  | wait (ready : List (Int × UInt32))
  | dispatch

namespace EpollThread

/-- One event.  A thread waits again only when its batch is dispatched. -/
def step (thread : EpollThread η π) : EpollEvent η π → EpollThread η π
  | .add fd events userData userHandler callocOk ctlOk =>
    (thread.addFdToThread fd events userData userHandler callocOk ctlOk).1
  | .mod fd events userData userHandler ctlOk =>
    (thread.modFdOfThread fd events userData userHandler ctlOk).1
  | .del fd ctlOk => thread.delFdFromThread fd ctlOk
  | .wait ready =>
    if thread.pending = [] then
      { thread with
        pending := (ready.filterMap fun (fd, events) =>
          (thread.kernel fd).map fun kernelFd =>
            { fd := fd, data := kernelFd.data, events := events }).take epollMaxEvents }
    else thread
  | .dispatch => { thread with pending := thread.pending.tail }

end EpollThread

open Library List Function Option

variable {η π : Type*}

/-! ## What the table promises -/

/-- A slot of the table. -/
def EpollCntxt.IsSlot (cntxt : EpollCntxt η π) (pos : Nat) : Prop :=
  1 ≤ pos ∧ pos ≤ cntxt.maxNoOfFds

/-- A slot holds a descriptor. -/
def EpollCntxt.Owns (cntxt : EpollCntxt η π) (fd : Int) (pos : Nat) : Prop :=
  cntxt.IsSlot pos ∧ ∃ epollFd, (cntxt.fdList pos).epollFd = some epollFd ∧ epollFd.fd = fd

/-- Every registered descriptor owns exactly one slot, every owned slot is owned by one
registered descriptor, and the free list ends and holds exactly the unowned slots. -/
structure SlotsOwned (thread : EpollThread η π) : Prop where
  owner : ∀ fd, thread.registered fd ≠ none → ∃! pos, thread.cntxt.Owns fd pos
  registered : ∀ fd pos, thread.cntxt.Owns fd pos → thread.registered fd ≠ none
  single : ∀ fd other pos, thread.cntxt.Owns fd pos → thread.cntxt.Owns other pos → fd = other
  free : ∃ free : List Nat,
    Seg (fun pos => (thread.cntxt.fdList pos).next) thread.cntxt.fdFreeList free none ∧
      free.Nodup ∧ ∀ pos, pos ∈ free ↔
        thread.cntxt.IsSlot pos ∧ (thread.cntxt.fdList pos).epollFd = none

/-- An addition succeeds when a slot is unowned, unless memory or the kernel fails. -/
def AddsSucceed (thread : EpollThread η π) : EpollEvent η π → Prop
  | .add fd events userData userHandler callocOk ctlOk =>
    (∃ pos, thread.cntxt.IsSlot pos ∧ ∀ fd, ¬ thread.cntxt.Owns fd pos) →
      callocOk = true → ctlOk = true → thread.registered fd = none →
        (thread.addFdToThread fd events userData userHandler callocOk ctlOk).2 = true
  | _ => True

/-- The handler that is called for an event is the one registered for the descriptor that
raised it, and gets that descriptor and its user data. -/
def CallsOwn (thread : EpollThread η π) : EpollEvent η π → Prop
  | .dispatch => ∀ ready ∈ thread.pending.head?, ∀ call ∈ thread.callFor ready,
      call.fd = ready.fd ∧
        thread.registered ready.fd =
          some { userData := call.userData, userHandler := some call.handler }
  | _ => True

/-- One event does what the table promises. -/
structure Serves (thread : EpollThread η π) (event : EpollEvent η π) : Prop where
  slots : SlotsOwned (thread.step event)
  adds : AddsSucceed thread event
  calls : CallsOwn thread event

/-- A registered descriptor is deleted. -/
def Deletes (thread : EpollThread η π) : EpollEvent η π → Prop
  | .del fd ctlOk => ctlOk = true ∧ thread.registered fd ≠ none
  | _ => False

/-! ## Without deletions -/

/-- Slots are taken in order and never given back. -/
structure Fresh (thread : EpollThread η π) (taken : Nat) : Prop where
  takenLe : taken ≤ thread.cntxt.maxNoOfFds
  positive : 0 < thread.cntxt.maxNoOfFds
  index : ∀ pos, thread.cntxt.IsSlot pos → (thread.cntxt.fdList pos).index = pos
  next : ∀ pos, thread.cntxt.IsSlot pos → (thread.cntxt.fdList pos).next =
    if pos < thread.cntxt.maxNoOfFds then some (pos + 1) else none
  head : thread.cntxt.fdFreeList =
    if taken < thread.cntxt.maxNoOfFds then some (taken + 1) else none
  tail : thread.cntxt.fdFreeListTail = thread.cntxt.maxNoOfFds
  owned : ∀ pos, 1 ≤ pos → pos ≤ taken → ∃ epollFd events,
    (thread.cntxt.fdList pos).epollFd = some epollFd ∧ epollFd.flag = ePollFdActive ∧
      thread.kernel epollFd.fd = some { events := events, data := pos } ∧
      thread.registered epollFd.fd =
        some { userData := epollFd.userData, userHandler := epollFd.userHandler }
  unowned : ∀ pos, taken < pos → (thread.cntxt.fdList pos).epollFd = none
  known : ∀ fd kernelFd, thread.kernel fd = some kernelFd → 1 ≤ kernelFd.data ∧
    kernelFd.data ≤ taken ∧ ∃ epollFd,
      (thread.cntxt.fdList kernelFd.data).epollFd = some epollFd ∧ epollFd.fd = fd
  same : ∀ fd, thread.registered fd = none ↔ thread.kernel fd = none
  pending : ∀ ready ∈ thread.pending, ∃ events,
    thread.kernel ready.fd = some { events := events, data := ready.data }

namespace Fresh

variable {thread : EpollThread η π} {taken : Nat} {fd : Int} {pos : Nat}

theorem owns_iff (fresh : Fresh thread taken) :
    thread.cntxt.Owns fd pos ↔
      ∃ events, thread.kernel fd = some { events := events, data := pos } := by
  constructor
  · rintro ⟨slot, epollFd, stored, rfl⟩
    have within : pos ≤ taken := by
      by_contra beyond
      rw [fresh.unowned pos (Nat.lt_of_not_le beyond)] at stored
      cases stored
    rcases fresh.owned pos slot.1 within with ⟨owner, events, owned, -, kernel, -⟩
    rw [stored] at owned
    cases owned
    exact ⟨events, kernel⟩
  · rintro ⟨events, kernel⟩
    rcases fresh.known fd _ kernel with ⟨low, high, stored⟩
    exact ⟨⟨low, Nat.le_trans high fresh.takenLe⟩, stored⟩

theorem free_seg (fresh : Fresh thread taken) (count first : Nat)
    (rest : first + count = thread.cntxt.maxNoOfFds) :
    Seg (fun pos => (thread.cntxt.fdList pos).next)
      (if first < thread.cntxt.maxNoOfFds then some (first + 1) else none)
      (List.range' (first + 1) count) none := by
  induction count generalizing first with
  | zero =>
    rw [if_neg (by omega)]
    rfl
  | succ count ih =>
  have inside : first < thread.cntxt.maxNoOfFds := by omega
  rw [if_pos inside, range'_succ]
  refine ⟨rfl, ?_⟩
  dsimp only
  rw [fresh.next (first + 1) ⟨Nat.le_add_left 1 first, inside⟩]
  exact ih (first + 1) (by omega)

/-- A fresh thread owns its slots. -/
theorem slotsOwned (fresh : Fresh thread taken) : SlotsOwned thread where
  owner := by
    intro fd registered
    have kernel : thread.kernel fd ≠ none := fun none => registered ((fresh.same fd).mpr none)
    rcases ne_none_iff_exists'.mp kernel with ⟨⟨events, data⟩, kernel⟩
    refine ⟨data, fresh.owns_iff.mpr ⟨events, kernel⟩, ?_⟩
    intro other owns
    rcases fresh.owns_iff.mp owns with ⟨otherEvents, otherKernel⟩
    rw [kernel] at otherKernel
    cases otherKernel
    rfl
  registered := by
    intro fd pos owns none
    rcases fresh.owns_iff.mp owns with ⟨events, kernel⟩
    rw [(fresh.same fd).mp none] at kernel
    cases kernel
  single := by
    rintro fd other pos ⟨-, one, stored, rfl⟩ ⟨-, two, stored', rfl⟩
    rw [stored] at stored'
    cases stored'
    rfl
  free := by
    have count : taken + (thread.cntxt.maxNoOfFds - taken) = thread.cntxt.maxNoOfFds :=
      Nat.add_sub_of_le fresh.takenLe
    refine ⟨List.range' (taken + 1) (thread.cntxt.maxNoOfFds - taken), ?_, nodup_range' .., ?_⟩
    · rw [fresh.head]
      exact fresh.free_seg _ taken count
    intro pos
    rw [mem_range'_1]
    constructor
    · rintro ⟨low, high⟩
      exact ⟨⟨by omega, by omega⟩, fresh.unowned pos low⟩
    rintro ⟨slot, empty⟩
    have beyond : ¬ pos ≤ taken := by
      intro within
      rcases fresh.owned pos slot.1 within with ⟨_, _, stored, -⟩
      rw [empty] at stored
      cases stored
    have high := slot.2
    omega

/-! ### The operations -/

theorem findFd_some {index : Nat} (found : thread.cntxt.findFd fd = some index) :
    thread.cntxt.Owns fd index := by
  have slot := mem_range'_1.mp (mem_of_find?_eq_some found)
  have holds := find?_some found
  rw [Option.any_eq_true] at holds
  rcases holds with ⟨epollFd, stored, same⟩
  exact ⟨⟨slot.1, by omega⟩, epollFd, stored, of_decide_eq_true same⟩

theorem findFd_none (none : thread.cntxt.findFd fd = none) : ¬ thread.cntxt.Owns fd pos := by
  rintro ⟨slot, epollFd, stored, same⟩
  have missed := find?_eq_none.mp none pos
    (mem_range'_1.mpr ⟨slot.1, by have high := slot.2; omega⟩)
  rw [stored, Option.any_some, decide_eq_true_eq] at missed
  exact missed same

section

variable (fresh : Fresh thread taken)

include fresh

theorem head_cases :
    taken = thread.cntxt.maxNoOfFds ∧ thread.cntxt.fdFreeList = none ∨
      thread.cntxt.IsSlot (taken + 1) ∧ thread.cntxt.fdFreeList = some (taken + 1) := by
  have head := fresh.head
  by_cases room : taken < thread.cntxt.maxNoOfFds
  · rw [if_pos room] at head
    exact .inr ⟨⟨Nat.le_add_left 1 taken, room⟩, head⟩
  · rw [if_neg room] at head
    exact .inl ⟨Nat.le_antisymm fresh.takenLe (Nat.le_of_not_lt room), head⟩

/-- An added descriptor takes the next slot. -/
theorem added (slot : thread.cntxt.IsSlot (taken + 1)) (events : UInt32)
    (userData : EpollUserData π) (userHandler : Option η) (unknown : thread.kernel fd = none)
    (head : thread.cntxt.fdFreeList = some (taken + 1)) :
    Fresh (thread.addFdToThread fd events userData userHandler true true).1 (taken + 1) ∧
      (thread.addFdToThread fd events userData userHandler true true).2 = true := by
  unfold EpollThread.addFdToThread
  dsimp only
  rw [head]
  dsimp only
  rw [fresh.index _ slot, if_pos rfl, if_pos ⟨rfl, unknown⟩]
  refine ⟨?_, rfl⟩
  have other : ∀ epollFd : EpollFd η π, thread.kernel epollFd.fd ≠ none → epollFd.fd ≠ fd := by
    rintro epollFd known rfl
    exact known unknown
  constructor
  case takenLe => exact slot.2
  case positive => exact fresh.positive
  case index =>
    intro pos isSlot
    dsimp only
    by_cases same : pos = taken + 1
    · subst same
      rw [update_self]
      exact fresh.index _ slot
    · rw [update_of_ne same]
      exact fresh.index pos isSlot
  case next =>
    intro pos isSlot
    dsimp only
    by_cases same : pos = taken + 1
    · subst same
      rw [update_self]
      exact fresh.next _ slot
    · rw [update_of_ne same]
      exact fresh.next pos isSlot
  case head =>
    rw [update_self]
    exact fresh.next _ slot
  case tail => exact fresh.tail
  case owned =>
    intro pos low high
    dsimp only
    by_cases same : pos = taken + 1
    · subst same
      rw [update_self]
      exact ⟨_, (events ||| ePollErrHup) ||| ePollErrHup, rfl, rfl, update_self .., update_self ..⟩
    rw [update_of_ne same]
    have within : pos ≤ taken := by omega
    rcases fresh.owned pos low within with ⟨epollFd, events', stored, flag, kernel, given⟩
    have apart := other epollFd (by rw [kernel]; exact some_ne_none _)
    refine ⟨epollFd, events', stored, flag, ?_, ?_⟩
    · rw [update_of_ne apart]
      exact kernel
    · rw [update_of_ne apart]
      exact given
  case unowned =>
    intro pos beyond
    dsimp only
    rw [update_of_ne (by omega)]
    exact fresh.unowned pos (by omega)
  case known =>
    intro fd' kernelFd kernel
    dsimp only at kernel ⊢
    by_cases same : fd' = fd
    · subst same
      rw [update_self] at kernel
      cases kernel
      refine ⟨slot.1, Nat.le_refl _, ?_⟩
      rw [update_self]
      exact ⟨_, rfl, rfl⟩
    rw [update_of_ne same] at kernel
    rcases fresh.known fd' kernelFd kernel with ⟨low, high, stored⟩
    refine ⟨low, Nat.le_succ_of_le high, ?_⟩
    rw [update_of_ne (by omega)]
    exact stored
  case same =>
    intro fd'
    dsimp only
    by_cases same : fd' = fd
    · subst same
      simp
    · rw [update_of_ne same, update_of_ne same]
      exact fresh.same fd'
  case pending =>
    intro ready member
    rcases fresh.pending ready member with ⟨events', kernel⟩
    refine ⟨events', ?_⟩
    dsimp only
    have apart : ready.fd ≠ fd := by
      rintro same
      rw [same, unknown] at kernel
      cases kernel
    rw [update_of_ne apart]
    exact kernel

/-- A failed addition leaves the thread as it was. -/
theorem add_failed (events : UInt32) (userData : EpollUserData π) (userHandler : Option η)
    {callocOk ctlOk : Bool} (failed : callocOk = false ∨ ctlOk = false ∨ thread.kernel fd ≠ none) :
    (thread.addFdToThread fd events userData userHandler callocOk ctlOk).1 = thread := by
  unfold EpollThread.addFdToThread
  dsimp only
  rcases fresh.head_cases with ⟨-, head⟩ | ⟨slot, head⟩
  · rw [head]
  rw [head]
  dsimp only
  rw [fresh.index _ slot]
  cases callocOk with
  | false => rfl
  | true =>
  have refused : ¬ (ctlOk = true ∧ thread.kernel fd = none) := by
    rintro ⟨rfl, unknown⟩
    rcases failed with impossible | impossible | known
    · cases impossible
    · cases impossible
    · exact known unknown
  rw [if_pos rfl, if_neg refused]
  have empty := fresh.unowned (taken + 1) (Nat.lt_succ_self taken)
  have same : ({ thread.cntxt.fdList (taken + 1) with epollFd := none } :
      EpollFdList η π) = thread.cntxt.fdList (taken + 1) := by
    rw [← empty]
  rw [same, update_eq_self, ← head]

theorem add (fd : Int) (events : UInt32) (userData : EpollUserData π) (userHandler : Option η)
    (callocOk ctlOk : Bool) :
    ∃ taken, Fresh (thread.addFdToThread fd events userData userHandler callocOk ctlOk).1
      taken := by
  by_cases failed : callocOk = false ∨ ctlOk = false ∨ thread.kernel fd ≠ none
  · rw [fresh.add_failed events userData userHandler failed]
    exact ⟨taken, fresh⟩
  rw [not_or, not_or, Bool.not_eq_false, Bool.not_eq_false, not_not] at failed
  rcases failed with ⟨rfl, rfl, unknown⟩
  rcases fresh.head_cases with ⟨-, head⟩ | ⟨slot, head⟩
  · refine ⟨taken, ?_⟩
    unfold EpollThread.addFdToThread
    dsimp only
    rw [head]
    exact fresh
  · exact ⟨_, (fresh.added slot events userData userHandler unknown head).1⟩

/-- A modification keeps the thread fresh. -/
theorem modify (fd : Int) (events : UInt32) (userData : EpollUserData π) (userHandler : Option η)
    (ctlOk : Bool) : Fresh (thread.modFdOfThread fd events userData userHandler ctlOk).1 taken := by
  unfold EpollThread.modFdOfThread
  dsimp only
  cases found : thread.cntxt.findFd fd with
  | none => exact fresh
  | some index =>
  dsimp only
  rcases fresh.owns_iff.mp (findFd_some found) with ⟨oldEvents, kernel⟩
  rcases fresh.known fd _ kernel with ⟨low, high, epollFd, stored, mine⟩
  dsimp only at low high stored
  rcases fresh.owned index low high with ⟨epollFd', _, stored', flag, -, given⟩
  rw [stored] at stored'
  cases stored'
  rw [mine] at given
  rw [stored, given]
  -- whether the kernel takes the new events or not, it keeps the slot
  suffices stays : ∀ later : Int → Option KernelFd,
      (∀ other, other ≠ fd → later other = thread.kernel other) →
      (∃ events, later fd = some { events := events, data := index }) →
      Fresh
        { thread with
          cntxt :=
            { thread.cntxt with
              fdList := update thread.cntxt.fdList index
                { thread.cntxt.fdList index with
                  epollFd := some
                    { epollFd with
                      intrestedEvents := events ||| ePollErrHup
                      userData := { epollFd.userData with
                        arg1 := userData.arg1, arg2 := userData.arg2
                        arg3 := userData.arg3 }
                      userHandler := userHandler } } }
          kernel := later
          registered := update thread.registered fd
            (some
              { userData := { epollFd.userData with
                  arg1 := userData.arg1, arg2 := userData.arg2, arg3 := userData.arg3 }
                userHandler := userHandler }) } taken by
    split
    · apply stays
      · exact fun other apart => update_of_ne apart _ _
      · exact ⟨_, update_self ..⟩
    · exact stays thread.kernel (fun _ _ => rfl) ⟨oldEvents, kernel⟩
  intro later others here
  constructor
  case takenLe => exact fresh.takenLe
  case positive => exact fresh.positive
  case index =>
    intro pos isSlot
    dsimp only
    by_cases same : pos = index
    · subst same
      rw [update_self]
      exact fresh.index pos isSlot
    · rw [update_of_ne same]
      exact fresh.index pos isSlot
  case next =>
    intro pos isSlot
    dsimp only
    by_cases same : pos = index
    · subst same
      rw [update_self]
      exact fresh.next pos isSlot
    · rw [update_of_ne same]
      exact fresh.next pos isSlot
  case head => exact fresh.head
  case tail => exact fresh.tail
  case owned =>
    intro pos posLow posHigh
    dsimp only
    by_cases same : pos = index
    · subst same
      rcases here with ⟨newEvents, here⟩
      rw [update_self]
      refine ⟨_, newEvents, rfl, flag, ?_, ?_⟩
      · exact (congrArg later mine).trans here
      · dsimp only
        rw [mine, update_self]
    rw [update_of_ne same]
    rcases fresh.owned pos posLow posHigh with
      ⟨other, otherEvents, otherStored, otherFlag, otherKernel, otherGiven⟩
    have apart : other.fd ≠ fd := by
      intro sameFd
      rw [sameFd, kernel] at otherKernel
      cases otherKernel
      exact same rfl
    refine ⟨other, otherEvents, otherStored, otherFlag, ?_, ?_⟩
    · rw [others _ apart]
      exact otherKernel
    · rw [update_of_ne apart]
      exact otherGiven
  case unowned =>
    intro pos beyond
    dsimp only
    rw [update_of_ne (by omega)]
    exact fresh.unowned pos beyond
  case known =>
    intro fd' kernelFd kernelEq
    dsimp only at kernelEq ⊢
    by_cases same : fd' = fd
    · subst same
      rcases here with ⟨newEvents, here⟩
      rw [here] at kernelEq
      cases kernelEq
      refine ⟨low, high, ?_⟩
      rw [update_self]
      exact ⟨_, rfl, mine⟩
    rw [others _ same] at kernelEq
    rcases fresh.known fd' kernelFd kernelEq with ⟨low', high', other, stored', fdEq⟩
    refine ⟨low', high', other, ?_, fdEq⟩
    have apart : kernelFd.data ≠ index := by
      intro sameSlot
      rw [sameSlot, stored] at stored'
      cases stored'
      exact same (fdEq.symm.trans mine)
    rw [update_of_ne apart]
    exact stored'
  case same =>
    intro fd'
    dsimp only
    by_cases same : fd' = fd
    · subst same
      rcases here with ⟨newEvents, here⟩
      simp [here]
    · rw [update_of_ne same, others _ same]
      exact fresh.same fd'
  case pending =>
    intro ready member
    rcases fresh.pending ready member with ⟨readyEvents, readyKernel⟩
    dsimp only
    by_cases same : ready.fd = fd
    · rw [same] at readyKernel ⊢
      rw [kernel] at readyKernel
      cases readyKernel
      exact here
    · rw [others _ same]
      exact ⟨readyEvents, readyKernel⟩

theorem delete {ctlOk : Bool} (notDeletes : ¬ Deletes thread (.del fd ctlOk)) :
    thread.delFdFromThread fd ctlOk = thread := by
  unfold EpollThread.delFdFromThread
  dsimp only
  cases thread.cntxt.findFd fd with
  | none => rfl
  | some index =>
  apply if_neg
  rintro ⟨agrees, known⟩
  exact notDeletes ⟨agrees, fun none => known ((fresh.same fd).mp none)⟩

theorem wait (ready : List (Int × UInt32)) : Fresh (thread.step (.wait ready)) taken := by
  unfold EpollThread.step
  dsimp only
  split
  · refine { fresh with pending := ?_ }
    intro event member
    rcases mem_filterMap.mp (mem_of_mem_take member) with ⟨⟨fd, events⟩, -, made⟩
    rcases map_eq_some_iff.mp made with ⟨⟨kernelEvents, data⟩, kernel, rfl⟩
    exact ⟨kernelEvents, kernel⟩
  · exact fresh

theorem dispatch : Fresh (thread.step .dispatch) taken :=
  { fresh with
    pending := fun ready member => fresh.pending ready (mem_of_mem_tail member) }

theorem step {event : EpollEvent η π} (notDeletes : ¬ Deletes thread event) :
    ∃ taken, Fresh (thread.step event) taken := by
  cases event with
  | add fd events userData userHandler callocOk ctlOk =>
    exact fresh.add fd events userData userHandler callocOk ctlOk
  | mod fd events userData userHandler ctlOk =>
    exact ⟨taken, fresh.modify fd events userData userHandler ctlOk⟩
  | del fd ctlOk =>
    refine ⟨taken, ?_⟩
    rw [EpollThread.step, fresh.delete notDeletes]
    exact fresh
  | wait ready => exact ⟨taken, fresh.wait ready⟩
  | dispatch => exact ⟨taken, fresh.dispatch⟩

/-! ### Additions and calls -/

variable (event : EpollEvent η π)

theorem addsSucceed : AddsSucceed thread event := by
  cases event with
  | add fd events userData userHandler callocOk ctlOk =>
    rintro ⟨pos, slot, unowned⟩ rfl rfl unknown
    have room : ¬ pos ≤ taken := by
      intro within
      rcases fresh.owned pos slot.1 within with ⟨epollFd, _, stored, -⟩
      exact unowned epollFd.fd ⟨slot, epollFd, stored, rfl⟩
    rcases fresh.head_cases with ⟨full, -⟩ | ⟨head, first⟩
    · have high := slot.2
      omega
    · exact (fresh.added head events userData userHandler ((fresh.same fd).mp unknown) first).2
  | mod => trivial
  | del => trivial
  | wait => trivial
  | dispatch => trivial

/-- A handler is called with what its descriptor was registered with. -/
theorem callsOwn : CallsOwn thread event := by
  cases event with
  | dispatch =>
    intro ready head call called
    rcases fresh.pending ready (mem_of_mem_head? head) with ⟨events, kernel⟩
    rcases fresh.known _ _ kernel with ⟨low, high, epollFd, stored, mine⟩
    rcases fresh.owned _ low high with ⟨epollFd', _, stored', -, -, given⟩
    rw [stored] at stored'
    cases stored'
    unfold EpollThread.callFor at called
    dsimp only at called
    split at called
    · cases called
    rw [stored] at called
    dsimp only at called
    split at called
    · cases called
    · rcases map_eq_some_iff.mp called with ⟨handler, handlerEq, rfl⟩
      refine ⟨mine, ?_⟩
      rw [← mine, given, handlerEq]
  | add => trivial
  | mod => trivial
  | del => trivial
  | wait => trivial

/-! ### The first deletion -/

/-- A deletion loses its slot. -/
theorem not_slotsOwned_delete {ctlOk : Bool} (deletes : Deletes thread (.del fd ctlOk)) :
    ¬ SlotsOwned (thread.step (.del fd ctlOk)) := by
  intro owned
  rcases deletes with ⟨agrees, registered⟩
  have known : thread.kernel fd ≠ none := fun none => registered ((fresh.same fd).mpr none)
  rcases ne_none_iff_exists'.mp known with ⟨⟨events, data⟩, kernel⟩
  have owns := fresh.owns_iff.mpr ⟨events, kernel⟩
  cases found : thread.cntxt.findFd fd with
  | none => exact findFd_none found owns
  | some index =>
  have slot := (findFd_some found).1
  rcases owned.free with ⟨free, seg, -, free_iff⟩
  have stepEq : thread.step (.del fd ctlOk) =
      { thread with
        cntxt :=
          { thread.cntxt with
            fdList := update
              (update thread.cntxt.fdList index { thread.cntxt.fdList index with epollFd := none })
              thread.cntxt.fdFreeListTail
              { update thread.cntxt.fdList index { thread.cntxt.fdList index with epollFd := none }
                  thread.cntxt.fdFreeListTail with next := some index }
            fdFreeListTail := index }
        kernel := update thread.kernel fd none
        registered := update thread.registered fd none } := by
    rw [EpollThread.step, EpollThread.delFdFromThread]
    rw [found]
    exact if_pos ⟨agrees, known⟩
  rw [stepEq] at seg free_iff
  dsimp only at seg free_iff
  rw [fresh.tail] at seg free_iff
  rcases fresh.head_cases with ⟨full, head⟩ | ⟨inside, head⟩
  · rw [head] at seg
    have empty := seg.eq_nil_of_none
    have given : index ∈ free := by
      refine (free_iff index).mpr ⟨slot, ?_⟩
      by_cases last : index = thread.cntxt.maxNoOfFds
      · rw [← last, update_self]
        rw [update_self]
      · rw [update_of_ne last, update_self]
    rw [empty] at given
    cases given
  · rw [head] at seg
    refine Seg.not_endless ?_ inside seg
    intro pos isSlot
    by_cases last : pos = thread.cntxt.maxNoOfFds
    · subst last
      rw [update_self]
      exact ⟨index, rfl, slot⟩
    rw [update_of_ne last]
    have before : pos < thread.cntxt.maxNoOfFds := Nat.lt_of_le_of_ne isSlot.2 last
    have next := fresh.next pos isSlot
    rw [if_pos before] at next
    refine ⟨pos + 1, ?_, Nat.le_add_left 1 pos, before⟩
    by_cases same : pos = index
    · subst same
      rw [update_self]
      exact next
    · rw [update_of_ne same]
      exact next

theorem serves_iff : ¬ Deletes thread event ↔ Serves thread event := by
  constructor
  · intro notDeletes
    rcases fresh.step notDeletes with ⟨taken', later⟩
    exact
      { slots := later.slotsOwned
        adds := fresh.addsSucceed event
        calls := fresh.callsOwn event }
  intro serves deletes
  cases event with
  | del fd ctlOk => exact fresh.not_slotsOwned_delete deletes serves.slots
  | add => exact deletes
  | mod => exact deletes
  | wait => exact deletes
  | dispatch => exact deletes

end

end Fresh

/-! ## A new table -/

theorem buildFreeList_spec (tempIndex : Nat) (positive : 0 < tempIndex)
    (cntxt : EpollCntxt η π) (head : cntxt.fdFreeList = some tempIndex) :
    (EpollCntxt.buildFreeList tempIndex cntxt).fdFreeList = some 1 ∧
      (EpollCntxt.buildFreeList tempIndex cntxt).maxNoOfFds = cntxt.maxNoOfFds ∧
      (EpollCntxt.buildFreeList tempIndex cntxt).fdFreeListTail = cntxt.fdFreeListTail ∧
      ∀ pos, (EpollCntxt.buildFreeList tempIndex cntxt).fdList pos =
        if 1 ≤ pos ∧ pos < tempIndex then
          { cntxt.fdList pos with next := some (pos + 1), index := pos }
        else cntxt.fdList pos := by
  induction tempIndex, cntxt using EpollCntxt.buildFreeList.induct with
  | case1 cntxt => exact absurd positive (Nat.lt_irrefl 0)
  | case2 cntxt =>
    refine ⟨head, rfl, rfl, fun pos => ?_⟩
    rw [if_neg (by omega)]
    rfl
  | case3 tempIndex cntxt ih =>
  rcases ih (Nat.succ_pos _) rfl with ⟨first, max, tail, slots⟩
  refine ⟨first, max, tail, fun pos => ?_⟩
  rw [EpollCntxt.buildFreeList, slots pos]
  dsimp only
  by_cases same : pos = tempIndex + 1
  · subst same
    rw [if_neg (by omega), if_pos ⟨by omega, by omega⟩, update_self, head]
  · rw [update_of_ne same]
    by_cases below : 1 ≤ pos ∧ pos < tempIndex + 1
    · rw [if_pos below, if_pos ⟨below.1, by omega⟩]
    · rw [if_neg below, if_neg (by omega)]

/-- A new thread is fresh. -/
theorem fresh_init {maxFds : Nat} {thread : EpollThread η π}
    (started : cntlrEpollInit η π maxFds = some thread) : Fresh thread 0 := by
  unfold cntlrEpollInit at started
  split at started
  case isFalse => cases started
  case isTrue range =>
  cases started
  rcases @buildFreeList_spec η π maxFds range.1
    { maxNoOfFds := maxFds
      fdList := update (fun _ => { next := none, index := 0, epollFd := none })
        maxFds { next := none, index := maxFds, epollFd := none }
      fdFreeList := some maxFds
      fdFreeListTail := maxFds } rfl with ⟨first, max, tail, slots⟩
  dsimp only at max tail slots
  constructor
  case takenLe => exact Nat.zero_le _
  case positive =>
    rw [max]
    exact range.1
  case index =>
    intro pos slot
    have high := slot.2
    dsimp only at high ⊢
    rw [slots pos]
    by_cases last : pos = maxFds
    · subst last
      rw [if_neg (by omega), update_self]
    · rw [if_pos ⟨slot.1, by omega⟩]
  case next =>
    intro pos slot
    have high := slot.2
    dsimp only at high ⊢
    rw [slots pos]
    by_cases last : pos = maxFds
    · subst last
      rw [if_neg (by omega), if_neg (by omega), update_self]
    · rw [if_pos ⟨slot.1, by omega⟩, if_pos (by omega)]
  case head =>
    rw [max, if_pos range.1]
    exact first
  case tail => exact tail.trans max.symm
  case owned => exact fun pos low high => absurd high (by omega)
  case unowned =>
    intro pos beyond
    rw [slots pos]
    have zeroed : (update
        (fun _ : Nat => ({ next := none, index := 0, epollFd := none } : EpollFdList η π))
        maxFds { next := none, index := maxFds, epollFd := none } pos).epollFd = none := by
      by_cases last : pos = maxFds
      · rw [last, update_self]
      · rw [update_of_ne last]
    split
    · exact zeroed
    · exact zeroed
  case known => exact nofun
  case same => exact fun _ => ⟨fun _ => rfl, fun _ => rfl⟩
  case pending => exact nofun

/-! ## Every run -/

/-- The table keeps its promises along a run if and only if no registered descriptor is
deleted in it. -/
theorem serves_iff_notDeletes {maxFds : Nat} {start : EpollThread η π}
    (started : cntlrEpollInit η π maxFds = some start) (events : List (EpollEvent η π)) :
    Along EpollThread.step Serves start events ↔
      Along EpollThread.step (fun thread event => ¬ Deletes thread event) start events := by
  have preserved : ∀ (thread : EpollThread η π) event, (∃ taken, Fresh thread taken) →
      ¬ Deletes thread event → ∃ taken, Fresh (thread.step event) taken :=
    fun _ _ ⟨_, fresh⟩ notDeletes => fresh.step notDeletes
  have same : ∀ (thread : EpollThread η π) event, (∃ taken, Fresh thread taken) →
      (¬ Deletes thread event ↔ Serves thread event) :=
    fun _ event ⟨_, fresh⟩ => fresh.serves_iff event
  exact (Along.iff_of_invariant preserved same ⟨0, fresh_init started⟩).symm

/-- User data of the samples. -/
def sampleData (arg : Nat) : EpollUserData Nat where
  arg1 := arg
  arg2 := 0
  arg3 := 0
  index := 0
  magic := 0

/-- Two descriptors fill the table, a third finds no slot, and a batch of two events is
dispatched while a handler modifies one descriptor and deletes an unknown one. -/
def fillAndDispatch : List (EpollEvent Nat Nat) :=
  [.add 5 1 (sampleData 50) (some 500) true true, .add 6 1 (sampleData 60) (some 600) true true,
    .add 7 1 (sampleData 70) (some 700) true true,
    .wait [(6, 1), (5, 1)], .dispatch,
    .mod 5 5 (sampleData 51) (some 501) true, .del 9 true, .dispatch]

theorem serves_fillAndDispatch :
    Along EpollThread.step Serves ((cntlrEpollInit Nat Nat 2).get rfl) fillAndDispatch :=
  (@serves_iff_notDeletes Nat Nat 2 _ rfl fillAndDispatch).mpr
    ⟨id, id, id, id, id, id, fun deletes => deletes.2 rfl, id, trivial⟩

/-- A table of one slot stays full when its descriptor is deleted. -/
theorem not_serves_delete :
    ¬ ∀ (maxFds : Nat) (start : EpollThread Nat Nat) (events : List (EpollEvent Nat Nat)),
      cntlrEpollInit Nat Nat maxFds = some start →
        Along EpollThread.step Serves start events := by
  intro serves
  have run := serves 1 ((cntlrEpollInit Nat Nat 1).get rfl)
    [.add 5 1 (sampleData 50) (some 500) true true, .del 5 true,
      .add 6 1 (sampleData 60) (some 600) true true] rfl
  have adds := run.2.2.1.adds
  have succeeded := adds ⟨1, ⟨Nat.le_refl 1, Nat.le_refl 1⟩, ?_⟩ rfl rfl rfl
  · exact Bool.noConfusion succeeded
  · rintro fd ⟨-, epollFd, stored, -⟩
    cases stored

end OpenFlowController.Utils
