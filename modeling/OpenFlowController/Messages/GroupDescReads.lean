/-
Module: Messages.GroupDescReads
Purpose: How far into the message each function of the decoder of group descriptions reads,
  and when its nested loops end well: the lengths lead from entry to entry inside the message,
  and the buckets use up what was given.
Trusted boundary: none
-/
import OpenFlowController.Messages.GroupDesc

namespace OpenFlowController.Messages

open Include Library

/-! ## Computations that read a message -/

/-- Of a message of `len` bytes the computation needs `reach`: if they are there, it
succeeds, and `post` holds of the result, and if not, it reads outside. -/
def Reads {α : Type} (len reach : Nat) (post : α → Prop) (computation : Except Stop α) :
    Prop :=
  (reach ≤ len ∧ ∃ a, computation = .ok a ∧ post a) ∨
    (len < reach ∧ computation = .error .outside)

/-- The bytes of a field, if they are there. -/
def slice (msg : List UInt8) (offset width : Nat) : List UInt8 :=
  (msg.drop offset).take width

theorem length_slice {msg : List UInt8} {offset width : Nat}
    (inside : offset + width ≤ msg.length) : (slice msg offset width).length = width := by
  rw [slice, List.length_take, List.length_drop]
  omega

namespace Reads

variable {α β : Type} {len reach further : Nat} {post : α → Prop} {next : β → Prop}
  {c : Except Stop α}

theorem pure {a : α} (holds : post a) : Reads len 0 post (Pure.pure a) :=
  .inl ⟨Nat.zero_le _, a, rfl, holds⟩

section

variable (reads : Reads len reach post c)

include reads

theorem mono {post' : α → Prop} (weaker : ∀ a, post a → post' a) : Reads len reach post' c := by
  rcases reads with ⟨fits, a, result, holds⟩ | short
  · exact .inl ⟨fits, a, result, weaker a holds⟩
  · exact .inr short

theorem cast {reach' : Nat} (same : reach = reach') : Reads len reach' post c :=
  same ▸ reads

theorem bind {k : α → Except Stop β} (continues : ∀ a, post a → Reads len further next (k a)) :
    Reads len (max reach further) next (c >>= k) := by
  rcases reads with ⟨fits, a, rfl, holds⟩ | ⟨short, rfl⟩
  · rcases continues a holds with ⟨fits', b, result, holds'⟩ | ⟨short', result⟩
    · exact .inl ⟨by omega, b, result, holds'⟩
    · exact .inr ⟨by omega, result⟩
  · exact .inr ⟨by omega, rfl⟩

end

theorem drop {msg : List UInt8} {offset : Nat} (positive : 0 < reach)
    (reads : Reads (msg.drop offset).length reach post c) :
    Reads msg.length (offset + reach) post c := by
  rw [List.length_drop] at reads
  rcases reads with ⟨fits, success⟩ | ⟨short, failure⟩
  · exact .inl ⟨by omega, success⟩
  · exact .inr ⟨by omega, failure⟩

theorem ok {a : α} (reads : Reads len reach (· = a) c) (inside : reach ≤ len) : c = .ok a := by
  rcases reads with ⟨_, result, rfl, rfl⟩ | ⟨short, _⟩
  · rfl
  · omega

theorem outside (reads : Reads len reach post c) (short : len < reach) : c = .error .outside := by
  rcases reads with ⟨inside, _⟩ | ⟨_, result⟩
  · omega
  · exact result

end Reads

theorem bind_eq_ok {α β : Type} {c : Except Stop α} {next : α → Except Stop β} {b : β} :
    c >>= next = .ok b ↔ ∃ a, c = .ok a ∧ next a = .ok b := by
  cases c with
  | error stop => exact ⟨nofun, fun ⟨_, is, _⟩ => nomatch is⟩
  | ok a =>
  constructor
  · exact fun is => ⟨a, rfl, is⟩
  · rintro ⟨_, ⟨⟩, is⟩
    exact is

theorem Reads.eq_of_ok {α : Type} {len reach : Nat} {a b : α} {c : Except Stop α}
    (reads : Reads len reach (· = a) c) (is : c = .ok b) : b = a := by
  rcases reads with ⟨_, result, rfl, rfl⟩ | ⟨_, rfl⟩
  · exact (Except.ok.inj is).symm
  · cases is

section Fields

variable {host : ByteOrder} {msg : List UInt8} {offset : Nat}

theorem reads_peek (width : Nat) :
    Reads msg.length (offset + width)
      (fun bytes => bytes = slice msg offset width ∧ bytes.length = width)
      (peek msg offset width) := by
  unfold peek
  split
  case isTrue inside => exact .inl ⟨inside, _, rfl, rfl, length_slice inside⟩
  case isFalse outside => exact .inr ⟨by omega, rfl⟩

theorem reads_byteAt :
    Reads msg.length (offset + 1) (· = UInt8.ofNat (netNat (slice msg offset 1)))
      (byteAt msg offset) := by
  apply Reads.cast
  · apply Reads.bind (reads_peek 1)
    intro bytes there
    exact Reads.pure (by rw [there.1])
  · omega

theorem reads_loadAt (width : Nat) :
    Reads msg.length (offset + width)
      (fun field => field = load host (slice msg offset width) ∧
        (slice msg offset width).length = width)
      (loadAt host msg offset width) := by
  apply Reads.cast
  · apply Reads.bind (reads_peek width)
    intro bytes there
    exact Reads.pure ⟨by rw [there.1], there.1 ▸ there.2⟩
  · omega

theorem reads_ntohsAt :
    Reads msg.length (offset + 2) (· = word16 (slice msg offset 2)) (ntohsAt host msg offset) := by
  apply Reads.cast
  · apply Reads.bind (reads_loadAt 2)
    intro field there
    exact Reads.pure (by rw [there.1, ntoh_load there.2, word16])
  · omega

theorem reads_ntohlAt :
    Reads msg.length (offset + 4) (· = word32 (slice msg offset 4)) (ntohlAt host msg offset) := by
  apply Reads.cast
  · apply Reads.bind (reads_loadAt 4)
    intro field there
    exact Reads.pure (by rw [there.1, ntoh_load there.2, word32])
  · omega

theorem reads_ntohllAt :
    Reads msg.length (offset + 8) (· = word64 (slice msg offset 8)) (ntohllAt host msg offset) := by
  apply Reads.cast
  · apply Reads.bind (reads_loadAt 8)
    intro field there
    exact Reads.pure (by rw [there.1, ntoh_load there.2, word64])
  · omega

theorem reads_ntohsOfUint32At :
    Reads msg.length (offset + 4)
      (· = UInt16.ofNat (ntoh host 2 (load host (slice msg offset 4) % 2 ^ 16)))
      (ntohsOfUint32At host msg offset) := by
  apply Reads.cast
  · apply Reads.bind (reads_loadAt 4)
    intro field there
    exact Reads.pure (by rw [there.1])
  · omega

end Fields

/-! ## How far each entry is read -/

/-- How many bytes of a value the decoder of a `set_field` reads. -/
def decodedWidth : OxmField → Nat
  | .ipv6Src | .ipv6Dst | .ipv6NdTarget | .ipv6NdSll | .ipv6NdTll | .ipv6Exthdr => 0
  | .pbbIsid => 1
  | field => field.width

/-- The field in the header at the start of `msg`. -/
def oxmFieldAt (msg : List UInt8) : Option OxmField :=
  OxmField.ofCode (UInt8.ofNat (netNat (slice msg 2 1)) >>> 1).toNat

/-- How far into a field the decoder reads. -/
def setFieldReach (msg : List UInt8) : Nat :=
  match oxmFieldAt msg with
  | some field => if decodedWidth field = 0 then 3 else ofOxmHdrLen + decodedWidth field
  | none => 3

/-- How far into an experimenter's action the decoder reads behind its subtype. -/
def experimenterReach (subtype : Nat) (msg : List UInt8) : Nat :=
  match subtype with
  | 15 | 11 | 2 | 9 => 16
  | 21 => 20
  | 23 => if UInt8.ofNat (netNat (slice msg 10 1)) = 4 then 14 else 11
  | 22 | 19 => 11
  | 12 | 13 | 30 | 16 | 8 | 900 | 901 => 24
  | _ => 0

/-- The `type` and the `len` in the header at the start of `msg`. -/
def headerType (msg : List UInt8) : UInt16 := word16 (slice msg 0 2)

def headerLen (msg : List UInt8) : Nat := (word16 (slice msg 2 2)).toNat

/-- Actions without operands, and the one whose operand the decoder leaves out. -/
abbrev isBareType (type : UInt16) : Prop :=
  type = Ofpat.copyTtlOut ∨ type = Ofpat.copyTtlIn ∨ type = Ofpat.decMplsTtl ∨
    type = Ofpat.popVlan ∨ type = Ofpat.setQueue ∨ type = Ofpat.decNwTtl ∨
    type = Ofpat.popPbb

abbrev isTtlType (type : UInt16) : Prop := type = Ofpat.setMplsTtl ∨ type = Ofpat.setNwTtl

abbrev isTagType (type : UInt16) : Prop :=
  type = Ofpat.pushVlan ∨ type = Ofpat.pushMpls ∨ type = Ofpat.popMpls ∨
    type = Ofpat.pushPbb

/-- How many bytes from its start on the decoder reads of an action behind its type. -/
def operandReach (host : ByteOrder) (msg : List UInt8) : Nat :=
  if headerType msg = Ofpat.output then 10
  else if isBareType (headerType msg) then 0
  else if isTtlType (headerType msg) then 5
  else if isTagType (headerType msg) then 6
  else if headerType msg = Ofpat.group then 8
  else if headerType msg = Ofpat.setField then 4 + setFieldReach (msg.drop 4)
  else if headerType msg = Ofpat.experimenter then
    max 10 (experimenterReach (load host (slice msg 8 2)) msg)
  else 4

/-- How many bytes from its start on the decoder reads of an action. -/
def actionReach (host : ByteOrder) (msg : List UInt8) : Nat := max 2 (operandReach host msg)

/-- How many bytes the decoder goes on behind an action. -/
def actionSpan (msg : List UInt8) : Nat :=
  if headerType msg = Ofpat.output then 16
  else if isBareType (headerType msg) then 8
  else if isTtlType (headerType msg) then 8
  else if isTagType (headerType msg) then 8
  else if headerType msg = Ofpat.group then 8
  else headerLen msg

/-- How many bytes from its start on the decoder reads of a property. -/
def propReach (msg : List UInt8) : Nat :=
  max 2 (if headerType msg = Ofpgbpt.watchPort ∨ headerType msg = Ofpgbpt.watchGroup then 8
    else if headerType msg = Ofpgbpt.weight then 8
    else 4)

/-- How many bytes the decoder goes on behind a property. -/
def propSpan (msg : List UInt8) : Nat :=
  if headerType msg = Ofpgbpt.watchPort ∨ headerType msg = Ofpgbpt.watchGroup then 8
  else if headerType msg = Ofpgbpt.weight then 8
  else headerLen msg

theorem actionSpan_lt (msg : List UInt8) : actionSpan msg < 2 ^ 16 := by
  have stated : headerLen msg < 2 ^ 16 := UInt16.toNat_lt _
  unfold actionSpan
  split_ifs <;> omega

theorem propSpan_lt (msg : List UInt8) : propSpan msg < 2 ^ 16 := by
  have stated : headerLen msg < 2 ^ 16 := UInt16.toNat_lt _
  unfold propSpan
  split_ifs <;> omega

section Spec

variable {host : ByteOrder} {msg : List UInt8} {entry : OfiAction}

theorem reads_into {α β : Type} {len reach : Nat} {post : α → Prop} {next : β → Prop}
    {c : Except Stop α} (reads : Reads len reach post c) (into : α → β)
    (kept : ∀ a, post a → next (into a)) :
    Reads len reach next (c >>= fun a => pure (into a)) := by
  apply Reads.cast
  · exact Reads.bind reads fun a holds => Reads.pure (kept a holds)
  · omega

/-- How far into a value of the field in the header the decoder reads. -/
def valueReach : Option OxmField → Nat
  | some field => if decodedWidth field = 0 then 0 else ofOxmHdrLen + decodedWidth field
  | none => 0

theorem setFieldReach_eq : setFieldReach msg = max 3 (valueReach (oxmFieldAt msg)) := by
  unfold setFieldReach
  cases oxmFieldAt msg with
  | none => rfl
  | some field => cases field <;> rfl

theorem setField_reads :
    Reads msg.length (setFieldReach msg) (fun _ => True)
      (ofGroupFrameActionSetFieldResponse host msg entry) := by
  rw [setFieldReach_eq]
  apply Reads.bind reads_byteAt
  rintro byte rfl
  rw [← oxmFieldAt]
  cases oxmFieldAt msg with
  | none => exact Reads.pure trivial
  | some field =>
  cases field
  all_goals first
    | exact Reads.pure trivial
    | exact reads_into reads_ntohlAt _ fun _ _ => trivial
    | exact reads_into reads_ntohllAt _ fun _ _ => trivial
    | exact reads_into reads_ntohsAt _ fun _ _ => trivial
    | exact reads_into reads_byteAt _ fun _ _ => trivial
    | exact reads_into (reads_peek _) _ fun _ _ => trivial

/-- What an experimenter's data leaves alone. -/
def SameVendor (entry later : OfiAction) : Prop :=
  later.type = entry.type ∧ later.vendorid = entry.vendorid

/-- An experimenter action reads to its reach. -/
theorem experimenter_reads (subtype : Nat) :
    Reads msg.length (experimenterReach subtype msg) (SameVendor entry)
      (frameExperimenterData host msg subtype entry) := by
  have byte {offset : Nat} (into : UInt8 → OfiAction) (kept : ∀ a, SameVendor entry (into a)) :
      Reads msg.length (offset + 1) (SameVendor entry)
        (byteAt msg offset >>= fun a => pure (into a)) :=
    reads_into reads_byteAt into fun a _ => kept a
  have word (offset width : Nat) (into : Nat → OfiAction) (kept : ∀ a, SameVendor entry (into a)) :
      Reads msg.length (offset + width) (SameVendor entry)
        (loadAt host msg offset width >>= fun a => pure (into a)) :=
    reads_into (reads_loadAt width) into fun a _ => kept a
  unfold frameExperimenterData
  split
  case h_1 => exact reads_into (reads_peek 6) _ fun _ _ => ⟨rfl, rfl⟩
  case h_2 => exact word 16 4 _ fun _ => ⟨rfl, rfl⟩
  case h_3 =>
    apply Reads.cast
    · apply Reads.bind reads_byteAt
      rintro code rfl
      show Reads _ (if UInt8.ofNat (netNat (slice msg 10 1)) = 4 then 14 else 0) _ _
      split
      · exact word 12 2 _ fun _ => ⟨rfl, rfl⟩
      · exact Reads.pure ⟨rfl, rfl⟩
    · show max 11 _ = if UInt8.ofNat (netNat (slice msg 10 1)) = 4 then 14 else 11
      split <;> rfl
  case h_4 => exact byte _ fun _ => ⟨rfl, rfl⟩
  case h_5 => exact byte _ fun _ => ⟨rfl, rfl⟩
  case h_6 => exact word 12 4 _ fun _ => ⟨rfl, rfl⟩
  case h_7 => exact word 12 4 _ fun _ => ⟨rfl, rfl⟩
  case h_8 => exact word 12 4 _ fun _ => ⟨rfl, rfl⟩
  case h_9 => exact word 16 8 _ fun _ => ⟨rfl, rfl⟩
  case h_10 => exact word 16 8 _ fun _ => ⟨rfl, rfl⟩
  case h_11 => exact word 16 8 _ fun _ => ⟨rfl, rfl⟩
  case h_12 =>
    apply Reads.cast
    · apply Reads.bind (reads_loadAt 4)
      intro _ _
      exact word 16 8 _ fun _ => ⟨rfl, rfl⟩
    · rfl
  case h_13 =>
    apply Reads.cast
    · apply Reads.bind reads_byteAt
      intro _ _
      apply Reads.bind reads_byteAt
      intro _ _
      exact word 16 8 _ fun _ => ⟨rfl, rfl⟩
    · rfl
  case h_14 =>
    apply Reads.cast
    · apply Reads.bind (reads_loadAt 2)
      intro _ _
      apply Reads.bind (reads_loadAt 4)
      intro _ _
      exact word 16 8 _ fun _ => ⟨rfl, rfl⟩
    · rfl
  case h_15 =>
    apply Reads.cast
    · apply Reads.bind (reads_loadAt 2)
      intro _ _
      apply Reads.bind (reads_loadAt 2)
      intro _ _
      apply Reads.bind (reads_loadAt 2)
      intro _ _
      apply Reads.bind (reads_loadAt 4)
      intro _ _
      exact word 20 4 _ fun _ => ⟨rfl, rfl⟩
    · rfl
  case h_16 =>
    have nothing : experimenterReach subtype msg = 0 := by
      unfold experimenterReach
      split <;> first | contradiction | rfl
    exact (Reads.pure ⟨rfl, rfl⟩).cast nothing.symm

theorem reads_headerLen {reach : Nat} (far : 4 ≤ reach) {c : Except Stop OfiAction}
    {post : OfiAction → Prop} (reads : Reads msg.length reach post c) :
    Reads msg.length reach (fun p => post p.1 ∧ p.2 = headerLen msg)
      (c >>= fun entry => ntohsAt host msg 2 >>= fun len => pure (entry, len.toNat)) := by
  apply Reads.cast
  · apply Reads.bind reads
    intro entry holds
    apply Reads.bind reads_ntohsAt
    rintro len rfl
    exact Reads.pure ⟨holds, rfl⟩
  · omega

/-- An action reads to the end of its operands. -/
theorem frameAction_reads :
    Reads msg.length (operandReach host msg) (fun p => p.2 = actionSpan msg)
      (frameAction host msg (headerType msg) entry) := by
  unfold frameAction operandReach actionSpan isBareType isTtlType isTagType
  by_cases output : headerType msg = Ofpat.output
  · simp only [if_pos output]
    apply Reads.cast
    · apply Reads.bind reads_ntohlAt
      intro port _
      exact reads_into reads_ntohsAt _ fun _ _ => rfl
    · rfl
  simp only [if_neg output]
  split
  case isTrue => exact Reads.pure rfl
  case isFalse =>
  split
  case isTrue => exact reads_into reads_byteAt _ fun _ _ => rfl
  case isFalse =>
  split
  case isTrue => exact reads_into reads_ntohsAt _ fun _ _ => rfl
  case isFalse =>
  split
  case isTrue => exact reads_into reads_ntohlAt _ fun _ _ => rfl
  case isFalse =>
  split
  case isTrue =>
    have field : Reads msg.length (4 + setFieldReach (msg.drop 4)) (fun _ => True)
        (ofGroupFrameActionSetFieldResponse host (msg.drop 4) entry) := by
      apply Reads.drop _ setField_reads
      rw [setFieldReach_eq]
      omega
    exact (reads_headerLen (by omega) field).mono fun _ holds => holds.2
  case isFalse =>
    split
    case isTrue =>
      apply Reads.cast
      · apply Reads.bind reads_ntohsOfUint32At
        intro vendor _
        apply Reads.bind reads_ntohsAt
        intro subtype _
        apply Reads.bind (reads_loadAt 2)
        rintro raw ⟨rfl, _⟩
        apply Reads.bind (experimenter_reads _)
        intro data _
        exact reads_into reads_ntohsAt _ fun _ same => congrArg UInt16.toNat same
      · omega
    case isFalse =>
      exact reads_into reads_ntohsAt _ fun _ same => congrArg UInt16.toNat same

end Spec

/-! ## The decoders of entries -/

/-- The decoder of an entry reads `reach` bytes, and succeeds if they and the entry are
there, with the length `span`. -/
structure Decodes {α : Type} (decode : Cursor → Except Stop (α × Nat))
    (reach span : List UInt8 → Nat) (given : Nat → Bool) : Prop where
  succeeds : ∀ cursor, reach cursor.msg ≤ cursor.msg.length → given cursor.entries = true →
    ∃ entry, decode cursor = .ok (entry, span cursor.msg)
  fails : ∀ cursor, ¬(reach cursor.msg ≤ cursor.msg.length ∧ given cursor.entries = true) →
    decode cursor = .error .outside ∨ decode cursor = .error .nullEntry
  spanBound : ∀ msg, span msg < 2 ^ 16

theorem Decodes.spanned {α : Type} {decode : Cursor → Except Stop (α × Nat)}
    {reach span : List UInt8 → Nat} {given : Nat → Bool} {cursor : Cursor} {result : α × Nat}
    (decodes : Decodes decode reach span given) (decoded : decode cursor = .ok result) :
    result.2 = span cursor.msg := by
  by_cases there : reach cursor.msg ≤ cursor.msg.length ∧ given cursor.entries = true
  · obtain ⟨entry, is⟩ := decodes.succeeds cursor there.1 there.2
    cases is.symm.trans decoded
    rfl
  · rcases decodes.fails cursor there with failed | failed
    · cases failed.symm.trans decoded
    · cases failed.symm.trans decoded

variable {host : ByteOrder}

/-- What reads a type first and then its operands decodes an entry. -/
theorem decodes_of_reads {α : Type} {heap : Heap}
    (frame : List UInt8 → UInt16 → Except Stop (α × Nat)) {reach span : List UInt8 → Nat}
    {decode : Cursor → Except Stop (α × Nat)}
    (is : ∀ cursor, decode cursor = (ntohsAt host cursor.msg 0 >>= fun type =>
      if heap.entry cursor.entries then frame cursor.msg type else .error .nullEntry))
    (reads : ∀ msg, Reads msg.length (reach msg) (fun p => p.2 = span msg)
      (frame msg (headerType msg))) (spanBound : ∀ msg, span msg < 2 ^ 16) :
    Decodes decode (fun msg => max 2 (reach msg)) span heap.entry := by
  constructor
  case spanBound => exact spanBound
  case succeeds =>
    intro cursor inside given
    rw [is]
    rcases @reads_ntohsAt host cursor.msg 0 with ⟨_, type, result, same⟩ | ⟨short, _⟩
    · rcases reads cursor.msg with ⟨_, ⟨entry, length⟩, framed, goesOn⟩ | ⟨short, _⟩
      · refine ⟨entry, ?_⟩
        rw [result, same]
        dsimp only [bind, Except.bind]
        rw [if_pos given, ← headerType, framed, ← goesOn]
      · omega
    · omega
  case fails =>
    intro cursor missing
    rw [is]
    rcases @reads_ntohsAt host cursor.msg 0 with ⟨_, type, result, same⟩ | ⟨_, result⟩
    · rw [result, same]
      dsimp only [bind, Except.bind]
      by_cases given : heap.entry cursor.entries = true
      · rw [if_pos given, ← headerType]
        rcases reads cursor.msg with ⟨fits, _⟩ | ⟨_, framed⟩
        · exact absurd ⟨by omega, given⟩ missing
        · exact .inl framed
      · rw [if_neg given]
        exact .inr rfl
    · rw [result]
      exact .inl rfl

theorem action_decodes (host : ByteOrder) (heap : Heap) :
    Decodes (ofGroupFrameActionResponse host heap) (actionReach host) actionSpan
      heap.entry := by
  apply decodes_of_reads fun msg type => frameAction host msg type { type := type }
  case is =>
    intro cursor
    rfl
  case reads => exact fun msg => frameAction_reads
  case spanBound => exact actionSpan_lt

theorem frameBucketProp_reads (msg : List UInt8) :
    Reads msg.length (if headerType msg = Ofpgbpt.watchPort ∨ headerType msg = Ofpgbpt.watchGroup
      then 8 else if headerType msg = Ofpgbpt.weight then 8 else 4)
      (fun p => p.2 = propSpan msg) (frameBucketProp host msg (headerType msg)) := by
  unfold propSpan frameBucketProp
  split
  case isTrue => exact reads_into reads_ntohlAt _ fun _ _ => rfl
  case isFalse =>
    split
    case isTrue => exact reads_into reads_ntohsOfUint32At _ fun _ _ => rfl
    case isFalse =>
      exact reads_into reads_ntohsAt _ fun _ same => congrArg UInt16.toNat same

theorem prop_decodes (host : ByteOrder) (heap : Heap) :
    Decodes (ofGroupFrameBucketPropResponse host heap) propReach propSpan heap.entry := by
  apply decodes_of_reads (frameBucketProp host)
  case is =>
    intro cursor
    rfl
  case reads => exact frameBucketProp_reads
  case spanBound => exact propSpan_lt

open List

/-! ## The inner loops -/

/-- Entries lead from one place of the message to another until `total` is used up.
Each is there as far as its decoder reads, and has a length. -/
inductive Walk (reach span : List UInt8 → Nat) (given : Nat → Bool) :
    Int → Cursor → Cursor → Prop where
  | done {total : Int} {cursor : Cursor} (used : total ≤ 0) : Walk reach span given total cursor cursor
  | entry {total : Int} {cursor behind : Cursor} (left : 0 < total)
      (inside : reach cursor.msg ≤ cursor.msg.length) (there : given cursor.entries = true)
      (long : 0 < span cursor.msg)
      (rest : Walk reach span given (total - span cursor.msg) (cursor.pass (span cursor.msg))
        behind) :
      Walk reach span given total cursor behind

section Loop

variable {α : Type} {decode : Cursor → Except Stop (α × Nat)} {reach span : List UInt8 → Nat}
  {given : Nat → Bool} {total : Int} {cursor behind : Cursor} {list later : List α} (fuel : Nat)

theorem entryLoop_entry {entry : α} {length : Nat} (left : 0 < total)
    (decoded : decode cursor = .ok (entry, length)) :
    entryLoop decode (fuel + 1) total cursor list =
      entryLoop decode fuel (total - length) (cursor.pass length) (list ++ [entry]) := by
  rw [entryLoop, if_pos left, decoded]

theorem entryLoop_stop (left : 0 < total)
    (failed : decode cursor = .error .outside ∨ decode cursor = .error .nullEntry) :
    entryLoop decode (fuel + 1) total cursor list = .error .outside ∨
      entryLoop decode (fuel + 1) total cursor list = .error .nullEntry := by
  rw [entryLoop, if_pos left]
  rcases failed with failed | failed
  · rw [failed]
    exact .inl rfl
  · rw [failed]
    exact .inr rfl

theorem entryLoop_done (used : total ≤ 0) :
    entryLoop decode (fuel + 1) total cursor list = .ok (list, cursor) := by
  rw [entryLoop, if_neg (by omega)]

section

variable (decodes : Decodes decode reach span given)

include decodes

theorem loop_of_walk (walk : Walk reach span given total cursor behind) (list : List α) :
    ∃ later enough, ∀ fuel, enough ≤ fuel →
      entryLoop decode fuel total cursor list = .ok (later, behind) := by
  induction walk generalizing list with
  | done used =>
    refine ⟨list, 1, fun fuel many => ?_⟩
    obtain ⟨fuel, rfl⟩ : ∃ less, fuel = less + 1 := ⟨fuel - 1, by omega⟩
    exact entryLoop_done fuel used
  | @entry total cursor behind left inside there long rest ih =>
  obtain ⟨entry, decoded⟩ := decodes.succeeds cursor inside there
  obtain ⟨later, enough, ends⟩ := ih (list ++ [entry])
  refine ⟨later, enough + 1, fun fuel many => ?_⟩
  obtain ⟨fuel, rfl⟩ : ∃ less, fuel = less + 1 := ⟨fuel - 1, by omega⟩
  rw [entryLoop_entry fuel left decoded]
  exact ends fuel (by omega)

/-- A loop that ends has walked its entries. -/
theorem walk_of_loop {fuel : Nat}
    (ended : entryLoop decode fuel total cursor list = .ok (later, behind)) :
    Walk reach span given total cursor behind := by
  induction fuel generalizing total cursor list with
  | zero => cases ended
  | succ fuel ih =>
  by_cases left : 0 < total
  · by_cases there : reach cursor.msg ≤ cursor.msg.length ∧ given cursor.entries = true
    · obtain ⟨entry, decoded⟩ := decodes.succeeds cursor there.1 there.2
      rw [entryLoop_entry fuel left decoded] at ended
      have rest := ih ended
      apply Walk.entry left there.1 there.2 _ rest
      apply Nat.pos_of_ne_zero
      intro short
      rw [short] at rest
      cases rest with
      | done used => omega
      | entry _ _ _ long => exact absurd short (Nat.pos_iff_ne_zero.mp long)
    · rcases entryLoop_stop fuel left (decodes.fails cursor there) with failed | failed
      · exact nomatch failed.symm.trans ended
      · exact nomatch failed.symm.trans ended
  · rw [entryLoop_done fuel (by omega)] at ended
    cases ended
    exact Walk.done (by omega)

theorem entryLoop_clean {fuel : Nat} {stop : Stop}
    (ended : entryLoop decode fuel total cursor list = .error stop) (leaked : Nat) :
    stop ≠ .failure leaked := by
  induction fuel generalizing total cursor list with
  | zero =>
    cases ended
    exact nofun
  | succ fuel ih =>
  by_cases left : 0 < total
  · by_cases there : reach cursor.msg ≤ cursor.msg.length ∧ given cursor.entries = true
    · obtain ⟨entry, decoded⟩ := decodes.succeeds cursor there.1 there.2
      rw [entryLoop_entry fuel left decoded] at ended
      exact ih ended
    · rcases entryLoop_stop fuel left (decodes.fails cursor there) with failed | failed
      · cases failed.symm.trans ended
        exact nofun
      · cases failed.symm.trans ended
        exact nofun
  · rw [entryLoop_done fuel (by omega)] at ended
    cases ended

end

theorem Walk.advance (spanBound : ∀ msg, span msg < 2 ^ 16)
    (walk : Walk reach span given total cursor behind) :
    cursor.read ≤ behind.read ∧ behind.msg = cursor.msg.drop (behind.read - cursor.read) ∧
      (behind.read = cursor.read ∨ (behind.read : Int) < cursor.read + total + 2 ^ 16) := by
  induction walk with
  | done used =>
    exact ⟨Nat.le_refl _, by rw [Nat.sub_self, drop_zero], .inl rfl⟩
  | @entry total cursor behind left inside there long rest ih =>
  obtain ⟨onwards, rest_, bounded⟩ := ih
  have small := spanBound cursor.msg
  have pass : (cursor.pass (span cursor.msg)).read = cursor.read + span cursor.msg := rfl
  rw [pass] at onwards bounded rest_
  refine ⟨by omega, ?_, .inr (by omega)⟩
  rw [rest_, Cursor.pass, drop_drop]
  congr 1
  omega

end Loop

/-! ## One bucket -/

/-- What the lengths in a bucket's header leave for its actions and its properties. -/
def actionListLenAt (msg : List UInt8) : Nat := (word16 (slice msg 2 2)).toNat

def bucketPropLenAt (msg : List UInt8) : Int :=
  (word16 (slice msg 0 2)).toNat - (sizeofOfpBucket + actionListLenAt msg)

/-- A cursor behind the header of a bucket. -/
def Cursor.bucketBody (cursor : Cursor) : Cursor :=
  { cursor with
    msg := cursor.msg.drop sizeofOfpBucket
    read := sizeofOfpBucket }

/-- The header of a bucket is there, and its lengths lead through its actions and its
properties. -/
structure BucketWalk (host : ByteOrder) (heap : Heap) (cursor middle behind : Cursor) :
    Prop where
  header : sizeofOfpBucket ≤ cursor.msg.length
  actions : Walk (actionReach host) actionSpan heap.entry (actionListLenAt cursor.msg)
    cursor.bucketBody middle
  props : Walk propReach propSpan heap.entry (bucketPropLenAt cursor.msg) middle behind

section Bucket

variable {host : ByteOrder} {heap : Heap} {number : Nat} {cursor middle behind : Cursor}

theorem bucketResponse_header (fuel : Nat) (memory : heap.bucket number = true)
    (header : sizeofOfpBucket ≤ cursor.msg.length) :
    ofGroupFrameBucketResponse host heap fuel number cursor =
      (entryLoop (ofGroupFrameActionResponse host heap) fuel (actionListLenAt cursor.msg)
        cursor.bucketBody [] >>= fun actions =>
      entryLoop (ofGroupFrameBucketPropResponse host heap) fuel (bucketPropLenAt cursor.msg)
        actions.2 [] >>= fun props =>
      pure (⟨word32 (slice cursor.msg 4 4), actions.1, props.1⟩, props.2)) := by
  have long : 8 ≤ cursor.msg.length := header
  have bucketId := (@reads_ntohlAt host cursor.msg 4).ok (by omega)
  have actionListLen := (@reads_ntohsAt host cursor.msg 2).ok (by omega)
  have len := (@reads_ntohsAt host cursor.msg 0).ok (by omega)
  unfold ofGroupFrameBucketResponse
  rw [if_pos memory, bucketId, actionListLen, len]
  rfl

theorem bucketResponse_of_walk (memory : heap.bucket number = true)
    (walk : BucketWalk host heap cursor middle behind) :
    ∃ bucket enough, ∀ fuel, enough ≤ fuel →
      ofGroupFrameBucketResponse host heap fuel number cursor = .ok (bucket, behind) := by
  obtain ⟨actionList, some_, actions⟩ := loop_of_walk (action_decodes host heap) walk.actions []
  obtain ⟨propList, more, props⟩ := loop_of_walk (prop_decodes host heap) walk.props []
  refine ⟨⟨word32 (slice cursor.msg 4 4), actionList, propList⟩, max some_ more, ?_⟩
  intro fuel many
  rw [bucketResponse_header fuel memory walk.header, actions fuel (by omega)]
  dsimp only [bind, Except.bind]
  rw [props fuel (by omega)]
  rfl

/-- A bucket is built only there, and the decoder returns `OF_FAILURE` only where `calloc`
gives no bucket. -/
theorem bucketResponse_inv {fuel : Nat} {result : Except Stop (OfiBucket × Cursor)}
    (is : ofGroupFrameBucketResponse host heap fuel number cursor = result) :
    (heap.bucket number = false ∧ result = .error (.failure 0)) ∨
    (heap.bucket number = true ∧ (∀ leaked, result ≠ .error (.failure leaked)) ∧
      ∀ bucket behind, result = .ok (bucket, behind) →
        ∃ middle, BucketWalk host heap cursor middle behind) := by
  subst is
  cases memory : heap.bucket number with
  | false =>
    apply Or.inl
    unfold ofGroupFrameBucketResponse
    rw [memory]
    exact ⟨rfl, rfl⟩
  | true =>
  refine .inr ⟨rfl, ?_⟩
  by_cases header : sizeofOfpBucket ≤ cursor.msg.length
  · rw [bucketResponse_header fuel memory header]
    cases actions : entryLoop (ofGroupFrameActionResponse host heap) fuel
        (actionListLenAt cursor.msg) cursor.bucketBody [] with
    | error stop =>
      exact ⟨fun leaked failed => entryLoop_clean (action_decodes host heap) actions
        leaked (Except.error.inj failed), nofun⟩
    | ok first =>
    rcases first with ⟨actionList, middle⟩
    dsimp only [bind, Except.bind]
    cases props : entryLoop (ofGroupFrameBucketPropResponse host heap) fuel
        (bucketPropLenAt cursor.msg) middle [] with
    | error stop =>
      exact ⟨fun leaked failed => entryLoop_clean (prop_decodes host heap) props
        leaked (Except.error.inj failed), nofun⟩
    | ok second =>
    refine ⟨nofun, fun bucket behind built => ⟨middle, header, ?_, ?_⟩⟩
    · exact walk_of_loop (action_decodes host heap) actions
    · cases built
      exact walk_of_loop (prop_decodes host heap) props
  · have short : cursor.msg.length < 4 + 4 := Nat.lt_of_not_le header
    have outside := (@reads_ntohlAt host cursor.msg 4).outside short
    unfold ofGroupFrameBucketResponse
    rw [if_pos memory, outside]
    exact ⟨nofun, nofun⟩

theorem BucketWalk.advance (walk : BucketWalk host heap cursor middle behind) :
    sizeofOfpBucket ≤ behind.read ∧ behind.read < 2 ^ 20 ∧
      behind.msg = cursor.msg.drop behind.read := by
  have actionsStated : actionListLenAt cursor.msg < 2 ^ 16 := UInt16.toNat_lt _
  have stated : (word16 (slice cursor.msg 0 2)).toNat < 2 ^ 16 := UInt16.toNat_lt _
  have propsStated : bucketPropLenAt cursor.msg < 2 ^ 16 := by
    unfold bucketPropLenAt
    omega
  obtain ⟨first, middleMsg, firstBound⟩ := walk.actions.advance actionSpan_lt
  obtain ⟨second, behindMsg, secondBound⟩ := walk.props.advance propSpan_lt
  have start : cursor.bucketBody.read = sizeofOfpBucket := rfl
  have startMsg : cursor.bucketBody.msg = cursor.msg.drop sizeofOfpBucket := rfl
  have header : sizeofOfpBucket = 8 := rfl
  refine ⟨by omega, by omega, ?_⟩
  rw [behindMsg, middleMsg, startMsg, drop_drop, drop_drop]
  congr 1
  omega

end Bucket

/-! ## The list of buckets -/

/-- From the bucket of this number on, with `left` bytes of the given length: the buckets
use up exactly what is left, or `calloc` refuses the next one. -/
inductive Delimited (host : ByteOrder) (heap : Heap) : Nat → Int → Cursor → Prop where
  | finished {number : Nat} {cursor : Cursor} : Delimited host heap number 0 cursor
  | refused {number : Nat} {left : Int} {cursor : Cursor} (some_ : left ≠ 0)
      (memory : heap.bucket number = false) : Delimited host heap number left cursor
  | bucket {number : Nat} {left : Int} {cursor middle behind : Cursor} (some_ : left ≠ 0)
      (memory : heap.bucket number = true) (walk : BucketWalk host heap cursor middle behind)
      (rest : Delimited host heap (number + 1) (left - behind.read) behind) :
      Delimited host heap number left cursor

/-- `msg_length` counts what is left of the given length, modulo its range; the message goes on
not much further. -/
structure Counts (msgLength : UInt32) (left : Int) (cursor : Cursor) : Prop where
  value : (msgLength.toNat : Int) = left % 2 ^ 32
  high : left < 2 ^ 32
  low : -2 ^ 21 < left
  msg : cursor.msg = [] ∨ (cursor.msg.length : Int) ≤ left + 2 ^ 17

/-- `OF_SUCCESS`, or `OF_FAILURE` because there is no memory for the next bucket, with
nothing lost. -/
def Settled (heap : Heap) (result : List OfiBucket × Except Stop Unit) : Prop :=
  result.2 = .ok () ∨
    (heap.bucket result.1.length = false ∧ result.2 = .error (.failure 0))

/-- The bucket came out of the decoder of buckets, which went through to its end. -/
def Complete (host : ByteOrder) (heap : Heap) (bucket : OfiBucket) : Prop :=
  ∃ fuel number cursor behind,
    ofGroupFrameBucketResponse host heap fuel number cursor = .ok (bucket, behind)

section Buckets

variable {host : ByteOrder} {heap : Heap} {msgLength : UInt32} {left : Int}
  {cursor middle behind : Cursor} {list : List OfiBucket}

theorem Counts.pos_iff (counts : Counts msgLength left cursor) : 0 < msgLength ↔ left ≠ 0 := by
  have value := counts.value
  have high := counts.high
  have low := counts.low
  rw [UInt32.lt_iff_toNat_lt]
  have zero : (0 : UInt32).toNat = 0 := rfl
  omega

/-- The two counts stay together over a bucket. -/
theorem Counts.pass (counts : Counts msgLength left cursor)
    (walk : BucketWalk host heap cursor middle behind) :
    Counts (msgLength - UInt32.ofNat behind.read) (left - behind.read) behind := by
  obtain ⟨positive, bounded, msg⟩ := walk.advance
  have header : sizeofOfpBucket ≤ cursor.msg.length := walk.header
  have value := counts.value
  have high := counts.high
  have near : (cursor.msg.length : Int) ≤ left + 2 ^ 17 := by
    rcases counts.msg with none | near
    · rw [none] at header
      cases header
    · exact near
  have small : (UInt32.ofNat behind.read).toNat = behind.read := by
    rw [UInt32.toNat_ofNat']
    omega
  constructor
  case value =>
    rw [UInt32.toNat_sub, small]
    omega
  case high => omega
  case low => omega
  case msg =>
    rw [msg, length_drop]
    by_cases inside : behind.read ≤ cursor.msg.length
    · exact .inr (by omega)
    · exact .inl (drop_eq_nil_of_le (by omega))

variable {bucket : OfiBucket} (fuel : Nat)

theorem bucketLoop_bucket (positive : 0 < msgLength)
    (built : ofGroupFrameBucketResponse host heap fuel list.length cursor = .ok (bucket, behind)) :
    bucketLoop host heap (fuel + 1) msgLength cursor list =
      bucketLoop host heap fuel (msgLength - UInt32.ofNat behind.read) behind
        (list ++ [bucket]) := by
  rw [bucketLoop, if_pos positive, built]

theorem bucketLoop_stop {stop : Stop} (positive : 0 < msgLength)
    (failed : ofGroupFrameBucketResponse host heap fuel list.length cursor = .error stop) :
    bucketLoop host heap (fuel + 1) msgLength cursor list = (list, .error stop) := by
  rw [bucketLoop, if_pos positive, failed]

theorem bucketLoop_done (nothing : ¬0 < msgLength) :
    bucketLoop host heap (fuel + 1) msgLength cursor list = (list, .ok ()) := by
  rw [bucketLoop, if_neg nothing]

/-- Buckets that are delimited end the loop. -/
theorem settled_of_delimited {number : Nat}
    (delimited : Delimited host heap number left cursor) (list : List OfiBucket)
    (counted : list.length = number) (msgLength : UInt32)
    (counts : Counts msgLength left cursor) :
    ∃ enough, ∀ fuel, enough ≤ fuel →
      Settled heap (bucketLoop host heap fuel msgLength cursor list) := by
  induction delimited generalizing list msgLength with
  | finished =>
    refine ⟨1, fun fuel many => ?_⟩
    obtain ⟨fuel, rfl⟩ : ∃ less, fuel = less + 1 := ⟨fuel - 1, by omega⟩
    rw [bucketLoop_done fuel (fun positive => counts.pos_iff.mp positive rfl)]
    exact .inl rfl
  | @refused number left cursor some_ memory =>
    refine ⟨1, fun fuel many => ?_⟩
    obtain ⟨fuel, rfl⟩ : ∃ less, fuel = less + 1 := ⟨fuel - 1, by omega⟩
    rcases @bucketResponse_inv host heap number cursor fuel _ rfl with
      ⟨_, failed⟩ | ⟨there, _⟩
    · rw [← counted] at failed
      rw [bucketLoop_stop fuel (counts.pos_iff.mpr some_) failed]
      exact .inr ⟨counted ▸ memory, rfl⟩
    · rw [memory] at there
      cases there
  | @bucket number left cursor middle behind some_ memory walk rest ih =>
  obtain ⟨bucket, first, built⟩ := bucketResponse_of_walk memory walk
  obtain ⟨more, ends⟩ := ih (list ++ [bucket]) (by rw [length_append, counted, length_singleton])
    (msgLength - UInt32.ofNat behind.read) (counts.pass walk)
  refine ⟨max first more + 1, fun fuel many => ?_⟩
  obtain ⟨fuel, rfl⟩ : ∃ less, fuel = less + 1 := ⟨fuel - 1, by omega⟩
  have next := built fuel (by omega)
  rw [← counted] at next
  rw [bucketLoop_bucket fuel (counts.pos_iff.mpr some_) next]
  exact ends fuel (by omega)

/-- A loop that ends had delimited buckets. -/
theorem delimited_of_settled {fuel : Nat} (counts : Counts msgLength left cursor)
    (settled : Settled heap (bucketLoop host heap fuel msgLength cursor list)) :
    Delimited host heap list.length left cursor := by
  induction fuel generalizing msgLength left cursor list with
  | zero =>
    rcases settled with success | ⟨_, failure⟩
    · cases success
    · cases failure
  | succ fuel ih =>
  by_cases some_ : left = 0
  · subst some_
    exact Delimited.finished
  have positive := counts.pos_iff.mpr some_
  cases result : ofGroupFrameBucketResponse host heap fuel list.length cursor with
  | error stop =>
    rw [bucketLoop_stop fuel positive result] at settled
    rcases bucketResponse_inv result with ⟨memory, _⟩ | ⟨_, clean, _⟩
    · exact Delimited.refused some_ memory
    · rcases settled with success | ⟨_, failure⟩
      · cases success
      · exact absurd (congrArg Except.error (Except.error.inj failure)) (clean 0)
  | ok answer =>
  rcases answer with ⟨bucket, behind⟩
  rw [bucketLoop_bucket fuel positive result] at settled
  rcases bucketResponse_inv result with ⟨_, failed⟩ | ⟨memory, _, built⟩
  · cases failed
  · obtain ⟨middle, walk⟩ := built bucket behind rfl
    have rest := ih (counts.pass walk) settled
    rw [length_append, length_singleton] at rest
    exact Delimited.bucket some_ memory walk rest

/-- Every bucket of the result was there before, or is complete. -/
theorem bucketLoop_complete {fuel : Nat}
    (member : bucket ∈ (bucketLoop host heap fuel msgLength cursor list).1) :
    bucket ∈ list ∨ Complete host heap bucket := by
  induction fuel generalizing msgLength cursor list with
  | zero => exact .inl member
  | succ fuel ih =>
  by_cases positive : 0 < msgLength
  · cases result : ofGroupFrameBucketResponse host heap fuel list.length cursor with
    | error stop =>
      rw [bucketLoop_stop fuel positive result] at member
      exact .inl member
    | ok answer =>
      rcases answer with ⟨next, behind⟩
      rw [bucketLoop_bucket fuel positive result] at member
      rcases ih member with old | complete
      · rcases mem_append.mp old with old | new
        · exact .inl old
        · rw [mem_singleton] at new
          subst new
          exact .inr ⟨fuel, list.length, cursor, behind, result⟩
      · exact .inr complete
  · rw [bucketLoop_done fuel positive] at member
    exact .inl member

end Buckets

end OpenFlowController.Messages
