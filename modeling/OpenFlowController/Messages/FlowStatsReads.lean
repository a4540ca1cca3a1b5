/-
Module: Messages.FlowStatsReads
Purpose: How far into a flow record the decoders of match fields and of instructions read, and
  when their nested loops end inside the record.
Trusted boundary: none
-/
import OpenFlowController.Messages.FlowStats
import OpenFlowController.Messages.GroupDescReads

namespace OpenFlowController.Messages

open Include Library

/-! ## Match fields -/

/-- The byte at an offset of `msg`. -/
def byteOf (msg : List UInt8) (offset : Nat) : UInt8 :=
  UInt8.ofNat (netNat (slice msg offset 1))

/-- How far into a field the decoder reads for its value. -/
def fieldValueReach (msg : List UInt8) : Nat :=
  if headerType msg = ofpxmcBasic then valueReach (oxmFieldAt msg)
  else if headerType msg = ofpxmcExperimenter then 8
  else if headerType msg = ofpxmcNxm1 then 12
  else 0

/-- How far it reads for the mask; a mask that does not fit its array is never there. -/
def fieldMaskReach (msg : List UInt8) : Nat :=
  if (byteOf msg 2).toNat % 2 = 1 then
    if ofuFlowMatchFieldLen < (byteOf msg 3).toNat / 2 then msg.length + 1
    else ofOxmHdrLen + (byteOf msg 3).toNat / 2 + (byteOf msg 3).toNat / 2
  else 0

/-- How many bytes from its start on the decoder reads of a field. -/
def matchFieldReach (msg : List UInt8) : Nat :=
  max 2 (max 4 (max (fieldValueReach msg) (fieldMaskReach msg)))

/-- How many bytes the decoder goes on behind a field. -/
def matchFieldSpan (msg : List UInt8) : Nat := (byteOf msg 3).toNat + 4

section MatchFields

variable {host : ByteOrder} {msg : List UInt8} {entry : OfiMatchField}

theorem basicField_reads :
    Reads msg.length (valueReach (OxmField.ofCode entry.fieldType.toNat))
      (fun later => later.fieldLen = entry.fieldLen) (frameBasicField host msg entry) := by
  unfold frameBasicField
  cases OxmField.ofCode entry.fieldType.toNat with
  | none => exact Reads.pure rfl
  | some field =>
  cases field
  all_goals first
    | exact Reads.pure rfl
    | exact reads_into reads_ntohlAt _ fun _ _ => rfl
    | exact reads_into reads_ntohllAt _ fun _ _ => rfl
    | exact reads_into reads_ntohsAt _ fun _ _ => rfl
    | exact reads_into reads_byteAt _ fun _ _ => rfl
    | exact reads_into (reads_peek _) _ fun _ _ => rfl

theorem fieldValue_reads (ofClass : entry.matchClass = headerType msg)
    (ofType : OxmField.ofCode entry.fieldType.toNat = oxmFieldAt msg) :
    Reads msg.length (fieldValueReach msg) (fun later => later.fieldLen = entry.fieldLen)
      (frameFieldValue host msg entry) := by
  unfold fieldValueReach frameFieldValue
  rw [ofClass]
  split
  case isTrue => exact basicField_reads.cast (by rw [ofType])
  case isFalse =>
  split
  case isTrue => exact reads_into (reads_loadAt 4) _ fun _ _ => rfl
  case isFalse =>
    split
    case isTrue => exact reads_into (reads_loadAt 8) _ fun _ _ => rfl
    case isFalse => exact Reads.pure rfl

theorem fieldMask_reads (ofLen : entry.fieldLen = byteOf msg 3) :
    Reads msg.length (fieldMaskReach msg) (fun _ => True)
      (frameFieldMask msg (decide ((byteOf msg 2).toNat % 2 = 1)) entry) := by
  unfold fieldMaskReach frameFieldMask
  rw [ofLen]
  simp only [decide_eq_true_eq]
  split
  case isTrue =>
    split
    case isTrue => exact .inr ⟨Nat.lt_succ_self _, rfl⟩
    case isFalse => exact reads_into (reads_peek _) _ fun _ _ => trivial
  case isFalse => exact Reads.pure trivial

theorem frameMatchField_reads (msg : List UInt8) :
    Reads msg.length (max 4 (max (fieldValueReach msg) (fieldMaskReach msg)))
      (fun p => p.2 = matchFieldSpan msg) (frameMatchField host msg (headerType msg)) := by
  apply Reads.cast
  · apply Reads.bind reads_byteAt
    rintro kind rfl
    apply Reads.bind reads_byteAt
    rintro length rfl
    apply Reads.bind (fieldValue_reads rfl rfl)
    intro entry same
    exact reads_into (fieldMask_reads same) _ fun _ _ => rfl
  · omega

end MatchFields

variable (msg : List UInt8)

theorem matchFieldSpan_lt : matchFieldSpan msg < 2 ^ 16 := by
  have small : (byteOf msg 3).toNat < 256 := UInt8.toNat_lt _
  unfold matchFieldSpan
  omega

theorem matchField_decodes (host : ByteOrder) (heap : Heap) :
    Decodes (ofFrameMatchFieldResponse host heap) matchFieldReach matchFieldSpan
      heap.entry := by
  apply decodes_of_reads (frameMatchField host)
  case is =>
    intro cursor
    rfl
  case reads => exact frameMatchField_reads
  case spanBound => exact matchFieldSpan_lt

/-! ## Instructions -/

/-- How far into an experimenter's instruction the decoder reads behind its subtype. -/
def fslxReach (subtype : Nat) : Nat :=
  match subtype with
  | 3 | 5 | 8 => 12
  | 7 => 11
  | 9 | 10 => 16
  | _ => 0

/-- How many bytes from its start on the decoder reads of an instruction. -/
def instructionReach (host : ByteOrder) (msg : List UInt8) : Nat :=
  if headerType msg = Ofpit.gotoTable then 5
  else if headerType msg = Ofpit.writeMetadata then 24
  else if headerType msg = ofpitExperimenter then
    max 10 (fslxReach (UInt16.ofNat (load host (slice msg 8 2))).toNat)
  else 4

/-- How many bytes the decoder goes on behind an instruction, and behind the header of the
actions that it applies. -/
def instructionSpan (msg : List UInt8) : Nat :=
  if headerType msg = Ofpit.gotoTable then 8
  else if headerType msg = Ofpit.writeMetadata then 24
  else if headerType msg = Ofpit.writeActions ∨ headerType msg = Ofpit.clearActions then
    headerLen msg
  else if headerType msg = Ofpit.applyActions ∨ headerType msg = Ofpit.meter then 8
  else if headerType msg = ofpitExperimenter then headerLen msg
  else 0

theorem instructionSpan_lt : instructionSpan msg < 2 ^ 16 := by
  have stated : headerLen msg < 2 ^ 16 := UInt16.toNat_lt _
  unfold instructionSpan
  split_ifs <;> omega

/-- The decoder keeps the header of the instruction and goes on by its span. -/
def Instructed (msg : List UInt8) (result : OfiInstruction × Nat) : Prop :=
  result.1.type = headerType msg ∧ result.1.len = word16 (slice msg 2 2) ∧
    result.2 = instructionSpan msg

section Instructions

variable {host : ByteOrder} (msg : List UInt8)

theorem fslxInstruction_reads (entry : OfiInstruction) :
    Reads msg.length (fslxReach entry.subtype.toNat)
      (fun later => later.type = entry.type ∧ later.len = entry.len)
      (frameFslxInstruction host msg entry) := by
  unfold frameFslxInstruction
  generalize entry.subtype.toNat = subtype
  split
  case h_1 | h_2 => exact reads_into (reads_loadAt 2) _ fun _ _ => ⟨rfl, rfl⟩
  case h_3 => exact reads_into reads_byteAt _ fun _ _ => ⟨rfl, rfl⟩
  case h_4 =>
    apply Reads.cast
    · apply Reads.bind reads_byteAt
      intro _ _
      exact reads_into reads_byteAt _ fun _ _ => ⟨rfl, rfl⟩
    · rfl
  case h_5 | h_6 => exact reads_into (reads_loadAt 4) _ fun _ _ => ⟨rfl, rfl⟩
  case h_7 =>
    have nothing : fslxReach subtype = 0 := by
      unfold fslxReach
      split <;> first | contradiction | rfl
    exact (Reads.pure ⟨rfl, rfl⟩).cast nothing.symm

/-- How far the decoder reads behind the length of an instruction. -/
def instructionOperandReach (host : ByteOrder) (msg : List UInt8) : Nat :=
  if headerType msg = Ofpit.gotoTable then 5
  else if headerType msg = Ofpit.writeMetadata then 24
  else if headerType msg = ofpitExperimenter then
    max 10 (fslxReach (UInt16.ofNat (load host (slice msg 8 2))).toNat)
  else 0

theorem instructionReach_eq :
    instructionReach host msg = max 4 (instructionOperandReach host msg) := by
  unfold instructionReach instructionOperandReach
  split_ifs <;> omega

/-- An instruction reads to its reach. -/
theorem frameInstruction_reads (msg : List UInt8) :
    Reads msg.length (instructionReach host msg) (Instructed msg)
      (frameInstruction host msg (headerType msg)) := by
  rw [instructionReach_eq]
  unfold frameInstruction Instructed instructionSpan
  apply Reads.bind reads_ntohsAt
  rintro len rfl
  unfold instructionOperandReach
  by_cases goto : headerType msg = Ofpit.gotoTable
  · simp only [if_pos goto]
    exact reads_into reads_byteAt _ fun _ _ => ⟨rfl, rfl, rfl⟩
  simp only [if_neg goto]
  by_cases metadata : headerType msg = Ofpit.writeMetadata
  · simp only [if_pos metadata]
    apply Reads.cast
    · apply Reads.bind reads_ntohllAt
      intro _ _
      exact reads_into reads_ntohllAt _ fun _ _ => ⟨rfl, rfl, rfl⟩
    · rfl
  simp only [if_neg metadata]
  by_cases listed : headerType msg = Ofpit.writeActions ∨ headerType msg = Ofpit.clearActions
  · have other : headerType msg ≠ ofpitExperimenter := by
      rcases listed with same | same <;> rw [same] <;> decide
    simp only [if_pos listed, if_neg other]
    exact Reads.pure ⟨rfl, rfl, rfl⟩
  simp only [if_neg listed]
  by_cases short : headerType msg = Ofpit.applyActions ∨ headerType msg = Ofpit.meter
  · have other : headerType msg ≠ ofpitExperimenter := by
      rcases short with same | same <;> rw [same] <;> decide
    simp only [if_pos short, if_neg other]
    exact Reads.pure ⟨rfl, rfl, rfl⟩
  simp only [if_neg short]
  by_cases experimenter : headerType msg = ofpitExperimenter
  · simp only [if_pos experimenter]
    apply Reads.cast
    · apply Reads.bind (reads_loadAt 2)
      rintro subtype ⟨rfl, -⟩
      apply Reads.bind (reads_loadAt 4)
      intro vendor _
      have data : Reads msg.length (fslxReach (UInt16.ofNat (load host (slice msg 8 2))).toNat)
          (fun later => later.type = headerType msg ∧ later.len = word16 (slice msg 2 2))
          (frameFslxInstruction host msg _) := fslxInstruction_reads msg
        { type := headerType msg, len := word16 (slice msg 2 2)
          vendorid := UInt32.ofNat vendor
          subtype := UInt16.ofNat (load host (slice msg 8 2)) }
      exact reads_into data _ fun _ same => ⟨same.1, same.2, rfl⟩
    · omega
  · simp only [if_neg experimenter]
    exact Reads.pure ⟨rfl, rfl, rfl⟩

/-- An instruction is decoded when it is inside and its entry was allocated. -/
theorem instructionResponse_spec (host : ByteOrder) (heap : Heap) (cursor : Cursor) :
    (instructionReach host cursor.msg ≤ cursor.msg.length →
      heap.entry cursor.entries = true →
      ∃ result, ofFrameInstructionResponse host heap cursor = .ok result ∧
        Instructed cursor.msg result) ∧
    (¬(instructionReach host cursor.msg ≤ cursor.msg.length ∧
        heap.entry cursor.entries = true) →
      ofFrameInstructionResponse host heap cursor = .error .outside ∨
        ofFrameInstructionResponse host heap cursor = .error .nullEntry) := by
  have reads := @frameInstruction_reads host cursor.msg
  have header : 4 ≤ instructionReach host cursor.msg := by
    rw [instructionReach_eq]
    exact Nat.le_max_left _ _
  unfold ofFrameInstructionResponse
  by_cases long : 2 ≤ cursor.msg.length
  case neg =>
    rw [reads_ntohsAt.outside (by omega)]
    exact ⟨fun inside => by omega, fun _ => .inl rfl⟩
  case pos =>
  rw [reads_ntohsAt.ok (by omega)]
  dsimp only [bind, Except.bind]
  by_cases given : heap.entry cursor.entries = true
  case neg =>
    rw [if_neg given]
    exact ⟨fun _ there => absurd there given, fun _ => .inr rfl⟩
  case pos =>
  rw [if_pos given]
  constructor
  · intro inside _
    rcases reads with ⟨_, result, framed, kept⟩ | ⟨short, _⟩
    · exact ⟨result, framed, kept⟩
    · omega
  · intro missing
    exact .inl (reads.outside (Nat.lt_of_not_le fun inside => missing ⟨inside, given⟩))

end Instructions

open List

/-! ## Numbers of 32 bits -/

variable {total taken : Nat}

theorem wordLess_of_le (enough : taken ≤ total := by omega) (word : total < 2 ^ 32 := by omega) :
    wordLess total taken = total - taken := by
  unfold wordLess
  omega

theorem wordLess_of_lt (short : total < taken := by omega) (word : taken < 2 ^ 32 := by omega) :
    wordLess total taken = total + 2 ^ 32 - taken := by
  unfold wordLess
  omega

theorem wordLess_ne_zero (short : total < taken) (near : taken < total + 2 ^ 32) :
    wordLess total taken ≠ 0 := by
  unfold wordLess
  omega

theorem wordLess_lt (total taken : Nat) : wordLess total taken < 2 ^ 32 :=
  Nat.mod_lt _ (by decide)

/-! ## The loops over entries -/

/-- Entries fill a number of bytes.  Each is there as far as its decoder reads, and has a
length. -/
inductive Filled (reach span : List UInt8 → Nat) (given : Nat → Bool) :
    Nat → Cursor → Cursor → Prop where
  | done (cursor : Cursor) : Filled reach span given 0 cursor cursor
  | entry {total : Nat} {cursor behind : Cursor} (inside : reach cursor.msg ≤ cursor.msg.length)
      (there : given cursor.entries = true) (long : 0 < span cursor.msg)
      (enough : span cursor.msg ≤ total)
      (rest : Filled reach span given (total - span cursor.msg)
        (cursor.pass (span cursor.msg)) behind) :
      Filled reach span given total cursor behind

section Loop

variable {α : Type} {decode : Cursor → Except Stop (α × Nat)} {reach span : List UInt8 → Nat}
  {given : Nat → Bool} {total : Nat} {cursor behind : Cursor} {list later : List α}

theorem Filled.advance (filled : Filled reach span given total cursor behind) :
    behind.read = cursor.read + total ∧ behind.msg = cursor.msg.drop total := by
  induction filled with
  | done cursor => exact ⟨rfl, rfl⟩
  | @entry total cursor behind inside there long enough rest ih =>
  obtain ⟨read, left⟩ := ih
  have pass : (cursor.pass (span cursor.msg)).read = cursor.read + span cursor.msg := rfl
  refine ⟨by omega, ?_⟩
  rw [left, Cursor.pass, drop_drop]
  congr 1
  omega

theorem Filled.span_pos (filled : Filled reach span given total cursor behind)
    (left : total ≠ 0) : 0 < span cursor.msg := by
  cases filled with
  | done => exact absurd rfl left
  | entry _ _ long _ _ => exact long

variable (fuel : Nat)

theorem wordLoop_done : wordLoop decode (fuel + 1) 0 cursor list = .ok (list, cursor) := by
  rw [wordLoop, if_pos rfl]

theorem wordLoop_entry {entry : α} {length : Nat} (left : total ≠ 0)
    (decoded : decode cursor = .ok (entry, length)) :
    wordLoop decode (fuel + 1) total cursor list =
      wordLoop decode fuel (wordLess total length) (cursor.pass length) (list ++ [entry]) := by
  rw [wordLoop, if_neg left, decoded]
  rfl

theorem wordLoop_stop {stop : Stop} (left : total ≠ 0) (failed : decode cursor = .error stop) :
    wordLoop decode (fuel + 1) total cursor list = .error stop := by
  rw [wordLoop, if_neg left, failed]
  rfl

theorem loop_of_filled (decodes : Decodes decode reach span given)
    (filled : Filled reach span given total cursor behind) (word : total < 2 ^ 32)
    (list : List α) :
    ∃ later enough, ∀ fuel, enough ≤ fuel →
      wordLoop decode fuel total cursor list = .ok (later, behind) := by
  induction filled generalizing list with
  | done cursor =>
    refine ⟨list, 1, fun fuel many => ?_⟩
    obtain ⟨fuel, rfl⟩ : ∃ less, fuel = less + 1 := ⟨fuel - 1, by omega⟩
    exact wordLoop_done fuel
  | @entry total cursor behind inside there long enough rest ih =>
  obtain ⟨entry, decoded⟩ := decodes.succeeds cursor inside there
  obtain ⟨later, rounds, ends⟩ := ih (by omega) (list ++ [entry])
  refine ⟨later, rounds + 1, fun fuel many => ?_⟩
  obtain ⟨fuel, rfl⟩ : ∃ less, fuel = less + 1 := ⟨fuel - 1, by omega⟩
  rw [wordLoop_entry fuel (by omega) decoded, wordLess_of_le enough word]
  exact ends fuel (by omega)

/-- Where the loop ends, entries filled the number, or the number wrapped around.  It went on
in the message, and less than one length behind its end. -/
theorem wordLoop_ends (decodes : Decodes decode reach span given)
    (needs : ∀ msg, 0 < reach msg) {fuel : Nat} (word : total < 2 ^ 32)
    (ended : wordLoop decode fuel total cursor list = .ok (later, behind)) :
    (Filled reach span given total cursor behind ∨
        cursor.read + total + 2 ^ 32 ≤ behind.read) ∧
      cursor.read ≤ behind.read ∧
      behind.msg = cursor.msg.drop (behind.read - cursor.read) ∧
      (behind = cursor ∨ 0 < cursor.msg.length ∧
        behind.read < cursor.read + cursor.msg.length + 2 ^ 16) := by
  induction fuel generalizing total cursor list with
  | zero => cases ended
  | succ fuel ih =>
  by_cases left : total = 0
  case pos =>
    subst left
    cases ended
    exact ⟨.inl (Filled.done _), Nat.le_refl _, by rw [Nat.sub_self, drop_zero], .inl rfl⟩
  case neg =>
    by_cases there : reach cursor.msg ≤ cursor.msg.length ∧ given cursor.entries = true
    case neg =>
      rcases decodes.fails cursor there with failed | failed
      · cases (wordLoop_stop fuel left failed).symm.trans ended
      · cases (wordLoop_stop fuel left failed).symm.trans ended
    case pos =>
    obtain ⟨entry, decoded⟩ := decodes.succeeds cursor there.1 there.2
    rw [wordLoop_entry fuel left decoded] at ended
    obtain ⟨filled, onwards, rest, bounded⟩ :=
      ih (wordLess_lt _ _) ended
    have small := decodes.spanBound cursor.msg
    have need := needs cursor.msg
    have pass : (cursor.pass (span cursor.msg)).read = cursor.read + span cursor.msg :=
      rfl
    have dropped : (cursor.pass (span cursor.msg)).msg.length =
        cursor.msg.length - span cursor.msg := length_drop
    rw [pass] at filled onwards rest bounded
    refine ⟨?_, by omega, ?_, .inr ⟨by omega, ?_⟩⟩
    case refine_1 =>
      by_cases enough : span cursor.msg ≤ total
      case pos =>
        rw [wordLess_of_le enough word] at filled
        rcases filled with filled | wrapped
        · refine .inl (Filled.entry there.1 there.2 (Nat.pos_of_ne_zero ?_) enough filled)
          -- An entry without a length would have kept the loop at its place.
          intro short
          rw [short] at filled
          have long := filled.span_pos left
          exact absurd short (Nat.pos_iff_ne_zero.mp long)
        · exact .inr (by omega)
      case neg =>
        rw [wordLess_of_lt] at filled
        rcases filled with filled | wrapped
        · have read := filled.advance.1
          exact .inr (by omega)
        · exact .inr (by omega)
    case refine_2 =>
      rw [rest, Cursor.pass, drop_drop]
      congr 1
      omega
    case refine_3 =>
      rcases bounded with same | ⟨some_, bounded⟩
      · rw [same, pass]
        omega
      · omega

end Loop

/-! ## The loop over the instructions -/

/-- Instructions fill what is left of the message, each there as far as it is read; the
actions that one applies fill what its length leaves for them. -/
inductive Instructions (host : ByteOrder) (heap : Heap) : Cursor → Prop where
  | done {cursor : Cursor} (used : cursor.msg = []) : Instructions host heap cursor
  | plain {cursor : Cursor} (inside : instructionReach host cursor.msg ≤ cursor.msg.length)
      (there : heap.entry cursor.entries = true)
      (other : headerType cursor.msg ≠ Ofpit.applyActions)
      (long : 0 < instructionSpan cursor.msg)
      (enough : instructionSpan cursor.msg ≤ cursor.msg.length)
      (rest : Instructions host heap (cursor.pass (instructionSpan cursor.msg))) :
      Instructions host heap cursor
  | apply {cursor behind : Cursor}
      (inside : instructionReach host cursor.msg ≤ cursor.msg.length)
      (there : heap.entry cursor.entries = true)
      (is : headerType cursor.msg = Ofpit.applyActions)
      (low : sizeofOfpInstructionActions ≤ headerLen cursor.msg)
      (enough : headerLen cursor.msg ≤ cursor.msg.length)
      (actions : Filled (actionReach host) actionSpan heap.entry
        (headerLen cursor.msg - sizeofOfpInstructionActions)
        (cursor.pass sizeofOfpInstructionActions) behind)
      (rest : Instructions host heap behind) : Instructions host heap cursor

/-- Instructions lead to the place of the message that so many bytes follow. -/
inductive InstructionsBefore (host : ByteOrder) (heap : Heap) (trailing : Nat) : Cursor → Prop where
  | done {cursor : Cursor} (used : cursor.msg.length = trailing) :
      InstructionsBefore host heap trailing cursor
  | plain {cursor : Cursor} (inside : instructionReach host cursor.msg ≤ cursor.msg.length)
      (there : heap.entry cursor.entries = true)
      (other : headerType cursor.msg ≠ Ofpit.applyActions)
      (long : 0 < instructionSpan cursor.msg)
      (enough : instructionSpan cursor.msg + trailing ≤ cursor.msg.length)
      (rest : InstructionsBefore host heap trailing (cursor.pass (instructionSpan cursor.msg))) :
      InstructionsBefore host heap trailing cursor
  | apply {cursor behind : Cursor}
      (inside : instructionReach host cursor.msg ≤ cursor.msg.length)
      (there : heap.entry cursor.entries = true)
      (is : headerType cursor.msg = Ofpit.applyActions)
      (low : sizeofOfpInstructionActions ≤ headerLen cursor.msg)
      (enough : headerLen cursor.msg + trailing ≤ cursor.msg.length)
      (actions : Filled (actionReach host) actionSpan heap.entry
        (headerLen cursor.msg - sizeofOfpInstructionActions)
        (cursor.pass sizeofOfpInstructionActions) behind)
      (rest : InstructionsBefore host heap trailing behind) :
      InstructionsBefore host heap trailing cursor

theorem instructionsBefore_zero_iff {host : ByteOrder} {heap : Heap} {cursor : Cursor} :
    InstructionsBefore host heap 0 cursor ↔ Instructions host heap cursor := by
  constructor
  · intro before
    induction before with
    | done used => exact Instructions.done (length_eq_zero_iff.mp used)
    | plain inside there other long enough _ ih =>
      exact Instructions.plain inside there other long enough ih
    | apply inside there is low enough actions _ ih =>
      exact Instructions.apply inside there is low enough actions ih
  intro instructions
  induction instructions with
  | done used => exact InstructionsBefore.done (length_eq_zero_iff.mpr used)
  | plain inside there other long enough _ ih =>
    exact InstructionsBefore.plain inside there other long enough ih
  | apply inside there is low enough actions _ ih =>
    exact InstructionsBefore.apply inside there is low enough actions ih

section Instructions

variable {host : ByteOrder} {heap : Heap} {trailing : Nat} {cursor : Cursor}
  {list later : List OfiInstruction}

theorem instructionReach_pos (msg : List UInt8) : 0 < instructionReach host msg := by
  rw [instructionReach_eq]
  omega

variable (msg : List UInt8)

theorem matchFieldReach_pos : 0 < matchFieldReach msg := by
  unfold matchFieldReach
  omega

theorem actionReach_pos : 0 < actionReach host msg := by
  unfold actionReach
  omega

theorem instructionSpan_apply {msg : List UInt8} (is : headerType msg = Ofpit.applyActions) :
    instructionSpan msg = sizeofOfpInstructionActions := by
  unfold instructionSpan
  rw [is]
  rfl

theorem instructionLoop_done (fuel : Nat) :
    instructionLoop host heap (fuel + 1) 0 cursor list = .ok list := by
  rw [instructionLoop, if_pos rfl]

variable {remaining : Nat}

theorem instructionLoop_stop {stop : Stop} (fuel : Nat) (left : remaining ≠ 0)
    (failed : ofFrameInstructionResponse host heap cursor = .error stop) :
    instructionLoop host heap (fuel + 1) remaining cursor list = .error stop := by
  rw [instructionLoop, if_neg left, failed]
  rfl

variable {result : OfiInstruction × Nat}

theorem instructionLoop_plain (fuel : Nat) (left : remaining ≠ 0)
    (decoded : ofFrameInstructionResponse host heap cursor = .ok result)
    (kept : Instructed cursor.msg result) (other : headerType cursor.msg ≠ Ofpit.applyActions) :
    instructionLoop host heap (fuel + 1) remaining cursor list =
      instructionLoop host heap fuel (wordLess remaining (instructionSpan cursor.msg))
        (cursor.pass (instructionSpan cursor.msg)) (list ++ [result.1]) := by
  obtain ⟨type, -, length⟩ := kept
  rw [instructionLoop, if_neg left, decoded]
  change (if result.1.type = Ofpit.applyActions then _ else _) = _
  rw [if_neg (by rw [type]; exact other), length]

theorem instructionLoop_apply (fuel : Nat) (left : remaining ≠ 0)
    (decoded : ofFrameInstructionResponse host heap cursor = .ok result)
    (kept : Instructed cursor.msg result) (is : headerType cursor.msg = Ofpit.applyActions) :
    instructionLoop host heap (fuel + 1) remaining cursor list =
      (wordLoop (ofGroupFrameActionResponse host heap) fuel
        (wordLess (headerLen cursor.msg) sizeofOfpInstructionActions)
        (cursor.pass sizeofOfpInstructionActions) [] >>= fun actions =>
      instructionLoop host heap fuel
        (wordLess (wordLess remaining sizeofOfpInstructionActions)
          (actions.2.read - (cursor.pass sizeofOfpInstructionActions).read)) actions.2
        (list ++ [{ result.1 with actionList := actions.1 }])) := by
  obtain ⟨type, len, length⟩ := kept
  rw [instructionLoop, if_neg left, decoded]
  change (if result.1.type = Ofpit.applyActions then _ else _) = _
  have stated : result.1.len.toNat = headerLen cursor.msg := congrArg UInt16.toNat len
  rw [if_pos (type.trans is), length, instructionSpan_apply is, stated]

/-- A number that the rest of the message cannot use up. -/
def Overrun (remaining : Nat) (cursor : Cursor) : Prop :=
  cursor.msg = [] ∧ remaining ≠ 0 ∨
    cursor.msg.length + 2 ^ 17 ≤ remaining ∧ remaining < 2 ^ 32

variable {behind : Cursor}

theorem Overrun.advance {taken : Nat}
    (overrun : cursor.msg.length + 2 ^ 17 ≤ remaining ∧ remaining < 2 ^ 32)
    (near : taken < cursor.msg.length + 2 ^ 17)
    (rest : behind.msg.length = cursor.msg.length - taken) :
    Overrun (wordLess remaining taken) behind := by
  rw [wordLess_of_le (by omega) overrun.2]
  by_cases inside : taken ≤ cursor.msg.length
  · exact .inr (by omega)
  · exact .inl ⟨length_eq_zero_iff.mp (by omega), by omega⟩

variable {fuel : Nat} {actions : List OfiAction}

theorem actions_advance (acted : wordLoop (ofGroupFrameActionResponse host heap) fuel
      (wordLess (headerLen cursor.msg) sizeofOfpInstructionActions)
      (cursor.pass sizeofOfpInstructionActions) [] = .ok (actions, behind)) :
    sizeofOfpInstructionActions + (behind.read - (cursor.pass sizeofOfpInstructionActions).read) <
        cursor.msg.length + 2 ^ 17 ∧
      behind.msg.length = cursor.msg.length - (sizeofOfpInstructionActions +
        (behind.read - (cursor.pass sizeofOfpInstructionActions).read)) := by
  have eight : sizeofOfpInstructionActions = 8 := rfl
  have pass : (cursor.pass sizeofOfpInstructionActions).msg.length =
      cursor.msg.length - sizeofOfpInstructionActions := length_drop
  obtain ⟨-, onwards, rest, bounded⟩ :=
    wordLoop_ends (action_decodes host heap) actionReach_pos (wordLess_lt _ _) acted
  constructor
  · rcases bounded with same | ⟨_, bounded⟩
    · rw [same, Nat.sub_self]
      omega
    · omega
  · rw [rest, length_drop, pass]
    omega

theorem wordLess_wordLess {total first second : Nat} :
    wordLess (wordLess total first) second = wordLess total (first + second) := by
  unfold wordLess
  omega

/-- A number of bytes that is never used up does not end the loop. -/
theorem instructionLoop_overrun (overrun : Overrun remaining cursor) :
    instructionLoop host heap fuel remaining cursor list ≠ .ok later := by
  induction fuel generalizing remaining cursor list with
  | zero => exact nofun
  | succ fuel ih =>
  have left : remaining ≠ 0 := by
    rcases overrun with ⟨_, left⟩ | far
    · exact left
    · omega
  by_cases there : instructionReach host cursor.msg ≤ cursor.msg.length ∧
      heap.entry cursor.entries = true
  case neg =>
    rcases (instructionResponse_spec host heap cursor).2 there with failed | failed
    · rw [instructionLoop_stop fuel left failed]
      exact nofun
    · rw [instructionLoop_stop fuel left failed]
      exact nofun
  case pos =>
    have need := @instructionReach_pos host cursor.msg
    have far : cursor.msg.length + 2 ^ 17 ≤ remaining ∧ remaining < 2 ^ 32 := by
      rcases overrun with ⟨used, _⟩ | far
      · rw [used] at there
        exact absurd (Nat.le_zero.mp there.1) (Nat.pos_iff_ne_zero.mp (by rwa [used] at need))
      · exact far
    obtain ⟨result, decoded, kept⟩ :=
      (instructionResponse_spec host heap cursor).1 there.1 there.2
    by_cases is : headerType cursor.msg = Ofpit.applyActions
    case neg =>
      have small := instructionSpan_lt cursor.msg
      rw [instructionLoop_plain fuel left decoded kept is]
      exact ih (Overrun.advance far (by omega) length_drop)
    case pos =>
    rw [instructionLoop_apply fuel left decoded kept is]
    cases acted : wordLoop (ofGroupFrameActionResponse host heap) fuel
        (wordLess (headerLen cursor.msg) sizeofOfpInstructionActions)
        (cursor.pass sizeofOfpInstructionActions) [] with
    | error stop => exact nofun
    | ok result =>
    obtain ⟨near, rest⟩ := actions_advance acted
    dsimp only [bind, Except.bind]
    rw [wordLess_wordLess]
    exact ih (Overrun.advance far near rest)

/-- Instructions that fill the record end the loop. -/
theorem loop_of_instructions (instructions : InstructionsBefore host heap trailing cursor)
    (word : cursor.msg.length < 2 ^ 32) (list : List OfiInstruction) :
    ∃ later enough, ∀ fuel, enough ≤ fuel →
      instructionLoop host heap fuel (cursor.msg.length - trailing) cursor list = .ok later := by
  induction instructions generalizing list with
  | @done cursor used =>
    refine ⟨list, 1, fun fuel many => ?_⟩
    obtain ⟨fuel, rfl⟩ : ∃ less, fuel = less + 1 := ⟨fuel - 1, by omega⟩
    rw [used, Nat.sub_self]
    exact instructionLoop_done fuel
  | @plain cursor inside there other long enough rest ih =>
    obtain ⟨result, decoded, kept⟩ := (instructionResponse_spec host heap cursor).1 inside there
    have dropped : (cursor.pass (instructionSpan cursor.msg)).msg.length =
        cursor.msg.length - instructionSpan cursor.msg := length_drop
    obtain ⟨later, rounds, ends⟩ := ih (by omega) (list ++ [result.1])
    refine ⟨later, rounds + 1, fun fuel many => ?_⟩
    obtain ⟨fuel, rfl⟩ : ∃ less, fuel = less + 1 := ⟨fuel - 1, by omega⟩
    rw [instructionLoop_plain fuel (by omega) decoded kept other,
      wordLess_of_le, Nat.sub_right_comm, ← dropped]
    exact ends fuel (by omega)
  | @apply cursor behind inside there is low enough actions rest ih =>
  obtain ⟨result, decoded, kept⟩ := (instructionResponse_spec host heap cursor).1 inside there
  have eight : sizeofOfpInstructionActions = 8 := rfl
  obtain ⟨list', some_, acted⟩ := loop_of_filled (action_decodes host heap) actions (by omega) []
  obtain ⟨read, left⟩ := actions.advance
  have dropped : behind.msg.length = cursor.msg.length - headerLen cursor.msg := by
    rw [left, length_drop, Cursor.pass, length_drop]
    omega
  obtain ⟨later, rounds, ends⟩ := ih (by omega) (list ++ [{ result.1 with actionList := list' }])
  refine ⟨later, max some_ rounds + 1, fun fuel many => ?_⟩
  obtain ⟨fuel, rfl⟩ : ∃ less, fuel = less + 1 := ⟨fuel - 1, by omega⟩
  rw [instructionLoop_apply fuel (by omega) decoded kept is, wordLess_of_le low (by omega),
    acted fuel (by omega)]
  have remaining : wordLess (wordLess (cursor.msg.length - trailing) sizeofOfpInstructionActions)
      (behind.read - (cursor.pass sizeofOfpInstructionActions).read) =
      behind.msg.length - trailing := by
    rw [wordLess_wordLess, wordLess_of_le]
    omega
  dsimp only [bind, Except.bind]
  rw [remaining]
  exact ends fuel (by omega)

theorem InstructionsBefore.span_pos (instructions : InstructionsBefore host heap trailing cursor)
    (some_ : cursor.msg.length ≠ trailing) (other : headerType cursor.msg ≠ Ofpit.applyActions) :
    0 < instructionSpan cursor.msg := by
  cases instructions with
  | done used => exact absurd used some_
  | plain _ _ _ long _ _ => exact long
  | apply _ _ is _ _ _ _ => exact absurd is other

/-- What the loop over the actions of an instruction leaves for the outer loop: either they
fill what the length of the instruction says, inside the record, or the outer loop goes on
with a number that is never used up. -/
theorem actions_of_loop (word : cursor.msg.length < 2 ^ 32) (few : trailing < 2 ^ 31)
    (within : trailing ≤ cursor.msg.length)
    (acted : wordLoop (ofGroupFrameActionResponse host heap) fuel
      (wordLess (headerLen cursor.msg) sizeofOfpInstructionActions)
      (cursor.pass sizeofOfpInstructionActions) [] = .ok (actions, behind)) :
    (sizeofOfpInstructionActions ≤ headerLen cursor.msg ∧
      headerLen cursor.msg + trailing ≤ cursor.msg.length ∧
      Filled (actionReach host) actionSpan heap.entry
        (headerLen cursor.msg - sizeofOfpInstructionActions)
        (cursor.pass sizeofOfpInstructionActions) behind ∧
      behind.msg.length = cursor.msg.length - headerLen cursor.msg) ∨
    Overrun (wordLess (cursor.msg.length - trailing) (sizeofOfpInstructionActions +
      (behind.read - (cursor.pass sizeofOfpInstructionActions).read))) behind := by
  have stated : headerLen cursor.msg < 2 ^ 16 := UInt16.toNat_lt _
  obtain ⟨near, rest⟩ := actions_advance acted
  have filled := (wordLoop_ends (action_decodes host heap) actionReach_pos (wordLess_lt _ _)
    acted).1
  generalize takenIs : sizeofOfpInstructionActions +
    (behind.read - (cursor.pass sizeofOfpInstructionActions).read) = taken at near rest ⊢
  by_cases inside : taken + trailing ≤ cursor.msg.length
  case pos =>
    refine .inl ?_
    rcases filled with filled | wrapped
    case inr => omega
    case inl =>
    have read := filled.advance.1
    by_cases low : sizeofOfpInstructionActions ≤ headerLen cursor.msg
    case neg =>
      rw [wordLess_of_lt (Nat.lt_of_not_le low) (by omega)] at read
      omega
    case pos =>
      rw [wordLess_of_le low (by omega)] at filled read
      exact ⟨low, by omega, filled, by omega⟩
  case neg =>
    refine .inr ?_
    by_cases used : cursor.msg.length ≤ taken
    · refine .inl ⟨length_eq_zero_iff.mp (by omega), ?_⟩
      exact wordLess_ne_zero (by omega) (by omega)
    · rw [wordLess_of_lt]
      exact .inr (by omega)

/-- A loop that ends has filled the record with instructions. -/
theorem instructions_of_loop {fuel : Nat} (word : cursor.msg.length < 2 ^ 32)
    (few : trailing < 2 ^ 31) (within : trailing ≤ cursor.msg.length)
    (ended : instructionLoop host heap fuel (cursor.msg.length - trailing) cursor list =
      .ok later) : InstructionsBefore host heap trailing cursor := by
  induction fuel generalizing cursor list with
  | zero => cases ended
  | succ fuel ih =>
  by_cases used : cursor.msg.length = trailing
  case pos => exact InstructionsBefore.done used
  case neg =>
  have left : cursor.msg.length - trailing ≠ 0 := by omega
  by_cases there : instructionReach host cursor.msg ≤ cursor.msg.length ∧
      heap.entry cursor.entries = true
  case neg =>
    rcases (instructionResponse_spec host heap cursor).2 there with failed | failed
    · cases (instructionLoop_stop fuel left failed).symm.trans ended
    · cases (instructionLoop_stop fuel left failed).symm.trans ended
  case pos =>
  obtain ⟨inside, there⟩ := there
  obtain ⟨result, decoded, kept⟩ :=
    (instructionResponse_spec host heap cursor).1 inside there
  by_cases is : headerType cursor.msg = Ofpit.applyActions
  case neg =>
    have small := instructionSpan_lt cursor.msg
    have dropped : (cursor.pass (instructionSpan cursor.msg)).msg.length =
        cursor.msg.length - instructionSpan cursor.msg := length_drop
    rw [instructionLoop_plain fuel left decoded kept is] at ended
    by_cases enough : instructionSpan cursor.msg + trailing ≤ cursor.msg.length
    case pos =>
      rw [wordLess_of_le, Nat.sub_right_comm, ← dropped] at ended
      have rest := ih (by omega) (by omega) ended
      refine InstructionsBefore.plain inside there is (Nat.pos_of_ne_zero ?_) enough rest
      -- An instruction without a length would have kept the loop at its place.
      intro short
      rw [short] at rest
      exact absurd short (Nat.pos_iff_ne_zero.mp (rest.span_pos used is))
    case neg =>
      rw [wordLess_of_lt] at ended
      refine absurd ended (instructionLoop_overrun ?_)
      by_cases none : cursor.msg.length ≤ instructionSpan cursor.msg
      · exact .inl ⟨length_eq_zero_iff.mp (by omega), by omega⟩
      · exact .inr (by omega)
  case pos =>
    rw [instructionLoop_apply fuel left decoded kept is] at ended
    cases acted : wordLoop (ofGroupFrameActionResponse host heap) fuel
        (wordLess (headerLen cursor.msg) sizeofOfpInstructionActions)
        (cursor.pass sizeofOfpInstructionActions) [] with
    | error stop =>
      rw [acted] at ended
      cases ended
    | ok result =>
    obtain ⟨actions, behind⟩ := result
    rw [acted] at ended
    dsimp only [bind, Except.bind] at ended
    rw [wordLess_wordLess] at ended
    rcases actions_of_loop word few within acted with
      ⟨low, enough, filled, rest⟩ | overrun
    · have read := filled.advance.1
      have remaining : cursor.msg.length - trailing - (sizeofOfpInstructionActions +
          (behind.read - (cursor.pass sizeofOfpInstructionActions).read)) =
          behind.msg.length - trailing := by omega
      rw [wordLess_of_le, remaining] at ended
      exact InstructionsBefore.apply inside there is low enough filled
        (ih (by omega) (by omega) ended)
    · exact absurd ended (instructionLoop_overrun overrun)

end Instructions

/-! ## The record -/

/-- The two decoders of records. -/
inductive FlowStatsCall where
  | flowStats
  | bindStats

/-- What the call ends with, after `fuel` rounds of a loop at most. -/
def FlowStatsCall.run (host : ByteOrder) (heap : Heap) (fuel : Nat) (body : RecordBody) :
    FlowStatsCall → Except Stop OfiFlowEntryInfo
  | flowStats => ofFlowStatsFrameRespone host heap fuel body
  | bindStats => ofBindStatsFrameRespone host heap fuel body

/-- The call returns a record, and read only inside the body. -/
def FlowStatsCall.Ends (host : ByteOrder) (heap : Heap) (body : RecordBody)
    (call : FlowStatsCall) : Prop :=
  ∃ fuel info, call.run host heap fuel body = .ok info

/-- The match of a flow record is inside the body and filled by fields, and instructions fill
what is behind it. -/
structure FlowFits (host : ByteOrder) (heap : Heap) (bytes : List UInt8) : Prop where
  header : 4 ≤ bytes.length
  low : 4 ≤ headerLen bytes
  enough : matchFieldPadding (headerLen bytes) ≤ bytes.length
  filled : ∃ behind, Filled matchFieldReach matchFieldSpan heap.entry (headerLen bytes - 4)
      ⟨bytes.drop 4, 4, 0⟩ behind ∧
    Instructions host heap (behind.skip (matchFieldPadding (headerLen bytes) - headerLen bytes))

/-- The same of a record of `msgLength` bytes that other bytes follow. -/
structure FlowFitsWithin (host : ByteOrder) (heap : Heap) (msg : List UInt8) (msgLength : Nat) :
    Prop where
  header : 4 ≤ msg.length
  low : 4 ≤ headerLen msg
  enough : matchFieldPadding (headerLen msg) ≤ msgLength
  filled : ∃ behind, Filled matchFieldReach matchFieldSpan heap.entry (headerLen msg - 4)
      ⟨msg.drop 4, 4, 0⟩ behind ∧
    InstructionsBefore host heap (msg.length - msgLength)
      (behind.skip (matchFieldPadding (headerLen msg) - headerLen msg))

/-- The condition of a call on the body. -/
def FlowStatsCall.Fits (host : ByteOrder) (heap : Heap) (body : RecordBody) : FlowStatsCall → Prop
  | flowStats => FlowFits host heap body.bytes
  | bindStats => Instructions host heap ⟨body.bytes, 0, 0⟩

section Record

variable {host : ByteOrder} {heap : Heap} {body : RecordBody} {msg : List UInt8}
  {msgLength fuel : Nat} {info : OfiFlowEntryInfo}

theorem le_matchFieldPadding (length : Nat) : length ≤ matchFieldPadding length := by
  unfold matchFieldPadding
  split_ifs <;> omega

theorem matchFieldPadding_lt {length : Nat} (small : length < 2 ^ 16) :
    matchFieldPadding length < 2 ^ 16 + 8 := by
  unfold matchFieldPadding
  split_ifs <;> omega

theorem bindStats_ends_iff :
    FlowStatsCall.bindStats.Ends host heap body ↔ FlowStatsCall.bindStats.Fits host heap body := by
  constructor
  · rintro ⟨fuel, info, ended⟩
    cases outcome : instructionLoop host heap fuel body.bytes.length ⟨body.bytes, 0, 0⟩ [] with
    | error stop =>
      rw [FlowStatsCall.run, ofBindStatsFrameRespone, outcome] at ended
      cases ended
    | ok later =>
    have before := @instructions_of_loop host heap 0 ⟨body.bytes, 0, 0⟩ [] later fuel body.fits
      (by decide) (Nat.zero_le _) outcome
    exact instructionsBefore_zero_iff.mp before
  · intro instructions
    obtain ⟨later, enough, ends⟩ :=
      loop_of_instructions (instructionsBefore_zero_iff.mpr instructions) body.fits []
    refine ⟨enough, { instructionList := later }, ?_⟩
    rw [FlowStatsCall.run, ofBindStatsFrameRespone]
    have ended := ends enough (Nat.le_refl _)
    dsimp only [Nat.sub_zero] at ended
    rw [ended]
    rfl

theorem flowStats_header (fuel : Nat) (header : 4 ≤ msg.length) :
    flowStatsFrameResponeWithin host heap fuel msg msgLength =
      (wordLoop (ofFrameMatchFieldResponse host heap) fuel
        (wordLess (headerLen msg) 4) ⟨msg.drop 4, 4, 0⟩ [] >>= fun fields =>
      instructionLoop host heap fuel (wordLess msgLength (matchFieldPadding (headerLen msg)))
        (fields.2.skip (wordLess (matchFieldPadding (headerLen msg))
          (headerLen msg))) [] >>= fun instructions =>
      pure { matchFieldList := fields.1, instructionList := instructions }) := by
  have length := (@reads_ntohsAt host msg 2).ok (by omega)
  unfold flowStatsFrameResponeWithin
  rw [length]
  rfl

/-- What the loop over the match fields leaves for the loop over the instructions: either they
fill the match, inside the record, or the loop goes on with a number that is never used up. -/
theorem fields_of_loop {fields : List OfiMatchField} {behind : Cursor}
    (word : msg.length < 2 ^ 32) (inside : msgLength ≤ msg.length)
    (few : msg.length < msgLength + 2 ^ 31) (header : 4 ≤ msg.length)
    (matched : wordLoop (ofFrameMatchFieldResponse host heap) fuel
      (wordLess (headerLen msg) 4) ⟨msg.drop 4, 4, 0⟩ [] = .ok (fields, behind)) :
    (4 ≤ headerLen msg ∧ matchFieldPadding (headerLen msg) ≤ msgLength ∧
      Filled matchFieldReach matchFieldSpan heap.entry (headerLen msg - 4)
        ⟨msg.drop 4, 4, 0⟩ behind) ∨
    Overrun (wordLess msgLength (matchFieldPadding (headerLen msg)))
      (behind.skip (matchFieldPadding (headerLen msg) - headerLen msg)) := by
  have stated : headerLen msg < 2 ^ 16 := UInt16.toNat_lt _
  have small := matchFieldPadding_lt stated
  obtain ⟨filled, onwards, rest, bounded⟩ :=
    wordLoop_ends (matchField_decodes host heap) matchFieldReach_pos (wordLess_lt _ _) matched
  dsimp only at filled onwards rest bounded
  rw [length_drop] at bounded
  have near : behind.read < msg.length + 2 ^ 16 := by
    rcases bounded with same | bounded
    · rw [same]
      change 4 < _
      omega
    · omega
  have left : (behind.skip (matchFieldPadding (headerLen msg) - headerLen msg)).msg.length =
      msg.length - behind.read - (matchFieldPadding (headerLen msg) - headerLen msg) := by
    rw [Cursor.skip, rest, length_drop, length_drop, length_drop]
    omega
  -- A number that wrapped around leads far behind any message.
  have ended : (4 ≤ headerLen msg ∧ behind.read = headerLen msg ∧
      Filled matchFieldReach matchFieldSpan heap.entry (headerLen msg - 4)
        ⟨msg.drop 4, 4, 0⟩ behind) ∨ 2 ^ 32 ≤ behind.read := by
    rcases filled with filled | wrapped
    case inr => exact .inr (by omega)
    case inl =>
    have read : behind.read = 4 + _ := filled.advance.1
    by_cases low : 4 ≤ headerLen msg
    case neg =>
      rw [wordLess_of_lt] at read
      exact .inr (by omega)
    case pos =>
      rw [wordLess_of_le low (by omega)] at filled read
      exact .inl ⟨low, by omega, filled⟩
  rcases ended with ⟨low, read, filled⟩ | far
  case inl =>
    by_cases enough : matchFieldPadding (headerLen msg) ≤ msgLength
    · exact .inl ⟨low, enough, filled⟩
    refine .inr ?_
    rw [wordLess_of_lt]
    by_cases used : msg.length ≤ matchFieldPadding (headerLen msg)
    · exact .inl ⟨length_eq_zero_iff.mp (by omega), by omega⟩
    · exact .inr (by omega)
  case inr =>
    refine .inr (.inl ⟨length_eq_zero_iff.mp (by omega), fun none => ?_⟩)
    unfold wordLess at none
    omega

theorem length_behind_match {behind : Cursor}
    (filled : Filled matchFieldReach matchFieldSpan heap.entry (headerLen msg - 4)
      ⟨msg.drop 4, 4, 0⟩ behind) (low : 4 ≤ headerLen msg) :
    (behind.skip (matchFieldPadding (headerLen msg) - headerLen msg)).msg.length =
      msg.length - matchFieldPadding (headerLen msg) := by
  have padded := le_matchFieldPadding (headerLen msg)
  rw [Cursor.skip, filled.advance.2, length_drop, length_drop, length_drop]
  omega

/-- A record that is decoded fits. -/
theorem flowFitsWithin_of_ok (word : msg.length < 2 ^ 32) (inside : msgLength ≤ msg.length)
    (few : msg.length < msgLength + 2 ^ 31)
    (ended : flowStatsFrameResponeWithin host heap fuel msg msgLength = .ok info) :
    FlowFitsWithin host heap msg msgLength := by
  have padded := le_matchFieldPadding (headerLen msg)
  have stated : headerLen msg < 2 ^ 16 := UInt16.toNat_lt _
  have small := matchFieldPadding_lt stated
  by_cases header : 4 ≤ msg.length
  case neg =>
    unfold flowStatsFrameResponeWithin at ended
    rw [(@reads_ntohsAt host msg 2).outside (by omega)] at ended
    cases ended
  case pos =>
  rw [flowStats_header fuel header] at ended
  cases matched : wordLoop (ofFrameMatchFieldResponse host heap) fuel
      (wordLess (headerLen msg) 4) ⟨msg.drop 4, 4, 0⟩ [] with
  | error stop =>
    rw [matched] at ended
    cases ended
  | ok result =>
  obtain ⟨fields, behind⟩ := result
  rw [matched] at ended
  dsimp only [bind, Except.bind] at ended
  rw [wordLess_of_le padded (by omega)] at ended
  cases instructed : instructionLoop host heap fuel
      (wordLess msgLength (matchFieldPadding (headerLen msg)))
      (behind.skip (matchFieldPadding (headerLen msg) - headerLen msg)) [] with
  | error stop =>
    rw [instructed] at ended
    cases ended
  | ok later =>
  rcases fields_of_loop word inside few header matched with ⟨low, enough, filled⟩ | overrun
  · have rest := length_behind_match filled low
    have same : wordLess msgLength (matchFieldPadding (headerLen msg)) =
        (behind.skip (matchFieldPadding (headerLen msg) - headerLen msg)).msg.length -
          (msg.length - msgLength) := by
      rw [wordLess_of_le enough (by omega)]
      omega
    rw [same] at instructed
    exact ⟨header, low, enough, behind, filled,
      instructions_of_loop (by omega) (by omega) (by omega) instructed⟩
  · exact absurd instructed (instructionLoop_overrun overrun)

theorem flow_of_fitsWithin (word : msg.length < 2 ^ 32) (inside : msgLength ≤ msg.length)
    (fits : FlowFitsWithin host heap msg msgLength) :
    ∃ info enough, ∀ fuel, enough ≤ fuel →
      flowStatsFrameResponeWithin host heap fuel msg msgLength = .ok info := by
  have padded := le_matchFieldPadding (headerLen msg)
  obtain ⟨header, low, enough, behind, filled, instructions⟩ := fits
  obtain ⟨fields, some_, matched⟩ := loop_of_filled (matchField_decodes host heap) filled
    (by omega) []
  have rest := length_behind_match filled low
  obtain ⟨later, more, ends⟩ := loop_of_instructions instructions (by omega) []
  refine ⟨⟨fields, later⟩, max some_ more, fun fuel many => ?_⟩
  rw [flowStats_header fuel header, wordLess_of_le low (by omega), matched fuel (by omega)]
  have ended := ends fuel (by omega)
  have same : wordLess msgLength (matchFieldPadding (headerLen msg)) =
      (behind.skip (matchFieldPadding (headerLen msg) - headerLen msg)).msg.length -
        (msg.length - msgLength) := by
    rw [wordLess_of_le enough (by omega)]
    omega
  rw [← same] at ended
  dsimp only [bind, Except.bind]
  rw [wordLess_of_le padded (by omega), ended]
  rfl

theorem flowFitsWithin_whole_iff {bytes : List UInt8} :
    FlowFitsWithin host heap bytes bytes.length ↔ FlowFits host heap bytes := by
  constructor
  · rintro ⟨header, low, enough, behind, filled, instructions⟩
    rw [Nat.sub_self, instructionsBefore_zero_iff] at instructions
    exact ⟨header, low, enough, behind, filled, instructions⟩
  · rintro ⟨header, low, enough, behind, filled, instructions⟩
    rw [← instructionsBefore_zero_iff, ← Nat.sub_self bytes.length] at instructions
    exact ⟨header, low, enough, behind, filled, instructions⟩

theorem flowStats_fits_of_ends (ends : FlowStatsCall.flowStats.Ends host heap body) :
    FlowStatsCall.flowStats.Fits host heap body := by
  obtain ⟨fuel, info, ended⟩ := ends
  exact flowFitsWithin_whole_iff.mp
    (flowFitsWithin_of_ok body.fits (Nat.le_refl _) (by omega) ended)

theorem flowStats_ends_of_fits (fits : FlowStatsCall.flowStats.Fits host heap body) :
    FlowStatsCall.flowStats.Ends host heap body := by
  obtain ⟨info, enough, ends⟩ :=
    flow_of_fitsWithin body.fits (Nat.le_refl _) (flowFitsWithin_whole_iff.mpr fits)
  exact ⟨enough, info, ends enough (Nat.le_refl _)⟩

end Record

/-- Either decoder returns, having read only inside the body, exactly when the lengths in the
body fill what they should. -/
theorem flow_record_decoded_iff (host : ByteOrder) (heap : Heap) (body : RecordBody)
    (call : FlowStatsCall) : call.Ends host heap body ↔ call.Fits host heap body := by
  cases call with
  | flowStats => exact ⟨flowStats_fits_of_ends, flowStats_ends_of_fits⟩
  | bindStats => exact bindStats_ends_iff

/-- A record with an empty match and an instruction of no known type. -/
def unknownInstruction : RecordBody := ⟨[0, 1, 0, 4, 0, 0, 0, 0, 0, 9, 0, 8, 0, 0, 0, 0], by decide⟩

/-- The decoder of the record never returns. -/
theorem unknown_instruction_keeps_loop :
    ¬ FlowStatsCall.flowStats.Ends .bigEndian ⟨fun _ => true, fun _ => true⟩
      unknownInstruction := by
  intro ends
  obtain ⟨-, -, -, behind, filled, instructions⟩ := flowStats_fits_of_ends ends
  have left : behind.msg = unknownInstruction.bytes.drop 4 := filled.advance.2
  have there : (behind.skip (matchFieldPadding (headerLen unknownInstruction.bytes) -
      headerLen unknownInstruction.bytes)).msg = [0, 9, 0, 8, 0, 0, 0, 0] := by
    rw [Cursor.skip, left]
    rfl
  have kind : headerType [0, 9, 0, 8, 0, 0, 0, 0] ≠ Ofpit.applyActions := by decide
  have long := (instructionsBefore_zero_iff.mpr instructions).span_pos
    (by rw [there]; exact nofun) (by rw [there]; exact kind)
  rw [there] at long
  have none : instructionSpan [0, 9, 0, 8, 0, 0, 0, 0] = 0 := by decide
  omega

end OpenFlowController.Messages
