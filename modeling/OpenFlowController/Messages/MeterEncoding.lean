/-
Module: Messages.MeterEncoding
Purpose: When a meter that is stored is sent with all its bands, or refused, and when the
  bands of a meter are read within their length.
Trusted boundary: none
-/
import OpenFlowController.Messages.MeterMod
import OpenFlowController.L3extutils.FslxEncoding

namespace OpenFlowController.Meter

open Include List Library Library.ByteMemory Encoder

/-! ## Bands -/

/-- What a stored band says. -/
def OfiMeterBand.details (band : OfiMeterBand) : WireBand where
  type := band.type
  rate := band.rate
  burstSize := band.burstSize
  precLevel := band.precLevel

/-- What the wire can say of a band. -/
def OfiMeterBand.wire (band : OfiMeterBand) : WireBand :=
  { band.details with
    precLevel := if band.type = Ofpmbt.dscpRemark then band.precLevel else 0 }

/-- A band of a type that is supported, with a rate and, where it needs one, a level. -/
def OfiMeterBand.Good (band : OfiMeterBand) : Prop :=
  band.type = Ofpmbt.drop ∧ band.rate ≠ 0 ∨
    band.type = Ofpmbt.dscpRemark ∧ band.rate ≠ 0 ∧ band.precLevel ≠ 0

instance : DecidablePred OfiMeterBand.Good := fun _ =>
  inferInstanceAs (Decidable (_ ∨ _))

theorem not_dscpRemark {type : UInt16} (drop : type = Ofpmbt.drop) : type ≠ Ofpmbt.dscpRemark := by
  rw [drop]
  decide

theorem not_drop {type : UInt16} (remark : type = Ofpmbt.dscpRemark) : type ≠ Ofpmbt.drop := by
  rw [remark]
  decide

/-- The status for a rate or a level that is missing. -/
def OfiMeterBand.missing (band : OfiMeterBand) : Option Int :=
  if band.type = Ofpmbt.drop then
    if band.rate = 0 then some ofMeterRateRequired else none
  else if band.type = Ofpmbt.dscpRemark then
    if band.rate = 0 ∨ band.precLevel = 0 then some ofMeterPrecLevelRequired else none
  else none

/-- The bytes of a band, with the zeros that fill up its structure. -/
def bandBytes (band : OfiMeterBand) : List UInt8 :=
  bytes16 band.type ++ bytes16 16 ++ bytes32 band.rate ++ bytes32 band.burstSize ++
    [if band.type = Ofpmbt.dscpRemark then band.precLevel else 0, 0, 0, 0]

@[simp] theorem length_bandBytes (band : OfiMeterBand) : (bandBytes band).length = 16 := by
  simp [bandBytes]

variable {band : OfiMeterBand}

/-- A good band is read back from its bytes. -/
theorem parseBand_bandBytes (good : band.Good) (rest : List UInt8) :
    parseBand (bandBytes band ++ rest) = some (band.wire, rest) := by
  have two := length_bytes16 band.type
  have eight := length_bytes32 band.rate
  have twelve := length_bytes32 band.burstSize
  have behind : (bandBytes band ++ rest).drop bandSize = rest :=
    drop_left' (length_bandBytes band)
  have type : fieldAt (bandBytes band ++ rest) 0 2 = bytes16 band.type := by
    exact take_left' two
  have counted : netNat (fieldAt (bandBytes band ++ rest) 2 2) = bandSize := by
    rfl
  have rate : fieldAt (bandBytes band ++ rest) 4 4 = bytes32 band.rate := by
    exact take_left' eight
  have burst : fieldAt (bandBytes band ++ rest) 8 4 = bytes32 band.burstSize := by
    exact take_left' twelve
  have level : byteAt (bandBytes band ++ rest) 12 =
      if band.type = Ofpmbt.dscpRemark then band.precLevel else 0 := by
    rfl
  simp only [parseBand, type, counted, rate, burst, level, behind, word16_bytes16, word32_bytes32]
  rcases good with ⟨drop, _⟩ | ⟨remark, _⟩
  · have other := not_dscpRemark drop
    rw [if_pos drop, OfiMeterBand.wire, if_neg other]
    rfl
  · have other := not_drop remark
    rw [if_neg other, if_pos remark, OfiMeterBand.wire, if_pos remark]
    rfl

theorem details_eq_wire_iff (good : band.Good) :
    band.wire = band.details ↔ (band.type = Ofpmbt.drop → band.precLevel = 0) := by
  rcases good with ⟨drop, _⟩ | ⟨remark, _⟩
  · have other := not_dscpRemark drop
    rw [OfiMeterBand.wire, if_neg other]
    constructor
    · exact fun same _ => (congrArg WireBand.precLevel same).symm
    · intro zero
      rw [← zero drop]
      rfl
  · have other := not_drop remark
    rw [OfiMeterBand.wire, if_pos remark]
    exact ⟨fun _ drop => absurd drop other, fun _ => rfl⟩

/-! ## Framing -/

/-- The bands that are framed lie behind the fixed part, and only the last of them counts in
`length2`. -/
structure Framed (start state : EncoderState) (framed : List OfiMeterBand) : Prop where
  next : state.desc.ptr2 + state.desc.length2 = (16 + 16 * framed.length : Nat)
  dataLen : state.desc.dataLen = 16
  length2 : state.desc.length2 = if framed = [] then 0 else 16
  filled : state.memory.Holds 16 (framed.flatMap bandBytes)
  grown : Extends start.memory state.memory 16 (16 + 16 * framed.length : Nat)

theorem length_flatMap_bandBytes (bands : List OfiMeterBand) :
    (bands.flatMap bandBytes).length = 16 * bands.length := by
  induction bands with
  | nil => rfl
  | cons band bands ih =>
  rw [flatMap_cons, length_append, ih, length_bandBytes, length_cons]
  omega

section Framing

variable {start state : EncoderState} {framed : List OfiMeterBand} {band : OfiMeterBand}

/-- A band whose store is all of its bytes but some zeros at the end. -/
theorem Framed.append (zeros : ∀ address : Int, 16 ≤ address → start.memory address = 0)
    (frame : Framed start state framed) {type : UInt16} {operands : List UInt8} {count : Nat}
    (bytes : bandBytes band = bytes16 type ++ bytes16 16 ++ bytes32 band.rate ++
      bytes32 band.burstSize ++ operands ++ List.replicate count 0) :
    Framed start (state.after (appendBand type band.rate band.burstSize operands state.desc))
      (framed ++ [band]) := by
  have next := frame.next
  have long := length_bandBytes band
  rw [bytes] at long
  generalize storedIs : bytes16 type ++ bytes16 16 ++ bytes32 band.rate ++
    bytes32 band.burstSize ++ operands = stored at bytes long
  rw [length_append, length_replicate] at long
  have memory : (state.after (appendBand type band.rate band.burstSize operands
      state.desc)).memory = state.memory.put ⟨(16 + 16 * framed.length : Nat), stored⟩ := by
    change state.memory.write [⟨state.desc.ptr2 + state.desc.length2, _⟩] = _
    rw [next, storedIs]
    rfl
  have put := put_extends state.memory (16 + 16 * framed.length : Nat) stored
  have grown : Extends start.memory (state.memory.put ⟨(16 + 16 * framed.length : Nat), stored⟩) 16
      (16 + 16 * (framed ++ [band]).length : Nat) := by
    rw [length_append, length_singleton]
    exact frame.grown.trans (put.mono le_rfl)
  constructor
  case next =>
    change state.desc.ptr2 + state.desc.length2 + ((16 : Nat) : Int) = _
    rw [next, length_append, length_singleton]
    omega
  case dataLen => exact frame.dataLen
  case length2 =>
    rw [if_neg (by simp)]
    rfl
  case filled =>
    rw [memory, flatMap_append, holds_append, length_flatMap_bandBytes]
    constructor
    case left =>
      apply put.holds frame.filled
      rw [length_flatMap_bandBytes]
      omega
    case right =>
    have spot : (16 : Int) + (16 * framed.length : Nat) = (16 + 16 * framed.length : Nat) := by
      omega
    rw [spot, flatMap_singleton, bytes, holds_append]
    refine ⟨put_holds _ _ _, ?_⟩
    rw [holds_replicate]
    intro address low high
    have untouched : start.memory address = 0 := zeros address (by omega)
    have before := frame.grown.zeros address (by omega) untouched
    apply put.zeros address low before
  case grown =>
    rw [memory]
    exact grown

/-- A band is framed when it is good, and changes the status when it is not. -/
theorem frameBand_framed (zeros : ∀ address : Int, 16 ≤ address → start.memory address = 0)
    (frame : Framed start state framed) (status : Int) :
    Framed start (frameBand (state, status) band).1 (framed ++ if band.Good then [band] else []) ∧
      (frameBand (state, status) band).2 = band.missing.getD status := by
  by_cases drop : band.type = Ofpmbt.drop
  · have other := not_dscpRemark drop
    by_cases rate : band.rate = 0
    · have bad : ¬ band.Good := by simp [OfiMeterBand.Good, rate]
      simp only [frameBand, OfiMeterBand.missing, if_pos drop, if_pos rate, if_neg bad, append_nil]
      exact ⟨frame, rfl⟩
    have good : band.Good := .inl ⟨drop, rate⟩
    simp only [frameBand, OfiMeterBand.missing, if_pos drop, if_neg rate, if_pos good]
    refine ⟨?_, rfl⟩
    refine @Framed.append _ _ _ _ zeros frame _ _ 4 ?_
    rw [bandBytes, drop, if_neg (by decide), append_nil]
    rfl
  · by_cases remark : band.type = Ofpmbt.dscpRemark
    · by_cases lacks : band.rate = 0 ∨ band.precLevel = 0
      · have bad : ¬ band.Good := by
          rintro (⟨is, _⟩ | ⟨_, rate, level⟩)
          · exact drop is
          · exact lacks.elim rate level
        simp only [frameBand, OfiMeterBand.missing, if_neg drop, if_pos remark, if_pos lacks,
          if_neg bad, append_nil]
        exact ⟨frame, rfl⟩
      · have good : band.Good := .inr ⟨remark, not_or.mp lacks⟩
        simp only [frameBand, OfiMeterBand.missing, if_neg drop, if_pos remark, if_neg lacks,
          if_pos good]
        refine ⟨?_, rfl⟩
        refine @Framed.append _ _ _ _ zeros frame _ _ 3 ?_
        rw [bandBytes, remark, if_pos rfl, append_assoc _ [band.precLevel]]
        rfl
    · have bad : ¬ band.Good := by
        rintro (⟨is, _⟩ | ⟨is, _⟩)
        · exact drop is
        · exact remark is
      simp only [frameBand, OfiMeterBand.missing, if_neg drop, if_neg remark, if_neg bad,
        append_nil]
      exact ⟨frame, rfl⟩

/-- The good bands of a list. -/
def goodBands (bands : List OfiMeterBand) : List OfiMeterBand :=
  bands.filter fun band => band.Good

/-- The status behind the scan. -/
def framingStatus (uninit : Int) (bands : List OfiMeterBand) : Int :=
  bands.foldl (fun status band => band.missing.getD status) uninit

theorem bands_framed (zeros : ∀ address : Int, 16 ≤ address → start.memory address = 0)
    (bands : List OfiMeterBand) (frame : Framed start state framed) (status : Int) :
    Framed start (bands.foldl frameBand (state, status)).1 (framed ++ goodBands bands) ∧
      (bands.foldl frameBand (state, status)).2 = framingStatus status bands := by
  induction bands generalizing state framed status with
  | nil =>
    rw [goodBands, filter_nil, append_nil]
    exact ⟨frame, rfl⟩
  | cons band bands ih =>
  obtain ⟨here, said⟩ := @frameBand_framed start state framed band zeros frame status
  have parts : goodBands (band :: bands) =
      (if band.Good then [band] else []) ++ goodBands bands := by
    by_cases good : band.Good
    · simp [goodBands, good]
    · simp [goodBands, good]
  rw [foldl_cons, parts, ← append_assoc]
  generalize frameBand (state, status) band = framing at here said ⊢
  obtain ⟨state', status'⟩ := framing
  subst said
  exact ih here _

end Framing

variable {bands : List OfiMeterBand} (uninit : Int)

theorem framingStatus_complete (complete : ∀ band ∈ bands, band.missing = none) :
    framingStatus uninit bands = uninit := by
  induction bands generalizing uninit with
  | nil => rfl
  | cons band bands ih =>
  rw [framingStatus, foldl_cons, complete band mem_cons_self]
  exact ih uninit fun band member =>
    complete band (mem_cons_of_mem _ member)

/-- A band with a part missing makes the framing fail. -/
theorem framingStatus_missing (member : band ∈ bands) (missing : band.missing ≠ none) :
    framingStatus uninit bands = ofMeterRateRequired ∨
      framingStatus uninit bands = ofMeterPrecLevelRequired := by
  have values (band : OfiMeterBand) (status : Int) (is : band.missing = some status) :
      status = ofMeterRateRequired ∨ status = ofMeterPrecLevelRequired := by
    unfold OfiMeterBand.missing at is
    split at is
    · split at is
      · exact .inl (Option.some.inj is).symm
      · exact absurd is nofun
    split at is
    · split at is
      · exact .inr (Option.some.inj is).symm
      · exact absurd is nofun
    · exact absurd is nofun
  have kept (bands : List OfiMeterBand) (status : Int)
      (said : status = ofMeterRateRequired ∨ status = ofMeterPrecLevelRequired) :
      framingStatus status bands = ofMeterRateRequired ∨
        framingStatus status bands = ofMeterPrecLevelRequired := by
    induction bands generalizing status with
    | nil => exact said
    | cons band bands ih =>
    rw [framingStatus, foldl_cons]
    cases is : band.missing with
    | none => exact ih status said
    | some other => exact ih other (values band other is)
  induction bands generalizing uninit with
  | nil => exact absurd member not_mem_nil
  | cons first bands ih =>
  rw [framingStatus, foldl_cons]
  rcases mem_cons.mp member with rfl | later
  · obtain ⟨status, is⟩ := Option.ne_none_iff_exists'.mp missing
    rw [is]
    exact kept bands status (values band status is)
  · exact ih _ later

/-- What lies in the message behind the framing. -/
structure MessageFramed (command : MeterCommand) (meter : OfiMeterRecInfo)
    (state : EncoderState) : Prop where
  next : state.desc.ptr2 + state.desc.length2 =
    (16 + 16 * (goodBands meter.meterBandList).length : Nat)
  dataLen : state.desc.dataLen = if goodBands meter.meterBandList = [] then 16 else 32
  front : state.memory.Holds 0 [4, 29]
  filled : state.memory.Holds 16 ((goodBands meter.meterBandList).flatMap bandBytes)

/-- The message starts with its header, and zeros behind. -/
theorem startMeterMod_spec (command : MeterCommand) (meter : OfiMeterRecInfo) :
    (startMeterMod command meter).memory.Holds 0 [4, 29] ∧
      ∀ address : Int, 16 ≤ address → (startMeterMod command meter).memory address = 0 := by
  have two : (bytes16 command.ofpmc).length = 2 := length_bytes16 _
  have flags : (bytes16 meter.flags).length = 2 := length_bytes16 _
  have id : (bytes32 meter.meterId).length = 4 := length_bytes32 _
  constructor
  · have first : (ByteMemory.write (fun _ => 0) [⟨0, [4]⟩, ⟨1, [29]⟩]).Holds 0 [4, 29] :=
      ⟨rfl, rfl, trivial⟩
    have rest : Same (ByteMemory.write (fun _ => 0) [⟨0, [4]⟩, ⟨1, [29]⟩])
        (startMeterMod command meter).memory 0 2 := by
      apply @write_same _ 0 2 [⟨4, bytes32 0⟩, ⟨8, bytes16 command.ofpmc⟩,
        ⟨10, bytes16 meter.flags⟩, ⟨12, bytes32 meter.meterId⟩]
      intro store member
      simp only [mem_cons, not_mem_nil, or_false] at member
      rcases member with rfl | rfl | rfl | rfl <;> exact .inr (.inl (by dsimp only; omega))
    exact first.same rest
  · intro address behind
    have all : Same (fun _ => 0) (startMeterMod command meter).memory 16 (address + 1) := by
      apply write_same
      intro store member
      simp only [mem_cons, not_mem_nil, or_false] at member
      rcases member with rfl | rfl | rfl | rfl | rfl | rfl
      · exact .inr (.inr (by decide))
      · exact .inr (.inr (by decide))
      · exact .inr (.inr (by decide))
      · refine .inr (.inr ?_)
        dsimp only
        omega
      · refine .inr (.inr ?_)
        dsimp only
        omega
      · refine .inr (.inr ?_)
        dsimp only
        omega
    exact all address behind (by omega)

/-- The message holds the bands that are good. -/
theorem message_framed (command : MeterCommand) (meter : OfiMeterRecInfo) :
    MessageFramed command meter
        (ofMeterFrameMessageRequest uninit meter (startMeterMod command meter)).1 ∧
      (ofMeterFrameMessageRequest uninit meter (startMeterMod command meter)).2 =
        framingStatus uninit meter.meterBandList := by
  obtain ⟨front, zeros⟩ := startMeterMod_spec command meter
  have started : Framed (startMeterMod command meter)
      ((startMeterMod command meter).after
        (ofuStartAppendingBandsToMeter (startMeterMod command meter).desc)) [] := by
    constructor
    case next => rfl
    case dataLen => rfl
    case length2 => rfl
    case filled => trivial
    case grown => exact Extends.refl _ _
  obtain ⟨frame, said⟩ := bands_framed zeros meter.meterBandList started uninit
  rw [nil_append] at frame
  refine ⟨?_, said⟩
  simp only [ofMeterFrameMessageRequest]
  generalize meter.meterBandList.foldl frameBand _ = framed at frame
  constructor
  case next => exact frame.next
  case dataLen =>
    change u16 (framed.1.desc.dataLen + framed.1.desc.length2) = _
    rw [frame.dataLen, frame.length2]
    split <;> rfl
  case front => exact frame.grown.holds front (by decide)
  case filled => exact frame.filled

/-! ## What is read back -/

/-- A message of good bands is read back. -/
theorem parseMeterMod_framed {command : MeterCommand} {meter : OfiMeterRecInfo}
    {state : EncoderState} (framed : MessageFramed command meter state)
    (good : ∀ band ∈ meter.meterBandList, band.Good) :
    parseMeterMod
        ((state.memory.put ⟨2, bytes16 (UInt16.ofNat state.desc.dataLen)⟩).slice 0
          state.desc.dataLen) =
      some ((meter.meterBandList.take 1).map OfiMeterBand.wire) := by
  have all : goodBands meter.meterBandList = meter.meterBandList :=
    filter_eq_self.mpr fun band member => decide_eq_true (good band member)
  have dataLen := framed.dataLen
  have filled := framed.filled
  rw [all] at dataLen filled
  have two := length_bytes16 (UInt16.ofNat state.desc.dataLen)
  generalize lengthIs : state.desc.dataLen = length at dataLen two ⊢
  have small : length < 2 ^ 16 ∧ 16 ≤ length := by
    rw [dataLen]
    split <;> decide
  have front : (state.memory.put ⟨2, bytes16 (UInt16.ofNat length)⟩).Holds 0 [4, 29] :=
    framed.front.same (put_same (.inr (.inl (Int.le_refl 2))))
  have counted := put_holds state.memory 2 (bytes16 (UInt16.ofNat length))
  have behind : (state.memory.put ⟨2, bytes16 (UInt16.ofNat length)⟩).Holds 16
      (meter.meterBandList.flatMap bandBytes) :=
    filled.same (put_same (.inr (.inr (by
      change (2 : Int) + (bytes16 (UInt16.ofNat length)).length ≤ 16
      rw [two]
      decide))))
  generalize state.memory.put ⟨2, bytes16 (UInt16.ofNat length)⟩ = memory at *
  have long := length_slice memory 0 length
  have countedSlice := counted.slice_eq
  obtain ⟨version, type, _⟩ := front
  have versionRead : byteAt (memory.slice 0 length) 0 = 4 := by
    rw [byteAt, fieldAt_slice (by omega)]
    exact version
  have typeRead : byteAt (memory.slice 0 length) 1 = 29 := by
    rw [byteAt, fieldAt_slice (by omega)]
    exact type
  have sizeRead : netNat (fieldAt (memory.slice 0 length) 2 2) =
      (memory.slice 0 length).length := by
    rw [fieldAt_slice (by omega), long]
    exact (congrArg netNat countedSlice).trans (netNat_bytes16 small.1)
  rw [parseMeterMod, if_pos ⟨versionRead, typeRead, sizeRead, by rw [long]; exact small.2⟩, long]
  cases bands : meter.meterBandList with
  | nil =>
    rw [bands] at dataLen
    subst dataLen
    rfl
  | cons first rest =>
  rw [bands, if_neg (cons_ne_nil _ _)] at dataLen
  rw [bands, flatMap_cons, holds_append] at behind
  subst dataLen
  have firstSlice := behind.1.slice_eq
  have tail : (memory.slice 0 32).drop 16 = bandBytes first ++ [] := by
    exact firstSlice
  rw [tail]
  have here := good first (by rw [bands]; exact mem_cons_self)
  apply (parseAll_cons_iff parseBand_consumes (length_bandBytes first) (Nat.succ_pos 15) _).mpr
  · exact ⟨parseBand_bandBytes here [], rfl⟩
  · rw [append_nil, length_bandBytes]
    omega

/-! ## When the call is right -/

/-- What asks for a failure: no meter, a band that cannot be framed, or too many bands. -/
def MeterCall.Refused (call : MeterCall) : Prop :=
  call.found = none ∨ ∃ datapath meter, call.found = some (datapath, meter) ∧
    ((∃ band ∈ meter.meterBandList, ¬ band.Good) ∨
      meterBufferLen < 16 + 16 * meter.meterBandList.length)

/-- The call comes back; it succeeds only with a message that parses back to the bands of the
meter; and where a failure is asked for, it fails, sends nothing and keeps no message. -/
structure MeterCallRight (call : MeterCall) (outcome : MeterOutcome) : Prop where
  returns : outcome.fault = false
  success : outcome.status = ofSuccess → ∃ datapath meter message,
    call.found = some (datapath, meter) ∧ datapath.isMainConnPresent = true ∧
      outcome.sent = some message ∧
      parseMeterMod message = some (meter.meterBandList.map OfiMeterBand.details)
  failure : call.Refused →
    outcome.status ≠ ofSuccess ∧ outcome.sent = none ∧ outcome.held = false

/-- The values of the uninitialised status with which the framing counts as a success. -/
def Accepted (uninit : Int) : Prop := uninit = ofSuccess ∨ uninit = ofuAppendBandSuccess

/-- With good bands: an uninitialised status that makes the call fail before the connection
is used, or a message that is not sent, or one that holds all bands. -/
def GoodBandsAgree (call : MeterCall) (datapath : MeterDatapath) (meter : OfiMeterRecInfo) :
    Prop :=
  if datapath.isMainConnPresent then
    if call.connInfoAllocated then
      ¬ Accepted call.uninit ∨ call.channel ≠ .sent ∨
        meter.meterBandList.length ≤ 1 ∧
          ∀ band ∈ meter.meterBandList, band.type = Ofpmbt.drop → band.precLevel = 0
    else call.uninit ≠ ofSuccess
  else call.command = .addMeter ∧ ¬ Accepted call.uninit

/-- With a band that cannot be framed: the message is handed to the channel all the same, and
the channel releases it. -/
def BadBandAgrees (call : MeterCall) (datapath : MeterDatapath) (meter : OfiMeterRecInfo) :
    Prop :=
  datapath.isMainConnPresent = true ∧ call.connInfoAllocated = true ∧
    (∀ band ∈ meter.meterBandList, band.missing = none) ∧ Accepted call.uninit ∧
    call.channel = .failedAndReleased

/-- No message is allocated, or the meter is found, its bands fit, and they agree. -/
def MeterCallAgrees (call : MeterCall) : Prop :=
  call.messageAllocated = false ∨ ∃ datapath meter, call.found = some (datapath, meter) ∧
    16 + 16 * (goodBands meter.meterBandList).length ≤ meterBufferLen ∧
    if ∀ band ∈ meter.meterBandList, band.Good then GoodBandsAgree call datapath meter
    else BadBandAgrees call datapath meter

section Call

variable {call : MeterCall} {datapath : MeterDatapath} {meter : OfiMeterRecInfo}

theorem wire_eq_details_iff (good : ∀ band ∈ meter.meterBandList, band.Good) :
    (meter.meterBandList.take 1).map OfiMeterBand.wire =
        meter.meterBandList.map OfiMeterBand.details ↔
      meter.meterBandList.length ≤ 1 ∧
        ∀ band ∈ meter.meterBandList, band.type = Ofpmbt.drop → band.precLevel = 0 := by
  match bands : meter.meterBandList with
  | [] => simp
  | [band] =>
    have here := good band (by rw [bands]; exact mem_singleton_self band)
    simp [← details_eq_wire_iff here]
  | first :: second :: rest => simp

variable (conn : ConnInfoPtr)

theorem frameAndSend_eq (status : Int)
    (fits : 16 + 16 * (goodBands meter.meterBandList).length ≤ meterBufferLen) :
    frameAndSend call meter conn status =
      let said := framingStatus call.uninit meter.meterBandList
      let status := if said ≠ ofuAppendBandSuccess then said else status
      if status ≠ ofSuccess then { status := status, held := true }
      else if conn = .allocated then
        sendMeterMod call.channel (ofMeterFrameMessageRequest call.uninit meter
          (startMeterMod call.command meter)).1
      else { fault := true } := by
  obtain ⟨framed, said⟩ := message_framed call.uninit call.command meter
  have next := framed.next
  rw [frameAndSend]
  generalize ofMeterFrameMessageRequest call.uninit meter
    (startMeterMod call.command meter) = framing at framed said next
  obtain ⟨state, retval⟩ := framing
  simp only at next said ⊢
  have inside : ¬ (meterBufferLen : Int) < state.desc.ptr2 + state.desc.length2 := by
    omega
  rw [if_neg inside, said]

theorem frameAndSend_full (status : Int)
    (full : meterBufferLen < 16 + 16 * (goodBands meter.meterBandList).length) :
    (frameAndSend call meter conn status).fault = true := by
  obtain ⟨framed, _⟩ := message_framed call.uninit call.command meter
  have next := framed.next
  rw [frameAndSend]
  simp only at next ⊢
  rw [if_pos]
  omega

theorem framing_accepted_iff (said status : Int) :
    (if said ≠ ofuAppendBandSuccess then said else status) = ofSuccess ↔
      said = ofSuccess ∨ said = ofuAppendBandSuccess ∧ status = ofSuccess := by
  by_cases appended : said = ofuAppendBandSuccess
  · subst appended
    simp [ofuAppendBandSuccess, ofSuccess]
  · simp [appended]

theorem goodBands_all (good : ∀ band ∈ meter.meterBandList, band.Good) :
    goodBands meter.meterBandList = meter.meterBandList :=
  filter_eq_self.mpr fun band member => decide_eq_true (good band member)

theorem good_complete {band : OfiMeterBand} (good : band.Good) : band.missing = none := by
  unfold OfiMeterBand.missing
  rcases good with ⟨drop, rate⟩ | ⟨remark, rate, level⟩
  · rw [if_pos drop, if_neg rate]
  · have other := not_drop remark
    rw [if_neg other, if_pos remark, if_neg (not_or.mpr ⟨rate, level⟩)]

theorem not_right_of_held (refused : call.Refused) {outcome : MeterOutcome}
    (bad : outcome.fault = true ∨ outcome.held = true) : ¬ MeterCallRight call outcome := by
  intro right
  rcases bad with fault | held
  · exact absurd (right.returns.symm.trans fault) nofun
  · exact absurd ((right.failure refused).2.2.symm.trans held) nofun

theorem frameAndSend_held (status : Int) (absent : conn ≠ .allocated) :
    (frameAndSend call meter conn status).fault = true ∨
      (frameAndSend call meter conn status).held = true := by
  rw [frameAndSend]
  generalize ofMeterFrameMessageRequest call.uninit meter
    (startMeterMod call.command meter) = framing
  obtain ⟨state, retval⟩ := framing
  dsimp only
  generalize (if retval ≠ ofuAppendBandSuccess then retval else status) = after
  split
  · exact .inl rfl
  · split
    · exact .inr rfl
    · exact .inl rfl

/-- With a bad band the call is right exactly when it agrees to refuse. -/
theorem bad_right_iff (allocated : call.messageAllocated = true)
    (found : call.found = some (datapath, meter)) (bad : ∃ band ∈ meter.meterBandList, ¬ band.Good)
    (fits : 16 + 16 * (goodBands meter.meterBandList).length ≤ meterBufferLen) :
    MeterCallRight call (ofMeterFrameAndSendMessageRequest call) ↔
      BadBandAgrees call datapath meter := by
  have refused : call.Refused := .inr ⟨datapath, meter, found, .inl bad⟩
  rw [ofMeterFrameAndSendMessageRequest, if_neg (not_not.mpr allocated), found]
  dsimp only
  by_cases main : datapath.isMainConnPresent = true
  case neg =>
    rw [if_neg main]
    constructor
    · intro right
      cases command : call.command with
      | addMeter =>
        rw [command] at right
        exact absurd right (not_right_of_held refused (frameAndSend_held _ _ nofun))
      | modMeter =>
        rw [command] at right
        exact absurd right (not_right_of_held refused (.inl rfl))
    · exact fun agrees => absurd agrees.1 main
  case pos =>
    rw [if_pos main]
    by_cases conn : call.connInfoAllocated = true
    case neg =>
      rw [if_neg conn]
      constructor
      · exact fun right =>
          absurd right (not_right_of_held refused (frameAndSend_held _ _ nofun))
      · exact fun agrees => absurd agrees.2.1 conn
    case pos =>
      rw [if_pos conn, frameAndSend_eq _ _ fits]
      by_cases goes : (if framingStatus call.uninit meter.meterBandList ≠ ofuAppendBandSuccess
          then framingStatus call.uninit meter.meterBandList else ofSuccess) = ofSuccess
      case neg =>
        rw [if_pos goes]
        constructor
        · exact fun right => absurd right (not_right_of_held refused (.inr rfl))
        · rintro ⟨_, _, complete, accepted, _⟩
          rw [framing_accepted_iff, framingStatus_complete _ complete] at goes
          exact absurd (accepted.imp_right (⟨·, rfl⟩)) goes
      case pos =>
        rw [if_neg (not_not.mpr goes), if_pos rfl]
        rw [framing_accepted_iff] at goes
        have complete : ∀ band ∈ meter.meterBandList, band.missing = none := by
          intro band member
          by_contra missing
          rcases framingStatus_missing call.uninit member missing with said | said
          · rw [said] at goes
            exact absurd goes (by decide)
          · rw [said] at goes
            exact absurd goes (by decide)
        rw [framingStatus_complete _ complete] at goes
        have accepted : Accepted call.uninit := goes.imp_right And.left
        cases channel : call.channel with
        | sent =>
          constructor
          · intro right
            exact absurd (right.failure refused).1 (not_not.mpr rfl)
          · exact fun agrees => absurd (channel.symm.trans agrees.2.2.2.2) nofun
        | failed =>
          constructor
          · exact fun right => absurd right (not_right_of_held refused (.inr rfl))
          · exact fun agrees => absurd (channel.symm.trans agrees.2.2.2.2) nofun
        | failedAndReleased =>
        constructor
        · exact fun _ => ⟨main, conn, complete, accepted, channel⟩
        intro _
        constructor
        case returns => rfl
        case success =>
          exact fun impossible => absurd impossible (show ofFailure ≠ ofSuccess by decide)
        case failure => exact fun _ => ⟨nofun, rfl, rfl⟩

/-- With good bands the call is right exactly when message and send agree. -/
theorem good_right_iff (allocated : call.messageAllocated = true)
    (found : call.found = some (datapath, meter)) (good : ∀ band ∈ meter.meterBandList, band.Good)
    (fits : 16 + 16 * (goodBands meter.meterBandList).length ≤ meterBufferLen) :
    MeterCallRight call (ofMeterFrameAndSendMessageRequest call) ↔
      GoodBandsAgree call datapath meter := by
  have whole := goodBands_all good
  have notRefused : ¬ call.Refused := by
    rintro (none_ | ⟨datapath', meter', found', bad⟩)
    · exact absurd (found.symm.trans none_) nofun
    cases Option.some.inj (found.symm.trans found')
    rcases bad with ⟨band, member, bad⟩ | full
    · exact bad (good band member)
    · rw [whole] at fits
      omega
  have complete : ∀ band ∈ meter.meterBandList, band.missing = none :=
    fun band member => good_complete (good band member)
  have said := framingStatus_complete call.uninit complete
  obtain ⟨framed, _⟩ := message_framed call.uninit call.command meter
  have read := parseMeterMod_framed framed good
  have kept : ∀ status : Int, status ≠ ofSuccess →
      MeterCallRight call { status := status, held := true } := fun status differs => {
    returns := rfl
    success := fun same => absurd same differs
    failure := fun refused => absurd refused notRefused }
  have faults : ¬ MeterCallRight call { fault := true } := fun right =>
    absurd right.returns nofun
  rw [ofMeterFrameAndSendMessageRequest, if_neg (not_not.mpr allocated), found, GoodBandsAgree]
  dsimp only
  by_cases main : datapath.isMainConnPresent = true
  case neg =>
    rw [if_neg main, if_neg main]
    cases command : call.command with
    | modMeter => exact ⟨fun right => absurd right faults, fun agrees => absurd agrees.1 nofun⟩
    | addMeter =>
    rw [frameAndSend_eq _ _ fits, said]
    by_cases goes : (if call.uninit ≠ ofuAppendBandSuccess then call.uninit
        else ofSuccess) = ofSuccess
    case neg =>
      rw [if_pos goes]
      rw [framing_accepted_iff] at goes
      refine ⟨fun _ => ⟨rfl, fun accepted => goes (accepted.imp_right (⟨·, rfl⟩))⟩,
        fun _ => kept _ ?_⟩
      rwa [ne_eq, framing_accepted_iff]
    case pos =>
      rw [if_neg (not_not.mpr goes), if_neg nofun]
      rw [framing_accepted_iff] at goes
      exact ⟨fun right => absurd right faults,
        fun agrees => absurd (goes.imp_right And.left) agrees.2⟩
  case pos =>
    rw [if_pos main, if_pos main]
    by_cases conn : call.connInfoAllocated = true
    case neg =>
      rw [if_neg conn, if_neg conn, frameAndSend_eq _ _ fits, said]
      by_cases goes : (if call.uninit ≠ ofuAppendBandSuccess then call.uninit
          else ofFailure) = ofSuccess
      case neg =>
        rw [if_pos goes]
        refine ⟨fun _ same => goes ?_, fun _ => kept _ goes⟩
        rw [framing_accepted_iff]
        exact .inl same
      case pos =>
        rw [if_neg (not_not.mpr goes), if_neg nofun]
        rw [framing_accepted_iff] at goes
        rcases goes with zero | ⟨_, impossible⟩
        · exact ⟨fun right => absurd right faults, fun agrees => absurd zero agrees⟩
        · exact absurd impossible (by decide)
    case pos =>
      rw [if_pos conn, if_pos conn, frameAndSend_eq _ _ fits, said]
      by_cases goes : (if call.uninit ≠ ofuAppendBandSuccess then call.uninit
          else ofSuccess) = ofSuccess
      case neg =>
        rw [if_pos goes]
        refine ⟨fun _ => .inl fun accepted => goes ?_, fun _ => kept _ goes⟩
        rw [framing_accepted_iff]
        exact accepted.imp_right (⟨·, rfl⟩)
      case pos =>
        rw [if_neg (not_not.mpr goes), if_pos rfl]
        rw [framing_accepted_iff] at goes
        have accepted : Accepted call.uninit := goes.imp_right And.left
        rw [← wire_eq_details_iff good]
        cases channel : call.channel with
        | sent =>
          constructor
          · intro right
            obtain ⟨_, meter', message, found', _, sent, parsed⟩ := right.success rfl
            cases Option.some.inj (found.symm.trans found')
            cases Option.some.inj sent
            rw [read] at parsed
            exact .inr (.inr (Option.some.inj parsed))
          rintro (rejected | unsent | same)
          · exact absurd accepted rejected
          · exact absurd rfl unsent
          constructor
          case returns => rfl
          case success =>
            intro _
            refine ⟨datapath, meter, _, found, main, rfl, ?_⟩
            rw [read, same]
          case failure => exact fun refused => absurd refused notRefused
        | failed =>
          exact ⟨fun _ => .inr (.inl nofun), fun _ => kept _ (by decide)⟩
        | failedAndReleased =>
        refine ⟨fun _ => .inr (.inl nofun), fun _ => ?_⟩
        constructor
        case returns => rfl
        case success =>
            exact fun impossible => absurd impossible (show ofFailure ≠ ofSuccess by decide)
        case failure => exact fun refused => absurd refused notRefused

end Call

/-- A call is right exactly when it agrees with its arguments. -/
theorem meter_call_right_iff (call : MeterCall) :
    MeterCallRight call (ofMeterFrameAndSendMessageRequest call) ↔ MeterCallAgrees call := by
  by_cases allocated : call.messageAllocated = true
  case neg =>
    have outcome : ofMeterFrameAndSendMessageRequest call = { status := ofFailure } :=
      if_pos allocated
    rw [outcome]
    constructor
    · exact fun _ => .inl (Bool.eq_false_of_not_eq_true allocated)
    intro _
    constructor
    case returns => rfl
    case success => exact fun impossible => absurd impossible (by decide)
    case failure => exact fun _ => ⟨by decide, rfl, rfl⟩
  case pos =>
    cases found : call.found with
    | none =>
      have outcome : ofMeterFrameAndSendMessageRequest call = { fault := true } := by
        rw [ofMeterFrameAndSendMessageRequest, if_neg (not_not.mpr allocated), found]
      rw [outcome]
      constructor
      · exact fun right => absurd right.returns nofun
      · rintro (no | ⟨datapath, meter, found', _⟩)
        · exact absurd (allocated.symm.trans no) nofun
        · exact absurd (found.symm.trans found') nofun
    | some both =>
    obtain ⟨datapath, meter⟩ := both
    have agrees : MeterCallAgrees call ↔
        16 + 16 * (goodBands meter.meterBandList).length ≤ meterBufferLen ∧
          if ∀ band ∈ meter.meterBandList, band.Good then
            GoodBandsAgree call datapath meter
          else BadBandAgrees call datapath meter := by
      constructor
      · rintro (no | ⟨datapath', meter', found', rest⟩)
        · exact absurd (allocated.symm.trans no) nofun
        · cases Option.some.inj (found.symm.trans found')
          exact rest
      · exact fun rest => .inr ⟨datapath, meter, found, rest⟩
    rw [agrees]
    by_cases fits : 16 + 16 * (goodBands meter.meterBandList).length ≤ meterBufferLen
    case neg =>
      have full (conn : ConnInfoPtr) (status : Int) :
          (frameAndSend call meter conn status).fault = true :=
        frameAndSend_full conn status (by omega)
      have fault : (ofMeterFrameAndSendMessageRequest call).fault = true := by
        rw [ofMeterFrameAndSendMessageRequest, if_neg (not_not.mpr allocated), found]
        dsimp only
        by_cases main : datapath.isMainConnPresent = true
        · rw [if_pos main]
          by_cases conn : call.connInfoAllocated = true
          · rw [if_pos conn]
            exact full _ _
          · rw [if_neg conn]
            exact full _ _
        · rw [if_neg main]
          cases call.command with
          | addMeter => exact full _ _
          | modMeter => rfl
      exact ⟨fun right => absurd (right.returns.symm.trans fault) nofun,
        fun rest => absurd rest.1 fits⟩
    case pos =>
      by_cases good : ∀ band ∈ meter.meterBandList, band.Good
      · rw [good_right_iff allocated found good fits, if_pos good]
        exact ⟨fun here => ⟨fits, here⟩, And.right⟩
      · have bad : ∃ band ∈ meter.meterBandList, ¬ band.Good := by
          simpa only [not_forall, exists_prop] using good
        rw [bad_right_iff allocated found bad fits, if_neg good]
        exact ⟨fun here => ⟨fits, here⟩, And.right⟩

/-! ## Reading bands -/

section Response

variable {memory : ByteMemory} {allocated : Nat → Bool} {length : Nat}

/-- What is left of the length behind `index` bands. -/
def lengthLeft (length index : Nat) : Nat := (length + 2 ^ 32 * index - bandSize * index) % 2 ^ 32

/-- The loop ends behind `index` bands. -/
def StopsAt (allocated : Nat → Bool) (length index : Nat) : Prop :=
  lengthLeft length index = 0 ∨ allocated index = false

/-- What has been read behind `count` bands. -/
def bandsRead (memory : ByteMemory) (count : Nat) : List (OfiMeterBand × ByteRead) :=
  (List.range count).map fun index => ofMeterFrameBandResponse memory (bandSize * index)

/-- What the loop leaves when it ends behind `count` bands. -/
def responseAt (memory : ByteMemory) (length count : Nat) : MeterResponse where
  succeeded := lengthLeft length count = 0
  bands := (bandsRead memory count).map Prod.fst
  reads := (bandsRead memory count).map Prod.snd

theorem lengthLeft_succ (length index : Nat) :
    (lengthLeft length index + 2 ^ 32 - bandSize) % 2 ^ 32 = lengthLeft length (index + 1) := by
  simp only [lengthLeft, bandSize]
  omega

/-- The loop reads the bands up to the first that stops it. -/
theorem response_run {fuel index : Nat} {response out : MeterResponse}
    (bands : response.bands = (bandsRead memory index).map Prod.fst)
    (reads : response.reads = (bandsRead memory index).map Prod.snd)
    (before : ∀ earlier < index, ¬ StopsAt allocated length earlier)
    (ran : ofMeterFrameResponse memory allocated fuel index (lengthLeft length index) response =
      some out) :
    ∃ stop, StopsAt allocated length stop ∧
      (∀ earlier < stop, ¬ StopsAt allocated length earlier) ∧
      out = responseAt memory length stop := by
  induction fuel generalizing index response with
  | zero => exact absurd ran nofun
  | succ fuel ih =>
  rw [ofMeterFrameResponse] at ran
  split at ran
  case isTrue zero =>
    refine ⟨index, .inl zero, before, ?_⟩
    rw [← Option.some.inj ran, responseAt, ← bands, ← reads, decide_eq_true zero]
  case isFalse more =>
  split at ran
  case isTrue none_ =>
    refine ⟨index, .inr (Bool.eq_false_of_not_eq_true none_), before, ?_⟩
    rw [← Option.some.inj ran, responseAt, ← bands, ← reads, decide_eq_false more]
  case isFalse here =>
  rw [lengthLeft_succ] at ran
  generalize one : ofMeterFrameBandResponse memory (bandSize * index) = both at ran
  obtain ⟨band, read⟩ := both
  have grown : bandsRead memory (index + 1) = bandsRead memory index ++ [(band, read)] := by
    simp [bandsRead, range_succ, one]
  apply ih _ _ _ ran
  · rw [grown, map_append, ← bands]
    rfl
  · rw [grown, map_append, ← reads]
    rfl
  intro earlier low
  rcases Nat.lt_succ_iff_lt_or_eq.mp low with less | rfl
  · exact before earlier less
  · rintro (zero | failed)
    · exact more zero
    · rw [not_not, failed] at here
      exact absurd here nofun

/-- A band that stops the loop ends it. -/
theorem response_enough {stop : Nat} (stops : StopsAt allocated length stop) {index : Nat}
    (below : index ≤ stop) (response : MeterResponse) :
    ∃ out, ofMeterFrameResponse memory allocated (stop - index + 1) index
      (lengthLeft length index) response = some out := by
  induction left : stop - index generalizing index response with
  | zero =>
    have same : index = stop := by omega
    subst same
    rw [ofMeterFrameResponse]
    split
    · exact ⟨_, rfl⟩
    rename_i more
    rcases stops with zero | failed
    · exact absurd zero more
    · rw [if_pos (by rw [failed]; exact nofun)]
      exact ⟨_, rfl⟩
  | succ left ih =>
  rw [ofMeterFrameResponse]
  split
  · exact ⟨_, rfl⟩
  · split
    · exact ⟨_, rfl⟩
    · rw [lengthLeft_succ]
      exact ih (by omega) _ (by omega)

instance (allocated : Nat → Bool) (length index : Nat) :
    Decidable (StopsAt allocated length index) :=
  inferInstanceAs (Decidable (_ ∨ _))

/-- Nothing has been read. -/
def noBands : MeterResponse where
  succeeded := false
  bands := []
  reads := []

/-- The loop ends at the first band that stops it, and nowhere else. -/
theorem response_iff (memory : ByteMemory) (allocated : Nat → Bool) (length : UInt32)
    (out : MeterResponse) :
    (∃ fuel, ofMeterFrameResponse memory allocated fuel 0 length.toNat noBands = some out) ↔
      ∃ stop, StopsAt allocated length.toNat stop ∧
        (∀ earlier < stop, ¬ StopsAt allocated length.toNat earlier) ∧
        out = responseAt memory length.toNat stop := by
  have whole : lengthLeft length.toNat 0 = length.toNat := by
    have small := length.toNat_lt
    simp only [lengthLeft]
    omega
  constructor
  · rintro ⟨fuel, ran⟩
    rw [← whole] at ran
    have found := @response_run memory allocated length.toNat fuel 0 noBands out rfl rfl
      (fun _ low => absurd low (Nat.not_lt_zero _)) ran
    exact found
  rintro ⟨stop, stops, first, rfl⟩
  obtain ⟨out, ran⟩ := @response_enough memory allocated length.toNat stop stops 0
    (Nat.zero_le _) noBands
  obtain ⟨stop', stops', first', rfl⟩ := @response_run memory allocated length.toNat _ 0
    noBands out rfl rfl (fun _ low => absurd low (Nat.not_lt_zero _)) ran
  have same : stop' = stop := by
    rcases Nat.lt_trichotomy stop' stop with less | same | more
    · exact absurd stops' (first stop' less)
    · exact same
    · exact absurd stops (first' stop more)
  subst same
  rw [whole] at ran
  exact ⟨_, ran⟩

/-- How far a band is read. -/
def bandEnd (memory : ByteMemory) (index : Nat) : Nat :=
  bandSize * index + bandReads (word16 (memory.slice (bandSize * index : Nat) 2))

theorem bandReads_bounds (type : UInt16) : 2 ≤ bandReads type ∧ bandReads type ≤ 13 := by
  unfold bandReads
  split
  · omega
  · split <;> omega

theorem band_read (memory : ByteMemory) (msg : Nat) :
    (ofMeterFrameBandResponse memory msg).2 =
      ⟨msg, bandReads (word16 (memory.slice msg 2))⟩ := by
  unfold ofMeterFrameBandResponse
  dsimp only
  split
  · rfl
  · split <;> rfl

theorem mem_reads_iff {memory : ByteMemory} {length count : Nat} {read : ByteRead} :
    read ∈ (responseAt memory length count).reads ↔ ∃ index < count,
      read = ⟨bandSize * index, bandReads (word16 (memory.slice (bandSize * index : Nat) 2))⟩ := by
  simp only [responseAt, bandsRead, map_map, mem_map, mem_range, Function.comp_apply, band_read]
  exact ⟨fun ⟨index, low, is⟩ => ⟨index, low, is.symm⟩,
    fun ⟨index, low, is⟩ => ⟨index, low, is.symm⟩⟩

theorem exists_first_stop {total stop : Nat} (stops : StopsAt allocated total stop) :
    ∃ first ≤ stop, StopsAt allocated total first ∧
      ∀ earlier < first, ¬ StopsAt allocated total earlier := by
  have some_ : ∃ index, StopsAt allocated total index := ⟨stop, stops⟩
  exact ⟨Nat.find some_, Nat.find_min' some_ stops, Nat.find_spec some_,
    fun earlier low => Nat.find_min some_ low⟩

/-- The bands are read inside exactly when they fill the length or memory runs out before. -/
theorem stops_inside_iff {total : Nat} (small : total < 2 ^ 32) :
    (∃ stop, StopsAt allocated total stop ∧
        (∀ earlier < stop, ¬ StopsAt allocated total earlier) ∧
        ∀ index < stop, bandEnd memory index ≤ total) ↔
      bandSize ∣ total ∨ ∃ index, allocated index = false ∧
        (index ≤ total / bandSize ∨
          index = total / bandSize + 1 ∧ bandEnd memory (total / bandSize) ≤ total) := by
  have bounds (index : Nat) :
      16 * index + 2 ≤ bandEnd memory index ∧ bandEnd memory index ≤ 16 * index + 13 := by
    have reads := bandReads_bounds (word16 (memory.slice (bandSize * index : Nat) 2))
    simp only [bandEnd, bandSize] at reads ⊢
    omega
  have sixteen : bandSize = 16 := rfl
  rw [sixteen]
  constructor
  · rintro ⟨stop, stops, _, inside⟩
    rcases stops with zero | failed
    · left
      simp only [lengthLeft, sixteen] at zero
      omega
    right
    refine ⟨stop, failed, ?_⟩
    by_cases early : stop ≤ total / 16
    · exact .inl early
    have last := inside (total / 16) (by omega)
    refine .inr ⟨?_, last⟩
    by_contra later
    have beyond := inside (total / 16 + 1) (by omega)
    have far := (bounds (total / 16 + 1)).1
    omega
  · have whole (index : Nat) (low : index < total / 16) : bandEnd memory index ≤ total := by
      have near := (bounds index).2
      omega
    rintro (aligned | ⟨index, failed, early | ⟨rfl, last⟩⟩)
    · have stops : StopsAt allocated total (total / 16) := by
        left
        simp only [lengthLeft, sixteen]
        omega
      obtain ⟨first, below, here, before⟩ := exists_first_stop stops
      exact ⟨first, here, before, fun index low => whole index (by omega)⟩
    · obtain ⟨first, below, here, before⟩ := exists_first_stop (.inr failed)
      exact ⟨first, here, before, fun other low => whole other (by omega)⟩
    obtain ⟨first, below, here, before⟩ := exists_first_stop (.inr failed)
    refine ⟨first, here, before, fun other low => ?_⟩
    by_cases same : other = total / 16
    · rw [same]
      exact last
    · exact whole other (by omega)

/-- The loop ends, and every read lies inside the length. -/
def ResponseRight (memory : ByteMemory) (allocated : Nat → Bool) (length : UInt32) : Prop :=
  ∃ fuel out,
    ofMeterFrameResponse memory allocated fuel 0 length.toNat noBands = some out ∧
      ∀ read ∈ out.reads, read.start + read.count ≤ length.toNat

/-- The length is that of whole bands; or memory runs out before the band that the length
cuts off is read, or right behind it when what is read of that band lies inside. -/
def ResponseAgrees (memory : ByteMemory) (allocated : Nat → Bool) (length : UInt32) : Prop :=
  bandSize ∣ length.toNat ∨ ∃ index, allocated index = false ∧
    (index ≤ length.toNat / bandSize ∨
      index = length.toNat / bandSize + 1 ∧
        bandEnd memory (length.toNat / bandSize) ≤ length.toNat)

theorem response_right_iff (memory : ByteMemory) (allocated : Nat → Bool) (length : UInt32) :
    ResponseRight memory allocated length ↔ ResponseAgrees memory allocated length := by
  have right : ResponseRight memory allocated length ↔
      ∃ stop, StopsAt allocated length.toNat stop ∧
        (∀ earlier < stop, ¬ StopsAt allocated length.toNat earlier) ∧
        ∀ index < stop, bandEnd memory index ≤ length.toNat := by
    constructor
    · rintro ⟨fuel, out, ran, inside⟩
      obtain ⟨stop, stops, first, rfl⟩ := (response_iff _ _ _ _).mp ⟨fuel, ran⟩
      exact ⟨stop, stops, first, fun index low => inside _ (mem_reads_iff.mpr ⟨index, low, rfl⟩)⟩
    rintro ⟨stop, stops, first, inside⟩
    obtain ⟨fuel, ran⟩ := (response_iff memory allocated length _).mpr ⟨stop, stops, first, rfl⟩
    refine ⟨fuel, _, ran, fun read member => ?_⟩
    obtain ⟨index, low, rfl⟩ := mem_reads_iff.mp member
    exact inside index low
  exact right.trans (stops_inside_iff length.toNat_lt)

/-- A good band is rebuilt from its bytes. -/
theorem band_rebuilt {band : OfiMeterBand} {msg : Nat} (good : band.Good)
    (held : memory.Holds msg (bandBytes band)) :
    (ofMeterFrameBandResponse memory msg).1.details = band.wire := by
  rw [bandBytes, holds_append, holds_append, holds_append, holds_append] at held
  obtain ⟨⟨⟨⟨type, _⟩, rate⟩, burst⟩, level, _⟩ := held
  simp only [length_append, length_bytes16, length_bytes32] at rate burst level
  have typeRead := type.slice_eq
  have rateRead := rate.slice_eq
  have burstRead := burst.slice_eq
  rw [length_bytes16] at typeRead
  rw [length_bytes32] at rateRead burstRead
  have four : ((msg + 4 : Nat) : Int) = (msg : Int) + (2 + 2 : Nat) := by omega
  have eight : ((msg + 8 : Nat) : Int) = (msg : Int) + (2 + 2 + 4 : Nat) := by omega
  have twelve : ((msg + 12 : Nat) : Int) = (msg : Int) + (2 + 2 + 4 + 4 : Nat) := by omega
  unfold ofMeterFrameBandResponse
  rw [typeRead, four, rateRead, eight, burstRead, twelve, level]
  simp only [word16_bytes16, word32_bytes32]
  rcases good with ⟨drop, _⟩ | ⟨remark, _⟩
  · have other := not_dscpRemark drop
    rw [if_pos drop, OfiMeterBand.wire, if_neg other]
    rfl
  · have other := not_drop remark
    rw [if_neg other, if_pos remark, OfiMeterBand.wire, if_pos remark]
    rfl

/-- The bytes of bands, with memory for each, are read as the bands. -/
def Rebuilt (memory : ByteMemory) (bands : List OfiMeterBand) (length : UInt32) : Prop :=
  ∃ fuel out, ofMeterFrameResponse memory (fun _ => true) fuel 0 length.toNat noBands =
    some out ∧ out.succeeded = true ∧
      out.bands.map OfiMeterBand.details = bands.map OfiMeterBand.details

variable {bands : List OfiMeterBand}

theorem bandsRead_details {index : Nat} (good : ∀ band ∈ bands, band.Good)
    (held : memory.Holds (bandSize * index : Nat) (bands.flatMap bandBytes)) :
    ((List.range' index bands.length).map fun index =>
        (ofMeterFrameBandResponse memory (bandSize * index)).1.details) =
      bands.map OfiMeterBand.wire := by
  induction bands generalizing index with
  | nil => rfl
  | cons band bands ih =>
  rw [flatMap_cons, holds_append, length_bandBytes] at held
  have spot : ((bandSize * index : Nat) : Int) + (16 : Nat) =
      (bandSize * (index + 1) : Nat) := by
    simp only [bandSize]
    omega
  rw [spot] at held
  have others := ih (fun band member => good band (mem_cons_of_mem _ member)) held.2
  rw [length_cons, range'_succ, map_cons, map_cons, others,
    band_rebuilt (good band mem_cons_self) held.1]

/-- The bands are rebuilt exactly when no drop band has a precedence level. -/
theorem rebuilt_iff {length : UInt32} (good : ∀ band ∈ bands, band.Good)
    (counted : length.toNat = bandSize * bands.length)
    (held : memory.Holds 0 (bands.flatMap bandBytes)) :
    Rebuilt memory bands length ↔
      ∀ band ∈ bands, band.type = Ofpmbt.drop → band.precLevel = 0 := by
  have small := length.toNat_lt
  have stop (index : Nat) (below : index ≤ bands.length) :
      StopsAt (fun _ => true) length.toNat index ↔ index = bands.length := by
    simp only [StopsAt, lengthLeft, counted, bandSize] at small ⊢
    constructor
    · rintro (zero | impossible)
      · omega
      · exact absurd impossible nofun
    · rintro rfl
      left
      omega
  have ended : StopsAt (fun _ => true) length.toNat bands.length := (stop _ le_rfl).mpr rfl
  have first : ∀ earlier < bands.length, ¬ StopsAt (fun _ => true) length.toNat earlier :=
    fun earlier low stops => by
      have same := (stop earlier (by omega)).mp stops
      omega
  have details : (responseAt memory length.toNat bands.length).bands.map OfiMeterBand.details =
      bands.map OfiMeterBand.wire := by
    have read := bandsRead_details good (show memory.Holds (bandSize * 0 : Nat) _ from held)
    rw [← read, ← range_eq_range']
    simp only [responseAt, bandsRead, map_map]
    rfl
  have zero : lengthLeft length.toNat bands.length = 0 := by
    rcases ended with zero | impossible
    · exact zero
    · exact absurd impossible nofun
  have same : bands.map OfiMeterBand.wire = bands.map OfiMeterBand.details ↔
      ∀ band ∈ bands, band.type = Ofpmbt.drop → band.precLevel = 0 := by
    rw [map_inj_left]
    exact ⟨fun each band member => (details_eq_wire_iff (good band member)).mp (each band member),
      fun each band member => (details_eq_wire_iff (good band member)).mpr (each band member)⟩
  rw [← same]
  constructor
  · rintro ⟨fuel, out, ran, _, rebuilt⟩
    obtain ⟨last, stops, before, rfl⟩ := (response_iff _ _ _ _).mp ⟨fuel, ran⟩
    have whole : last = bands.length := by
      rcases Nat.lt_trichotomy last bands.length with less | whole | more
      · exact absurd stops (first last less)
      · exact whole
      · exact absurd ended (before _ more)
    subst whole
    rwa [details] at rebuilt
  · intro rebuilt
    obtain ⟨fuel, ran⟩ := (response_iff memory (fun _ => true) length _).mpr
      ⟨bands.length, ended, first, rfl⟩
    exact ⟨fuel, _, ran, decide_eq_true zero, details.trans rebuilt⟩

end Response

/-- A call that adds or modifies a meter is right if and only if it agrees; the bytes of good
bands are read as these bands if and only if no band that drops packets is stored with a level;
and the bands of a reply are read within their length if and only if the length, the memory
and the last band agree. -/
theorem meter_round_trip_iff (call : MeterCall) (memory : ByteMemory)
    (bands : List OfiMeterBand) (allocated : Nat → Bool) (length : UInt32) :
    (MeterCallRight call (ofMeterFrameAndSendMessageRequest call) ↔ MeterCallAgrees call) ∧
    ((∀ band ∈ bands, band.Good) → length.toNat = bandSize * bands.length →
      memory.Holds 0 (bands.flatMap bandBytes) →
        (Rebuilt memory bands length ↔
          ∀ band ∈ bands, band.type = Ofpmbt.drop → band.precLevel = 0)) ∧
    (ResponseRight memory allocated length ↔ ResponseAgrees memory allocated length) :=
  ⟨meter_call_right_iff call, rebuilt_iff, response_right_iff memory allocated length⟩

/-- A band that drops what exceeds a rate of 1000. -/
def dropBand : OfiMeterBand where
  type := Ofpmbt.drop
  rate := 1000
  burstSize := 10

/-- A meter of two bands is added, and the stack holds the status of a success. -/
def addTwoBands : MeterCall where
  command := .addMeter
  meterId := 7
  datapath := some {
    meterTable := [{ meterId := 7, flags := 1, meterBandList := [dropBand, dropBand] }]
    isMainConnPresent := true }
  messageAllocated := true
  connInfoAllocated := true
  channel := .sent
  uninit := ofuAppendBandSuccess

/-- One band alone is read back. -/
theorem meter_round_trip_one :
    Rebuilt (ByteMemory.write (fun _ => 0) [⟨0, bandBytes dropBand⟩]) [dropBand] 16 := by
  apply ((meter_round_trip_iff addTwoBands _ [dropBand] (fun _ => true) 16).2.1 _ rfl _).mpr
  · exact fun band member _ => by rw [mem_singleton.mp member]; rfl
  · exact fun band member => by rw [mem_singleton.mp member]; decide
  · rw [flatMap_singleton]
    exact put_holds _ _ _

/-- A meter is modified that the datapath does not have. -/
def modifyAbsent : MeterCall :=
  { addTwoBands with command := .modMeter, meterId := 8 }

/-- The message of the two bands counts one of them, and the call succeeds; the entry of an
absent meter is read from; and of a length of eight bytes a band of twelve is read. -/
theorem meter_calls_wrong :
    ¬ MeterCallRight addTwoBands (ofMeterFrameAndSendMessageRequest addTwoBands) ∧
      ¬ MeterCallRight modifyAbsent (ofMeterFrameAndSendMessageRequest modifyAbsent) ∧
      ¬ ResponseRight (ByteMemory.write (fun _ => 0) [⟨0, bandBytes dropBand⟩])
        (fun _ => true) 8 := by
  refine ⟨fun right => ?_, fun right => absurd right.returns (by decide), fun right => ?_⟩
  · obtain ⟨datapath, meter, message, found, _, sent, parsed⟩ := right.success (by decide)
    have first : addTwoBands.found = some (_, _) := rfl
    cases Option.some.inj (first.symm.trans found)
    have counted : message.length = 32 := by
      cases Option.some.inj sent
      rfl
    unfold parseMeterMod at parsed
    split at parsed
    case isFalse => exact absurd parsed nofun
    case isTrue =>
    have size := parseAll_consumed parseBand_consumes
      ((parseAll_fuel parseBand_consumes le_rfl (by rw [length_drop]; omega)).symm.trans parsed)
    rw [length_drop, counted] at size
    exact absurd size (by decide)
  · rcases (response_right_iff _ _ _).mp right with aligned | ⟨index, failed, _⟩
    · exact absurd aligned (by decide)
    · exact absurd failed nofun

end OpenFlowController.Meter
