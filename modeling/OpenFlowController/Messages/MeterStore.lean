/-
Module: Messages.MeterStore
Purpose: The static meters of the datapaths and their bands as nested maps from ids, and the runs
  in which every operation does to the maps what it is meant to do.
Source: ofproto/src/messages/of_meter.c 32-399; ofproto/src/include/cntlr_list.h
Trusted boundary: a list of nodes is a list of entries, and the caller of a registration gives a
  record of its own, allocated with `calloc`
-/
import OpenFlowController.Library.KeyedList
import OpenFlowController.Library.Run
import OpenFlowController.Messages.MeterMod
import OpenFlowController.Utils.RefTable

namespace OpenFlowController.MeterStore

open Function Option Library Library.KeyedList Meter Utils

/-! ## Meters and bands -/

/-- `struct ofi_meter_band` in its list. -/
structure BandEntry extends OfiMeterBand where
  bandId : UInt32

/-- `struct ofi_meter_rec_info` in its list. -/
structure MeterEntry where
  meterId : UInt32
  flags : UInt16
  meterBandList : List BandEntry := []

/-- A status, or what a pointer leads to. -/
inductive Answer (M : Type) where
  | ofSuccess
  | ofFailure
  | meter (found : M)

/-- A search for something that is changed, or returned. -/
abbrev Change (α : Type) := α → Option (α × Answer MeterEntry)

/-- What `get_datapath_byhandle` makes of every handle, with the `meter_table` of a datapath that
is registered, and the depth of the read lock.  A handle with the magic number 0 and the index of
a free entry finds a null datapath with success, one with an index beyond the table reads what is
behind it. -/
structure Store where
  meterTable : UInt64 → AccessResult (List MeterEntry)
  readLock : Int

/-- None where a null pointer, or one read behind the table, is followed. -/
abbrev Outcome := Option (Store × Answer MeterEntry)

/-- The datapath and its meters are searched under the read lock. -/
def onMeters (store : Store) (datapathHandle : UInt64) (change : Change (List MeterEntry)) :
    Outcome :=
  let taken := { store with readLock := store.readLock + 1 }
  let released := { taken with readLock := taken.readLock - 1 }
  match taken.meterTable datapathHandle with
  | .invalid => some (released, .ofFailure)
  | .valid (some meters) =>
    match change meters with
    | none => some (released, .ofFailure)
    | some (meters', answer) =>
      some ({ released with
        meterTable := update released.meterTable datapathHandle (.valid (some meters')) }, answer)
  | _ => none

/-- The meters with the id are tried one after the other. -/
def onMeter (store : Store) (datapathHandle : UInt64) (meterId : UInt32)
    (change : Change MeterEntry) : Outcome :=
  onMeters store datapathHandle (tryFirst MeterEntry.meterId meterId change)

section Calls

variable (store : Store) (datapathHandle : UInt64)

def ofRegisterMeter : Option MeterEntry → Outcome
  | none => some (store, .ofFailure)
  | some meterEntry => onMeters store datapathHandle fun meters =>
    some (meters ++ [{ meterEntry with meterBandList := [] }], .ofSuccess)

def ofUpdateMeter : Option MeterEntry → Outcome
  | none => some (store, .ofFailure)
  | some meterInfo => onMeter store datapathHandle meterInfo.meterId fun meterEntry =>
    some ({ meterEntry with flags := meterInfo.flags }, .ofSuccess)

def ofGetMeter (meterId : UInt32) : Outcome :=
  onMeter store datapathHandle meterId fun meterEntry => some (meterEntry, .meter meterEntry)

def ofRegisterBandToMeter (meterId : UInt32) : Option BandEntry → Outcome
  | none => some (store, .ofFailure)
  | some bandEntry => onMeter store datapathHandle meterId fun meterEntry =>
    some ({ meterEntry with meterBandList := meterEntry.meterBandList ++ [bandEntry] }, .ofSuccess)

/-- The values that `of_update_band_in_meter` copies: all but the length. -/
def copyBand (bandInfo bandEntry : OfiMeterBand) : OfiMeterBand :=
  { bandInfo with len := bandEntry.len }

/-- Where the band is not found, the scan of the meters goes on. -/
def ofUpdateBandInMeter (meterId : UInt32) : Option BandEntry → Outcome
  | none => some (store, .ofFailure)
  | some bandInfo => onMeter store datapathHandle meterId fun meterEntry =>
    ((tryFirst BandEntry.bandId bandInfo.bandId (fun bandEntry =>
      some ({ bandEntry with
        toOfiMeterBand := copyBand bandInfo.toOfiMeterBand bandEntry.toOfiMeterBand }, ()))
      meterEntry.meterBandList).map Prod.fst).map fun bands =>
        ({ meterEntry with meterBandList := bands }, .ofSuccess)

def ofUnregisterMeter (meterId : UInt32) : Outcome :=
  onMeters store datapathHandle fun meters =>
    (eraseFirst MeterEntry.meterId meterId meters).map (·, .ofSuccess)

def ofMeterUnregisterBand (meterId bandId : UInt32) : Outcome :=
  onMeter store datapathHandle meterId fun meterEntry =>
    (eraseFirst BandEntry.bandId bandId meterEntry.meterBandList).map fun bands =>
      ({ meterEntry with meterBandList := bands }, .ofSuccess)

def ofMeterUnregisterBands (meterId : UInt32) : Outcome :=
  onMeter store datapathHandle meterId fun meterEntry =>
    some ({ meterEntry with meterBandList := [] }, .ofSuccess)

end Calls

inductive MeterOp where
  | registerMeter (meterEntry : Option MeterEntry)
  | updateMeter (meterInfo : Option MeterEntry)
  | getMeter (meterId : UInt32)
  | registerBand (meterId : UInt32) (bandEntry : Option BandEntry)
  | updateBand (meterId : UInt32) (bandInfo : Option BandEntry)
  | unregisterMeter (meterId : UInt32)
  | unregisterBand (meterId bandId : UInt32)
  | unregisterBands (meterId : UInt32)

/-- An operation on the meters of a datapath. -/
def call (store : Store) (handle : UInt64) : MeterOp → Outcome
  | .registerMeter entry => ofRegisterMeter store handle entry
  | .updateMeter info => ofUpdateMeter store handle info
  | .getMeter id => ofGetMeter store handle id
  | .registerBand id entry => ofRegisterBandToMeter store handle id entry
  | .updateBand id info => ofUpdateBandInMeter store handle id info
  | .unregisterMeter id => ofUnregisterMeter store handle id
  | .unregisterBand id bandId => ofMeterUnregisterBand store handle id bandId
  | .unregisterBands id => ofMeterUnregisterBands store handle id

def step (store : Store) (op : UInt64 × MeterOp) : Store :=
  ((call store op.1 op.2).map Prod.fst).getD store

/-! ## What the operations are for -/

abbrev Bands := UInt32 → Option OfiMeterBand

/-- A meter, and its bands by their ids. -/
structure MeterMap where
  flags : UInt16
  bands : Bands

abbrev Meters := UInt32 → Option MeterMap

abbrev Alter (β : Type) := β → Option (β × Answer MeterMap)

/-- A value is added under a key that has none. -/
def add {α : Type} (k : UInt32) (value : α) (map : UInt32 → Option α) :
    Option (UInt32 → Option α) :=
  if (map k).isSome then none else some (update map k (some value))

/-- A change of the bands of a meter. -/
def onBands (alter : Bands → Option Bands)
    (meter : MeterMap) : Option (MeterMap × Answer MeterMap) :=
  (alter meter.bands).map fun bands => ({ meter with bands := bands }, .ofSuccess)

def alterBand (k : UInt32) (alter : OfiMeterBand → OfiMeterBand) (bands : Bands) : Option Bands :=
  (change k (fun band => some (alter band, ())) bands).map Prod.fst

/-- What an operation does to the meters of its datapath, unless it fails. -/
def meant : MeterOp → Alter Meters
  | .registerMeter (some entry), meters =>
    (add entry.meterId ⟨entry.flags, fun _ => none⟩ meters).map (·, .ofSuccess)
  | .updateMeter (some info), meters =>
    change info.meterId (fun meter => some ({ meter with flags := info.flags }, .ofSuccess)) meters
  | .getMeter id, meters => change id (fun meter => some (meter, .meter meter)) meters
  | .registerBand id (some entry), meters =>
    change id (onBands (add entry.bandId entry.toOfiMeterBand)) meters
  | .updateBand id (some info), meters =>
    change id (onBands (alterBand info.bandId fun _ => info.toOfiMeterBand)) meters
  | .unregisterMeter id, meters => (remove id meters).map (·, .ofSuccess)
  | .unregisterBand id bandId, meters => change id (onBands (remove bandId)) meters
  | .unregisterBands id, meters => change id (onBands fun _ => some fun _ => none) meters
  | _, _ => none

/-- The datapath's meters are altered; an operation that fails changes nothing. -/
def alterMeters (maps : UInt64 → Option Meters) (handle : UInt64) (alter : Alter Meters) :
    (UInt64 → Option Meters) × Answer MeterMap :=
  match (maps handle).bind alter with
  | none => (maps, .ofFailure)
  | some (meters, answer) => (update maps handle (some meters), answer)

abbrev viewBands : List BandEntry → Bands :=
  KeyedList.view BandEntry.bandId BandEntry.toOfiMeterBand

def MeterEntry.view (entry : MeterEntry) : MeterMap := ⟨entry.flags, viewBands entry.meterBandList⟩

abbrev viewMeters : List MeterEntry → Meters := KeyedList.view MeterEntry.meterId MeterEntry.view

def Store.view (store : Store) (handle : UInt64) : Option Meters :=
  match store.meterTable handle with
  | .valid (some meters) => some (viewMeters meters)
  | _ => none

def Answer.view : Answer MeterEntry → Answer MeterMap
  | .ofSuccess => .ofSuccess
  | .ofFailure => .ofFailure
  | .meter found => .meter found.view

/-- The operation does to the maps what it is meant to do, and leaves the read lock as it was. -/
def Behaves (store : Store) (op : UInt64 × MeterOp) : Prop :=
  (call store op.1 op.2).map (Prod.map Store.view Answer.view) =
      some (alterMeters store.view op.1 (meant op.2)) ∧
    (step store op).readLock = store.readLock

/-! ## When they do it -/

/-- A null record is refused before the datapath is looked up. -/
def MeterOp.Refused : MeterOp → Prop
  | .registerMeter none | .updateMeter none | .registerBand _ none | .updateBand _ none => True
  | _ => False

/-- The look-up of a handle fails or leads to a datapath. -/
def Looked (store : Store) (handle : UInt64) : Prop :=
  store.meterTable handle = .invalid ∨ ∃ meters, store.meterTable handle = .valid (some meters)

/-- The id of a meter or a band that is registered is not there yet, and a band is updated with
the length it has. -/
def FitsMeters (store : Store) (op : UInt64 × MeterOp) : Prop :=
  ∀ meters, store.view op.1 = some meters →
    match op.2 with
    | .registerMeter (some entry) => meters entry.meterId = none
    | .registerBand id (some entry) =>
      ∀ meter, meters id = some meter → meter.bands entry.bandId = none
    | .updateBand id (some info) => ∀ meter band, meters id = some meter →
        meter.bands info.bandId = some band → band.len = info.len
    | _ => True

/-- A call fits the meters that it finds, and its handle does not have the magic number 0 and the
index of a free entry, nor an index beyond the table of the datapaths. -/
structure Fits (store : Store) (op : UInt64 × MeterOp) : Prop where
  looked : op.2.Refused ∨ Looked store op.1
  meters : FitsMeters store op

/-- No two bands have the same id. -/
abbrev SoundBands : List BandEntry → Prop := Keyed BandEntry.bandId fun _ => True

/-- No two meters have the same id, and no two bands of one of them. -/
abbrev SoundMeters : List MeterEntry → Prop :=
  Keyed MeterEntry.meterId fun meter => SoundBands meter.meterBandList

def Store.Sound (store : Store) : Prop :=
  ∀ handle meters, store.meterTable handle = .valid (some meters) → SoundMeters meters

section Steps

variable {store : Store} {handle : UInt64} {meters : List MeterEntry} {meter : MeterEntry}
  {meterId : UInt32} {alter : Alter Meters}

/-- A change of the meters of a datapath that does what an alteration of the map does. -/
structure Right (change : Change (List MeterEntry))
    (alter : Alter Meters) (meters : List MeterEntry) : Prop where
  agrees : (change meters).map (Prod.map viewMeters Answer.view) = alter (viewMeters meters)
  keyed : ∀ meters' answer, change meters = some (meters', answer) →
    SoundMeters meters'

/-- A change of a meter that does what an alteration of its map does. -/
structure RightAt (change : Change MeterEntry)
    (alter : Alter MeterMap) (meter : MeterEntry) : Prop where
  agrees : (change meter).map (Prod.map MeterEntry.view Answer.view) = alter meter.view
  keeps : ∀ meter' answer, change meter = some (meter', answer) →
    meter'.meterId = meter.meterId ∧ SoundBands meter'.meterBandList

variable {change : Change (List MeterEntry)}

theorem onMeters_readLock :
    ∀ result, onMeters store handle change = some result →
      result.1.readLock = store.readLock := by
  rintro result done
  rw [onMeters] at done
  split at done
  · cases done
    exact Int.add_sub_cancel _ _
  · split at done <;> cases done <;> exact Int.add_sub_cancel _ _
  · cases done

theorem call_registerMeter (entry : MeterEntry) :
    call store handle (.registerMeter (some entry)) = onMeters store handle fun meters =>
      some (meters ++ [⟨entry.meterId, entry.flags, []⟩], .ofSuccess) :=
  rfl

theorem call_readLock {op : MeterOp} :
    ∀ result, call store handle op = some result → result.1.readLock = store.readLock := by
  cases op with
  | registerMeter entry =>
    cases entry with
    | none =>
      rintro _ ⟨⟩
      rfl
    | some entry =>
      rw [call_registerMeter]
      exact onMeters_readLock
  | updateMeter entry | registerBand _ entry | updateBand _ entry =>
    cases entry with
    | none =>
      rintro _ ⟨⟩
      rfl
    | some entry => exact onMeters_readLock
  | _ => exact onMeters_readLock

/-- Every operation leaves the depth of the read lock as it was. -/
theorem step_readLock {op : UInt64 × MeterOp} : (step store op).readLock = store.readLock := by
  rw [step]
  cases called : call store op.1 op.2 with
  | none => rfl
  | some result => exact call_readLock result called

theorem view_registered (registered : store.meterTable handle = .valid (some meters)) :
    store.view handle = some (viewMeters meters) := by
  rw [Store.view, registered]

theorem view_invalid (invalid : store.meterTable handle = .invalid) : store.view handle = none := by
  rw [Store.view, invalid]

theorem view_eq_some {map : Meters} (viewed : store.view handle = some map) :
    ∃ meters, store.meterTable handle = .valid (some meters) ∧ viewMeters meters = map := by
  rw [Store.view] at viewed
  split at viewed
  · rename_i meters registered
    exact ⟨meters, registered, some.inj viewed⟩
  · cases viewed

/-- An outcome that is what an alteration of the meters of a datapath gives. -/
structure Meant (store : Store) (handle : UInt64) (alter : Alter Meters) (outcome : Outcome) :
    Prop where
  agrees : outcome.map (Prod.map Store.view Answer.view) =
    some (alterMeters store.view handle alter)
  sound : ∀ result, outcome = some result → result.1.Sound

/-- A right change of the meters is the change that is meant. -/
theorem onMeters_right (sound : store.Sound) (looked : Looked store handle)
    (right : ∀ meters, store.meterTable handle = .valid (some meters) →
      SoundMeters meters → Right change alter meters) :
    Meant store handle alter (onMeters store handle change) := by
  rw [onMeters]
  rcases looked with invalid | ⟨meters, registered⟩
  · dsimp only
    rw [invalid]
    refine ⟨?_, by rintro _ ⟨⟩; exact sound⟩
    rw [alterMeters, view_invalid invalid]
    rfl
  obtain ⟨agrees, keyed⟩ := right meters registered (sound handle meters registered)
  dsimp only
  rw [registered]
  dsimp only
  cases changed : change meters with
  | none =>
    refine ⟨?_, by rintro _ ⟨⟩; exact sound⟩
    rw [alterMeters, view_registered registered, bind_some, ← agrees, changed]
    rfl
  | some result =>
  obtain ⟨meters', answer⟩ := result
  have updated (depth : Int) :
      Store.view ⟨update store.meterTable handle (.valid (some meters')), depth⟩ =
        update store.view handle (some (viewMeters meters')) := by
    funext other
    change (match update store.meterTable handle (.valid (some meters')) other with
      | .valid (some meters) => some (viewMeters meters)
      | _ => none) = _
    by_cases here : other = handle
    · subst here
      rw [update_self, update_self]
    · rw [update_of_ne here, update_of_ne here, Store.view]
  constructor
  · rw [alterMeters, view_registered registered, bind_some, ← agrees, changed, map_some,
      Prod.map_apply, updated]
    rfl
  · rintro _ ⟨⟩ other others is
    change update store.meterTable handle (.valid (some meters')) other = _ at is
    rw [update_apply] at is
    split at is
    · cases is
      exact keyed meters' answer changed
    · exact sound other others is

theorem first_right {change : Change MeterEntry} {alter : Alter MeterMap}
    (keyed : SoundMeters meters)
    (right : ∀ meter ∈ meters, SoundBands meter.meterBandList → meter.meterId = meterId →
      RightAt change alter meter) :
    Right (tryFirst MeterEntry.meterId meterId change) (KeyedList.change meterId alter) meters where
  agrees := view_tryFirst keyed
    (fun meter member sound same meter' answer changed =>
      ((right meter member sound same).keeps meter' answer changed).1)
    (fun meter member sound same => (right meter member sound same).agrees)
  keyed _ _ done := (tryFirst_keyed keyed
    (fun meter member sound same meter' answer changed =>
      (right meter member sound same).keeps meter' answer changed) done).1

theorem meters_right {changed : List MeterEntry → Option (List MeterEntry)}
    {alter : Meters → Option Meters}
    (agrees : (changed meters).map viewMeters = alter (viewMeters meters))
    (keyed : ∀ meters', changed meters = some meters' → SoundMeters meters') :
    Right (fun meters => (changed meters).map (·, .ofSuccess))
      (fun map => (alter map).map (·, .ofSuccess)) meters where
  agrees := by
    rw [← agrees, Option.map_map, Option.map_map]
    rfl
  keyed meters' answer done := by
    obtain ⟨_, is, made⟩ := map_eq_some_iff.mp done
    cases made
    exact keyed _ is

theorem bands_right {bands : List BandEntry → Option (List BandEntry)}
    {alter : Bands → Option Bands}
    (agrees : (bands meter.meterBandList).map viewBands = alter meter.view.bands)
    (keyed : ∀ bands', bands meter.meterBandList = some bands' → SoundBands bands') :
    RightAt (fun meter => (bands meter.meterBandList).map fun bands =>
      ({ meter with meterBandList := bands }, .ofSuccess)) (onBands alter) meter where
  agrees := by
    rw [onBands, ← agrees, Option.map_map, Option.map_map]
    rfl
  keeps meter' answer changed := by
    obtain ⟨bands', is, made⟩ := map_eq_some_iff.mp changed
    cases made
    exact ⟨rfl, keyed bands' is⟩

theorem view_of_mem {α β : Type} {key : α → UInt32} {abstract : α → β} {Sound : α → Prop}
    {entries : List α} {entry : α} (keyed : Keyed key Sound entries) (member : entry ∈ entries) :
    KeyedList.view key abstract entries (key entry) = some (abstract entry) := by
  obtain ⟨front, back, rfl⟩ := List.append_of_mem member
  rw [view_cut keyed.unique, update_self]

theorem absent_of_view {α β : Type} {key : α → UInt32} {abstract : α → β} {entries : List α}
    {k : UInt32} (absent : KeyedList.view key abstract entries k = none) :
    k ∉ entries.map key := by
  rw [KeyedList.view, map_eq_none_iff, lookup, List.find?_eq_none] at absent
  simpa [List.mem_map] using absent

theorem append_right {α β : Type} {key : α → UInt32} {abstract : α → β} {entries : List α}
    {added : α} (absent : KeyedList.view key abstract entries (key added) = none) :
    (some (entries ++ [added])).map (KeyedList.view key abstract) =
      add (key added) (abstract added) (KeyedList.view key abstract entries) := by
  rw [add, absent, map_some, view_append (absent_of_view absent)]
  rfl

theorem refused (sound : store.Sound) :
    Meant store handle (fun _ => none) (some (store, Answer.ofFailure)) := by
  refine ⟨?_, by rintro _ ⟨⟩; exact sound⟩
  rw [alterMeters, Option.bind_fun_none]
  rfl

theorem updateBand_right (sound : store.Sound) (looked : Looked store handle) (info : BandEntry) :
    Meant store handle
      (KeyedList.change meterId (onBands (alterBand info.bandId (copyBand info.toOfiMeterBand))))
      (call store handle (.updateBand meterId (some info))) := by
  refine onMeters_right sound looked fun meters _ keyed => first_right keyed fun meter _ sound _ =>
    @bands_right meter (fun bands => (tryFirst BandEntry.bandId info.bandId _ bands).map Prod.fst)
      _ ?_ ?_
  · have copied := @view_tryFirst _ _ _ _ _ _ BandEntry.bandId BandEntry.toOfiMeterBand _ _
      info.bandId (fun bandEntry => some ({ bandEntry with
        toOfiMeterBand := copyBand info.toOfiMeterBand bandEntry.toOfiMeterBand }, ()))
      (fun band => some (copyBand info.toOfiMeterBand band, ())) id sound
      (by rintro _ _ _ _ _ _ ⟨⟩; rfl) (fun _ _ _ _ => rfl)
    rw [alterBand, MeterEntry.view, ← copied, Option.map_map, Option.map_map]
    rfl
  · intro bands' done
    obtain ⟨⟨_, _⟩, tried, rfl⟩ := map_eq_some_iff.mp done
    exact (tryFirst_keyed sound (by rintro _ _ _ _ _ _ ⟨⟩; exact ⟨rfl, trivial⟩) tried).1

/-- A call that fits does what is meant. -/
theorem call_right (sound : store.Sound) (op : MeterOp) (fits : Fits store (handle, op)) :
    Meant store handle (meant op) (call store handle op) := by
  obtain ⟨looked, fits⟩ := fits
  have fits := fun meters (registered : store.meterTable handle = .valid (some meters)) =>
    fits (viewMeters meters) (view_registered registered)
  cases op with
  | registerMeter entry =>
    cases entry with
    | none => exact refused sound
    | some entry =>
    rw [call_registerMeter]
    refine onMeters_right sound (looked.resolve_left not_false) fun meters registered keyed => ?_
    have absent := fits meters registered
    have added := @append_right _ _ MeterEntry.meterId MeterEntry.view meters
      ⟨entry.meterId, entry.flags, []⟩ absent
    refine @meters_right meters (fun meters => some (meters ++ [_]))
      (add entry.meterId ⟨entry.flags, fun _ => none⟩) added ?_
    rintro _ ⟨⟩
    exact keyed.append (absent_of_view absent) keyed_nil
  | updateMeter info =>
    cases info with
    | none => exact refused sound
    | some info =>
    exact onMeters_right sound (looked.resolve_left not_false) fun _ _ keyed => first_right keyed
      fun meter _ sound _ => ⟨rfl, by rintro _ _ ⟨⟩; exact ⟨rfl, sound⟩⟩
  | getMeter id =>
    exact onMeters_right sound (looked.resolve_left not_false) fun _ _ keyed => first_right keyed
      fun meter _ sound _ => ⟨rfl, by rintro _ _ ⟨⟩; exact ⟨rfl, sound⟩⟩
  | registerBand id entry =>
    cases entry with
    | none => exact refused sound
    | some entry =>
    refine onMeters_right sound (looked.resolve_left not_false) fun meters registered keyed =>
      first_right keyed fun meter member sound same => ?_
    have absent := fits meters registered meter.view (same ▸ view_of_mem keyed member)
    refine @bands_right meter (fun bands => some (bands ++ [entry])) _ (append_right absent) ?_
    rintro _ ⟨⟩
    exact sound.append (absent_of_view absent) trivial
  | updateBand id info =>
    cases info with
    | none => exact refused sound
    | some info =>
    have looked := looked.resolve_left not_false
    obtain ⟨agrees, sound'⟩ := @updateBand_right store handle id sound looked info
    refine ⟨agrees.trans (congrArg some ?_), sound'⟩
    rw [alterMeters, alterMeters]
    rcases looked with invalid | ⟨meters, registered⟩
    · rw [view_invalid invalid]
      rfl
    have fits := fits meters registered
    rw [view_registered registered, bind_some, bind_some, meant, KeyedList.change,
      KeyedList.change]
    cases here : viewMeters meters id with
    | none => rfl
    | some meter =>
    rw [bind_some, bind_some, onBands, onBands, alterBand, alterBand, KeyedList.change,
      KeyedList.change]
    cases inside : meter.bands info.bandId with
    | none => rfl
    | some band => rw [bind_some, bind_some, copyBand, fits meter band here inside]
  | unregisterMeter id =>
    exact onMeters_right sound (looked.resolve_left not_false) fun meters registered keyed =>
      meters_right (view_eraseFirst keyed) fun meters' erased => eraseFirst_keyed keyed erased
  | unregisterBand id bandId =>
    exact onMeters_right sound (looked.resolve_left not_false) fun _ _ keyed => first_right keyed
      fun meter _ sound _ => bands_right (view_eraseFirst sound)
        fun bands' is => eraseFirst_keyed sound is
  | unregisterBands id =>
  exact onMeters_right sound (looked.resolve_left not_false) fun _ _ keyed => first_right keyed
    fun meter _ sound _ => @bands_right meter (fun _ => some []) _ rfl
      (by rintro _ ⟨⟩; exact keyed_nil)

theorem tryFirst_done {try_ : MeterEntry → MeterEntry} {map : MeterMap}
    (found : viewMeters meters meterId = some map) :
    ∃ meters', tryFirst MeterEntry.meterId meterId (fun meter =>
      some (try_ meter, (Answer.ofSuccess : Answer MeterEntry))) meters =
        some (meters', .ofSuccess) := by
  induction meters with
  | nil => cases found
  | cons meter rest ih =>
  rw [tryFirst]
  by_cases here : meter.meterId = meterId
  · rw [if_pos here]
    exact ⟨_, rfl⟩
  · rw [viewMeters, view_cons, if_neg here] at found
    obtain ⟨rest', done⟩ := ih found
    rw [if_neg here, done]
    exact ⟨_, rfl⟩

/-- A call that does not follow a pointer into nowhere was refused or looked up its handle. -/
theorem looked_of_call {op : MeterOp} {result : Store × Answer MeterEntry}
    (called : call store handle op = some result) : op.Refused ∨ Looked store handle := by
  have searched {change : Change (List MeterEntry)}
      (done : onMeters store handle change = some result) : Looked store handle := by
    rw [onMeters] at done
    split at done
    · rename_i invalid
      exact .inl invalid
    · rename_i meters registered
      exact .inr ⟨meters, registered⟩
    · cases done
  cases op with
  | registerMeter entry =>
    cases entry with
    | none => exact .inl trivial
    | some entry =>
      rw [call_registerMeter] at called
      exact .inr (searched called)
  | updateMeter entry | registerBand _ entry | updateBand _ entry =>
    cases entry with
    | none => exact .inl trivial
    | some entry => exact .inr (searched called)
  | _ => exact .inr (searched called)

/-- A call that does what is meant fits. -/
theorem fits_of_behaves {op : MeterOp} (sound : store.Sound)
    (done : (call store handle op).map (Prod.map Store.view Answer.view) =
      some (alterMeters store.view handle (meant op))) : Fits store (handle, op) := by
  obtain ⟨result, called, -⟩ := map_eq_some_iff.mp done
  refine ⟨looked_of_call called, ?_⟩
  intro maps viewed
  obtain ⟨meters, registered, rfl⟩ := view_eq_some viewed
  rw [alterMeters, viewed, bind_some] at done
  cases op with
  | registerMeter entry =>
    cases entry with
    | none => trivial
    | some entry =>
    by_contra present
    rw [meant, add, if_pos (ne_none_iff_isSome.mp present)] at done
    have answered := congrArg (Option.map Prod.snd) done
    rw [call, ofRegisterMeter, onMeters] at answered
    dsimp only at answered
    rw [registered] at answered
    cases answered
  | registerBand id entry =>
    cases entry with
    | none => trivial
    | some entry =>
    intro meter here
    by_contra present
    rw [meant, KeyedList.change, here, bind_some, onBands, add,
      if_pos (ne_none_iff_isSome.mp present)] at done
    have answered := congrArg (Option.map Prod.snd) done
    obtain ⟨meters', tried⟩ := tryFirst_done here
    rw [call, ofRegisterBandToMeter, onMeter, onMeters] at answered
    dsimp only at answered
    rw [registered] at answered
    dsimp only at answered
    rw [tried] at answered
    cases answered
  | updateBand id info =>
    cases info with
    | none => trivial
    | some info =>
    intro meter band here inside
    have copied := (@updateBand_right store handle id sound (.inr ⟨meters, registered⟩) info).agrees
    rw [alterMeters, viewed, bind_some] at copied
    have same := congrArg (fun result => ((result.1 handle).bind fun meters =>
      (meters id).bind fun meter => meter.bands info.bandId)) (some.inj (copied.symm.trans done))
    simp [meant, KeyedList.change, here, onBands, alterBand, inside, copyBand] at same
    rw [← same]
  | _ => trivial

end Steps

/-- The datapaths of a table, without meters. -/
def initial {α : Type} (datapaths : RefTable α) (readLock : Int) : Store where
  meterTable handle := (datapaths.access (.ofHandle handle)).map fun _ => []
  readLock := readLock

theorem initial_sound {α : Type} (datapaths : RefTable α) (readLock : Int) :
    (initial datapaths readLock).Sound := by
  intro handle meters is
  change (datapaths.access (.ofHandle handle)).map (fun _ => []) = _ at is
  generalize datapaths.access (.ofHandle handle) = found at is
  rcases found with _ | _ | _ | block
  · cases is
  · cases is
  · cases is
  · cases is
    exact keyed_nil

/-- In every run, the operations do what they are meant to do exactly as long as the ids of what
is registered are new, no update changes the length of a band, and no handle has the magic number
0 of a free entry or an index beyond the table. -/
theorem meter_store_maps_iff {α : Type} (datapaths : RefTable α) (readLock : Int)
    (ops : List (UInt64 × MeterOp)) :
    Along step Behaves (initial datapaths readLock) ops ↔
      Along step Fits (initial datapaths readLock) ops :=
  (@Along.iff_of_invariant _ _ step Fits Behaves Store.Sound
    (fun store op sound fits => by
      have right := call_right sound op.2 fits
      rw [step]
      cases called : call store op.1 op.2 with
      | none => exact sound
      | some result => exact right.sound result called)
    (fun _ op sound => ⟨fun fits => ⟨(call_right sound op.2 fits).agrees, step_readLock⟩,
      fun behaves => fits_of_behaves sound behaves.1⟩) _ _
    (initial_sound datapaths readLock)).symm

/-- A second meter with the id 5 is registered at the datapath in entry 0. -/
theorem second_meter_registered :
    ¬ Along step Behaves (initial ((RefTable.create ⟨4, four_bounds⟩).append ()).1 0)
      [(0x100000000, .registerMeter (some ⟨5, 1, []⟩)),
        (0x100000000, .registerMeter (some ⟨5, 2, []⟩))] := by
  rintro ⟨-, ⟨done, -⟩, -⟩
  cases congrArg (Option.map Prod.snd) done

end OpenFlowController.MeterStore
