/-
Module: Include.MeterFormat
Purpose: The modification of a meter with its bands, as it lies on the wire, and a parser
  for it.
Source: ofproto/src/include/openflow.h (struct ofp_meter_mod, struct ofp_meter_band_drop,
  struct ofp_meter_band_dscp_remark)
Trusted boundary: bands of an experimenter are left out
-/
import OpenFlowController.Include.FslxFormat

namespace OpenFlowController.Include

open Library

/-- A band of a meter.  A band that drops packets has no precedence level, which counts as
zero. -/
structure WireBand where
  type : UInt16
  rate : UInt32
  burstSize : UInt32
  precLevel : UInt8

namespace Ofpmbt

/-- `enum ofp_meter_band_type`. -/
def drop : UInt16 := 1
def dscpRemark : UInt16 := 2

end Ofpmbt

/-- The size of the structure of a band. -/
def bandSize : Nat := 16

/-- A band, and what follows it. -/
def parseBand (bytes : List UInt8) : Option (WireBand × List UInt8) :=
  if bandSize ≤ bytes.length ∧ netNat (fieldAt bytes 2 2) = bandSize then
    let type := word16 (fieldAt bytes 0 2)
    let rate := word32 (fieldAt bytes 4 4)
    let burstSize := word32 (fieldAt bytes 8 4)
    if type = Ofpmbt.drop then some (⟨type, rate, burstSize, 0⟩, bytes.drop bandSize)
    else if type = Ofpmbt.dscpRemark then
      some (⟨type, rate, burstSize, byteAt bytes 12⟩, bytes.drop bandSize)
    else none
  else none

/-- The bands of an `OFPT_METER_MOD`. -/
def parseMeterMod (bytes : List UInt8) : Option (List WireBand) :=
  if byteAt bytes 0 = 4 ∧ byteAt bytes 1 = 29 ∧ netNat (fieldAt bytes 2 2) = bytes.length ∧
      16 ≤ bytes.length then
    parseAll parseBand bytes.length (bytes.drop 16)
  else none

theorem parseBand_consumes : Consumes parseBand fun _ => bandSize := by
  intro bytes band rest read
  unfold parseBand at read
  split at read
  case isFalse => exact absurd read nofun
  case isTrue long =>
  simp only at read
  split at read
  · cases read
    exact ⟨Nat.succ_pos 15, long.1, rfl⟩
  · split at read
    · cases read
      exact ⟨Nat.succ_pos 15, long.1, rfl⟩
    · exact absurd read nofun

end OpenFlowController.Include
