/-
Module: Include.Openflow
Purpose: The protocol constants that the modelled code compares with, the byte order of the host,
  what it reads from bytes of the wire, and the conversions from network order.
Source: ofproto/src/include/openflow.h; ofproto/src/include/controller.h (ntohll); netinet/in.h
Trusted boundary: none
-/
import OpenFlowController.Library.BigEndian

namespace OpenFlowController.Include

/-- The byte order in which the host keeps a `uint16_t`. -/
inductive ByteOrder where
  | littleEndian
  | bigEndian
deriving DecidableEq

/-- `ntohs` on a field that was copied from the wire as it stands. -/
def ntohs (host : ByteOrder) (field : UInt16) : UInt16 :=
  match host with
  | .littleEndian => (field <<< 8) ||| (field >>> 8)
  | .bigEndian => field

/-! ## `enum ofp_type` -/

namespace Ofpt

def hello : UInt8 := 0
def error : UInt8 := 1
def echoRequest : UInt8 := 2
def echoReply : UInt8 := 3
def experimenter : UInt8 := 4
def featuresReply : UInt8 := 6
def getConfigRequest : UInt8 := 7
def getConfigReply : UInt8 := 8
def packetIn : UInt8 := 10
def flowRemoved : UInt8 := 11
def portStatus : UInt8 := 12
def groupMod : UInt8 := 15
def multipartRequest : UInt8 := 18
def multipartReply : UInt8 := 19
def barrierRequest : UInt8 := 20
def barrierReply : UInt8 := 21
def queueGetConfigReply : UInt8 := 23
def roleRequest : UInt8 := 24
def roleReply : UInt8 := 25
def getAsyncRequest : UInt8 := 26
def getAsyncReply : UInt8 := 27
def meterMod : UInt8 := 29

end Ofpt

/-! ## `enum ofp_multipart_types` -/

namespace Ofpmp

def desc : UInt16 := 0
def flow : UInt16 := 1
def aggregate : UInt16 := 2
def table : UInt16 := 3
def portStats : UInt16 := 4
def queue : UInt16 := 5
def group : UInt16 := 6
def groupDesc : UInt16 := 7
def groupFeatures : UInt16 := 8
def meter : UInt16 := 9
def meterConfig : UInt16 := 10
def meterFeatures : UInt16 := 11
def tableFeatures : UInt16 := 12
def portDesc : UInt16 := 13
def experimenter : UInt16 := 0xffff

end Ofpmp

open Library

/-- The number that the host reads where these bytes lie. -/
def load (host : ByteOrder) (bytes : List UInt8) : Nat :=
  match host with
  | .littleEndian => netNat bytes.reverse
  | .bigEndian => netNat bytes

/-- `ntohs`, `ntohl` and `ntohll`, for `width` 2, 4 and 8, and the conversions back. -/
def ntoh (host : ByteOrder) (width value : Nat) : Nat :=
  match host with
  | .littleEndian => netNat (netBytes width value).reverse
  | .bigEndian => value

theorem ntoh_load {host : ByteOrder} {bytes : List UInt8} {width : Nat}
    (whole : bytes.length = width) : ntoh host width (load host bytes) = netNat bytes := by
  cases host with
  | bigEndian => rfl
  | littleEndian =>
  have reversed := netBytes_netNat bytes.reverse
  rw [List.length_reverse, whole] at reversed
  rw [ntoh, load, reversed, List.reverse_reverse]

variable {high low : List UInt8}

theorem ntoh_low_littleEndian (two : high.length = 2) :
    ntoh .littleEndian 2 (load .littleEndian (high ++ low) % 2 ^ 16) = netNat high := by
  have whole : load .littleEndian (high ++ low) % 2 ^ 16 = load .littleEndian high := by
    have short : netNat high.reverse < 256 ^ high.reverse.length := netNat_lt _
    rw [List.length_reverse, two] at short
    rw [load, load, List.reverse_append, netNat_append, List.length_reverse, two]
    omega
  rw [whole, ntoh_load two]

theorem ntoh_low_bigEndian (two : low.length = 2) :
    ntoh .bigEndian 2 (load .bigEndian (high ++ low) % 2 ^ 16) = netNat low := by
  have short : netNat low < 256 ^ low.length := netNat_lt _
  rw [two] at short
  rw [ntoh, load, netNat_append, two]
  omega

end OpenFlowController.Include
