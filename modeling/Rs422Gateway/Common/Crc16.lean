import Mathlib

/-!
# CRC-16/CCITT-FALSE

Rendering of `common/crc16.c`. The same file is compiled into the gateway firmware, the remote
node firmware and the host clients. The data pointer and its length are one list here, so the
branch for a NULL pointer with a non-zero length (`crc16.c:7-10`) has no input.
-/

namespace Rs422Gateway

/-- One turn of the bit loop of `crc16_ccitt_false` (`crc16.c:16-26`). -/
def crc16Bit (crc : UInt16) : UInt16 :=
  if crc &&& 0x8000 != 0 then (crc <<< 1) ^^^ 0x1021 else crc <<< 1

/-- One turn of the byte loop of `crc16_ccitt_false` (`crc16.c:12-27`). -/
def crc16Byte (crc : UInt16) (byte : UInt8) : UInt16 :=
  crc16Bit^[8] (crc ^^^ (byte.toUInt16 <<< 8))

/-- `crc16_ccitt_false` (`crc16.c:3-30`): initial value `0xFFFF`, no reflection, no final xor. -/
def crc16CcittFalse (data : List UInt8) : UInt16 :=
  data.foldl crc16Byte 0xFFFF

/-- The standard check value of the algorithm (`crc16.h`, `protocol_v1.md` section 8.1). -/
example : crc16CcittFalse [0x31, 0x32, 0x33, 0x34, 0x35, 0x36, 0x37, 0x38, 0x39] = 0x29B1 := by
  decide +kernel

end Rs422Gateway
