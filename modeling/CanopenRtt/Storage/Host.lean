import CanopenRtt.Support.HostOrder
/-!
# The target under the storage backends

The backends use `crc16_ccitt` of the stack and the byte order of the target.
-/

namespace CanopenRtt.Storage

open Support

/-- `crc16_ccitt` and the byte order of the host. -/
structure Host where
  crc16 : List Byte → BitVec 16 → BitVec 16
  bigEndian : Bool

/-- One bit of the CRC-16 with polynomial `0x1021`. -/
def crcBit (crc : BitVec 16) : BitVec 16 :=
  if crc.msb then (crc <<< 1) ^^^ 0x1021 else crc <<< 1

def crcByte (crc : BitVec 16) (byte : Byte) : BitVec 16 :=
  Nat.repeat crcBit 8 (crc ^^^ (byte.setWidth 16 <<< 8))

/-- A little-endian host with the CRC-16 of CCITT. -/
def Host.ccitt : Host where
  crc16 bytes seed := bytes.foldl crcByte seed
  bigEndian := false

/-- The CRC tells apart the payloads of one length that occur. -/
def Host.Separates (host : Host) (Occurs : List Byte → Prop) : Prop :=
  ∀ p q, Occurs p → Occurs q → p.length = q.length → host.crc16 p 0 = host.crc16 q 0 → p = q

end CanopenRtt.Storage
