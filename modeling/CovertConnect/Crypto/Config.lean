import CovertConnect.Crypto.Kdf

namespace CovertConnect.Crypto

open CovertConnect.Data

structure DataPadding where
  max : UInt16
  rate : UInt8
deriving DecidableEq, Repr

def DataPadding.needed (padding : DataPadding) : Bool :=
  padding.max > 0 && padding.rate > 0

/-- `Range<u16>`: the end is excluded, and nothing makes it non-empty. -/
structure PaddingRange where
  start : UInt16
  stop : UInt16
deriving DecidableEq, Repr

structure ProtocolConfig where
  key : String
  kdf : Kdf
  cipher : CipherType
  maxConnectDelay : UInt16
  headerPadding : PaddingRange
  dataPadding : DataPadding
  /-- `usize` on a 64-bit platform. -/
  encryptionLimit : UInt64
deriving DecidableEq, Repr

/-- `MIN_HOST_LEN`: a host length is sent as one byte, less this. -/
def minHostLen : Nat := 4

def getProtocolMaxConnectDelay : Nat := 30000

end CovertConnect.Crypto
