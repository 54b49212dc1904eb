import CovertConnect.Server.Opening

namespace CovertConnect.Server

open CovertConnect.Data CovertConnect.Data.Exec
open CovertConnect.Crypto CovertConnect.Crypto.Connection

/-! # The responses that the server sends

The header and the body of a response are each sealed twice, and the nonces of
the body are those of the header moved on by one. -/

variable {S R : Type} [Rng R]

/-- The draws for one response. -/
structure ResponseDraws (R : Type) where
  beginSize : Nat
  endSize : Nat
  begin : Bytes
  padding : Bytes
  rng : R

def ResponseDraws.from (rng : R) : ResponseDraws R :=
  let beginSize := Rng.genRange rng 77 777
  let endSize := Rng.genRange beginSize.2 77 777
  let begin := Rng.fillBytes endSize.2 beginSize.1
  let padding := Rng.fillBytes begin.2 endSize.1
  { beginSize := beginSize.1
    endSize := endSize.1
    begin := begin.1
    padding := padding.1
    rng := padding.2 }

namespace ResponseDraws

variable {rng : R}

theorem beginSize_lt : (ResponseDraws.from rng).beginSize < 777 :=
  (Rng.genRange_bounds _ _ _ (by decide)).2

theorem endSize_lt : (ResponseDraws.from rng).endSize < 777 :=
  (Rng.genRange_bounds _ _ _ (by decide)).2

theorem begin_length : (ResponseDraws.from rng).begin.length = (ResponseDraws.from rng).beginSize :=
  Rng.fillBytes_length _ _

theorem padding_length :
    (ResponseDraws.from rng).padding.length = (ResponseDraws.from rng).endSize :=
  Rng.fillBytes_length _ _

end ResponseDraws

variable [Aead]

/-- The four records of a response, in the order in which they are sealed. -/
structure Response where
  headerAes : SealRecord
  headerCha : SealRecord
  bodyAes : SealRecord
  bodyCha : SealRecord
deriving DecidableEq

namespace Response

def records (response : Response) : List SealRecord :=
  [response.headerAes, response.headerCha, response.bodyAes, response.bodyCha]

def bytes (response : Response) : Bytes :=
  response.headerCha.bytes ++ response.bodyCha.bytes

def events (response : Response) : List ConnectionEvent :=
  response.records.map .sealed

end Response

def responseOf (protocol : ProtocolConfig) (ciphers : Cipher × Cipher) (draws : ResponseDraws R) :
    Response :=
  let headerAes := ciphers.1.record (beBytes 2 draws.beginSize ++ beBytes 2 draws.endSize)
  let bodyAes := (ciphers.1.incNonce 1).record (draws.begin ++ (payload protocol ++ draws.padding))
  { headerAes
    headerCha := ciphers.2.record headerAes.bytes
    bodyAes
    bodyCha := (ciphers.2.incNonce 1).record bodyAes.bytes }

variable [Hashes]

theorem specialResponse_ok {protocol : ProtocolConfig} {salt : Bytes}
    {connection : Connection S R} {ciphers : Cipher × Cipher}
    (derived : responseCiphers (utf8Bytes protocol.key) salt = .ok ciphers) :
    specialResponse protocol salt connection =
      let draws := ResponseDraws.from connection.rng
      (.ok (responseOf protocol ciphers draws).bytes, { connection with
        rng := draws.rng
        history := connection.history ++ (responseOf protocol ciphers draws).events }) := by
  rw [specialResponse, bind_ok (genRange_ok (by decide)), bind_ok (genRange_ok (by decide)),
    derived, lift_ok_bind]
  dsimp only
  rw [bind_ok (encrypt_whole _ _)]
  dsimp only
  rw [bind_ok (encrypt_whole _ _)]
  dsimp only
  rw [bind_ok (fillBytes_ok _), bind_ok (fillBytes_ok _)]
  dsimp only
  rw [List.append_assoc, List.append_assoc, bind_ok (encrypt_ok _ _ rfl)]
  dsimp only
  rw [bind_ok (encrypt_ok _ _ rfl)]
  simp only [List.append_assoc]
  rfl

end CovertConnect.Server
