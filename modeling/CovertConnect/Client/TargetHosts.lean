import CovertConnect.Client.Packets

namespace CovertConnect.Client

open CovertConnect.Data CovertConnect.Data.Exec
open CovertConnect.Crypto CovertConnect.Crypto.Connection

/-! # Target hosts of any length

A byte of the header has the length of the host less four, so that hosts of 4
to 259 bytes fit; nothing compares the length with that. -/

/-- A host as `get_ttfb` makes one of a domain. -/
def ttfbHost (domain : String) : String := domain ++ ":80"

section Refusal

variable [Aead] [Hashes]

/-- Whatever the stream to the server does, the call fails before it writes. -/
def Refuses (build : Build) (protocol : ProtocolConfig) (host : String) (now : Int) : Prop :=
  ∀ (S R : Type) [Socket S] [Rng R] (connection : Connection S R), ∃ error after,
    processTunnel build protocol host now connection = (.err error, after) ∧
      after.stream = connection.stream

omit [Aead] in
theorem deriveKeyFromTimestamp_fails_iff {kdf : Kdf} {key : Bytes} {timestamp : Int} :
    (∃ message, kdf.deriveKeyFromTimestamp key timestamp = .error message) ↔
      kdf = .argon2 ∧ 0xFFFFFFFF < key.length := by
  have saltLength := Hashes.blake2b512_length (i64Bytes timestamp ++ timeSalt)
  cases kdf with
  | blake3 =>
      refine iff_of_false ?_ ?_
      · intro given
        obtain ⟨_, same⟩ := given
        cases same
      · intro given
        cases given.1
  | argon2 =>
      rw [Kdf.deriveKeyFromTimestamp, Kdf.deriveKey]
      by_cases long : 0xFFFFFFFF < key.length
      · rw [if_pos long]
        exact iff_of_true ⟨_, rfl⟩ ⟨rfl, long⟩
      · rw [if_neg long, if_neg (by omega), if_neg (by omega)]
        refine iff_of_false ?_ (fun given => long given.2)
        intro given
        obtain ⟨_, same⟩ := given
        cases same

omit [Aead] [Hashes] in
theorem hostLenByte_not_err {ε : Type} (build : Build) (host : String) (error : ε) :
    (hostLenByte build host : Outcome ε UInt8) ≠ .err error := by
  unfold hostLenByte
  split
  · exact nofun
  · cases build with
    | debug => exact nofun
    | release => exact nofun

/-- A packet fails for its key, and for nothing else. -/
theorem tunnelPacket_err {S R : Type} [Rng R] {build : Build} {protocol : ProtocolConfig}
    {host : String} {now : Int} {connection after : Connection S R} {error : Error}
    (run : tunnelPacket build protocol host now connection = (.err error, after)) :
    protocol.maxConnectDelay.toNat ≠ 0 ∧ ∃ message,
      protocol.kdf.deriveKeyFromTimestamp (utf8Bytes protocol.key)
        (now.tdiv protocol.maxConnectDelay.toNat) = .error message := by
  have start := run
  rw [tunnelPacket] at run
  simp only [CipherType.keySize, CipherType.nonceSize] at run
  rw [bind_ok (fillBytes_ok _)] at run
  by_cases zero : protocol.maxConnectDelay.toNat = 0
  · rw [divide, if_pos zero, abort_bind] at run
    cases run
  refine ⟨zero, ?_⟩
  rw [divide_pos zero, pure_bind] at run
  cases derived : protocol.kdf.deriveKeyFromTimestamp (utf8Bytes protocol.key)
      (now.tdiv protocol.maxConnectDelay.toNat) with
  | error message => exact ⟨message, rfl⟩
  | ok headerKey =>
      have keySize := Kdf.deriveKeyFromTimestamp_length derived
      rw [derive, derived, Outcome.ofExcept, lift_ok_bind, bind_ok (fillBytes_ok _),
        Cipher.newWithNonce_sized keySize (Rng.fillBytes_length _ _), lift_ok_bind] at run
      by_cases filled : protocol.headerPadding.start.toNat < protocol.headerPadding.stop.toNat
      · rw [bind_ok (genRange_ok filled)] at run
        cases sized : (hostLenByte build host : Outcome Error UInt8) with
        | ok hostLen =>
            rw [tunnelPacket_ok zero derived filled sized] at start
            cases start
        | err error => exact absurd sized (hostLenByte_not_err build host error)
        | panic reason =>
            rw [sized] at run
            cases run
      · rw [bind_apply, genRange, if_neg filled] at run
        cases run

/-- A packet that can be made is written. -/
theorem processTunnel_writes {build : Build} {protocol : ProtocolConfig} {host : String} {now : Int}
    {connection sent : Connection Loaded Unit} {packet : TunnelPacket}
    (packed : tunnelPacket build protocol host now connection = (.ok packet, sent)) :
    ∃ stream after, processTunnel build protocol host now connection = (.ok stream, after) := by
  obtain ⟨ciphers, made⟩ := tunnelPacket_ciphers packed
  let written : Connection Loaded Unit := { sent with stream := sent.stream.write packet.bytes }
  have write : (io (Socket.writeAll · packet.bytes) : Exec (Connection Loaded Unit) Error Unit) sent =
      (.ok (), written) := rfl
  have flush : (io Socket.flush : Exec (Connection Loaded Unit) Error Unit) written =
      (.ok (), written) := rfl
  rw [processTunnel, bind_ok packed, bind_ok write, bind_ok flush]
  dsimp only
  rw [made]
  exact ⟨_, _, rfl⟩

omit [Aead] [Hashes] in
/-- The length of a host that does not fit underflows, or is reduced. -/
theorem hostLenByte_outside {ε : Type} (build : Build) {host : String}
    (outside : strLen host < 4 ∨ 259 < strLen host) :
    (hostLenByte build host : Outcome ε UInt8) = .panic "attempt to subtract with overflow" ∨
      ∃ byte, (hostLenByte build host : Outcome ε UInt8) = .ok byte ∧
        byte.toNat = (strLen host + 252) % 256 ∧ byte.toNat + minHostLen ≠ strLen host := by
  have least : minHostLen = 4 := rfl
  by_cases long : minHostLen ≤ strLen host
  · refine .inr ⟨_, if_pos long, ?_⟩
    rw [UInt8.toNat_ofNat']
    omega
  · cases build with
    | debug => exact .inl (if_neg long)
    | release =>
        refine .inr ⟨_, if_neg long, ?_⟩
        rw [UInt8.toNat_ofNat']
        omega

/-- A host that does not fit is refused only where no header can be made for
any host; else its length goes out reduced, or the call panics. -/
theorem processTunnel_refuses_iff {build : Build} {protocol : ProtocolConfig} {host : String}
    {now : Int} (outside : strLen host < 4 ∨ 259 < strLen host) :
    (Refuses build protocol host now ↔ protocol.maxConnectDelay.toNat ≠ 0 ∧
      protocol.kdf = .argon2 ∧ 0xFFFFFFFF < (utf8Bytes protocol.key).length) ∧
    ((hostLenByte build host : Outcome Error UInt8) = .panic "attempt to subtract with overflow" ∨
      ∃ byte, (hostLenByte build host : Outcome Error UInt8) = .ok byte ∧
        byte.toNat = (strLen host + 252) % 256 ∧ byte.toNat + minHostLen ≠ strLen host) := by
  refine ⟨?_, hostLenByte_outside build outside⟩
  rw [← @deriveKeyFromTimestamp_fails_iff _ _ _ (now.tdiv protocol.maxConnectDelay.toNat)]
  constructor
  · intro refuses
    obtain ⟨error, after, run, _⟩ := refuses Loaded Unit ⟨⟨[], []⟩, (), []⟩
    rcases packed : tunnelPacket build protocol host now
        (⟨⟨[], []⟩, (), []⟩ : Connection Loaded Unit) with ⟨packet | error' | reason, sent⟩
    · obtain ⟨stream, written, writes⟩ := processTunnel_writes packed
      cases run.symm.trans writes
    · exact tunnelPacket_err packed
    · rw [processTunnel, bind_apply, packed] at run
      cases run
  · intro given
    obtain ⟨positive, message, failed⟩ := given
    intro S R _ _ connection
    have packed : tunnelPacket build protocol host now connection =
        (.err (.anyhow message), { connection with
          rng := (Rng.fillBytes connection.rng protocol.cipher.keySize).2 }) := by
      rw [tunnelPacket]
      dsimp only
      rw [bind_ok (fillBytes_ok _), divide_pos positive, pure_bind, derive, failed,
        Outcome.ofExcept, lift_err_bind]
      rfl
    refine ⟨.anyhow message, { connection with
      rng := (Rng.fillBytes connection.rng protocol.cipher.keySize).2 }, ?_, rfl⟩
    rw [processTunnel]
    exact bind_err packed _

end Refusal

def sampleProtocol : ProtocolConfig where
  key := "key"
  kdf := .blake3
  cipher := .aes256Gcm
  maxConnectDelay := 10000
  headerPadding := ⟨50, 777⟩
  dataPadding := ⟨255, 20⟩
  encryptionLimit := 0

def tunnelTo (build : Build) (host : String) :
    Outcome Error (EncryptedStream Loaded Unit) × Connection Loaded Unit :=
  @processTunnel Loaded Unit Aead.tagging Hashes.folding _ _ build sampleProtocol host 0
    ⟨⟨[], []⟩, (), []⟩

/-- A header for a host of 259 bytes goes out in one build, and the other one
panics. -/
theorem processTunnel_short_host : strLen "a:1" = 3 ∧
    (hostLenByte .release "a:1" : Outcome Error UInt8) = .ok 255 ∧
    (tunnelTo .release "a:1").1.isOk = true ∧
    (tunnelTo .release "a:1").2.stream.outgoing.length = 132 ∧
    (tunnelTo .debug "a:1").1.panicReason = some "attempt to subtract with overflow" := by
  decide +kernel

/-- The host of a domain with 257 characters. -/
theorem ttfbHost_not_refused : ¬ @Refuses Aead.tagging Hashes.folding .release sampleProtocol
    (ttfbHost (String.ofList (List.replicate 257 'a'))) 0 := by
  let _ := Aead.tagging
  let _ := Hashes.folding
  have long : 259 < strLen (ttfbHost (String.ofList (List.replicate 257 'a'))) := by decide +kernel
  have only : Refuses .release sampleProtocol _ 0 ↔ _ := (processTunnel_refuses_iff (.inr long)).1
  exact fun refuses => nomatch (only.mp refuses).2.1

end CovertConnect.Client
