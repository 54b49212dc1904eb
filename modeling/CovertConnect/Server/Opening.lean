import CovertConnect.Server.Tunnel

namespace CovertConnect.Server

open CovertConnect.Data CovertConnect.Data.Exec
open CovertConnect.Crypto CovertConnect.Crypto.Connection
open CovertConnect.Client (SocketAddr)

/-! # How headers are opened

A header has fixed sizes, so that it can be cut into its fields as soon as it
is open; what the server does with a first read is decided by its front. -/

section Opening

variable [Aead] [Hashes]

/-- What a header is once it is open: sealed under the key of its bucket or of
the bucket before, with the tag still behind the plaintext. -/
structure Opened (kind : CipherType) (kdf : Kdf) (key : Bytes) (timestampForKey : Int)
    (nonce header : Bytes) (cipher : Cipher) (plain buffer : Bytes) : Prop where
  bucket : ∃ timestamp, (timestamp = timestampForKey ∨ timestamp = timestampForKey - 1) ∧
    kdf.deriveKeyFromTimestamp key timestamp = .ok cipher.key
  kind : cipher.kind = kind
  nonce : cipher.nonce.bytes = nonce
  opened : Aead.openRecord cipher.kind cipher.key cipher.nonce header = some plain
  buffer : buffer = plain ++ header.drop (header.length - 16)

theorem Opened.keySize {kind : CipherType} {kdf : Kdf} {key nonce header plain buffer : Bytes}
    {timestampForKey : Int} {cipher : Cipher}
    (open' : Opened kind kdf key timestampForKey nonce header cipher plain buffer) :
    cipher.key.length = 32 := by
  obtain ⟨timestamp, _, derived⟩ := open'.bucket
  exact Kdf.deriveKeyFromTimestamp_length derived

theorem Opened.plainSize {kind : CipherType} {kdf : Kdf} {key nonce header plain buffer : Bytes}
    {timestampForKey : Int} {cipher : Cipher}
    (open' : Opened kind kdf key timestampForKey nonce header cipher plain buffer) :
    plain.length + 16 = header.length :=
  (Aead.openRecord_length open'.opened).symm

/-- One attempt, with the key of one bucket. -/
theorem attempt_cases (kind : CipherType) (kdf : Kdf) (key : Bytes) {nonce : Bytes} (header : Bytes)
    (timestamp : Int) (sized : nonce.length = 12) :
    (∃ message, kdf.deriveKeyFromTimestamp key timestamp = .error message) ∨
      ∃ cipher : Cipher, kdf.deriveKeyFromTimestamp key timestamp = .ok cipher.key ∧
        cipher.kind = kind ∧ cipher.nonce.bytes = nonce ∧
        (∀ {ε : Type}, (Cipher.newWithNonce kind cipher.key nonce : Outcome ε Cipher) = .ok cipher) ∧
        ((∃ plain, Aead.openRecord cipher.kind cipher.key cipher.nonce header = some plain ∧
            cipher.decrypt header = (true, plain ++ header.drop (header.length - 16))) ∨
          ∃ left, Aead.openRecord cipher.kind cipher.key cipher.nonce header = none ∧
            cipher.decrypt header = (false, left)) := by
  cases derived : kdf.deriveKeyFromTimestamp key timestamp with
  | error message => exact .inl ⟨message, rfl⟩
  | ok headerKey =>
      have keySize := Kdf.deriveKeyFromTimestamp_length derived
      let cipher : Cipher :=
        { kind, key := headerKey, nonce := ⟨nonce, sized⟩, sealed := [], advanced := 0 }
      have built : ∀ {ε : Type},
          (Cipher.newWithNonce kind cipher.key nonce : Outcome ε Cipher) = .ok cipher :=
        Cipher.newWithNonce_sized keySize sized
      refine .inr ⟨cipher, rfl, rfl, rfl, built, ?_⟩
      cases opened : Aead.openRecord cipher.kind cipher.key cipher.nonce header with
      | some plain => exact .inl ⟨plain, rfl, Cipher.decrypt_some opened⟩
      | none => exact .inr ⟨_, rfl, Cipher.decrypt_none opened⟩

/-- Every way that opening a header can end. -/
theorem openHeader_cases (kind : CipherType) (kdf : Kdf) (key : Bytes) {nonce : Bytes}
    (header : Bytes) (timestampForKey : Int) (sized : nonce.length = 12) :
    (∃ error, openHeader kind kdf key timestampForKey nonce header = .err error) ∨
      openHeader kind kdf key timestampForKey nonce header = .ok none ∨
      ∃ cipher plain buffer,
        openHeader kind kdf key timestampForKey nonce header = .ok (some (cipher, buffer)) ∧
          Opened kind kdf key timestampForKey nonce header cipher plain buffer := by
  rcases attempt_cases kind kdf key header timestampForKey sized with
    ⟨message, failed⟩ | ⟨cipher, derived, kindEq, nonceEq, built, attempt⟩
  · exact .inl ⟨_, by rw [openHeader, failed]; rfl⟩
  rcases attempt with ⟨plain, opened, decrypted⟩ | ⟨left, closed, decrypted⟩
  · refine .inr (.inr ⟨cipher, plain, _, ?_, ⟨_, .inl rfl, derived⟩, kindEq, nonceEq, opened, rfl⟩)
    simp only [openHeader, derived, Outcome.ofExcept, Outcome.ok_bind, built, decrypted,
      Outcome.pure_eq]
  rcases attempt_cases kind kdf key header (timestampForKey - 1) sized with
    ⟨message, failed⟩ | ⟨cipher', derived', kindEq', nonceEq', built', attempt'⟩
  · refine .inl ⟨.anyhow message, ?_⟩
    simp only [openHeader, derived, failed, Outcome.ofExcept, Outcome.ok_bind, built, decrypted,
      Outcome.err_bind]
  rcases attempt' with ⟨plain, opened, decrypted'⟩ | ⟨left', closed', decrypted'⟩
  · refine .inr (.inr ⟨cipher', plain, _, ?_, ⟨_, .inr rfl, derived'⟩, kindEq', nonceEq',
      opened, rfl⟩)
    simp only [openHeader, derived, derived', Outcome.ofExcept, Outcome.ok_bind, built, built',
      decrypted, decrypted', Outcome.pure_eq]
  · refine .inr (.inl ?_)
    simp only [openHeader, derived, derived', Outcome.ofExcept, Outcome.ok_bind, built, built',
      decrypted, decrypted', Outcome.pure_eq]

omit [Aead] [Hashes] in
/-- Splitting a buffer whose front is known. -/
theorem splitTo_front {front : Bytes} (tail : Bytes) {count : Nat} (inside : count ≤ front.length) :
    (Outcome.splitTo (front ++ tail) count : Outcome Error (Bytes × Bytes)) =
      .ok (front.take count, front.drop count ++ tail) := by
  rw [Outcome.splitTo_ok (by rw [List.length_append]; omega),
    List.take_append_of_le_length inside, List.drop_append_of_le_length inside]

/-- The fields of the plaintext of a tunnel header. -/
structure TunnelHeader.ReadFrom (header : TunnelHeader) (plain : Bytes) : Prop where
  size : plain.length = 35
  salt : header.salt = plain.take 32
  padding : header.padding = beNat ((plain.drop 32).take 2)
  hostLen : header.hostLen = beNat (plain.drop 34) + minHostLen

theorem openTunnelHeader_some {protocol : ProtocolConfig} {timestampForKey : Int}
    {nonce header plain tail : Bytes} {cipher : Cipher}
    (opened : openHeader protocol.cipher protocol.kdf (utf8Bytes protocol.key) timestampForKey
      nonce header = .ok (some (cipher, plain ++ tail)))
    (size : plain.length = 35) :
    openTunnelHeader protocol timestampForKey nonce header =
      .ok (some ⟨cipher, plain.take 32, beNat ((plain.drop 32).take 2),
        beNat (plain.drop 34) + minHostLen⟩) := by
  have tailSize : (plain.drop 32).length = 3 := by simp [size]
  have lastSize : (plain.drop 34).length = 1 := by simp [size]
  have split1 := splitTo_front tail (show 32 ≤ plain.length by omega)
  have split2 := splitTo_front tail (show 2 ≤ (plain.drop 32).length by omega)
  have split3 := splitTo_front tail (show 1 ≤ (plain.drop 34).length by omega)
  rw [List.drop_drop] at split2
  rw [List.take_of_length_le (by omega)] at split3
  simp only [openTunnelHeader, opened, Outcome.ok_bind, CipherType.keySize, split1, split2, split3,
    Outcome.pure_eq]

theorem openTunnelHeader_cases (protocol : ProtocolConfig) {nonce header : Bytes}
    (timestampForKey : Int) (nonceSize : nonce.length = 12) (headerSize : header.length = 51) :
    (∃ error, openTunnelHeader protocol timestampForKey nonce header = .err error) ∨
      openTunnelHeader protocol timestampForKey nonce header = .ok none ∨
      ∃ opened plain buffer,
        openTunnelHeader protocol timestampForKey nonce header = .ok (some opened) ∧
          Opened protocol.cipher protocol.kdf (utf8Bytes protocol.key) timestampForKey nonce
            header opened.cipher plain buffer ∧ opened.ReadFrom plain := by
  rcases openHeader_cases protocol.cipher protocol.kdf (utf8Bytes protocol.key) header
      timestampForKey nonceSize with
    ⟨error, failed⟩ | failed | ⟨cipher, plain, buffer, opened, facts⟩
  · exact .inl ⟨error, by rw [openTunnelHeader, failed]; rfl⟩
  · exact .inr (.inl (by rw [openTunnelHeader, failed]; rfl))
  · have size : plain.length = 35 := by
      have := facts.plainSize
      omega
    have plainTail := opened
    rw [facts.buffer] at plainTail
    exact .inr (.inr ⟨_, plain, buffer, openTunnelHeader_some plainTail size, facts,
      ⟨size, rfl, rfl, rfl⟩⟩)

/-- The second cipher has the key and the nonce of the first. -/
theorem openSpecialHeader_inner {key nonce header inner tail : Bytes} {timestampForKey : Int}
    {cipher : Cipher}
    (opened : openHeader .aes256Gcm .argon2 key timestampForKey nonce header =
      .ok (some (cipher, inner ++ tail)))
    (keySize : cipher.key.length = 32) (nonceEq : cipher.nonce.bytes = nonce)
    (innerSize : inner.length = 50) (tailSize : tail.length = 16) :
    openSpecialHeader key timestampForKey nonce header =
      match Aead.openRecord .chaCha20Poly1305 cipher.key cipher.nonce inner with
      | some plain => .ok ⟨plain.take 32, beNat (plain.drop 32)⟩
      | none => .err (.anyhow "decrypt error") := by
  have truncated : (inner ++ tail).take ((inner ++ tail).length - CipherType.aes256Gcm.tagSize) =
      inner := by
    rw [List.length_append, tailSize]
    exact List.take_left
  let headerCipher : Cipher := ⟨.chaCha20Poly1305, cipher.key, cipher.nonce, [], 0⟩
  have built : (Cipher.newWithNonce .chaCha20Poly1305 cipher.key nonce : Outcome Error Cipher) =
      .ok headerCipher := by
    rw [← nonceEq]
    exact Cipher.newWithNonce_sized keySize cipher.nonce.length_eq
  cases decrypted : Aead.openRecord headerCipher.kind headerCipher.key headerCipher.nonce inner with
  | none =>
      have closed := Cipher.decrypt_none decrypted
      simp only [openSpecialHeader, opened, Outcome.ok_bind, truncated, built, closed]
  | some plain =>
      have open' := Cipher.decrypt_some decrypted
      have size : plain.length = 34 := by
        have := Aead.openRecord_length decrypted
        omega
      have lastSize : (plain.drop 32).length = 2 := by simp [size]
      have split1 := splitTo_front (inner.drop (inner.length - 16))
        (show 32 ≤ plain.length by omega)
      have split2 := splitTo_front (inner.drop (inner.length - 16))
        (show 2 ≤ (plain.drop 32).length by omega)
      rw [List.take_of_length_le (by omega)] at split2
      simp only [openSpecialHeader, opened, Outcome.ok_bind, truncated, built, open',
        CipherType.keySize, split1, split2, Outcome.pure_eq]

theorem openSpecialHeader_cases (key : Bytes) {nonce header : Bytes} (timestampForKey : Int)
    (nonceSize : nonce.length = 12) (headerSize : header.length = 66) :
    (∃ error, openSpecialHeader key timestampForKey nonce header = .err error) ∨
      ∃ (opened : SpecialHeader) (cipher : Cipher) (inner buffer plain : Bytes),
        openSpecialHeader key timestampForKey nonce header = .ok opened ∧
          Opened .aes256Gcm .argon2 key timestampForKey nonce header cipher inner buffer ∧
          Aead.openRecord .chaCha20Poly1305 cipher.key cipher.nonce inner = some plain ∧
          plain.length = 34 ∧ opened.salt = plain.take 32 ∧
          opened.padding = beNat (plain.drop 32) := by
  rcases openHeader_cases .aes256Gcm .argon2 key header timestampForKey nonceSize with
    ⟨error, failed⟩ | failed | ⟨cipher, inner, buffer, opened, facts⟩
  · exact .inl ⟨error, by rw [openSpecialHeader, failed]; rfl⟩
  · exact .inl ⟨_, by rw [openSpecialHeader, failed]; rfl⟩
  have innerSize := facts.plainSize
  have layered := opened
  rw [facts.buffer] at layered
  have result := openSpecialHeader_inner layered facts.keySize facts.nonce (by omega)
    (by rw [List.length_drop]; omega)
  cases decrypted : Aead.openRecord .chaCha20Poly1305 cipher.key cipher.nonce inner with
  | none =>
      rw [decrypted] at result
      exact .inl ⟨_, result⟩
  | some plain =>
      rw [decrypted] at result
      have size := Aead.openRecord_length decrypted
      exact .inr ⟨_, cipher, inner, buffer, plain, result, facts, decrypted, by omega, rfl, rfl⟩

/-- A header that was sealed in this bucket or in the one before opens, if the
key of the other one does not open it as well. -/
theorem openHeader_sealed (correct : Aead.Correct) {record : SealRecord} {kdf : Kdf} {key : Bytes}
    {timestampForKey timestamp : Int}
    (bucket : timestamp = timestampForKey ∨ timestamp = timestampForKey - 1)
    (derived : kdf.deriveKeyFromTimestamp key timestamp = .ok record.key)
    (wrong : ∀ other, kdf.deriveKeyFromTimestamp key timestampForKey = .ok other →
      record.FailsUnder other) :
    openHeader record.kind kdf key timestampForKey record.nonce.bytes record.bytes =
      .ok (some (⟨record.kind, record.key, record.nonce, [], 0⟩,
        record.plain ++ Aead.sealTag record.kind record.key record.nonce record.plain)) := by
  obtain ⟨current, currentDerived⟩ := Kdf.deriveKeyFromTimestamp_total derived timestampForKey
  have built : ∀ headerKey : Bytes, headerKey.length = 32 →
      (Cipher.newWithNonce record.kind headerKey record.nonce.bytes : Outcome Error Cipher) =
        .ok ⟨record.kind, headerKey, record.nonce, [], 0⟩ :=
    fun _ sized => Cipher.newWithNonce_ok sized record.nonce
  have own : (⟨record.kind, record.key, record.nonce, [], 0⟩ : Cipher).decrypt record.bytes =
      (true, record.plain ++ Aead.sealTag record.kind record.key record.nonce record.plain) :=
    Cipher.decrypt_sealRecord correct _ record.plain
  have currentBuilt := built current (Kdf.deriveKeyFromTimestamp_length currentDerived)
  by_cases same : current = record.key
  · subst same
    simp only [openHeader, currentDerived, Outcome.ofExcept, Outcome.ok_bind, currentBuilt, own,
      Outcome.pure_eq]
  · -- only the bucket before can have sealed it
    have before : timestamp = timestampForKey - 1 := by
      rcases bucket with rfl | before
      · rw [currentDerived] at derived
        exact absurd (Except.ok.inj derived) same
      · exact before
    subst before
    have ownBuilt := built record.key (Kdf.deriveKeyFromTimestamp_length derived)
    have closed : (⟨record.kind, current, record.nonce, [], 0⟩ : Cipher).decrypt record.bytes =
        (false, _) := Cipher.decrypt_none (wrong current currentDerived same)
    simp only [openHeader, currentDerived, derived, Outcome.ofExcept, Outcome.ok_bind,
      currentBuilt, ownBuilt, closed, own, Outcome.pure_eq]

/-- A header that opens under the key of neither bucket. -/
theorem openHeader_closed {kind : CipherType} {kdf : Kdf} {key nonce header : Bytes}
    {timestampForKey : Int} (sized : nonce.length = 12)
    (derivable : ∀ timestamp, ∃ headerKey, kdf.deriveKeyFromTimestamp key timestamp = .ok headerKey)
    (closed : ∀ timestamp headerKey, (timestamp = timestampForKey ∨ timestamp = timestampForKey - 1) →
      kdf.deriveKeyFromTimestamp key timestamp = .ok headerKey → ∀ drawn : Nonce,
        drawn.bytes = nonce → Aead.openRecord kind headerKey drawn header = none) :
    openHeader kind kdf key timestampForKey nonce header = .ok none := by
  obtain ⟨current, first⟩ := derivable timestampForKey
  obtain ⟨before, second⟩ := derivable (timestampForKey - 1)
  have built : ∀ headerKey : Bytes, headerKey.length = 32 →
      (Cipher.newWithNonce kind headerKey nonce : Outcome Error Cipher) =
        .ok ⟨kind, headerKey, ⟨nonce, sized⟩, [], 0⟩ :=
    fun _ keySize => Cipher.newWithNonce_sized keySize sized
  have firstBuilt := built current (Kdf.deriveKeyFromTimestamp_length first)
  have secondBuilt := built before (Kdf.deriveKeyFromTimestamp_length second)
  have firstFails : (⟨kind, current, ⟨nonce, sized⟩, [], 0⟩ : Cipher).decrypt header =
      (false, _) := Cipher.decrypt_none (closed _ _ (.inl rfl) first ⟨nonce, sized⟩ rfl)
  have secondFails : (⟨kind, before, ⟨nonce, sized⟩, [], 0⟩ : Cipher).decrypt header =
      (false, _) := Cipher.decrypt_none (closed _ _ (.inr rfl) second ⟨nonce, sized⟩ rfl)
  simp only [openHeader, first, second, Outcome.ofExcept, Outcome.ok_bind, firstBuilt,
    secondBuilt, firstFails, secondFails, Outcome.pure_eq]

theorem openTunnelHeader_closed {protocol : ProtocolConfig} {nonce header : Bytes}
    {timestampForKey : Int} (opened : openHeader protocol.cipher protocol.kdf
      (utf8Bytes protocol.key) timestampForKey nonce header = .ok none) :
    openTunnelHeader protocol timestampForKey nonce header = .ok none := by
  rw [openTunnelHeader, opened]
  rfl

/-- The header of a special request at the front of `data`. -/
def specialHeader (cfg : AppConfig) (connectTime : Int) (data : Bytes) :
    Outcome Error SpecialHeader :=
  openSpecialHeader (utf8Bytes cfg.protocol.key) (connectTime.tdiv getProtocolMaxConnectDelay)
    (data.take 12) ((data.take 78).drop 12)

/-- The fixed part of a tunnel header at the front of `data`. -/
def tunnelHeader (cfg : AppConfig) (connectTime : Int) (data : Bytes) :
    Outcome Error (Option TunnelHeader) :=
  openTunnelHeader cfg.protocol (connectTime.tdiv cfg.protocol.maxConnectDelay.toNat)
    (data.take 12) ((data.take 63).drop 12)

end Opening

theorem specialHeader_sizes {data : Bytes} (long : 78 ≤ data.length) :
    (data.take 12).length = 12 ∧ ((data.take 78).drop 12).length = 66 := by
  rw [List.length_drop, List.length_take, List.length_take]
  omega

/-- Only the front of a buffer is looked at. -/
theorem specialHeader_resize [Aead] [Hashes] {cfg : AppConfig} {connectTime : Int} {front : Bytes}
    {size : Nat} (long : 78 ≤ front.length) (grows : front.length ≤ size) :
    specialHeader cfg connectTime (resize front size) = specialHeader cfg connectTime front := by
  have kept : ∀ count, count ≤ 78 → (resize front size).take count = front.take count := by
    intro count few
    rw [resize_grow grows, List.take_append_of_le_length (by omega)]
  rw [specialHeader, specialHeader, kept 12 (by decide), kept 78 (by decide)]

section Calls

variable {S R : Type} [Socket S] [Rng R] [Aead] [Hashes]

/-- A request long enough is decided by its header. -/
theorem trySpecialRequest_long {cfg : AppConfig} {connectTime : Int} {data : Bytes}
    {readed : Nat} (long : 78 ≤ readed) (inside : readed ≤ data.length) :
    (trySpecialRequest cfg connectTime data readed : Exec (Connection S R) Error Unit) =
      .lift (specialHeader cfg connectTime data) >>=
        answerSpecialRequest cfg (data.drop 78) readed := by
  have enough : ¬ readed < specialHeaderLen := Nat.not_lt_of_le long
  have split1 : (Outcome.splitTo data specialHeaderLen : Outcome Error (Bytes × Bytes)) =
      .ok (data.take 78, data.drop 78) :=
    Outcome.splitTo_ok (long.trans inside)
  have split2 : (Outcome.splitTo (data.take 78) CipherType.aes256Gcm.nonceSize :
      Outcome Error (Bytes × Bytes)) = .ok (data.take 12, (data.take 78).drop 12) := by
    rw [CipherType.nonceSize, Outcome.splitTo_ok, List.take_take]
    · rfl
    · rw [List.length_take]
      omega
  rw [trySpecialRequest, divide_pos (by decide), pure_bind, if_neg enough, split1, lift_ok_bind]
  dsimp only
  rw [split2, lift_ok_bind]
  rfl

/-- What follows the first read is decided by what it read. -/
def afterRead (lookup : String → Except IoError (List SocketAddr)) (connectTime : Int)
    (cfg : AppConfig) (front : Bytes) : Exec (Connection S R) Error (Option (Tunnel S R)) :=
  if front.length < minHeaderLen cfg.protocol then
    otherwise cfg connectTime (resize front (minHeaderLen cfg.protocol)) front.length
      "wrong header packet size"
  else do
    let timestampForKey ← divide connectTime cfg.protocol.maxConnectDelay.toNat
    match ← .lift (openTunnelHeader cfg.protocol timestampForKey (front.take 12)
        ((front.take 63).drop 12)) with
    | none => otherwise cfg connectTime front front.length "decrypt header failed"
    | some opened => acceptTunnel lookup cfg (front.take 12) (front.drop 63) opened

theorem readHeader_eq (lookup : String → Except IoError (List SocketAddr)) (connectTime : Int)
    (cfg : AppConfig) :
    (readHeader lookup connectTime cfg : Exec (Connection S R) Error (Option (Tunnel S R))) =
      io (Socket.read · (minHeaderLen cfg.protocol)) >>= afterRead lookup connectTime cfg := by
  rw [readHeader]
  congr 1
  funext front
  rw [afterRead]
  dsimp only
  by_cases short : front.length < minHeaderLen cfg.protocol
  · rw [if_pos short, if_pos short]
  rw [if_neg short, if_neg short]
  have mainLen : mainHeaderLen cfg.protocol = 63 := rfl
  have minLen : 83 ≤ minHeaderLen cfg.protocol := Nat.le_add_right 83 _
  have nonceLen : cfg.protocol.cipher.nonceSize = 12 := rfl
  have split1 : (Outcome.splitTo front 63 : Outcome Error (Bytes × Bytes)) =
      .ok (front.take 63, front.drop 63) := Outcome.splitTo_ok (by omega)
  have split2 : (Outcome.splitTo (front.take 63) 12 : Outcome Error (Bytes × Bytes)) =
      .ok (front.take 12, (front.take 63).drop 12) := by
    rw [Outcome.splitTo_ok, List.take_take]
    · rfl
    · rw [List.length_take]
      omega
  have restored : front.take 12 ++ (front.take 63).drop 12 ++ front.drop 63 = front := by
    have inner := List.take_append_drop 12 (front.take 63)
    rw [List.take_take] at inner
    exact (congrArg (· ++ front.drop 63) inner).trans (List.take_append_drop 63 front)
  rw [mainLen, split1, lift_ok_bind]
  dsimp only
  rw [nonceLen, split2, lift_ok_bind]
  dsimp only
  generalize front.take 12 ++ (front.take 63).drop 12 ++ front.drop 63 = whole at restored ⊢
  subst restored
  rfl

/-- The bytes that the first read returns, where it is reached and does not
fail. -/
def FirstRead (socketAddr : SocketAddr) (cfg : AppConfig) (urlPath : String)
    (upgradeSupport : Bool) (connection : Connection S R) (front : Bytes) : Prop :=
  ∃ ready after, acceptUpgrade socketAddr cfg urlPath upgradeSupport connection = (.ok (), ready) ∧
    Socket.read ready.stream (minHeaderLen cfg.protocol) = (.ok front, after)

omit [Aead] [Hashes] in
theorem firstRead_of_run {socketAddr : SocketAddr} {cfg : AppConfig} {urlPath : String}
    {upgradeSupport : Bool} {connection ready next : Connection S R} {front : Bytes}
    (accepted : acceptUpgrade socketAddr cfg urlPath upgradeSupport connection = (.ok (), ready))
    (read : io (Socket.read · (minHeaderLen cfg.protocol)) ready = (.ok front, next)) :
    FirstRead socketAddr cfg urlPath upgradeSupport connection front := by
  rw [io] at read
  rcases answer : Socket.read ready.stream (minHeaderLen cfg.protocol) with ⟨error | bytes, stream⟩
  · rw [answer] at read
    cases read
  · rw [answer] at read
    cases read
    exact ⟨ready, stream, accepted, answer⟩

omit [Aead] [Hashes] in
theorem refuse_not_ok {α : Type} {cfg : AppConfig} {message : String} {value : α}
    {connection after : Connection S R} :
    (refuse cfg message : Exec (Connection S R) Error α) connection ≠ (.ok value, after) := by
  intro run
  rw [refuse] at run
  obtain ⟨_, _, _, failed⟩ := bind_eq_ok.mp run
  cases failed

/-- A special request never gives a tunnel. -/
theorem otherwise_none {α : Type} {cfg : AppConfig} {connectTime : Int} {data : Bytes}
    {readed : Nat} {message : String} {result : Option α} {connection after : Connection S R}
    (run : otherwise cfg connectTime data readed message connection = (.ok result, after)) :
    result = none := by
  rw [otherwise] at run
  obtain ⟨answer, _, _, run⟩ := bind_eq_ok.mp run
  cases answer with
  | ok _ => cases run; rfl
  | error _ => exact absurd run refuse_not_ok

omit [Hashes] in
theorem decodeHost_inv {cfg : AppConfig} {header : TunnelHeader} {data : Bytes} {host : String}
    {connection after : Connection S R}
    (run : decodeHost cfg header data connection = (.ok host, after)) :
    ∃ plain, Aead.openRecord header.cipher.kind header.cipher.key
        (header.cipher.nonce.inc header.padding) (data.take (header.hostLen + 16)) = some plain ∧
      fromUtf8 plain = some host ∧ after = connection := by
  rw [decodeHost] at run
  by_cases enough : header.hostLen + cfg.protocol.cipher.tagSize ≤ data.length
  swap
  · rw [Outcome.splitTo, if_neg enough] at run
    cases run
  rw [Outcome.splitTo_ok enough, lift_ok_bind] at run
  have size := List.length_take_of_le enough
  dsimp only at run
  cases opened : Aead.openRecord (header.cipher.incNonce header.padding).kind
      (header.cipher.incNonce header.padding).key (header.cipher.incNonce header.padding).nonce
      (data.take (header.hostLen + cfg.protocol.cipher.tagSize)) with
  | none =>
      rw [Cipher.decrypt_none opened] at run
      exact absurd run refuse_not_ok
  | some plain =>
      have tag : cfg.protocol.cipher.tagSize = 16 := rfl
      have plainSize : plain.length = header.hostLen := by
        have := Aead.openRecord_length opened
        omega
      rw [Cipher.decrypt_some opened] at run
      dsimp only at run
      rw [Outcome.slice_ok (Nat.zero_le _) (by rw [List.length_append]; omega), lift_ok_bind,
        List.drop_zero, Nat.sub_zero, ← plainSize, List.take_left] at run
      refine ⟨plain, opened, ?_⟩
      cases utf8 : fromUtf8 plain with
      | none =>
          rw [utf8] at run
          exact absurd run refuse_not_ok
      | some decoded =>
          rw [utf8] at run
          cases run
          exact ⟨rfl, rfl⟩

omit [Hashes] in
theorem readHost_inv {cfg : AppConfig} {header : TunnelHeader} {data : Bytes} {host : String}
    {connection after : Connection S R}
    (run : readHost cfg header data connection = (.ok host, after)) :
    ∃ record plain, Aead.openRecord header.cipher.kind header.cipher.key
        (header.cipher.nonce.inc header.padding) record = some plain ∧
      fromUtf8 plain = some host ∧ after.history = connection.history := by
  rw [readHost] at run
  obtain ⟨rest, next, read, run⟩ := bind_eq_ok.mp run
  have kept : next.history = connection.history := tryReadRest_history read
  split at run
  · exact absurd run refuse_not_ok
  · obtain ⟨plain, opened, utf8, same⟩ := decodeHost_inv run
    exact ⟨_, plain, opened, utf8, by rw [same, kept]⟩

/-- A tunnel that was accepted from the bytes of a first read. -/
structure Tunnel.AcceptedFrom (cfg : AppConfig) (connectTime : Int) (front : Bytes)
    (tunnel : Tunnel S R) : Prop where
  full : minHeaderLen cfg.protocol ≤ front.length
  header : tunnelHeader cfg connectTime front = .ok (some tunnel.header)
  nonce : tunnel.nonce = front.take 12
  host : ∃ record plain, Aead.openRecord tunnel.header.cipher.kind tunnel.header.cipher.key
    (tunnel.header.cipher.nonce.inc tunnel.header.padding) record = some plain ∧
      fromUtf8 plain = some tunnel.host
  client : ∃ stream ciphers rng, Cipher.newClientServer cfg.protocol.cipher cfg.protocol.kdf
      (utf8Bytes cfg.protocol.key) tunnel.header.salt = .ok ciphers ∧
    tunnel.client = .fromStream stream ciphers.1 ciphers.2 cfg.protocol.dataPadding
      cfg.protocol.encryptionLimit.toNat rng

omit [Socket S] [Rng R] [Aead] in
theorem openTunnel_inv {lookup : String → Except IoError (List SocketAddr)} {cfg : AppConfig}
    {nonce : Bytes} {header : TunnelHeader} {host : String} {tunnel : Tunnel S R}
    {connection after : Connection S R}
    (run : openTunnel lookup cfg nonce header host connection = (.ok tunnel, after)) :
    tunnel.host = host ∧ tunnel.nonce = nonce ∧ tunnel.header = header ∧
      (∃ ciphers, Cipher.newClientServer cfg.protocol.cipher cfg.protocol.kdf
          (utf8Bytes cfg.protocol.key) header.salt = .ok ciphers ∧
        tunnel.client = .fromStream connection.stream ciphers.1 ciphers.2 cfg.protocol.dataPadding
          cfg.protocol.encryptionLimit.toNat connection.rng) ∧
      after = connection := by
  rw [openTunnel] at run
  cases resolved : lookup host with
  | error error =>
      rw [resolved] at run
      cases run
  | ok addresses =>
  rw [resolved] at run
  dsimp only at run
  cases preferred : preferIpv4 addresses with
  | none =>
      rw [preferred] at run
      cases run
  | some addr =>
  rw [preferred] at run
  dsimp only at run
  cases built : Cipher.newClientServer cfg.protocol.cipher cfg.protocol.kdf
      (utf8Bytes cfg.protocol.key) header.salt with
  | ok ciphers =>
      rw [built, mapErr, lift_ok_bind] at run
      cases run
      exact ⟨rfl, rfl, rfl, ⟨ciphers, rfl, rfl⟩, rfl⟩
  | err error =>
      rw [built] at run
      cases run
  | panic reason =>
      rw [built] at run
      cases run

theorem afterRead_inv {lookup : String → Except IoError (List SocketAddr)} {connectTime : Int}
    {cfg : AppConfig} {front : Bytes} {tunnel : Tunnel S R} {connection after : Connection S R}
    (run : afterRead lookup connectTime cfg front connection = (.ok (some tunnel), after)) :
    tunnel.AcceptedFrom cfg connectTime front ∧ after.history = connection.history := by
  rw [afterRead] at run
  split at run
  · cases otherwise_none run
  rename_i long
  by_cases zero : cfg.protocol.maxConnectDelay.toNat = 0
  · rw [divide, if_pos zero] at run
    cases run
  rw [divide_pos zero, pure_bind] at run
  cases opened : openTunnelHeader cfg.protocol
      (connectTime.tdiv cfg.protocol.maxConnectDelay.toNat) (front.take 12)
      ((front.take 63).drop 12) with
  | err error =>
      rw [opened] at run
      cases run
  | panic reason =>
      rw [opened] at run
      cases run
  | ok result =>
      rw [opened, lift_ok_bind] at run
      cases result with
      | none => cases otherwise_none run
      | some header =>
          dsimp only at run
          rw [acceptTunnel] at run
          obtain ⟨host, next, read, run⟩ := bind_eq_ok.mp run
          obtain ⟨record, plain, hostOpened, utf8, kept⟩ := readHost_inv read
          obtain ⟨built, last, accepted, run⟩ := bind_eq_ok.mp run
          cases run
          obtain ⟨rfl, nonceEq, rfl, ⟨ciphers, derived, client⟩, rfl⟩ := openTunnel_inv accepted
          exact ⟨⟨Nat.le_of_not_lt long, opened, nonceEq, ⟨record, plain, hostOpened, utf8⟩,
            ⟨_, ciphers, _, derived, client⟩⟩, kept⟩

omit [Aead] [Hashes] in
theorem acceptUpgrade_history {socketAddr : SocketAddr} {cfg : AppConfig} {urlPath : String}
    {upgradeSupport : Bool} {connection ready : Connection S R}
    (run : acceptUpgrade socketAddr cfg urlPath upgradeSupport connection = (.ok (), ready)) :
    ready.history = connection.history := by
  rw [acceptUpgrade] at run
  split at run
  · obtain ⟨result, next, upgraded, run⟩ := bind_eq_ok.mp run
    cases result with
    | error err =>
        dsimp only at run
        obtain ⟨_, _, _, failed⟩ := bind_eq_ok.mp run
        cases failed
    | ok _ =>
        cases run
        rw [attempt_apply, onStream, focus_apply] at upgraded
        rcases answer : processHttpUpgrade urlPath connection.stream with ⟨_ | _ | _, stream⟩
        · rw [answer] at upgraded
          cases upgraded
          rfl
        · rw [answer] at upgraded
          cases upgraded
        · rw [answer] at upgraded
          cases upgraded
  · cases run
    rfl

theorem startTunnel_inv {lookup : String → Except IoError (List SocketAddr)}
    {socketAddr : SocketAddr} {connectTime : Int} {cfg : AppConfig} {urlPath : String}
    {upgradeSupport : Bool} {tunnel : Tunnel S R} {connection after : Connection S R}
    (run : startTunnel lookup socketAddr connectTime cfg urlPath upgradeSupport connection =
      (.ok (some tunnel), after)) :
    (∃ front, FirstRead socketAddr cfg urlPath upgradeSupport connection front ∧
      tunnel.AcceptedFrom cfg connectTime front) ∧ after.history = connection.history := by
  rw [startTunnel] at run
  obtain ⟨_, ready, accepted, run⟩ := bind_eq_ok.mp run
  rw [readHeader_eq] at run
  obtain ⟨front, next, read, run⟩ := bind_eq_ok.mp run
  obtain ⟨facts, kept⟩ := afterRead_inv run
  refine ⟨⟨front, firstRead_of_run accepted read, facts⟩, ?_⟩
  rw [kept, io_history read, acceptUpgrade_history accepted]

end Calls

end CovertConnect.Server
