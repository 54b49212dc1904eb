import CovertConnect.Crypto.Kdf
import Mathlib.Data.List.Basic

namespace CovertConnect.Crypto

open CovertConnect.Data

/-! # Keys for different purposes

All keys come from one password.  A time, or a salt and the constant of a
purpose, tell them apart, as far as the hash functions do. -/

/-- One evaluation of a hash function. -/
inductive HashInput where
  | blake2b512 (input : Bytes)
  | blake3 (input : Bytes)
  | argon2id (password salt : Bytes)
deriving DecidableEq, Repr

def HashInput.output [Hashes] : HashInput → Bytes
  | .blake2b512 input => Hashes.blake2b512 input
  | .blake3 input => Hashes.blake3 input
  | .argon2id password salt => Hashes.argon2id password salt

/-- No two of these inputs collide. -/
def NoCollision [Hashes] (inputs : List HashInput) : Prop :=
  ∀ first ∈ inputs, ∀ second ∈ inputs, first.output = second.output → first = second

/-- The purposes that have a constant of their own. -/
inductive KeyLabel where
  | client
  | server
  | protocolResponse
deriving DecidableEq, Repr

def KeyLabel.constant : KeyLabel → Bytes
  | .client => serverSalt
  | .server => clientSalt
  | .protocolResponse => protocolResponseSalt

theorem KeyLabel.constant_injective {first second : KeyLabel}
    (same : first.constant = second.constant) : first = second := by
  cases first <;> cases second <;> first | rfl | exact absurd same (by decide)

inductive KeyPurpose where
  | time (timestamp : Int)
  | salted (label : KeyLabel) (salt : Bytes)
deriving DecidableEq, Repr

structure KeyUse where
  kdf : Kdf
  purpose : KeyPurpose
deriving DecidableEq, Repr

/-- The timestamp is an `i64`, or the salt has the size of a key. -/
def KeyPurpose.Sized : KeyPurpose → Prop
  | .time timestamp => -2 ^ 63 ≤ timestamp ∧ timestamp < 2 ^ 63
  | .salted _ salt => salt.length = 32

theorem i64Bytes_injective {first second : Int} (low : -2 ^ 63 ≤ first) (high : first < 2 ^ 63)
    (low' : -2 ^ 63 ≤ second) (high' : second < 2 ^ 63)
    (same : i64Bytes first = i64Bytes second) : first = second := by
  have values := congrArg leNat same
  rw [i64Bytes, i64Bytes, leNat_leBytes, leNat_leBytes] at values
  omega

namespace Kdf

/-- What `derive_key` hashes. -/
def input (kdf : Kdf) (key salt : Bytes) : HashInput :=
  match kdf with
  | .argon2 => .argon2id key salt
  | .blake3 => .blake3 (key ++ salt)

/-- Keys of one length are told apart from their salts. -/
theorem input_inj {kdf kdf' : Kdf} {key key' salt salt' : Bytes} (sized : key.length = key'.length)
    (same : kdf.input key salt = kdf'.input key' salt') :
    kdf = kdf' ∧ key = key' ∧ salt = salt' := by
  cases kdf with
  | argon2 =>
      cases kdf' with
      | argon2 =>
          cases same
          exact ⟨rfl, rfl, rfl⟩
      | blake3 => cases same
  | blake3 =>
      cases kdf' with
      | argon2 => cases same
      | blake3 =>
          have joined : key ++ salt = key' ++ salt' := HashInput.blake3.inj same
          exact ⟨rfl, List.append_inj joined sized⟩

variable [Hashes]

theorem deriveKey_output {kdf : Kdf} {key salt out : Bytes}
    (derived : kdf.deriveKey key salt = .ok out) : (kdf.input key salt).output = out := by
  cases kdf with
  | argon2 =>
      unfold deriveKey at derived
      dsimp only at derived
      split at derived
      · contradiction
      split at derived
      · contradiction
      split at derived
      · contradiction
      · cases derived
        rfl
  | blake3 =>
      cases derived
      rfl

theorem deriveKey2_output {kdf : Kdf} {key salt1 salt2 out : Bytes}
    (derived : kdf.deriveKey2 key salt1 salt2 = .ok out) :
    (kdf.input key (kdf.input salt1 salt2).output).output = out := by
  rw [deriveKey2] at derived
  cases inner : kdf.deriveKey salt1 salt2 with
  | error reason =>
      rw [inner] at derived
      cases derived
  | ok salt =>
      rw [inner] at derived
      rw [deriveKey_output inner]
      exact deriveKey_output derived

end Kdf

namespace KeyUse

variable [Hashes]

def derive (pass : Bytes) (use : KeyUse) : Except String Bytes :=
  match use.purpose with
  | .time timestamp => use.kdf.deriveKeyFromTimestamp pass timestamp
  | .salted .client salt => use.kdf.deriveClientKey pass salt
  | .salted .server salt => use.kdf.deriveServerKey pass salt
  | .salted .protocolResponse salt => use.kdf.deriveProtocolResponseKey pass salt

/-- What stands for the purpose where the key is derived. -/
def inner (use : KeyUse) : HashInput :=
  match use.purpose with
  | .time timestamp => .blake2b512 (i64Bytes timestamp ++ timeSalt)
  | .salted label salt => use.kdf.input salt label.constant

/-- All that is hashed for a key. -/
def inputs (pass : Bytes) (use : KeyUse) : List HashInput :=
  [use.inner, use.kdf.input pass use.inner.output]

theorem derive_output {pass key : Bytes} {use : KeyUse} (derived : use.derive pass = .ok key) :
    (use.kdf.input pass use.inner.output).output = key := by
  obtain ⟨kdf, purpose⟩ := use
  cases purpose with
  | time timestamp => exact Kdf.deriveKey_output derived
  | salted label salt =>
      cases label with
      | client | server | protocolResponse => exact Kdf.deriveKey2_output derived

omit [Hashes] in
theorem inner_inj {first second : KeyUse} (kdfs : first.kdf = second.kdf)
    (sized : first.purpose.Sized) (sized' : second.purpose.Sized)
    (same : first.inner = second.inner) : first = second := by
  obtain ⟨kdf, purpose⟩ := first
  obtain ⟨_, purpose'⟩ := second
  obtain rfl : kdf = _ := kdfs
  cases purpose with
  | time timestamp =>
      cases purpose' with
      | time timestamp' =>
          have joined : i64Bytes timestamp ++ timeSalt = i64Bytes timestamp' ++ timeSalt :=
            HashInput.blake2b512.inj same
          have bytes := List.append_cancel_right joined
          rw [i64Bytes_injective sized.1 sized.2 sized'.1 sized'.2 bytes]
      | salted label salt => cases kdf <;> cases same
  | salted label salt =>
      cases purpose' with
      | time timestamp => cases kdf <;> cases same
      | salted label' salt' =>
          have widths : salt.length = salt'.length := Eq.trans sized (Eq.symm sized')
          obtain ⟨_, rfl, constants⟩ := Kdf.input_inj widths same
          rw [KeyLabel.constant_injective constants]

/-- Where the hash functions do not collide, a key has one use. -/
theorem derive_injective {pass key : Bytes} {uses : List KeyUse}
    (separate : NoCollision (uses.flatMap (inputs pass))) {first second : KeyUse}
    (used : first ∈ uses) (used' : second ∈ uses) (sized : first.purpose.Sized)
    (sized' : second.purpose.Sized) (derived : first.derive pass = .ok key)
    (derived' : second.derive pass = .ok key) : first = second := by
  have listed : ∀ {use : KeyUse}, use ∈ uses →
      use.inner ∈ uses.flatMap (inputs pass) ∧
        use.kdf.input pass use.inner.output ∈ uses.flatMap (inputs pass) := by
    intro use member
    exact ⟨List.mem_flatMap.mpr ⟨use, member, List.mem_cons_self⟩,
      List.mem_flatMap.mpr ⟨use, member, List.mem_cons_of_mem _ List.mem_cons_self⟩⟩
  have outer : first.kdf.input pass first.inner.output =
      second.kdf.input pass second.inner.output := by
    apply separate _ (listed used).2 _ (listed used').2
    rw [derive_output derived, derive_output derived']
  obtain ⟨kdfs, _, outputs⟩ := Kdf.input_inj rfl outer
  exact inner_inj kdfs sized sized' (separate _ (listed used).1 _ (listed used').1 outputs)

end KeyUse

end CovertConnect.Crypto
