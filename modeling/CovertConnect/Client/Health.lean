import CovertConnect.Client.MonitorStream
import CovertConnect.Client.TargetHosts
import CovertConnect.Crypto.Stream.Reader
import CovertConnect.Crypto.Stream.Writer

namespace CovertConnect.Client

open CovertConnect.Data CovertConnect.Data.Exec
open CovertConnect.Crypto CovertConnect.Crypto.Connection
open MonitorStream

/-! # How a tunnel is accounted for

A tunnel is a success of its server where the server returned something, and
an error where it did not.  The stream counts the one and `process_tunnel` the
other. -/

section Calls

variable {S : Type} [AsyncRead S] [AsyncWrite S]

/-- The sizes of the reads that succeed. -/
def readSizes : S → List (Call S) → List Nat
  | _, [] => []
  | _, .turn stream :: calls => readSizes stream calls
  | stream, .read buf :: calls =>
      sizeRead (AsyncRead.pollRead stream buf.remaining).1 ++
        readSizes (AsyncRead.pollRead stream buf.remaining).2 calls
  | stream, .write buf :: calls => readSizes (AsyncWrite.pollWrite stream buf).2 calls
  | stream, .flush :: calls => readSizes (AsyncWrite.pollFlush stream).2 calls
  | stream, .shutdown :: calls => readSizes (AsyncWrite.pollShutdown stream).2 calls

/-- The stream has counted one success if there was a read that succeeded, and
none if there was not. -/
structure Counted (start : ServerState) (ledger : Ledger S) : Prop where
  success : ledger.stream.isSuccess = !ledger.reads.isEmpty
  succesCount : ledger.stream.state.succesCount =
    if ledger.stream.isSuccess then start.succesCount + 1 else start.succesCount
  errCount : ledger.stream.state.errCount = start.errCount

omit [AsyncRead S] [AsyncWrite S] in
theorem counted_opened (inner : S) (state : ServerState) :
    Counted state (.opened (fromStream inner state)) where
  success := rfl
  succesCount := rfl
  errCount := rfl

theorem counted_step {start : ServerState} {ledger : Ledger S} (counted : Counted start ledger)
    (call : Call S) : Counted start (ledger.step call) := by
  obtain ⟨success, succesCount, errCount⟩ := counted
  cases call with
  | turn _ | flush | shutdown => exact ⟨success, succesCount, errCount⟩
  | write buf =>
      rcases ledger.stream.pollWrite_spec buf with ⟨count, _, after⟩ | ⟨_, after⟩
      · simp only [Ledger.step, after]
        exact ⟨success, succesCount, errCount⟩
      · simp only [Ledger.step, after]
        exact ⟨success, succesCount, errCount⟩
  | read buf =>
      rcases ledger.stream.pollRead_spec buf with ⟨bytes, answer, after⟩ | ⟨other, after⟩
      · simp only [Ledger.step, after, answer, sizeRead]
        refine ⟨by simp [isSuccess], ?_, errCount⟩
        simp only [isSuccess] at succesCount ⊢
        cases already : ledger.stream.success <;> simp [already, succesCount]
      · simp only [Ledger.step, after, sizeRead_nil other, List.append_nil]
        exact ⟨success, succesCount, errCount⟩

theorem counted_run {start : ServerState} {ledger : Ledger S} (counted : Counted start ledger)
    (calls : List (Call S)) : Counted start (ledger.run calls) :=
  List.foldlRecOn calls Ledger.step counted fun _ kept call _ => counted_step kept call

/-- The stream makes the calls of its inner stream and no other. -/
theorem run_reads (ledger : Ledger S) (calls : List (Call S)) :
    (ledger.run calls).reads = ledger.reads ++ readSizes ledger.stream.inner calls := by
  induction calls generalizing ledger with
  | nil => exact (List.append_nil _).symm
  | cons call calls ih =>
      change ((ledger.step call).run calls).reads = _
      rw [ih (ledger.step call)]
      cases call with
      | turn _ | flush | shutdown => rfl
      | write buf =>
          rcases ledger.stream.pollWrite_spec buf with ⟨count, _, after⟩ | ⟨_, after⟩
          · simp only [Ledger.step, after, readSizes]
          · simp only [Ledger.step, after, readSizes]
      | read buf =>
          rcases ledger.stream.pollRead_spec buf with ⟨bytes, _, after⟩ | ⟨_, after⟩
          · simp only [Ledger.step, after, readSizes, List.append_assoc]
          · simp only [Ledger.step, after, readSizes, List.append_assoc]

end Calls

/-- What `copy_bidirectional` does with the stream to the server.  Its other
stream is the peer of these calls. -/
structure Relay (S : Type) where
  calls : List (Call S)
  result : Except IoError Unit

/-- How a tunnel ended: the result of the call, the counters behind it, and the
sizes of the reads that returned from the server. -/
structure TunnelEnd where
  result : Outcome Error Unit
  state : ServerState
  reads : List Nat

section Tunnel

variable {S R : Type} [Socket S] [Rng R] [Aead] [Hashes]

/-- The part behind the header. -/
def relayTunnel (state : ServerState) (stream : EncryptedStream S R)
    (relay : Relay (EncryptedStream S R)) : TunnelEnd :=
  let server := (Ledger.opened (fromStream stream state)).run relay.calls
  { result :=
      match relay.result with
      | .ok () => .ok ()
      | .error error => .err (.io error)
    state :=
      if server.stream.isSuccess then server.stream.state
      else { server.stream.state with errCount := server.stream.state.errCount + 1 }
    reads := server.reads }

def processTunnelToEnd (build : Build) (selected : SelectedServer) (host : String) (now : Int)
    (copyBidirectional : EncryptedStream S R → Relay (EncryptedStream S R))
    (connection : Connection S R) : TunnelEnd :=
  match processTunnel build selected.protocol host now connection with
  | (.ok stream, _) => relayTunnel selected.state stream (copyBidirectional stream)
  | (.err error, _) => { result := .err error, state := selected.state, reads := [] }
  | (.panic reason, _) => { result := .panic reason, state := selected.state, reads := [] }

/-- One of the two counts has grown by one, and it is that of the successes
just when the server returned a byte. -/
structure Accounted (start : ServerState) (tunnel : TunnelEnd) : Prop where
  once : (tunnel.state.succesCount = start.succesCount + 1 ∧
      tunnel.state.errCount = start.errCount) ∨
    (tunnel.state.succesCount = start.succesCount ∧
      tunnel.state.errCount = start.errCount + 1)
  success : tunnel.state.succesCount = start.succesCount + 1 ↔ 0 < tunnel.reads.sum

/-- The header can be made, and the stream to the server takes it. -/
def SendsHeader (build : Build) (protocol : ProtocolConfig) (host : String) (now : Int)
    (connection : Connection S R) : Prop :=
  ∃ packet sent, tunnelPacket build protocol host now connection = (.ok packet, sent) ∧
    (Socket.writeAll sent.stream packet.bytes).1 = .ok () ∧
    (Socket.flush (Socket.writeAll sent.stream packet.bytes).2).1 = .ok ()

/-- Some read succeeds, and none with a byte. -/
def OnlyEmpty (reads : List Nat) : Prop := reads ≠ [] ∧ reads.sum = 0

omit [Rng R] [Aead] [Hashes] in
theorem succesCount_moves (count : UInt64) : count ≠ count + 1 := by
  intro same
  have zero := UInt64.left_eq_add.mp same
  exact absurd zero (by decide)

theorem processTunnel_ok_iff {build : Build} {protocol : ProtocolConfig} {host : String} {now : Int}
    {connection : Connection S R} :
    (∃ stream after, processTunnel build protocol host now connection = (.ok stream, after)) ↔
      SendsHeader build protocol host now connection := by
  constructor
  · intro given
    obtain ⟨stream, after, run⟩ := given
    rw [processTunnel] at run
    obtain ⟨packet, sent, packed, run⟩ := bind_eq_ok.mp run
    obtain ⟨_, written, writing, run⟩ := bind_eq_ok.mp run
    obtain ⟨_, flushed, flushing, _⟩ := bind_eq_ok.mp run
    obtain ⟨_, wrote, rfl⟩ := io_inv writing
    obtain ⟨_, flush, _⟩ := io_inv flushing
    refine ⟨packet, sent, packed, congrArg Prod.fst wrote, ?_⟩
    rw [wrote]
    exact congrArg Prod.fst flush
  · intro given
    obtain ⟨packet, sent, packed, wrote, flush⟩ := given
    obtain ⟨ciphers, made⟩ := tunnelPacket_ciphers packed
    have written : (io (Socket.writeAll · packet.bytes) : Exec (Connection S R) Error Unit) sent =
        (.ok (), { sent with stream := (Socket.writeAll sent.stream packet.bytes).2 }) :=
      io_ok (Prod.ext wrote rfl)
    have flushed : (io Socket.flush : Exec (Connection S R) Error Unit)
          { sent with stream := (Socket.writeAll sent.stream packet.bytes).2 } =
        (.ok (), { sent with
          stream := (Socket.flush (Socket.writeAll sent.stream packet.bytes).2).2 }) :=
      io_ok (Prod.ext flush rfl)
    rw [processTunnel, bind_ok packed, bind_ok written, bind_ok flushed, made]
    exact ⟨_, _, rfl⟩

omit [Hashes] in
/-- What is counted behind the header. -/
theorem relayTunnel_accounted_iff (state : ServerState) (stream : EncryptedStream S R)
    (relay : Relay (EncryptedStream S R)) :
    Accounted state (relayTunnel state stream relay) ↔
      ¬ OnlyEmpty (readSizes stream relay.calls) := by
  have counted := counted_run (counted_opened stream state) relay.calls
  have reads := run_reads (.opened (fromStream stream state)) relay.calls
  rw [show (Ledger.opened (fromStream stream state)).reads = [] from rfl, List.nil_append,
    show (Ledger.opened (fromStream stream state)).stream.inner = stream from rfl] at reads
  have moves := succesCount_moves state.succesCount
  obtain ⟨success, succesCount, errCount⟩ := counted
  rw [reads] at success
  rw [success] at succesCount
  cases sizes : readSizes stream relay.calls with
  | nil =>
      rw [sizes] at success succesCount reads
      have failure : Accounted state (relayTunnel state stream relay) := by
        refine ⟨.inr ⟨?_, ?_⟩, ?_⟩
        · simp only [relayTunnel, success]
          exact succesCount
        · simp only [relayTunnel, success]
          exact congrArg (· + 1) errCount
        · simp only [relayTunnel, success, reads]
          exact iff_of_false (fun grown => moves (succesCount.symm.trans grown)) (by simp)
      exact iff_of_true failure fun only => only.1 rfl
  | cons size sizes' =>
      rw [sizes] at success succesCount reads
      have once : (relayTunnel state stream relay).state.succesCount = state.succesCount + 1 ∧
          (relayTunnel state stream relay).state.errCount = state.errCount := by
        simp only [relayTunnel, success]
        exact ⟨succesCount, errCount⟩
      have returned : (relayTunnel state stream relay).reads = size :: sizes' := reads
      constructor
      · intro accounted only
        have positive := accounted.success.mp once.1
        rw [returned, only.2] at positive
        exact Nat.lt_irrefl 0 positive
      · intro some
        refine ⟨.inl once, iff_of_true once.1 ?_⟩
        rw [returned]
        exact Nat.pos_of_ne_zero fun none => some ⟨List.cons_ne_nil _ _, none⟩

/-- A tunnel is accounted for just when its header goes out and the server does
not end the stream with reads of no bytes only. -/
theorem processTunnel_accounted_iff {build : Build} {selected : SelectedServer} {host : String}
    {now : Int} {copyBidirectional : EncryptedStream S R → Relay (EncryptedStream S R)}
    {connection : Connection S R} :
    Accounted selected.state
        (processTunnelToEnd build selected host now copyBidirectional connection) ↔
      SendsHeader build selected.protocol host now connection ∧
        ∀ stream after,
          processTunnel build selected.protocol host now connection = (.ok stream, after) →
          ¬ OnlyEmpty (readSizes stream (copyBidirectional stream).calls) := by
  have unmoved : ∀ {result reads}, ¬ Accounted selected.state ⟨result, selected.state, reads⟩ := by
    intro result reads accounted
    rcases accounted.once with ⟨moved, _⟩ | ⟨_, moved⟩
    · exact succesCount_moves _ moved
    · exact succesCount_moves _ moved
  rw [← processTunnel_ok_iff, processTunnelToEnd]
  rcases processTunnel build selected.protocol host now connection with
    ⟨stream | error | reason, after⟩
  · rw [relayTunnel_accounted_iff]
    constructor
    · intro some
      refine ⟨⟨stream, after, rfl⟩, ?_⟩
      intro other _ same
      cases same
      exact some
    · intro given
      exact given.2 stream after rfl
  · apply iff_of_false unmoved
    intro given
    obtain ⟨⟨_, _, same⟩, _⟩ := given
    cases same
  · apply iff_of_false unmoved
    intro given
    obtain ⟨⟨_, _, same⟩, _⟩ := given
    cases same

end Tunnel

/-- A socket whose peer has reset the connection. -/
structure Reset where

instance : Socket Reset where
  pollRead this _ := (.ready (.error (.other 104)), this)
  pollRead_fits _ _ _ _ := nofun
  pollWrite this _ := (.ready (.error (.other 104)), this)
  pollFlush this := (.ready (.error (.other 104)), this)
  pollShutdown this := (.ready (.error (.other 104)), this)
  pollWrite_fits _ _ _ _ := nofun
  read this _ := (.error (.other 104), this)
  tryRead this _ := (.error (.other 104), this)
  readExact this _ := (.error (.other 104), this)
  readTimeout this _ _ := this
  writeAll this _ := (.error (.other 104), this)
  flush this := (.error (.other 104), this)
  read_fits _ _ _ _ := nofun
  tryRead_fits _ _ _ _ := nofun
  readExact_fits _ _ _ _ := nofun
  readTimeout_empty _ _ := rfl

def sampleServer : SelectedServer := .ofServer (idleServer "example.org" true)

/-- One read, and the stream is shut down. -/
def oneRead {S : Type} (_ : S) : Relay S where
  calls := [.read ⟨[], 8192, by decide⟩, .shutdown]
  result := .ok ()

/-- The tunnel through a socket, with one read of what the server returns. -/
def tunnelThrough {S : Type} [Socket S] (socket : S) : TunnelEnd :=
  @processTunnelToEnd S Unit _ _ Aead.tagging Hashes.folding .release sampleServer
    "example.org:443" 0 oneRead ⟨socket, (), []⟩

/-- The header is refused by the one peer, and the other one closes without a
byte. -/
theorem tunnelThrough_unaccounted :
    ¬ Accounted sampleServer.state (tunnelThrough Reset.mk) ∧
      ¬ Accounted sampleServer.state (tunnelThrough (⟨[], []⟩ : Loaded)) := by
  constructor
  · intro accounted
    have unmoved : (tunnelThrough Reset.mk).state = sampleServer.state := by decide +kernel
    rcases accounted.once with ⟨moved, _⟩ | ⟨_, moved⟩
    · rw [unmoved] at moved
      exact succesCount_moves _ moved
    · rw [unmoved] at moved
      exact succesCount_moves _ moved
  · intro accounted
    have counted : (tunnelThrough (⟨[], []⟩ : Loaded)).state.succesCount =
        sampleServer.state.succesCount + 1 := by decide +kernel
    have returned : (tunnelThrough (⟨[], []⟩ : Loaded)).reads.sum = 0 := by decide +kernel
    have positive := accounted.success.mp counted
    rw [returned] at positive
    exact Nat.lt_irrefl 0 positive

end CovertConnect.Client
