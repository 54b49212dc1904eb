import CovertConnect.Client.SelectServer
import CovertConnect.Data.FileName

namespace CovertConnect.Client

open CovertConnect.Data

/-! # The process behind a connection

A rule for an app is applied to the process that owns the socket of the client.
It is found in the system's list of sockets by the local address. -/

inductive Protocol where
  | tcp
  | udp
deriving DecidableEq, Repr

inductive ProtocolSocketInfo where
  | tcp (localAddr : IpAddr) (localPort : UInt16)
  | udp (localAddr : IpAddr) (localPort : UInt16)
deriving DecidableEq, Repr

structure SocketInfo where
  protocolSocketInfo : ProtocolSocketInfo
  associatedPids : List UInt32
deriving DecidableEq, Repr

inductive ProcessError where
  | sockets (error : Error)
  | noSockets
  | noPid (socket : SocketAddr)
deriving DecidableEq, Repr

/-- What the system tells about its sockets and its processes, and what
separates the components of its paths. -/
structure Processes where
  isSeparator : Char → Bool
  getSocketsInfo : (ipv6 : Bool) → Protocol → Except Error (List SocketInfo)
  pathByPid : (pid : UInt32) → Except Error String

def SocketInfo.isAt (addr : SocketAddr) (si : SocketInfo) : Bool :=
  match si.protocolSocketInfo with
  | .tcp localAddr localPort => localAddr = addr.ip && localPort = addr.port
  | .udp localAddr localPort => localAddr = addr.ip && localPort = addr.port

def SocketAddr.isIpv6 (addr : SocketAddr) : Bool :=
  match addr.ip with
  | .v4 _ => false
  | .v6 _ => true

namespace Processes

def pidText (pid : UInt32) : String :=
  "pid " ++ toString pid.toNat

def pathByPids (this : Processes) (pids : List UInt32) (addr : SocketAddr) :
    Except ProcessError String :=
  match pids.head? with
  | some pid =>
      match this.pathByPid pid with
      | .ok path => .ok path
      | .error _ => .ok (pidText pid)
  | none => .error (.noPid addr)

/-- The loop over the sockets. -/
def findPath (this : Processes) (addr : SocketAddr) :
    List SocketInfo → Except ProcessError String
  | [] => .error .noSockets
  | si :: sockets =>
      if si.isAt addr then this.pathByPids si.associatedPids addr
      else this.findPath addr sockets

def processPathByLocalAddr (this : Processes) (addr : SocketAddr) (protocol : Protocol) :
    Except ProcessError String :=
  match this.getSocketsInfo addr.isIpv6 protocol with
  | .ok sockets => this.findPath addr sockets
  | .error error => .error (.sockets error)

/-- The name that the rules for apps are applied to; it is empty where the
process is not known. -/
def processName (this : Processes) (clientAddr : SocketAddr) : String :=
  match this.processPathByLocalAddr clientAddr .tcp with
  | .ok processPath => String.ofList ((fileName this.isSeparator processPath.toList).getD [])
  | .error _ => ""

end Processes

/-- `select_server` with its look at the process. -/
def selectServerFor {R : Type} [Rng R] (processes : Processes) (apps : List String)
    (servers : List Server) (targetHost : String) (clientAddr : SocketAddr) :
    Exec R Error (Option SelectedServer) :=
  selectServer apps servers targetHost (processes.processName clientAddr)

namespace Processes

/-- What a process is called: by its path where the system tells it. -/
def Calls (this : Processes) (pid : UInt32) (path : String) : Prop :=
  this.pathByPid pid = .ok path ∨
    (∃ error, this.pathByPid pid = .error error) ∧ path = pidText pid

/-- The first socket at the address belongs to the process first. -/
def Owns (this : Processes) (addr : SocketAddr) (protocol : Protocol) (pid : UInt32) : Prop :=
  ∃ before si after,
    this.getSocketsInfo addr.isIpv6 protocol = .ok (before ++ si :: after) ∧
      (∀ other ∈ before, other.isAt addr = false) ∧ si.isAt addr = true ∧
      si.associatedPids.head? = some pid

/-- The process that connects from an address has a program of that name,
wherever the program is. -/
def Runs (this : Processes) (clientAddr : SocketAddr) (name : String) : Prop :=
  IsFileName this.isSeparator name.toList ∧ ∃ pid path, this.Owns clientAddr .tcp pid ∧
    this.Calls pid path ∧ EndsInName this.isSeparator path.toList name.toList

variable {this : Processes}

theorem pathByPids_iff {pids : List UInt32} {addr : SocketAddr} {path : String} :
    this.pathByPids pids addr = .ok path ↔
      ∃ pid, pids.head? = some pid ∧ this.Calls pid path := by
  rw [pathByPids]
  cases pids.head? with
  | none => simp
  | some pid =>
      simp only [Option.some.injEq, exists_eq_left', Calls]
      cases this.pathByPid pid with
      | ok found => simp
      | error error => simp [eq_comm]

theorem findPath_eq (addr : SocketAddr) (sockets : List SocketInfo) :
    this.findPath addr sockets =
      match sockets.find? (SocketInfo.isAt addr) with
      | some si => this.pathByPids si.associatedPids addr
      | none => .error .noSockets := by
  induction sockets with
  | nil => rfl
  | cons first sockets ih =>
      rw [findPath, List.find?_cons]
      cases here : first.isAt addr with
      | true => rfl
      | false => exact ih

theorem findPath_iff {addr : SocketAddr} {sockets : List SocketInfo} {path : String} :
    this.findPath addr sockets = .ok path ↔
      ∃ before si after, sockets = before ++ si :: after ∧
        (∀ other ∈ before, other.isAt addr = false) ∧ si.isAt addr = true ∧
        ∃ pid, si.associatedPids.head? = some pid ∧ this.Calls pid path := by
  rw [findPath_eq]
  cases first : sockets.find? (SocketInfo.isAt addr) with
  | none =>
      refine iff_of_false (fun impossible => by cases impossible) fun found => ?_
      obtain ⟨before, si, after, rfl, _, here, _⟩ := found
      exact absurd here (List.find?_eq_none.mp first si (by simp))
  | some si =>
      rw [pathByPids_iff]
      obtain ⟨here, before, after, split, earlier⟩ := List.find?_eq_some_iff_append.mp first
      constructor
      · intro calls
        exact ⟨before, si, after, split, by simpa using earlier, here, calls⟩
      · intro found
        obtain ⟨before', si', after', split', earlier', here', calls⟩ := found
        have same : sockets.find? (SocketInfo.isAt addr) = some si' :=
          List.find?_eq_some_iff_append.mpr
            ⟨here', before', after', split', by simpa using earlier'⟩
        rw [first] at same
        rwa [Option.some.inj same]

theorem processPathByLocalAddr_iff {addr : SocketAddr} {protocol : Protocol} {path : String} :
    this.processPathByLocalAddr addr protocol = .ok path ↔
      ∃ pid, this.Owns addr protocol pid ∧ this.Calls pid path := by
  simp only [processPathByLocalAddr, Owns]
  cases this.getSocketsInfo addr.isIpv6 protocol with
  | error error => simp
  | ok sockets =>
      simp only [findPath_iff, Except.ok.injEq]
      constructor
      · intro found
        obtain ⟨before, si, after, split, earlier, here, pid, head, calls⟩ := found
        exact ⟨pid, ⟨before, si, after, split, earlier, here, head⟩, calls⟩
      · intro found
        obtain ⟨pid, ⟨before, si, after, split, earlier, here, head⟩, calls⟩ := found
        exact ⟨before, si, after, split, earlier, here, pid, head, calls⟩

/-- The process of a connection has a name just when it runs a program of that
name. -/
theorem processName_iff {clientAddr : SocketAddr} {name : String} (some' : name ≠ "") :
    this.processName clientAddr = name ↔ this.Runs clientAddr name := by
  have toName : ∀ path : String,
      String.ofList ((fileName this.isSeparator path.toList).getD []) = name ↔
        fileName this.isSeparator path.toList = some name.toList := by
    intro path
    cases fileName this.isSeparator path.toList with
    | none => simpa using some'.symm
    | some found => simp [String.ext_iff]
  rw [processName, Runs]
  cases answer : this.processPathByLocalAddr clientAddr .tcp with
  | error error =>
      refine iff_of_false some'.symm fun runs => ?_
      obtain ⟨_, pid, path, owns, calls, _⟩ := runs
      rw [processPathByLocalAddr_iff.mpr ⟨pid, owns, calls⟩] at answer
      cases answer
  | ok path =>
      simp only [toName, fileName_iff]
      constructor
      · intro found
        obtain ⟨pid, owns, calls⟩ := processPathByLocalAddr_iff.mp answer
        exact ⟨found.1, pid, path, owns, calls, found.2⟩
      · intro runs
        obtain ⟨named, pid, path', owns, calls, ends⟩ := runs
        have same := processPathByLocalAddr_iff.mpr ⟨pid, owns, calls⟩
        rw [answer] at same
        obtain rfl := Except.ok.inj same
        exact ⟨named, ends⟩

end Processes

section Direct

variable {R : Type} [Rng R] {apps : List String} {servers : List Server}
  {targetHost processName : String} {rng : R}

/-- Only the rules for apps lead around the servers. -/
theorem chooseServer_none_iff :
    (chooseServer apps servers targetHost processName rng).1 = .ok none ↔
      processName ≠ "" ∧ apps.any (contains processName) = true := by
  by_cases direct : processName ≠ "" ∧ apps.any (contains processName) = true
  · rw [chooseServer, if_pos direct]
    exact iff_of_true rfl direct
  refine iff_of_false ?_ direct
  by_cases nothing : servers = []
  · rw [chooseServer, if_neg direct, if_pos (by simp [nothing])]
    simp
  by_cases byProcess : ∃ srv ∈ servers, srv.servesProcess processName = true
  · obtain ⟨found, chosen⟩ := selectByProcess_named byProcess
    rw [chooseServer, if_neg direct, if_neg (by simp [nothing]), chosen]
    simp
  by_cases byDomain : ∃ srv ∈ servers, srv.servesDomain (hostVariants targetHost) = true
  · obtain ⟨found, chosen⟩ := selectByDomain_named byDomain ⟨0, 0, 0⟩
    have unnamed : selectByProcess processName servers = none :=
      selectByProcess_none fun srv there =>
        eq_false_of_ne_true fun serves => byProcess ⟨srv, there, serves⟩
    rw [chooseServer, if_neg direct, if_neg (by simp [nothing]), unnamed]
    simp [chosen]
  rcases chooseServer_drawn rng nothing direct byProcess byDomain with
    ⟨_, reason, panics⟩ | ⟨_, drawn⟩
  · rw [panics]
    simp
  · rw [drawn]
    obtain ⟨first, servers', rfl⟩ := List.exists_cons_of_ne_nil nothing
    cases selectByWeight (meanWeight (first :: servers'))
      (Rng.genRange rng 0 (meanWeight (first :: servers') * (first :: servers').length)).1
      (first :: servers') 0 <;> simp

theorem selectServer_none_iff :
    (selectServer apps servers targetHost processName rng).1 = .ok none ↔
      processName ≠ "" ∧ apps.any (contains processName) = true := by
  have chosen : (chooseServer apps servers targetHost processName rng).1 = .ok none ↔
      processName ≠ "" ∧ apps.any (contains processName) = true :=
    chooseServer_none_iff
  rw [← chosen, selectServer, Exec.bind_apply]
  rcases chooseServer apps servers targetHost processName rng with ⟨_ | _ | _, after⟩
  · simp
  · simp
  · simp

/-- A connection goes around all servers just when the process that owns its
socket runs a program with one of the apps in its name. -/
theorem selectServerFor_none_iff (processes : Processes) (clientAddr : SocketAddr) :
    (selectServerFor processes apps servers targetHost clientAddr rng).1 = .ok none ↔
      ∃ name app, processes.Runs clientAddr name ∧ app ∈ apps ∧ app.toList <:+: name.toList := by
  rw [selectServerFor, selectServer_none_iff, List.any_eq_true]
  constructor
  · intro direct
    obtain ⟨some', app, there, inside⟩ := direct
    exact ⟨_, app, (Processes.processName_iff some').mp rfl, there, of_decide_eq_true inside⟩
  · intro runs
    obtain ⟨name, app, runs, there, inside⟩ := runs
    have some' : name ≠ "" := fun empty => runs.1.some (by simp [empty])
    rw [(Processes.processName_iff some').mpr runs]
    exact ⟨some', app, there, decide_eq_true inside⟩

end Direct

end CovertConnect.Client
