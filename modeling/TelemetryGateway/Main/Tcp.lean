import TelemetryGateway.Main.SystemCalls

/-! # Sockets

What `tcp.cpp` does to descriptors. Whatever fails, a function that returns no
descriptor has left none open. -/

namespace TelemetryGateway.Main.Tcp

open Handles Program

section

variable (strerror : Nat → String)

def setNonblocking (fd : Handle) : Run (Except String Unit) := do
  match ← use .getFlags [fd] with
  | .error errno => return .error ("fcntl(O_NONBLOCK): " ++ strerror errno)
  | .ok _ =>
      match ← use .setNonblock [fd] with
      | .error errno => return .error ("fcntl(O_NONBLOCK): " ++ strerror errno)
      | .ok _ => return .ok ()

def setNodelay (fd : Handle) : Run (Except String Unit) := do
  match ← use (.setsockopt .nodelay) [fd] with
  | .error errno => return .error ("setsockopt(TCP_NODELAY): " ++ strerror errno)
  | .ok _ => return .ok ()

def abandon (fd : Handle) (error : String) : Run (Except String T) := do
  release fd
  return .error error

def listenOn (port : UInt16) : Run (Except String Handle) := do
  match ← create (.socket .inet false) [] with
  | .error errno => return .error ("socket: " ++ strerror errno)
  | .ok fd =>
      match ← use (.setsockopt .reuseaddr) [fd] with
      | .error errno => abandon fd ("setsockopt(SO_REUSEADDR): " ++ strerror errno)
      | .ok _ =>
          match ← use .bind [fd] with
          | .error errno => abandon fd ("bind port " ++ toString port ++ ": " ++ strerror errno)
          | .ok _ =>
              match ← use .listen [fd] with
              | .error errno => abandon fd ("listen: " ++ strerror errno)
              | .ok _ =>
                  match ← setNonblocking strerror fd with
                  | .error error => abandon fd error
                  | .ok () => return .ok fd

def localPort (fd : Handle) : Run UInt16 := do
  match ← use .getsockname [fd] with
  | .error _ => return 0
  | .ok reply => return UInt16.ofNat reply.value

structure Listening where
  listenFd : Handle
  stopFd : Handle
  object : Handle
  port : UInt16

/-- `Egress::create` and `Server::create`, with the object they make. -/
def createListening (kind : Object) (port : UInt16) : Run (Except String Listening) := do
  match ← listenOn strerror port with
  | .error error => return .error error
  | .ok listenFd =>
      match ← create .eventfd [] with
      | .error errno => abandon listenFd ("eventfd: " ++ strerror errno)
      | .ok stopFd =>
          let bound ← localPort listenFd
          let object ← make (.new kind) []
          return .ok { listenFd := listenFd, stopFd := stopFd, object := object,
                       port := if bound ≠ 0 then bound else port }

inductive Accepted
  | client (fd : Handle)
  | wouldBlock
  | failed (error : String)

def acceptNonblocking (listenFd : Handle) : Run Accepted := do
  match ← create .accept [listenFd] with
  | .ok fd =>
      match ← setNonblocking strerror fd with
      | .error error =>
          release fd
          return .failed error
      | .ok () =>
          match ← setNodelay strerror fd with
          | .error error =>
              release fd
              return .failed error
          | .ok () => return .client fd
  | .error errno =>
      if errno = EAGAIN then return .wouldBlock
      else return .failed ("accept: " ++ strerror errno)

end

def tryAddresses (res : Handle) : Nat → Run (Option Handle)
  | 0 => return none
  | count + 1 => do
      let _ ← use .method [res]
      match ← create (.socket .inet false) [] with
      | .error _ => tryAddresses res count
      | .ok fd =>
          match ← use .connect [fd] with
          | .ok _ => return some fd
          | .error _ =>
              release fd
              tryAddresses res count

/-- `errno` is read after the loop and `freeaddrinfo`, whatever it is then. -/
def connectTo (strerror gaiStrerror : Nat → String) (host : String) (port : UInt16) :
    Run (Except String Handle) := do
  match ← create .getaddrinfo [] with
  | .error code => return .error ("getaddrinfo " ++ host ++ ": " ++ gaiStrerror code)
  | .ok res =>
      let addresses ← ask
      let connection ← tryAddresses res addresses.value
      release res
      match connection with
      | none =>
          let errno ← ask
          return .error
            ("connect " ++ host ++ ":" ++ toString port ++ ": " ++ strerror errno.value)
      | some fd =>
          match ← setNodelay strerror fd with
          | .error error => abandon fd error
          | .ok () => return .ok fd

/-! ## What they do to descriptors -/

def listener : Mode where
  kind := .stream
  settings := [.nonblock, .listening, .bound, .option .reuseaddr]

def client : Mode where
  kind := .stream
  settings := [.option .nodelay, .nonblock, .connected]

/-- A connection `connect_to` has opened, still blocking. -/
def connection : Mode where
  kind := .stream
  settings := [.option .nodelay, .connected]

def writable (mode : Mode) : Bool :=
  mode.is .stream [.connected, .nonblock, .option .nodelay]

theorem writable_kind {mode : Mode} (able : writable mode = true) : mode.descriptor = true := by
  simp only [writable, Mode.is, Bool.and_eq_true, decide_eq_true_eq] at able
  rw [Mode.descriptor, able.1]

def OwnsConnection (own : Table Handle Mode) : Option Nat → Prop
  | none => own = Table.empty
  | some number => ∃ mode, writable mode = true ∧ own = Table.empty.set (.fd number) mode

section

variable {strerror : Nat → String} {shared own : Table Handle Mode}

theorem permits_connection {number : Nat} (owns : OwnsConnection own (some number)) {call : Call}
    (allowed : ∀ mode, writable mode = true → discipline.allows call mode = true) :
    discipline.permits (own.beside shared) call [.fd number] = true := by
  rcases owns with ⟨mode, able, rfl⟩
  exact permits_set (allowed mode able)

theorem setNonblocking_safe {fd : Handle} {mode : Mode}
    {post : Except String Unit → Table Handle Mode → Prop} (descriptor : mode.descriptor = true)
    (failed : ∀ error, post (.error error) (own.set fd mode))
    (done : post (.ok ()) (own.set fd (mode.add .nonblock))) :
    (setNonblocking strerror fd).Safe discipline shared (own.set fd mode) post := by
  unfold setNonblocking
  rw [safe_bind]
  apply safe_use_set descriptor
  · exact fun errno => failed _
  · intro _
    dsimp only
    rw [safe_bind]
    apply safe_use_set descriptor
    · exact fun errno => failed _
    · exact fun _ => done

theorem setNodelay_safe {fd : Handle} {mode : Mode}
    {post : Except String Unit → Table Handle Mode → Prop}
    (connected : mode.is .stream [.connected] = true)
    (failed : ∀ error, post (.error error) (own.set fd mode))
    (done : post (.ok ()) (own.set fd (mode.add (.option .nodelay)))) :
    (setNodelay strerror fd).Safe discipline shared (own.set fd mode) post := by
  unfold setNodelay
  rw [safe_bind]
  apply safe_use_set connected
  · exact fun errno => failed _
  · exact fun _ => done

theorem abandon_safe {fd : Handle} {mode : Mode} {error : String}
    {post : Except String T → Table Handle Mode → Prop} (free : own fd = none)
    (failed : post (.error error) own) :
    (abandon fd error).Safe discipline shared (own.set fd mode) post := by
  unfold abandon
  rw [safe_bind, safe_release, Table.set_self, Table.erase_set free]
  exact ⟨rfl, failed⟩

theorem socket_safe {post : Except Nat Handle → Table Handle Mode → Prop}
    (failed : ∀ errno, post (.error errno) own)
    (made : ∀ number : Nat, own (.fd number) = none → shared (.fd number) = none →
      post (.ok (.fd number)) (own.set (.fd number) { kind := .stream })) :
    (create (.socket .inet false) [] : Run _).Safe discipline shared own post := by
  rw [safe_create]
  refine ⟨rfl, failed, ?_⟩
  intro handle mode fresh free apart
  rcases handle with ⟨number | negative⟩ | address
  · cases fresh
    exact made number free apart
  · cases fresh
  · cases fresh

theorem listenOn_safe {port : UInt16} {post : Except String Handle → Table Handle Mode → Prop}
    (failed : ∀ error, post (.error error) own)
    (opened : ∀ fd, own fd = none → shared fd = none → post (.ok fd) (own.set fd listener)) :
    (listenOn strerror port).Safe discipline shared own post := by
  unfold listenOn
  rw [safe_bind]
  apply socket_safe
  · exact fun errno => failed _
  · intro number free apart
    dsimp only
    rw [safe_bind]
    apply safe_use_set rfl
    · exact fun errno => abandon_safe free (failed _)
    · intro _
      dsimp only
      rw [safe_bind]
      apply safe_use_set rfl
      · exact fun errno => abandon_safe free (failed _)
      · intro _
        dsimp only
        rw [safe_bind]
        apply safe_use_set rfl
        · exact fun errno => abandon_safe free (failed _)
        · intro _
          dsimp only
          rw [safe_bind]
          apply setNonblocking_safe rfl
          · exact fun error => abandon_safe free (failed error)
          · exact opened _ free apart

theorem localPort_safe {fd : Handle} {post : UInt16 → Table Handle Mode → Prop}
    (bound : discipline.permits (own.beside shared) .getsockname [fd] = true)
    (answered : ∀ port, post port own) : (localPort fd).Safe discipline shared own post := by
  unfold localPort
  rw [safe_bind]
  apply safe_use_passive (fun mode => rfl) bound
  intro answer
  cases answer with
  | error errno => exact answered 0
  | ok reply => exact answered _

theorem createListening_safe {kind : Object} {port : UInt16}
    {post : Except String Listening → Table Handle Mode → Prop}
    (failed : ∀ error, post (.error error) own)
    (created : ∀ listening : Listening, own listening.listenFd = none →
      own.set listening.listenFd listener listening.stopFd = none →
      (own.set listening.listenFd listener).set listening.stopFd event listening.object = none →
      post (.ok listening) (((own.set listening.listenFd listener).set listening.stopFd event).set
        listening.object (object kind))) :
    (createListening strerror kind port).Safe discipline shared own post := by
  unfold createListening
  rw [safe_bind]
  apply listenOn_safe failed
  intro listenFd free _
  dsimp only
  rw [safe_bind]
  apply eventfd_safe
  · exact fun errno => abandon_safe free (failed _)
  · intro stopFd stopFree
    dsimp only
    rw [safe_bind]
    -- the listening descriptor is not the one that was opened last
    have different : listenFd ≠ stopFd := by
      intro same
      rw [← same, Table.set_self] at stopFree
      cases stopFree
    apply localPort_safe
    · rw [Discipline.permits_iff]
      intro handle member
      rw [List.mem_singleton.mp member]
      refine ⟨listener, Table.beside_of_some ?_, rfl⟩
      rw [Table.set_of_ne _ _ different, Table.set_self]
    · intro bound
      rw [safe_bind]
      apply make_safe rfl
      intro object fresh
      exact created _ free stopFree fresh

theorem acceptNonblocking_safe {listenFd : Handle}
    {post : Accepted → Table Handle Mode → Prop}
    (listening : discipline.permits (own.beside shared) .accept [listenFd] = true)
    (nobody : ∀ result, (∀ fd, result ≠ .client fd) → post result own)
    (accepted : ∀ number : Nat, own (.fd number) = none → shared (.fd number) = none →
      post (.client (.fd number)) (own.set (.fd number) client)) :
    (acceptNonblocking strerror listenFd).Safe discipline shared own post := by
  have failed (error : String) : post (.failed error) own :=
    nobody _ fun fd impossible => Accepted.noConfusion impossible
  unfold acceptNonblocking
  rw [safe_bind, safe_create]
  refine ⟨listening, ?_, ?_⟩
  · intro errno
    dsimp only
    split
    · exact nobody _ fun fd impossible => Accepted.noConfusion impossible
    · exact failed _
  · intro fd mode fresh free apart
    rcases fd with ⟨number | negative⟩ | address
    · cases fresh
      dsimp only
      rw [safe_bind]
      apply setNonblocking_safe rfl
      · intro error
        dsimp only
        rw [safe_bind, safe_release, Table.set_self, Table.erase_set free]
        exact ⟨rfl, failed error⟩
      · dsimp only
        rw [safe_bind]
        apply setNodelay_safe rfl
        · intro error
          dsimp only
          rw [safe_bind, safe_release, Table.set_self, Table.erase_set free]
          exact ⟨rfl, failed error⟩
        · exact accepted number free apart
    · cases fresh
    · cases fresh

/-- Of the addresses that are tried no descriptor is left but the one that is
connected. -/
theorem tryAddresses_safe {res : Handle} {count : Nat}
    {post : Option Handle → Table Handle Mode → Prop}
    (list : discipline.permits (own.beside shared) .method [res] = true)
    (nobody : post none own)
    (connected : ∀ number : Nat, own (.fd number) = none → shared (.fd number) = none →
      post (some (.fd number))
        (own.set (.fd number) { kind := .stream, settings := [.connected] })) :
    (tryAddresses res count).Safe discipline shared own post := by
  induction count with
  | zero => exact nobody
  | succ count induction =>
      unfold tryAddresses
      rw [safe_bind]
      apply safe_use_passive (fun mode => rfl) list
      intro _
      rw [safe_bind]
      apply socket_safe
      · exact fun errno => induction
      · intro number free apart
        dsimp only
        rw [safe_bind]
        apply safe_use_set rfl
        · intro errno
          dsimp only
          rw [safe_bind, safe_release, Table.set_self, Table.erase_set free]
          exact ⟨rfl, induction⟩
        · exact fun _ => connected number free apart

theorem connectTo_safe {gaiStrerror : Nat → String} {host : String} {port : UInt16}
    {post : Except String Handle → Table Handle Mode → Prop}
    (failed : ∀ error, post (.error error) own)
    (connected : ∀ number : Nat, own (.fd number) = none → shared (.fd number) = none →
      post (.ok (.fd number)) (own.set (.fd number) connection)) :
    (connectTo strerror gaiStrerror host port).Safe discipline shared own post := by
  unfold connectTo
  rw [safe_bind, safe_create]
  refine ⟨rfl, fun code => failed _, ?_⟩
  intro res mode fresh free _
  rcases res with number | address
  · cases number <;> cases fresh
  · cases fresh
    dsimp only
    rw [safe_bind, safe_ask]
    intro addresses
    rw [safe_bind]
    apply tryAddresses_safe (permits_set rfl)
    · rw [safe_bind, safe_release, Table.set_self, Table.erase_set free]
      exact ⟨rfl, fun errno => failed _⟩
    · intro number mine apart
      have other : Handle.object address ≠ .fd number := fun same => Handle.noConfusion same
      rw [Table.set_of_ne _ _ other.symm] at mine
      rw [safe_bind, safe_release, Table.set_of_ne _ _ other, Table.set_self,
        Table.erase_set_of_ne _ _ other, Table.erase_set free]
      refine ⟨rfl, ?_⟩
      dsimp only
      rw [safe_bind]
      apply setNodelay_safe rfl
      · exact fun error => abandon_safe mine (failed error)
      · exact connected number mine apart

end

end TelemetryGateway.Main.Tcp
