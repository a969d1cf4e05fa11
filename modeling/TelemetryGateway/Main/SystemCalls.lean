import TelemetryGateway.Foundation.Processes
import TelemetryGateway.Frame

/-! # Descriptors and objects

What the processes hold: file descriptors, and the objects that something else
refers to. A descriptor is used only for what it is and only once it has been
prepared for that: a connection is written to only with `TCP_NODELAY` set and
without blocking, a CAN socket is read only with time stamps and the count of
overflows requested. -/

namespace TelemetryGateway.Main

open Handles Program

/-- A descriptor that is open is never negative: `-1` stands for none. -/
inductive Handle
  | fd (number : Int)
  | object (address : Nat)
  deriving DecidableEq

inductive Object
  /-- the list `getaddrinfo` returns -/
  | addresses
  | source
  | ring
  | feed
  | egress
  /-- a `FanOut` or a `RingIngest` -/
  | ingest
  /-- what the consumer loop of the view and its server share -/
  | page
  | server
  deriving DecidableEq

inductive Domain
  | inet
  | can
  deriving DecidableEq

inductive SocketOption
  | reuseaddr
  | nodelay
  | sndbuf
  | timestamping
  | rxqOvfl
  | canRecvOwnMsgs
  | canErrFilter
  deriving DecidableEq

inductive Call
  | getaddrinfo
  | socket (domain : Domain) (nonblock : Bool)
  | accept
  | eventfd
  | timerfdCreate
  | new (object : Object)
  | setsockopt (option : SocketOption)
  | ioctlIndex
  | bind
  | listen
  | connect
  | getsockname
  | getFlags
  | setNonblock
  | timerfdSettime
  | poll
  | send
  | recv
  | read
  | recvmmsg
  /-- of a stop descriptor -/
  | write
  /-- a member function of an object -/
  | method
  deriving DecidableEq

inductive Kind
  | stream
  | can
  | event
  | timer
  | object (object : Object)
  deriving DecidableEq

inductive Setting
  | nonblock
  | option (option : SocketOption)
  | indexed
  | bound
  | listening
  | connected
  | armed
  deriving DecidableEq

structure Mode where
  kind : Kind
  settings : List Setting := []
  deriving DecidableEq

def Mode.add (mode : Mode) (setting : Setting) : Mode :=
  { mode with settings := setting :: mode.settings }

def Mode.descriptor (mode : Mode) : Bool :=
  match mode.kind with
  | .object _ => false
  | _ => true

def Mode.is (mode : Mode) (kind : Kind) (settings : List Setting) : Bool :=
  mode.kind = kind && settings.all (mode.settings.contains ·)

def discipline : Discipline Call Handle Mode where
  fresh
    | .getaddrinfo, .object _ => some { kind := .object .addresses }
    | .socket .inet nonblock, .fd (.ofNat _) =>
        some { kind := .stream, settings := if nonblock then [.nonblock] else [] }
    | .socket .can nonblock, .fd (.ofNat _) =>
        some { kind := .can, settings := if nonblock then [.nonblock] else [] }
    | .accept, .fd (.ofNat _) => some { kind := .stream, settings := [.connected] }
    | .eventfd, .fd (.ofNat _) => some { kind := .event, settings := [.nonblock] }
    | .timerfdCreate, .fd (.ofNat _) => some { kind := .timer, settings := [.nonblock] }
    | .new object, .object _ => some { kind := .object object }
    | _, _ => none
  allows
    | .accept, mode => mode.is .stream [.listening, .nonblock]
    | .new .feed, mode => mode.is (.object .ring) []
    | .setsockopt .reuseaddr, mode => mode.is .stream [] && !mode.settings.contains .bound
    | .setsockopt .nodelay, mode => mode.is .stream [.connected]
    | .setsockopt .sndbuf, mode => mode.is .stream [.connected]
    | .setsockopt _, mode => mode.is .can [.bound]
    | .ioctlIndex, mode => mode.is .can []
    | .bind, mode => mode.is .stream [.option .reuseaddr] || mode.is .can [.indexed]
    | .listen, mode => mode.is .stream [.bound]
    | .connect, mode => mode.is .stream [] && !mode.settings.contains .connected
    | .getsockname, mode => mode.is .stream [.bound]
    | .getFlags, mode => mode.descriptor
    | .setNonblock, mode => mode.descriptor
    | .timerfdSettime, mode => mode.is .timer []
    | .poll, mode => mode.descriptor
    | .send, mode => mode.is .stream [.connected, .nonblock, .option .nodelay]
    | .recv, mode => mode.is .stream [.connected, .nonblock, .option .nodelay]
    | .read, mode =>
        mode.is .timer [.armed, .nonblock] ||
          mode.is .stream [.connected, .nonblock, .option .nodelay]
    | .recvmmsg, mode =>
        mode.is .can [.nonblock, .bound, .option .timestamping, .option .rxqOvfl,
          .option .canRecvOwnMsgs]
    | .write, mode => mode.is .event [.nonblock]
    | .method, mode => !mode.descriptor
    | _, _ => false
  after
    | .setsockopt option, mode => mode.add (.option option)
    | .ioctlIndex, mode => mode.add .indexed
    | .bind, mode => mode.add .bound
    | .listen, mode => mode.add .listening
    | .connect, mode => mode.add .connected
    | .setNonblock, mode => mode.add .nonblock
    | .timerfdSettime, mode => mode.add .armed
    | _, mode => mode

/-- What a call or the world returns: a number, the `revents` of a `poll`, the
bytes of a `recv`, the frames of a feed. Each call has its part of it. -/
structure Reply where
  value : Nat := 0
  revents : List Nat := []
  bytes : List UInt8 := []
  frames : List Frame := []

abbrev Run := Program Call Handle Reply

def opened (number : Nat) : Answer Handle Reply :=
  .handle (.fd number)

def made (address : Nat) : Answer Handle Reply :=
  .handle (.object address)

def replied (value : Nat) (revents : List Nat) : Answer Handle Reply :=
  .data { value := value, revents := revents }

/-- What `main` returns, and what it prints when it gives up. -/
structure Exit where
  code : Nat
  message : String := ""

def EINTR : Nat := 4
def EAGAIN : Nat := 11
def POLLIN : Nat := 0x1

def Reply.ready (reply : Reply) (i events : Nat) : Bool :=
  reply.revents.getD i 0 &&& events ≠ 0

def invoke (on : List Handle) : Run Reply := do
  match ← use .method on with
  | .error _ => return {}
  | .ok reply => return reply

/-! ## What there is after a call -/

def object (kind : Object) : Mode where
  kind := .object kind

def event : Mode where
  kind := .event
  settings := [.nonblock]

section

variable {shared own : Table Handle Mode}

theorem make_safe {kind : Object} {on : List Handle} {post : Handle → Table Handle Mode → Prop}
    (permitted : discipline.permits (own.beside shared) (.new kind) on = true)
    (made : ∀ handle, own handle = none → post handle (own.set handle (object kind))) :
    (make (.new kind) on : Run Handle).Safe discipline shared own post := by
  rw [safe_make]
  refine ⟨permitted, ?_⟩
  intro handle mode fresh free _
  cases handle with
  | fd number => cases fresh
  | object address =>
      cases fresh
      exact made _ free

theorem eventfd_safe {post : Except Nat Handle → Table Handle Mode → Prop}
    (failed : ∀ errno, post (.error errno) own)
    (made : ∀ handle, own handle = none → post (.ok handle) (own.set handle event)) :
    (create .eventfd [] : Run _).Safe discipline shared own post := by
  rw [safe_create]
  refine ⟨rfl, failed, ?_⟩
  intro handle mode fresh free _
  rcases handle with ⟨number | negative⟩ | address
  · cases fresh
    exact made _ free
  · cases fresh
  · cases fresh

theorem invoke_safe {on : List Handle}
    {post : Reply → Table Handle Mode → Prop}
    (there : discipline.permits (own.beside shared) .method on = true)
    (answered : ∀ reply, post reply own) : (invoke on).Safe discipline shared own post := by
  unfold invoke
  rw [safe_bind]
  apply safe_use_passive (fun mode => rfl) there
  intro answer
  cases answer with
  | error errno => exact answered _
  | ok reply => exact answered reply

end

end TelemetryGateway.Main
