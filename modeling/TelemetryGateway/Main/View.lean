import Mathlib.Data.Fintype.Basic
import TelemetryGateway.Consumer.SendBack
import TelemetryGateway.Foundation.Processes
import TelemetryGateway.Main.Tcp
import TelemetryGateway.View.Http
import TelemetryGateway.View.Page

/-! # The view process

`main` of the view connects to the gateway, again and again if it has to, while
the thread of its server accepts browsers. Both refer to the page, which `main`
has made before the server and gives up after it. -/

namespace TelemetryGateway.ViewMain

open Handles Program Main

structure Config where
  host : String
  port : UInt16
  httpPort : UInt16
  /-- with the bytes it has found on the page, and the path -/
  handler : List UInt8 → List UInt8 → Http.Response

structure Setup where
  page : Handle
  server : Tcp.Listening
  startedNs : UInt64
  nextTick : UInt64

def Setup.entries (setup : Setup) : List (Handle × Mode) :=
  [(setup.server.listenFd, Tcp.listener), (setup.server.stopFd, event),
    (setup.server.object, object .server), (setup.page, object .page)]

def Setup.destroy (setup : Setup) : Run Unit :=
  releaseAll (setup.entries.map Prod.fst)

section

variable (strerror gaiStrerror : Nat → String)

def startup (config : Config) : Run (Except Exit Setup) := do
  let page ← make (.new .page) []
  let started ← ask
  match ← Tcp.createListening strerror .server config.httpPort with
  | .error error =>
      release page
      return .error { code := 1, message := "http: " ++ error }
  | .ok server =>
      let now ← ask
      return .ok { page := page, server := server, startedNs := UInt64.ofNat started.value,
                   nextTick := UInt64.ofNat now.value + View.Loop.second }

/-! ## The consumer loop -/

def connectStream (config : Config) : Run (Except String Handle) := do
  match ← Tcp.connectTo strerror gaiStrerror config.host config.port with
  | .error error => return .error error
  | .ok fd =>
      match ← Tcp.setNonblocking strerror fd with
      | .error error => Tcp.abandon fd error
      | .ok () => return .ok fd

/-- A call of `read_batch` has returned. Of each echo that is to go back, what
has not been sent yet. -/
structure Round where
  status : FrameStream.Status
  batch : FrameStream.Batch
  now : UInt64
  echoes : List (List UInt8)

structure Consumer where
  loop : View.Loop
  /-- the descriptor of the stream, while there is one -/
  stream : Option Nat := none
  round : Option Round := none

/-- `stop`, of the server; its thread is joined behind it. -/
def stopServer (server : Tcp.Listening) : Run Unit := do
  let _ ← invoke [server.object]
  let _ ← use .write [server.stopFd]
  return ()

def connect (config : Config) (setup : Setup) (consumer : Consumer) : Run Consumer := do
  match ← connectStream strerror gaiStrerror config with
  | .ok (.fd (.ofNat fd)) =>
      let _ ← invoke [setup.page]
      return { loop := consumer.loop.connect, stream := some fd }
  | _ => return consumer

def leave (setup : Setup) (consumer : Consumer) (fd : Nat) : Run Consumer := do
  let _ ← invoke [setup.page]
  release (.fd fd)
  return { loop := consumer.loop.disconnect }

/-- The batch a call of `read_batch` can have handed over. -/
def batchOf (reply : Reply) : FrameStream.Batch where
  frames := reply.frames.filter fun frame => frame.len.toNat ≤ kMaxPayload
  short := fun _ member => of_decide_eq_true (List.mem_filter.mp member).2

/-- The machine takes a round. When that overflows there is nothing the thread
goes on with. -/
def Consumer.turn (consumer : Consumer) (round : Round) : Consumer :=
  match consumer.loop.round round.status round.batch round.now with
  | some loop => { consumer with loop := loop, round := none }
  | none => consumer

def echoesOf (batch : List Frame) : List (List UInt8) :=
  (batch.filter Wire.isEcho).map FrameStream.replyMessage

/-- Whether `read_batch` returns now, and with what, is up to the bytes there
are: see `FrameStream`. -/
def concluded (consumer : Consumer) : Run Consumer := do
  let outcome ← ask
  let now ← ask
  let batch := batchOf outcome
  let round : Round := { status := .kOk, batch := batch, now := UInt64.ofNat now.value,
                         echoes := echoesOf batch.frames }
  match outcome.value with
  | 0 => return consumer
  | 1 => return { consumer with round := some round }
  | 2 => return { consumer with round := some { round with status := .kTimeout, echoes := [] } }
  | 3 => return consumer.turn { round with status := .kClosed }
  | _ =>
      return { consumer with round := some { round with status := .kProtocolError, echoes := [] } }

def readSome (consumer : Consumer) (fd : Nat) : Run Consumer := do
  match ← use .read [.fd fd] with
  | .error errno =>
      if errno = EAGAIN then
        let _ ← use .poll [.fd fd]
        concluded consumer
      else concluded consumer
  | .ok _ => concluded consumer

/-- What is left to send after one `send` of `send_back`. A reply that is
refused is given up, whatever has been sent of it. -/
def sendEcho (fd : Nat) (msg : List UInt8) (rest : List (List UInt8)) :
    Run (List (List UInt8)) := do
  match ← use .send [.fd fd] with
  | .ok reply =>
      if 0 < reply.value ∧ reply.value < msg.length then return msg.drop reply.value :: rest
      else return rest
  | .error errno => if errno = EINTR then return msg :: rest else return rest

def goOn (setup : Setup) (consumer : Consumer) (fd : Nat) (round : Round) : Run Consumer := do
  let _ ← invoke [setup.page]
  match round.echoes with
  | msg :: rest =>
      let left ← sendEcho fd msg rest
      return { consumer with round := some { round with echoes := left } }
  | [] =>
      return consumer.turn round

def consumerTurn (config : Config) (setup : Setup) (consumer : Consumer) :
    Run (Consumer ⊕ Consumer) := do
  match consumer.stream, consumer.round with
  | some fd, some round => Sum.inl <$> goOn setup consumer fd round
  | some fd, none =>
      let stop ← ask
      if stop.value ≠ 0 ∨ consumer.loop.stage = .leaving then
        Sum.inl <$> leave setup consumer fd
      else Sum.inl <$> readSome consumer fd
  | none, _ =>
      let stop ← ask
      if stop.value ≠ 0 then
        stopServer setup.server
        return .inr consumer
      else Sum.inl <$> connect strerror gaiStrerror config setup consumer

/-! ## The server -/

/-- What `Server::run` is at: the connection it serves, with the request as far
as it has come or the reply as far as it is still to be sent. -/
inductive Serving
  | idle
  | reading (fd : Nat) (request : List UInt8)
  | writing (fd : Nat) (out : List UInt8)

def Serving.fd : Serving → Option Nat
  | .idle => none
  | .reading fd _ => some fd
  | .writing fd _ => some fd

def acceptClient (server : Tcp.Listening) : Run Serving := do
  match ← Tcp.acceptNonblocking strerror server.listenFd with
  | .client (.fd (.ofNat fd)) => return .reading fd []
  | _ => return .idle

def listen (server : Tcp.Listening) : Run (Serving ⊕ Serving) := do
  match ← use .poll [server.listenFd, server.stopFd] with
  | .error errno => if errno = EINTR then return .inl .idle else return .inr .idle
  | .ok reply =>
      if reply.value ≠ 0 && reply.ready 1 POLLIN then return .inr .idle
      else if reply.value ≠ 0 && reply.ready 0 POLLIN then
        Sum.inl <$> acceptClient strerror server
      else return .inl .idle

def hangUp (fd : Nat) : Run Serving := do
  release (.fd fd)
  return .idle

/-- Where a call would block: the connection is closed unless `poll` finds
something in time. -/
def await (fd : Nat) (serving : Serving) : Run Serving := do
  match ← use .poll [.fd fd] with
  | .error _ => hangUp fd
  | .ok reply => if reply.value = 0 then hangUp fd else return serving

def answer (config : Config) (setup : Setup) (request : List UInt8) : Run (List UInt8) := do
  match Http.requestPath request with
  | none => return Http.respondTo { status := 400, body := Http.text "malformed request" }
  | some path =>
      let found ← invoke [setup.page]
      return Http.respondTo (config.handler found.bytes path)

def recvSome (fd : Nat) (request : List UInt8) : Run Serving := do
  match ← use .recv [.fd fd] with
  | .ok reply =>
      if reply.bytes = [] then hangUp fd else return .reading fd (request ++ reply.bytes)
  | .error errno =>
      if errno = EINTR then return .reading fd request
      else if errno = EAGAIN then await fd (.reading fd request)
      else hangUp fd

def readRequest (config : Config) (setup : Setup) (fd : Nat) (request : List UInt8) :
    Run Serving := do
  if (findPart Http.terminator request).isSome then
    let out ← answer config setup request
    return .writing fd out
  else if Http.kMaxRequest < request.length then
    let _ ← use .send [.fd fd]
    hangUp fd
  else recvSome fd request

def writeReply (fd : Nat) (out : List UInt8) : Run Serving := do
  if out = [] then hangUp fd
  else
    match ← use .send [.fd fd] with
    | .ok reply =>
        if 0 < reply.value then return .writing fd (out.drop reply.value) else hangUp fd
    | .error errno =>
        if errno = EAGAIN then await fd (.writing fd out)
        else if errno = EINTR then return .writing fd out
        else hangUp fd

def serverTurn (config : Config) (setup : Setup) (serving : Serving) :
    Run (Serving ⊕ Serving) := do
  let _ ← invoke [setup.server.object]
  match serving with
  | .idle => listen strerror setup.server
  | .reading fd request => Sum.inl <$> readRequest config setup fd request
  | .writing fd out => Sum.inl <$> writeReply fd out

/-! ## The process -/

inductive Role
  | consumer
  | server
  deriving DecidableEq

instance : Fintype Role where
  elems := {.consumer, .server}
  complete role := by cases role <;> decide

abbrev Role.State : Role → Type
  | .consumer => Consumer
  | .server => Serving

def finish (setup : Setup) : Run Exit := do
  let _ ← invoke [setup.page, setup.server.object]
  setup.destroy
  return { code := 0 }

def view (config : Config) :
    Process Call Handle Reply Setup Exit Role Role.State Role.State where
  startup := startup strerror config
  first setup
    | .consumer => { loop := View.Loop.start setup.startedNs setup.nextTick }
    | .server => .idle
  turn setup
    | .consumer, consumer => consumerTurn strerror gaiStrerror config setup consumer
    | .server, serving => serverTurn strerror config setup serving
  finish setup _ := finish setup

end

end TelemetryGateway.ViewMain
