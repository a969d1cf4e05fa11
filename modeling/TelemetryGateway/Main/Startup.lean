import TelemetryGateway.Egress.Run
import TelemetryGateway.Feed.SyntheticSource
import TelemetryGateway.Main.Tcp

/-! # Setting up the gateway

`main` opens its sources, makes the ring and the feeds, lets each consumer's port
listen and creates the ingest. Where one of these fails, what is there already is
destroyed and `main` returns. -/

namespace TelemetryGateway.Main

open Handles Program

/-! ## Objects and what they own -/

def timer : Mode where
  kind := .timer
  settings := [.armed, .nonblock]

def bus (receiveErrors : Bool) : Mode where
  kind := .can
  settings := (if receiveErrors then [.option .canErrFilter] else []) ++
    [.option .canRecvOwnMsgs, .option .rxqOvfl, .option .timestamping, .bound, .indexed, .nonblock]

inductive SourceClass
  | can (receiveErrors : Bool)
  | synthetic

structure SourceObject where
  fd : Handle
  object : Handle
  type : SourceClass

def SourceObject.mode (source : SourceObject) : Mode :=
  match source.type with
  | .can receiveErrors => bus receiveErrors
  | .synthetic => timer

def SourceObject.entries (source : SourceObject) : List (Handle × Mode) :=
  [(source.fd, source.mode), (source.object, Main.object .source)]

structure FeedObject where
  object : Handle
  ring : Option Handle
  deriving DecidableEq

def FeedObject.uses (feed : FeedObject) : List Handle :=
  feed.object :: feed.ring.toList

structure EgressObject extends Tcp.Listening where
  clientFd : Option Handle := none
  feed : FeedObject

def EgressObject.entries (egress : EgressObject) (client : Mode) : List (Handle × Mode) :=
  (egress.clientFd.toList.map fun fd => (fd, client)) ++
    [(egress.listenFd, Tcp.listener), (egress.stopFd, event), (egress.object, Main.object .egress)]

/-- A `RingIngest` or a `FanOut`. -/
structure IngestObject where
  stopFd : Handle
  object : Handle

def IngestObject.entries (ingest : IngestObject) : List (Handle × Mode) :=
  [(ingest.stopFd, event), (ingest.object, Main.object .ingest)]

/-- The locals of `main` that own something. -/
structure Setup where
  sources : List SourceObject := []
  ring : Option Handle := none
  feeds : List FeedObject := []
  tapFeed : Option FeedObject := none
  egresses : List EgressObject := []
  ingest : Option IngestObject := none

namespace Setup

def entries (setup : Setup) : List (Handle × Mode) :=
  setup.ingest.toList.flatMap IngestObject.entries ++
    (setup.egresses.flatMap (EgressObject.entries · Tcp.client) ++
      (setup.tapFeed.toList.map (fun feed => (feed.object, object .feed)) ++
        (setup.feeds.map (fun feed => (feed.object, object .feed)) ++
          (setup.ring.toList.map (fun ring => (ring, object .ring)) ++
            setup.sources.flatMap SourceObject.entries))))

/-- What happens at a `return`. No thread is running then. -/
def destroy (setup : Setup) : Run Unit :=
  releaseAll (setup.entries.map Prod.fst)

end Setup

/-! ## `can_source.cpp`, `synthetic_source.cpp` -/

section

variable (strerror : Nat → String)

def IFNAMSIZ : Nat := 16

/-- The calls of `CanSource::open` on its socket, each with its text. -/
def canOptions (ifname : String) (receiveErrors : Bool) : List (Call × String) :=
  [(.ioctlIndex, "ioctl(SIOCGIFINDEX) on " ++ ifname),
    (.bind, "bind " ++ ifname),
    (.setsockopt .timestamping, "setsockopt(SO_TIMESTAMPING)"),
    (.setsockopt .rxqOvfl, "setsockopt(SO_RXQ_OVFL)"),
    (.setsockopt .canRecvOwnMsgs, "setsockopt(CAN_RAW_RECV_OWN_MSGS)")] ++
    if receiveErrors then [(.setsockopt .canErrFilter, "setsockopt(CAN_RAW_ERR_FILTER)")] else []

def prepare (fd : Handle) : List (Call × String) → Run (Except String Unit)
  | [] => return .ok ()
  | (call, what) :: rest => do
      match ← use call [fd] with
      | .error errno => Tcp.abandon fd (what ++ ": " ++ strerror errno)
      | .ok _ => prepare fd rest

def openCan (ifname : String) (receiveErrors : Bool) : Run (Except String SourceObject) := do
  if IFNAMSIZ ≤ ifname.utf8ByteSize then
    return .error ("interface name too long: " ++ ifname)
  else
    match ← create (.socket .can true) [] with
    | .error errno => return .error ("socket(PF_CAN): " ++ strerror errno)
    | .ok fd =>
        match ← prepare strerror fd (canOptions ifname receiveErrors) with
        | .error error => return .error error
        | .ok () =>
            let object ← make (.new .source) []
            return .ok { fd := fd, object := object, type := .can receiveErrors }

def openSynthetic (cfg : SyntheticSource.Config) : Run (Except String SourceObject) := do
  if cfg.canIds = [] then return .error "synthetic source needs at least one CAN id"
  else if cfg.periodNs = 0 ∨ cfg.framesPerTick = 0 then
    return .error "synthetic source needs a non-zero period and frames_per_tick"
  else
    match ← create .timerfdCreate [] with
    | .error errno => return .error ("timerfd_create: " ++ strerror errno)
    | .ok fd =>
        match ← use .timerfdSettime [fd] with
        | .error errno => Tcp.abandon fd ("timerfd_settime: " ++ strerror errno)
        | .ok _ =>
            let object ← make (.new .source) []
            return .ok { fd := fd, object := object, type := .synthetic }

/-! ## `egress.cpp`, `ring_ingest.cpp`, `fanout.cpp` -/

def createEgress (feed : FeedObject) (port : UInt16) (tuning : Tuning) :
    Run (Except String EgressObject) := do
  if tuning.maxFrames = 0 ∨ Egress.kMaxBatch < tuning.maxFrames then
    return .error ("batch size must be between 1 and " ++ toString Egress.kMaxBatch)
  else
    match ← Tcp.createListening strerror .egress port with
    | .error error => return .error error
    | .ok listening => return .ok { toListening := listening, feed := feed }

def createStop : Run (Except String IngestObject) := do
  match ← create .eventfd [] with
  | .error errno => return .error ("eventfd: " ++ strerror errno)
  | .ok stopFd =>
      let object ← make (.new .ingest) []
      return .ok { stopFd := stopFd, object := object }

def createRingIngest (sources : List SourceObject) : Run (Except String IngestObject) := do
  if sources = [] then return .error "ring ingest needs at least one source"
  else createStop strerror

def createFanOut (sources : List SourceObject) (sinks : List FeedObject) :
    Run (Except String IngestObject) := do
  if sources = [] then return .error "fan-out needs at least one source"
  else if sinks = [] then return .error "fan-out needs at least one sink"
  else createStop strerror

/-! ## `main.cpp`, up to the threads -/

structure ConsumerSpec where
  name : String
  port : UInt16

/-- What the arguments say. -/
structure Config where
  sourceSpecs : List String
  consumers : List ConsumerSpec
  /-- `--topology ring` -/
  ring : Bool
  tuning : Tuning
  rate : UInt32
  tap : Bool

def openSource (spec : String) (srcId : UInt8) (rate : UInt32) :
    Run (Except String SourceObject) :=
  if "can:".toList.isPrefixOf spec.toList then
    openCan strerror (String.ofList (spec.toList.drop 4)) true
  else if spec = "synth" then openSynthetic strerror (SyntheticSource.gatewayConfig srcId rate)
  else return .error ("unknown source: " ++ spec)

def Setup.giveUp (setup : Setup) (message : String) : Run (Except Exit T) := do
  setup.destroy
  return .error { code := 1, message := message }

def openSources (rate : UInt32) : Nat → List String → Setup → Run (Except Exit Setup)
  | _, [], setup => return .ok setup
  | i, spec :: rest, setup => do
      match ← openSource strerror spec (UInt8.ofNat i) rate with
      | .error error => setup.giveUp ("source " ++ spec ++ ": " ++ error)
      | .ok source =>
          openSources rate (i + 1) rest { setup with sources := setup.sources ++ [source] }

def makeRing (ring : Bool) (setup : Setup) : Run Setup := do
  if ring then
    let object ← make (.new .ring) []
    return { setup with ring := some object }
  else return setup

def makeFeed (setup : Setup) : Run FeedObject := do
  let object ← make (.new .feed) setup.ring.toList
  return { object := object, ring := setup.ring }

def makeFeeds : Nat → Setup → Run Setup
  | 0, setup => return setup
  | consumers + 1, setup => do
      let feed ← makeFeed setup
      makeFeeds consumers { setup with feeds := setup.feeds ++ [feed] }

def makeTapFeed (tap : Bool) (setup : Setup) : Run Setup := do
  if tap then
    let feed ← makeFeed setup
    return { setup with tapFeed := some feed }
  else return setup

def createEgresses (tuning : Tuning) :
    List (ConsumerSpec × FeedObject) → Setup → Run (Except Exit Setup)
  | [], setup => return .ok setup
  | (consumer, feed) :: rest, setup => do
      match ← createEgress strerror feed consumer.port tuning with
      | .error error => setup.giveUp ("consumer " ++ consumer.name ++ ": " ++ error)
      | .ok egress =>
          createEgresses tuning rest { setup with egresses := setup.egresses ++ [egress] }

/-- The feeds whose queues the fan-out thread pushes to. -/
def Setup.sinks (setup : Setup) : List FeedObject :=
  setup.feeds ++ setup.tapFeed.toList

def createIngest (ring : Bool) (setup : Setup) : Run (Except Exit Setup) := do
  if ring then
    match ← createRingIngest strerror setup.sources with
    | .error error => setup.giveUp ("ingest: " ++ error)
    | .ok ingest => return .ok { setup with ingest := some ingest }
  else
    match ← createFanOut strerror setup.sources setup.sinks with
    | .error error => setup.giveUp ("fan-out: " ++ error)
    | .ok ingest => return .ok { setup with ingest := some ingest }

def startup (config : Config) : Run (Except Exit Setup) := do
  match ← openSources strerror config.rate 0 config.sourceSpecs {} with
  | .error exit => return .error exit
  | .ok setup =>
      let setup ← makeRing config.ring setup
      let setup ← makeFeeds config.consumers.length setup
      let setup ← makeTapFeed config.tap setup
      match ← createEgresses strerror config.tuning (config.consumers.zip setup.feeds) setup with
      | .error exit => return .error exit
      | .ok setup => createIngest strerror config.ring setup

end

end TelemetryGateway.Main
