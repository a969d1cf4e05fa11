import Mathlib.Data.Fintype.Sum
import Mathlib.Tactic.DeriveFintype
import TelemetryGateway.Main.EgressThread
import TelemetryGateway.Main.StartupSafety

/-! # The gateway process

`main` and all the threads it starts, by what they do to descriptors and to the
objects they refer to. The egress threads hold references to feeds and feeds hold
one to the ring, so what is destroyed first matters, and that no thread is left. -/

namespace TelemetryGateway.Main

open Handles Program

/-! ## Ingest -/

/-- `Source::drain`; how many frames it finds is not up to the descriptor alone. -/
def drain (source : SourceObject) : Run Nat := do
  let _ ← invoke [source.object]
  let _ ← use (match source.type with | .can _ => .recvmmsg | .synthetic => .read) [source.fd]
  let frames ← ask
  return frames.value

def publishReady (reply : Reply) (ring : Handle) (source : SourceObject) : Run Unit := do
  if reply.value ≠ 0 && reply.ready 0 POLLIN then
    let frames ← drain source
    if frames = 0 then return ()
    else
      let _ ← invoke [ring]
      return ()
  else return ()

def ringIngestTurn (ring : Handle) (ingest : IngestObject) (source : SourceObject) :
    Run (Unit ⊕ Unit) := do
  let _ ← invoke [ingest.object, source.object]
  match ← use .poll [source.fd, ingest.stopFd] with
  | .error _ => return .inl ()
  | .ok reply =>
      publishReady reply ring source
      if reply.value ≠ 0 && reply.ready 1 POLLIN then return .inr () else return .inl ()

def pushAll : List FeedObject → Run Unit
  | [] => return ()
  | sink :: rest => do
      let _ ← invoke [sink.object]
      pushAll rest

/-- What `FanOut::run` does with the source in that place. -/
def distributeReady (reply : Reply) (i : Nat) (sinks : List FeedObject) (source : SourceObject) :
    Run Unit := do
  if reply.ready i POLLIN then
    let frames ← drain source
    if frames = 0 then return () else pushAll sinks
  else return ()

def drainReady (reply : Reply) (sinks : List FeedObject) : Nat → List SourceObject → Run Unit
  | _, [] => return ()
  | i, source :: rest => do
      distributeReady reply i sinks source
      drainReady reply sinks (i + 1) rest

def fanOutTurn (ingest : IngestObject) (sources : List SourceObject) (sinks : List FeedObject) :
    Run (Unit ⊕ Unit) := do
  let _ ← invoke (ingest.object :: sources.map SourceObject.object)
  match ← use .poll (sources.map SourceObject.fd ++ [ingest.stopFd]) with
  | .error _ => return .inl ()
  | .ok reply =>
      if reply.value = 0 then return .inl ()
      else
        drainReady reply sinks 0 sources
        if reply.ready sources.length POLLIN then return .inr () else return .inl ()

def ingestTurn (setup : Setup) (i : Nat) : Run (Unit ⊕ Unit) :=
  match setup.ingest, setup.ring with
  | none, _ => return .inr ()
  | some ingest, none => fanOutTurn ingest setup.sources setup.sinks
  | some ingest, some ring =>
      match setup.sources[i]? with
      | none => return .inr ()
      | some source => ringIngestTurn ring ingest source

/-! ## The thread of `main` -/

def report (setup : Setup) : Run Unit := do
  let _ ← invoke (setup.ingest.toList.map IngestObject.object)
  let _ ← invoke (setup.egresses.map fun egress => egress.object)
  let _ ← invoke (setup.egresses.flatMap fun egress => egress.feed.uses)
  return ()

def stopEgresses : List EgressObject → Run Unit
  | [] => return ()
  | egress :: rest => do
      let _ ← invoke [egress.object]
      let _ ← use .write [egress.stopFd]
      let _ ← invoke egress.feed.uses
      stopEgresses rest

def stopIngest : Option IngestObject → Run Unit
  | none => return ()
  | some ingest => do
      let _ ← invoke [ingest.object]
      let _ ← use .write [ingest.stopFd]
      return ()

def popTap : Option FeedObject → Run Reply
  | none => return {}
  | some feed => invoke feed.uses

def mainTurn (setup : Setup) : Run (Unit ⊕ Unit) := do
  let stop ← ask
  if stop.value = 0 then
    let _ ← popTap setup.tapFeed
    let due ← ask
    if due.value = 0 then return .inl ()
    else
      report setup
      return .inl ()
  else
    stopIngest setup.ingest
    stopEgresses setup.egresses
    return .inr ()

/-! ## The end -/

def clientHandle (number : Nat) : Handle :=
  .fd number

def EgressObject.withClient (egress : EgressObject) (client : Option Nat) : EgressObject :=
  { egress with clientFd := client.map clientHandle }

def Setup.withClients (setup : Setup) (clients : List (Option Nat)) : Setup :=
  { setup with egresses := List.zipWith EgressObject.withClient setup.egresses clients }

def finish (setup : Setup) (clients : List (Option Nat)) : Run Exit := do
  let _ ← invoke (setup.sources.map SourceObject.object)
  let _ ← invoke setup.ring.toList
  report setup
  (setup.withClients clients).destroy
  return { code := 0 }

/-! ## The process -/

inductive Role (ingests consumers : Nat)
  | main
  | ingest (i : Fin ingests)
  | egress (i : Fin consumers)
  deriving DecidableEq, Fintype

abbrev Role.State : Role ingests consumers → Type
  | .egress _ => Egress.State
  | _ => Unit

def Config.ingests (config : Config) : Nat :=
  if config.ring then config.sourceSpecs.length else 1

abbrev Config.Role (config : Config) : Type :=
  Main.Role config.ingests config.consumers.length

def egressTurn (strerror : Nat → String) (setup : Setup) (i : Nat) (state : Egress.State) :
    Run (Egress.State ⊕ Egress.State) :=
  match setup.egresses[i]? with
  | none => return .inr state
  | some egress => EgressThread.turn strerror egress state

def gateway (strerror : Nat → String) (config : Config) :
    Process Call Handle Reply Setup Exit config.Role Role.State Role.State where
  startup := startup strerror config
  first _
    | .egress _ => .initial { tuning := config.tuning }
    | .main => ()
    | .ingest _ => ()
  turn setup
    | .main, _ => mainTurn setup
    | .ingest i, _ => ingestTurn setup i
    | .egress i, state => egressTurn strerror setup i state
  finish setup values :=
    finish setup ((List.finRange config.consumers.length).map fun i =>
      (values (.egress i)).egress.clientFd)

end TelemetryGateway.Main
