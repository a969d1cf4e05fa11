import TelemetryGateway.Egress.Framing
import TelemetryGateway.Main.Startup

/-! # The egress thread and its descriptors

The thread makes the call its state asks for and goes on with what that answers.
Of all it touches only the client's descriptor is its own. -/

namespace TelemetryGateway

namespace Egress.State

/-! ## The client's descriptor -/

theorem clientFd_dropAndContinue (state : State) :
    state.dropAndContinue.egress.clientFd = none := by
  change state.egress.dropClient.clientFd = none
  unfold dropClient
  split
  · assumption
  · rfl

theorem clientFd_step {state after : State} {event : Event}
    (stepped : state.step event = some after) (other : ∀ fd, event ≠ .accept (some fd)) :
    after.egress.clientFd = state.egress.clientFd ∨ after.egress.clientFd = none := by
  cases step_cases stepped with
  | pollListen waiting client result =>
      left
      rcases state.waitForClient_cases result with same | same | same <;> rw [same]
  | accept accepting fd =>
      left
      cases fd with
      | none => rfl
      | some fd => exact absurd rfl (other fd)
  | sent site flushing bytes taken =>
      left
      unfold State.sent at taken
      dsimp only at taken
      split at taken <;> cases taken
      rfl
  | wouldBlock site flushing blocked =>
      left
      cases blocked
      rfl
  | failed site flushing sending => exact Or.inr state.clientFd_dropAndContinue
  | pollWritable site parked result =>
      cases result with
      | interrupted => exact Or.inl rfl
      | failed => exact Or.inr state.clientFd_dropAndContinue
      | answered ready =>
          unfold State.pollWritable
          dsimp only
          split
          · exact Or.inr state.clientFd_dropAndContinue
          · exact Or.inl rfl
  | afterFlush site flushed =>
      left
      cases site <;> rfl
  | peerGone testing => exact Or.inr state.clientFd_dropAndContinue
  | parse parsing now => exact Or.inl (sameBuffer_parseReplies ..).clientFd
  | linger batch deadline waited lingering now =>
      left
      rcases state.linger_cases batch deadline waited now with same | same <;> rw [same]
      rfl
  | noteGap batch noting now => exact Or.inl (sameBuffer_noteGap ..).clientFd
  | sendEcho n probing now => exact Or.inl (sameBuffer_maybeSendEcho ..).clientFd
  | _ => exact Or.inl rfl

/-- A connection is accepted only when there is none: no descriptor is
overwritten. -/
theorem clientFd_of_accepting {tuning : Tuning} {state : State}
    (reached : (system tuning).Reachable state) (accepting : state.phase = .accept) :
    state.egress.clientFd = none := by
  have kept : state.phase = .accept → state.egress.clientFd = none := by
    apply reached.invariant fun state => state.phase = .accept → state.egress.clientFd = none
    · rintro _ ⟨_, _, _, _, rfl⟩ impossible
      cases impossible
    · intro before event after _ _ holds stepped accepting
      cases step_cases stepped with
      | stop => exact holds accepting
      | pollListen waiting client result =>
          rcases before.waitForClient_cases result with same | same | same
          all_goals rw [same]; exact client
      | accept here fd => cases fd <;> cases accepting
      | sent site flushing bytes taken =>
          unfold State.sent at taken
          dsimp only at taken
          split at taken <;> cases taken
          cases accepting
      | wouldBlock site flushing blocked =>
          cases blocked
          cases accepting
      | interrupted site flushing =>
          have impossible : Phase.send site = .accept := flushing.symm.trans accepting
          cases impossible
      | testPending testing =>
          dsimp only at accepting
          split at accepting <;> cases accepting
      | pollWritable site parked result =>
          cases result with
          | answered ready =>
              unfold State.pollWritable at accepting
              dsimp only at accepting
              split at accepting <;> cases accepting
          | _ => cases accepting
      | afterFlush site flushed => cases site <;> cases accepting
      | recv receiving bytes filled size =>
          have impossible : Phase.recv = .accept := receiving.symm.trans accepting
          cases impossible
      | pop popping frames size =>
          dsimp only at accepting
          split at accepting <;> cases accepting
      | coalesce batch coalescing now =>
          unfold State.coalesce at accepting
          dsimp only at accepting
          split at accepting <;> cases accepting
      | linger batch deadline waited lingering now =>
          rcases before.linger_cases batch deadline waited now with same | same
          all_goals rw [same] at accepting; cases accepting
      | testClosed testing answer => cases answer <;> cases accepting
      | _ => cases accepting
  exact kept accepting

end Egress.State

namespace Main

open Handles Program

namespace EgressThread

def POLLOUT : Nat := 0x4
def POLLERR : Nat := 0x8
def POLLHUP : Nat := 0x10
def POLLNVAL : Nat := 0x20
def POLLRDHUP : Nat := 0x2000

def client (state : Egress.State) : Handle :=
  .fd (state.egress.clientFd.elim (-1) Int.ofNat)

/-- The thread goes on with what a call answered; `drop_client` closes the
descriptor. Nothing happens at an answer the call never has. -/
def follow (state : Egress.State) (event : Egress.Event) :
    Run (Egress.State ⊕ Egress.State) := do
  match state.step event with
  | none => return .inl state
  | some next =>
      if state.egress.clientFd.isSome && next.egress.clientFd.isNone then
        release (client state)
        return .inl next
      else return .inl next

/-- The first descriptor of a `poll` that is given, and the stop descriptor. -/
def pollStop (fd : Handle) (events : Nat) (egress : EgressObject) (state : Egress.State) :
    Run (Egress.State ⊕ Egress.State) := do
  match ← use .poll [fd, egress.stopFd] with
  | .error errno => follow state (.poll (if errno = EINTR then .interrupted else .failed))
  | .ok reply =>
      let stop := reply.value ≠ 0 && reply.ready 1 POLLIN
      let ready := reply.value ≠ 0 && reply.ready 0 events
      follow { state with stopping := state.stopping || stop } (.poll (.answered ready))

def accept (strerror : Nat → String) (egress : EgressObject) (state : Egress.State) :
    Run (Egress.State ⊕ Egress.State) := do
  match ← Tcp.acceptNonblocking strerror egress.listenFd with
  | .client (.fd (.ofNat fd)) =>
      -- best effort
      let _ ← use (.setsockopt .sndbuf) [.fd fd]
      follow state (.accept (some fd))
  | _ => follow state (.accept none)

def send (state : Egress.State) : Run (Egress.State ⊕ Egress.State) := do
  match ← use .send [client state] with
  | .ok reply => follow state (.send (if 0 < reply.value then .sent reply.value else .failed))
  | .error errno =>
      if errno = EAGAIN then follow state (.send .wouldBlock)
      else if errno = EINTR then follow state (.send .interrupted)
      else follow state (.send .failed)

def clientGone (state : Egress.State) : Run (Egress.State ⊕ Egress.State) := do
  match ← use .poll [client state] with
  | .error _ => follow state (.peer false)
  | .ok reply =>
      follow state (.peer (reply.value ≠ 0 &&
        reply.ready 0 (POLLRDHUP ||| POLLHUP ||| POLLERR ||| POLLNVAL)))

def recv (state : Egress.State) : Run (Egress.State ⊕ Egress.State) := do
  match ← use .recv [client state] with
  | .error _ => follow state (.recv [])
  | .ok reply => follow state (.recv reply.bytes)

def turn (strerror : Nat → String) (egress : EgressObject) (state : Egress.State) :
    Run (Egress.State ⊕ Egress.State) := do
  let _ ← invoke [egress.object]
  match state.phase with
  | .returned => return .inr state
  | .waitForClient =>
      if state.egress.clientFd = none then pollStop egress.listenFd POLLIN egress state
      else follow state .proceed
  | .accept => accept strerror egress state
  | .send _ => if state.sending then send state else follow state .proceed
  | .pollWritable _ => pollStop (client state) POLLOUT egress state
  | .testGone => clientGone state
  | .recv => recv state
  | .pop =>
      let reply ← invoke egress.feed.uses
      follow state (.pop reply.frames)
  | .popMore _ _ _ =>
      let reply ← invoke egress.feed.uses
      follow state (.pop reply.frames)
  | .testClosed =>
      let reply ← invoke egress.feed.uses
      follow state (.closed (reply.value ≠ 0))
  | .testPending => follow state .proceed
  | .flushed _ => follow state .proceed
  | .encode _ => follow state .proceed
  | .parse | .coalesce _ | .linger _ _ _ | .noteGap _ | .sendEcho _ =>
      let now ← ask
      follow state (.clock (UInt64.ofNat now.value))

/-! ## What the thread keeps -/

structure Holds (tuning : Tuning) (state : Egress.State) (own : Table Handle Mode) : Prop where
  reached : (Egress.system tuning).Reachable state
  owns : Tcp.OwnsConnection own state.egress.clientFd

structure Sees (shared : Table Handle Mode) (egress : EgressObject) : Prop where
  object : shared egress.object = some (Main.object .egress)
  listenFd : shared egress.listenFd = some Tcp.listener
  stopFd : shared egress.stopFd = some event
  feed : ∀ handle ∈ egress.feed.uses, ∃ mode, shared handle = some mode ∧ mode.descriptor = false

section

variable {tuning : Tuning} {state : Egress.State} {shared own : Table Handle Mode}
  {post : Egress.State ⊕ Egress.State → Table Handle Mode → Prop}

theorem follow_safe {event : Egress.Event} (holds : Holds tuning state own)
    (other : ∀ fd, event ≠ .accept (some fd))
    (keeps : ∀ next own, Holds tuning next own → post (.inl next) own) :
    (follow state event).Safe discipline shared own post := by
  unfold follow
  cases stepped : state.step event with
  | none => exact keeps state own holds
  | some next =>
      dsimp only
      have reached := System.ReachableUnder.next holds.reached trivial stepped
      rcases Egress.State.clientFd_step stepped other with same | gone
      · rw [same]
        have neither : (state.egress.clientFd.isSome && state.egress.clientFd.isNone) = false := by
          cases state.egress.clientFd <;> rfl
        rw [neither]
        exact keeps next own ⟨reached, same ▸ holds.owns⟩
      · rw [gone]
        have owns := holds.owns
        cases client : state.egress.clientFd with
        | none =>
            rw [client] at owns
            exact keeps next own ⟨reached, gone ▸ owns⟩
        | some number =>
            rw [client] at owns
            rcases owns with ⟨mode, _, rfl⟩
            have handle : EgressThread.client state = .fd number := by
              rw [EgressThread.client, client]
              rfl
            change ((release _ >>= fun _ => pure (Sum.inl next)) : Run _).Safe _ _ _ _
            rw [safe_bind, safe_release, handle, Table.set_self, Table.erase_set rfl]
            refine ⟨rfl, keeps next _ ⟨reached, ?_⟩⟩
            rw [gone]
            rfl

theorem Holds.stop (holds : Holds tuning state own) (stop : Bool) :
    Holds tuning { state with stopping := state.stopping || stop } own := by
  cases stop with
  | false =>
      rw [Bool.or_false]
      exact holds
  | true =>
      rw [Bool.or_true]
      have stepped : state.step .stop = some { state with stopping := true } := by
        cases state
        rfl
      have reached : (Egress.system tuning).Reachable { state with stopping := true } :=
        @System.ReachableUnder.next _ _ _ _ _ Egress.Event.stop _ holds.reached trivial stepped
      exact ⟨reached, holds.owns⟩

section

variable (apart : ∀ handle, own handle = none ∨ shared handle = none)

include apart

theorem permits_poll {egress : EgressObject} (sees : Sees shared egress) {fd : Handle}
    (pollable : discipline.permits (own.beside shared) .poll [fd] = true) :
    discipline.permits (own.beside shared) .poll [fd, egress.stopFd] = true := by
  have stop : discipline.permits (own.beside shared) .poll [egress.stopFd] = true := by
    apply permits_shared apart
    intro handle member
    rw [List.mem_singleton.mp member]
    exact ⟨event, sees.stopFd, rfl⟩
  rw [Discipline.permits_iff] at pollable stop ⊢
  intro handle member
  rcases List.mem_cons.mp member with rfl | member
  · exact pollable _ (List.mem_singleton_self _)
  · exact stop handle member

theorem pollStop_safe {egress : EgressObject} (sees : Sees shared egress) {fd : Handle}
    {events : Nat} (holds : Holds tuning state own)
    (pollable : discipline.permits (own.beside shared) .poll [fd] = true)
    (keeps : ∀ next own, Holds tuning next own → post (.inl next) own) :
    (pollStop fd events egress state).Safe discipline shared own post := by
  unfold pollStop
  rw [safe_bind]
  apply safe_use_passive (fun mode => rfl) (permits_poll apart sees pollable)
  intro answer
  cases answer with
  | error errno =>
      exact follow_safe holds (fun fd impossible => Egress.Event.noConfusion impossible) keeps
  | ok reply =>
      exact follow_safe (holds.stop _) (fun fd impossible => Egress.Event.noConfusion impossible)
        keeps

end

theorem permits_client (holds : Holds tuning state own) (attached : state.phase.detached = false)
    (call : Call) (allowed : ∀ mode, Tcp.writable mode = true → discipline.allows call mode = true) :
    discipline.permits (own.beside shared) call [client state] = true := by
  have present := (Egress.State.framed_of_reachable holds.reached).client attached
  rcases Option.ne_none_iff_exists'.mp present with ⟨number, there⟩
  have handle : client state = .fd number := by
    rw [client, there]
    rfl
  rw [handle]
  exact Tcp.permits_connection (there ▸ holds.owns) allowed

theorem send_safe (holds : Holds tuning state own) (attached : state.phase.detached = false)
    (keeps : ∀ next own, Holds tuning next own → post (.inl next) own) :
    (send state).Safe discipline shared own post := by
  have goes (result : Egress.SendResult) :
      (follow state (.send result)).Safe discipline shared own post :=
    follow_safe holds (fun fd impossible => Egress.Event.noConfusion impossible) keeps
  unfold send
  rw [safe_bind]
  apply safe_use_passive (fun mode => rfl)
    (permits_client holds attached .send fun mode able => able)
  intro answer
  cases answer with
  | error errno =>
      dsimp only
      split
      · exact goes _
      · split <;> exact goes _
  | ok reply => exact goes _

theorem clientGone_safe (holds : Holds tuning state own) (attached : state.phase.detached = false)
    (keeps : ∀ next own, Holds tuning next own → post (.inl next) own) :
    (clientGone state).Safe discipline shared own post := by
  have goes (gone : Bool) : (follow state (.peer gone)).Safe discipline shared own post :=
    follow_safe holds (fun fd impossible => Egress.Event.noConfusion impossible) keeps
  unfold clientGone
  rw [safe_bind]
  apply safe_use_passive (fun mode => rfl)
    (permits_client holds attached .poll fun mode => Tcp.writable_kind)
  intro answer
  cases answer with
  | error errno => exact goes false
  | ok reply => exact goes _

theorem recv_safe (holds : Holds tuning state own) (attached : state.phase.detached = false)
    (keeps : ∀ next own, Holds tuning next own → post (.inl next) own) :
    (recv state).Safe discipline shared own post := by
  have goes (bytes : List UInt8) : (follow state (.recv bytes)).Safe discipline shared own post :=
    follow_safe holds (fun fd impossible => Egress.Event.noConfusion impossible) keeps
  unfold recv
  rw [safe_bind]
  apply safe_use_passive (fun mode => rfl)
    (permits_client holds attached .recv fun mode able => able)
  intro answer
  cases answer with
  | error errno => exact goes []
  | ok reply => exact goes reply.bytes

theorem follow_accept_safe {number : Nat} {mode : Mode} (able : Tcp.writable mode = true)
    (reached : (Egress.system tuning).Reachable state) (accepting : state.phase = .accept)
    (keeps : ∀ next own, Holds tuning next own → post (.inl next) own) :
    (follow state (.accept (some number))).Safe discipline shared
      (Table.empty.set (.fd number) mode) post := by
  have stepped : state.step (.accept (some number)) = some (state.acceptClient (some number)) := by
    unfold Egress.State.step
    rw [accepting]
  have none := Egress.State.clientFd_of_accepting reached accepting
  have reached' := System.ReachableUnder.next reached trivial stepped
  unfold follow
  rw [stepped]
  dsimp only
  rw [none]
  exact keeps _ _ ⟨reached', mode, able, rfl⟩

theorem accept_safe {strerror : Nat → String} {egress : EgressObject}
    (apart : ∀ handle, own handle = none ∨ shared handle = none)
    (sees : Sees shared egress) (holds : Holds tuning state own)
    (accepting : state.phase = .accept)
    (keeps : ∀ next own, Holds tuning next own → post (.inl next) own) :
    (accept strerror egress state).Safe discipline shared own post := by
  have nothing : own = Table.empty := by
    have owns := holds.owns
    rw [Egress.State.clientFd_of_accepting holds.reached accepting] at owns
    exact owns
  unfold accept
  rw [safe_bind]
  apply Tcp.acceptNonblocking_safe
  · apply permits_shared apart
    intro handle member
    rw [List.mem_singleton.mp member]
    exact ⟨Tcp.listener, sees.listenFd, rfl⟩
  · intro result nobody
    have refused : (follow state (.accept none)).Safe discipline shared own post :=
      follow_safe holds (fun fd impossible => by cases impossible) keeps
    split
    · exact absurd rfl (nobody _)
    · exact refused
  · intro number _ _
    rw [nothing]
    dsimp only
    rw [safe_bind]
    apply safe_use_set rfl
    · exact fun errno => follow_accept_safe rfl holds.reached accepting keeps
    · exact fun reply => follow_accept_safe rfl holds.reached accepting keeps

theorem turn_safe {strerror : Nat → String} {egress : EgressObject}
    (apart : ∀ handle, own handle = none ∨ shared handle = none)
    (sees : Sees shared egress) (holds : Holds tuning state own) :
    (turn strerror egress state).Safe discipline shared own fun result own =>
      match result with
      | .inl next => Holds tuning next own
      | .inr last => Holds tuning last own := by
  have goes {event : Egress.Event} (other : ∀ fd, event ≠ .accept (some fd)) :
      (follow state event).Safe discipline shared own fun result own =>
        match result with
        | .inl next => Holds tuning next own
        | .inr last => Holds tuning last own :=
    follow_safe holds other fun next own holds => holds
  have feed : discipline.permits (own.beside shared) .method egress.feed.uses = true := by
    apply permits_shared apart
    intro handle member
    rcases sees.feed handle member with ⟨mode, live, object⟩
    refine ⟨mode, live, ?_⟩
    change (!mode.descriptor) = true
    rw [object]
    rfl
  have self : discipline.permits (own.beside shared) .method [egress.object] = true := by
    apply permits_shared apart
    intro handle member
    rw [List.mem_singleton.mp member]
    exact ⟨_, sees.object, rfl⟩
  unfold turn
  rw [safe_bind]
  apply invoke_safe self
  intro _
  cases phase : state.phase with
  | returned => exact holds
  | waitForClient =>
      dsimp only
      split
      · apply pollStop_safe apart sees holds
        · apply permits_shared apart
          intro handle member
          rw [List.mem_singleton.mp member]
          exact ⟨_, sees.listenFd, rfl⟩
        · exact fun next own holds => holds
      · exact goes fun fd impossible => Egress.Event.noConfusion impossible
  | accept => exact accept_safe apart sees holds phase fun next own holds => holds
  | send site =>
      dsimp only
      split
      · exact send_safe holds (by rw [phase]; rfl) fun next own holds => holds
      · exact goes fun fd impossible => Egress.Event.noConfusion impossible
  | pollWritable site =>
      apply pollStop_safe apart sees holds
      · exact permits_client holds (by rw [phase]; rfl) .poll fun mode => Tcp.writable_kind
      · exact fun next own holds => holds
  | testGone => exact clientGone_safe holds (by rw [phase]; rfl) fun next own holds => holds
  | recv => exact recv_safe holds (by rw [phase]; rfl) fun next own holds => holds
  | pop =>
      dsimp only
      rw [safe_bind]
      apply invoke_safe feed
      exact fun reply => goes fun fd impossible => Egress.Event.noConfusion impossible
  | popMore batch deadline waited =>
      dsimp only
      rw [safe_bind]
      apply invoke_safe feed
      exact fun reply => goes fun fd impossible => Egress.Event.noConfusion impossible
  | testClosed =>
      dsimp only
      rw [safe_bind]
      apply invoke_safe feed
      exact fun reply => goes fun fd impossible => Egress.Event.noConfusion impossible
  | testPending => exact goes fun fd impossible => Egress.Event.noConfusion impossible
  | flushed site => exact goes fun fd impossible => Egress.Event.noConfusion impossible
  | encode n => exact goes fun fd impossible => Egress.Event.noConfusion impossible
  | _ => exact fun now => goes fun fd impossible => Egress.Event.noConfusion impossible

end

end EgressThread

end Main

end TelemetryGateway
