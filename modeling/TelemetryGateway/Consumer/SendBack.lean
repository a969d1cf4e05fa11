import TelemetryGateway.Wire.Message

/-! # Returning echo probes

`FrameStream::send_back` writes one reply with a non-blocking socket. A reply
the socket refuses is abandoned, but the bytes it took before it refused are on
the wire already. -/

namespace TelemetryGateway.FrameStream

/-- What `send_back` works on. `wire` is history: the bytes the socket took. -/
structure ReplySide where
  wire : List UInt8 := []
  echoDrops : UInt64 := 0
  deriving DecidableEq

/-- One answer of `send`. Behind the end of a script the socket takes whatever
is left of the reply. -/
inductive SendAnswer
  /-- at most `size + 1` bytes -/
  | accepted (size : Nat)
  | interrupted
  /-- `EWOULDBLOCK`, another error, or nothing sent -/
  | refused
  deriving DecidableEq, Repr

def replyMessage (frame : Frame) : List UInt8 :=
  Wire.encodeHeader 1 (List.replicate Wire.kHeaderSize 0) ++
    Wire.encodeFrame frame (List.replicate Wire.kRecordSize 0)

def sendLoop (msg : List UInt8) : List SendAnswer → Nat → List UInt8 → Bool × List UInt8
  | [], sent, wire => (true, wire ++ msg.drop sent)
  | answer :: script, sent, wire =>
      if msg.length ≤ sent then (true, wire)
      else
        match answer with
        | .accepted size =>
            let n := min (size + 1) (msg.length - sent)
            sendLoop msg script (sent + n) (wire ++ (msg.drop sent).take n)
        | .interrupted => sendLoop msg script sent wire
        | .refused => (false, wire)

def sendBack (side : ReplySide) (frame : Frame) (script : List SendAnswer) : Bool × ReplySide :=
  match sendLoop (replyMessage frame) script 0 side.wire with
  | (true, wire) => (true, { side with wire := wire })
  | (false, wire) => (false, { wire := wire, echoDrops := side.echoDrops + 1 })

/-- Successive calls on one connection, each with its own script: what they
returned and what they left. -/
def sendBackAll (side : ReplySide) : List (Frame × List SendAnswer) → List Bool × ReplySide
  | [] => ([], side)
  | (frame, script) :: calls =>
      let (answer, side) := sendBack side frame script
      let (answers, side) := sendBackAll side calls
      (answer :: answers, side)

/-! ## What one call leaves on the wire -/

theorem replyMessage_eq (frame : Frame) : replyMessage frame = Wire.messageBytes [frame] := by
  rw [replyMessage, Wire.encodeHeader_eq 1 ⟨List.replicate Wire.kHeaderSize 0, rfl⟩,
    Wire.encodeFrame_eq frame ⟨List.replicate Wire.kRecordSize 0, rfl⟩, Wire.messageBytes,
    List.map_cons, List.map_nil, List.flatten_singleton]
  rfl

theorem length_replyMessage (frame : Frame) : (replyMessage frame).length = 56 := by
  rw [replyMessage_eq, Wire.length_messageBytes]
  rfl

def accepted : List SendAnswer → Nat
  | [] => 0
  | .accepted size :: script => size + 1 + accepted script
  | _ :: script => accepted script

def beforeRefusal : List SendAnswer → List SendAnswer
  | [] => []
  | .refused :: _ => []
  | answer :: script => answer :: beforeRefusal script

/-- The socket refuses when it has taken some bytes of a reply and not all of
them. -/
def CutShort (script : List SendAnswer) : Prop :=
  .refused ∈ script ∧ 0 < accepted (beforeRefusal script) ∧ accepted (beforeRefusal script) < 56

instance (script : List SendAnswer) : Decidable (CutShort script) :=
  inferInstanceAs (Decidable (_ ∧ _))

/-- The loop gives up exactly when it meets a refusal before the message is
complete; otherwise it sends all that was left. -/
theorem sendLoop_spec (msg : List UInt8) (script : List SendAnswer) (sent : Nat)
    (wire : List UInt8) (inside : sent ≤ msg.length) :
    sendLoop msg script sent wire =
      if .refused ∈ script ∧ sent + accepted (beforeRefusal script) < msg.length then
        (false, wire ++ (msg.drop sent).take (accepted (beforeRefusal script)))
      else (true, wire ++ msg.drop sent) := by
  induction script generalizing sent wire with
  | nil => rfl
  | cons answer script induction =>
      unfold sendLoop
      by_cases complete : msg.length ≤ sent
      · rw [if_pos complete, if_neg (by omega), List.drop_eq_nil_of_le complete, List.append_nil]
      · rw [if_neg complete]
        cases answer with
        | accepted size =>
            simp only [beforeRefusal, accepted, List.mem_cons, reduceCtorEq, false_or]
            rw [induction _ _ (by omega)]
            by_cases partly : size + 1 ≤ msg.length - sent
            · rw [Nat.min_eq_left partly, List.append_assoc, List.append_assoc,
                ← List.drop_drop (i := size + 1) (j := sent), ← List.take_add,
                List.take_append_drop, Nat.add_assoc sent (size + 1)]
            · have whole : sent + (msg.length - sent) = msg.length := Nat.add_sub_cancel' inside
              rw [Nat.min_eq_right (by omega), if_neg (by omega), if_neg (by omega), whole,
                List.drop_length, List.append_nil, List.take_of_length_le (by simp)]
        | interrupted =>
            simp only [beforeRefusal, accepted]
            rw [induction _ _ inside]
            simp only [List.mem_cons, reduceCtorEq, false_or]
        | refused =>
            rw [if_pos ⟨List.mem_cons_self, by simp only [beforeRefusal, accepted]; omega⟩]
            exact congrArg (Prod.mk false) (List.append_nil wire).symm

/-- A call returns false when the socket refuses before the message is
complete, and then the bytes it took stay on the wire. -/
theorem sendBack_spec (side : ReplySide) (frame : Frame) (script : List SendAnswer) :
    sendBack side frame script =
      if .refused ∈ script ∧ accepted (beforeRefusal script) < 56 then
        (false, { wire := side.wire ++
                    (Wire.messageBytes [frame]).take (accepted (beforeRefusal script))
                  echoDrops := side.echoDrops + 1 })
      else (true, { side with wire := side.wire ++ Wire.messageBytes [frame] }) := by
  unfold sendBack
  rw [sendLoop_spec _ _ _ _ (Nat.zero_le _), length_replyMessage, Nat.zero_add, List.drop_zero,
    replyMessage_eq]
  by_cases refused : .refused ∈ script ∧ accepted (beforeRefusal script) < 56
  · rw [if_pos refused, if_pos refused]
  · rw [if_neg refused, if_neg refused]

/-- The messages of the calls that returned true. -/
def answered (calls : List (Frame × List SendAnswer)) (answers : List Bool) : List (List UInt8) :=
  ((calls.zip answers).filter fun call => call.2).map fun call => Wire.messageBytes [call.1.1]

theorem sendBackAll_spec (side : ReplySide) (calls : List (Frame × List SendAnswer)) :
    ∃ left, (sendBackAll side calls).2.wire = side.wire ++ left ∧
      (answered calls (sendBackAll side calls).1).flatten.length ≤ left.length ∧
      (left = (answered calls (sendBackAll side calls).1).flatten ↔
        ∀ call ∈ calls, ¬ CutShort call.2) := by
  induction calls generalizing side with
  | nil => exact ⟨[], (List.append_nil _).symm, Nat.le_refl _, by simp [answered, sendBackAll]⟩
  | cons call calls induction =>
      rcases call with ⟨frame, script⟩
      simp only [sendBackAll]
      rcases induction (sendBack side frame script).2 with ⟨left, wire, longer, exactly⟩
      rw [sendBack_spec] at wire longer exactly ⊢
      split at wire
      · rename_i refused
        rw [if_pos refused] at longer exactly ⊢
        have skipped (answers : List Bool) :
            answered ((frame, script) :: calls) (false :: answers) = answered calls answers := rfl
        refine ⟨_, wire.trans (List.append_assoc _ _ _), ?_, ?_⟩
        · rw [skipped, List.length_append]
          omega
        · rw [skipped, List.forall_mem_cons, ← exactly]
          have taken : ((Wire.messageBytes [frame]).take
              (accepted (beforeRefusal script))).length = accepted (beforeRefusal script) := by
            rw [List.length_take, Wire.length_messageBytes]
            exact Nat.min_eq_left (Nat.le_of_lt refused.2)
          constructor
          · intro same
            have lengths := congrArg List.length same
            rw [List.length_append] at lengths
            have none : (Wire.messageBytes [frame]).take (accepted (beforeRefusal script)) = [] :=
              List.eq_nil_of_length_eq_zero (by omega)
            refine ⟨fun short => ?_, (congrArg (· ++ left) none).symm.trans same⟩
            rw [none] at taken
            exact Nat.ne_of_lt short.2.1 taken
          · intro whole
            have none : (Wire.messageBytes [frame]).take (accepted (beforeRefusal script)) = [] := by
              rw [Nat.eq_zero_of_not_pos fun some => whole.1 ⟨refused.1, some, refused.2⟩]
              rfl
            exact (congrArg (· ++ left) none).trans whole.2
      · rename_i complete
        rw [if_neg complete] at longer exactly ⊢
        have kept (answers : List Bool) : answered ((frame, script) :: calls) (true :: answers) =
            Wire.messageBytes [frame] :: answered calls answers := rfl
        have whole : ¬ CutShort script := fun short => complete ⟨short.1, short.2.2⟩
        refine ⟨_, wire.trans (List.append_assoc _ _ _), ?_, ?_⟩
        · rw [kept, List.flatten_cons, List.length_append, List.length_append]
          omega
        · rw [kept, List.flatten_cons, List.append_cancel_left_eq, exactly, List.forall_mem_cons]
          exact ⟨fun others => ⟨whole, others⟩, fun all => all.2⟩

/-! ## The reply direction -/

/-- The wire of a fresh connection carries exactly the complete messages of the
calls that returned true, unless some reply was cut short. -/
theorem replies_framed_iff (calls : List (Frame × List SendAnswer)) :
    (sendBackAll {} calls).2.wire = (answered calls (sendBackAll {} calls).1).flatten ↔
      ∀ call ∈ calls, ¬ CutShort call.2 := by
  rcases sendBackAll_spec {} calls with ⟨left, wire, _, exactly⟩
  rw [wire, List.nil_append]
  exact exactly

/-- The socket takes ten bytes of the first reply and is then full; the second
one goes through. -/
def fullSocket : List (Frame × List SendAnswer) :=
  [(Frame.zero, [.accepted 9, .refused]), (Frame.zero, [])]

theorem reply_cut_short :
    ¬ (sendBackAll {} fullSocket).2.wire =
      (answered fullSocket (sendBackAll {} fullSocket).1).flatten := by
  decide +kernel

end TelemetryGateway.FrameStream
