import TelemetryGateway.Feed.QueueThreads

/-! # Waking and returning

A notification comes after the critical section, so the queue may hold items
while its consumer is still blocked: then somebody is on the way to wake it. No
operation waits for another thread but to leave its critical section. -/

namespace TelemetryGateway.BoundedQueue

open DropOldest (Operation Reply)

namespace Stage

def announces : Stage T → Bool
  | .pushLoop _ _ _ => true
  | .pushCount _ _ => true
  | .dropCount _ => true
  | .pushNotify _ => true
  | .closeRelease => true
  | .closeNotify => true
  | _ => false

def pops : Stage T → Bool
  | .popLock _ => true
  | .popTest _ => true
  | .popWait _ => true
  | .popRelock _ => true
  | .popLast _ => true
  | .popTimedOut => true
  | .popLoop _ _ => true
  | .popRelease _ => true
  | .popCount _ => true
  | _ => false

def past : Stage T → Bool
  | .pushCount _ _ => true
  | .dropCount _ => true
  | .pushNotify _ => true
  | .popCount _ => true
  | .closeNotify => true
  | .returning _ => true
  | _ => false

theorem pops_of_waits {stage : Stage T} (waits : stage.waits = true) : stage.pops = true := by
  cases stage <;> first | rfl | cases waits

theorem not_waits_of_announces {stage : Stage T} (announces : stage.announces = true) :
    stage.waits = false := by
  cases stage <;> first | rfl | cases announces

end Stage

namespace Shared

section

variable {Thread : Type v} {T : Type u}

/-- Only the consumer pops. -/
def OneConsumer (consumer : Thread) (_ : Shared Thread T) : Label Thread T → Prop
  | .call thread (.pop _) => thread = consumer
  | _ => True

def ready (queue : BoundedQueue T) : Prop :=
  0 < queue.count ∨ queue.closed = true

structure Watched (consumer : Thread) (shared : Shared Thread T) : Prop where
  consistent : shared.Consistent
  alone : ∀ thread, (shared.stage thread).pops = true → thread = consumer
  announced : (shared.stage consumer).waits = true → ready shared.queue →
    ∃ thread, (shared.stage thread).announces = true

variable [DecidableEq Thread] {shared : Shared Thread T} {thread consumer : Thread}

theorem alone_goto (alone : ∀ other, (shared.stage other).pops = true → other = consumer)
    {stage : Stage T} (allowed : stage.pops = true → thread = consumer) (other : Thread)
    (pops : ((shared.goto thread stage).stage other).pops = true) : other = consumer := by
  rcases eq_or_ne other thread with rfl | different
  · rw [stage_goto] at pops
    exact allowed pops
  · rw [stage_goto_of_ne shared stage different] at pops
    exact alone other pops

theorem waits_of_goto {stage : Stage T} (waits : stage.waits = false)
    (waiting : ((shared.goto thread stage).stage consumer).waits = true) :
    (shared.stage consumer).waits = true := by
  rcases eq_or_ne consumer thread with rfl | different
  · rw [stage_goto, waits] at waiting
    cases waiting
  · rwa [stage_goto_of_ne shared stage different] at waiting

/-- A step of one thread that does not block: either it announces what it did,
or it had nothing to announce and made nothing ready. -/
theorem Watched.to (watched : shared.Watched consumer) (after : Shared Thread T)
    (consistent : after.Consistent) (stage : Stage T)
    (stages : after.stage = (shared.goto thread stage).stage) (waits : stage.waits = false)
    (allowed : stage.pops = true → thread = consumer)
    (told : stage.announces = true ∨ (shared.stage thread).announces = false ∧
      (ready after.queue → ready shared.queue)) : after.Watched consumer := by
  refine ⟨consistent, ?_, ?_⟩
  · rw [stages]
    exact alone_goto watched.alone allowed
  · rw [stages]
    intro waiting isReady
    rcases told with announces | ⟨silent, unchanged⟩
    · exact ⟨thread, by rw [stage_goto, announces]⟩
    · rcases watched.announced (waits_of_goto waits waiting) (unchanged isReady) with
        ⟨other, announces⟩
      refine ⟨other, ?_⟩
      rw [stage_goto_of_ne shared stage, announces]
      rintro rfl
      rw [silent] at announces
      cases announces

theorem pops_wakened (stage : Stage T) : (wakened stage).pops = stage.pops := by
  cases stage <;> rfl

omit [DecidableEq Thread] in
theorem Watched.waiter (watched : shared.Watched consumer) {waiter : Thread}
    (member : waiter ∈ shared.waiters) : waiter = consumer :=
  watched.alone waiter (Stage.pops_of_waits ((watched.consistent.waiters waiter).mp member))

omit [DecidableEq Thread] in
theorem Watched.ofNobody (watched : shared.Watched consumer) {after : Shared Thread T}
    (consistent : after.Consistent)
    (alone : ∀ other, (after.stage other).pops = true → (shared.stage other).pops = true)
    (awake : (after.stage consumer).waits = false) : after.Watched consumer :=
  ⟨consistent, fun other pops => watched.alone other (alone other pops), fun waiting => by
    rw [awake] at waiting
    cases waiting⟩

theorem Watched.lock (watched : shared.Watched consumer) {stage : Stage T}
    (holds : stage.holds = true) (waits : stage.waits = false)
    (before : (shared.stage thread).waits = false)
    (allowed : stage.pops = true → thread = consumer)
    (silent : (shared.stage thread).announces = false) {after : Shared Thread T}
    (locked : shared.lock thread stage = some after) : after.Watched consumer := by
  rcases watched.consistent.lock holds (waits.trans before.symm) locked with ⟨_, rfl, consistent⟩
  exact watched.to _ consistent stage rfl waits allowed (.inr ⟨silent, id⟩)

theorem pops_of_goto {stage : Stage T} (pops : stage.pops = (shared.stage thread).pops)
    (other : Thread) (popping : ((shared.goto thread stage).stage other).pops = true) :
    (shared.stage other).pops = true := by
  rcases eq_or_ne other thread with rfl | different
  · rwa [stage_goto, pops] at popping
  · rwa [stage_goto_of_ne shared stage different] at popping

theorem Watched.moves (watched : shared.Watched consumer) {label : Label Thread T}
    {after : Shared Thread T} (allowed : OneConsumer consumer shared label)
    (moved : Moves shared label after) : after.Watched consumer := by
  have consistent := watched.consistent.moves moved
  have popping {thread : Thread} {stage : Stage T} (stands : shared.stage thread = stage)
      (pops : stage.pops = true) : thread = consumer :=
    watched.alone thread (by rw [stands, pops])
  cases moved with
  | @call thread operation stage =>
      apply watched.to _ consistent (enter operation) rfl (waits_enter operation) _
        (.inr ⟨by rw [stage]; rfl, id⟩)
      intro pops
      cases operation with
      | push items =>
          rw [enter] at pops
          split at pops <;> cases pops
      | pop size => exact allowed
      | close => cases pops
  | pushLock stage locked =>
      exact watched.lock rfl rfl (by rw [stage]; rfl) (fun pops => by cases pops)
        (by rw [stage]; rfl) locked
  | pushClosed stage =>
      exact watched.to _ consistent _ rfl rfl (fun pops => by cases pops)
        (.inr ⟨by rw [stage]; rfl, id⟩)
  | pushOpen => exact watched.to _ consistent _ rfl rfl (fun pops => by cases pops) (.inl rfl)
  | pushRefused stage =>
      exact watched.to _ consistent _ rfl rfl (fun pops => by cases pops)
        (.inr ⟨by rw [stage]; rfl, id⟩)
  | pushItem => exact watched.to _ consistent _ rfl rfl (fun pops => by cases pops) (.inl rfl)
  | pushUnlock => exact watched.to _ consistent _ rfl rfl (fun pops => by cases pops) (.inl rfl)
  | pushCount => exact watched.to _ consistent _ rfl rfl (fun pops => by cases pops) (.inl rfl)
  | dropCount => exact watched.to _ consistent _ rfl rfl (fun pops => by cases pops) (.inl rfl)
  | @notify thread waiter dropped stage member =>
      have kept := stage_wake_of_not_waits waiter ((congrArg Stage.waits stage).trans rfl)
      obtain rfl : consumer = waiter := (watched.waiter member).symm
      refine watched.ofNobody consistent ?_ ?_
      · intro other pops
        have popped : ((shared.wake consumer).stage other).pops = true :=
          pops_of_goto (by rw [kept, stage]; rfl) other pops
        exact pops_of_goto (pops_wakened _) other popped
      · have different : consumer ≠ thread := by
          rintro rfl
          have waits := (watched.consistent.waiters consumer).mp member
          rw [stage] at waits
          cases waits
        rw [stage_goto_of_ne _ _ different]
        exact (congrArg Stage.waits (stage_goto ..)).trans (waits_wakened _)
  | notifyNobody stage nobody =>
      refine watched.ofNobody consistent (pops_of_goto (by rw [stage]; rfl)) ?_
      cases waits : ((shared.goto _ _).stage consumer).waits with
      | false => rfl
      | true =>
          have member := (watched.consistent.waiters consumer).mpr (waits_of_goto rfl waits)
          rw [nobody] at member
          cases member
  | popLock stage locked =>
      exact watched.lock rfl rfl (by rw [stage]; rfl) (fun _ => popping stage rfl)
        (by rw [stage]; rfl) locked
  | popReady stage =>
      rcases stage with stage | stage <;>
        exact watched.to _ consistent _ rfl rfl (fun _ => popping stage rfl)
          (.inr ⟨by rw [stage]; rfl, id⟩)
  | @popBlock thread size stage empty isOpen =>
      have mine := popping stage rfl
      refine ⟨consistent, alone_goto watched.alone fun _ => mine, ?_⟩
      rintro _ (some | closed)
      · exact absurd empty (Nat.ne_of_gt some)
      · exact absurd closed (by rw [Bool.not_eq_true]; exact isOpen)
  | popWake stage =>
      refine watched.ofNobody consistent (pops_of_goto (pops_wakened _)) ?_
      cases popping stage rfl
      exact (congrArg Stage.waits (stage_goto ..)).trans (waits_wakened _)
  | popRelock stage locked =>
      refine watched.lock ?_ ?_ (by rw [stage]; rfl) (fun _ => popping stage rfl)
        (by rw [stage]; rfl) locked <;> split <;> rfl
  | popTimeout stage =>
      exact watched.to _ consistent _ rfl rfl (fun _ => popping stage rfl)
        (.inr ⟨by rw [stage]; rfl, id⟩)
  | popTimedOut stage =>
      exact watched.to _ consistent _ rfl rfl (fun _ => popping stage rfl)
        (.inr ⟨by rw [stage]; rfl, id⟩)
  | popItem stage =>
      exact watched.to _ consistent _ rfl rfl (fun _ => popping stage rfl)
        (.inr ⟨by rw [stage]; rfl, id⟩)
  | popSkip stage =>
      refine watched.to _ consistent _ rfl rfl (fun _ => popping stage rfl)
        (.inr ⟨by rw [stage]; rfl, ?_⟩)
      rintro (more | closed)
      · exact .inl (Nat.lt_of_lt_of_le more (Nat.sub_le _ _))
      · exact .inr closed
  | popRelease stage =>
      exact watched.to _ consistent _ rfl rfl (fun _ => popping stage rfl)
        (.inr ⟨by rw [stage]; rfl, id⟩)
  | popCount stage =>
      exact watched.to _ consistent _ rfl rfl (fun _ => popping stage rfl)
        (.inr ⟨by rw [stage]; rfl, id⟩)
  | closeLock stage locked =>
      exact watched.lock rfl rfl (by rw [stage]; rfl) (fun pops => by cases pops)
        (by rw [stage]; rfl) locked
  | closeStore => exact watched.to _ consistent _ rfl rfl (fun pops => by cases pops) (.inl rfl)
  | closeRelease => exact watched.to _ consistent _ rfl rfl (fun pops => by cases pops) (.inl rfl)
  | @closeNotify thread stage =>
      refine watched.ofNobody consistent ?_ ?_
      · intro other pops
        have popped : (shared.wakeAll.stage other).pops = true :=
          pops_of_goto (congrArg (fun stage => (wakened stage).pops) stage).symm other pops
        exact (pops_wakened _).symm.trans popped
      · rcases eq_or_ne consumer thread with rfl | different
        · rw [stage_goto]
          rfl
        · rw [stage_goto_of_ne _ _ different]
          exact waits_wakened _
  | reply stage =>
      exact watched.to _ consistent _ rfl rfl (fun pops => by cases pops)
        (.inr ⟨by rw [stage]; rfl, id⟩)

omit [DecidableEq Thread] in
theorem watched_create [Inhabited T] (capacity : Nat) :
    (create capacity : Shared Thread T).Watched consumer := by
  refine ⟨consistent_create capacity, ?_, ?_⟩
  · intro _ pops
    cases pops
  · intro waiting
    cases waiting

/-- The consumer is blocked and `cv_` knows. -/
structure Blocked (consumer : Thread) (size : Nat) (shared : Shared Thread T) : Prop where
  stage : shared.stage consumer = .popWait size
  member : consumer ∈ shared.waiters

theorem Blocked.goto {size : Nat} (blocked : Blocked consumer size shared)
    (different : consumer ≠ thread) (stage : Stage T) :
    Blocked consumer size (shared.goto thread stage) :=
  ⟨(stage_goto_of_ne shared stage different).trans blocked.stage, blocked.member⟩

abbrev Woken (consumer : Thread) (size : Nat) (shared : Shared Thread T) : Prop :=
  shared.stage consumer = .popRelock size

structure Inside (thread : Thread) (before shared : Shared Thread T) : Prop where
  consistent : shared.Consistent
  others : ∀ other, other ≠ thread → shared.stage other = before.stage other

structure Left (thread : Thread) (before shared : Shared Thread T) : Prop
    extends Inside thread before shared where
  free : shared.owner = none

structure Out (thread : Thread) (before shared : Shared Thread T) : Prop
    extends Left thread before shared where
  past : (shared.stage thread).past = true

theorem Inside.work {before : Shared Thread T} (inside : Inside thread before shared)
    {queue : BoundedQueue T} {stage : Stage T} (advanced : shared.advance thread =
      some ({ shared with queue := queue }.goto thread stage)) :
    Inside thread before ({ shared with queue := queue }.goto thread stage) :=
  ⟨inside.consistent.moves (.ofAdvance advanced), fun other different =>
    (stage_goto_of_ne _ stage different).trans (inside.others other different)⟩

theorem Inside.unlock {before : Shared Thread T} (inside : Inside thread before shared)
    {stage : Stage T} (advanced : shared.advance thread = some (shared.unlock thread stage)) :
    Left thread before (shared.unlock thread stage) :=
  ⟨⟨inside.consistent.moves (.ofAdvance advanced), fun other different =>
    (stage_goto_of_ne shared stage different).trans (inside.others other different)⟩, rfl⟩

theorem locked_inside (consistent : shared.Consistent) {stage : Stage T}
    (holds : stage.holds = true) (waits : stage.waits = (shared.stage thread).waits)
    {middle : Shared Thread T} (locked : shared.lock thread stage = some middle) :
    Inside thread middle middle ∧ middle.stage thread = stage := by
  rcases consistent.lock holds waits locked with ⟨_, rfl, consistent⟩
  exact ⟨⟨consistent, fun _ _ => rfl⟩, stage_goto ..⟩

theorem lock_of_free (free : shared.owner = none) (thread : Thread) (stage : Stage T) :
    shared.lock thread stage =
      some { shared.goto thread stage with owner := some thread } :=
  if_pos free

theorem advance_at (shared : Shared Thread T) {stage : Stage T}
    (stands : shared.stage thread = stage) :
    shared.advance thread = shared.execute thread stage :=
  congrArg (shared.execute thread) stands

/-! ## What some threads can do by themselves -/

section

variable [DecidableEq T] [Inhabited T] {capacity : Nat}

/-- Without a new call, and without a step of any other thread, the threads of
the crew can bring the goal about. -/
def BringAbout (capacity : Nat) (crew : Thread → Prop) (goal : Shared Thread T → Prop)
    (shared : Shared Thread T) : Prop :=
  ∃ schedule after, (∀ label ∈ schedule, label.event = none ∧ crew label.thread) ∧
    (system Thread T capacity).run shared schedule = some after ∧ goal after

theorem BringAbout.done {crew : Thread → Prop} {goal : Shared Thread T → Prop}
    (holds : goal shared) : BringAbout capacity crew goal shared :=
  ⟨[], shared, fun _ member => absurd member List.not_mem_nil, rfl, holds⟩

theorem BringAbout.next {crew : Thread → Prop} {goal : Shared Thread T → Prop}
    (label : Label Thread T) (quiet : label.event = none) (member : crew label.thread)
    {middle : Shared Thread T} (stepped : shared.step label = some middle)
    (rest : BringAbout capacity crew goal middle) : BringAbout capacity crew goal shared := by
  rcases rest with ⟨schedule, after, quietRest, ran, holds⟩
  refine ⟨label :: schedule, after, ?_, ?_, holds⟩
  · intro other member
    rcases List.mem_cons.mp member with rfl | member
    · exact ⟨quiet, ‹_›⟩
    · exact quietRest other member
  · change (shared.step label).bind _ = some after
    rw [stepped]
    exact ran

theorem BringAbout.advance {crew : Thread → Prop} {goal : Shared Thread T → Prop}
    (member : crew thread) {middle : Shared Thread T}
    (advanced : shared.advance thread = some middle)
    (rest : BringAbout capacity crew goal middle) : BringAbout capacity crew goal shared :=
  .next (.advance thread) rfl member advanced rest

theorem BringAbout.trans {crew : Thread → Prop} {first second : Shared Thread T → Prop}
    (begins : BringAbout capacity crew first shared)
    (continues : ∀ middle, first middle → BringAbout capacity crew second middle) :
    BringAbout capacity crew second shared := by
  rcases begins with ⟨schedule, middle, quiet, ran, holds⟩
  rcases continues middle holds with ⟨rest, after, quietRest, ranRest, goal⟩
  refine ⟨schedule ++ rest, after, ?_, ?_, goal⟩
  · intro label member
    rcases List.mem_append.mp member with member | member
    · exact quiet label member
    · exact quietRest label member
  · rw [System.run_append, ran]
    exact ranRest

/-! ## Nobody sleeps through data -/

section

variable {size : Nat}

theorem Blocked.notify {dropped : Nat} (blocked : Blocked consumer size shared)
    (different : consumer ≠ thread) (stage : shared.stage thread = .pushNotify dropped) :
    BringAbout capacity (fun other => other = thread) (Woken consumer size) shared := by
  have stepped : shared.step (.notify thread (some consumer)) =
      some ((shared.wake consumer).goto thread (.returning (.dropped dropped))) := by
    simp only [step, stage, blocked.member, if_true]
  refine .next _ rfl rfl stepped (.done ?_)
  rw [Woken, stage_goto_of_ne _ _ different]
  exact (stage_goto ..).trans (congrArg wakened blocked.stage)

theorem Blocked.dropCount {dropped : Nat} (blocked : Blocked consumer size shared)
    (different : consumer ≠ thread) (stage : shared.stage thread = .dropCount dropped) :
    BringAbout capacity (fun other => other = thread) (Woken consumer size) shared := by
  refine .advance rfl (shared.advance_at stage) (Blocked.notify ?_ different (stage_goto ..))
  exact ⟨(blocked.goto different _).stage, blocked.member⟩

theorem Blocked.pushCount {number dropped : Nat} (blocked : Blocked consumer size shared)
    (different : consumer ≠ thread) (stage : shared.stage thread = .pushCount number dropped) :
    BringAbout capacity (fun other => other = thread) (Woken consumer size) shared := by
  refine .advance rfl (shared.advance_at stage)
    (Blocked.dropCount ?_ different (stage_goto ..))
  exact ⟨(blocked.goto different _).stage, blocked.member⟩

theorem Blocked.pushLoop {items rest : List T} {dropped : Nat}
    (blocked : Blocked consumer size shared) (different : consumer ≠ thread)
    (stage : shared.stage thread = .pushLoop items rest dropped) :
    BringAbout capacity (fun other => other = thread) (Woken consumer size) shared := by
  induction rest generalizing shared dropped with
  | nil =>
      refine .advance rfl (shared.advance_at stage) (Blocked.pushCount ?_ different (stage_goto ..))
      exact ⟨(blocked.goto different _).stage, blocked.member⟩
  | cons item rest induction =>
      refine .advance rfl (shared.advance_at stage) (induction ?_ (stage_goto ..))
      exact ⟨(blocked.goto different _).stage, blocked.member⟩

theorem Blocked.closeNotify (blocked : Blocked consumer size shared)
    (different : consumer ≠ thread) (stage : shared.stage thread = .closeNotify) :
    BringAbout capacity (fun other => other = thread) (Woken consumer size) shared := by
  refine .advance rfl (shared.advance_at stage) (.done ?_)
  rw [Woken, stage_goto_of_ne _ _ different]
  exact congrArg wakened blocked.stage

theorem Blocked.closeRelease (blocked : Blocked consumer size shared)
    (different : consumer ≠ thread) (stage : shared.stage thread = .closeRelease) :
    BringAbout capacity (fun other => other = thread) (Woken consumer size) shared := by
  refine .advance rfl (shared.advance_at stage)
    (Blocked.closeNotify ?_ different (stage_goto ..))
  exact ⟨(blocked.goto different _).stage, blocked.member⟩

theorem Blocked.announced (blocked : Blocked consumer size shared)
    (different : consumer ≠ thread) (announces : (shared.stage thread).announces = true) :
    BringAbout capacity (fun other => other = thread) (Woken consumer size) shared := by
  cases stage : shared.stage thread with
  | pushLoop items rest dropped => exact blocked.pushLoop different stage
  | pushCount number dropped => exact blocked.pushCount different stage
  | dropCount dropped => exact blocked.dropCount different stage
  | pushNotify dropped => exact blocked.notify different stage
  | closeRelease => exact blocked.closeRelease different stage
  | closeNotify => exact blocked.closeNotify different stage
  | _ =>
      rw [stage] at announces
      cases announces

/-- A consumer blocked in `pop_batch` while its queue holds items or is closed
is woken by one thread, a push or a close that has begun, without any new call. -/
theorem blocked_consumer_is_woken
    (reached : (system Thread T capacity).ReachableUnder (OneConsumer consumer) shared)
    (blocked : shared.stage consumer = .popWait size)
    (isReady : 0 < shared.queue.count ∨ shared.queue.closed = true) :
    ∃ thread, thread ≠ consumer ∧
      BringAbout capacity (fun other => other = thread) (Woken consumer size) shared := by
  have watched : shared.Watched consumer := by
    apply reached.invariant
    · rintro state rfl
      exact watched_create capacity
    · intro state label after _ allowed watched stepped
      exact watched.moves allowed (.ofStep stepped)
  have waits : (shared.stage consumer).waits = true := by
    rw [blocked]
    rfl
  rcases watched.announced waits isReady with ⟨thread, announces⟩
  have different : consumer ≠ thread := by
    rintro rfl
    rw [Stage.not_waits_of_announces announces] at waits
    cases waits
  exact ⟨thread, different.symm,
    Blocked.announced ⟨blocked, (watched.consistent.waiters consumer).mpr waits⟩ different
      announces⟩

/-- A consumer blocks, and a producer has stored the first of two items. -/
def blockThenPush : List (Label Bool Nat) :=
  [.call true (.pop 2), .advance true, .advance true, .call false (.push [1, 2])] ++
    List.replicate 3 (.advance false)

theorem runs_blockThenPush : ∃ shared,
    (system Bool Nat 1).run (create 1) blockThenPush = some shared ∧
      shared.stage true = .popWait 2 ∧ shared.queue.count = 1 ∧ shared.owner = some false :=
  ⟨_, rfl, rfl, rfl, rfl⟩

theorem blocked_consumer_is_woken_blockThenPush : ∃ shared,
    (system Bool Nat 1).run (create 1) blockThenPush = some shared ∧
      shared.stage true = .popWait 2 ∧ shared.queue.count = 1 ∧ ∃ thread, thread ≠ true ∧
        BringAbout 1 (fun other => other = thread) (Woken true 2) shared := by
  rcases runs_blockThenPush with ⟨shared, ran, blocked, count, _⟩
  have guarded : (system Bool Nat 1).Guarded (OneConsumer true) (create 1) blockThenPush := by
    apply System.guarded_of_labels
    intro label member state
    simp only [blockThenPush, List.replicate, List.cons_append, List.nil_append, List.mem_cons,
      List.not_mem_nil, or_false] at member
    rcases member with rfl | rfl | rfl | rfl | rfl | rfl | rfl <;> trivial
  have reached := System.ReachableUnder.run (.start rfl) blockThenPush guarded ran
  exact ⟨shared, ran, blocked, count,
    blocked_consumer_is_woken reached blocked (.inl (by rw [count]; exact Nat.one_pos))⟩

end

/-! ## Every operation returns -/

abbrev Returning (thread : Thread) (shared : Shared Thread T) : Prop :=
  ∃ reply, shared.stage thread = .returning reply

theorem returns_pushNotify {dropped : Nat} (stage : shared.stage thread = .pushNotify dropped) :
    BringAbout capacity (fun other => other = thread) (Returning thread) shared := by
  cases waiters : shared.waiters with
  | nil =>
      have stepped : shared.step (.notify thread none) =
          some (shared.goto thread (.returning (.dropped dropped))) := by
        simp only [step, stage, waiters, if_true]
      exact .next _ rfl rfl stepped (.done ⟨_, stage_goto ..⟩)
  | cons waiter rest =>
      have member : waiter ∈ shared.waiters := by
        rw [waiters]
        exact List.mem_cons_self
      have stepped : shared.step (.notify thread (some waiter)) =
          some ((shared.wake waiter).goto thread (.returning (.dropped dropped))) := by
        simp only [step, stage, member, if_true]
      exact .next _ rfl rfl stepped (.done ⟨_, stage_goto ..⟩)

theorem returns_past (past : (shared.stage thread).past = true) :
    BringAbout capacity (fun other => other = thread) (Returning thread) shared := by
  cases stage : shared.stage thread with
  | pushCount number dropped =>
      refine .advance rfl (shared.advance_at stage) ?_
      refine .advance rfl (advance_at _ (stage_goto ..)) ?_
      exact returns_pushNotify (stage_goto ..)
  | dropCount dropped =>
      refine .advance rfl (shared.advance_at stage) ?_
      exact returns_pushNotify (stage_goto ..)
  | pushNotify dropped => exact returns_pushNotify stage
  | popCount out =>
      exact .advance rfl (shared.advance_at stage) (.done ⟨_, stage_goto ..⟩)
  | closeNotify =>
      exact .advance rfl (shared.advance_at stage) (.done ⟨_, stage_goto ..⟩)
  | returning reply => exact .done ⟨reply, stage⟩
  | _ =>
      rw [stage] at past
      cases past

section

variable {before : Shared Thread T}

theorem Inside.leaves (inside : Inside thread before shared) {stage : Stage T}
    (past : stage.past = true)
    (advanced : shared.advance thread = some (shared.unlock thread stage)) :
    BringAbout capacity (fun other => other = thread) (Out thread before) shared :=
  .advance rfl advanced (.done ⟨inside.unlock advanced,
    (congrArg Stage.past (stage_goto ..)).trans past⟩)

theorem Inside.pushLoop {items rest : List T} {dropped : Nat}
    (inside : Inside thread before shared)
    (stage : shared.stage thread = .pushLoop items rest dropped) :
    BringAbout capacity (fun other => other = thread) (Out thread before) shared := by
  induction rest generalizing shared dropped with
  | nil => exact inside.leaves rfl (shared.advance_at stage)
  | cons item rest induction =>
      exact .advance rfl (shared.advance_at stage)
        (induction (inside.work (shared.advance_at stage)) (stage_goto ..))

theorem Inside.popLoop {n : Nat} {out : List T} (inside : Inside thread before shared)
    (stage : shared.stage thread = .popLoop n out) :
    BringAbout capacity (fun other => other = thread) (Out thread before) shared := by
  induction left : n - out.length generalizing shared out with
  | zero =>
      have advanced := (shared.advance_at stage).trans
        (if_neg (Nat.not_lt_of_le (Nat.le_of_sub_eq_zero left)))
      exact .advance rfl advanced
        ((inside.work advanced).leaves rfl (advance_at _ (stage_goto ..)))
  | succ left induction =>
      have advanced := (shared.advance_at stage).trans (if_pos (by omega))
      refine .advance rfl advanced (induction (inside.work advanced) (stage_goto ..) ?_)
      rw [List.length_append, List.length_singleton]
      omega

/-- A thread inside a critical section gets out of it by its own steps, unless
it is about to look at the queue for the first time. -/
theorem Inside.leavesForGood (inside : Inside thread before shared)
    (holds : (shared.stage thread).holds = true)
    (looked : ∀ size, shared.stage thread ≠ .popTest size) :
    BringAbout capacity (fun other => other = thread) (Out thread before) shared := by
  cases stage : shared.stage thread with
  | pushTest items =>
      have advanced := shared.advance_at stage
      refine .advance rfl advanced ?_
      by_cases closed : shared.queue.closed = true
      · exact (inside.work advanced).leaves rfl
          (advance_at _ ((stage_goto ..).trans (if_pos closed)))
      · exact (inside.work advanced).pushLoop ((stage_goto ..).trans (if_neg closed))
  | pushRefused => exact inside.leaves rfl (shared.advance_at stage)
  | pushLoop items rest dropped => exact inside.pushLoop stage
  | popTest size => exact absurd stage (looked size)
  | popLast size =>
      have advanced := shared.advance_at stage
      refine .advance rfl advanced ?_
      by_cases isReady : 0 < shared.queue.count ∨ shared.queue.closed = true
      · exact (inside.work advanced).popLoop ((stage_goto ..).trans (if_pos isReady))
      · exact (inside.work advanced).leaves rfl
          (advance_at _ ((stage_goto ..).trans (if_neg isReady)))
  | popTimedOut => exact inside.leaves rfl (shared.advance_at stage)
  | popLoop n out => exact inside.popLoop stage
  | popRelease out => exact inside.leaves rfl (shared.advance_at stage)
  | closeStore =>
      have advanced := shared.advance_at stage
      exact .advance rfl advanced
        ((inside.work advanced).leaves rfl (advance_at _ (stage_goto ..)))
  | closeRelease => exact inside.leaves rfl (shared.advance_at stage)
  | _ =>
      rw [stage] at holds
      cases holds

theorem Inside.leavesSection (inside : Inside thread before shared)
    (holds : (shared.stage thread).holds = true) :
    BringAbout capacity (fun other => other = thread) (fun after => Out thread before after ∨
      Left thread before after ∧ (after.stage thread).waits = true) shared := by
  by_cases looks : ∃ size, shared.stage thread = .popTest size
  · rcases looks with ⟨size, stage⟩
    by_cases isReady : 0 < shared.queue.count ∨ shared.queue.closed = true
    · have advanced := (shared.advance_at stage).trans (if_pos isReady)
      exact .advance rfl advanced (((inside.work advanced).popLoop (stage_goto ..)).trans
        fun _ out => .done (.inl out))
    · have advanced := (shared.advance_at stage).trans (if_neg isReady)
      refine .advance rfl advanced (.done (.inr ⟨⟨⟨?_, ?_⟩, rfl⟩, ?_⟩))
      · exact inside.consistent.moves (.ofAdvance advanced)
      · intro other different
        exact (stage_goto_of_ne shared _ different).trans (inside.others other different)
      · exact congrArg Stage.waits (stage_goto ..)
  · rw [not_exists] at looks
    exact (inside.leavesForGood holds looks).trans fun _ out => .done (.inl out)

theorem returns_popRelock {size : Nat} (consistent : shared.Consistent)
    (free : shared.owner = none) (stage : shared.stage thread = .popRelock size) :
    BringAbout capacity (fun other => other = thread) (Returning thread) shared := by
  have locked := lock_of_free free thread (.popLast size)
  have stepped : shared.step (.reacquire thread true) =
      some { shared.goto thread (.popLast size) with owner := some thread } := by
    simp only [step, stage, if_true]
    exact locked
  rcases locked_inside consistent rfl (by rw [stage]; rfl) locked with ⟨inside, last⟩
  refine .next _ rfl rfl stepped ((inside.leavesForGood ?_ ?_).trans ?_)
  · rw [last]
    rfl
  · intro size looks
    rw [last] at looks
    cases looks
  · intro after out
    exact returns_past out.past

theorem returns_popWait {size : Nat} (consistent : shared.Consistent)
    (free : shared.owner = none) (stage : shared.stage thread = .popWait size) :
    BringAbout capacity (fun other => other = thread) (Returning thread) shared := by
  have advanced := shared.advance_at stage
  have woken : (shared.wake thread).stage thread = .popRelock size :=
    (stage_goto ..).trans (congrArg wakened stage)
  exact .advance rfl advanced
    (returns_popRelock (consistent.moves (.ofAdvance advanced)) free woken)

theorem returns_holding (consistent : shared.Consistent)
    (holds : (shared.stage thread).holds = true) :
    BringAbout capacity (fun other => other = thread) (Returning thread) shared := by
  have inside : Inside thread shared shared := ⟨consistent, fun _ _ => rfl⟩
  refine (inside.leavesSection holds).trans ?_
  rintro after (out | ⟨left, waits⟩)
  · exact returns_past out.past
  · cases stage : after.stage thread with
    | popWait size => exact returns_popWait left.consistent left.free stage
    | _ =>
        rw [stage] at waits
        cases waits

theorem returns_free (consistent : shared.Consistent) (free : shared.owner = none)
    (busy : shared.stage thread ≠ .idle) :
    BringAbout capacity (fun other => other = thread) (Returning thread) shared := by
  have locks {stage : Stage T} (holds : stage.holds = true)
      (waits : stage.waits = (shared.stage thread).waits)
      (advanced : shared.advance thread = shared.lock thread stage) :
      BringAbout capacity (fun other => other = thread) (Returning thread) shared := by
    have locked := lock_of_free free thread stage
    rcases locked_inside consistent holds waits locked with ⟨inside, stands⟩
    refine .advance rfl (advanced.trans locked) (returns_holding inside.consistent ?_)
    rw [stands, holds]
  cases stage : shared.stage thread with
  | idle => exact absurd stage busy
  | pushLock items => exact locks rfl (by rw [stage]; rfl) (shared.advance_at stage)
  | popLock size => exact locks rfl (by rw [stage]; rfl) (shared.advance_at stage)
  | closeLock => exact locks rfl (by rw [stage]; rfl) (shared.advance_at stage)
  | popWait size => exact returns_popWait consistent free stage
  | popRelock size => exact returns_popRelock consistent free stage
  | pushCount number dropped => exact returns_past (by rw [stage]; rfl)
  | dropCount dropped => exact returns_past (by rw [stage]; rfl)
  | pushNotify dropped => exact returns_past (by rw [stage]; rfl)
  | popCount out => exact returns_past (by rw [stage]; rfl)
  | closeNotify => exact returns_past (by rw [stage]; rfl)
  | returning reply => exact .done ⟨reply, stage⟩
  | _ =>
      have inside := consistent.free free thread
      rw [stage] at inside
      cases inside

end

theorem BringAbout.mono {crew larger : Thread → Prop} {goal : Shared Thread T → Prop}
    (wider : ∀ other, crew other → larger other) (brings : BringAbout capacity crew goal shared) :
    BringAbout capacity larger goal shared := by
  rcases brings with ⟨schedule, after, quiet, ran, holds⟩
  exact ⟨schedule, after, fun label member =>
    ⟨(quiet label member).1, wider _ (quiet label member).2⟩, ran, holds⟩

/-- In every state any threads can reach, every operation that has been called
can return by the steps of its own thread and of whoever is inside a critical
section. In particular no push waits for a consumer that is blocked, slow or
gone. -/
theorem every_operation_can_return
    (reached : (system Thread T capacity).Reachable shared)
    (called : shared.stage thread ≠ .idle) :
    BringAbout capacity (fun other => other = thread ∨ shared.owner = some other)
      (Returning thread) shared := by
  have consistent := consistent_of_reachable reached
  have own (other : Thread) (same : other = thread) :
      other = thread ∨ shared.owner = some other := .inl same
  cases owned : shared.owner with
  | none =>
      rw [← owned]
      exact (returns_free consistent owned called).mono own
  | some owner =>
      rw [← owned]
      have holds := (consistent.owner owner).mp owned
      rcases eq_or_ne owner thread with rfl | different
      · exact (returns_holding consistent holds).mono own
      · have inside : Inside owner shared shared := ⟨consistent, fun _ _ => rfl⟩
        have helps (other : Thread) (same : other = owner) :
            other = thread ∨ shared.owner = some other :=
          .inr (owned.trans (congrArg some same.symm))
        refine ((inside.leavesSection holds).mono helps).trans ?_
        intro middle outcome
        have left : Left owner shared middle := by
          rcases outcome with out | ⟨left, _⟩
          · exact out.toLeft
          · exact left
        refine (returns_free left.consistent left.free ?_).mono own
        rw [left.others thread different.symm]
        exact called

/-- The blocked consumer can time out although the producer has the mutex. -/
theorem every_operation_can_return_blockThenPush : ∃ shared,
    (system Bool Nat 1).run (create 1) blockThenPush = some shared ∧
      BringAbout 1 (fun other => other = true ∨ shared.owner = some other) (Returning true)
        shared := by
  rcases runs_blockThenPush with ⟨shared, ran, blocked, _, _⟩
  refine ⟨shared, ran, every_operation_can_return (.execute (.start rfl) blockThenPush ran) ?_⟩
  rw [blocked]
  intro idle
  cases idle

end

end

end Shared

end TelemetryGateway.BoundedQueue
