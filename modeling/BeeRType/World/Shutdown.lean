-- SUMMARY: The end of `runServer`: the worker's loop against `PacketHandler::stop`, and when `stop` returns.
import BeeRType.Network.ThreadSafeQueue
import BeeRType.World.PacketHandler

/-!
# Shutdown

`runServer` calls `PacketHandler::stop` once `io_context::run` has returned, so that
no producer is inside `push` any more. `stop` clears `m_running` and joins the worker,
which reads the flag between two packets only.
-/

open Transition

namespace BeeRType

variable {P : Type}

/-- Where the worker is in `processPackets`. -/
inductive WorkerAt where
  | test
  | pop
  | handlePacket (packet : Packet)
  | exited

inductive StopCall where
  | notCalled
  | joining
  | returned
  deriving DecidableEq

structure Shutdown (P : Type) where
  /-- Of the packets, with the one worker for a consumer. -/
  queue : ThreadSafeQueue Packet P Unit
  /-- `m_running`, which `start` has set. -/
  running : Bool
  worker : WorkerAt
  /-- What the handlers read and write. -/
  world : World
  ioFinished : Bool
  stopCall : StopCall

inductive ShutdownEvent (P : Type) where
  | push (p : P) (packet : Packet)
  | notifyOne (p : P) (woken : Option Unit)
  | spuriousWake
  | worker
  /-- `io_context::run` returns. -/
  | ioFinish
  | stop
  | join
  deriving DecidableEq

namespace Shutdown

def start : Shutdown P where
  queue := .new
  running := true
  worker := .test
  world := .new
  ioFinished := false
  stopCall := .notCalled

/-- The worker is inside `m_queue.pop()`, and there is nothing to pop. -/
def Starved (s : Shutdown P) : Prop := s.worker = .pop ∧ s.queue.queue = []

/-- `stop` waits for the worker, and the worker for a packet. -/
structure Deadlocked (s : Shutdown P) : Prop where
  running : s.running = false
  joining : s.stopCall = .joining
  starved : s.Starved
  blocked : () ∈ s.queue.condVar.blocked

/-- If the event is the call of `stop`, the worker is not inside `pop` with nothing
to pop. -/
def StopsSafely (s : Shutdown P) (e : ShutdownEvent P) : Prop :=
  e = .stop → s.ioFinished = true → s.stopCall = .notCalled → ¬ s.Starved

variable [DecidableEq P]

/-- A step of `processPackets`. -/
def work (s : Shutdown P) : Shutdown P :=
  match s.worker with
  | .test => { s with worker := if s.running then .pop else .exited }
  | .pop =>
    if () ∈ s.queue.condVar.blocked then s
    else
      match s.queue.pop () with
      | (some packet, queue) => { s with queue := queue, worker := .handlePacket packet }
      | (none, queue) => { s with queue := queue }
  | .handlePacket packet => { s with world := s.world.handlePacket packet, worker := .test }
  | .exited => s

def ioFinish (s : Shutdown P) : Shutdown P :=
  if s.queue.notifying = ∅ then { s with ioFinished := true } else s

def stop (s : Shutdown P) : Shutdown P :=
  match s.ioFinished, s.stopCall with
  | true, .notCalled => { s with running := false, stopCall := .joining }
  | _, _ => s

def join (s : Shutdown P) : Shutdown P :=
  match s.stopCall, s.worker with
  | .joining, .exited => { s with stopCall := .returned }
  | _, _ => s

def step (s : Shutdown P) : ShutdownEvent P → Shutdown P
  | .push p packet =>
    if s.ioFinished then s else { s with queue := s.queue.step (.enqueue p packet) }
  | .notifyOne p woken => { s with queue := s.queue.step (.notifyOne p woken) }
  | .spuriousWake => { s with queue := s.queue.step (.spuriousWake ()) }
  | .worker => s.work
  | .ioFinish => s.ioFinish
  | .stop => s.stop
  | .join => s.join

/-! ## The steps of the worker -/

variable {s : Shutdown P} {es : List (ShutdownEvent P)}

omit [DecidableEq P] in
theorem work_test (hworker : s.worker = .test) :
    s.work = { s with worker := if s.running then .pop else .exited } := by
  simp only [work, hworker]

omit [DecidableEq P] in
theorem work_pop_blocked (hworker : s.worker = .pop) (hblocked : () ∈ s.queue.condVar.blocked) :
    s.work = s := by
  simp only [work, hworker, if_pos hblocked]

omit [DecidableEq P] in
theorem work_pop_nil (hworker : s.worker = .pop) (hblocked : () ∉ s.queue.condVar.blocked)
    (hqueue : s.queue.queue = []) : s.work = { s with queue := (s.queue.pop ()).2 } := by
  simp only [work, hworker, if_neg hblocked, ThreadSafeQueue.pop, hqueue]

omit [DecidableEq P] in
theorem work_pop_cons {packet : Packet} {rest : List Packet} (hworker : s.worker = .pop)
    (hblocked : () ∉ s.queue.condVar.blocked) (hqueue : s.queue.queue = packet :: rest) :
    s.work = { s with queue := (s.queue.pop ()).2, worker := .handlePacket packet } := by
  simp only [work, hworker, if_neg hblocked, ThreadSafeQueue.pop, hqueue]

omit [DecidableEq P] in
theorem work_handlePacket {packet : Packet} (hworker : s.worker = .handlePacket packet) :
    s.work = { s with world := s.world.handlePacket packet, worker := .test } := by
  simp only [work, hworker]

omit [DecidableEq P] in
theorem work_exited (hworker : s.worker = .exited) : s.work = s := by
  simp only [work, hworker]

/-! ## A call of `stop` that finds the worker inside `pop` -/

/-- `stop` has been called and nothing will come for the worker, which is inside `pop`. -/
structure Doomed (s : Shutdown P) : Prop where
  running : s.running = false
  joining : s.stopCall = .joining
  ioFinished : s.ioFinished = true
  worker : s.worker = .pop
  queue : s.queue.queue = []

omit [DecidableEq P] in
theorem Doomed.work (hs : s.Doomed) : s.work.Doomed := by
  by_cases hblocked : () ∈ s.queue.condVar.blocked
  · rw [work_pop_blocked hs.worker hblocked]
    exact hs
  · rw [work_pop_nil hs.worker hblocked hs.queue]
    refine ⟨hs.running, hs.joining, hs.ioFinished, hs.worker, ?_⟩
    simp only [ThreadSafeQueue.pop, hs.queue]

/-- Nothing that can still happen gets the worker out of `pop`. -/
theorem Doomed.step (hs : s.Doomed) (e : ShutdownEvent P) : (s.step e).Doomed := by
  cases e with
  | push p packet =>
      simp only [Shutdown.step, hs.ioFinished, if_true]
      exact hs
  | notifyOne p woken =>
      exact ⟨hs.running, hs.joining, hs.ioFinished, hs.worker,
        ThreadSafeQueue.queue_notifyOne.trans hs.queue⟩
  | spuriousWake => exact ⟨hs.running, hs.joining, hs.ioFinished, hs.worker, hs.queue⟩
  | worker => exact hs.work
  | ioFinish =>
      simp only [Shutdown.step, ioFinish]
      split
      · exact ⟨hs.running, hs.joining, rfl, hs.worker, hs.queue⟩
      · exact hs
  | stop =>
      simp only [Shutdown.step, stop, hs.ioFinished, hs.joining]
      exact hs
  | join =>
      simp only [Shutdown.step, join, hs.joining, hs.worker]
      exact hs

theorem Doomed.deadlocked (hs : s.Doomed) : (s.step .worker).Deadlocked := by
  have hworker := hs.work
  refine ⟨hworker.running, hworker.joining, ⟨hworker.worker, hworker.queue⟩, ?_⟩
  by_cases hblocked : () ∈ s.queue.condVar.blocked
  · rw [Shutdown.step, work_pop_blocked hs.worker hblocked]
    exact hblocked
  · rw [Shutdown.step, work_pop_nil hs.worker hblocked hs.queue]
    simp only [ThreadSafeQueue.pop, hs.queue]
    exact Finset.mem_insert_self () _

theorem doomed_of_stop {e : ShutdownEvent P} (h : ¬ s.StopsSafely e) : (s.step e).Doomed := by
  simp only [StopsSafely, Classical.not_imp, not_not] at h
  obtain ⟨rfl, hfinished, hnotCalled, hstarved⟩ := h
  simp only [Shutdown.step, stop, hfinished, hnotCalled]
  exact ⟨rfl, rfl, rfl, hstarved.1, hstarved.2⟩

/-! ## A call of `stop` that does not -/

/-- Once `stop` has been called, no `push` is under way, the flag is clear, and if the
worker is inside `pop` there is something to pop. -/
structure Stoppable (s : Shutdown P) : Prop where
  lossless : s.queue.LosesNothing
  pushed : s.ioFinished = true → s.queue.notifying = ∅
  stopped : s.stopCall ≠ .notCalled → s.running = false ∧ s.ioFinished = true ∧ ¬ s.Starved

omit [DecidableEq P] in
theorem stoppable_start : (start : Shutdown P).Stoppable :=
  ⟨ThreadSafeQueue.losesNothing_new, nofun, fun h => absurd rfl h⟩

omit [DecidableEq P] in
theorem Stoppable.not_deadlocked (hs : s.Stoppable) : ¬ s.Deadlocked := by
  intro hdeadlocked
  have hcalled : s.stopCall ≠ .notCalled := by
    rw [hdeadlocked.joining]
    exact nofun
  exact (hs.stopped hcalled).2.2 hdeadlocked.starved

omit [DecidableEq P] in
/-- A worker that sleeps while no `push` is under way has nothing to pop. -/
theorem Stoppable.not_blocked (hs : s.Stoppable) (hcalled : s.stopCall ≠ .notCalled)
    (hworker : s.worker = .pop) : () ∉ s.queue.condVar.blocked := by
  intro hblocked
  obtain ⟨-, hfinished, hstarved⟩ := hs.stopped hcalled
  have hwoken : s.queue.condVar.woken = ∅ := by
    rw [Finset.eq_empty_iff_forall_notMem]
    intro _
    exact Finset.disjoint_left.mp s.queue.condVar.disjoint hblocked
  have hle := hs.lossless.wakeUps ⟨(), hblocked⟩
  rw [hs.pushed hfinished, hwoken] at hle
  exact hstarved ⟨hworker, List.length_eq_zero_iff.mp (Nat.le_zero.mp hle)⟩

omit [DecidableEq P] in
theorem Stoppable.work (hs : s.Stoppable) : s.work.Stoppable := by
  cases hworker : s.worker with
  | test =>
      rw [work_test hworker]
      refine ⟨hs.lossless, hs.pushed, fun hcalled => ?_⟩
      obtain ⟨hrunning, hfinished, -⟩ := hs.stopped hcalled
      exact ⟨hrunning, hfinished, by simp [Starved, hrunning]⟩
  | pop =>
      by_cases hblocked : () ∈ s.queue.condVar.blocked
      · rw [work_pop_blocked hworker hblocked]
        exact hs
      · have hlossless : (s.queue.pop ()).2.LosesNothing := hs.lossless.pop
        cases hqueue : s.queue.queue with
        | nil =>
            rw [work_pop_nil hworker hblocked hqueue]
            refine ⟨hlossless, ?_, fun hcalled => ?_⟩
            · simp only [ThreadSafeQueue.pop, hqueue]
              exact hs.pushed
            · exact absurd ⟨hworker, hqueue⟩ (hs.stopped hcalled).2.2
        | cons packet rest =>
            rw [work_pop_cons hworker hblocked hqueue]
            refine ⟨hlossless, ?_, fun hcalled => ?_⟩
            · simp only [ThreadSafeQueue.pop, hqueue]
              exact hs.pushed
            · exact ⟨(hs.stopped hcalled).1, (hs.stopped hcalled).2.1, by simp [Starved]⟩
  | handlePacket packet =>
      rw [work_handlePacket hworker]
      exact ⟨hs.lossless, hs.pushed, fun hcalled =>
        ⟨(hs.stopped hcalled).1, (hs.stopped hcalled).2.1, by simp [Starved]⟩⟩
  | exited =>
      rw [work_exited hworker]
      exact hs

theorem Stoppable.step {e : ShutdownEvent P} (hs : s.Stoppable) (h : s.StopsSafely e) :
    (s.step e).Stoppable := by
  cases e with
  | push p packet =>
      simp only [Shutdown.step]
      split
      · exact hs
      · rename_i hfinished
        exact ⟨hs.lossless.step (.enqueue p packet), fun hio => absurd hio hfinished,
          fun hcalled => absurd (hs.stopped hcalled).2.1 hfinished⟩
  | notifyOne p woken =>
      have hqueue : (s.queue.step (.notifyOne p woken)).queue = s.queue.queue :=
        ThreadSafeQueue.queue_notifyOne
      refine ⟨hs.lossless.step (.notifyOne p woken), fun hfinished => ?_, fun hcalled => ?_⟩
      · have hp : p ∉ s.queue.notifying := by
          rw [hs.pushed hfinished]
          exact Finset.notMem_empty p
        simp only [Shutdown.step, ThreadSafeQueue.step, if_neg hp]
        exact hs.pushed hfinished
      · obtain ⟨hrunning, hfinished, hstarved⟩ := hs.stopped hcalled
        exact ⟨hrunning, hfinished, fun h => hstarved ⟨h.1, hqueue.symm.trans h.2⟩⟩
  | spuriousWake => exact ⟨hs.lossless.step (.spuriousWake ()), hs.pushed, hs.stopped⟩
  | worker => exact hs.work
  | ioFinish =>
      simp only [Shutdown.step, ioFinish]
      split
      · rename_i hnotifying
        exact ⟨hs.lossless, fun _ => hnotifying, fun hcalled =>
          ⟨(hs.stopped hcalled).1, rfl, (hs.stopped hcalled).2.2⟩⟩
      · exact hs
  | stop =>
      simp only [Shutdown.step, stop]
      split
      · rename_i hfinished hnotCalled
        exact ⟨hs.lossless, hs.pushed, fun _ => ⟨rfl, hfinished, h rfl hfinished hnotCalled⟩⟩
      · exact hs
  | join =>
      simp only [Shutdown.step, join]
      split
      · rename_i hjoining _
        have hcalled : s.stopCall ≠ .notCalled := by
          rw [hjoining]
          decide
        exact ⟨hs.lossless, hs.pushed, fun _ => hs.stopped hcalled⟩
      · exact hs

theorem always_stoppable (h : EachStep step StopsSafely (start : Shutdown P) es) :
    Always step Stoppable start es :=
  always_of_eachStep stoppable_start (fun _ _ hs h => hs.step h) h

/-- `stop` can wait for a worker that waits for a packet, in some continuation of the
run, exactly if it has been called while the worker was inside `pop` with nothing to
pop. -/
theorem neverDeadlocked_iff :
    EachStep step StopsSafely (start : Shutdown P) es ↔
      ∀ es', .stop ∉ es' → Always step (fun s => ¬ s.Deadlocked) start (es ++ es') := by
  constructor
  · intro h es' hes'
    have hrest : EachStep step StopsSafely (run step start es) es' :=
      (eachStep_of_forall fun e he => ne_of_mem_of_not_mem he hes').mono
        fun _ _ hne hstop => absurd hstop hne
    exact (always_stoppable (eachStep_append.mpr ⟨h, hrest⟩)).mono fun _ hs => hs.not_deadlocked
  · intro h
    rw [eachStep_iff]
    rintro pre e post rfl
    by_contra hunsafe
    have hdoomed : Always step Doomed ((run step start pre).step e) post :=
      always_of_step (doomed_of_stop hunsafe) fun _ e hs => hs.step e
    have hfinal := (h [.worker] (by simp)).final
    rw [run_append, run_append] at hfinal
    exact hfinal hdoomed.final.deadlocked

/-! ## `stop` returns -/

omit [DecidableEq P] in
/-- The worker finishes the packet that it takes and then sees the flag. -/
theorem Stoppable.exits (hs : s.Stoppable) (hcalled : s.stopCall ≠ .notCalled) :
    s.work.work.work.worker = .exited := by
  obtain ⟨hrunning, -, hstarved⟩ := hs.stopped hcalled
  have hexited : ∀ {s' : Shutdown P}, s'.worker = .exited → s'.work.worker = .exited := by
    intro s' hworker
    rw [work_exited hworker]
    exact hworker
  have htested : ∀ {s' : Shutdown P}, s'.worker = .test → s'.running = false →
      s'.work.worker = .exited := by
    intro s' hworker hrunning
    rw [work_test hworker]
    simp [hrunning]
  cases hworker : s.worker with
  | test => exact hexited (hexited (htested hworker hrunning))
  | pop =>
      cases hqueue : s.queue.queue with
      | nil => exact absurd ⟨hworker, hqueue⟩ hstarved
      | cons packet rest =>
          rw [work_pop_cons hworker (hs.not_blocked hcalled hworker) hqueue]
          exact htested rfl hrunning
  | handlePacket packet =>
      rw [work_handlePacket hworker]
      exact hexited (htested rfl hrunning)
  | exited => exact hexited (hexited (hexited hworker))

omit [DecidableEq P] in
theorem stopCall_work : s.work.stopCall = s.stopCall := by
  unfold work
  split
  · rfl
  · split
    · rfl
    · split <;> rfl
  · rfl
  · rfl

/-- After a safe call, three steps of the worker let `stop` return. -/
theorem stop_returns (h : EachStep step StopsSafely (start : Shutdown P) es)
    (hjoining : (run step start es).stopCall = .joining) :
    (run step start (es ++ [.worker, .worker, .worker, .join])).stopCall = .returned := by
  have hcalled : (run step start es).stopCall ≠ .notCalled := by
    rw [hjoining]
    exact nofun
  have hexits := (always_stoppable h).final.exits hcalled
  have hstill : (run step start es).work.work.work.stopCall = .joining := by
    rw [stopCall_work, stopCall_work, stopCall_work, hjoining]
  rw [run_append]
  simp only [run_cons, run_nil, step, join, hstill, hexits]

/-- An idle server: the worker sleeps in `pop` when the network thread ends. -/
theorem deadlocked_idle :
    ¬ Always step (fun s : Shutdown Unit => ¬ s.Deadlocked) start
        [.worker, .worker, .ioFinish, .stop] := by
  intro h
  exact h.final ⟨rfl, rfl, ⟨rfl, rfl⟩, by decide⟩

end Shutdown

end BeeRType
