-- SUMMARY: `ThreadSafeQueue`: producers and consumers at any point of `push` and `pop`, and what no interleaving loses.
import BeeRType.Base.Monitor
import BeeRType.Base.Transition

/-!
# Thread-safe queue

`push` appends under the lock and calls `notify_one` after it has given the lock
back. `pop` tests under the lock whether the queue is empty, sleeps if it is, and
tests again whenever it is woken. Each of these is one step of the thread that takes
it.
-/

open Monitor Transition

namespace BeeRType

variable {T P C : Type}

structure ThreadSafeQueue (T P C : Type) where
  queue : List T
  /-- The producers between the two steps of `push`. -/
  notifying : Finset P
  /-- The consumers inside `m_cond_var.wait`. -/
  condVar : CondVar C
  /-- All elements that have been enqueued, oldest first. -/
  pushed : List T
  /-- All elements that `pop` has returned, oldest first. -/
  popped : List T

inductive QueueEvent (T P C : Type) where
  /-- The part of `push` that holds the lock. -/
  | enqueue (p : P) (value : T)
  /-- `notify_one` wakes a sleeping consumer, or finds none. -/
  | notifyOne (p : P) (woken : Option C)
  | spuriousWake (c : C)
  /-- A consumer has the lock and tests the predicate. -/
  | pop (c : C)

namespace ThreadSafeQueue

def new : ThreadSafeQueue T P C where
  queue := []
  notifying := ∅
  condVar := .new
  pushed := []
  popped := []

variable [DecidableEq P] [DecidableEq C]

def enqueue (q : ThreadSafeQueue T P C) (p : P) (value : T) : ThreadSafeQueue T P C :=
  { q with
    queue := q.queue ++ [value]
    notifying := insert p q.notifying
    pushed := q.pushed ++ [value] }

/-- `notify_one` unblocks a thread if there is one. -/
def notifyOne (q : ThreadSafeQueue T P C) (p : P) (woken : Option C) : ThreadSafeQueue T P C :=
  match woken with
  | some c =>
    if c ∈ q.condVar.blocked then
      { q with notifying := q.notifying.erase p, condVar := q.condVar.wake c }
    else q
  | none => if q.condVar.blocked = ∅ then { q with notifying := q.notifying.erase p } else q

def spuriousWake (q : ThreadSafeQueue T P C) (c : C) : ThreadSafeQueue T P C :=
  { q with condVar := q.condVar.wake c }

/-- The test of `m_cond_var.wait` and, if it succeeds, the rest of `pop`: the element
taken, if one is. -/
def pop (q : ThreadSafeQueue T P C) (c : C) : Option T × ThreadSafeQueue T P C :=
  match q.queue with
  | [] => (none, { q with condVar := q.condVar.block c })
  | value :: rest =>
    (some value, { q with
      queue := rest
      condVar := q.condVar.pass c
      popped := q.popped ++ [value] })

def step (q : ThreadSafeQueue T P C) : QueueEvent T P C → ThreadSafeQueue T P C
  | .enqueue p value => if p ∈ q.notifying then q else q.enqueue p value
  | .notifyOne p woken => if p ∈ q.notifying then q.notifyOne p woken else q
  | .spuriousWake c => q.spuriousWake c
  | .pop c => if c ∈ q.condVar.blocked then q else (q.pop c).2

/-- A notification adds and takes nothing. -/
theorem queue_notifyOne {q : ThreadSafeQueue T P C} {p : P} {woken : Option C} :
    (q.step (.notifyOne p woken)).queue = q.queue := by
  simp only [step, notifyOne]
  split
  · cases woken <;> dsimp only <;> split <;> rfl
  · rfl

/-- What has been popped and what is queued is what has been pushed, and a consumer
sleeps beside queued elements only as long as a wake-up for each of them is on its
way. -/
structure LosesNothing (q : ThreadSafeQueue T P C) : Prop where
  elements : q.popped ++ q.queue = q.pushed
  wakeUps : q.condVar.blocked.Nonempty → q.queue.length ≤ q.notifying.card + q.condVar.woken.card

variable {q : ThreadSafeQueue T P C} {p : P} {c : C}

omit [DecidableEq C] in
theorem LosesNothing.enqueue (hq : q.LosesNothing) (hp : p ∉ q.notifying) {value : T} :
    (q.enqueue p value).LosesNothing where
  elements := by
    simp only [ThreadSafeQueue.enqueue]
    rw [← List.append_assoc, hq.elements]
  wakeUps := by
    have hcovers : q.condVar.Covers (q.notifying.card + 1) (q.queue.length + 1) :=
      CondVar.Covers.add hq.wakeUps
    simp only [ThreadSafeQueue.enqueue, List.length_append, List.length_singleton,
      Finset.card_insert_of_notMem hp]
    exact hcovers

theorem LosesNothing.notifyOne (hq : q.LosesNothing) (hp : p ∈ q.notifying) {woken : Option C} :
    (q.notifyOne p woken).LosesNothing := by
  have hcard : (q.notifying.erase p).card + 1 = q.notifying.card := Finset.card_erase_add_one hp
  unfold ThreadSafeQueue.notifyOne
  split
  · split
    · rename_i hc
      refine ⟨hq.elements, CondVar.Covers.notify ?_ hc⟩
      rw [hcard]
      exact hq.wakeUps
    · exact hq
  · split
    · rename_i hnobody
      exact ⟨hq.elements, CondVar.covers_of_blocked_eq hnobody⟩
    · exact hq

omit [DecidableEq P] in
theorem LosesNothing.spuriousWake (hq : q.LosesNothing) : (q.spuriousWake c).LosesNothing :=
  ⟨hq.elements, CondVar.Covers.spurious hq.wakeUps⟩

omit [DecidableEq P] in
/-- A consumer goes to sleep beside an empty queue only. -/
theorem LosesNothing.pop (hq : q.LosesNothing) : (q.pop c).2.LosesNothing := by
  unfold ThreadSafeQueue.pop
  split
  · rename_i hempty
    refine ⟨hq.elements, ?_⟩
    rw [hempty]
    exact CondVar.covers_zero
  · rename_i value rest hqueue
    have hcovers : q.condVar.Covers q.notifying.card q.queue.length := hq.wakeUps
    rw [hqueue] at hcovers
    refine ⟨?_, hcovers.take⟩
    rw [← hq.elements, hqueue]
    simp

theorem LosesNothing.step (hq : q.LosesNothing) (e : QueueEvent T P C) :
    (q.step e).LosesNothing := by
  cases e with
  | enqueue p value =>
      unfold ThreadSafeQueue.step
      dsimp only
      split
      · exact hq
      · rename_i hp
        exact hq.enqueue hp
  | notifyOne p woken =>
      unfold ThreadSafeQueue.step
      dsimp only
      split
      · rename_i hp
        exact hq.notifyOne hp
      · exact hq
  | spuriousWake c => exact hq.spuriousWake
  | pop c =>
      unfold ThreadSafeQueue.step
      dsimp only
      split
      · exact hq
      · exact hq.pop

omit [DecidableEq P] [DecidableEq C] in
theorem losesNothing_new : (new : ThreadSafeQueue T P C).LosesNothing :=
  ⟨rfl, CondVar.covers_zero⟩

/-- What an event enqueues: a producer in `push` cannot call it again. -/
def enqueues (q : ThreadSafeQueue T P C) : QueueEvent T P C → Option T
  | .enqueue p value => if p ∈ q.notifying then none else some value
  | .notifyOne .. | .spuriousWake _ | .pop _ => none

/-- The values that a run enqueues, oldest first. -/
def enqueued : ThreadSafeQueue T P C → List (QueueEvent T P C) → List T
  | _, [] => []
  | q, e :: es => (q.enqueues e).toList ++ (q.step e).enqueued es

theorem pushed_step (e : QueueEvent T P C) :
    (q.step e).pushed = q.pushed ++ (q.enqueues e).toList := by
  cases e with
  | enqueue p value =>
      unfold ThreadSafeQueue.step enqueues
      dsimp only
      split
      · exact (List.append_nil _).symm
      · rfl
  | notifyOne p woken =>
      rw [enqueues, Option.toList_none, List.append_nil]
      simp only [ThreadSafeQueue.step, ThreadSafeQueue.notifyOne]
      split
      · cases woken <;> dsimp only <;> split <;> rfl
      · rfl
  | spuriousWake c => exact (List.append_nil _).symm
  | pop c =>
      rw [enqueues, Option.toList_none, List.append_nil]
      simp only [ThreadSafeQueue.step, ThreadSafeQueue.pop]
      split
      · rfl
      · split <;> rfl

theorem pushed_run (es : List (QueueEvent T P C)) :
    (run step q es).pushed = q.pushed ++ q.enqueued es := by
  induction es generalizing q with
  | nil => exact (List.append_nil _).symm
  | cons e es ih => rw [run_cons, ih, pushed_step, enqueued, List.append_assoc]

/-- Whatever the interleaving of the producers and consumers: no element that has been
enqueued is lost, doubled or reordered, and once every `push` has returned and every woken
consumer has tested again, a consumer sleeps only if the queue is empty. -/
theorem losesNothing (es : List (QueueEvent T P C)) :
    Always step LosesNothing new es ∧ (run step new es).pushed = enqueued new es ∧
      Always step (fun q => q.notifying = ∅ → q.condVar.woken = ∅ → q.condVar.blocked.Nonempty →
        q.queue = []) new es := by
  have halways : Always step LosesNothing (new : ThreadSafeQueue T P C) es :=
    always_of_step losesNothing_new fun q e hq => hq.step e
  refine ⟨halways, pushed_run es, halways.mono fun q hq hnotifying hwoken hblocked => ?_⟩
  have hle := hq.wakeUps hblocked
  rw [hnotifying, hwoken] at hle
  exact List.length_eq_zero_iff.mp (Nat.le_zero.mp hle)

end ThreadSafeQueue

end BeeRType
