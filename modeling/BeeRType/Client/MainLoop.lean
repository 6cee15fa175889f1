-- SUMMARY: The main loop against the receive thread: which packets reach the game scene.
import BeeRType.Base.Transition
import BeeRType.Client.GameScene

/-!
# Main loop

Once the game scene has started, an iteration of `Client::main_loop` runs
`handleServerAction` on the mailbox, then `handleInput`, and unlocks the mutex at
its end. `handleReceive` takes the mutex before it writes to the mailbox and does
not give it back. Between the three steps of an iteration a datagram may arrive
whenever the mutex is free; unlocking a free mutex is taken to do nothing.
-/

open Cpp Transition

namespace BeeRType

/-- What the main loop does next. -/
inductive LoopPhase where
  | handle
  | input
  | unlock
  /-- `main_loop` has returned. -/
  | returned (code : Int)
  deriving DecidableEq, Repr

structure MainLoop where
  client : Client
  scene : GameScene
  phase : LoopPhase
  /-- The packets that `parseMessage` has written to the mailbox, oldest first. -/
  parsed : List PacketData
  /-- Those of them that `handleServerAction` has been run on. -/
  consumed : List PacketData
  /-- How many packets were written since `handleServerAction` last ran. -/
  arrivals : Nat

inductive LoopEvent where
  | receive (now : ℚ) (source : Endpoint) (data : {data : Bytes // Client.WellFormed data})
  /-- The next step of the main loop; the window has these events in store. -/
  | mainLoop (inputs : List InputEvent)

namespace MainLoop

/-- The state when the game scene starts. -/
def start (client : Client) (scene : GameScene) : MainLoop where
  client := client
  scene := scene
  phase := .handle
  parsed := []
  consumed := []
  arrivals := 0

/-- The packet in the mailbox, if `handleServerAction` has not run on it. -/
def waiting (m : MainLoop) : List PacketData :=
  if m.arrivals = 0 then [] else [m.client.packetData]

def sendNewAction (m : MainLoop) : MainLoop :=
  let (newAction, scene) := m.scene.sendOverPackets
  match newAction with
  | some action =>
    { m with
      scene
      client.sendQueue := m.client.sendQueue ++ [Client.createPacket action] }
  | none => { m with scene }

/-- The next step of `main_loop`. -/
def advance (m : MainLoop) (inputs : List InputEvent) : MainLoop :=
  match m.phase with
  | .handle =>
    -- GAME_STARTED: the client gives up.
    if m.client.packetData.action = 30 then { m with phase := .returned 1 }
    else
      let (scene, packetData) := m.scene.handleServerAction m.client.packetData
      { m with
        scene
        client.packetData := packetData
        phase := .input
        consumed := m.consumed ++ m.waiting
        arrivals := 0 }
  | .input =>
    let (scene, closed) := m.scene.handleInput m.client.packetData inputs
    let m := { m with scene }.sendNewAction
    -- `sendExitPacket` follows the loop, which breaks before the unlock.
    if closed then
      { m with client := m.client.send (Client.createPacket .disconnected), phase := .returned 0 }
    else { m with phase := .unlock }
  | .unlock => { m with client.mutexLocked := false, phase := .handle }
  | .returned _ => m

def step (m : MainLoop) : LoopEvent → MainLoop
  | .receive now source data =>
    -- `mutex_.lock()` waits while the mutex is taken.
    if m.client.mutexLocked then m
    else match m.client.handleReceive now .success source data.val with
      | .ok client =>
        { m with
          client
          parsed := m.parsed ++ [client.packetData]
          arrivals := m.arrivals + 1 }
      | .error _ => m
  | .mainLoop inputs => m.advance inputs

/-- Every packet parsed has been consumed once, in the order of arrival, or is
the one that waits in the mailbox. So does the packet that is there when `main_loop`
returns: the protocol, in which consume and release take turns, is then over. -/
def InOrder (m : MainLoop) : Prop := m.parsed = m.consumed ++ m.waiting

instance (m : MainLoop) : Decidable m.InOrder :=
  inferInstanceAs (Decidable (m.parsed = m.consumed ++ m.waiting))

/-- A packet that gets the mutex is the first since `handleServerAction` last
ran. -/
def FirstSinceHandled (m : MainLoop) : LoopEvent → Prop
  | .receive _ _ _ => m.client.mutexLocked = false → m.arrivals = 0
  | .mainLoop _ => True

variable {m : MainLoop} {inputs : List InputEvent} {event : LoopEvent} {es : List LoopEvent}

/-! ## What a step does -/

theorem exists_handleReceive {data : Bytes} (hdata : Client.WellFormed data) (c : Client) (now : ℚ)
    (source : Endpoint) : ∃ c', c.handleReceive now .success source data = .ok c' := by
  unfold Client.WellFormed Client.comparedNumber at hdata
  simp only [Client.handleReceive, Client.parseMessage]
  split at hdata
  · rename_i packetType _ packetInside hcons
    simp only [hcons]
    split
    · exact ⟨_, rfl⟩
    · split <;> exact ⟨_, rfl⟩
  · cases hdata

/-- A packet that gets the mutex goes to the mailbox, whatever is there. -/
theorem step_receive_free (hfree : m.client.mutexLocked = false) (now : ℚ) (source : Endpoint)
    (data : {data : Bytes // Client.WellFormed data}) :
    ∃ client : Client, m.step (.receive now source data) =
      { m with client, parsed := m.parsed ++ [client.packetData], arrivals := m.arrivals + 1 } := by
  obtain ⟨client, hclient⟩ := exists_handleReceive data.property m.client now source
  exact ⟨client, by simp [step, hfree, hclient]⟩

theorem step_receive_locked {now : ℚ} {source : Endpoint}
    {data : {data : Bytes // Client.WellFormed data}} (hlocked : m.client.mutexLocked = true) :
    m.step (.receive now source data) = m := by
  simp [step, hlocked]

/-- What a step of the main loop does to the packets: either it handles the
waiting one, or it leaves the mailbox alone. -/
inductive Advanced (m m' : MainLoop) : Prop
  | handled (hparsed : m'.parsed = m.parsed) (hconsumed : m'.consumed = m.consumed ++ m.waiting)
      (harrivals : m'.arrivals = 0)
      (hscene : m'.scene = m.scene.applyAction m.client.packetData)
  | left (hparsed : m'.parsed = m.parsed) (hconsumed : m'.consumed = m.consumed)
      (harrivals : m'.arrivals = m.arrivals)
      (hpacket : m'.client.packetData = m.client.packetData)

theorem sendNewAction_eq (m : MainLoop) : ∃ scene sendQueue,
    m.sendNewAction = { m with scene := scene, client.sendQueue := sendQueue } := by
  unfold sendNewAction
  dsimp only
  split <;> exact ⟨_, _, rfl⟩

theorem advance_advanced (m : MainLoop) (inputs : List InputEvent) :
    Advanced m (m.advance inputs) := by
  unfold advance
  split
  · split
    · exact .left rfl rfl rfl rfl
    · exact .handled rfl rfl rfl rfl
  · dsimp only
    obtain ⟨scene, sendQueue, heq⟩ := sendNewAction_eq
      { m with scene := (m.scene.handleInput m.client.packetData inputs).1 }
    rw [heq]
    split <;> exact .left rfl rfl rfl rfl
  · exact .left rfl rfl rfl rfl
  · exact .left rfl rfl rfl rfl

/-! ## Runs -/

/-- The packets are in order and at most one has come since `handleServerAction`
last ran. -/
structure OneWaiting (m : MainLoop) : Prop where
  inOrder : m.InOrder
  arrivals_le : m.arrivals ≤ 1

theorem oneWaiting_start (client : Client) (scene : GameScene) : OneWaiting (start client scene) :=
  ⟨rfl, Nat.zero_le 1⟩

theorem OneWaiting.advance (hm : OneWaiting m) : OneWaiting (m.advance inputs) := by
  cases advance_advanced m inputs with
  | handled hparsed hconsumed harrivals _ =>
      refine ⟨?_, by rw [harrivals]; exact Nat.zero_le 1⟩
      rw [InOrder, hparsed, hconsumed, hm.inOrder]
      simp [waiting, harrivals]
  | left hparsed hconsumed harrivals hpacket =>
      refine ⟨?_, by rw [harrivals]; exact hm.arrivals_le⟩
      have hwaiting : (m.advance inputs).waiting = m.waiting := by
        simp only [waiting, harrivals, hpacket]
      rw [InOrder, hparsed, hconsumed, hwaiting]
      exact hm.inOrder

theorem OneWaiting.step (hm : OneWaiting m) (h : FirstSinceHandled m event) :
    OneWaiting (m.step event) := by
  cases event with
  | mainLoop inputs => exact hm.advance
  | receive now source data =>
      cases hmutex : m.client.mutexLocked with
      | true => rw [step_receive_locked hmutex]; exact hm
      | false =>
          obtain ⟨client, heq⟩ := step_receive_free hmutex now source data
          have hzero := h hmutex
          have horder := hm.inOrder
          simp only [InOrder, waiting, hzero, if_true, List.append_nil] at horder
          rw [heq]
          refine ⟨?_, by simp [hzero]⟩
          simp [InOrder, waiting, hzero, horder]

/-- A second packet overwrites the one that waits. -/
theorem OneWaiting.not_inOrder (hm : OneWaiting m) (h : ¬ FirstSinceHandled m event) :
    ¬ (m.step event).InOrder := by
  cases event with
  | mainLoop inputs => exact absurd trivial h
  | receive now source data =>
      obtain ⟨hmutex, harrivals⟩ := Classical.not_imp.mp h
      obtain ⟨client, heq⟩ := step_receive_free hmutex now source data
      have horder := hm.inOrder
      simp only [InOrder, waiting, harrivals, if_false] at horder
      intro hinOrder
      rw [heq] at hinOrder
      simp only [InOrder, waiting, Nat.add_eq_zero_iff, Nat.one_ne_zero, and_false, if_false,
        horder] at hinOrder
      have hlength := congrArg List.length hinOrder
      simp only [List.length_append, List.length_singleton] at hlength
      omega

/-- The packets reach the game scene once each and in order exactly when no two
of them arrive between two runs of `handleServerAction`. -/
theorem inOrder_iff (client : Client) (scene : GameScene) (es : List LoopEvent) :
    Always step InOrder (start client scene) es ↔
      EachStep step FirstSinceHandled (start client scene) es :=
  always_iff_eachStep (I := OneWaiting) (oneWaiting_start client scene) (fun _ hm => hm.inOrder)
    (fun _ _ hm h => hm.step h) (fun _ _ hm h => hm.not_inOrder h)

/-- The first packet comes after `handleServerAction` and before the unlock at
the end of the iteration, the second one before the next iteration. -/
theorem inOrder_overwritten :
    let client := Client.new ⟨0, 0, .finite 0, .finite 0, .finite 0, .finite 0⟩ ⟨0, 4242⟩ 0
    let first : PacketData := ⟨24, 0, .finite 50, .finite 100, .finite 0, .finite 0⟩
    let second : PacketData := ⟨24, 1, .finite 50, .finite 200, .finite 0, .finite 0⟩
    let es : List LoopEvent :=
      [.mainLoop [],
        .receive 0 ⟨0, 4242⟩ ⟨24 :: str ";0;50;100;0;0;3", by decide +kernel⟩,
        .mainLoop [], .mainLoop [],
        .receive 0 ⟨0, 4242⟩ ⟨24 :: str ";1;50;200;0;0;4", by decide +kernel⟩,
        .mainLoop []]
    ¬ Always step InOrder (start client .new) es ∧
      (run step (start client .new) es).parsed = [first, second] ∧
      (run step (start client .new) es).consumed = [second] := by
  decide +kernel

end MainLoop

end BeeRType
