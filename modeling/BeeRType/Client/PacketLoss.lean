-- SUMMARY: The packet loss that the client shows as a percentage, over every order of sends, receives and ticks.
import BeeRType.Client.Losses
import Mathlib.Algebra.Order.Field.Basic

/-!
# Packet loss

`packets_lost_` is a count for `parseMessage` and `handleSend`, and a percentage
for the scene that shows it. A tick of the ping timer turns the one into the other
in place, so that the next tick takes the percentage for a count.
-/

open Cpp Transition

namespace BeeRType

/-- What touches the counters of the client. -/
inductive CounterEvent where
  | send (message : Bytes)
  | handleSend (error : Bool)
  | handleReceive (error : ReceiveError) (d : Datagram)
  | ping (now : ℚ)

namespace Client

def counterStep (c : Client) : CounterEvent → Client
  | .send message => c.send message
  | .handleSend error => c.handleSend error
  | .handleReceive error d =>
    match c.handleReceive d.now error d.source d.data with
    | .ok c' => c'
    | .error _ => c
  | .ping now => c.handlePingTimer now

/-- The percentage that a tick computes. -/
def packetLoss (c : Client) (now : ℚ) : ℚ :=
  (((c.sendHeartBeat now).checkTimeout now).resetPacketLoss now).1

/-- A tick computes and stores a percentage. -/
def TicksPercentage (c : Client) : CounterEvent → Prop
  | .ping now => c.packetLoss now ∈ Set.Icc 0 100 ∧
      (c.handlePingTimer now).lagMeter.packetsLost ∈ Set.Icc 0 100
  | _ => True

end Client

/-! ## What has happened -/

namespace CounterEvent

/-- A send, or a receive that has brought a datagram. -/
def isPacket : CounterEvent → Bool
  | .send _ | .handleReceive .success _ | .handleReceive .messageSize _ => true
  | .handleReceive .operationAborted _ | .handleReceive .other _ | .handleSend _ | .ping _ => false

/-- The number of the packet received. -/
def number : CounterEvent → Option Int32
  | .handleReceive .success d | .handleReceive .messageSize d => d.number
  | _ => none

end CounterEvent

/-- The events so far, the latest first. -/
abbrev LossHistory := List CounterEvent

namespace LossHistory

/-- How many packets have been sent and received. -/
def packets (before : LossHistory) : Nat := before.countP CounterEvent.isPacket

/-- The last number received, `0` before any. -/
def lastNumber (before : LossHistory) : Int32 := (before.filterMap CounterEvent.number).headD 0

def TenSeconds (time now : ℚ) : Prop := 10 ≤ (now - time) / 1000000

instance (time now : ℚ) : Decidable (TenSeconds time now) := inferInstanceAs (Decidable (_ ≤ _))

/-- The first tick, or the last one that came ten seconds after the reset before. -/
def lastReset : LossHistory → Option ℚ
  | [] => none
  | .ping now :: before =>
    match lastReset before with
    | none => some now
    | some time => if TenSeconds time now then some now else some time
  | _ :: before => lastReset before

/-- A tick at `now` starts over. -/
def Resets (before : LossHistory) (now : ℚ) : Prop :=
  TenSeconds ((lastReset before).getD now) now

instance (before : LossHistory) (now : ℚ) : Decidable (Resets before now) :=
  inferInstanceAs (Decidable (TenSeconds _ _))

/-- What is taken for lost: the distance of the last number that does not follow on the one
before, and the sends that have failed since. But a tick in between has made a percentage
of it, or nothing if it was a reset or the distance was negative. -/
def lost : LossHistory → ℚ
  | [] => 0
  | .send _ :: before => lost before
  | .handleSend error :: before => if error then lost before + 1 else lost before
  | .handleReceive error d :: before =>
    match (CounterEvent.handleReceive error d).number with
    | none => lost before
    | some n =>
      if n - lastNumber before = 1 then lost before else ((n - lastNumber before - 1).toInt : ℚ)
  | .ping now :: before =>
    if Resets before now ∨ packets before = 0 then 0
    else max 0 (lost before / packets before * 100)

variable {before : LossHistory} {now : ℚ}

/-- Two ticks with nothing in between: the second takes a percentage of the first
percentage. -/
theorem lost_again {now' : ℚ} (hpackets : packets before ≠ 0)
    (hresets : ¬ Resets (.ping now :: before) now') :
    lost (.ping now' :: .ping now :: before) =
      lost (.ping now :: before) / packets before * 100 := by
  have hlost : 0 ≤ lost (.ping now :: before) := by
    rw [lost]
    split_ifs
    · exact le_rfl
    · exact le_max_left _ _
  have hsame : packets (.ping now :: before) = packets before := rfl
  rw [lost, hsame, if_neg (not_or.mpr ⟨hresets, hpackets⟩)]
  exact max_eq_right (mul_nonneg (div_nonneg hlost (Nat.cast_nonneg _)) (by decide +kernel))

/-- Per cent of the packets: at most a hundred if no more were lost than there were. -/
theorem lost_ping_mem_iff : lost (.ping now :: before) ∈ Set.Icc 0 100 ↔
    (¬ Resets before now → 0 < packets before → lost before ≤ packets before) := by
  rw [lost]
  split_ifs with h
  · refine iff_of_true ⟨le_rfl, by decide +kernel⟩ fun hresets hpackets => ?_
    exact absurd (h.resolve_left hresets) hpackets.ne'
  · obtain ⟨hresets, hpackets⟩ := not_or.mp h
    have hpos : (0 : ℚ) < packets before := Nat.cast_pos.mpr (Nat.pos_of_ne_zero hpackets)
    rw [forall_prop_of_true hresets, forall_prop_of_true (Nat.pos_of_ne_zero hpackets),
      Set.mem_Icc, and_iff_right (le_max_left _ _), max_le_iff, and_iff_right (by decide +kernel),
      ← le_div_iff₀ (by decide +kernel), div_le_iff₀ hpos, div_self (by decide +kernel), one_mul]

end LossHistory

namespace Client

open LossHistory

variable {c : Client} {before : LossHistory} {now : ℚ}

/-- The counters are those of what has happened. -/
structure Records (c : Client) (before : LossHistory) : Prop where
  packets : c.packetsSent + c.packetsReceived = packets before
  lastNumber : c.lastPacketnb = lastNumber before
  lastReset : c.lastResetTime = lastReset before
  lost : c.lagMeter.packetsLost = lost before

theorem records_new (packetData : PacketData) (endpoint : Endpoint) (start : ℚ) :
    (new packetData endpoint start).Records [] := ⟨rfl, rfl, rfl, rfl⟩

/-! ## One tick -/

theorem Records.resets_iff (hc : c.Records before) :
    10 ≤ (now - c.lastResetTime.getD now) / 1000000 ↔ Resets before now := by
  rw [hc.lastReset]
  exact Iff.rfl

theorem Records.resetPacketLoss (hc : c.Records before) :
    (c.resetPacketLoss now).1 = LossHistory.lost (.ping now :: before) := by
  have htotal : (c.packetsSent : ℚ) + c.packetsReceived = LossHistory.packets before := by
    rw [← Int.cast_add, hc.packets, Int.cast_natCast]
  rw [LossHistory.lost]
  by_cases hresets : Resets before now
  · simp [Client.resetPacketLoss, hc.resets_iff, hresets]
  · by_cases hpackets : LossHistory.packets before = 0
    · simp [Client.resetPacketLoss, hc.resets_iff, hresets, htotal, hpackets]
    · have hpos : (0 : ℚ) < LossHistory.packets before :=
        Nat.cast_pos.mpr (Nat.pos_of_ne_zero hpackets)
      simp only [Client.resetPacketLoss, hc.resets_iff, hresets, htotal, hpackets, hpos, hc.lost,
        if_true, if_false, or_self]

/-- The heartbeat and the timeout leave the counters alone. -/
theorem Records.beforeReset (hc : c.Records before) (now : ℚ) :
    ((c.sendHeartBeat now).checkTimeout now).Records before := by
  unfold sendHeartBeat checkTimeout
  split_ifs <;> exact ⟨hc.packets, hc.lastNumber, hc.lastReset, hc.lost⟩

theorem Records.packetLoss (hc : c.Records before) :
    c.packetLoss now = LossHistory.lost (.ping now :: before) :=
  (hc.beforeReset now).resetPacketLoss

theorem packetsLost_ping (c : Client) (now : ℚ) :
    (c.handlePingTimer now).lagMeter.packetsLost = c.packetLoss now := rfl

/-- A tick computes and stores a percentage exactly if it starts over, or finds no more
lost than there were packets. -/
theorem Records.ticksPercentage_iff (hc : c.Records before) : c.TicksPercentage (.ping now) ↔
    (¬ Resets before now → 0 < LossHistory.packets before →
      LossHistory.lost before ≤ LossHistory.packets before) := by
  rw [TicksPercentage, packetsLost_ping, and_self_iff, hc.packetLoss, lost_ping_mem_iff]

theorem Records.lastReset_ping (hc : c.Records before) :
    (c.resetPacketLoss now).2.lastResetTime = LossHistory.lastReset (.ping now :: before) := by
  have hkept : (c.resetPacketLoss now).2.lastResetTime =
      if Resets before now then some now else some ((LossHistory.lastReset before).getD now) := by
    rw [← if_congr hc.resets_iff rfl rfl, ← hc.lastReset]
    simp only [Client.resetPacketLoss]
    split_ifs <;> rfl
  rw [hkept, LossHistory.lastReset]
  cases hbefore : LossHistory.lastReset before with
  | none => simp
  | some time => simp [Resets, hbefore]

theorem Records.packets_ping (hc : c.Records before) :
    (c.resetPacketLoss now).2.packetsSent + (c.resetPacketLoss now).2.packetsReceived =
      LossHistory.packets before := by
  rw [← hc.packets]
  simp only [Client.resetPacketLoss]
  split_ifs <;> rfl

theorem Records.ping (hc : c.Records before) (now : ℚ) :
    (c.handlePingTimer now).Records (.ping now :: before) where
  packets := (hc.beforeReset now).packets_ping
  lastNumber := lastPacketnb_handlePingTimer.trans hc.lastNumber
  lastReset := (hc.beforeReset now).lastReset_ping
  lost := hc.packetLoss

/-! ## The other events -/

theorem lastResetTime_parseMessage {c' : Client} (h : c.parseMessage now = .ok c') :
    (c'.packetsSent, c'.packetsReceived, c'.lastResetTime) =
      (c.packetsSent, c.packetsReceived, c.lastResetTime) := by
  unfold parseMessage at h
  split at h
  · cases h
    rfl
  · cases h
  · dsimp only at h
    split_ifs at h
    · cases h
      rfl
    · cases h
      rfl
    · cases h
      exact parseElements_frame
        (f := fun c => (c.packetsSent, c.packetsReceived, c.lastResetTime))
        (fun _ _ _ _ => rfl) c _ _

/-- A datagram is received: one packet more, and its number is compared. -/
theorem Records.receive (hc : c.Records before) {error : ReceiveError} {d : Datagram}
    (herror : error = .success ∨ error = .messageSize) :
    (c.receiveDatagram d).Records (.handleReceive error d :: before) := by
  have hnumber : (CounterEvent.handleReceive error d).number = d.number := by
    rcases herror with rfl | rfl <;> rfl
  have hpackets : LossHistory.packets (.handleReceive error d :: before) =
      LossHistory.packets before + 1 := by
    rcases herror with rfl | rfl <;> exact List.countP_cons_of_pos rfl
  have hcount := c.lossCount_receiveDatagram d
  have hlast := congrArg LossCount.last hcount
  have hlost := congrArg LossCount.lost hcount
  obtain ⟨hsent, hkept⟩ := Prod.mk.inj (lastResetTime_parseMessage (c.handleReceive_eq_ok d))
  obtain ⟨hreceived, hreset⟩ := Prod.mk.inj hkept
  constructor
  · rw [hsent, hreceived, hpackets, Nat.cast_add, ← hc.packets]
    exact (add_assoc _ _ _).symm
  · refine hlast.trans ?_
    rw [LossHistory.lastNumber, List.filterMap_cons, hnumber]
    cases d.number with
    | none => exact hc.lastNumber
    | some n => rfl
  · rw [hreset, LossHistory.lastReset]
    · exact hc.lastReset
    · exact fun _ => CounterEvent.noConfusion
  · refine hlost.trans ?_
    rw [LossHistory.lost, hnumber, ← hc.lastNumber]
    cases d.number with
    | none => exact hc.lost
    | some n =>
        rw [← hc.lost]
        exact ite_not _ _ _

theorem Records.step (hc : c.Records before) (e : CounterEvent) :
    (c.counterStep e).Records (e :: before) := by
  cases e with
  | send message =>
      refine ⟨?_, hc.lastNumber, hc.lastReset, hc.lost⟩
      rw [LossHistory.packets, List.countP_cons_of_pos rfl, Nat.cast_add, ← LossHistory.packets,
        ← hc.packets]
      exact add_right_comm _ _ _
  | handleSend error =>
      cases error with
      | false => exact ⟨hc.packets, hc.lastNumber, hc.lastReset, hc.lost⟩
      | true => exact ⟨hc.packets, hc.lastNumber, hc.lastReset, congrArg (· + 1) hc.lost⟩
  | handleReceive error d =>
      cases error with
      | success => exact hc.receive (.inl rfl)
      | messageSize => exact hc.receive (.inr rfl)
      | operationAborted => exact ⟨hc.packets, hc.lastNumber, hc.lastReset, hc.lost⟩
      | other => exact ⟨hc.packets, hc.lastNumber, hc.lastReset, hc.lost⟩
  | ping now => exact hc.ping now

/-! ## Runs -/

theorem Records.run (hc : c.Records before) (events : List CounterEvent) :
    (run counterStep c events).Records (events.reverse ++ before) := by
  induction events generalizing c before with
  | nil => exact hc
  | cons e events ih =>
      rw [run_cons, List.reverse_cons, List.append_assoc]
      exact ih (hc.step e)

/-- Along every run from a new client, the ticks compute and store percentages exactly
if none that does not start over finds more lost than there were packets. -/
theorem ticksPercentage_run (packetData : PacketData) (endpoint : Endpoint) (start : ℚ)
    (events : List CounterEvent) :
    EachStep counterStep TicksPercentage (new packetData endpoint start) events ↔
      ∀ pre now post, events = pre ++ .ping now :: post → ¬ Resets pre.reverse now →
        0 < LossHistory.packets pre.reverse →
          LossHistory.lost pre.reverse ≤ LossHistory.packets pre.reverse := by
  have hrecords (pre : List CounterEvent) :
      (Transition.run counterStep (new packetData endpoint start) pre).Records pre.reverse := by
    have hrun := (records_new packetData endpoint start).run pre
    rwa [List.append_nil] at hrun
  rw [eachStep_iff]
  constructor
  · intro h pre now post hevents
    exact (hrecords pre).ticksPercentage_iff.mp (h pre (.ping now) post hevents)
  · intro h pre e post hevents
    cases e with
    | ping now => exact (hrecords pre).ticksPercentage_iff.mpr (h pre now post hevents)
    | send _ => trivial
    | handleSend _ => trivial
    | handleReceive _ _ => trivial

/-- The first packet of a client that joins late is number 1000: a loss of 99900%. -/
theorem not_ticksPercentage : ¬ EachStep counterStep TicksPercentage
    (new ⟨0, 0, .finite 0, .finite 0, .finite 0, .finite 0⟩ ⟨1, 4242⟩ 0)
    [.handleReceive .success ⟨0, ⟨1, 4242⟩, [24, 59] ++ str "7;0;0;0;0;1000", by decide +kernel⟩,
      .ping 0] := by
  intro h
  exact absurd h.2.1.1.2 (by decide +kernel)

end Client

end BeeRType
