-- SUMMARY: The numbers that the client compares, and what a comparison does to its loss count.
import BeeRType.Client.Codec

/-!
# Compared numbers

`parseMessage` compares the number of a packet with the last one only when it
reads the packet to its end. `comparedNumber` is that number as a function of the
datagram; here it is tied to `parseMessage`, for any datagram and any client.
-/

open Cpp

namespace BeeRType

/-- The last number, and the losses counted up to it. -/
structure LossCount where
  last : Int32
  lost : ℚ

/-- A number is compared with the last one. -/
def LossCount.compare (t : LossCount) (n : Int32) : LossCount where
  last := n
  lost := if n - t.last ≠ 1 then ((n - t.last - 1).toInt : ℚ) else t.lost

namespace Client

variable {c c' : Client} {now : ℚ} {source : Endpoint} {data : Bytes}

/-- The client after the number, if any, has been compared with the last one of
`c`. -/
def Compared (c : Client) (number : Option Int32) (c' : Client) : Prop :=
  c'.lastPacketnb = number.getD c.lastPacketnb ∧
    ((∀ n ∈ number, n - c.lastPacketnb = 1) → c'.lagMeter.packetsLost = c.lagMeter.packetsLost)

/-- The last number and the loss count. -/
def lossCount (c : Client) : LossCount := ⟨c.lastPacketnb, c.lagMeter.packetsLost⟩

/-- The counts of `c` after the number, if any, has been compared with the last one. -/
def lossCountWith (c : Client) (number : Option Int32) : LossCount :=
  number.elim c.lossCount c.lossCount.compare

theorem lossCount_tryAssign {α : Type} {c₀ : Client} {value : Except StdException α}
    {rest : α → Client} {number : α → Option Int32} (hc : c.lossCount = c₀.lossCount)
    (hrest : ∀ a, (rest a).lossCount = c₀.lossCountWith (number a)) :
    (c.tryAssign value rest).lossCount = c₀.lossCountWith (value.toOption.bind number) := by
  cases value with
  | error _ => exact hc
  | ok a => exact hrest a

theorem lossCount_checkPacketnb (n : Int32) :
    (c.checkPacketnb n).lossCount = c.lossCountWith (some n) := by
  by_cases hn : n - c.lastPacketnb = 1 <;>
    simp [lossCount, lossCountWith, checkPacketnb, LossCount.compare, hn]

/-- `comparedNumber` is the number that `parseMessage` compares. -/
theorem lossCount_parseMessage (h : c.parseMessage now = .ok c') :
    c'.lossCount = c.lossCountWith (comparedNumber c.receivedData) := by
  unfold parseMessage at h
  split at h
  · rename_i hdata
    cases h
    rw [hdata]
    rfl
  · cases h
  · rename_i packetType _ packetInside hdata
    rw [hdata]
    dsimp only at h
    split at h
    · rename_i hnil
      cases h
      simp only [comparedNumber, hnil, true_or, if_true]
      rfl
    · rename_i hnil
      split at h
      · rename_i hheart
        cases h
        simp only [comparedNumber, hheart, or_true, if_true]
        rfl
      · rename_i hheart
        cases h
        simp only [comparedNumber, hnil, hheart, or_self, if_false]
        refine lossCount_tryAssign rfl fun serverId => ?_
        refine lossCount_tryAssign rfl fun newX => ?_
        refine lossCount_tryAssign rfl fun newY => ?_
        refine lossCount_tryAssign rfl fun newVx => ?_
        refine lossCount_tryAssign rfl fun newVy => ?_
        exact lossCount_tryAssign rfl fun packetnb => lossCount_checkPacketnb packetnb

theorem lossCount_handleReceive (h : c.handleReceive now .success source data = .ok c') :
    c'.lossCount = c.lossCountWith (comparedNumber (data.take maxLength)) :=
  lossCount_parseMessage h

theorem compared_of_lossCount {number : Option Int32} (h : c'.lossCount = c.lossCountWith number) :
    Compared c number c' := by
  have hlast := congrArg LossCount.last h
  have hlost := congrArg LossCount.lost h
  cases number with
  | none => exact ⟨hlast, fun _ => hlost⟩
  | some n =>
      refine ⟨hlast, fun hone => hlost.trans ?_⟩
      exact if_neg (not_not.mpr (hone n rfl))

theorem compared_handleReceive (h : c.handleReceive now .success source data = .ok c') :
    Compared c (comparedNumber (data.take maxLength)) c' :=
  compared_of_lossCount (lossCount_handleReceive h)

/-- The number of a call site's packet is compared. -/
theorem comparedNumber_createPacket {s : Server} {t : PacketType} {p : Payload}
    (ht : t ≠ .heartbeat) (hp : p.CallSite) :
    comparedNumber (s.createPacket t p.data).1 = some (s.sequenceNumber + 1) := by
  obtain ⟨id, x, y, vx, vy, hid, hx, hy, hvx, hvy⟩ := hp.parses
  have hdecode := decode_createPacket (s := s) (t := t) hp.noDelim
  rw [Server.createPacket_data p.data_ne_nil] at hdecode ⊢
  generalize s.sequenceNumber + 1 = number at hdecode ⊢
  obtain ⟨-, helems⟩ := Prod.mk.inj hdecode
  rw [List.drop_succ_cons, List.drop_succ_cons, List.drop_zero] at helems
  simp [comparedNumber, helems, PacketType.byte_ne_heartbeat ht, Payload.fields, hid,
    stoi_toStringInt_self, hx, hy, hvx, hvy, Except.toOption]

theorem lastPacketnb_handlePingTimer : (c.handlePingTimer now).lastPacketnb = c.lastPacketnb := by
  simp only [handlePingTimer, resetPacketLoss, checkTimeout, sendHeartBeat]
  split_ifs <;> rfl

/-- The percentage of no losses is none. -/
theorem packetsLost_handlePingTimer (h : c.lagMeter.packetsLost = 0) :
    (c.handlePingTimer now).lagMeter.packetsLost = 0 := by
  simp only [handlePingTimer, resetPacketLoss, checkTimeout, sendHeartBeat]
  split_ifs <;> simp [h]

theorem handleSendTimer_frame {α : Type} {f : Client → α}
    (hsend : ∀ (c : Client) sendQueue packetsSent sent,
      f { c with sendQueue := sendQueue, packetsSent := packetsSent, sent := sent } = f c) :
    f c.handleSendTimer = f c := by
  unfold handleSendTimer
  split
  · rfl
  · exact hsend c _ _ _

end Client

end BeeRType
