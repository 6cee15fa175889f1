-- SUMMARY: The loss count of the client against the packets that are really missing, over whole sequences of datagrams.
import BeeRType.Base.Transition
import BeeRType.Client.Compared
import BeeRType.Client.Rejected
import Mathlib.Data.Finset.Card

/-!
# Losses

`parseMessage` compares a packet number with the one before. Where the two are not
neighbours, it overwrites the loss count with their distance; it does not add to
it, and a late packet has a negative distance.
-/

open Cpp Transition

namespace BeeRType

/-- A datagram that `parseMessage` returns from. -/
structure Datagram where
  now : ℚ
  source : Endpoint
  data : Bytes
  readable : (data.take maxLength).length ≠ 1

namespace Datagram

def number (d : Datagram) : Option Int32 := Client.comparedNumber (d.data.take maxLength)

end Datagram

namespace Client

/-- A datagram is received. The main loop gives the mutex back in between. -/
def receiveDatagram (c : Client) (d : Datagram) : Client :=
  match c.handleReceive d.now .success d.source d.data with
  | .ok c' => c'
  | .error _ => c

theorem handleReceive_eq_ok (c : Client) (d : Datagram) :
    c.handleReceive d.now .success d.source d.data = .ok (c.receiveDatagram d) := by
  obtain ⟨c', hc'⟩ : ∃ c', c.handleReceive d.now .success d.source d.data = .ok c' :=
    exists_parseMessage d.readable
  rw [receiveDatagram, hc']

theorem lossCount_receiveDatagram (c : Client) (d : Datagram) :
    (c.receiveDatagram d).lossCount = c.lossCountWith d.number :=
  lossCount_handleReceive (c.handleReceive_eq_ok d)

/-- The counters after a run depend on the numbers only. -/
theorem lossCount_run {c : Client} {ds : List Datagram} :
    (run receiveDatagram c ds).lossCount =
      (ds.filterMap Datagram.number).foldl LossCount.compare c.lossCount := by
  induction ds generalizing c with
  | nil => rfl
  | cons d ds ih =>
      rw [run_cons, ih, lossCount_receiveDatagram, lossCountWith]
      cases hn : d.number <;> simp [hn]

end Client

/-! ## Sequences of numbers -/

namespace LossCount

/-- The number is one of the `2 ^ 31` that follow on the one before, where the greatest
`int` is followed by the least. -/
def Ahead (last n : Int32) : Prop := (n.toInt - last.toInt - 1) % 2 ^ 32 < 2 ^ 31

instance (last n : Int32) : Decidable (Ahead last n) := inferInstanceAs (Decidable (_ < _))

/-- How many of the numbers do not follow on the one before. -/
def gaps : Int32 → List Int32 → Nat
  | _, [] => 0
  | last, n :: ns => (if n - last = 1 then 0 else 1) + gaps n ns

/-- A strictly increasing sequence of positive numbers. -/
def Increasing (ns : List Int32) : Prop :=
  ns.Pairwise (fun n n' => n.toInt < n'.toInt) ∧ ∀ n ∈ ns, 0 < n.toInt

/-- How many positive numbers below the last one are not in the sequence. -/
def missing (ns : List Int32) : Nat :=
  let received := ns.map Int32.toNatClampNeg
  ((Finset.range (received.getLastD 0)).filter fun n => 0 < n ∧ n ∉ received).card

/-- How many numbers are skipped on the way through a sequence. -/
def skipped : Int → List Int → Int
  | _, [] => 0
  | last, z :: zs => (z - last - 1) + skipped z zs

variable {t : LossCount} {last n : Int32} {ns : List Int32}

theorem skipped_eq (last : Int) (zs : List Int) :
    skipped last zs = zs.getLastD last - last - zs.length := by
  induction zs generalizing last with
  | nil => simp [skipped]
  | cons z zs ih =>
      rw [skipped, ih, List.getLastD_cons, List.length_cons]
      omega

/-- An increasing sequence leaves out what it is too short for. -/
theorem card_filter_not_mem {ks : List Nat} (h : ks.Pairwise (· < ·)) (hpos : ∀ k ∈ ks, 0 < k) :
    ((Finset.range (ks.getLastD 0)).filter fun n => 0 < n ∧ n ∉ ks).card + ks.length =
      ks.getLastD 0 := by
  rcases List.eq_nil_or_concat' ks with rfl | ⟨pre, top, rfl⟩
  · simp
  · have hnodup : (pre ++ [top]).Nodup := h.imp fun hlt => Nat.ne_of_lt hlt
    have htop : ∀ k ∈ pre ++ [top], k ≤ top := by
      intro k hk
      rcases List.mem_append.mp hk with hk | hk
      · exact ((List.pairwise_append.mp h).2.2 k hk top (List.mem_singleton_self _)).le
      · exact (List.mem_singleton.mp hk).le
    have hsub : (pre ++ [top]).toFinset ⊆ (Finset.range (top + 1)).erase 0 := by
      intro k hk
      rw [List.mem_toFinset] at hk
      rw [Finset.mem_erase, Finset.mem_range]
      exact ⟨(hpos k hk).ne', Nat.lt_succ_of_le (htop k hk)⟩
    have hset : ((Finset.range top).filter fun n => 0 < n ∧ n ∉ pre ++ [top]) =
        (Finset.range (top + 1)).erase 0 \ (pre ++ [top]).toFinset := by
      ext n
      rw [Finset.mem_filter, Finset.mem_range, Finset.mem_sdiff, Finset.mem_erase,
        Finset.mem_range, List.mem_toFinset, Nat.pos_iff_ne_zero]
      refine ⟨fun ⟨hlt, hn, hmem⟩ => ⟨⟨hn, Nat.lt_succ_of_lt hlt⟩, hmem⟩,
        fun ⟨⟨hn, hlt⟩, hmem⟩ => ⟨?_, hn, hmem⟩⟩
      have hne : n ≠ top := fun heq => hmem (heq ▸ List.mem_concat_self)
      omega
    have hcard := Finset.card_sdiff_add_card_eq_card hsub
    rw [List.toFinset_card_of_nodup hnodup, Finset.card_erase_of_mem (by simp),
      Finset.card_range] at hcard
    rw [List.getLastD_concat, hset]
    exact hcard

theorem toNatClampNeg_cast (hn : 0 ≤ n.toInt) : (n.toNatClampNeg : Int) = n.toInt :=
  Int.toNat_of_nonneg hn

/-- What is not in an increasing sequence has been skipped. -/
theorem card_missing (h : Increasing ns) :
    (missing ns : Int) = skipped 0 (ns.map Int32.toInt) := by
  have hcast : ∀ n ∈ ns, (n.toNatClampNeg : Int) = n.toInt := fun n hn =>
    toNatClampNeg_cast (h.2 n hn).le
  have hincreasing : (ns.map Int32.toNatClampNeg).Pairwise (· < ·) := by
    refine List.pairwise_map.mpr (h.1.imp_of_mem fun hn hn' hlt => ?_)
    have hlast := hcast _ hn
    have hnext := hcast _ hn'
    omega
  have hpositive : ∀ k ∈ ns.map Int32.toNatClampNeg, 0 < k := by
    intro k hk
    obtain ⟨n, hn, rfl⟩ := List.mem_map.mp hk
    have hpos := h.2 n hn
    have hn' := hcast n hn
    omega
  have hcard := card_filter_not_mem hincreasing hpositive
  have hlast : ((ns.map Int32.toNatClampNeg).getLastD 0 : Int) =
      (ns.map Int32.toInt).getLastD 0 := by
    rcases List.eq_nil_or_concat' ns with rfl | ⟨pre, n, rfl⟩
    · rfl
    · rw [List.map_append, List.map_append, List.map_singleton, List.map_singleton,
        List.getLastD_concat, List.getLastD_concat]
      exact hcast n List.mem_concat_self
  rw [skipped_eq, ← hlast, List.length_map, missing]
  rw [List.length_map] at hcard
  omega

/-! ### Comparing -/

/-- No overflow between numbers that are not negative. -/
theorem toInt_sub (hlast : 0 ≤ last.toInt) (hn : 0 ≤ n.toInt) :
    (n - last).toInt = n.toInt - last.toInt := by
  have hlast' := last.toInt_lt
  have hn' := n.toInt_lt
  rw [Int32.toInt_sub]
  exact Int.bmod_eq_of_le (by omega) (by omega)

theorem toInt_distance (hlast : 0 ≤ last.toInt) (hn : 0 ≤ n.toInt) :
    (n - last - 1).toInt = n.toInt - last.toInt - 1 := by
  have hlast' := last.toInt_lt
  have hn' := n.toInt_lt
  have hone : Int32.toInt 1 = 1 := rfl
  rw [Int32.toInt_sub, toInt_sub hlast hn, hone]
  exact Int.bmod_eq_of_le (by omega) (by omega)

/-- The number is ahead if it does not fall back behind the one before. -/
theorem ahead_iff_distance : Ahead last n ↔ 0 ≤ (n - last - 1).toInt := by
  have hone : Int32.toInt 1 = 1 := rfl
  rw [Ahead, Int32.toInt_sub, Int32.toInt_sub, hone, Int.bmod_sub_bmod, Int.bmod_def]
  split <;> omega

theorem ahead_iff (hlast : 0 ≤ last.toInt) (hn : 0 ≤ n.toInt) :
    Ahead last n ↔ last.toInt < n.toInt := by
  rw [ahead_iff_distance, toInt_distance hlast hn]
  omega

theorem sub_eq_one_iff (hlast : 0 ≤ last.toInt) (hn : 0 ≤ n.toInt) :
    n - last = 1 ↔ n.toInt - last.toInt - 1 = 0 := by
  have hone : Int32.toInt 1 = 1 := rfl
  rw [← Int32.toInt_inj, toInt_sub hlast hn, hone]
  omega

/-- The numbers of an increasing sequence are ahead of each other. -/
theorem Increasing.isChain (h : Increasing ns) : ((0 : Int32) :: ns).IsChain Ahead := by
  have hzero : Int32.toInt 0 = 0 := rfl
  have hpositive : ∀ n ∈ (0 : Int32) :: ns, 0 ≤ n.toInt := by
    intro n hn
    rcases List.mem_cons.mp hn with rfl | hn
    · exact hzero.ge
    · exact (h.2 n hn).le
  have hchain : ((0 : Int32) :: ns).Pairwise fun n n' => n.toInt < n'.toInt :=
    List.pairwise_cons.mpr ⟨fun n hn => h.2 n hn, h.1⟩
  refine (hchain.imp_of_mem fun hlast hn hlt => ?_).isChain
  exact (ahead_iff (hpositive _ hlast) (hpositive _ hn)).mpr hlt

theorem compare_nonneg_iff (ht : 0 ≤ t.lost) : 0 ≤ (t.compare n).lost ↔ Ahead t.last n := by
  rw [ahead_iff_distance, compare]
  by_cases hone : n - t.last = 1
  · simp [hone, ht]
  · simp [hone]

/-- The count that an increasing sequence leaves: only the last of its gaps. -/
theorem foldl_compare (hlast : 0 ≤ t.last.toInt)
    (h : (t.last :: ns).Pairwise fun n n' => n.toInt < n'.toInt) :
    (gaps t.last ns = 0 → (ns.foldl compare t).lost = t.lost ∧
      skipped t.last.toInt (ns.map Int32.toInt) = 0) ∧
    (gaps t.last ns = 1 →
      (ns.foldl compare t).lost = skipped t.last.toInt (ns.map Int32.toInt)) ∧
    (2 ≤ gaps t.last ns →
      (ns.foldl compare t).lost < skipped t.last.toInt (ns.map Int32.toInt)) := by
  induction ns generalizing t with
  | nil => simp [gaps, skipped]
  | cons n ns ih =>
      obtain ⟨hn, htail⟩ := List.pairwise_cons.mp h
      have hlt := hn n List.mem_cons_self
      have hn₀ : 0 ≤ n.toInt := by omega
      obtain ⟨hnone, hone, hmore⟩ := ih (t := t.compare n) hn₀ htail
      rw [gaps, List.foldl_cons, List.map_cons, skipped]
      by_cases hnext : n - t.last = 1
      · -- A neighbour: nothing is skipped, and the count stays.
        have hskip := (sub_eq_one_iff hlast hn₀).mp hnext
        have hlost : (t.compare n).lost = t.lost := if_neg (not_not.mpr hnext)
        rw [if_pos hnext, hskip, Nat.zero_add, zero_add, ← hlost]
        exact ⟨hnone, hone, hmore⟩
      · -- A gap, whose size replaces the count.
        have hskip : n.toInt - t.last.toInt - 1 ≠ 0 := fun h =>
          hnext ((sub_eq_one_iff hlast hn₀).mpr h)
        have hlost : (t.compare n).lost = ((n.toInt - t.last.toInt - 1 : Int) : ℚ) := by
          rw [← toInt_distance hlast hn₀]
          exact if_pos hnext
        have hpos : (0 : ℚ) < (n.toInt - t.last.toInt - 1 : Int) := by
          rw [Int.cast_pos]
          omega
        rw [if_neg hnext, Int.cast_add]
        refine ⟨fun h => by omega, fun h => ?_, fun h => ?_⟩
        · obtain ⟨hsame, hrest⟩ := hnone (by show gaps n ns = 0; omega)
          have hrest' : skipped n.toInt (ns.map Int32.toInt) = 0 := hrest
          rw [hsame, hlost, hrest', Int.cast_zero, add_zero]
        · by_cases htwo : 2 ≤ gaps n ns
          · exact (hmore htwo).trans (lt_add_of_pos_left _ hpos)
          · have hlast := hone (by show gaps n ns = 1; omega)
            rw [hlast]
            exact lt_add_of_pos_left _ hpos

/-- An increasing sequence leaves the right count exactly if it has one gap at most. -/
theorem lost_eq_missing_iff (h : Increasing ns) :
    (ns.foldl compare ⟨0, 0⟩).lost = missing ns ↔ gaps 0 ns ≤ 1 := by
  have hzero : Int32.toInt 0 = 0 := rfl
  have hchain : ((0 : Int32) :: ns).Pairwise fun n n' => n.toInt < n'.toInt :=
    List.pairwise_cons.mpr ⟨fun n hn => h.2 n hn, h.1⟩
  obtain ⟨hnone, hone, hmore⟩ := foldl_compare (t := ⟨0, 0⟩) (le_of_eq hzero.symm) hchain
  have hmissing : (missing ns : ℚ) = (skipped 0 (ns.map Int32.toInt) : Int) := by
    rw [← card_missing h]
    exact (Int.cast_natCast _).symm
  rw [hmissing]
  constructor
  · intro heq
    by_contra hgaps
    exact absurd heq (ne_of_lt (hmore (by show 2 ≤ gaps 0 ns; omega)))
  · intro hgaps
    rcases Nat.le_one_iff_eq_zero_or_eq_one.mp hgaps with hgaps | hgaps
    · obtain ⟨hlost, hskip⟩ := hnone hgaps
      have hskip' : skipped 0 (ns.map Int32.toInt) = 0 := hskip
      rw [hlost, hskip', Int.cast_zero]
    · exact hone hgaps

end LossCount

namespace Client

/-- The client has counted the losses of its datagrams: those of an increasing sequence
of positive numbers, and never a negative number of them. -/
structure CountsLosses (c : Client) (ds : List Datagram) : Prop where
  total : LossCount.Increasing (ds.filterMap Datagram.number) →
    (run receiveDatagram c ds).lagMeter.packetsLost =
      LossCount.missing (ds.filterMap Datagram.number)
  nonneg : Always receiveDatagram (fun c => 0 ≤ c.lagMeter.packetsLost) c ds

theorem nonneg_iff {c : Client} {ds : List Datagram} (hc : 0 ≤ c.lagMeter.packetsLost) :
    Always receiveDatagram (fun c => 0 ≤ c.lagMeter.packetsLost) c ds ↔
      (c.lastPacketnb :: ds.filterMap Datagram.number).IsChain LossCount.Ahead := by
  induction ds generalizing c with
  | nil => simp [hc]
  | cons d ds ih =>
      have hlast : (c.receiveDatagram d).lastPacketnb = (c.lossCountWith d.number).last :=
        congrArg LossCount.last (c.lossCount_receiveDatagram d)
      have hlost : (c.receiveDatagram d).lagMeter.packetsLost = (c.lossCountWith d.number).lost :=
        congrArg LossCount.lost (c.lossCount_receiveDatagram d)
      rw [always_cons, and_iff_right hc]
      cases hn : d.number with
      | none =>
          rw [hn] at hlast hlost
          rw [List.filterMap_cons_none hn, ih (hlost ▸ hc), hlast]
          rfl
      | some n =>
          rw [hn] at hlast hlost
          have hahead := LossCount.compare_nonneg_iff (t := c.lossCount) (n := n) hc
          rw [List.filterMap_cons_some hn, List.isChain_cons_cons]
          by_cases hstep : LossCount.Ahead c.lastPacketnb n
          · rw [and_iff_right hstep, ih (hlost ▸ hahead.mpr hstep), hlast]
            rfl
          · refine iff_of_false (fun h => hstep (hahead.mp ?_)) fun h => hstep h.1
            exact le_of_le_of_eq h.start hlost

theorem packetsLost_run (packetData : PacketData) (endpoint : Endpoint) (now : ℚ)
    (ds : List Datagram) :
    (run receiveDatagram (new packetData endpoint now) ds).lagMeter.packetsLost =
      ((ds.filterMap Datagram.number).foldl LossCount.compare ⟨0, 0⟩).lost :=
  congrArg LossCount.lost lossCount_run

/-- The losses are counted exactly if each number is ahead of the one before, and an
increasing sequence does not skip numbers in two places. -/
theorem countsLosses_iff (packetData : PacketData) (endpoint : Endpoint) (now : ℚ)
    (ds : List Datagram) :
    CountsLosses (new packetData endpoint now) ds ↔
      (LossCount.Increasing (ds.filterMap Datagram.number) →
        LossCount.gaps 0 (ds.filterMap Datagram.number) ≤ 1) ∧
      ((0 : Int32) :: ds.filterMap Datagram.number).IsChain LossCount.Ahead := by
  have hnonneg : Always receiveDatagram (fun c => 0 ≤ c.lagMeter.packetsLost)
      (new packetData endpoint now) ds ↔
        ((0 : Int32) :: ds.filterMap Datagram.number).IsChain LossCount.Ahead := nonneg_iff le_rfl
  have htotal := packetsLost_run packetData endpoint now ds
  constructor
  · intro h
    refine ⟨fun hinc => ?_, hnonneg.mp h.nonneg⟩
    exact (LossCount.lost_eq_missing_iff hinc).mp (htotal.symm.trans (h.total hinc))
  · rintro ⟨hgaps, hchain⟩
    refine ⟨fun hinc => ?_, hnonneg.mpr hchain⟩
    exact htotal.trans ((LossCount.lost_eq_missing_iff hinc).mpr (hgaps hinc))

theorem countsLosses_iff_of_increasing {packetData : PacketData} {endpoint : Endpoint} {now : ℚ}
    {ds : List Datagram} (h : LossCount.Increasing (ds.filterMap Datagram.number)) :
    CountsLosses (new packetData endpoint now) ds ↔
      LossCount.gaps 0 (ds.filterMap Datagram.number) ≤ 1 := by
  have hnonneg := (nonneg_iff (c := new packetData endpoint now) le_rfl).mpr h.isChain
  have htotal := packetsLost_run packetData endpoint now ds
  rw [← LossCount.lost_eq_missing_iff h, ← htotal]
  exact ⟨fun hcounts => hcounts.total h, fun heq => ⟨fun _ => heq, hnonneg⟩⟩

/-- The packets 2 and 4. -/
def twoAndFour : List Datagram :=
  [⟨0, ⟨1, 4242⟩, [24, 59] ++ str "7;0;0;0;0;2", by decide +kernel⟩,
    ⟨0, ⟨1, 4242⟩, [24, 59] ++ str "7;0;0;0;0;4", by decide +kernel⟩]

/-- Packets 1 and 3 are missing, and the client reports one. -/
theorem not_countsLosses : ¬ CountsLosses
    (new ⟨0, 0, .finite 0, .finite 0, .finite 0, .finite 0⟩ ⟨1, 4242⟩ 0) twoAndFour := by
  intro h
  have hnumbers : twoAndFour.filterMap Datagram.number = [2, 4] := by decide +kernel
  have htwo : Int32.toInt 2 = 2 := rfl
  have hfour : Int32.toInt 4 = 4 := rfl
  have hinc : LossCount.Increasing [2, 4] := by simp [LossCount.Increasing, htwo, hfour]
  have htotal := h.total
  rw [packetsLost_run, hnumbers, LossCount.lost_eq_missing_iff hinc] at htotal
  exact absurd (htotal hinc) (by decide)

end Client

end BeeRType
