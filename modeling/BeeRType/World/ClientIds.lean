-- SUMMARY: The ids of clients over everything the server ever does: as many as were registered at once.
import BeeRType.Base.Recycling
import BeeRType.World.Roster

/-!
# Client ids

The ids of clients that have left are given out again before the counter is raised. So
`_nbClients` is not the number of clients, nor of those that have ever been there, but the
largest number that have been registered at once.
-/

open Cpp Std Transition Recycling

namespace BeeRType

namespace Server

/-- The part of the server that the client table consists of. -/
def table (s : Server) : ExtTreeMap UInt32 ClientRegister × UInt32 × List UInt32 :=
  (s.clients, s.nbClients, s.availableIds)

variable {s s' : Server} {e : Endpoint} {k : UInt32}

theorem TableInv.of_table (hs : TableInv s) (h : s'.table = s.table) : TableInv s' := by
  obtain ⟨hclients, h⟩ := Prod.mk.inj h
  obtain ⟨hnb, havail⟩ := Prod.mk.inj h
  constructor
  · rw [hclients]
    exact hs.id_eq
  · rw [hclients]
    exact hs.endpoint_inj
  · rw [havail]
    exact hs.available_nodup
  · rw [hclients, havail]
    exact hs.available_free
  · rw [hclients, havail, hnb]
    exact hs.ids

/-! ## The ids as a pool -/

/-- The ids of the clients, and those that wait. -/
def pool (s : Server) (hs : TableInv s) : Pool UInt32 where
  used := s.clients.keys.toFinset
  free := s.availableIds.toFinset
  disjoint := by
    refine Finset.disjoint_right.mpr fun k hk hused => ?_
    rw [List.mem_toFinset] at hk hused
    exact hs.available_free k hk (ExtTreeMap.mem_keys.mp hused)

theorem mem_used {hs : TableInv s} : k ∈ (s.pool hs).used ↔ k ∈ s.clients := by
  rw [pool, List.mem_toFinset, ExtTreeMap.mem_keys]

theorem card_used {hs : TableInv s} : (s.pool hs).used.card = s.clients.size := by
  rw [pool, List.toFinset_card_of_nodup ExtTreeMap.nodup_keys, ExtTreeMap.length_keys]

theorem mem_free {hs : TableInv s} : k ∈ (s.pool hs).free ↔ k ∈ s.availableIds := List.mem_toFinset

theorem free_eq_empty {hs : TableInv s} (h : s.availableIds = []) : (s.pool hs).free = ∅ :=
  List.toFinset_eq_empty_iff _ |>.mpr h

/-- The counter counts the ids that have been made. -/
theorem made_pool {hs : TableInv s} : (s.pool hs).made = s.nbClients.toNat := by
  have hids : ((s.pool hs).used ∪ (s.pool hs).free).image UInt32.toNat =
      Finset.range s.nbClients.toNat := by
    ext n
    simp only [Finset.mem_image, Finset.mem_union, Finset.mem_range, mem_used, mem_free, hs.ids,
      UInt32.lt_iff_toNat_lt]
    constructor
    · rintro ⟨k, hk, rfl⟩
      exact hk
    · intro hn
      have hofNat : (UInt32.ofNat n).toNat = n :=
        UInt32.toNat_ofNat_of_lt' (hn.trans s.nbClients.toNat_lt)
      exact ⟨UInt32.ofNat n, by rwa [hofNat], hofNat⟩
  rw [Pool.made, ← Finset.card_union_of_disjoint (s.pool hs).disjoint,
    ← Finset.card_image_of_injective _ fun _ _ => UInt32.toNat_inj.mp, hids, Finset.card_range]

theorem step_createClient (hs : TableInv s) (hs' : TableInv (s.createClient e).2) :
    Pool.Step (s.pool hs) ((s.createClient e).2.pool hs') := by
  cases hfind : s.findClient e with
  | some client =>
      have heq : (s.createClient e).2 = s := by rw [createClient_of_registered hfind]
      exact .idle (by simp only [pool, heq]) (by simp only [pool, heq])
  | none =>
      -- An id that has been given back goes first, and the counter only where there is none.
      have heq := congrArg Prod.snd (createClient_of_new hfind)
      have hused : ((s.createClient e).2.pool hs').used = insert s.takeId.1 (s.pool hs).used := by
        ext k
        rw [Finset.mem_insert, mem_used, mem_used, heq, ExtTreeMap.mem_insertIfNew,
          Std.compare_eq_iff_eq, eq_comm]
      cases havail : s.availableIds with
      | cons nb rest =>
          have hnodup := hs.available_nodup
          rw [havail, List.nodup_cons] at hnodup
          have hnb : s.takeId.1 = nb := by rw [takeId, havail]
          rw [hnb] at hused
          refine .reuse nb (by rw [mem_free, havail]; exact List.mem_cons_self) hused ?_
          ext k
          have hrest : (s.createClient e).2.availableIds = rest := by rw [heq, takeId, havail]
          rw [Finset.mem_erase, mem_free, mem_free, hrest, havail, List.mem_cons]
          constructor
          · intro hk
            exact ⟨fun h => hnodup.1 (h ▸ hk), .inr hk⟩
          · rintro ⟨hne, hk⟩
            exact hk.resolve_left hne
      | nil =>
          have hfree : s.takeId.1 = s.nbClients := by rw [takeId, havail]
          rw [hfree] at hused
          have hrest : (s.createClient e).2.availableIds = [] := by rw [heq, takeId, havail]
          refine .make s.nbClients (free_eq_empty havail) (fun hk => ?_) hused (free_eq_empty hrest)
          exact absurd ((hs.ids _).mp (.inl (mem_used.mp hk))) (by simp)

theorem step_disconnectData (hs : TableInv s) (hs' : TableInv (s.disconnectData e).2) :
    Pool.Step (s.pool hs) ((s.disconnectData e).2.pool hs') := by
  cases hfind : s.findClient e with
  | none =>
      have heq : (s.disconnectData e).2.table = s.table := by
        rw [disconnectData_of_unknown hfind]
        rfl
      obtain ⟨hclients, hrest⟩ := Prod.mk.inj heq
      exact .idle (by simp only [pool, hclients]) (by simp only [pool, (Prod.mk.inj hrest).2])
  | some client =>
      obtain ⟨k, c⟩ := client
      have heq := hs.disconnectData_of_registered hfind
      have hk : k ∈ s.clients := by
        rw [ExtTreeMap.mem_iff_isSome_getElem?, (findClient_some hfind).1]
        rfl
      refine .release k (mem_used.mpr hk) ?_ ?_
      · ext k'
        rw [Finset.mem_erase, mem_used, mem_used, heq, ExtTreeMap.mem_erase, 
          Std.compare_ne_eq_iff_ne, ne_comm]
      · ext k'
        rw [Finset.mem_insert, mem_free, mem_free, heq, List.mem_append, List.mem_singleton, or_comm]

theorem pool_of_table (hs : TableInv s) (h : s'.table = s.table) (hs' : TableInv s') :
    s'.pool hs' = s.pool hs := by
  obtain ⟨hclients, hrest⟩ := Prod.mk.inj h
  simp only [pool, hclients, (Prod.mk.inj hrest).2]

theorem step_apply (hs : TableInv s) (op : TableOp) (hs' : TableInv (op.apply s)) :
    Pool.Step (s.pool hs) ((op.apply s).pool hs') := by
  cases op with
  | createClient e => exact step_createClient hs hs'
  | disconnectData e => exact step_disconnectData hs hs'

/-- A counter that is raised counts as many ids as there are clients then. -/
theorem nbClients_lt_of_issuesId (hs : TableInv s)
    (hissues : (TableOp.createClient e).issuesId s = true)
    (hfew : (s.createClient e).2.clients.size < 2 ^ 32) : s.nbClients.toNat + 1 < 2 ^ 32 := by
  rw [TableOp.issuesId, Bool.and_eq_true, Option.isNone_iff_eq_none, List.isEmpty_iff] at hissues
  obtain ⟨hfind, havail⟩ := hissues
  have hmade : (s.pool hs).made = s.nbClients.toNat := made_pool
  rw [Pool.made, free_eq_empty havail, card_used, Finset.card_empty, Nat.add_zero] at hmade
  have hfresh : s.nbClients ∉ s.clients := fun hk => absurd ((hs.ids _).mp (.inl hk)) (by simp)
  have hnext : s.takeId.1 = s.nbClients := by rw [takeId, havail]
  rw [createClient_of_new hfind, hnext, ExtTreeMap.size_insertIfNew, if_neg hfresh] at hfew
  omega

end Server

namespace World

variable {w : World} {e : Event} {es : List Event}

open Server (table pool TableInv TableOp)

theorem table_handleReceive {s : Server} {error : ReceiveError} {source : Endpoint} {data : Bytes} :
    (s.handleReceive error source data).table = s.table := by
  cases error <;> rfl

theorem table_setGame {game : Game} : (w.setGame game).server.table = w.server.table :=
  setGame_frame (f := table) fun _ _ _ => rfl

theorem table_handleSendTimer {s : Server} : s.handleSendTimer.table = s.table :=
  Server.handleSendTimer_frame (fun _ _ _ => rfl) fun _ _ => rfl

theorem table_reqConnectData {s : Server} {endpoint : Endpoint} :
    (s.reqConnectData endpoint).2.table = (s.createClient endpoint).2.table := by
  unfold Server.reqConnectData
  dsimp only
  split <;> rfl

/-- A step of the program is an operation on the client table, or leaves it alone. -/
theorem table_step (w : World) (e : Event) : (w.step e).server.table = w.server.table ∨
    ∃ (s : Server) (op : TableOp), s.table = w.server.table ∧
      (w.step e).server.table = (op.apply s).table := by
  cases step_stepped w e with
  | idle heq => exact .inl (by rw [heq])
  | received error source data heq => exact .inl (by rw [heq]; exact table_handleReceive)
  | sent heq => exact .inl (by rw [heq]; exact table_handleSendTimer)
  | ran i now draws t game pc _ _ _ _ heq => exact .inl (by rw [heq]; exact table_setGame)
  | crashed i now draws t exception _ _ _ _ heq => exact .inl (by rw [heq])
  | handled packet rest _ _ _ heq =>
      have hqueue : (w.setPacketQueue rest).server.table = w.server.table := rfl
      rw [heq]
      cases handlePacket_handled (w.setPacketQueue rest) packet with
      | ignored h => exact .inl (by rw [h, hqueue])
      | connected _ h =>
          refine .inr ⟨_, .createClient w.server.remoteEndpoint, hqueue, ?_⟩
          rw [h]
          exact table_reqConnectData
      | disconnected _ h =>
          exact .inr ⟨_, .disconnectData w.server.remoteEndpoint, hqueue, by rw [h]; rfl⟩
      | started _ _ h => exact .inl (by rw [h]; rfl)
      | ended _ _ h => exact .inl (by rw [h]; rfl)
      | moved _ _ _ h => exact .inl (by rw [h]; rfl)
      | shot _ _ h => exact .inl (by rw [h]; exact callGame_frame (f := table) fun _ _ _ => rfl)
      | pinged h => exact .inl (by rw [h]; rfl)

/-- A step of the program is one of the pool of ids, as long as the counter can count
the clients. -/
theorem step_pool (hs : TableInv w.server) (hfew : (w.step e).server.clients.size < 2 ^ 32) :
    ∃ hs' : TableInv (w.step e).server,
      Pool.Step (w.server.pool hs) ((w.step e).server.pool hs') := by
  obtain heq | ⟨s, op, hsame, heq⟩ := table_step w e
  · refine ⟨hs.of_table heq, ?_⟩
    rw [Server.pool_of_table hs heq]
    exact .idle rfl rfl
  · have htable : TableInv s := hs.of_table hsame
    have hclients : (w.step e).server.clients = (op.apply s).clients := (Prod.mk.inj heq).1
    have hissues : op.issuesId s = true → s.nbClients.toNat + 1 < 2 ^ 32 := by
      intro hissues
      cases op with
      | createClient endpoint =>
          rw [hclients] at hfew
          exact Server.nbClients_lt_of_issuesId htable hissues hfew
      | disconnectData endpoint => cases hissues
    have happlied := htable.apply op hissues
    refine ⟨happlied.of_table heq, ?_⟩
    rw [Server.pool_of_table happlied heq, ← Server.pool_of_table hs hsame htable]
    exact Server.step_apply htable op happlied

/-- The clients that are registered. -/
def registeredClients (w : World) : Nat := w.server.clients.size

variable (hfew : peak step registeredClients new es < 2 ^ 32)

include hfew

theorem eachStep_few :
    EachStep step (fun w e => (w.step e).registeredClients < 2 ^ 32) new es :=
  (eachStep_le_peak new es).mono fun _ _ h => h.trans_lt hfew

theorem always_tableInv : Always step (fun w => TableInv w.server) new es :=
  always_of_eachStep Server.tableInv_new (fun _ _ hs hfew => (step_pool hs hfew).1)
    (eachStep_few hfew)

theorem counter_run :
    (run step new es).server.nbClients.toNat = peak step registeredClients new es := by
  have hmade : EachStep step (fun w e => (w.step e).server.nbClients.toNat =
      max w.server.nbClients.toNat (w.step e).registeredClients) new es := by
    refine eachStep_iff.mpr fun pre e post heq => ?_
    obtain ⟨hs', hstep⟩ := step_pool (always_iff.mp (always_tableInv hfew) pre (e :: post) heq)
      (eachStep_iff.mp (eachStep_few hfew) pre e post heq)
    have hmade := hstep.made_eq
    rwa [Server.made_pool, Server.made_pool, Server.card_used] at hmade
  have hzero : new.server.nbClients.toNat = 0 := rfl
  have hrun := made_run (fun w : World => w.server.nbClients.toNat) (Nat.le_of_eq rfl) hmade
  rwa [hzero, Nat.zero_max] at hrun

theorem id_lt_peak {k : UInt32} (hk : k ∈ (run step new es).server.clients) :
    k.toNat < peak step registeredClients new es := by
  rw [← counter_run hfew]
  exact UInt32.lt_iff_toNat_lt.mp (((always_tableInv hfew).final.ids k).mp (.inl hk))

omit hfew

/-- Whatever the clients do, the counter of the ids is the largest number of clients that
have been registered at once, and the id of every client is below it. -/
theorem nbClients_eq_peak (es : List Event) (hfew : peak step registeredClients new es < 2 ^ 32) :
    (run step new es).server.nbClients.toNat = peak step registeredClients new es ∧
      ∀ k ∈ (run step new es).server.clients, k.toNat < peak step registeredClients new es :=
  ⟨counter_run hfew, fun _ hk => id_lt_peak hfew hk⟩

/-- Two clients register, the first leaves, and a third one takes its id. -/
def replaced : List Event :=
  [.receive .success ⟨1, 4000⟩ [1], .process, .receive .success ⟨1, 4001⟩ [1], .process,
    .receive .success ⟨1, 4000⟩ [2], .process, .receive .success ⟨1, 4002⟩ [1], .process]

theorem nbClients_eq_peak_replaced : (run step new replaced).server.nbClients.toNat = 2 := by
  have hpeak : peak step registeredClients new replaced = 2 := by decide +kernel
  have hcounter := (nbClients_eq_peak replaced (by rw [hpeak]; decide)).1
  rwa [hpeak] at hcounter

/-- A game that is started with as many clients as have ever been registered at once spawns
exactly their players. -/
theorem spawned_iff_of_peak (es : List Event) (hfew : peak step registeredClients new es < 2 ^ 31)
    (hpeak : (run step new es).registeredClients = peak step registeredClients new es) (id : Int) :
    Spawned (run step new es).numPlayers id ↔ (run step new es).ClientId id := by
  have hplayers : (run step new es).numPlayers = peak step registeredClients new es := by
    rw [numPlayers, ← registeredClients, hpeak]
    exact Int32.toInt_ofNat_of_lt hfew
  refine clientId_iff_of_fit fun k hk => ?_
  rw [hplayers]
  exact_mod_cast id_lt_peak (hfew.trans (by norm_num)) hk

theorem spawned_iff_of_peak_replaced : Spawned (run step new replaced).numPlayers 0 ↔
    (run step new replaced).ClientId 0 :=
  spawned_iff_of_peak replaced (by decide +kernel) (by decide +kernel) 0

end World

end BeeRType
