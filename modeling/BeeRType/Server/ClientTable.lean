-- SUMMARY: The client table: the invariant tying the registered clients, the free ids and the id counter together.
import BeeRType.Base.Transition
import BeeRType.Server.Server

/-!
# Client table

`createClient` and `disconnectData` keep three fields in step: the map of
registered clients, the queue of free ids and the counter of ids. The purpose of
the three is one partial injective map from endpoints to ids. `TableInv` says
what the fields have to satisfy for that.
-/

open Cpp Std Transition

namespace BeeRType

namespace Server

variable {s : Server} {e : Endpoint} {k : UInt32} {c : ClientRegister}

/-- The endpoint has an entry in the client table. -/
def Registered (s : Server) (e : Endpoint) : Prop :=
  ∃ (k : UInt32) (c : ClientRegister), s.clients[k]? = some c ∧ c.endpoint = e

structure TableInv (s : Server) : Prop where
  id_eq : ∀ (k : UInt32) (c : ClientRegister), s.clients[k]? = some c → c.id = k.toUInt64
  endpoint_inj : ∀ (k k' : UInt32) (c c' : ClientRegister), s.clients[k]? = some c →
    s.clients[k']? = some c' → c.endpoint = c'.endpoint → k = k'
  available_nodup : s.availableIds.Nodup
  available_free : ∀ k ∈ s.availableIds, k ∉ s.clients
  ids : ∀ k, k ∈ s.clients ∨ k ∈ s.availableIds ↔ k < s.nbClients

theorem tableInv_new : TableInv new where
  id_eq := by simp [new]
  endpoint_inj := by simp [new]
  available_nodup := List.nodup_nil
  available_free := by simp [new]
  ids := by simp [new]

/-! ## Looking a client up -/

theorem findClient_some (h : s.findClient e = some (k, c)) :
    s.clients[k]? = some c ∧ c.endpoint = e := by
  have hmem := List.mem_of_find?_eq_some h
  have hend := List.find?_some h
  exact ⟨ExtTreeMap.mem_toList_iff_getElem?_eq_some.mp hmem, by simpa using hend⟩

theorem findClient_none : s.findClient e = none ↔ ¬ s.Registered e := by
  simp only [findClient, List.find?_eq_none, Registered, decide_eq_true_eq, Prod.forall,
    ExtTreeMap.mem_toList_iff_getElem?_eq_some, not_exists, not_and]

theorem findClient_of_registered (h : s.Registered e) :
    ∃ k c, s.findClient e = some (k, c) := by
  cases hfind : s.findClient e with
  | none => exact absurd h (findClient_none.mp hfind)
  | some client => exact ⟨client.1, client.2, rfl⟩

theorem TableInv.findClient_eq (hs : TableInv s) (h : s.clients[k]? = some c) :
    s.findClient c.endpoint = some (k, c) := by
  obtain ⟨k', c', hfind⟩ := findClient_of_registered ⟨k, c, h, rfl⟩
  obtain ⟨hk', hend⟩ := findClient_some hfind
  obtain rfl := hs.endpoint_inj k' k c' c hk' h hend
  rw [h] at hk'
  obtain rfl := Option.some.inj hk'
  exact hfind

/-! ## Operations -/

/-- An operation on the client table. -/
inductive TableOp where
  | createClient (e : Endpoint)
  | disconnectData (e : Endpoint)

def TableOp.apply (s : Server) : TableOp → Server
  | createClient e => (s.createClient e).2
  | disconnectData e => (s.disconnectData e).2

/-- The operation takes a fresh id off the counter. -/
def TableOp.issuesId (s : Server) : TableOp → Bool
  | createClient e => (s.findClient e).isNone && s.availableIds.isEmpty
  | disconnectData _ => false

/-- How many ids a history of operations issues. -/
def issuedIds : Server → List TableOp → Nat
  | _, [] => 0
  | s, op :: ops => (if op.issuesId s then 1 else 0) + issuedIds (op.apply s) ops

/-! ## Registering a client -/

/-- Registering a client under an id that nobody holds. -/
theorem TableInv.insert {nb : UInt32} {availableIds : List UInt32} {nbClients : UInt32}
    (hs : TableInv s) (hnew : ¬ s.Registered e) (hnb : nb ∉ s.clients)
    (hfree : availableIds.Nodup) (havail : ∀ k ∈ availableIds, k ∉ s.clients ∧ k ≠ nb)
    (hids : ∀ k, k = nb ∨ k ∈ s.clients ∨ k ∈ availableIds ↔ k < nbClients) :
    TableInv { s with
      availableIds, nbClients
      clients := s.clients.insertIfNew nb ⟨nb.toUInt64, e⟩ } := by
  have hget : ∀ k, (s.clients.insertIfNew nb ⟨nb.toUInt64, e⟩)[k]?
      = if k = nb then some ⟨nb.toUInt64, e⟩ else s.clients[k]? := by
    intro k
    rw [ExtTreeMap.getElem?_insertIfNew]
    by_cases hk : k = nb
    · subst hk; simp [hnb]
    · simp [hk, Ne.symm hk]
  constructor
  · intro k c h
    rw [hget] at h
    split at h
    · rename_i hk; subst hk; cases h; rfl
    · exact hs.id_eq k c h
  · intro k k' c c' h h' hend
    rw [hget] at h h'
    split at h <;> split at h'
    · simp_all
    · cases h; exact absurd ⟨k', c', h', hend.symm⟩ hnew
    · cases h'; exact absurd ⟨k, c, h, hend⟩ hnew
    · exact hs.endpoint_inj k k' c c' h h' hend
  · exact hfree
  · intro k hk
    obtain ⟨hclient, hne⟩ := havail k hk
    simp [ExtTreeMap.mem_insertIfNew, hclient, Ne.symm hne]
  · intro k
    simp only [ExtTreeMap.mem_insertIfNew, Std.compare_eq_iff_eq, or_assoc, @eq_comm _ nb]
    exact hids k

theorem lt_succ_iff {n k : UInt32} (hn : n.toNat + 1 < 2 ^ 32) : k < n + 1 ↔ k = n ∨ k < n := by
  simp only [UInt32.lt_iff_toNat_lt, ← UInt32.toNat_inj, UInt32.toNat_add]
  have hone : UInt32.toNat 1 = 1 := rfl
  omega

/-- What `createClient` does for an endpoint that is not registered: it takes an
id that no client holds and that was free or fresh. -/
theorem TableInv.takeId (hs : TableInv s)
    (hbound : s.availableIds = [] → s.nbClients.toNat + 1 < 2 ^ 32) :
    s.takeId.1 ∉ s.clients ∧ s.takeId.2.availableIds.Nodup ∧
      (∀ k ∈ s.takeId.2.availableIds, k ∉ s.clients ∧ k ≠ s.takeId.1) ∧
      ∀ k, k = s.takeId.1 ∨ k ∈ s.clients ∨ k ∈ s.takeId.2.availableIds ↔
        k < s.takeId.2.nbClients := by
  cases havail : s.availableIds with
  | cons nb rest =>
      have hnodup := hs.available_nodup
      rw [havail, List.nodup_cons] at hnodup
      have hfree := hs.available_free
      rw [havail] at hfree
      simp only [Server.takeId, havail]
      refine ⟨hfree nb List.mem_cons_self, hnodup.2, fun k hk => ⟨?_, ?_⟩, fun k => ?_⟩
      · exact hfree k (List.mem_cons_of_mem _ hk)
      · rintro rfl; exact hnodup.1 hk
      · rw [← hs.ids k, havail, List.mem_cons]
        exact or_left_comm
  | nil =>
      have hids := hs.ids
      simp only [havail, List.not_mem_nil, or_false] at hids
      simp only [Server.takeId, havail]
      refine ⟨fun h => ?_, List.nodup_nil, fun k hk => absurd hk List.not_mem_nil, fun k => ?_⟩
      · exact absurd ((hids _).mp h) (by simp)
      · rw [lt_succ_iff (hbound havail), ← hids k]
        simp

/-- The id that a new client is given next. -/
def nextId (s : Server) : UInt32 := s.availableIds.headD s.nbClients

theorem takeId_fst : s.takeId.1 = s.nextId := by
  unfold takeId nextId
  cases s.availableIds <;> rfl

/-- Taking an id touches the free ids and the counter only. -/
theorem takeId_snd : s.takeId.2 =
    { s with availableIds := s.takeId.2.availableIds, nbClients := s.takeId.2.nbClients } := by
  unfold takeId
  split <;> rfl

theorem createClient_of_registered {client : UInt32 × ClientRegister}
    (h : s.findClient e = some client) : s.createClient e = (client.1, s) := by
  simp [createClient, h]

theorem createClient_of_new (h : s.findClient e = none) :
    s.createClient e = (s.takeId.1, { s with
      availableIds := s.takeId.2.availableIds
      nbClients := s.takeId.2.nbClients
      clients := s.clients.insertIfNew s.takeId.1 ⟨s.takeId.1.toUInt64, e⟩ }) := by
  simp only [createClient, h]
  rw [takeId_snd]

theorem TableInv.createClient (hs : TableInv s)
    (hbound : (TableOp.createClient e).issuesId s = true → s.nbClients.toNat + 1 < 2 ^ 32) :
    TableInv (s.createClient e).2 := by
  cases hfind : s.findClient e with
  | some client => rw [createClient_of_registered hfind]; exact hs
  | none =>
      obtain ⟨hnb, hnodup, havail, hids⟩ := hs.takeId
        fun hnil => hbound (by simp [TableOp.issuesId, hfind, hnil])
      rw [createClient_of_new hfind]
      exact hs.insert (findClient_none.mp hfind) hnb hnodup havail hids

/-! ## Removing a client -/

theorem disconnectData_of_unknown (h : s.findClient e = none) :
    s.disconnectData e = (⟨-1⟩, s.sendPacket .none [] e) := by
  simp [disconnectData, h]

theorem TableInv.disconnectData_of_registered (hs : TableInv s)
    (h : s.findClient e = some (k, c)) :
    (s.disconnectData e).2 =
      { s with availableIds := s.availableIds ++ [k], clients := s.clients.erase k } := by
  have hid := hs.id_eq k c (findClient_some h).1
  simp [disconnectData, h, hid]

theorem getElem?_of_erase {k' : UInt32} {c' : ClientRegister}
    (h : (s.clients.erase k)[k']? = some c') : s.clients[k']? = some c' := by
  rw [ExtTreeMap.getElem?_erase] at h
  split at h
  · cases h
  · exact h

theorem TableInv.erase (hs : TableInv s) (hk : s.clients[k]? = some c) :
    TableInv { s with availableIds := s.availableIds ++ [k], clients := s.clients.erase k } := by
  have hmem : k ∈ s.clients := by
    rw [ExtTreeMap.mem_iff_isSome_getElem?, hk]; rfl
  constructor
  · exact fun k' c' h => hs.id_eq k' c' (getElem?_of_erase h)
  · intro k₁ k₂ c₁ c₂ h₁ h₂
    exact hs.endpoint_inj k₁ k₂ c₁ c₂ (getElem?_of_erase h₁) (getElem?_of_erase h₂)
  · refine List.nodup_append.mpr ⟨hs.available_nodup, List.nodup_singleton k, ?_⟩
    intro a ha b hb
    obtain rfl := List.mem_singleton.mp hb
    rintro rfl
    exact hs.available_free a ha hmem
  · intro k' hk' hcontra
    rw [ExtTreeMap.mem_erase] at hcontra
    rcases List.mem_append.mp hk' with hk' | hk'
    · exact hs.available_free k' hk' hcontra.2
    · obtain rfl := List.mem_singleton.mp hk'
      simp at hcontra
  · intro k'
    rw [← hs.ids k', ExtTreeMap.mem_erase, List.mem_append, List.mem_singleton]
    by_cases hkk : k' = k
    · subst hkk; simp [hmem]
    · simp [hkk, Ne.symm hkk]

theorem TableInv.disconnectData (hs : TableInv s) : TableInv (s.disconnectData e).2 := by
  cases hfind : s.findClient e with
  | none =>
      rw [disconnectData_of_unknown hfind]
      exact ⟨hs.id_eq, hs.endpoint_inj, hs.available_nodup, hs.available_free, hs.ids⟩
  | some client =>
      obtain ⟨k, c⟩ := client
      rw [hs.disconnectData_of_registered hfind]
      exact hs.erase (findClient_some hfind).1

/-! ## Histories -/

theorem reqConnectData_clients :
    (s.reqConnectData e).2.clients = (s.createClient e).2.clients := by
  unfold reqConnectData
  dsimp only
  split <;> rfl

/-- Registering an endpoint: the ids in use afterwards. -/
theorem mem_clients_reqConnectData :
    k ∈ (s.reqConnectData e).2.clients ↔
      k ∈ s.clients ∨ s.findClient e = none ∧ k = s.nextId := by
  have hcreate : k ∈ (s.createClient e).2.clients ↔
      k ∈ s.clients ∨ s.findClient e = none ∧ k = s.nextId := by
    cases hfind : s.findClient e with
    | some client => simp [createClient_of_registered hfind]
    | none =>
        rw [createClient_of_new hfind]
        simp only [ExtTreeMap.mem_insertIfNew, Std.compare_eq_iff_eq, true_and, takeId_fst]
        rw [or_comm, eq_comm]
  rw [reqConnectData_clients, hcreate]

theorem reqConnectData_gameRunning :
    (s.reqConnectData e).2.gameRunning = s.gameRunning := by
  have hcreate : (s.createClient e).2.gameRunning = s.gameRunning := by
    cases hfind : s.findClient e with
    | some client => rw [createClient_of_registered hfind]
    | none => rw [createClient_of_new hfind]
  unfold reqConnectData
  dsimp only
  split <;> exact hcreate

theorem disconnectData_gameRunning : (s.disconnectData e).2.gameRunning = s.gameRunning := by
  unfold Server.disconnectData
  split <;> rfl

theorem mem_clients_of_disconnectData (hk : k ∈ (s.disconnectData e).2.clients) : k ∈ s.clients := by
  unfold Server.disconnectData at hk
  split at hk
  · exact ExtTreeMap.mem_of_mem_erase hk
  · exact hk

theorem TableInv.apply (hs : TableInv s) (op : TableOp)
    (hbound : op.issuesId s = true → s.nbClients.toNat + 1 < 2 ^ 32) : TableInv (op.apply s) := by
  cases op with
  | createClient e => exact hs.createClient hbound
  | disconnectData e => exact hs.disconnectData

/-- The counter counts the ids issued. -/
theorem nbClients_apply (op : TableOp)
    (hbound : op.issuesId s = true → s.nbClients.toNat + 1 < 2 ^ 32) :
    (op.apply s).nbClients.toNat = s.nbClients.toNat + if op.issuesId s then 1 else 0 := by
  cases op with
  | disconnectData e =>
      simp only [TableOp.apply, TableOp.issuesId, disconnectData]
      cases s.findClient e <;> rfl
  | createClient e =>
      cases hfind : s.findClient e with
      | some client => simp [TableOp.apply, TableOp.issuesId, createClient, hfind]
      | none =>
          cases havail : s.availableIds with
          | cons nb rest =>
              simp [TableOp.apply, TableOp.issuesId, createClient, takeId, hfind, havail]
          | nil =>
              have hlt := hbound (by simp [TableOp.issuesId, hfind, havail])
              have hone : UInt32.toNat 1 = 1 := rfl
              simp only [TableOp.apply, TableOp.issuesId, createClient, takeId, hfind, havail,
                UInt32.toNat_add, Option.isNone_none, List.isEmpty_nil, Bool.and_self, if_true]
              omega

theorem TableInv.run (hs : TableInv s) (ops : List TableOp)
    (hids : s.nbClients.toNat + issuedIds s ops < 2 ^ 32) :
    TableInv (run TableOp.apply s ops) ∧
      (run TableOp.apply s ops).nbClients.toNat = s.nbClients.toNat + issuedIds s ops := by
  induction ops generalizing s with
  | nil => exact ⟨hs, rfl⟩
  | cons op ops ih =>
      simp only [issuedIds] at hids
      have hbound : op.issuesId s = true → s.nbClients.toNat + 1 < 2 ^ 32 := by
        intro h; rw [h] at hids; simp only [if_true] at hids; omega
      have hcount := nbClients_apply op hbound
      obtain ⟨hinv, hnb⟩ := ih (hs.apply op hbound) (by omega)
      refine ⟨hinv, ?_⟩
      simp only [run_cons, issuedIds]
      omega

/-- The client table over every history of connects and disconnects in which
fewer than 2^31 ids are issued: the invariant holds, registering a known
endpoint changes nothing, registering a new one always inserts it, no two
clients share an id, and disconnecting an unknown endpoint leaves the table
alone. -/
theorem clientTable_history (ops : List TableOp) (hids : issuedIds new ops < 2 ^ 31) :
    let s := run TableOp.apply new ops
    TableInv s ∧
    (∀ (e : Endpoint) (k : UInt32) (c : ClientRegister), s.clients[k]? = some c → c.endpoint = e →
      s.createClient e = (k, s)) ∧
    (∀ e : Endpoint, ¬ s.Registered e →
      (s.createClient e).1 ∉ s.clients ∧
      (s.createClient e).2.clients =
        s.clients.insert (s.createClient e).1 ⟨(s.createClient e).1.toUInt64, e⟩) ∧
    (∀ (k k' : UInt32) (c c' : ClientRegister), s.clients[k]? = some c → s.clients[k']? = some c' →
      c.id = c'.id → k = k' ∧ c = c') ∧
    (∀ e : Endpoint, ¬ s.Registered e →
      (s.disconnectData e).2.clients = s.clients ∧
      (s.disconnectData e).2.availableIds = s.availableIds ∧
      (s.disconnectData e).2.nbClients = s.nbClients) := by
  intro s
  have hzero : new.nbClients.toNat = 0 := rfl
  obtain ⟨hs, hnb⟩ := tableInv_new.run ops (by omega)
  refine ⟨hs, ?_, ?_, ?_, ?_⟩
  · rintro e k c hk rfl
    exact createClient_of_registered (hs.findClient_eq hk)
  · intro e hnew
    have hfind := findClient_none.mpr hnew
    have hfree : s.takeId.1 ∉ s.clients := (hs.takeId fun _ => by omega).1
    rw [createClient_of_new hfind]
    refine ⟨hfree, ExtTreeMap.ext_getElem? fun k => ?_⟩
    rw [ExtTreeMap.getElem?_insertIfNew, ExtTreeMap.getElem?_insert]
    by_cases hk : s.takeId.1 = k
    · subst hk; simp [hfree]
    · simp [hk]
  · intro k k' c c' hk hk' hid
    rw [hs.id_eq k c hk, hs.id_eq k' c' hk'] at hid
    have hkk : k = k' := by simpa using congrArg UInt64.toUInt32 hid
    subst hkk
    exact ⟨rfl, Option.some.inj (hk.symm.trans hk')⟩
  · intro e hnew
    rw [disconnectData_of_unknown (findClient_none.mpr hnew)]
    exact ⟨rfl, rfl, rfl⟩

/-- Two clients, one of whom leaves and comes back. -/
theorem clientTable_history_reconnect :
    let a : Endpoint := ⟨1, 1⟩
    let b : Endpoint := ⟨2, 1⟩
    let ops : List TableOp :=
      [.createClient a, .createClient b, .disconnectData a, .disconnectData a, .createClient a]
    issuedIds new ops = 2 ∧ TableInv (run TableOp.apply new ops) := by
  refine ⟨by decide, (clientTable_history _ (by decide)).1⟩

end Server

end BeeRType
