-- SUMMARY: What the commands of the server number, queue and send, seen from one endpoint.
import BeeRType.Server.ClientTable

/-!
# Dispatch

Every packet takes its number from one counter when it is created. A broadcast
waits in the send queue for the timer, an answer to a single client is sent at
once. One lemma per command says which of the two it does.
-/

open Cpp Std

namespace BeeRType

namespace Server

/-- The datagrams sent to an endpoint, oldest first. -/
def sentTo (s : Server) (e : Endpoint) : List Bytes :=
  (s.sent.filter fun datagram => datagram.1 = e).map fun datagram => datagram.2

/-- No two entries of the client table hold the endpoint. -/
def AtMostOnce (s : Server) (e : Endpoint) : Prop :=
  ∀ (k k' : UInt32) (c c' : ClientRegister), s.clients[k]? = some c → s.clients[k']? = some c' →
    c.endpoint = e → c'.endpoint = e → k = k'

/-- The server has sent one packet of its own to `e`, under the next number. -/
structure Unicasts (s s' : Server) (e : Endpoint) : Prop where
  number : s'.sequenceNumber = s.sequenceNumber + 1
  queue : s'.sendQueue = s.sendQueue
  sent : ∃ t : PacketType, t ≠ .heartbeat ∧ s'.sent = s.sent ++ [(e, (s.createPacket t []).1)]

variable {s s' : Server} {e e' : Endpoint} {k : UInt32} {c : ClientRegister}

instance : Decidable (s.Registered e) :=
  decidable_of_iff ((s.findClient e).isSome = true) (by
    rw [Option.isSome_iff_ne_none, Ne, findClient_none, not_not])

theorem TableInv.atMostOnce (hs : TableInv s) : s.AtMostOnce e := by
  intro k k' c c' hk hk' hc hc'
  exact hs.endpoint_inj k k' c c' hk hk' (hc.trans hc'.symm)

theorem AtMostOnce.of_entries (hs : s.AtMostOnce e)
    (h : ∀ (k : UInt32) (c : ClientRegister), s'.clients[k]? = some c → s.clients[k]? = some c) :
    s'.AtMostOnce e :=
  fun k k' c c' hk hk' => hs k k' c c' (h k c hk) (h k' c' hk')

/-! ## Sent datagrams -/

theorem sentTo_append {datagrams : List (Endpoint × Bytes)}
    (h : s'.sent = s.sent ++ datagrams) :
    s'.sentTo e = s.sentTo e ++
      (datagrams.filter fun datagram => datagram.1 = e).map fun datagram => datagram.2 := by
  simp [sentTo, h]

theorem Unicasts.sentTo_self (h : Unicasts s s' e) :
    ∃ t : PacketType, t ≠ .heartbeat ∧ s'.sentTo e = s.sentTo e ++ [(s.createPacket t []).1] := by
  obtain ⟨t, ht, hsent⟩ := h.sent
  exact ⟨t, ht, by rw [sentTo_append hsent]; simp⟩

theorem Unicasts.sentTo_other (h : Unicasts s s' e') (hne : e' ≠ e) :
    s'.sentTo e = s.sentTo e := by
  obtain ⟨t, _, hsent⟩ := h.sent
  rw [sentTo_append hsent]
  simp [hne]

/-! ## The send timer -/

theorem foldl_sendToClient (message : Bytes) (clients : List (UInt32 × ClientRegister)) :
    clients.foldl (fun s client => s.sendToClient message client.2.endpoint) s =
      { s with sent := s.sent ++ clients.map fun client => (client.2.endpoint, message) } := by
  induction clients generalizing s with
  | nil => simp
  | cons client clients ih =>
      rw [List.foldl_cons, ih]
      simp [sendToClient]

/-- With nothing queued, a tick of the send timer changes nothing. -/
theorem handleSendTimer_nil (h : s.sendQueue = []) : s.handleSendTimer = s := by
  simp only [handleSendTimer, h]

theorem handleSendTimer_cons {message : Bytes} {rest : List Bytes}
    (h : s.sendQueue = message :: rest) :
    s.handleSendTimer = { s with
      sendQueue := rest
      sent := s.sent ++ s.clients.toList.map fun client => (client.2.endpoint, message) } := by
  simp only [handleSendTimer, h]
  exact foldl_sendToClient message _

/-- The entries of a client that is registered once. -/
theorem filter_toList_of_registered (honce : s.AtMostOnce e) (h : s.Registered e) :
    ∃ entry, s.clients.toList.filter (fun client => client.2.endpoint = e) = [entry] := by
  obtain ⟨k, c, hk, hc⟩ := h
  refine ⟨(k, c), List.perm_singleton.mp ?_⟩
  have hnodup : s.clients.toList.Nodup := ExtTreeMap.distinct_keys_toList.imp fun hne heq =>
    hne (by rw [heq]; exact Std.compare_eq_iff_eq.mpr rfl)
  refine (List.perm_ext_iff_of_nodup (hnodup.filter _) (List.nodup_singleton _)).mpr ?_
  rintro ⟨k', c'⟩
  simp only [List.mem_filter, ExtTreeMap.mem_toList_iff_getElem?_eq_some, decide_eq_true_eq,
    List.mem_singleton, Prod.mk.injEq]
  constructor
  · rintro ⟨hk', hc'⟩
    obtain rfl := honce k' k c' c hk' hk hc' hc
    exact ⟨rfl, Option.some.inj (hk'.symm.trans hk)⟩
  · rintro ⟨rfl, rfl⟩
    exact ⟨hk, hc⟩

/-- A registered client is sent the message that the timer takes off the queue,
once. -/
theorem sentTo_handleSendTimer_of_registered {message : Bytes} {rest : List Bytes}
    (hqueue : s.sendQueue = message :: rest) (honce : s.AtMostOnce e) (h : s.Registered e) :
    s.handleSendTimer.sentTo e = s.sentTo e ++ [message] := by
  obtain ⟨entry, hentry⟩ := filter_toList_of_registered honce h
  rw [handleSendTimer_cons hqueue, sentTo_append rfl]
  simp [List.filter_map, Function.comp_def, hentry]

theorem sentTo_handleSendTimer_of_not_registered {message : Bytes} {rest : List Bytes}
    (hqueue : s.sendQueue = message :: rest) (h : ¬ s.Registered e) :
    s.handleSendTimer.sentTo e = s.sentTo e := by
  have hnil : s.clients.toList.filter (fun client => client.2.endpoint = e) = [] := by
    simp only [List.filter_eq_nil_iff, decide_eq_true_eq, Prod.forall,
      ExtTreeMap.mem_toList_iff_getElem?_eq_some]
    exact fun k c hk hc => h ⟨k, c, hk, hc⟩
  rw [handleSendTimer_cons hqueue, sentTo_append rfl]
  simp [List.filter_map, Function.comp_def, hnil]

/-! ## Commands -/

/-- Registering a client: an old entry, or one with the endpoint. -/
theorem getElem?_createClient (h : (s.createClient e).2.clients[k]? = some c) :
    s.clients[k]? = some c ∨ s.findClient e = none ∧ k = s.takeId.1 ∧ c.endpoint = e := by
  cases hfind : s.findClient e with
  | some client => rw [createClient_of_registered hfind] at h; exact .inl h
  | none =>
      rw [createClient_of_new hfind] at h
      simp only [ExtTreeMap.getElem?_insertIfNew] at h
      split at h
      · rename_i hnew
        cases h
        exact .inr ⟨rfl, (Std.compare_eq_iff_eq.mp hnew.1).symm, rfl⟩
      · exact .inl h

theorem registered_createClient (hfree : s.takeId.1 ∉ s.clients) :
    (s.createClient e).2.Registered e := by
  cases hfind : s.findClient e with
  | some client =>
      rw [createClient_of_registered hfind]
      exact ⟨client.1, client.2, findClient_some hfind⟩
  | none =>
      rw [createClient_of_new hfind]
      refine ⟨s.takeId.1, ⟨s.takeId.1.toUInt64, e⟩, ?_, rfl⟩
      rw [ExtTreeMap.getElem?_insertIfNew]
      simp [hfree]

theorem AtMostOnce.createClient (hs : s.AtMostOnce e) : (s.createClient e').2.AtMostOnce e := by
  intro k k' c c' hk hk' hc hc'
  rcases getElem?_createClient hk with hold | ⟨hfind, rfl, rfl⟩
  · rcases getElem?_createClient hk' with hold' | ⟨hfind, rfl, rfl⟩
    · exact hs k k' c c' hold hold' hc hc'
    · exact absurd ⟨k, c, hold, hc.trans hc'.symm⟩ (findClient_none.mp hfind)
  · rcases getElem?_createClient hk' with hold' | ⟨-, rfl, -⟩
    · exact absurd ⟨k', c', hold', hc'.trans hc.symm⟩ (findClient_none.mp hfind)
    · rfl

theorem AtMostOnce.of_clients (hs : s.AtMostOnce e) (h : s'.clients = s.clients) :
    s'.AtMostOnce e :=
  hs.of_entries fun k c hk => by rwa [h] at hk

theorem createClient_frame {α : Type} {f : Server → α}
    (hf : ∀ (s : Server) availableIds nbClients clients,
      f { s with availableIds := availableIds, nbClients := nbClients, clients := clients } = f s) :
    f (s.createClient e).2 = f s := by
  cases hfind : s.findClient e with
  | some client => rw [createClient_of_registered hfind]
  | none => rw [createClient_of_new hfind]; exact hf s _ _ _

theorem createPacket_congr {t : PacketType} {data : Bytes}
    (h : s'.sequenceNumber = s.sequenceNumber) :
    (s'.createPacket t data).1 = (s.createPacket t data).1 := by
  simp [createPacket, h]

theorem unicasts_sendPacket {t : PacketType} (ht : t ≠ .heartbeat) :
    Unicasts s (s.sendPacket t [] e) e :=
  ⟨rfl, rfl, t, ht, rfl⟩

theorem reqConnectData_unicasts : Unicasts s (s.reqConnectData e).2 e := by
  have hnumber : (s.createClient e).2.sequenceNumber = s.sequenceNumber :=
    createClient_frame (f := fun s => s.sequenceNumber) fun _ _ _ _ => rfl
  have hqueue : (s.createClient e).2.sendQueue = s.sendQueue :=
    createClient_frame (f := fun s => s.sendQueue) fun _ _ _ _ => rfl
  have hsent : (s.createClient e).2.sent = s.sent :=
    createClient_frame (f := fun s => s.sent) fun _ _ _ _ => rfl
  have hsend : ∀ t : PacketType, t ≠ .heartbeat →
      Unicasts s ((s.createClient e).2.sendPacket t [] e) e := by
    intro t ht
    obtain ⟨hnumber', hqueue', t, ht, hsent'⟩ :=
      unicasts_sendPacket (s := (s.createClient e).2) (e := e) ht
    refine ⟨by rw [hnumber', hnumber], by rw [hqueue', hqueue], t, ht, ?_⟩
    rw [hsent', hsent, createPacket_congr hnumber]
  unfold reqConnectData
  dsimp only
  split
  · exact hsend .gameStarted (by decide)
  · exact hsend .gameNotStarted (by decide)

theorem disconnectData_unicasts (h : ¬ s.Registered e) :
    Unicasts s (s.disconnectData e).2 e ∧ (s.disconnectData e).2.clients = s.clients := by
  rw [disconnectData_of_unknown (findClient_none.mpr h)]
  exact ⟨unicasts_sendPacket (by decide), rfl⟩

/-- Removing a client sends nothing. -/
theorem disconnectData_silent (h : s.Registered e) :
    ∃ availableIds k, (s.disconnectData e).2 =
      { s with availableIds := availableIds, clients := s.clients.erase k } := by
  obtain ⟨k, c, hfind⟩ := findClient_of_registered h
  exact ⟨_, k, by simp only [disconnectData, hfind]; rfl⟩

theorem sendQueue_disconnectData : (s.disconnectData e).2.sendQueue = s.sendQueue := by
  by_cases hknown : s.Registered e
  · obtain ⟨availableIds, k, hsilent⟩ := disconnectData_silent hknown
    rw [hsilent]
  · exact (disconnectData_unicasts hknown).1.queue

theorem AtMostOnce.reqConnectData (hs : s.AtMostOnce e) : (s.reqConnectData e').2.AtMostOnce e :=
  hs.createClient.of_clients reqConnectData_clients

theorem AtMostOnce.disconnectData (hs : s.AtMostOnce e) : (s.disconnectData e').2.AtMostOnce e := by
  by_cases hknown : s.Registered e'
  · obtain ⟨availableIds, k, hsilent⟩ := disconnectData_silent hknown
    rw [hsilent]
    exact hs.of_entries fun k' c' hk' => getElem?_of_erase hk'
  · exact hs.of_clients (disconnectData_unicasts hknown).2

theorem AtMostOnce.handleSendTimer (hs : s.AtMostOnce e) : s.handleSendTimer.AtMostOnce e :=
  hs.of_clients (handleSendTimer_frame (f := clients) (fun _ _ _ => rfl) fun _ _ => rfl)

end Server

end BeeRType
