-- SUMMARY: Registered clients and spawned players: when the ids of the two are the same.
import BeeRType.Game.Effects
import BeeRType.Server.ClientTable
import BeeRType.World.PacketHandler
import Mathlib.Data.Finset.Card

/-!
# Clients and players

GAME_START hands the game a number, and the game spawns the players with the ids
below it. The ids of the clients are whatever the client table has given out: they
need not be contiguous, and new ones are given out while the game runs.
-/

open Cpp Std Transition

namespace BeeRType

/-! ## Distinct numbers below a bound -/

/-- Distinct numbers below `m`, at least `m` of them, are all numbers below `m`. -/
theorem mem_of_nodup_of_length {l : List Nat} {m i : Nat} (hl : l.Nodup) (hlt : ∀ x ∈ l, x < m)
    (hlength : m ≤ l.length) (hi : i < m) : i ∈ l := by
  have hsub : l.toFinset ⊆ Finset.range m := fun x hx =>
    Finset.mem_range.mpr (hlt x (List.mem_toFinset.mp hx))
  have hcard : (Finset.range m).card ≤ l.toFinset.card := by
    rw [Finset.card_range, List.toFinset_card_of_nodup hl]
    exact hlength
  rw [← List.mem_toFinset, Finset.eq_of_subset_of_card_le hsub hcard]
  exact Finset.mem_range.mpr hi

namespace World

/-! ## Ids -/

/-- `Game::run(numPlayers)` spawns a player with the id. -/
def Spawned (numPlayers id : Int) : Prop :=
  ∃ g, Game.new.initializePlayers numPlayers = .ok g ∧ id ∈ g.players

/-- A client is registered under the id. -/
def ClientId (w : World) (id : Int) : Prop := ∃ k ∈ w.server.clients, (k.toNat : Int) = id

/-- The argument of `run` in the thread that has been started last. -/
def lastNumPlayers (w : World) : Option Int := (w.threads.map Thread.numPlayers).getLast?

/-- While a game runs, every registered client has the id of a player that was
spawned at its start. -/
def RosterKept (w : World) : Prop :=
  w.server.gameRunning = true →
    ∃ n, w.lastNumPlayers = some n ∧ ∀ id, w.ClientId id → Spawned n id

/-- If the event is the start of a game, the players that the game will spawn are
the clients that are registered. -/
def StartMatches (w : World) (e : Event) : Prop :=
  e = .process → w.terminated = none → ∀ packet rest, w.server.packetQueue = packet :: rest →
    packet.kind = some .gameStart → w.server.gameRunning = false →
      ∃ n, (w.step e).lastNumPlayers = some n ∧ ∀ id, Spawned n id ↔ w.ClientId id

/-- If the event is the start of a game, the registered ids are below the number
that the game is given; if it is the registration of a new client while a game
runs, the next id to be given out is below the number the game was given. -/
def IdsFit (w : World) (e : Event) : Prop :=
  e = .process → w.terminated = none → ∀ packet rest, w.server.packetQueue = packet :: rest →
    (packet.kind = some .gameStart → w.server.gameRunning = false →
      ∀ k ∈ w.server.clients, (k.toNat : Int) < w.numPlayers) ∧
    (packet.kind = some .reqConnect → w.server.gameRunning = true →
      w.server.findClient w.server.remoteEndpoint = none →
        ∀ n, w.lastNumPlayers = some n → (w.server.nextId.toNat : Int) < n)

variable {w : World} {e : Event} {es : List Event} {n id : Int}

theorem spawned_iff : Spawned n id ↔ 0 ≤ id ∧ id < n := by
  constructor
  · rintro ⟨g, hg, hid⟩
    rw [(Game.initializePlayers_ok hg).1] at hid
    exact hid.resolve_right ExtTreeMap.not_mem_empty
  · intro hid
    obtain ⟨g, hg⟩ := Game.exists_initializePlayers (g := .new) rfl n
    exact ⟨g, hg, ((Game.initializePlayers_ok hg).1 id).mpr (.inl hid)⟩

theorem spawned_of_lt {k : UInt32} (h : (k.toNat : Int) < n) : Spawned n k.toNat :=
  spawned_iff.mpr ⟨Int.natCast_nonneg _, h⟩

/-- The number of players is at most the number of clients. -/
theorem numPlayers_le : w.numPlayers ≤ w.server.clients.size := by
  rw [numPlayers, Int32.toInt_ofNat', Int.bmod_eq_emod]
  have hsize : Int32.size = 4294967296 := rfl
  rw [hsize]
  omega

/-- Ids that are all below the number of players are exactly the ids below it. -/
theorem clientId_iff_of_fit (h : ∀ k ∈ w.server.clients, (k.toNat : Int) < w.numPlayers) :
    Spawned w.numPlayers id ↔ w.ClientId id := by
  rw [spawned_iff]
  constructor
  · rintro ⟨hpos, hlt⟩
    have hnodup : (w.server.clients.keys.map UInt32.toNat).Nodup :=
      List.Nodup.map (fun _ _ => UInt32.toNat_inj.mp) ExtTreeMap.nodup_keys
    have hmem : id.toNat ∈ w.server.clients.keys.map UInt32.toNat := by
      refine mem_of_nodup_of_length (m := w.numPlayers.toNat) hnodup ?_ ?_ (by omega)
      · intro x hx
        obtain ⟨k, hk, rfl⟩ := List.mem_map.mp hx
        have := h k (ExtTreeMap.mem_keys.mp hk)
        omega
      · have := numPlayers_le (w := w)
        rw [List.length_map, ExtTreeMap.length_keys]
        omega
    obtain ⟨k, hk, hid⟩ := List.mem_map.mp hmem
    exact ⟨k, ExtTreeMap.mem_keys.mp hk, by omega⟩
  · rintro ⟨k, hk, rfl⟩
    exact ⟨Int.natCast_nonneg _, h k hk⟩

/-! ## What a step does to the roster -/

/-- The part of the server that the roster depends on. -/
def roster (s : Server) : ExtTreeMap UInt32 ClientRegister × Bool := (s.clients, s.gameRunning)

theorem RosterKept.of_roster {w' : World} (hw : RosterKept w)
    (hserver : roster w'.server = roster w.server)
    (hthreads : w'.lastNumPlayers = w.lastNumPlayers) : RosterKept w' := by
  obtain ⟨hclients, hrunning⟩ := Prod.mk.inj hserver
  simpa only [RosterKept, ClientId, hclients, hrunning, hthreads] using hw

theorem handleReceive_roster {s : Server} {error : ReceiveError} {source : Endpoint} {data : Bytes} :
    roster (s.handleReceive error source data) = roster s := by
  cases error <;> rfl

theorem lastNumPlayers_startGame : w.startGame.lastNumPlayers = some w.numPlayers := by
  simp [lastNumPlayers, startGame]

/-- A thread keeps its argument. -/
theorem lastNumPlayers_set {game : Game} {i : Nat} {t : Thread} {pc : ThreadPc}
    (ht : w.threads[i]? = some t) :
    lastNumPlayers { w.setGame game with threads := w.threads.set i { t with pc := pc } } =
      w.lastNumPlayers := by
  refine congrArg List.getLast? (List.ext_getElem? fun j => ?_)
  rw [List.getElem?_map, List.getElem?_map, List.getElem?_set]
  split
  · rename_i hj
    subst hj
    obtain ⟨hlt, hget⟩ := List.getElem?_eq_some_iff.mp ht
    simp [hlt, hget]
  · rfl

/-- Handling the packet at the head of the queue. -/
theorem handlePacket_rosterKept {packet : Packet} (hw : RosterKept w)
    (hstart : packet.kind = some .gameStart → w.server.gameRunning = false →
      ∀ k ∈ w.server.clients, (k.toNat : Int) < w.numPlayers)
    (hjoin : packet.kind = some .reqConnect → w.server.gameRunning = true →
      w.server.findClient w.server.remoteEndpoint = none →
        ∀ n, w.lastNumPlayers = some n → (w.server.nextId.toNat : Int) < n) :
    RosterKept (w.handlePacket packet) := by
  cases handlePacket_handled w packet with
  | ignored heq => rw [heq]; exact hw
  | connected hkind heq =>
      rw [heq]
      intro hrunning
      have hrunning' : w.server.gameRunning = true :=
        Server.reqConnectData_gameRunning.symm.trans hrunning
      obtain ⟨n, hn, hids⟩ := hw hrunning'
      refine ⟨n, hn, ?_⟩
      rintro id ⟨k, hk, rfl⟩
      rcases Server.mem_clients_reqConnectData.mp hk with hk | ⟨hnew, rfl⟩
      · exact hids _ ⟨k, hk, rfl⟩
      · exact spawned_of_lt (hjoin hkind hrunning' hnew n hn)
  | disconnected _ heq =>
      rw [heq]
      intro hrunning
      obtain ⟨n, hn, hids⟩ := hw (Server.disconnectData_gameRunning.symm.trans hrunning)
      refine ⟨n, hn, ?_⟩
      rintro id ⟨k, hk, rfl⟩
      exact hids _ ⟨k, Server.mem_clients_of_disconnectData hk, rfl⟩
  | started hkind hrunning heq =>
      rw [heq]
      refine fun _ => ⟨w.numPlayers, lastNumPlayers_startGame, ?_⟩
      rintro id ⟨k, hk, rfl⟩
      exact spawned_of_lt (hstart hkind hrunning k hk)
  | ended _ _ heq =>
      rw [heq]
      exact nofun
  | moved _ _ _ heq => rw [heq]; exact hw
  | shot playerId _ heq =>
      rw [heq]
      refine hw.of_roster (callGame_frame fun _ _ _ => rfl) ?_
      cases w.game.spawnBullet playerId <;> rfl
  | pinged heq => rw [heq]; exact hw

theorem RosterKept.step (hw : RosterKept w) (h : IdsFit w e) : RosterKept (w.step e) := by
  cases step_stepped w e with
  | idle heq => rw [heq]; exact hw
  | received error source data heq => rw [heq]; exact hw.of_roster handleReceive_roster rfl
  | handled packet rest he hrunning hqueue heq =>
      rw [heq]
      obtain ⟨hstart, hjoin⟩ := h he hrunning packet rest hqueue
      exact handlePacket_rosterKept (w := w.setPacketQueue rest) hw hstart hjoin
  | sent heq =>
      rw [heq]
      exact hw.of_roster (Server.handleSendTimer_frame (fun _ _ _ => rfl) fun _ _ => rfl) rfl
  | ran i now draws t game pc _ _ ht _ heq =>
      rw [heq]
      exact hw.of_roster (setGame_frame fun _ _ _ => rfl) (lastNumPlayers_set ht)
  | crashed _ _ _ _ _ _ _ _ _ heq => rw [heq]; exact hw

/-- A registered id that the game has no player for breaks the roster at once. -/
theorem not_rosterKept_of_not_fit (h : ¬ IdsFit w e) : ¬ RosterKept (w.step e) := by
  simp only [IdsFit, not_forall] at h
  obtain ⟨rfl, hterminated, packet, rest, hqueue, h⟩ := h
  rw [step_process hterminated hqueue]
  intro hkept
  rw [not_and_or] at h
  rcases h with h | h
  · simp only [not_forall] at h
    obtain ⟨hkind, hrunning, k, hk, hlarge⟩ := h
    rw [handlePacket_gameStart (w := w.setPacketQueue rest) hkind hrunning] at hkept
    obtain ⟨n, hn, hids⟩ := hkept rfl
    obtain rfl := Option.some.inj (lastNumPlayers_startGame.symm.trans hn)
    exact hlarge (spawned_iff.mp (hids _ ⟨k, hk, rfl⟩)).2
  · simp only [not_forall] at h
    obtain ⟨hkind, hrunning, hnew, n, hn, hlarge⟩ := h
    simp only [handlePacket, hkind, reqConnect] at hkept
    obtain ⟨n', hn', hids⟩ := hkept (Server.reqConnectData_gameRunning.trans hrunning)
    obtain rfl : n' = n := Option.some.inj (hn'.symm.trans hn)
    have hmem := (Server.mem_clients_reqConnectData (s := (w.setPacketQueue rest).server)).mpr
      (.inr ⟨hnew, rfl⟩)
    exact hlarge (spawned_iff.mp (hids _ ⟨_, hmem, rfl⟩)).2

theorem startMatches_of_fit (h : IdsFit w e) : StartMatches w e := by
  rintro rfl hterminated packet rest hqueue hkind hrunning
  refine ⟨w.numPlayers, ?_, fun id => ?_⟩
  · rw [step_process hterminated hqueue,
      handlePacket_gameStart (w := w.setPacketQueue rest) hkind hrunning]
    exact lastNumPlayers_startGame
  · exact clientId_iff_of_fit ((h rfl hterminated packet rest hqueue).1 hkind hrunning)

/-- Clients and players correspond, in every state of a run and at every start of
a game, exactly when every game starts with ids below the number of clients and
no client registers during a game under an id that is not below it. -/
theorem roster_iff :
    (Always step RosterKept new es ∧ EachStep step StartMatches new es) ↔
      EachStep step IdsFit new es := by
  have hiff : Always step RosterKept new es ↔ EachStep step IdsFit new es :=
    always_iff_eachStep nofun (fun _ hw => hw) (fun _ _ hw h => hw.step h)
      fun _ _ _ => not_rosterKept_of_not_fit
  constructor
  · exact fun h => hiff.mp h.1
  · exact fun h => ⟨hiff.mpr h, h.mono fun _ _ => startMatches_of_fit⟩

/-- Two clients register, the first one leaves, and the other starts the game. -/
def firstLeaves : List Event :=
  [.receive .success ⟨1, 4000⟩ [1], .process, .receive .success ⟨1, 4001⟩ [1], .process,
    .receive .success ⟨1, 4000⟩ [2], .process, .receive .success ⟨1, 4001⟩ [3], .process]

/-- The client has the id `1`, and the only player the id `0`. -/
theorem roster_afterLeaving :
    ¬ (Always step RosterKept new firstLeaves ∧ EachStep step StartMatches new firstLeaves) := by
  rintro ⟨h, -⟩
  obtain ⟨n, hn, hids⟩ := h.final rfl
  obtain rfl : n = 1 := Option.some.inj (hn.symm.trans (by decide))
  have hspawned := hids 1 ⟨1, by decide, rfl⟩
  exact absurd (spawned_iff.mp hspawned).2 (by decide)

end World

end BeeRType
