-- SUMMARY: The position that CREATE_PLAYER and CHANGE packets last gave for each player, and when a move of a player is published.
import BeeRType.Game.Calls

/-!
# Published positions

`playerPacketFactory` looks at the ids below the number of players, and leaves out a
position that it has published before under the same id. A position is published if
the last CREATE_PLAYER or CHANGE packet for the player carries it.
-/

open Cpp Std

namespace BeeRType

/-! ## The last position in a stream -/

/-- The position that a packet gives for a player. -/
def located (id : Int) (m : Message) : Option (Bytes × Bytes) :=
  if (m.type = .createPlayer ∨ m.type = .change) ∧ m.payload.f1 = toStringInt id then
    some (m.payload.f2, m.payload.f3)
  else none

/-- The position in the last packet that gives one. -/
def lastLocated (id : Int) (messages : List Message) : Option (Bytes × Bytes) :=
  messages.reverse.findSome? (located id)

/-- A position as `std::to_string` prints it. -/
def Position.text (pos : Position) : Bytes × Bytes := (toStringFloat pos.x, toStringFloat pos.y)

variable {id q : Int} {messages messages' : List Message} {m : Message}

theorem lastLocated_eq :
    lastLocated id messages = (messages.filterMap (located id)).getLast? :=
  List.getLast?_filterMap.symm

theorem lastLocated_append : lastLocated id (messages ++ messages') =
    (lastLocated id messages').or (lastLocated id messages) := by
  rw [lastLocated, List.reverse_append, List.findSome?_append]
  rfl

theorem lastLocated_append_of_none (h : ∀ m ∈ messages', located id m = none) :
    lastLocated id (messages ++ messages') = lastLocated id messages := by
  have hnone : lastLocated id messages' = none :=
    List.findSome?_eq_none_iff.mpr fun m hm => h m (List.mem_reverse.mp hm)
  rw [lastLocated_append, hnone, Option.none_or]

theorem located_of_type (h : m.type ≠ .createPlayer ∧ m.type ≠ .change) : located id m = none :=
  if_neg fun hm => hm.1.elim h.1 h.2

theorem located_of_ne {type : PacketType} {a b c d : Bytes} (h : q ≠ id) :
    located q ⟨type, ⟨toStringInt id, a, b, c, d⟩⟩ = none :=
  if_neg fun hm => h (toStringInt_injective hm.2).symm

namespace Game

/-- Every player is where the last packet for it says. -/
def Published (g : Game) : Prop :=
  ∀ q p, g.players[q]? = some p → lastLocated q g.broadcasts = some p.position.text

variable {g g' : Game} {p : Player} {playerId actionId : Int}

/-! ## `playerPacketFactory` -/

theorem publishPosition_players : (g.publishPosition id).players = g.players := by
  obtain ⟨positions, messages, -, heq⟩ := publishPosition_eq g id
  rw [heq]

/-- The CHANGE packet of `playerPacketFactory`. -/
def changeMessage (id : Int) (pos : Position) : Message :=
  ⟨.change, ⟨toStringInt id, toStringFloat pos.x, toStringFloat pos.y, str "0", str "0"⟩⟩

theorem publishPosition_of_known (hp : g.players[id]? = some p)
    (hknown : g.lastKnownPositions[id]? = some (p.position.x, p.position.y)) :
    g.publishPosition id = g := by
  simp [publishPosition, hasPositionChanged, getPlayerPosition, hp, hknown]

theorem publishPosition_of_changed (hp : g.players[id]? = some p)
    (hknown : g.lastKnownPositions[id]? ≠ some (p.position.x, p.position.y)) :
    g.publishPosition id = { g with
      lastKnownPositions := g.lastKnownPositions.insert id (p.position.x, p.position.y)
      broadcasts := g.broadcasts ++ [changeMessage id p.position] } := by
  simp [publishPosition, hasPositionChanged, getPlayerPosition, hp, hknown, broadcast, changeMessage]

theorem publishPosition_of_not_mem (h : g.players[id]? = none) : g.publishPosition id = g := by
  simp [publishPosition, getPlayerPosition, h]

/-- A position is published if it is not the one last published under the id. -/
theorem publishPosition_self (hp : g.players[id]? = some p) :
    (g.publishPosition id).broadcasts.filterMap (located id) =
        g.broadcasts.filterMap (located id) ++
          (if g.lastKnownPositions[id]? = some (p.position.x, p.position.y) then []
          else [p.position.text]) ∧
      (g.publishPosition id).lastKnownPositions[id]? = some (p.position.x, p.position.y) := by
  split
  · rename_i hknown
    rw [publishPosition_of_known hp hknown]
    exact ⟨(List.append_nil _).symm, hknown⟩
  · rename_i hknown
    rw [publishPosition_of_changed hp hknown]
    refine ⟨?_, ExtTreeMap.getElem?_insert_self⟩
    simp [located, changeMessage, Position.text]

theorem publishPosition_ne (hne : q ≠ id) :
    (g.publishPosition id).broadcasts.filterMap (located q) = g.broadcasts.filterMap (located q) ∧
      (g.publishPosition id).lastKnownPositions[q]? = g.lastKnownPositions[q]? := by
  cases hp : g.players[id]? with
  | none =>
      rw [publishPosition_of_not_mem hp]
      exact ⟨rfl, rfl⟩
  | some p =>
      by_cases hknown : g.lastKnownPositions[id]? = some (p.position.x, p.position.y)
      · rw [publishPosition_of_known hp hknown]
        exact ⟨rfl, rfl⟩
      · rw [publishPosition_of_changed hp hknown]
        refine ⟨?_, ?_⟩
        · simp [changeMessage, located_of_ne hne]
        · rw [ExtTreeMap.getElem?_insert, if_neg]
          exact fun heq => hne (Std.compare_eq_iff_eq.mp heq).symm

/-- The loop of `playerPacketFactory` over a list of ids. -/
def publishAll (g : Game) (ids : List Nat) : Game :=
  ids.foldl (fun g (playerId : Nat) => g.publishPosition playerId) g

theorem publishAll_players {ids : List Nat} : (g.publishAll ids).players = g.players := by
  induction ids generalizing g with
  | nil => rfl
  | cons k ids ih => exact (ih (g := g.publishPosition k)).trans publishPosition_players

theorem publishAll_of_not_mem {ids : List Nat} (hq : ∀ k ∈ ids, ((k : Nat) : Int) ≠ q) :
    (g.publishAll ids).broadcasts.filterMap (located q) = g.broadcasts.filterMap (located q) ∧
      (g.publishAll ids).lastKnownPositions[q]? = g.lastKnownPositions[q]? := by
  induction ids generalizing g with
  | nil => exact ⟨rfl, rfl⟩
  | cons k ids ih =>
      obtain ⟨hsent, hknown⟩ := publishPosition_ne (g := g) (hq k List.mem_cons_self).symm
      obtain ⟨hsent', hknown'⟩ := ih (g := g.publishPosition k) fun j hj =>
        hq j (List.mem_cons_of_mem _ hj)
      exact ⟨hsent'.trans hsent, hknown'.trans hknown⟩

theorem publishAll_of_mem {ids : List Nat} {k : Nat} (hids : ids.Nodup) (hk : k ∈ ids)
    (hp : g.players[(k : Int)]? = some p) :
    (g.publishAll ids).broadcasts.filterMap (located k) =
      g.broadcasts.filterMap (located k) ++
        if g.lastKnownPositions[(k : Int)]? = some (p.position.x, p.position.y) then []
        else [p.position.text] := by
  induction ids generalizing g with
  | nil => cases hk
  | cons j ids ih =>
      obtain ⟨hj, hids⟩ := List.nodup_cons.mp hids
      have hrest : ∀ i ∈ ids, ((i : Nat) : Int) ≠ j := by
        rintro i hi heq
        exact hj (Int.ofNat_inj.mp heq ▸ hi)
      rcases List.mem_cons.mp hk with rfl | hk
      · exact (publishAll_of_not_mem hrest).1.trans (publishPosition_self hp).1
      · obtain ⟨hsent, hknown⟩ := publishPosition_ne (g := g) (hrest k hk)
        have hplayers : (g.publishPosition j).players = g.players := publishPosition_players
        rw [← hplayers] at hp
        exact (ih hids hk hp).trans (by rw [hsent, hknown])

/-- The positions of a player that are published are followed by at most one more. -/
theorem located_playerPacketFactory (hp : g.players[q]? = some p) :
    g.playerPacketFactory.broadcasts.filterMap (located q) =
      g.broadcasts.filterMap (located q) ++
        if (0 ≤ q ∧ q < g.players.size) ∧
          g.lastKnownPositions[q]? ≠ some (p.position.x, p.position.y) then [p.position.text]
        else [] := by
  by_cases hq : 0 ≤ q ∧ q < g.players.size
  · obtain ⟨k, rfl⟩ := Int.eq_ofNat_of_zero_le hq.1
    have hk : k ∈ List.range g.players.size := List.mem_range.mpr (by omega)
    refine (publishAll_of_mem List.nodup_range hk hp).trans ?_
    simp only [hq, and_self, true_and, ne_eq, ite_not]
  · rw [if_neg fun h => hq h.1, List.append_nil]
    refine (publishAll_of_not_mem fun k hk => ?_).1
    rintro rfl
    rw [List.mem_range] at hk
    exact hq ⟨by omega, by omega⟩

theorem lastLocated_playerPacketFactory (hp : g.players[q]? = some p) :
    lastLocated q g.playerPacketFactory.broadcasts =
      if (0 ≤ q ∧ q < g.players.size) ∧
          g.lastKnownPositions[q]? ≠ some (p.position.x, p.position.y) then some p.position.text
      else lastLocated q g.broadcasts := by
  rw [lastLocated_eq, located_playerPacketFactory hp, lastLocated_eq]
  split
  · rw [List.getLast?_concat]
  · rw [List.append_nil]

/-! ## A move -/

/-- Where an action takes a player. -/
def movedPosition (p : Player) (actionId : Int) : Position :=
  (p.move ((moveTarget p.position actionId).x - p.position.x)
    ((moveTarget p.position actionId).y - p.position.y)).position

theorem movedPosition_of_hasComponent {p : Player} {actionId : Int}
    (h : p.registry.hasComponent .position p.entity = true) :
    movedPosition p actionId = moveTarget p.position actionId := by
  rw [movedPosition, Player.move, GameObject.position_move, if_pos h, add_sub_cancel,
    add_sub_cancel]

/-- A move of a player does not change its position as printed, or it is published:
the id is among those looked at, and the new position is not the one last published
under it. -/
def Tracks (g : Game) (playerId actionId : Int) : Prop :=
  ∀ p, g.players[playerId]? = some p →
    (movedPosition p actionId).text = p.position.text ∨
      ((0 ≤ playerId ∧ playerId < g.players.size) ∧ g.lastKnownPositions[playerId]? ≠
        some ((movedPosition p actionId).x, (movedPosition p actionId).y))

theorem published_handlePlayerMove (hg : g.Published)
    (h : g.handlePlayerMove playerId actionId = .ok g') :
    g'.Published ↔ g.Tracks playerId actionId := by
  obtain ⟨player, hplayer, rfl⟩ := handlePlayerMove_eq h
  have hplayers : (g.movePlayer playerId actionId player.position).playerPacketFactory.players =
      (g.movePlayer playerId actionId player.position).players := publishAll_players
  have hmoved : (g.movePlayer playerId actionId player.position).players[playerId]? =
      some (player.move ((moveTarget player.position actionId).x - player.position.x)
        ((moveTarget player.position actionId).y - player.position.y)) :=
    getElem?_movePlayer_self hplayer
  have hself := lastLocated_playerPacketFactory hmoved
  have hold : lastLocated playerId (g.movePlayer playerId actionId player.position).broadcasts =
      some player.position.text := hg playerId player hplayer
  rw [size_movePlayer, hold] at hself
  constructor
  · intro hpublished p hp
    cases hplayer.symm.trans hp
    have hlast := hpublished playerId _ (by rw [hplayers, hmoved])
    rw [hself] at hlast
    split at hlast
    · rename_i hseen
      exact .inr hseen
    · exact .inl (Option.some.inj hlast).symm
  · intro htracks q p hp
    rw [hplayers] at hp
    by_cases hq : q = playerId
    · subst hq
      cases hmoved.symm.trans hp
      rw [hself]
      split
      · rfl
      · rename_i hunseen
        exact congrArg some ((htracks player hplayer).resolve_right hunseen).symm
    · rw [lastLocated_playerPacketFactory hp]
      split
      · rfl
      · rw [getElem?_movePlayer_ne hq] at hp
        exact hg q p hp

/-! ## Other work -/

/-- No player moves, and no packet gives a position. -/
structure LeavesInPlace (g g' : Game) : Prop where
  position : ∀ (q : Int) (p' : Player), g'.players[q]? = some p' →
    ∃ p : Player, g.players[q]? = some p ∧ p'.position = p.position
  messages : ∃ messages, g'.broadcasts = g.broadcasts ++ messages ∧
    ∀ m ∈ messages, m.type ≠ .createPlayer ∧ m.type ≠ .change

namespace LeavesInPlace

variable {m : Game}

theorem of_players (hplayers : g'.players = g.players)
    (hmessages : ∃ messages, g'.broadcasts = g.broadcasts ++ messages ∧
      ∀ m ∈ messages, m.type ≠ .createPlayer ∧ m.type ≠ .change) : LeavesInPlace g g' :=
  ⟨fun _ p' hp' => ⟨p', by rw [← hplayers, hp'], rfl⟩, hmessages⟩

theorem of_eq (hplayers : g'.players = g.players) (hbroadcasts : g'.broadcasts = g.broadcasts) :
    LeavesInPlace g g' :=
  of_players hplayers ⟨[], by rw [hbroadcasts, List.append_nil], nofun⟩

theorem trans (h : LeavesInPlace g m) (h' : LeavesInPlace m g') : LeavesInPlace g g' where
  position := by
    intro q p' hp'
    obtain ⟨p₁, hp₁, hposition'⟩ := h'.position q p' hp'
    obtain ⟨p, hp, hposition⟩ := h.position q p₁ hp₁
    exact ⟨p, hp, hposition'.trans hposition⟩
  messages := by
    obtain ⟨messages, heq, hquiet⟩ := h.messages
    obtain ⟨messages', heq', hquiet'⟩ := h'.messages
    refine ⟨messages ++ messages', by rw [heq', heq, List.append_assoc], fun m hm => ?_⟩
    exact (List.mem_append.mp hm).elim (hquiet m) (hquiet' m)

theorem published (h : LeavesInPlace g g') (hg : g.Published) : g'.Published := by
  intro q p' hp'
  obtain ⟨p, hp, hposition⟩ := h.position q p' hp'
  obtain ⟨messages, heq, hquiet⟩ := h.messages
  rw [heq, lastLocated_append_of_none fun m hm => located_of_type (hquiet m hm), hposition]
  exact hg q p hp

end LeavesInPlace

theorem spawnBullet_leavesInPlace (h : g.spawnBullet playerId = .ok g') : LeavesInPlace g g' := by
  obtain rfl | ⟨player, bullet, -, -, rfl⟩ := spawnBullet_new h
  · exact .of_eq rfl rfl
  · exact .of_players rfl ⟨_, rfl, by simp⟩

theorem leavesInPlace_rule : QuietRule LeavesInPlace where
  refl := fun _ => .of_eq rfl rfl
  trans := LeavesInPlace.trans
  record := by
    rintro g g' heq
    rw [heq]
    exact .of_eq rfl rfl
  report := fun g messages hm => .of_players rfl ⟨messages, rfl, fun m hmem => by simp [hm m hmem]⟩
  spawnBullet := spawnBullet_leavesInPlace
  spawnNextEnemy := by
    intro g draw g' h
    obtain ⟨enemy, -, rfl⟩ := spawnEnemy_new h
    exact .of_players rfl ⟨_, rfl, by simp⟩
  spawnNextBoss := by
    intro g draw g' h
    obtain ⟨boss, -, rfl⟩ := spawnBoss_new h
    exact .of_players rfl ⟨_, rfl, by simp⟩

theorem type_of_mem_destroyed {type : PacketType} {ids : List Int} (h : m ∈ destroyed type ids) :
    m.type = type := by
  obtain ⟨id, -, rfl⟩ := List.mem_map.mp h
  rfl

theorem checkCollisions_leavesInPlace : LeavesInPlace g g.checkCollisions := by
  constructor
  · intro q p' hp'
    obtain ⟨p, hp, hobject⟩ := getElem?_players_checkCollisions hp'
    exact ⟨p, hp, congrArg GameObject.position hobject⟩
  · rw [checkCollisions_eq, removeAll_eq]
    dsimp only
    rw [detectOutOfBounds_broadcasts, detectAll_detected.broadcasts, List.append_assoc,
      List.append_assoc, List.append_assoc]
    refine ⟨_, rfl, fun m hm => ?_⟩
    simp only [List.mem_append] at hm
    rcases hm with hm | hm | hm | hm <;> rw [type_of_mem_destroyed hm] <;> exact ⟨nofun, nofun⟩

theorem stop_published : g.stop.Published := by
  intro q p hp
  exact absurd hp (by simp [stop])

/-! ## New players -/

/-- Where `initializePlayers` puts a new player. -/
def spawnPosition (id : Int) : Position := ⟨100 * (id + 1), 100⟩

/-- The players in the map that `initializePlayers` announces again are where it says. -/
def AtSpawn (g : Game) (numPlayers : Int) : Prop :=
  ∀ q p, g.players[q]? = some p → 0 ≤ q → q < numPlayers →
    p.position.text = (spawnPosition q).text

/-- `spawnPlayer` announces the position of a new player, or a position for the player
that is already there. -/
theorem spawnPlayer_published {k : Nat} (hg : g.Published)
    (hold : ∀ p, g.players[(k : Int)]? = some p → p.position.text = (spawnPosition k).text)
    (h : g.spawnPlayer k (100 * (k + 1)) 100 = .ok g') : g'.Published := by
  intro q p hp
  have hplayer := getElem?_spawnPlayer h hp
  obtain ⟨player, hp', score, -, rfl⟩ := spawnPlayer_new h
  by_cases hq : q = k
  · subst hq
    have hlast : lastLocated k (g.broadcasts ++
        [⟨.createPlayer, ⟨toStringInt k, toStringFloat (100 * (k + 1)), toStringFloat 100, str "0",
          str "0"⟩⟩, ⟨.uiUpdate, ⟨toStringInt k, hp', score, str "0", str "0"⟩⟩]) =
        some (spawnPosition k).text := by
      rw [lastLocated_append]
      simp [lastLocated, located, Position.text, spawnPosition]
    refine hlast.trans (congrArg some ?_)
    obtain ⟨hne, -⟩ | ⟨-, p', hthere, rfl⟩ | ⟨-, -, hposition, -⟩ := hplayer
    · exact absurd rfl hne
    · exact (hold p' hthere).symm
    · rw [hposition]
      simp [spawnPosition]
  · obtain ⟨-, hother⟩ | ⟨heq, -⟩ | ⟨heq, -⟩ := hplayer
    · rw [lastLocated_append_of_none fun m hm => ?_]
      · exact hg q p hother
      · rcases List.mem_pair.mp hm with rfl | rfl <;> exact located_of_ne hq
    · exact absurd heq hq
    · exact absurd heq hq

theorem initializePlayers_published {numPlayers : Int} (hg : g.Published)
    (hspawn : g.AtSpawn numPlayers) (h : g.initializePlayers numPlayers = .ok g') :
    g'.Published := by
  have hrun := initializePlayers_rule (P := fun pre b => (∀ k ∈ pre, ((k : Nat) : Int) < numPlayers) →
    b.Published ∧ b.AtSpawn numPlayers) h (fun _ => ⟨hg, hspawn⟩) ?_
  · refine (hrun fun k hk => ?_).1
    rw [List.mem_range] at hk
    omega
  · intro pre k b b' hb hstep hlt
    obtain ⟨hpublished, hat⟩ := hb fun j hj => hlt j (List.mem_append_left _ hj)
    have hk : (k : Int) < numPlayers := hlt k (by simp)
    refine ⟨spawnPlayer_published hpublished (fun p hp => ?_) hstep, fun q p hp hq hqlt => ?_⟩
    · exact hat k p hp (Int.natCast_nonneg k) hk
    · obtain ⟨-, hother⟩ | ⟨-, p', hthere, rfl⟩ | ⟨rfl, -, hposition, -⟩ :=
        getElem?_spawnPlayer hstep hp
      · exact hat q p hother hq hqlt
      · exact hat q p' hthere hq hqlt
      · rw [hposition]
        simp [spawnPosition]

/-! ## The loop over the actions -/

/-- The game after the first actions of the loop. -/
def AfterActions (g : Game) (actions : List PlayerAction) (g' : Game) : Prop :=
  ∃ actions', g.applyPlayerActions actions = .ok (g', actions')

theorem afterActions_nil : g.AfterActions [] g' ↔ g' = g := by
  constructor
  · rintro ⟨actions', h⟩
    cases h
    rfl
  · rintro rfl
    exact ⟨[], rfl⟩

theorem afterActions_cons {action : PlayerAction} {rest : List PlayerAction} :
    g.AfterActions (action :: rest) g' ↔
      ∃ m action', g.applyPlayerAction action = .ok (m, action') ∧ m.AfterActions rest g' := by
  constructor
  · rintro ⟨actions', h⟩
    obtain ⟨m, action', rest', hfirst, hrest, -⟩ := applyPlayerActions_cons.mp h
    exact ⟨m, action', hfirst, rest', hrest⟩
  · rintro ⟨m, action', hfirst, rest', hrest⟩
    exact ⟨action' :: rest', applyPlayerActions_cons.mpr ⟨m, action', rest', hfirst, hrest, rfl⟩⟩

theorem afterActions_append {actions rest : List PlayerAction} :
    g.AfterActions (actions ++ rest) g' ↔
      ∃ m, g.AfterActions actions m ∧ m.AfterActions rest g' := by
  induction actions generalizing g with
  | nil => simp [afterActions_nil]
  | cons action actions ih =>
      simp only [List.cons_append, afterActions_cons, ih]
      constructor
      · rintro ⟨g₁, action', hfirst, m, hm, hrest⟩
        exact ⟨m, ⟨g₁, action', hfirst, hm⟩, hrest⟩
      · rintro ⟨m, ⟨g₁, action', hfirst, hm⟩, hrest⟩
        exact ⟨g₁, action', hfirst, m, hm, hrest⟩

theorem afterActions_concat {actions : List PlayerAction} {action : PlayerAction} :
    g.AfterActions (actions ++ [action]) g' ↔
      ∃ m action', g.AfterActions actions m ∧ m.applyPlayerAction action = .ok (g', action') := by
  simp only [afterActions_append, afterActions_cons, afterActions_nil]
  constructor
  · rintro ⟨m, hm, _, action', hlast, rfl⟩
    exact ⟨m, action', hm, hlast⟩
  · rintro ⟨m, action', hm, hlast⟩
    exact ⟨m, hm, g', action', hlast, rfl⟩

/-- Whenever `handlePlayerMove` returns in the loop, all positions are published. -/
def MovesPublished (g : Game) : Prop :=
  ∀ actions action rest g', g.playerActions = actions ++ action :: rest → IsMove action →
    g.AfterActions (actions ++ [action]) g' → g'.Published

/-- Every move of the loop is one that is published. -/
def MovesTracked (g : Game) : Prop :=
  ∀ actions action rest m, g.playerActions = actions ++ action :: rest → IsMove action →
    g.AfterActions actions m → m.Tracks action.playerId action.actionId

theorem handlePlayerMove_of_isMove {action action' : PlayerAction} (hmove : IsMove action)
    (h : g.applyPlayerAction action = .ok (g', action')) :
    g.handlePlayerMove action.playerId action.actionId = .ok g' := by
  unfold IsMove at hmove
  unfold applyPlayerAction at h
  rw [if_pos hmove] at h
  obtain ⟨g₁, hstep, h⟩ := Fallible.bind_eq_ok.mp h
  cases Fallible.pure_eq_ok.mp h
  exact hstep

theorem leavesInPlace_of_not_isMove {action action' : PlayerAction} (hmove : ¬ IsMove action)
    (h : g.applyPlayerAction action = .ok (g', action')) : LeavesInPlace g g' := by
  unfold IsMove at hmove
  unfold applyPlayerAction at h
  rw [if_neg hmove] at h
  split at h
  · obtain ⟨g₁, hshoot, h⟩ := Fallible.bind_eq_ok.mp h
    cases Fallible.pure_eq_ok.mp h
    exact spawnBullet_leavesInPlace hshoot
  · cases h
    exact .of_eq rfl rfl

/-- Positions stay published along the loop if every move keeps them so. -/
theorem afterActions_published {actions : List PlayerAction} (hg : g.Published)
    (hmoves : ∀ done action rest m m' action', actions = done ++ action :: rest → IsMove action →
      m.Published → g.AfterActions done m → m.applyPlayerAction action = .ok (m', action') →
      m'.Published)
    (h : g.AfterActions actions g') : g'.Published := by
  induction actions using List.reverseRecOn generalizing g' with
  | nil =>
      rw [afterActions_nil.mp h]
      exact hg
  | append_singleton actions action ih =>
      obtain ⟨m, action', hm, hlast⟩ := afterActions_concat.mp h
      have hpublished : m.Published := by
        refine ih (fun done first rest b b' first' heq => ?_) hm
        exact hmoves done first (rest ++ [action]) b b' first' (by rw [heq, List.append_assoc]; rfl)
      by_cases hmove : IsMove action
      · exact hmoves actions action [] m g' action' rfl hmove hpublished hm hlast
      · exact (leavesInPlace_of_not_isMove hmove hlast).published hpublished

theorem movesPublished_iff (hg : g.Published) : g.MovesPublished ↔ g.MovesTracked := by
  constructor
  · intro h actions action rest m heq hmove hm
    have hpublished : m.Published := by
      refine afterActions_published hg (fun done first rest' b b' first' hdone hfirst _ hb hstep => ?_)
        hm
      exact h done first (rest' ++ action :: rest) b' (by rw [heq, hdone, List.append_assoc]; rfl)
        hfirst (afterActions_concat.mpr ⟨b, first', hb, hstep⟩)
    by_cases hmem : action.playerId ∈ m.players
    · obtain ⟨m', hm'⟩ : ∃ m', m.handlePlayerMove action.playerId action.actionId = .ok m' :=
        exists_handlePlayerMove hmem
      refine (published_handlePlayerMove hpublished hm').mp (h actions action rest m' heq hmove ?_)
      refine afterActions_concat.mpr ⟨m, { action with processed := true }, hm, ?_⟩
      rw [applyPlayerAction, if_pos (show 0 < action.actionId ∧ _ from hmove), hm']
      rfl
    · intro p hp
      exact absurd (ExtTreeMap.mem_iff_isSome_getElem?.mpr (Option.isSome_of_mem hp)) hmem
  · intro h actions action rest g' heq hmove hg'
    refine afterActions_published hg (fun done first rest' b b' first' hdone hfirst hb hafter hstep =>
      ?_) hg'
    refine (published_handlePlayerMove hb (handlePlayerMove_of_isMove hfirst hstep)).mpr ?_
    refine h done first (rest' ++ rest) b ?_ hfirst hafter
    rw [heq, List.append_cons, hdone, List.append_assoc]
    rfl

theorem processPlayerActions_published (hg : g.Published) (hmoves : g.MovesTracked)
    (h : g.processPlayerActions = .ok g') : g'.Published := by
  obtain ⟨⟨m, actions'⟩, hloop, h⟩ := Fallible.bind_eq_ok.mp h
  obtain rfl := Fallible.pure_eq_ok.mp h
  have hm : m.Published := by
    refine afterActions_published hg (fun done first rest b b' first' hdone hfirst hb hafter hstep =>
      ?_) ⟨actions', hloop⟩
    exact (published_handlePlayerMove hb (handlePlayerMove_of_isMove hfirst hstep)).mpr
      (hmoves done first rest b hdone hfirst hafter)
  exact hm

end Game

end BeeRType
