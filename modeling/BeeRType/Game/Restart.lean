-- SUMMARY: A game that is run again after `stop`, and what it takes for it to go like a new game.
import BeeRType.Base.Entries
import BeeRType.Game.Published
import BeeRType.Game.Reachable
import BeeRType.Game.Renaming

/-!
# Running a game again

A game that is run again after `stop` and a new game, with the same inputs, timers and
random draws. The two go alike up to the numbers of their objects if `stop` has found
nothing in the fields that it does not clear, and in the table of published positions
nothing that a new player can come to at its first appearance there.
-/

open Cpp Std Fallible Transition

namespace BeeRType

namespace Game

variable {d : ObjectClass → Int} {old : List Message} {g m g' : Game} {playerId id q : Int}
  {p : Player}

/-! ## Publishing positions -/

/-- The position that the table has for an id. -/
def Knows (g : Game) (id : Int) (pos : Position) : Prop :=
  g.lastKnownPositions[id]? = some (pos.x, pos.y)

instance (pos : Position) : Decidable (g.Knows id pos) := inferInstanceAs (Decidable (_ = _))

/-- Where a new player is when `playerPacketFactory` looks at it for the first time:
where it was put, or where its first move has taken it. -/
def FirstPosition (id : Int) (pos : Position) : Prop :=
  pos = spawnPosition id ∨ ∃ actionId, 0 < actionId ∧ actionId < 5 ∧
    pos = moveTarget (spawnPosition id) actionId

/-- The tables of two games agree about the player under an id, or one of them knows nothing
and the other knows another position. -/
def Ready (g g' : Game) (id : Int) (p : Player) : Prop :=
  g.lastKnownPositions[id]? = g'.lastKnownPositions[id]? ∨
    g'.lastKnownPositions[id]? = none ∧ ¬ g.Knows id p.position

theorem Ready.knows_iff (h : Ready g g' id p) : g.Knows id p.position ↔ g'.Knows id p.position := by
  rcases h with heq | ⟨hnone, hother⟩
  · rw [Knows, Knows, heq]
  · refine iff_of_false hother fun h => ?_
    rw [Knows, hnone] at h
    cases h

theorem changeMessage_alike (h : Alike d old g g') {pos : ℚ × ℚ} :
    Alike d old { g with
        lastKnownPositions := g.lastKnownPositions.insert id pos
        broadcasts := g.broadcasts ++ [changeMessage id p.position] }
      { g' with
        lastKnownPositions := g'.lastKnownPositions.insert id pos
        broadcasts := g'.broadcasts ++ [changeMessage id p.position] } :=
  { h with broadcasts := broadcasts_append h.broadcasts (.cons
      (.other _ fun c => by cases c <;> exact ⟨nofun, nofun⟩) .nil) }

theorem publishPosition_alike (h : Alike d old g g')
    (hready : ∀ p, g'.players[id]? = some p → Ready g g' id p) :
    Alike d old (g.publishPosition id) (g'.publishPosition id) ∧
      (id ∈ g'.players → (g.publishPosition id).lastKnownPositions[id]? =
        (g'.publishPosition id).lastKnownPositions[id]?) := by
  cases hp' : g'.players[id]? with
  | none =>
      rw [publishPosition_of_not_mem hp', publishPosition_of_not_mem (by rw [h.players, hp'])]
      exact ⟨h, fun hmem => by simp [ExtTreeMap.mem_iff_isSome_getElem?, hp'] at hmem⟩
  | some p =>
      have hp : g.players[id]? = some p := by rw [h.players, hp']
      refine ⟨?_, fun _ => ?_⟩
      · by_cases hknown : g'.Knows id p.position
        · rw [publishPosition_of_known hp' hknown,
            publishPosition_of_known hp ((hready p hp').knows_iff.mpr hknown)]
          exact h
        · rw [publishPosition_of_changed hp' hknown,
            publishPosition_of_changed hp fun hk => hknown ((hready p hp').knows_iff.mp hk)]
          exact changeMessage_alike h
      · rw [(publishPosition_self hp).2, (publishPosition_self hp').2]

theorem publishAll_alike {ids : List Nat} (h : Alike d old g g')
    (hready : ∀ id ∈ ids, ∀ p, g'.players[(id : Int)]? = some p → Ready g g' id p) :
    Alike d old (g.publishAll ids) (g'.publishAll ids) ∧
      ∀ id ∈ ids, (id : Int) ∈ g'.players → (g.publishAll ids).lastKnownPositions[(id : Int)]? =
        (g'.publishAll ids).lastKnownPositions[(id : Int)]? := by
  induction ids generalizing g g' with
  | nil => exact ⟨h, nofun⟩
  | cons k ids ih =>
      obtain ⟨hfirst, hsame⟩ := publishPosition_alike h (hready k List.mem_cons_self)
      have hmem : ∀ id : Int, id ∈ (g'.publishPosition k).players ↔ id ∈ g'.players := fun id => by
        rw [publishPosition_players]
      have hready' : ∀ id ∈ ids, ∀ p, (g'.publishPosition k).players[(id : Int)]? = some p →
          Ready (g.publishPosition k) (g'.publishPosition k) id p := by
        intro id hid p hp
        rw [publishPosition_players] at hp
        by_cases hk : (id : Int) = k
        · refine .inl ?_
          rw [hk] at hp ⊢
          exact hsame (ExtTreeMap.mem_iff_isSome_getElem?.mpr (Option.isSome_of_mem hp))
        · rw [Ready, Knows, (publishPosition_ne hk).2, (publishPosition_ne hk).2]
          exact hready id (List.mem_cons_of_mem _ hid) p hp
      obtain ⟨hrest, hsame'⟩ := ih hfirst hready'
      refine ⟨hrest, fun id hid hplayer => ?_⟩
      by_cases hin : id ∈ ids
      · exact hsame' id hin ((hmem id).mpr hplayer)
      · obtain rfl : id = k := (List.mem_cons.mp hid).resolve_right hin
        have hother : ∀ j ∈ ids, ((j : Nat) : Int) ≠ id := fun j hj heq =>
          hin (Int.ofNat_inj.mp heq ▸ hj)
        exact ((publishAll_of_not_mem hother).2.trans (hsame hplayer)).trans
          (publishAll_of_not_mem hother).2.symm

/-! ## Moves -/

/-- No player that is looked at tells the two tables apart: they agree about it, or it is where
it was put, the second one has not looked at it, and the first one knows no position that it
can have when it does. -/
def Synced (g g' : Game) : Prop :=
  ∀ (q : Int) (p : Player), g'.players[q]? = some p → 0 ≤ q → q < g'.players.size →
    g.lastKnownPositions[q]? = g'.lastKnownPositions[q]? ∨
      (g'.lastKnownPositions[q]? = none ∧ p.position = spawnPosition q ∧
        ∀ pos, FirstPosition q pos → ¬ g.Knows q pos)

theorem Synced.of_leavesInPlace {m' : Game} (h : Synced g g') (hplace : LeavesInPlace g' m')
    (htable : m.lastKnownPositions = g.lastKnownPositions)
    (htable' : m'.lastKnownPositions = g'.lastKnownPositions) : Synced m m' := by
  intro q p' hp' hq hlt
  obtain ⟨p, hp, hposition⟩ := hplace.position q p' hp'
  have hsize : m'.players.size ≤ g'.players.size := size_le_of_subset fun i hi => by
    obtain ⟨a, ha⟩ := Option.isSome_iff_exists.mp (ExtTreeMap.mem_iff_isSome_getElem?.mp hi)
    obtain ⟨b, hb, -⟩ := hplace.position i a ha
    exact ExtTreeMap.mem_iff_isSome_getElem?.mpr (Option.isSome_of_mem hb)
  simp only [Knows, htable, htable', hposition]
  exact h q p hp hq (by omega)

theorem movedPosition_cases (p : Player) (actionId : Int) :
    movedPosition p actionId = moveTarget p.position actionId ∨
      movedPosition p actionId = p.position := by
  by_cases h : p.registry.hasComponent .position p.entity = true
  · exact .inl (movedPosition_of_hasComponent h)
  · refine .inr ?_
    rw [movedPosition, Player.move, GameObject.position_move, if_neg h]

/-- The players that are looked at after a move. -/
theorem Synced.ready {actionId : Int} (h : Synced g g') (ha : 0 < actionId ∧ actionId < 5)
    (hp : g'.players[playerId]? = some p) {k : Nat} (hk : k < g'.players.size) {p' : Player}
    (hp' : (g'.movePlayer playerId actionId p.position).players[(k : Int)]? = some p') :
    Ready (g.movePlayer playerId actionId p.position) (g'.movePlayer playerId actionId p.position)
      k p' := by
  by_cases hself : (k : Int) = playerId
  · subst hself
    cases (getElem?_movePlayer_self hp).symm.trans hp'
    obtain hsame | ⟨hnone, hposition, hfirst⟩ := h k p hp (by omega) (by omega)
    · exact .inl hsame
    · refine .inr ⟨hnone, hfirst _ ?_⟩
      rcases movedPosition_cases p actionId with heq | heq
      · exact .inr ⟨actionId, ha.1, ha.2, by rw [← hposition]; exact heq⟩
      · exact .inl (heq.trans hposition)
  · rw [getElem?_movePlayer_ne hself] at hp'
    obtain hsame | ⟨hnone, hposition, hfirst⟩ := h k p' hp' (by omega) (by omega)
    · exact .inl hsame
    · exact .inr ⟨hnone, hfirst _ (.inl hposition)⟩

theorem handlePlayerMove_alike {actionId : Int} (ha : 0 < actionId ∧ actionId < 5)
    (h : Alike d old g g') (hs : Synced g g') :
    Agree (fun m m' => Alike d old m m' ∧ Synced m m') (g.handlePlayerMove playerId actionId)
      (g'.handlePlayerMove playerId actionId) := by
  cases hp' : g'.players[playerId]? with
  | none =>
      have hmem : playerId ∉ g'.players := by simp [ExtTreeMap.mem_iff_isSome_getElem?, hp']
      rw [handlePlayerMove_of_not_mem hmem, handlePlayerMove_of_not_mem (by rwa [h.players])]
      exact .error _
  | some p =>
      rw [handlePlayerMove_of_some hp', handlePlayerMove_of_some (by rw [h.players, hp'])]
      have hmoved : Alike d old (g.movePlayer playerId actionId p.position)
          (g'.movePlayer playerId actionId p.position) :=
        { h with players := by rw [movePlayer, movePlayer, h.players] }
      have hready : ∀ k ∈ List.range (g'.movePlayer playerId actionId p.position).players.size,
          ∀ p', (g'.movePlayer playerId actionId p.position).players[(k : Int)]? = some p' →
            Ready (g.movePlayer playerId actionId p.position)
              (g'.movePlayer playerId actionId p.position) k p' :=
        fun k hk p' => hs.ready ha hp' (by rwa [List.mem_range, size_movePlayer] at hk)
      obtain ⟨halike, hsame⟩ := publishAll_alike hmoved hready
      have hfactory : (g.movePlayer playerId actionId p.position).playerPacketFactory =
          (g.movePlayer playerId actionId p.position).publishAll
            (List.range (g'.movePlayer playerId actionId p.position).players.size) := by
        rw [playerPacketFactory, hmoved.players]
        rfl
      rw [hfactory]
      refine .ok ⟨halike, fun q p' hp' hq hlt => .inl ?_⟩
      obtain ⟨k, rfl⟩ := Int.eq_ofNat_of_zero_le hq
      have hmem := ExtTreeMap.mem_iff_isSome_getElem?.mpr (Option.isSome_of_mem hp')
      have hfactory' : (g'.movePlayer playerId actionId p.position).playerPacketFactory.players =
          (g'.movePlayer playerId actionId p.position).players := publishAll_players
      rw [hfactory'] at hmem hlt
      exact hsame k (List.mem_range.mpr (by omega)) hmem

/-! ## Calls -/

/-- Two games that go alike: their tables too are in step. -/
structure InStep (d : ObjectClass → Int) (old : List Message) (g g' : Game) : Prop extends
    Alike d old g g' where
  synced : Synced g g'

theorem table_rule : QuietRule fun g g' => g'.lastKnownPositions = g.lastKnownPositions where
  refl := fun _ => rfl
  trans := fun h h' => h'.trans h
  record := by
    rintro g g' heq
    rw [heq]
  report := fun _ _ _ => rfl
  spawnBullet := by
    intro g playerId g' h
    obtain rfl | ⟨player, bullet, -, -, rfl⟩ := spawnBullet_new h <;> rfl
  spawnNextEnemy := by
    intro g draw g' h
    obtain ⟨enemy, -, rfl⟩ := spawnEnemy_new h
    rfl
  spawnNextBoss := by
    intro g draw g' h
    obtain ⟨boss, -, rfl⟩ := spawnBoss_new h
    rfl

theorem spawnBullet_inStep (h : InStep d old g g') :
    Agree (InStep d old) (g.spawnBullet playerId) (g'.spawnBullet playerId) :=
  (spawnBullet_alike h.toAlike).of_ok fun _ _ hm hm' halike => ⟨halike,
    h.synced.of_leavesInPlace (spawnBullet_leavesInPlace hm') (table_rule.spawnBullet hm)
      (table_rule.spawnBullet hm')⟩

theorem applyPlayerAction_inStep {action : PlayerAction} (h : InStep d old g g') :
    Agree (fun r r' => InStep d old r.1 r'.1 ∧ r.2 = r'.2) (g.applyPlayerAction action)
      (g'.applyPlayerAction action) := by
  unfold applyPlayerAction
  split
  · rename_i hmove
    refine (handlePlayerMove_alike hmove h.toAlike h.synced).bind fun m m' h => ?_
    exact .ok ⟨⟨h.1, h.2⟩, rfl⟩
  · split
    · exact (spawnBullet_inStep h).bind fun m m' h => .ok ⟨h, rfl⟩
    · exact .ok ⟨h, rfl⟩

theorem applyPlayerActions_inStep {actions : List PlayerAction} (h : InStep d old g g') :
    Agree (fun r r' => InStep d old r.1 r'.1 ∧ r.2 = r'.2) (g.applyPlayerActions actions)
      (g'.applyPlayerActions actions) := by
  induction actions generalizing g g' with
  | nil => exact .ok ⟨h, rfl⟩
  | cons action rest ih =>
      refine (applyPlayerAction_inStep h).bind fun ⟨m, first⟩ ⟨m', first'⟩ ⟨h, hfirst⟩ => ?_
      refine (ih h).bind fun ⟨m, actions⟩ ⟨m', actions'⟩ ⟨h, hactions⟩ => ?_
      exact .ok ⟨h, congrArg₂ List.cons hfirst hactions⟩

theorem processPlayerActions_inStep (h : InStep d old g g') :
    Agree (InStep d old) g.processPlayerActions g'.processPlayerActions := by
  unfold processPlayerActions
  rw [h.playerActions]
  refine (applyPlayerActions_inStep h).bind fun ⟨m, actions⟩ ⟨m', actions'⟩ ⟨h, hactions⟩ => ?_
  have hend : InStep d old { m with playerActions := actions }
      { m' with playerActions := actions' } :=
    { h with playerActions := hactions, synced := h.synced }
  exact .ok hend

theorem addPlayerAction_inStep {actionId : Int} (h : InStep d old g g') :
    InStep d old (g.addPlayerAction playerId actionId) (g'.addPlayerAction playerId actionId) :=
  { h with
    playerActions := by rw [addPlayerAction, addPlayerAction, h.playerActions]
    synced := h.synced }

theorem deletePlayerAction_inStep (h : InStep d old g g') :
    InStep d old g.deletePlayerAction g'.deletePlayerAction :=
  { h with
    playerActions := by rw [deletePlayerAction, deletePlayerAction, h.playerActions]
    synced := h.synced }

theorem checkCollisions_inStep (hd : d .player = 0) (h : InStep d old g g') :
    InStep d old g.checkCollisions g'.checkCollisions := by
  have htable : ∀ g : Game, g.checkCollisions.lastKnownPositions = g.lastKnownPositions := by
    intro g
    rw [checkCollisions_eq, removeAll_eq]
    dsimp only [detectOutOfBounds]
    rw [detectAll_detected.frame]
  exact ⟨checkCollisions_alike hd h.toAlike,
    h.synced.of_leavesInPlace checkCollisions_leavesInPlace (htable g) (htable g')⟩

/-! ## Timers -/

/-- The timer of the call that a thread makes has run out. -/
def Fires (g : Game) (pc : ThreadPc) (now : Int) : Prop :=
  match pc with
  | .updateBullets => 16 ≤ elapsed (g.lastBulletUpdateTime.getD now) now nanosPerMilli
  | .updateEnemies => 16 ≤ elapsed (g.lastEnemyUpdateTime.getD now) now nanosPerMilli
  | .waveSystem => g.waveDue now = true
  | .updateUI => 1 ≤ elapsed (g.lastBroadcastTime.getD now) now nanosPerSecond
  | _ => False

/-- No player has come yet, and the first game knows no position that one can have. -/
structure Empty (g g' : Game) : Prop where
  players : g'.players = ∅
  table : g'.lastKnownPositions = ∅
  unseen : ∀ id, 0 ≤ id → ∀ pos, FirstPosition id pos → ¬ g.Knows id pos

theorem Empty.of_leavesInPlace {m' : Game} (h : Empty g g') (hplace : LeavesInPlace g' m')
    (htable : m.lastKnownPositions = g.lastKnownPositions)
    (htable' : m'.lastKnownPositions = g'.lastKnownPositions) : Empty m m' where
  players := by
    refine ExtTreeMap.eq_empty_iff_forall_not_mem.mpr fun i hi => ?_
    obtain ⟨a, ha⟩ := Option.isSome_iff_exists.mp (ExtTreeMap.mem_iff_isSome_getElem?.mp hi)
    obtain ⟨b, hb, -⟩ := hplace.position i a ha
    rw [h.players, ExtTreeMap.getElem?_empty] at hb
    cases hb
  table := htable'.trans h.table
  unseen := by
    intro id hid pos hpos
    rw [Knows, htable]
    exact h.unseen id hid pos hpos

theorem initializePlayers_inStep {numPlayers : Int} (hd : d .player = 0) (h : Alike d old g g')
    (hempty : Empty g g') :
    Agree (InStep d old) (g.initializePlayers numPlayers) (g'.initializePlayers numPlayers) := by
  refine (initializePlayers_alike hd h).of_ok fun m m' hm hm' halike => ⟨halike, ?_⟩
  intro q p hp hq _
  have hknows : m.Knows q = g.Knows q := by
    rw [initializePlayers_frame hm]
    rfl
  rw [hknows, initializePlayers_frame hm']
  refine .inr ⟨by rw [hempty.table, ExtTreeMap.getElem?_empty], ?_, hempty.unseen q hq⟩
  obtain ⟨p', hp', -⟩ | ⟨-, hposition⟩ := initializePlayers_player hm' hp
  · rw [hempty.players, ExtTreeMap.getElem?_empty] at hp'
    cases hp'
  · exact hposition

/-- A step that both threads take, each with its own clock. -/
theorem threadStep_inStep {t : Thread} {now now' : Int} {draws : Nat → Draw} {numClients : Nat}
    (hd : d .player = 0) (h : InStep d old g g') (ht : t.Looping)
    (hstart : t.pc = .initializePlayers → Empty g g')
    (hfires : g.Fires t.pc now ↔ g'.Fires t.pc now') :
    Agree (fun r r' => InStep d old r.1 r'.1 ∧ r.2 = r'.2)
      (g.threadStep t ⟨now, draws, numClients⟩) (g'.threadStep t ⟨now', draws, numClients⟩) := by
  obtain ⟨numPlayers, pc⟩ := t
  cases pc with
  | initializePlayers =>
      exact (initializePlayers_inStep hd h.toAlike (hstart rfl)).bind fun m m' h => .ok ⟨h, rfl⟩
  | processPlayerActions =>
      exact (processPlayerActions_inStep h).bind fun m m' h => .ok ⟨h, rfl⟩
  | deletePlayerAction => exact .ok ⟨deletePlayerAction_inStep h, rfl⟩
  | updateBullets =>
      refine .ok ⟨⟨updateBullets_alike h.toAlike hfires, ?_⟩, rfl⟩
      rw [updateBullets_frame, updateBullets_frame (g := g')]
      exact h.synced
  | updateEnemies =>
      refine .ok ⟨⟨updateEnemies_alike h.toAlike hfires, ?_⟩, rfl⟩
      rw [updateEnemies_frame, updateEnemies_frame (g := g')]
      exact h.synced
  | checkCollisions => exact .ok ⟨checkCollisions_inStep hd h, rfl⟩
  | waveSystem =>
      have hwave : Agree (InStep d old) (g.waveSystem now draws) (g'.waveSystem now' draws) :=
        (waveSystem_alike h.toAlike (Bool.eq_iff_iff.mpr hfires)).of_ok fun m m' hm hm' halike =>
          ⟨halike, h.synced.of_leavesInPlace (leavesInPlace_rule.waves.waveSystem hm')
            (table_rule.waves.waveSystem hm) (table_rule.waves.waveSystem hm')⟩
      exact hwave.bind fun m m' h => .ok ⟨h, rfl⟩
  | updateUI =>
      exact .ok ⟨⟨updateUI_alike h.toAlike hfires, h.synced.of_leavesInPlace
        (leavesInPlace_rule.waves.updateUI now') (table_rule.waves.updateUI now)
        (table_rule.waves.updateUI now')⟩, rfl⟩
  | checkPlayersAlive => exact absurd rfl ht.1
  | returned => exact absurd rfl ht.2

end Game

/-! ## The same game -/

/-- A renaming of the objects of a game. Players are never renamed. -/
structure Renaming (ρ : ObjectClass → Int → Int) : Prop where
  injective : ∀ c, Function.Injective (ρ c)
  player : ∀ i, ρ .player i = i

/-- The packets CREATE_* and CHANGE. -/
def PacketType.describes : PacketType → Bool
  | createPlayer | createEnemy | createBoss | createBullet | change => true
  | _ => false

/-- `g`, which has sent `earlier` before it is run again, and `g'` are the same up to a
renaming of their objects. -/
structure SameGame (ρ : ObjectClass → Int → Int) (earlier : List Message) (g g' : Game) : Prop where
  players : g.players = g'.players
  playerActions : g.playerActions = g'.playerActions
  currentWave : g.currentWave = g'.currentWave
  enemiesPerWave : g.enemiesPerWave = g'.enemiesPerWave
  bulletIdWhoShot : ∀ i playerId : Int, g.bulletIdWhoShot[i]? = some playerId ↔
    ∃ j, ρ .bullet j = i ∧ g'.bulletIdWhoShot[j]? = some playerId
  deadPlayers : g.deadPlayers = g'.deadPlayers.map (ρ .player)
  deadBullets : g.deadBullets = g'.deadBullets.map (ρ .bullet)
  deadEnemies : g.deadEnemies = g'.deadEnemies.map (ρ .enemy)
  deadBosses : g.deadBosses = g'.deadBosses.map (ρ .boss)
  packets : ∃ sent, g.broadcasts = earlier ++ sent ∧ List.Forall₂ (Renamed ρ)
    (sent.filter (·.type.describes)) (g'.broadcasts.filter (·.type.describes))

theorem Game.Alike.sameGame {d : ObjectClass → Int} {old : List Message} {g g' : Game}
    (hd : d .player = 0) (h : Game.Alike d old g g') : SameGame (fun c i => i + d c) old g g' where
  players := h.players
  playerActions := h.playerActions
  currentWave := h.currentWave
  enemiesPerWave := h.enemiesPerWave
  bulletIdWhoShot := by
    intro i playerId
    constructor
    · intro hi
      refine ⟨i - d .bullet, by omega, ?_⟩
      rwa [← h.bulletIdWhoShot, Int.sub_add_cancel]
    · rintro ⟨j, rfl, hj⟩
      rwa [h.bulletIdWhoShot]
  deadPlayers := by simp only [hd, Int.add_zero, List.map_id_fun', h.deadPlayers]; rfl
  deadBullets := h.deadBullets
  deadEnemies := h.deadEnemies
  deadBosses := h.deadBosses
  packets := by
    obtain ⟨sent, heq, hsent⟩ := h.broadcasts
    refine ⟨sent, heq, List.rel_filter (fun m m' hm => ?_) hsent⟩
    cases hm <;> rfl

/-! ## Two runs -/

/-- A game that is run again, and a new one. -/
structure Restart where
  again : GameRun
  fresh : GameRun

namespace Restart

/-- An event of both runs; a step reads the clock in each of them. -/
inductive Event where
  | step (nowAgain nowFresh : Int) (draws : Nat → Draw) (numClients : Nat)
  | addPlayerAction (playerId actionId : Int)
  | spawnBullet (playerId : Int)

def Event.again : Event → GameRun.Event
  | .step now _ draws numClients => .step ⟨now, draws, numClients⟩
  | .addPlayerAction playerId actionId => .addPlayerAction playerId actionId
  | .spawnBullet playerId => .spawnBullet playerId

def Event.fresh : Event → GameRun.Event
  | .step _ now draws numClients => .step ⟨now, draws, numClients⟩
  | .addPlayerAction playerId actionId => .addPlayerAction playerId actionId
  | .spawnBullet playerId => .spawnBullet playerId

/-- `run(numPlayers)` is called after `stop`, and on a new game. -/
def start (g : Game) (numPlayers : Int) : Restart :=
  ⟨.enter g.stop numPlayers, .enter .new numPlayers⟩

def step (s : Restart) (e : Event) : Restart := ⟨s.again.step e.again, s.fresh.step e.fresh⟩

/-- The timers that a step looks at have both run out, or neither has. -/
def SameFirings (s : Restart) (e : Event) : Prop :=
  match e with
  | .step now now' _ _ =>
    s.again.game.Fires s.again.thread.pc now ↔ s.fresh.game.Fires s.fresh.thread.pc now'
  | _ => True

/-- Both threads stand at the same place, and the games go alike. -/
structure Inv (d : ObjectClass → Int) (old : List Message) (s : Restart) : Prop where
  thread : s.again.thread = s.fresh.thread
  terminated : s.again.terminated = s.fresh.terminated
  looping : s.fresh.thread.Looping
  games : Game.InStep d old s.again.game s.fresh.game
  start : s.fresh.thread.pc = .initializePlayers → Game.Empty s.again.game s.fresh.game

variable {d : ObjectClass → Int} {old : List Message} {s : Restart} {e : Event}

theorem Inv.step (hd : d .player = 0) (hs : Inv d old s) (he : SameFirings s e) :
    Inv d old (s.step e) := by
  obtain ⟨⟨g, t, x⟩, ⟨g', t', x'⟩⟩ := s
  obtain ⟨hthread, hterminated, hlooping, hgames, hstart⟩ := hs
  dsimp only at hthread hterminated hlooping hgames hstart
  subst hthread hterminated
  cases x with
  | some exception => exact ⟨rfl, rfl, hlooping, hgames, hstart⟩
  | none =>
      cases e with
      | step now now' draws numClients =>
          have hagree : Agree _ (g.threadStep t ⟨now, draws, numClients⟩)
              (g'.threadStep t ⟨now', draws, numClients⟩) :=
            Game.threadStep_inStep hd hgames hlooping hstart he
          simp only [Restart.step, GameRun.step, Event.again, Event.fresh]
          generalize hx : g.threadStep t ⟨now, draws, numClients⟩ = x at hagree ⊢
          generalize hx' : g'.threadStep t ⟨now', draws, numClients⟩ = x' at hagree ⊢
          cases hagree with
          | error exception => exact ⟨rfl, rfl, hlooping, hgames, hstart⟩
          | @ok r r' h =>
              obtain ⟨hgames', hpc⟩ := h
              refine ⟨?_, rfl, hlooping.step hx', hgames', fun hinit => ?_⟩
              · exact congrArg (Thread.mk t.numPlayers) hpc
              · exact absurd hinit (Game.ne_initializePlayers_of_threadStep hx')
      | addPlayerAction playerId actionId =>
          refine ⟨rfl, rfl, hlooping, Game.addPlayerAction_inStep hgames, fun hinit => ?_⟩
          exact ⟨(hstart hinit).players, (hstart hinit).table, (hstart hinit).unseen⟩
      | spawnBullet playerId =>
          have hagree : Agree _ (g.spawnBullet playerId) (g'.spawnBullet playerId) :=
            Game.spawnBullet_inStep hgames
          simp only [Restart.step, GameRun.step, Event.again, Event.fresh]
          generalize hx : g.spawnBullet playerId = x at hagree ⊢
          generalize hx' : g'.spawnBullet playerId = x' at hagree ⊢
          cases hagree with
          | error exception => exact ⟨rfl, rfl, hlooping, hgames, hstart⟩
          | @ok m m' h =>
              refine ⟨rfl, rfl, hlooping, h, fun hinit => ?_⟩
              exact (hstart hinit).of_leavesInPlace (Game.spawnBullet_leavesInPlace hx')
                (Game.table_rule.spawnBullet hx) (Game.table_rule.spawnBullet hx')

end Restart

namespace Game

/-- Running the game again after `stop` is the same as running a new game, whatever the
inputs. -/
def RestartsFresh (g : Game) : Prop :=
  ∀ numPlayers es, EachStep Restart.step Restart.SameFirings (.start g numPlayers) es →
    ∃ ρ, Renaming ρ ∧ Always Restart.step
      (fun s => SameGame ρ g.broadcasts s.again.game s.fresh.game) (.start g numPlayers) es

/-- The fields that `stop` does not clear are as in a new game, and the table of published
positions knows no position that a new player can come to at its first appearance. -/
structure Clean (g : Game) : Prop where
  playerActions : g.playerActions = []
  currentWave : g.currentWave = 0
  enemiesPerWave : g.enemiesPerWave = 5
  bulletIdWhoShot : g.bulletIdWhoShot = ∅
  unseen : ∀ id, 0 ≤ id → ∀ pos, FirstPosition id pos → ¬ g.Knows id pos

variable {g g' : Game} {ρ : ObjectClass → Int → Int} {old : List Message} {m m' : Message}
  {q numPlayers playerId actionId : Int} {pos : Position}

theorem Clean.inv_start (hsound : g.Sound) (h : Clean g) :
    Restart.Inv g.nextId g.broadcasts (.start g numPlayers) where
  thread := rfl
  terminated := rfl
  looping := ⟨nofun, nofun⟩
  games :=
    { players := rfl
      playerActions := h.playerActions
      currentWave := h.currentWave
      enemiesPerWave := h.enemiesPerWave
      registry := hsound
      bullets := .empty
      enemies := .empty
      bosses := .empty
      bulletIdWhoShot := by
        rw [show (Restart.start g numPlayers).again.game.bulletIdWhoShot = ∅ from h.bulletIdWhoShot]
        exact .empty
      nextBulletId := (Int.zero_add _).symm
      enemyId := (Int.zero_add _).symm
      bossId := (Int.zero_add _).symm
      deadPlayers := rfl
      deadBullets := rfl
      deadEnemies := rfl
      deadBosses := rfl
      broadcasts := ⟨[], (List.append_nil _).symm, .nil⟩
      synced := fun q p hp => by
        rw [show (Restart.start g numPlayers).fresh.game.players = ∅ from rfl,
          ExtTreeMap.getElem?_empty] at hp
        cases hp }
  start := fun _ => ⟨rfl, rfl, h.unseen⟩

theorem Clean.restartsFresh (hsound : g.Sound) (h : Clean g) : g.RestartsFresh := by
  intro numPlayers es hfirings
  refine ⟨fun c i => i + g.nextId c, ⟨fun c => add_left_injective _, fun i => Int.add_zero i⟩, ?_⟩
  refine Always.mono (always_of_eachStep (h.inv_start hsound) (fun s e hs he => ?_) hfirings) ?_
  · exact hs.step rfl he
  · exact fun s hs => hs.games.toAlike.sameGame rfl

/-! ## The first move -/

theorem located_of_renamed (hρ : Renaming ρ) (h : Renamed ρ m m') : located q m = located q m' := by
  cases h with
  | other => rfl
  | object c type htype i f2 f3 f4 f5 =>
      cases c with
      | player => rw [hρ.player]
      | _ => rcases htype with rfl | rfl <;> rw [located_of_type, located_of_type] <;>
          exact ⟨nofun, nofun⟩

theorem located_of_not_describes (h : m.type.describes = false) : located q m = none := by
  refine located_of_type ⟨?_, ?_⟩ <;> rintro heq <;> rw [heq] at h <;> cases h

theorem filterMap_located {messages messages' : List Message} (hρ : Renaming ρ)
    (h : List.Forall₂ (Renamed ρ) messages messages') :
    messages.filterMap (located q) = messages'.filterMap (located q) := by
  induction h with
  | nil => rfl
  | cons hm _ ih => simp only [List.filterMap_cons, located_of_renamed hρ hm, ih]

/-- The positions of a player that the same games publish. -/
theorem located_of_sameGame (hρ : Renaming ρ) (h : SameGame ρ old g g') :
    g.broadcasts.filterMap (located q) =
      old.filterMap (located q) ++ g'.broadcasts.filterMap (located q) := by
  have hdescribes : ∀ messages : List Message,
      (messages.filter (·.type.describes)).filterMap (located q) =
        messages.filterMap (located q) := by
    intro messages
    rw [List.filterMap_filter]
    refine List.filterMap_congr fun m _ => ?_
    split
    · rfl
    · rename_i hm
      exact (located_of_not_describes (by simpa using hm)).symm
  obtain ⟨sent, heq, hsent⟩ := h.packets
  rw [heq, List.filterMap_append, ← hdescribes sent, filterMap_located hρ hsent, hdescribes]

/-- The first move of a game, after which the player `q` is looked at in the position `pos`. -/
structure FirstMove (q : Int) (pos : Position) (numPlayers playerId actionId : Int) : Prop where
  isMove : 0 < actionId ∧ actionId < 5
  playerId_mem : 0 ≤ playerId ∧ playerId < numPlayers
  mem : 0 ≤ q ∧ q < numPlayers
  position : pos = if playerId = q then moveTarget (spawnPosition q) actionId else spawnPosition q

theorem exists_firstMove (hq : 0 ≤ q) (h : FirstPosition q pos) :
    ∃ numPlayers playerId actionId, FirstMove q pos numPlayers playerId actionId := by
  obtain rfl | ⟨actionId, hpos, hlt, rfl⟩ := h
  · refine ⟨q + 2, q + 1, 1, by omega, by omega, by omega, ?_⟩
    rw [if_neg (by omega)]
  · exact ⟨q + 1, q, actionId, ⟨hpos, hlt⟩, by omega, by omega, (if_pos rfl).symm⟩

theorem initializePlayers_hasComponent (hplayers : g.players = ∅)
    (h : g.initializePlayers numPlayers = .ok g') :
    AllEntries (fun p : Player => p.registry.hasComponent .position p.entity = true)
      g'.players := by
  refine initializePlayers_rule (P := fun _ b => AllEntries (fun p : Player =>
    p.registry.hasComponent .position p.entity = true) b.players) h ?_ fun pre i b b' hb hspawn => ?_
  · rw [show ({ g with totalPlayers := numPlayers } : Game).players = ∅ from hplayers]
    exact .empty
  · obtain ⟨player, hp, score, hplayer, rfl⟩ := spawnPlayer_new hspawn
    obtain ⟨o, ho, hplayer⟩ := Fallible.bind_eq_ok.mp hplayer
    obtain rfl := Fallible.pure_eq_ok.mp hplayer
    exact (hb.insertIfNew (GameObject.hasComponent_new ho)).modify fun _ _ h => h

/-- The players of a game that has just been entered. -/
theorem initializePlayers_fresh (hplayers : g.players = ∅)
    (h : g.initializePlayers numPlayers = .ok g') :
    (∀ i, 0 ≤ i → i < numPlayers → ∃ p, g'.players[i]? = some p ∧ p.position = spawnPosition i) ∧
      ∀ i, i < numPlayers → i < g'.players.size := by
  have hmem : ∀ i, 0 ≤ i → i < numPlayers → i ∈ g'.players := fun i hi hlt =>
    ((initializePlayers_ok h).1 i).mpr (.inl ⟨hi, hlt⟩)
  refine ⟨fun i hi hlt => ?_, fun i hlt => ?_⟩
  · obtain ⟨p, hp⟩ := Option.isSome_iff_exists.mp
      (ExtTreeMap.mem_iff_isSome_getElem?.mp (hmem i hi hlt))
    obtain ⟨p', hp', -⟩ | ⟨-, hposition⟩ := initializePlayers_player h hp
    · rw [hplayers, ExtTreeMap.getElem?_empty] at hp'
      cases hp'
    · exact ⟨p, hp, hposition⟩
  · have hkeys : ((List.range numPlayers.toNat).map Int.ofNat).Nodup :=
      List.nodup_range.map fun a b => Int.ofNat.inj
    have := length_le_size hkeys fun k hk => by
      obtain ⟨j, hj, rfl⟩ := List.mem_map.mp hk
      rw [List.mem_range] at hj
      exact hmem j (by omega) (by omega)
    rw [List.length_map, List.length_range] at this
    omega

theorem processPlayerActions_of_move {p : Player} (hp : g.players[playerId]? = some p)
    (ha : 0 < actionId ∧ actionId < 5) (hactions : g.playerActions = [⟨playerId, actionId, false⟩]) :
    g.processPlayerActions = .ok
      { (g.movePlayer playerId actionId p.position).playerPacketFactory with
        playerActions := [⟨playerId, actionId, true⟩] } := by
  unfold processPlayerActions
  rw [hactions]
  simp only [applyPlayerActions, applyPlayerAction, if_pos ha, handlePlayerMove_of_some hp]
  rfl

/-- The first move publishes the position of `q`, unless the table already has it. -/
theorem processPlayerActions_firstMove (hmove : FirstMove q pos numPlayers playerId actionId)
    (hplayers : g.players = ∅) (hactions : g.playerActions = [])
    (h : g.initializePlayers numPlayers = .ok g') :
    ∃ m, (g'.addPlayerAction playerId actionId).processPlayerActions = .ok m ∧
      m.broadcasts.filterMap (located q) = g'.broadcasts.filterMap (located q) ++
        if ¬ g.Knows q pos then [pos.text] else [] := by
  obtain ⟨hfresh, hsize⟩ := initializePlayers_fresh hplayers h
  obtain ⟨p, hp, hposition⟩ := hfresh playerId hmove.playerId_mem.1 hmove.playerId_mem.2
  have hpending : (g'.addPlayerAction playerId actionId).playerActions =
      [⟨playerId, actionId, false⟩] := by
    rw [initializePlayers_frame h]
    simp [addPlayerAction, hactions]
  have hlooked : ∃ p', ((g'.addPlayerAction playerId actionId).movePlayer playerId actionId
      p.position).players[q]? = some p' ∧ p'.position = pos := by
    rw [hmove.position]
    split
    · rename_i heq
      subst heq
      refine ⟨_, getElem?_movePlayer_self hp, ?_⟩
      rw [← hposition]
      exact movedPosition_of_hasComponent (initializePlayers_hasComponent hplayers h playerId p hp)
    · rename_i hne
      obtain ⟨p', hp', hposition'⟩ := hfresh q hmove.mem.1 hmove.mem.2
      exact ⟨p', (getElem?_movePlayer_ne (Ne.symm hne)).trans hp', hposition'⟩
  obtain ⟨p', hp', rfl⟩ := hlooked
  refine ⟨_, processPlayerActions_of_move hp hmove.isMove hpending, ?_⟩
  refine (located_playerPacketFactory hp').trans ?_
  have htable : ((g'.addPlayerAction playerId actionId).movePlayer playerId actionId
      p.position).lastKnownPositions = g.lastKnownPositions := by
    rw [initializePlayers_frame h]
    rfl
  have hlt : q < (g'.addPlayerAction playerId actionId).players.size := hsize q hmove.mem.2
  rw [size_movePlayer, htable]
  simp only [hmove.mem.1, hlt, and_self, true_and]
  rfl

/-! ## Two runs with a first move -/

/-- `initializePlayers`, and the first move. -/
def firstMove (playerId actionId : Int) : List Restart.Event :=
  [.step 0 0 (GameRun.tickAt 0).draws 1, .addPlayerAction playerId actionId,
    .step 0 0 (GameRun.tickAt 0).draws 1]

theorem step_initializePlayers {tick : Tick} (h : g.initializePlayers numPlayers = .ok g') :
    (GameRun.enter g numPlayers).step (.step tick) =
      ⟨g', ⟨numPlayers, .processPlayerActions⟩, none⟩ := by
  have hstep : g.threadStep ⟨numPlayers, .initializePlayers⟩ tick =
      .ok (g', .processPlayerActions) := bind_eq_ok.mpr ⟨g', h, rfl⟩
  simp [GameRun.enter, GameRun.step, hstep]

theorem step_processPlayerActions {tick : Tick} (h : g.processPlayerActions = .ok g') :
    GameRun.step ⟨g, ⟨numPlayers, .processPlayerActions⟩, none⟩ (.step tick) =
      ⟨g', ⟨numPlayers, .deletePlayerAction⟩, none⟩ := by
  have hstep : g.threadStep ⟨numPlayers, .processPlayerActions⟩ tick =
      .ok (g', .deletePlayerAction) := bind_eq_ok.mpr ⟨g', h, rfl⟩
  simp [GameRun.step, hstep]

/-- No timer is looked at, and the run goes through these states. -/
theorem run_firstMove {m₁ m₂ m₁' m₂' : Game} (h₁ : g.stop.initializePlayers numPlayers = .ok m₁)
    (h₂ : (m₁.addPlayerAction playerId actionId).processPlayerActions = .ok m₂)
    (h₁' : new.initializePlayers numPlayers = .ok m₁')
    (h₂' : (m₁'.addPlayerAction playerId actionId).processPlayerActions = .ok m₂') :
    EachStep Restart.step Restart.SameFirings (.start g numPlayers)
        (firstMove playerId actionId) ∧
      ∀ P : Game → Game → Prop, Always Restart.step (fun s => P s.again.game s.fresh.game)
        (.start g numPlayers) (firstMove playerId actionId) → P m₁ m₁' ∧ P m₂ m₂' := by
  have hinit : ∀ now now' draws numClients, Restart.step (.start g numPlayers)
      (.step now now' draws numClients) = ⟨⟨m₁, ⟨numPlayers, .processPlayerActions⟩, none⟩,
        ⟨m₁', ⟨numPlayers, .processPlayerActions⟩, none⟩⟩ := fun _ _ _ _ =>
    congrArg₂ Restart.mk (step_initializePlayers h₁) (step_initializePlayers h₁')
  have hmove : ∀ now now' draws numClients,
      Restart.step ⟨⟨m₁.addPlayerAction playerId actionId, ⟨numPlayers, .processPlayerActions⟩, none⟩,
        ⟨m₁'.addPlayerAction playerId actionId, ⟨numPlayers, .processPlayerActions⟩, none⟩⟩
        (.step now now' draws numClients) = ⟨⟨m₂, ⟨numPlayers, .deletePlayerAction⟩, none⟩,
          ⟨m₂', ⟨numPlayers, .deletePlayerAction⟩, none⟩⟩ := fun _ _ _ _ =>
    congrArg₂ Restart.mk (step_processPlayerActions h₂) (step_processPlayerActions h₂')
  unfold firstMove
  refine ⟨⟨Iff.rfl, trivial, ?_, trivial⟩, fun P h => ?_⟩
  · rw [hinit]
    exact Iff.rfl
  · obtain ⟨-, hfirst, -, hlast⟩ := h
    rw [hinit] at hfirst hlast
    refine ⟨hfirst, ?_⟩
    have hadd : Restart.step ⟨⟨m₁, ⟨numPlayers, .processPlayerActions⟩, none⟩,
        ⟨m₁', ⟨numPlayers, .processPlayerActions⟩, none⟩⟩ (.addPlayerAction playerId actionId) =
          ⟨⟨m₁.addPlayerAction playerId actionId, ⟨numPlayers, .processPlayerActions⟩, none⟩,
            ⟨m₁'.addPlayerAction playerId actionId, ⟨numPlayers, .processPlayerActions⟩,
              none⟩⟩ := rfl
    rw [hadd, hmove] at hlast
    exact hlast

/-- A game that goes on like a new one has nothing left from before. -/
theorem RestartsFresh.clean (hsound : g.Sound) (h : g.RestartsFresh) : Clean g := by
  obtain ⟨ρ, -, hstart⟩ := h 0 [] trivial
  replace hstart := hstart.start
  refine ⟨hstart.playerActions, hstart.currentWave, hstart.enemiesPerWave, ?_, ?_⟩
  · refine ExtTreeMap.eq_empty_iff_forall_not_mem.mpr fun i hi => ?_
    obtain ⟨shooter, hshooter⟩ := Option.isSome_iff_exists.mp
      (ExtTreeMap.mem_iff_isSome_getElem?.mp hi)
    obtain ⟨j, -, hj⟩ := (hstart.bulletIdWhoShot i shooter).mp hshooter
    rw [show (Restart.start g 0).fresh.game.bulletIdWhoShot = ∅ from rfl,
      ExtTreeMap.getElem?_empty] at hj
    cases hj
  · intro q hq pos hpos hknows
    obtain ⟨numPlayers, playerId, actionId, hmove⟩ := exists_firstMove hq hpos
    obtain ⟨m₁, h₁⟩ := exists_initializePlayers (g := g.stop) hsound numPlayers
    obtain ⟨m₁', h₁'⟩ := exists_initializePlayers (g := new) rfl numPlayers
    have hpending : g.stop.playerActions = [] := hstart.playerActions
    obtain ⟨m₂, h₂, hsent⟩ := processPlayerActions_firstMove hmove rfl hpending h₁
    obtain ⟨m₂', h₂', hsent'⟩ := processPlayerActions_firstMove hmove rfl rfl h₁'
    obtain ⟨hfirings, hpoints⟩ := run_firstMove h₁ h₂ h₁' h₂'
    obtain ⟨ρ, hρ, hsame⟩ := h numPlayers (firstMove playerId actionId) hfirings
    obtain ⟨hfirst, hlast⟩ := hpoints _ hsame
    -- The old game does not publish the position, and the new one does.
    have hnew : ¬ new.Knows q pos := by simp [Knows, new]
    have hold : g.stop.Knows q pos := hknows
    rw [if_neg (not_not.mpr hold), List.append_nil, located_of_sameGame hρ hlast,
      located_of_sameGame hρ hfirst, hsent', if_pos hnew] at hsent
    have := congrArg List.length hsent
    simp at this

/-- Running a game again is like running a new one exactly when nothing is left that `stop`
does not clear. -/
theorem restartsFresh_iff (hg : g.Reachable) : g.RestartsFresh ↔ Clean g :=
  ⟨RestartsFresh.clean hg.sound, Clean.restartsFresh hg.sound⟩

/-- A game in which nobody has moved yet. -/
theorem restartsFresh_iff_entered :
    RestartsFresh (run GameRun.step (.enter new 2) [.step (GameRun.tickAt 0)]).game := by
  have hreachable : (run GameRun.step (.enter new 2) [.step (GameRun.tickAt 0)]).game.Reachable :=
    (GameRun.always_reachable .new).final
  refine (restartsFresh_iff hreachable).mpr ?_
  obtain ⟨g, hg⟩ := exists_initializePlayers (g := new) rfl 2
  rw [run_cons, run_nil, step_initializePlayers hg, initializePlayers_frame hg]
  refine ⟨rfl, rfl, rfl, rfl, fun id _ pos _ hknows => ?_⟩
  simp [Knows, new] at hknows

/-- A game with a move that has not been processed. -/
def pendingMove : Game :=
  (run GameRun.step (.enter new 2) [.step (GameRun.tickAt 0), .addPlayerAction 0 2]).game

theorem not_restartsFresh_pendingMove : pendingMove.Reachable ∧ ¬ pendingMove.RestartsFresh := by
  have hreachable : pendingMove.Reachable := (GameRun.always_reachable .new).final
  refine ⟨hreachable, fun h => ?_⟩
  have hpending : pendingMove.playerActions = [⟨0, 2, false⟩] := by decide +kernel
  rw [(h.clean hreachable.sound).playerActions] at hpending
  cases hpending

end Game

end BeeRType
