-- SUMMARY: The players whose positions are published as they are: those whose ids are below the number of players left.
import BeeRType.Base.Entries
import BeeRType.Game.Published
import BeeRType.Game.Reachable

/-!
# Placed players

`playerPacketFactory` looks at the ids below the number of players. Within one game this
number only falls. So a player below it has been looked at after every move, and the
position last published under its id is where it is.
-/

open Cpp Std

namespace BeeRType

/-- Both coordinates are whole numbers. -/
def Position.Whole (pos : Position) : Prop := (∃ n : ℤ, pos.x = n) ∧ ∃ n : ℤ, pos.y = n

/-- The position in `float`s. -/
def Position.asFloat (pos : Position) : Position := ⟨roundFloat pos.x, roundFloat pos.y⟩

theorem Position.Whole.asFloat_eq {pos : Position} (h : pos.Whole) (hx : |pos.x| ≤ 2 ^ 24)
    (hy : |pos.y| ≤ 2 ^ 24) : pos.asFloat = pos := by
  obtain ⟨x, y⟩ := pos
  obtain ⟨⟨m, rfl⟩, n, rfl⟩ := h
  dsimp only at hx hy
  have hm : |m| ≤ 2 ^ 24 := by exact_mod_cast hx
  have hn : |n| ≤ 2 ^ 24 := by exact_mod_cast hy
  rw [asFloat, roundFloat_intCast hm, roundFloat_intCast hn]

namespace Game

/-- What is published of the players below the number of players: the last packet has the
position, and so has the table, where it has one. -/
def Placed (g : Game) : Prop :=
  ∀ (q : Int) (p : Player), g.players[q]? = some p → 0 ≤ q → q < g.players.size →
    lastLocated q g.broadcasts = some p.position.text ∧
      ∀ known, g.lastKnownPositions[q]? = some known → known = (p.position.x, p.position.y)

variable {g g' : Game} {p : Player} {q playerId actionId : Int}

/-! ## The table -/

theorem lastKnownPositions_publishAll {ids : List Nat} {k : Nat} (hk : k ∈ ids)
    (hp : g.players[(k : Int)]? = some p) :
    (g.publishAll ids).lastKnownPositions[(k : Int)]? = some (p.position.x, p.position.y) := by
  induction ids generalizing g with
  | nil => cases hk
  | cons j ids ih =>
      by_cases hlater : k ∈ ids
      · refine ih (g := g.publishPosition j) hlater ?_
        rw [publishPosition_players]
        exact hp
      · obtain rfl := (List.mem_cons.mp hk).resolve_right hlater
        have hrest : ∀ i ∈ ids, ((i : Nat) : Int) ≠ k := by
          rintro i hi heq
          exact hlater (Int.ofNat_inj.mp heq ▸ hi)
        exact (publishAll_of_not_mem hrest).2.trans (publishPosition_self hp).2

/-- `playerPacketFactory` enters every player that it looks at. -/
theorem lastKnownPositions_playerPacketFactory (hp : g.players[q]? = some p) (hq : 0 ≤ q)
    (hlt : q < g.players.size) :
    g.playerPacketFactory.lastKnownPositions[q]? = some (p.position.x, p.position.y) := by
  obtain ⟨k, rfl⟩ := Int.eq_ofNat_of_zero_le hq
  exact lastKnownPositions_publishAll (List.mem_range.mpr (by omega)) hp

/-! ## What keeps players in place -/

/-- No player comes in. -/
theorem LeavesInPlace.size_players_le (h : LeavesInPlace g g') :
    g'.players.size ≤ g.players.size := by
  refine size_le_of_subset fun i hi => ?_
  rw [ExtTreeMap.mem_iff_isSome_getElem?, Option.isSome_iff_exists] at hi ⊢
  obtain ⟨o', ho'⟩ := hi
  obtain ⟨o, ho, -⟩ := h.position i o' ho'
  exact ⟨o, ho⟩

theorem LeavesInPlace.located (h : LeavesInPlace g g') (q : Int) :
    g'.broadcasts.filterMap (located q) = g.broadcasts.filterMap (located q) := by
  obtain ⟨messages, hmessages, hquiet⟩ := h.messages
  have hnone : messages.filterMap (BeeRType.located q) = [] :=
    List.filterMap_eq_nil_iff.mpr fun m hm => located_of_type (hquiet m hm)
  rw [hmessages, List.filterMap_append, hnone, List.append_nil]

namespace Placed

theorem of_leavesInPlace (hg : g.Placed) (h : LeavesInPlace g g')
    (hknown : g'.lastKnownPositions = g.lastKnownPositions) : g'.Placed := by
  intro q p' hp' hq hlt
  obtain ⟨p, hp, hposition⟩ := h.position q p' hp'
  have hsize := h.size_players_le
  rw [lastLocated_eq, h.located, ← lastLocated_eq, hknown, hposition]
  exact hg q p hp hq (by omega)

/-- A move is published if it has changed the position that the table has. -/
theorem handlePlayerMove (hg : g.Placed) (h : g.handlePlayerMove playerId actionId = .ok g') :
    g'.Placed := by
  obtain ⟨player, hplayer, rfl⟩ := handlePlayerMove_eq h
  intro q p hp hq hlt
  have hplayers : (g.movePlayer playerId actionId player.position).playerPacketFactory.players =
      (g.movePlayer playerId actionId player.position).players := publishAll_players
  rw [hplayers] at hp hlt
  have hknown := lastKnownPositions_playerPacketFactory hp hq hlt
  refine ⟨?_, fun known h => Option.some.inj (h.symm.trans hknown)⟩
  rw [lastLocated_playerPacketFactory hp]
  split
  · rfl
  · rename_i hunseen
    rw [size_movePlayer] at hlt
    have htable : g.lastKnownPositions[q]? = some (p.position.x, p.position.y) :=
      of_not_not fun hne => hunseen ⟨⟨hq, by rwa [size_movePlayer]⟩, hne⟩
    obtain ⟨old, hold⟩ : ∃ old, g.players[q]? = some old := by
      by_cases hself : q = playerId
      · exact ⟨player, by rw [hself, hplayer]⟩
      · exact ⟨p, by rwa [getElem?_movePlayer_ne hself] at hp⟩
    obtain ⟨hlast, hold⟩ := hg q old hold hq hlt
    have hsame := Prod.mk.inj (hold _ htable)
    refine hlast.trans ?_
    rw [Position.text, Position.text, hsame.1, hsame.2]

theorem checkCollisions (hg : g.Placed) : g.checkCollisions.Placed := by
  refine hg.of_leavesInPlace checkCollisions_leavesInPlace ?_
  rw [checkCollisions_eq, removeAll_eq]
  dsimp only [detectOutOfBounds]
  rw [detectAll_detected.frame]

end Placed

/-- Every call that is made while a game runs keeps this. -/
theorem placed_rule : Rule fun g g' => g.Placed → g'.Placed where
  refl := fun _ h => h
  trans := fun h h' hg => h' (h hg)
  record := fun heq hg => hg.of_leavesInPlace (leavesInPlace_rule.record heq) (by rw [heq])
  report := fun g messages hm hg => hg.of_leavesInPlace (leavesInPlace_rule.report g messages hm) rfl
  spawnBullet := by
    intro g playerId g' h hg
    refine hg.of_leavesInPlace (spawnBullet_leavesInPlace h) ?_
    obtain rfl | ⟨-, bullet, x, y, rfl⟩ := spawnBullet_ok h <;> rfl
  spawnNextEnemy := by
    intro g draw g' h hg
    refine hg.of_leavesInPlace (leavesInPlace_rule.spawnNextEnemy h) ?_
    obtain ⟨enemy, -, rfl⟩ := spawnEnemy_new h
    rfl
  spawnNextBoss := by
    intro g draw g' h hg
    refine hg.of_leavesInPlace (leavesInPlace_rule.spawnNextBoss h) ?_
    obtain ⟨boss, -, rfl⟩ := spawnBoss_new h
    rfl
  handlePlayerMove := fun h hg => hg.handlePlayerMove h
  moveBullets := fun _ hg => hg.of_leavesInPlace (.of_eq rfl rfl) rfl
  moveEnemies := fun _ hg => hg.of_leavesInPlace (.of_eq rfl rfl) rfl
  checkCollisions := fun _ hg => hg.checkCollisions

/-! ## Players that are overlooked -/

/-- An id that is not below the number of players stays so, and no position is published
for it. -/
def Overlooks (g g' : Game) : Prop :=
  ∀ q : Int, g.players.size ≤ q → g'.players.size ≤ q ∧
    g'.broadcasts.filterMap (located q) = g.broadcasts.filterMap (located q)

theorem LeavesInPlace.overlooks (h : LeavesInPlace g g') : Overlooks g g' := by
  intro q hq
  have hsize := h.size_players_le
  exact ⟨by omega, h.located q⟩

theorem handlePlayerMove_overlooks (h : g.handlePlayerMove playerId actionId = .ok g') :
    Overlooks g g' := by
  obtain ⟨player, -, rfl⟩ := handlePlayerMove_eq h
  intro q hq
  have hplayers : (g.movePlayer playerId actionId player.position).playerPacketFactory.players =
      (g.movePlayer playerId actionId player.position).players := publishAll_players
  refine ⟨by rwa [hplayers, size_movePlayer], (publishAll_of_not_mem fun k hk => ?_).1⟩
  rw [List.mem_range, size_movePlayer] at hk
  omega

theorem overlooks_rule : Rule Overlooks where
  refl := fun _ _ hq => ⟨hq, rfl⟩
  trans := by
    intro g m g' h h' q hq
    obtain ⟨hm, heq⟩ := h q hq
    obtain ⟨hg', heq'⟩ := h' q hm
    exact ⟨hg', heq'.trans heq⟩
  record := fun heq => (leavesInPlace_rule.record heq).overlooks
  report := fun g messages hm => (leavesInPlace_rule.report g messages hm).overlooks
  spawnBullet := fun h => (spawnBullet_leavesInPlace h).overlooks
  spawnNextEnemy := fun h => (leavesInPlace_rule.spawnNextEnemy h).overlooks
  spawnNextBoss := fun h => (leavesInPlace_rule.spawnNextBoss h).overlooks
  handlePlayerMove := handlePlayerMove_overlooks
  moveBullets := fun _ => LeavesInPlace.overlooks (.of_eq rfl rfl)
  moveEnemies := fun _ => LeavesInPlace.overlooks (.of_eq rfl rfl)
  checkCollisions := fun _ => checkCollisions_leavesInPlace.overlooks

/-! ## Whole numbers -/

theorem moveTarget_whole {current : Position} (h : current.Whole) (actionId : Int) :
    (moveTarget current actionId).Whole := by
  obtain ⟨⟨m, hm⟩, n, hn⟩ := h
  have hstep : ∃ k l : ℤ, moveStep actionId = ((k : ℚ), (l : ℚ)) := by
    unfold moveStep
    split
    · exact ⟨-20, 0, by simp⟩
    · exact ⟨20, 0, by simp⟩
    · exact ⟨0, -20, by simp⟩
    · exact ⟨0, 20, by simp⟩
    · exact ⟨0, 0, by simp⟩
  obtain ⟨k, l, hkl⟩ := hstep
  unfold moveTarget clampPositionToBounds
  rw [hkl, hm, hn]
  constructor
  · dsimp only
    split
    · exact ⟨0, by simp⟩
    · split
      · exact ⟨1195, by simp⟩
      · exact ⟨m + k, by push_cast; rfl⟩
  · dsimp only
    split
    · exact ⟨0, by simp⟩
    · split
      · exact ⟨630, by simp⟩
      · exact ⟨n + l, by push_cast; rfl⟩

/-- The screen is small enough for `float`. -/
theorem moveTarget_asFloat {current : Position} (h : current.Whole) (actionId : Int) :
    (moveTarget current actionId).asFloat = moveTarget current actionId := by
  refine (moveTarget_whole h actionId).asFloat_eq ?_ ?_
  · unfold moveTarget clampPositionToBounds
    dsimp only
    rw [abs_le]
    split_ifs <;> constructor <;> linarith
  · unfold moveTarget clampPositionToBounds
    dsimp only
    rw [abs_le]
    split_ifs <;> constructor <;> linarith

theorem whole_rule : Rule fun g g' =>
    AllEntries (fun p : Player => p.position.Whole) g.players →
      AllEntries (fun p : Player => p.position.Whole) g'.players :=
  playerPositions_rule fun _ actionId h => moveTarget_whole h actionId

theorem exact_rule : Rule fun g g' =>
    AllEntries (fun p : Player => p.position.Whole ∧ p.position.asFloat = p.position) g.players →
      AllEntries (fun p : Player => p.position.Whole ∧ p.position.asFloat = p.position) g'.players :=
  playerPositions_rule (P := fun pos => pos.Whole ∧ pos.asFloat = pos) fun _ actionId h =>
    ⟨moveTarget_whole h.1 actionId, moveTarget_asFloat h.1 actionId⟩

/-! ## The start of a game -/

/-- A new game that has put its players in has announced each of them where it is. -/
theorem initializePlayers_placed {numPlayers : Int} (h : new.initializePlayers numPlayers = .ok g) :
    g.Placed := by
  have hnone {q : Int} {p : Player} : new.players[q]? ≠ some p := by simp [new]
  have hpublished := initializePlayers_published (fun q p hp => absurd hp hnone)
    (fun q p hp => absurd hp hnone) h
  intro q p hp _ _
  refine ⟨hpublished q p hp, fun known hknown => ?_⟩
  rw [initializePlayers_frame h] at hknown
  simp [new] at hknown

theorem position_initializePlayers {numPlayers : Int} (h : new.initializePlayers numPlayers = .ok g)
    {i : Int} (hp : g.players[i]? = some p) :
    (0 ≤ i ∧ i < numPlayers) ∧ p.position = ⟨100 * (i + 1), 100⟩ := by
  have hmem : i ∈ g.players := ExtTreeMap.mem_iff_isSome_getElem?.mpr (Option.isSome_of_mem hp)
  rw [(initializePlayers_ok h).1] at hmem
  refine ⟨hmem.resolve_right (by simp [new]), ?_⟩
  obtain ⟨old, hold, -⟩ | ⟨-, hposition⟩ := initializePlayers_player h hp
  · simp [new] at hold
  · exact hposition

theorem initializePlayers_whole {numPlayers : Int} (h : new.initializePlayers numPlayers = .ok g) :
    AllEntries (fun p : Player => p.position.Whole) g.players := by
  intro i p hp
  rw [(position_initializePlayers h hp).2]
  exact ⟨⟨100 * (i + 1), by push_cast; rfl⟩, 100, by simp⟩

/-- So many players fit into the whole numbers of `float`. -/
theorem initializePlayers_exact {numPlayers : Int} (hn : numPlayers ≤ 167771)
    (h : new.initializePlayers numPlayers = .ok g) :
    AllEntries (fun p : Player => p.position.Whole ∧ p.position.asFloat = p.position) g.players := by
  intro i p hp
  have hwhole := initializePlayers_whole h i p hp
  obtain ⟨⟨hlow, hlt⟩, hposition⟩ := position_initializePlayers h hp
  have hlow' : (0 : ℚ) ≤ i := by exact_mod_cast hlow
  have hhigh : (i : ℚ) ≤ 167770 := by exact_mod_cast (by omega : i ≤ 167770)
  refine ⟨hwhole, hwhole.asFloat_eq ?_ ?_⟩ <;> rw [hposition, abs_le] <;> constructor <;>
    dsimp only <;> linarith

end Game

end BeeRType
