-- SUMMARY: What the functions of the game change: the success of spawning, and the effect of each function on the state.
import BeeRType.Game.Loop

/-!
# Effects of the game functions

For every function of the game, what a successful call has done to the state.
Later modules cite these and do not unfold the functions.
-/

open Cpp Std

namespace BeeRType

/-! ## Spawning -/

/-- A copy of the game's own registry always has a free entity. -/
theorem GameObject.exists_new {x y : ℚ} :
    ∃ o, GameObject.new (Game.registerComponents .new) x y = .ok o := by
  have hadd : ∃ r, ((Game.registerComponents .new).spawnEntity.2).addComponent Component.position
      (Game.registerComponents .new).spawnEntity.1 (⟨x, y⟩ : Position) = .ok r :=
    ⟨_, Registry.addComponent_eq_ok (a := .empty) rfl rfl⟩
  obtain ⟨r, hr⟩ := hadd
  dsimp only [GameObject.new]
  split
  · rename_i e he
    rw [hr] at he
    cases he
  · exact ⟨_, rfl⟩

namespace Game

/-- The game's registry is as the constructor has left it: objects are spawned
in copies of it. -/
def Sound (g : Game) : Prop := g.registry = registerComponents .new

variable {g g' : Game} {playerId id : Int} {x y : ℚ}

/-- `players.at` finds the player that has just been emplaced, or the one that was
there before. -/
theorem exists_spawnPlayer_iff :
    (∃ g', g.spawnPlayer playerId x y = .ok g') ↔ ∃ o, GameObject.new g.registry x y = .ok o := by
  constructor
  · rintro ⟨g', h⟩
    obtain ⟨player, hplayer, -⟩ := Fallible.bind_eq_ok.mp h
    obtain ⟨o, ho, -⟩ := Fallible.bind_eq_ok.mp hplayer
    exact ⟨o, ho⟩
  · rintro ⟨o, ho⟩
    refine Fallible.exists_bind ⟨{ o with hp := 0, score := 0 }, ?_⟩ fun player _ => ?_
    · rw [Player.new, ho]
      rfl
    · have hmem : playerId ∈ (g.players.insertIfNew playerId player).modify playerId fun p =>
          (p.updateHp 100).updateScore 0 :=
        ExtTreeMap.mem_modify.mpr ExtTreeMap.mem_insertIfNew_self
      obtain ⟨p, hp⟩ := Option.isSome_iff_exists.mp (ExtTreeMap.mem_iff_isSome_getElem?.mp hmem)
      simp only [hp]
      exact ⟨_, rfl⟩

theorem exists_spawnPlayer (hg : g.Sound) (playerId : Int) (x y : ℚ) :
    ∃ g', g.spawnPlayer playerId x y = .ok g' := by
  rw [exists_spawnPlayer_iff, hg]
  exact GameObject.exists_new

/-- The player that is in the map under the id afterwards is the one that was
there, or else the new one, with 100 hit points more. -/
theorem spawnPlayer_new (h : g.spawnPlayer playerId x y = .ok g') :
    ∃ player hp score, Player.new g.registry x y = .ok player ∧ g' = { g with
      players := (g.players.insertIfNew playerId player).modify playerId fun p =>
        (p.updateHp 100).updateScore 0
      broadcasts := g.broadcasts ++
        [⟨.createPlayer, ⟨toStringInt playerId, toStringFloat x, toStringFloat y, str "0", str "0"⟩⟩,
          ⟨.uiUpdate, ⟨toStringInt playerId, hp, score, str "0", str "0"⟩⟩] } := by
  obtain ⟨player, hplayer, h⟩ := Fallible.bind_eq_ok.mp h
  dsimp only at h
  split at h
  · cases h
  · rename_i p _
    obtain rfl := Fallible.pure_eq_ok.mp h
    refine ⟨player, toStringFloat p.hp, toStringFloat p.score, hplayer, ?_⟩
    simp only [broadcast, List.append_assoc, List.cons_append, List.nil_append]

theorem spawnPlayer_ok (h : g.spawnPlayer playerId x y = .ok g') :
    ∃ players hp score, (∀ i, i ∈ players ↔ i = playerId ∨ i ∈ g.players) ∧
      g' = { g with
        players := players
        broadcasts := g.broadcasts ++
          [⟨.createPlayer, ⟨toStringInt playerId, toStringFloat x, toStringFloat y, str "0", str "0"⟩⟩,
            ⟨.uiUpdate, ⟨toStringInt playerId, hp, score, str "0", str "0"⟩⟩] } := by
  obtain ⟨player, hp, score, -, rfl⟩ := spawnPlayer_new h
  refine ⟨_, hp, score, fun i => ?_, rfl⟩
  rw [ExtTreeMap.mem_modify, ExtTreeMap.mem_insertIfNew, Std.compare_eq_iff_eq, eq_comm]

/-- A player after a call of `spawnPlayer`: another one, the one that was there, or
a new one. -/
theorem getElem?_spawnPlayer {i : Int} {p : Player} (h : g.spawnPlayer playerId x y = .ok g')
    (hp : g'.players[i]? = some p) :
    (i ≠ playerId ∧ g.players[i]? = some p) ∨
      (i = playerId ∧ ∃ q, g.players[i]? = some q ∧ p = (q.updateHp 100).updateScore 0) ∨
      (i = playerId ∧ i ∉ g.players ∧ p.position = ⟨x, y⟩ ∧ p.hp = 100) := by
  obtain ⟨player, hp', score, hplayer, rfl⟩ := spawnPlayer_new h
  obtain ⟨o, ho, hplayer⟩ := Fallible.bind_eq_ok.mp hplayer
  obtain rfl := Fallible.pure_eq_ok.mp hplayer
  simp only [ExtTreeMap.getElem?_modify, ExtTreeMap.getElem?_insertIfNew, Std.compare_eq_iff_eq,
    true_and] at hp
  by_cases hi : playerId = i
  · subst hi
    rw [if_pos rfl, Option.map_eq_some_iff] at hp
    obtain ⟨q, hq, rfl⟩ := hp
    split at hq
    · rename_i hnew
      cases hq
      exact .inr (.inr ⟨rfl, hnew, (GameObject.new_ok ho).2.1,
        by norm_num [Player.updateHp, Player.updateScore]⟩)
    · exact .inr (.inl ⟨rfl, q, hq, rfl⟩)
  · rw [if_neg hi, if_neg (fun h => hi h.1)] at hp
    exact .inl ⟨Ne.symm hi, hp⟩

theorem exists_spawnBullet (hg : g.Sound) (playerId : Int) :
    ∃ g', g.spawnBullet playerId = .ok g' := by
  unfold spawnBullet
  split
  · exact ⟨g, rfl⟩
  · split
    · rw [hg]
      exact Fallible.exists_bind GameObject.exists_new fun bullet _ => ⟨_, rfl⟩
    · exact ⟨g, rfl⟩

/-- A bullet is spawned for a living player only, next to it. -/
theorem spawnBullet_new (h : g.spawnBullet playerId = .ok g') :
    g' = g ∨ ∃ player bullet, g.players[playerId]? = some player ∧
      Bullet.new g.registry (player.position.x + 50) (player.position.y + 25) = .ok bullet ∧
      g' = { g with
        bullets := g.bullets.insertIfNew g.nextBulletId bullet
        bulletIdWhoShot := g.bulletIdWhoShot.insert g.nextBulletId playerId
        nextBulletId := g.nextBulletId + 1
        broadcasts := g.broadcasts ++ [⟨.createBullet, ⟨toStringInt g.nextBulletId,
          toStringFloat (player.position.x + 50), toStringFloat (player.position.y + 25),
          str "5", str "0"⟩⟩] } := by
  unfold spawnBullet at h
  split at h
  · cases h
    exact .inl rfl
  · rename_i player hplayer
    split at h
    · obtain ⟨bullet, hbullet, h⟩ := Fallible.bind_eq_ok.mp h
      obtain rfl := Fallible.pure_eq_ok.mp h
      exact .inr ⟨player, bullet, hplayer, hbullet, rfl⟩
    · cases h
      exact .inl rfl

theorem spawnBullet_ok (h : g.spawnBullet playerId = .ok g') :
    g' = g ∨ playerId ∈ g.players ∧ ∃ bullet x y, g' = { g with
      bullets := g.bullets.insertIfNew g.nextBulletId bullet
      bulletIdWhoShot := g.bulletIdWhoShot.insert g.nextBulletId playerId
      nextBulletId := g.nextBulletId + 1
      broadcasts := g.broadcasts ++
        [⟨.createBullet, ⟨toStringInt g.nextBulletId, x, y, str "5", str "0"⟩⟩] } := by
  obtain rfl | ⟨player, bullet, hplayer, -, rfl⟩ := spawnBullet_new h
  · exact .inl rfl
  · refine .inr ⟨?_, bullet, _, _, rfl⟩
    rw [ExtTreeMap.mem_iff_isSome_getElem?, hplayer]
    rfl

theorem exists_spawnEnemy (hg : g.Sound) : ∃ g', g.spawnEnemy id x y = .ok g' := by
  rw [spawnEnemy, hg]
  exact Fallible.exists_bind GameObject.exists_new fun enemy _ => ⟨_, rfl⟩

theorem spawnEnemy_new (h : g.spawnEnemy id x y = .ok g') :
    ∃ enemy, Enemy.new g.registry 1000 y = .ok enemy ∧ g' = { g with
      enemies := g.enemies.insertIfNew id enemy
      broadcasts := g.broadcasts ++ [⟨.createEnemy,
        ⟨toStringInt id, toStringFloat 1000, toStringFloat y, str "-1", str "0"⟩⟩] } := by
  obtain ⟨enemy, henemy, h⟩ := Fallible.bind_eq_ok.mp h
  obtain rfl := Fallible.pure_eq_ok.mp h
  exact ⟨enemy, henemy, rfl⟩

theorem spawnEnemy_ok (h : g.spawnEnemy id x y = .ok g') :
    ∃ enemy payload, g' = { g with
      enemies := g.enemies.insertIfNew id enemy
      broadcasts := g.broadcasts ++ [⟨.createEnemy, payload⟩] } := by
  obtain ⟨enemy, -, rfl⟩ := spawnEnemy_new h
  exact ⟨enemy, _, rfl⟩

theorem exists_spawnBoss (hg : g.Sound) : ∃ g', g.spawnBoss id x y = .ok g' := by
  rw [spawnBoss, hg]
  exact Fallible.exists_bind GameObject.exists_new fun boss _ => ⟨_, rfl⟩

theorem spawnBoss_new (h : g.spawnBoss id x y = .ok g') :
    ∃ boss, Boss.new g.registry 1000 y = .ok boss ∧ g' = { g with
      bosses := g.bosses.insertIfNew id boss
      broadcasts := g.broadcasts ++ [⟨.createBoss,
        ⟨toStringInt id, toStringFloat 1000, toStringFloat y, str "-0.1", str "0"⟩⟩] } := by
  obtain ⟨boss, hboss, h⟩ := Fallible.bind_eq_ok.mp h
  obtain rfl := Fallible.pure_eq_ok.mp h
  exact ⟨boss, hboss, rfl⟩

theorem spawnBoss_ok (h : g.spawnBoss id x y = .ok g') :
    ∃ boss payload, g' = { g with
      bosses := g.bosses.insertIfNew id boss
      broadcasts := g.broadcasts ++ [⟨.createBoss, payload⟩] } := by
  obtain ⟨boss, -, rfl⟩ := spawnBoss_new h
  exact ⟨boss, _, rfl⟩

/-! ## Publishing positions -/

theorem publishPosition_eq (g : Game) (id : Int) :
    ∃ positions messages, (∀ m ∈ messages, m.type = PacketType.change) ∧
    g.publishPosition id = { g with
      lastKnownPositions := positions
      broadcasts := g.broadcasts ++ messages } := by
  unfold publishPosition hasPositionChanged
  split
  · exact ⟨g.lastKnownPositions, [], by simp, by simp⟩
  · split
    · rename_i hchanged
      split at hchanged
      · cases hchanged
      · cases hchanged
        exact ⟨_, [_], by simp, rfl⟩
    · rename_i hchanged
      split at hchanged
      · cases hchanged
        exact ⟨g.lastKnownPositions, [], by simp, by simp⟩
      · cases hchanged

theorem playerPacketFactory_eq : ∃ positions messages,
    (∀ m ∈ messages, m.type = PacketType.change) ∧
      g.playerPacketFactory = { g with
        lastKnownPositions := positions
        broadcasts := g.broadcasts ++ messages } := by
  unfold playerPacketFactory
  generalize List.range g.players.size = ids
  induction ids generalizing g with
  | nil => exact ⟨g.lastKnownPositions, [], by simp, by simp⟩
  | cons playerId ids ih =>
      obtain ⟨positions, messages, hmessages, heq⟩ := publishPosition_eq g playerId
      rw [List.foldl_cons, heq]
      obtain ⟨positions', messages', hmessages', heq'⟩ := ih (g := { g with
        lastKnownPositions := positions
        broadcasts := g.broadcasts ++ messages })
      refine ⟨positions', messages ++ messages', fun m hm => ?_, ?_⟩
      · exact (List.mem_append.mp hm).elim (hmessages m) (hmessages' m)
      · rw [heq', List.append_assoc]

/-! ## Player actions -/

/-- What applying player actions leaves as it is. -/
structure Acted (g g' : Game) : Prop where
  mem_players : ∀ i, i ∈ g'.players ↔ i ∈ g.players
  enemies : g'.enemies = g.enemies
  bosses : g'.bosses = g.bosses
  registry : g'.registry = g.registry
  enemiesPerWave : g'.enemiesPerWave = g.enemiesPerWave
  deadPlayers : g'.deadPlayers = g.deadPlayers

theorem Acted.refl : Acted g g := ⟨fun _ => Iff.rfl, rfl, rfl, rfl, rfl, rfl⟩

theorem Acted.trans {g'' : Game} (h : Acted g g') (h' : Acted g' g'') : Acted g g'' where
  mem_players i := (h'.mem_players i).trans (h.mem_players i)
  enemies := h'.enemies.trans h.enemies
  bosses := h'.bosses.trans h.bosses
  registry := h'.registry.trans h.registry
  enemiesPerWave := h'.enemiesPerWave.trans h.enemiesPerWave
  deadPlayers := h'.deadPlayers.trans h.deadPlayers

theorem spawnBullet_acted (h : g.spawnBullet playerId = .ok g') : Acted g g' := by
  obtain rfl | ⟨-, bullet, x, y, rfl⟩ := spawnBullet_ok h
  · exact .refl
  · exact ⟨fun _ => Iff.rfl, rfl, rfl, rfl, rfl, rfl⟩

/-- The exception of `getPlayerPosition`. -/
def invalidPlayerId : StdException := .outOfRange "Invalid player ID"

theorem getPlayerPosition_of_not_mem (h : playerId ∉ g.players) :
    g.getPlayerPosition playerId = .error invalidPlayerId := by
  rw [getPlayerPosition, ExtTreeMap.getElem?_eq_none h]
  rfl

theorem exists_getPlayerPosition (h : playerId ∈ g.players) :
    ∃ pos, g.getPlayerPosition playerId = .ok pos := by
  obtain ⟨p, hp⟩ := Option.isSome_iff_exists.mp (ExtTreeMap.mem_iff_isSome_getElem?.mp h)
  rw [getPlayerPosition, hp]
  exact ⟨_, rfl⟩

theorem handlePlayerMove_of_not_mem {actionId : Int} (h : playerId ∉ g.players) :
    g.handlePlayerMove playerId actionId = .error invalidPlayerId := by
  rw [handlePlayerMove, getPlayerPosition_of_not_mem h]
  rfl

theorem exists_handlePlayerMove {actionId : Int} (h : playerId ∈ g.players) :
    ∃ g', g.handlePlayerMove playerId actionId = .ok g' :=
  Fallible.exists_bind (exists_getPlayerPosition h) fun _ _ => ⟨_, rfl⟩

/-- Where an action leads from a position. -/
def moveTarget (current : Position) (actionId : Int) : Position :=
  let target := clampPositionToBounds (current.x + (moveStep actionId).1)
    (current.y + (moveStep actionId).2)
  ⟨target.1, target.2⟩

/-- The game after the player has been moved, before positions are published. -/
def movePlayer (g : Game) (playerId actionId : Int) (current : Position) : Game :=
  { g with
    players := g.players.modify playerId fun p =>
      p.move ((moveTarget current actionId).x - current.x)
        ((moveTarget current actionId).y - current.y) }

section MovePlayer

variable {actionId : Int} {current : Position}

theorem size_movePlayer : (g.movePlayer playerId actionId current).players.size = g.players.size :=
  ExtTreeMap.size_modify

theorem getElem?_movePlayer_self {player : Player} (h : g.players[playerId]? = some player) :
    (g.movePlayer playerId actionId current).players[playerId]? =
      some (player.move ((moveTarget current actionId).x - current.x)
        ((moveTarget current actionId).y - current.y)) := by
  rw [movePlayer, ExtTreeMap.getElem?_modify_self, h]
  rfl

theorem getElem?_movePlayer_ne {q : Int} (h : q ≠ playerId) :
    (g.movePlayer playerId actionId current).players[q]? = g.players[q]? := by
  rw [movePlayer, ExtTreeMap.getElem?_modify, if_neg]
  exact fun heq => h (Std.compare_eq_iff_eq.mp heq).symm

end MovePlayer

theorem handlePlayerMove_eq {actionId : Int} (h : g.handlePlayerMove playerId actionId = .ok g') :
    ∃ player, g.players[playerId]? = some player ∧
      g' = (g.movePlayer playerId actionId player.position).playerPacketFactory := by
  obtain ⟨current, hcurrent, h⟩ := Fallible.bind_eq_ok.mp h
  obtain rfl := Fallible.pure_eq_ok.mp h
  unfold getPlayerPosition at hcurrent
  split at hcurrent
  · cases hcurrent
  · rename_i player hplayer
    cases hcurrent
    exact ⟨player, hplayer, rfl⟩

theorem handlePlayerMove_of_some {p : Player} {actionId : Int}
    (hp : g.players[playerId]? = some p) :
    g.handlePlayerMove playerId actionId =
      .ok (g.movePlayer playerId actionId p.position).playerPacketFactory := by
  simp only [handlePlayerMove, getPlayerPosition, hp]
  rfl

/-- Moving a player: its new place in the map, and CHANGE packets. -/
theorem handlePlayerMove_new {actionId : Int} (h : g.handlePlayerMove playerId actionId = .ok g') :
    ∃ player positions messages, g.players[playerId]? = some player ∧
      (∀ m ∈ messages, m.type = PacketType.change) ∧
      g' = { g.movePlayer playerId actionId player.position with
        lastKnownPositions := positions
        broadcasts := g.broadcasts ++ messages } := by
  obtain ⟨player, hplayer, rfl⟩ := handlePlayerMove_eq h
  obtain ⟨positions, messages, hmessages, heq⟩ := playerPacketFactory_eq
  exact ⟨player, positions, messages, hplayer, hmessages, heq⟩

theorem handlePlayerMove_acted {actionId : Int} (h : g.handlePlayerMove playerId actionId = .ok g') :
    Acted g g' := by
  obtain ⟨player, positions, messages, -, -, rfl⟩ := handlePlayerMove_new h
  exact ⟨fun _ => ExtTreeMap.mem_modify, rfl, rfl, rfl, rfl, rfl⟩

/-- The action ids that `processPlayerActions` hands to `handlePlayerMove`. -/
def IsMove (action : PlayerAction) : Prop := 0 < action.actionId ∧ action.actionId < 5

instance (action : PlayerAction) : Decidable (IsMove action) :=
  inferInstanceAs (Decidable (_ ∧ _))

/-- Every queued move is of a player in the map. -/
def MovesKnown (g : Game) (actions : List PlayerAction) : Prop :=
  ∀ action ∈ actions, IsMove action → action.playerId ∈ g.players

theorem Acted.movesKnown {actions : List PlayerAction} (h : Acted g g') :
    g'.MovesKnown actions ↔ g.MovesKnown actions := by
  simp only [MovesKnown, h.mem_players]

theorem applyPlayerAction_acted {action action' : PlayerAction}
    (h : g.applyPlayerAction action = .ok (g', action')) : Acted g g' := by
  unfold applyPlayerAction at h
  split at h
  · obtain ⟨g₁, hmove, h⟩ := Fallible.bind_eq_ok.mp h
    cases Fallible.pure_eq_ok.mp h
    exact handlePlayerMove_acted hmove
  · split at h
    · obtain ⟨g₁, hshoot, h⟩ := Fallible.bind_eq_ok.mp h
      cases Fallible.pure_eq_ok.mp h
      exact spawnBullet_acted hshoot
    · cases h
      exact .refl

theorem exists_applyPlayerAction (hg : g.Sound) {action : PlayerAction}
    (h : IsMove action → action.playerId ∈ g.players) :
    ∃ r, g.applyPlayerAction action = .ok r := by
  unfold applyPlayerAction
  split
  · rename_i hmove
    exact Fallible.exists_bind (exists_handlePlayerMove (h hmove)) fun g' _ => ⟨_, rfl⟩
  · split
    · exact Fallible.exists_bind (exists_spawnBullet hg _) fun g' _ => ⟨_, rfl⟩
    · exact ⟨_, rfl⟩

theorem applyPlayerAction_of_not_mem {action : PlayerAction} (hmove : IsMove action)
    (h : action.playerId ∉ g.players) : g.applyPlayerAction action = .error invalidPlayerId := by
  unfold IsMove at hmove
  rw [applyPlayerAction, if_pos hmove, handlePlayerMove_of_not_mem h]
  rfl

/-- One round of the loop over the queued actions. -/
theorem applyPlayerActions_cons {action : PlayerAction} {rest actions' : List PlayerAction} :
    g.applyPlayerActions (action :: rest) = .ok (g', actions') ↔
      ∃ m action' rest', g.applyPlayerAction action = .ok (m, action') ∧
        m.applyPlayerActions rest = .ok (g', rest') ∧ actions' = action' :: rest' := by
  constructor
  · intro h
    obtain ⟨⟨m, action'⟩, hfirst, h⟩ := Fallible.bind_eq_ok.mp h
    obtain ⟨⟨_, rest'⟩, hrest, h⟩ := Fallible.bind_eq_ok.mp h
    cases Fallible.pure_eq_ok.mp h
    exact ⟨m, action', rest', hfirst, hrest, rfl⟩
  · rintro ⟨m, action', rest', hfirst, hrest, rfl⟩
    exact Fallible.bind_eq_ok.mpr
      ⟨(m, action'), hfirst, Fallible.bind_eq_ok.mpr ⟨(g', rest'), hrest, rfl⟩⟩

theorem applyPlayerActions_acted {actions actions' : List PlayerAction}
    (h : g.applyPlayerActions actions = .ok (g', actions')) : Acted g g' := by
  induction actions generalizing g actions' with
  | nil =>
      cases h
      exact .refl
  | cons action rest ih =>
      obtain ⟨g₁, action', rest', hfirst, hrest, rfl⟩ := applyPlayerActions_cons.mp h
      exact (applyPlayerAction_acted hfirst).trans (ih hrest)

/-- The loop over the queued actions throws exactly when one of them moves a
player that is not in the map. -/
theorem applyPlayerActions_cases (hg : g.Sound) (actions : List PlayerAction) :
    (g.MovesKnown actions ∧ ∃ r, g.applyPlayerActions actions = .ok r) ∨
      (¬ g.MovesKnown actions ∧ g.applyPlayerActions actions = .error invalidPlayerId) := by
  induction actions generalizing g with
  | nil => exact .inl ⟨by simp [MovesKnown], _, rfl⟩
  | cons action rest ih =>
      by_cases hfirst : IsMove action → action.playerId ∈ g.players
      · obtain ⟨⟨g₁, action'⟩, hstep⟩ := exists_applyPlayerAction hg hfirst
        have hacted := applyPlayerAction_acted hstep
        have hknown : g.MovesKnown (action :: rest) ↔ g₁.MovesKnown rest := by
          rw [hacted.movesKnown]
          simp only [MovesKnown, List.forall_mem_cons, and_iff_right hfirst]
        simp only [applyPlayerActions, hstep, Fallible.ok_bind, hknown]
        rcases ih (hacted.registry.trans hg) with ⟨hrest, r, hr⟩ | ⟨hrest, hr⟩
        · exact .inl ⟨hrest, by rw [hr]; exact ⟨_, rfl⟩⟩
        · exact .inr ⟨hrest, by rw [hr]; rfl⟩
      · obtain ⟨hmove, hmem⟩ := Classical.not_imp.mp hfirst
        refine .inr ⟨fun hknown => hmem (hknown action List.mem_cons_self hmove), ?_⟩
        rw [applyPlayerActions, applyPlayerAction_of_not_mem hmove hmem]
        rfl

theorem processPlayerActions_acted (h : g.processPlayerActions = .ok g') : Acted g g' := by
  obtain ⟨⟨g₁, actions⟩, hloop, h⟩ := Fallible.bind_eq_ok.mp h
  obtain rfl := Fallible.pure_eq_ok.mp h
  exact (applyPlayerActions_acted hloop).trans ⟨fun _ => Iff.rfl, rfl, rfl, rfl, rfl, rfl⟩

theorem processPlayerActions_cases (hg : g.Sound) :
    (g.MovesKnown g.playerActions ∧ ∃ g', g.processPlayerActions = .ok g') ∨
      (¬ g.MovesKnown g.playerActions ∧ g.processPlayerActions = .error invalidPlayerId) := by
  rcases applyPlayerActions_cases hg g.playerActions with ⟨hknown, r, hr⟩ | ⟨hknown, hr⟩
  · exact .inl ⟨hknown, by rw [processPlayerActions, hr]; exact ⟨_, rfl⟩⟩
  · exact .inr ⟨hknown, by rw [processPlayerActions, hr]; rfl⟩

/-! ## The loop -/

/-- The registry that objects are spawned from and the size of the next wave are
as before. -/
structure Keeps (g g' : Game) : Prop where
  registry : g'.registry = g.registry
  enemiesPerWave : g'.enemiesPerWave = g.enemiesPerWave

theorem Keeps.trans {m : Game} (h : Keeps g m) (h' : Keeps m g') : Keeps g g' :=
  ⟨h'.registry.trans h.registry, h'.enemiesPerWave.trans h.enemiesPerWave⟩

theorem Acted.keeps (h : Acted g g') : Keeps g g' := ⟨h.registry, h.enemiesPerWave⟩

theorem Detected.keeps (h : Detected g g') : Keeps g g' := ⟨h.registry, h.enemiesPerWave⟩

theorem detectOutOfBounds_keeps : Keeps g g.detectOutOfBounds := ⟨rfl, rfl⟩

theorem removeAll_keeps : Keeps g g.removeBullets.removeEnemies.removePlayers.removeBosses := by
  rw [removeAll_eq]
  exact ⟨rfl, rfl⟩

theorem checkCollisions_keeps : Keeps g g.checkCollisions := by
  rw [checkCollisions_eq]
  exact (detectAll_detected.keeps.trans detectOutOfBounds_keeps).trans removeAll_keeps

theorem exists_initializePlayers (hg : g.Sound) (numPlayers : Int) :
    ∃ g', g.initializePlayers numPlayers = .ok g' := by
  have hstep : ∀ g : Game, g.Sound → ∀ i ∈ List.range numPlayers.toNat,
      ∃ g', g.spawnPlayer (i : Nat) (100 * (i + 1)) 100 = .ok g' ∧ g'.Sound := by
    intro g hg i _
    obtain ⟨g', hg'⟩ := exists_spawnPlayer hg i (100 * (i + 1)) 100
    obtain ⟨_, _, _, _, rfl⟩ := spawnPlayer_ok hg'
    exact ⟨_, hg', hg⟩
  obtain ⟨g', hg', -⟩ := Fallible.foldlM_succeeds
    (b := { g with totalPlayers := numPlayers }) hg hstep
  exact ⟨g', hg'⟩

/-- The rule for the loop of `initializePlayers`: `P` relates the ids spawned so
far to the game. -/
theorem initializePlayers_rule {P : List Nat → Game → Prop} {numPlayers : Int}
    (h : g.initializePlayers numPlayers = .ok g') (hstart : P [] { g with totalPlayers := numPlayers })
    (hspawn : ∀ pre (i : Nat) b b', P pre b → b.spawnPlayer i (100 * (i + 1)) 100 = .ok b' →
      P (pre ++ [i]) b') : P (List.range numPlayers.toNat) g' :=
  Fallible.foldlM_ok hstart hspawn h

/-- `initializePlayers` spawns the players `0, .., numPlayers - 1`. -/
theorem initializePlayers_ok {numPlayers : Int} (h : g.initializePlayers numPlayers = .ok g') :
    (∀ i, i ∈ g'.players ↔ (0 ≤ i ∧ i < numPlayers) ∨ i ∈ g.players) ∧ Keeps g g' := by
  have hrun := initializePlayers_rule (P := fun pre b =>
    (∀ i, i ∈ b.players ↔ (∃ k ∈ pre, ((k : Nat) : Int) = i) ∨ i ∈ g.players) ∧ Keeps g b) h
    ⟨by simp, rfl, rfl⟩ ?_
  · refine ⟨fun i => ?_, hrun.2⟩
    rw [hrun.1]
    refine or_congr_left ⟨?_, fun hi => ⟨i.toNat, ?_, ?_⟩⟩
    · rintro ⟨k, hk, rfl⟩
      rw [List.mem_range] at hk
      omega
    · rw [List.mem_range]
      omega
    · omega
  · intro pre k b b' hb hspawn
    obtain ⟨players, hp, score, hmem, rfl⟩ := spawnPlayer_ok hspawn
    refine ⟨fun i => ?_, hb.2.registry, hb.2.enemiesPerWave⟩
    rw [hmem, hb.1]
    simp only [List.mem_append, List.mem_singleton, or_and_right, exists_or, exists_eq_left]
    rw [← or_assoc, or_comm (a := i = k), eq_comm]

/-- A player after `initializePlayers`: one that was there, or a new one in its
place. -/
theorem initializePlayers_player {numPlayers i : Int} {p : Player}
    (h : g.initializePlayers numPlayers = .ok g') (hp : g'.players[i]? = some p) :
    (∃ q, g.players[i]? = some q ∧ p.toGameObject = q.toGameObject) ∨
      (i ∉ g.players ∧ p.position = ⟨100 * (i + 1), 100⟩) := by
  have hrun := initializePlayers_rule (P := fun _ b => (∀ i ∈ g.players, i ∈ b.players) ∧
    ∀ i p, b.players[i]? = some p → (∃ q, g.players[i]? = some q ∧ p.toGameObject = q.toGameObject) ∨
      (i ∉ g.players ∧ p.position = ⟨100 * (i + 1), 100⟩)) h ?_ ?_
  · exact hrun.2 i p hp
  · exact ⟨fun _ hi => hi, fun i p hp => .inl ⟨p, hp, rfl⟩⟩
  · intro pre k b b' hb hspawn
    refine ⟨fun i hi => ?_, fun i p hp => ?_⟩
    · obtain ⟨players, hp, score, hmem, rfl⟩ := spawnPlayer_ok hspawn
      exact (hmem i).mpr (.inr (hb.1 i hi))
    · obtain ⟨-, hold⟩ | ⟨-, q, hold, rfl⟩ | ⟨rfl, hnew, hposition, -⟩ :=
        getElem?_spawnPlayer hspawn hp
      · exact hb.2 i p hold
      · exact hb.2 i q hold
      · exact .inr ⟨fun hi => hnew (hb.1 k hi), hposition.trans (by push_cast; rfl)⟩

/-! ## Waves -/

/-- What a wave leaves as it is. -/
structure Waved (g g' : Game) : Prop where
  players : g'.players = g.players
  bullets : g'.bullets = g.bullets
  registry : g'.registry = g.registry
  enemiesPerWave : g.enemiesPerWave ≤ g'.enemiesPerWave

namespace Waved

theorem refl : Waved g g := ⟨rfl, rfl, rfl, Int.le_refl _⟩

theorem trans {g'' : Game} (h : Waved g g') (h' : Waved g' g'') : Waved g g'' where
  players := h'.players.trans h.players
  bullets := h'.bullets.trans h.bullets
  registry := h'.registry.trans h.registry
  enemiesPerWave := h.enemiesPerWave.trans h'.enemiesPerWave

end Waved

theorem exists_spawnNextEnemy (hg : g.Sound) (draw : Draw) :
    ∃ g', g.spawnNextEnemy draw = .ok g' :=
  exists_spawnEnemy (g := { g with enemyId := g.enemyId + 1 }) hg

theorem spawnNextEnemy_ok {draw : Draw} (h : g.spawnNextEnemy draw = .ok g') :
    Waved g g' ∧ g'.enemies ≠ ∅ := by
  obtain ⟨enemy, payload, rfl⟩ := spawnEnemy_ok h
  exact ⟨⟨rfl, rfl, rfl, Int.le_refl _⟩, ExtTreeMap.insertIfNew_ne_empty⟩

theorem exists_spawnNextBoss (hg : g.Sound) {draw : Draw} : ∃ g', g.spawnNextBoss draw = .ok g' :=
  exists_spawnBoss (g := { g with bossId := g.bossId + 1 }) hg

theorem spawnNextBoss_ok {draw : Draw} (h : g.spawnNextBoss draw = .ok g') : Waved g g' := by
  obtain ⟨boss, payload, rfl⟩ := spawnBoss_ok h
  exact ⟨rfl, rfl, rfl, Int.le_refl _⟩

/-- A row of enemies, one for each of `ids`. -/
theorem exists_spawnEnemies (hg : g.Sound) (draws : Nat → Draw) (ids : List Nat) :
    ∃ g', ids.foldlM (fun g i => g.spawnNextEnemy (draws i)) g = .ok g' := by
  obtain ⟨g', hg', -⟩ := Fallible.foldlM_succeeds (l := ids) hg fun g hg i _ => by
    obtain ⟨g', hg'⟩ := exists_spawnNextEnemy hg (draws i)
    exact ⟨g', hg', (spawnNextEnemy_ok hg').1.registry.trans hg⟩
  exact ⟨g', hg'⟩

theorem spawnEnemies_ok (draws : Nat → Draw) {ids : List Nat}
    (h : ids.foldlM (fun g i => g.spawnNextEnemy (draws i)) g = .ok g') :
    Waved g g' ∧ (ids ≠ [] → g'.enemies ≠ ∅) := by
  refine Fallible.foldlM_ok (P := fun pre b => Waved g b ∧ (pre ≠ [] → b.enemies ≠ ∅))
    ⟨.refl, by simp⟩ (fun pre i b b' hb hspawn => ?_) h
  obtain ⟨hwaved, hne⟩ := spawnNextEnemy_ok hspawn
  exact ⟨hb.1.trans hwaved, fun _ => hne⟩

theorem exists_startNextWave (hg : g.Sound) {draws : Nat → Draw} :
    ∃ g', g.startNextWave draws = .ok g' :=
  Fallible.exists_bind (exists_spawnEnemies (g := { g with currentWave := g.currentWave + 1 })
    hg draws _) fun _ _ => ⟨_, rfl⟩

theorem startNextWave_ok {draws : Nat → Draw} (h : g.startNextWave draws = .ok g') :
    Waved g g' ∧ (0 < g.enemiesPerWave → g'.enemies ≠ ∅) := by
  obtain ⟨g₁, hrow, h⟩ := Fallible.bind_eq_ok.mp h
  obtain rfl := Fallible.pure_eq_ok.mp h
  obtain ⟨hwaved, hne⟩ := spawnEnemies_ok _ hrow
  refine ⟨⟨hwaved.players, hwaved.bullets, hwaved.registry, ?_⟩, fun hpos => hne ?_⟩
  · exact hwaved.enemiesPerWave.trans (by simp)
  · rw [Ne, List.range_eq_nil, Int.toNat_eq_zero]
    exact Int.not_le.mpr hpos

theorem exists_nextWave (hg : g.Sound) {draws : Nat → Draw} : ∃ g', g.nextWave draws = .ok g' := by
  unfold nextWave
  dsimp only
  split
  · refine Fallible.exists_bind
      (exists_spawnNextBoss (g := { g with currentWave := g.currentWave + 1 }) hg) fun g' hg' => ?_
    exact exists_spawnEnemies ((spawnNextBoss_ok hg').registry.trans hg) (fun i => draws (i + 1)) _
  · exact exists_startNextWave (g := { g with currentWave := g.currentWave + 1 }) hg

theorem nextWave_ok {draws : Nat → Draw} (h : g.nextWave draws = .ok g') :
    Waved g g' ∧ (0 < g.enemiesPerWave → g'.enemies ≠ ∅) := by
  have hstart : Waved g { g with currentWave := g.currentWave + 1 } := ⟨rfl, rfl, rfl, Int.le_refl _⟩
  unfold nextWave at h
  dsimp only at h
  split at h
  · obtain ⟨g₁, hboss, h⟩ := Fallible.bind_eq_ok.mp h
    obtain ⟨hwaved, hne⟩ := spawnEnemies_ok (fun i => draws (i + 1)) h
    exact ⟨hstart.trans ((spawnNextBoss_ok hboss).trans hwaved), fun _ => hne (by simp)⟩
  · obtain ⟨hwaved, hne⟩ := startNextWave_ok h
    exact ⟨hstart.trans hwaved, hne⟩

theorem exists_waveSystem (hg : g.Sound) (now : Int) (draws : Nat → Draw) :
    ∃ g', g.waveSystem now draws = .ok g' := by
  unfold waveSystem
  dsimp only
  split
  · exact Fallible.exists_bind (exists_nextWave (g := { g with
      lastWaveTime := some (g.lastWaveTime.getD now) }) hg) fun _ _ => ⟨_, rfl⟩
  · exact ⟨_, rfl⟩

theorem waveSystem_waved {now : Int} {draws : Nat → Draw} (h : g.waveSystem now draws = .ok g') :
    Waved g g' := by
  unfold waveSystem at h
  dsimp only at h
  split at h
  · obtain ⟨g₁, hwave, h⟩ := Fallible.bind_eq_ok.mp h
    obtain rfl := Fallible.pure_eq_ok.mp h
    have hwaved := (nextWave_ok hwave).1
    exact ⟨hwaved.players, hwaved.bullets, hwaved.registry, hwaved.enemiesPerWave⟩
  · cases h
    exact ⟨rfl, rfl, rfl, Int.le_refl _⟩

/-! ## The other sub-steps -/

/-- What the functions that run on a timer of their own leave as it is. -/
structure Timed (g g' : Game) : Prop where
  players : g'.players = g.players
  registry : g'.registry = g.registry
  enemiesPerWave : g'.enemiesPerWave = g.enemiesPerWave

theorem Timed.keeps (h : Timed g g') : Keeps g g' := ⟨h.registry, h.enemiesPerWave⟩

/-- `updateBullets` changes the bullets and the time of their last move. -/
theorem updateBullets_frame {now : Int} : g.updateBullets now = { g with
    bullets := (g.updateBullets now).bullets
    lastBulletUpdateTime := (g.updateBullets now).lastBulletUpdateTime } := by
  unfold updateBullets
  dsimp only
  split <;> rfl

theorem updateEnemies_frame {now : Int} : g.updateEnemies now = { g with
    enemies := (g.updateEnemies now).enemies
    bosses := (g.updateEnemies now).bosses
    lastEnemyUpdateTime := (g.updateEnemies now).lastEnemyUpdateTime } := by
  unfold updateEnemies
  dsimp only
  split <;> rfl

theorem updateBullets_timed {now : Int} : Timed g (g.updateBullets now) := by
  rw [updateBullets_frame]
  exact ⟨rfl, rfl, rfl⟩

theorem updateEnemies_timed {now : Int} : Timed g (g.updateEnemies now) := by
  rw [updateEnemies_frame]
  exact ⟨rfl, rfl, rfl⟩

theorem updateUI_timed {now : Int} : Timed g (g.updateUI now) := by
  unfold updateUI
  dsimp only
  split <;> exact ⟨rfl, rfl, rfl⟩

theorem checkPlayersAlive_keeps (g : Game) (numClients : Nat) :
    Keeps g (g.checkPlayersAlive numClients).2 := by
  unfold checkPlayersAlive
  dsimp only
  split <;> exact ⟨rfl, rfl⟩

/-! ## One step of a thread -/

/-- No step of a thread touches the registry that objects are spawned from, and
waves do not get smaller. -/
theorem threadStep_frame {t : Thread} {tick : Tick} {pc : ThreadPc}
    (h : g.threadStep t tick = .ok (g', pc)) :
    g'.registry = g.registry ∧ g.enemiesPerWave ≤ g'.enemiesPerWave := by
  have hkeeps : ∀ {g₁ : Game}, Keeps g g₁ →
      g₁.registry = g.registry ∧ g.enemiesPerWave ≤ g₁.enemiesPerWave :=
    fun hk => ⟨hk.registry, hk.enemiesPerWave.ge⟩
  unfold threadStep at h
  split at h
  · obtain ⟨g₁, h₁, h⟩ := Fallible.bind_eq_ok.mp h
    cases Fallible.pure_eq_ok.mp h
    exact hkeeps (initializePlayers_ok h₁).2
  · obtain ⟨g₁, h₁, h⟩ := Fallible.bind_eq_ok.mp h
    cases Fallible.pure_eq_ok.mp h
    exact hkeeps (processPlayerActions_acted h₁).keeps
  · cases h
    exact hkeeps ⟨rfl, rfl⟩
  · cases h
    exact hkeeps updateBullets_timed.keeps
  · cases h
    exact hkeeps updateEnemies_timed.keeps
  · cases h
    exact hkeeps checkCollisions_keeps
  · obtain ⟨g₁, h₁, h⟩ := Fallible.bind_eq_ok.mp h
    cases Fallible.pure_eq_ok.mp h
    exact ⟨(waveSystem_waved h₁).registry, (waveSystem_waved h₁).enemiesPerWave⟩
  · cases h
    exact hkeeps updateUI_timed.keeps
  · have halive := checkPlayersAlive_keeps g tick.numClients
    split at h <;> rename_i heq <;> cases h <;> rw [heq] at halive <;> exact hkeeps halive
  · cases h
    exact hkeeps ⟨rfl, rfl⟩

theorem threadStep_sound {t : Thread} {tick : Tick} {pc : ThreadPc} (hg : g.Sound)
    (h : g.threadStep t tick = .ok (g', pc)) : g'.Sound :=
  (threadStep_frame h).1.trans hg

/-- The only step of a thread that can throw is the loop over the queued
actions. -/
theorem exists_threadStep {t : Thread} {tick : Tick} (hg : g.Sound)
    (h : t.pc = .processPlayerActions → g.MovesKnown g.playerActions) :
    ∃ r, g.threadStep t tick = .ok r := by
  unfold threadStep
  split
  · exact Fallible.exists_bind (exists_initializePlayers hg _) fun _ _ => ⟨_, rfl⟩
  · rename_i hpc
    refine Fallible.exists_bind ?_ fun _ _ => ⟨_, rfl⟩
    exact (processPlayerActions_cases hg).elim (·.2) fun hunknown => absurd (h hpc) hunknown.1
  · exact ⟨_, rfl⟩
  · exact ⟨_, rfl⟩
  · exact ⟨_, rfl⟩
  · exact ⟨_, rfl⟩
  · exact Fallible.exists_bind (exists_waveSystem hg _ _) fun _ _ => ⟨_, rfl⟩
  · exact ⟨_, rfl⟩
  · split <;> exact ⟨_, rfl⟩
  · exact ⟨_, rfl⟩

theorem threadStep_of_unknown {t : Thread} {tick : Tick} (hg : g.Sound)
    (hpc : t.pc = .processPlayerActions) (h : ¬ g.MovesKnown g.playerActions) :
    g.threadStep t tick = .error invalidPlayerId := by
  have herror := (processPlayerActions_cases hg).elim (fun hknown => absurd hknown.1 h) (·.2)
  simp only [threadStep, hpc, herror]
  rfl

end Game

end BeeRType
