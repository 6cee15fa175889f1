-- SUMMARY: The member functions of a game as calls: histories of calls on one game, and the call that each step of a game thread is.
import BeeRType.Base.Entries
import BeeRType.Base.Transition
import BeeRType.Game.Effects
import BeeRType.Game.Objects

/-!
# Calls

A history of a game is a list of calls of its member functions, in any order. The
steps of a game thread are calls; what holds of a game after every call holds of
it whoever makes the calls.
-/

open Cpp Std Transition

namespace BeeRType

inductive Call where
  | addPlayerAction (playerId actionId : Int)
  | processPlayerActions
  | deletePlayerAction
  | handlePlayerMove (playerId actionId : Int)
  | spawnPlayer (playerId : Int) (x y : ℚ)
  | spawnBullet (playerId : Int)
  | spawnEnemy (enemyId : Int) (x y : ℚ)
  | spawnBoss (bossId : Int) (x y : ℚ)
  | killPlayers (entityId : Int)
  | killBullets (entityId : Int)
  | killEnemies (entityId : Int)
  | killBosses (entityId : Int)
  | killEntity (entityId : Int)
  | initializePlayers (numPlayers : Int)
  | updateBullets (now : Int)
  | updateEnemies (now : Int)
  | checkCollisions
  | waveSystem (now : Int) (draws : Nat → Draw)
  | updateUI (now : Int)
  | checkPlayersAlive (numClients : Nat)
  | stop

namespace Call

/-- The calls that spawn a single object. -/
def Spawns : Call → Prop
  | spawnPlayer .. | spawnBullet .. | spawnEnemy .. | spawnBoss .. => True
  | _ => False

/-- The kill functions. -/
def IsKill : Call → Prop
  | killPlayers .. | killBullets .. | killEnemies .. | killBosses .. | killEntity .. => True
  | _ => False

/-- The calls that are made while a game runs, from `initializePlayers` to `stop`. -/
def InGame : Call → Prop
  | addPlayerAction .. | processPlayerActions | deletePlayerAction | spawnBullet .. => True
  | updateBullets .. | updateEnemies .. | checkCollisions | waveSystem .. | updateUI .. => True
  | _ => False

/-- Those of them that move nothing. -/
def Quiet : Call → Prop
  | addPlayerAction .. | deletePlayerAction | spawnBullet .. | waveSystem .. | updateUI .. => True
  | _ => False

/-- Those of them that leave bullets, enemies and bosses where they are. -/
def Still : Call → Prop
  | addPlayerAction .. | processPlayerActions | deletePlayerAction | spawnBullet .. => True
  | waveSystem .. | updateUI .. => True
  | _ => False

theorem Still.inGame {c : Call} (h : c.Still) : c.InGame := by
  cases c <;> first | exact trivial | exact h.elim

end Call

namespace Game

def perform (g : Game) : Call → Except StdException Game
  | .addPlayerAction playerId actionId => .ok (g.addPlayerAction playerId actionId)
  | .processPlayerActions => g.processPlayerActions
  | .deletePlayerAction => .ok g.deletePlayerAction
  | .handlePlayerMove playerId actionId => g.handlePlayerMove playerId actionId
  | .spawnPlayer playerId x y => g.spawnPlayer playerId x y
  | .spawnBullet playerId => g.spawnBullet playerId
  | .spawnEnemy enemyId x y => g.spawnEnemy enemyId x y
  | .spawnBoss bossId x y => g.spawnBoss bossId x y
  | .killPlayers entityId => .ok (g.killPlayers entityId)
  | .killBullets entityId => .ok (g.killBullets entityId)
  | .killEnemies entityId => .ok (g.killEnemies entityId)
  | .killBosses entityId => .ok (g.killBosses entityId)
  | .killEntity entityId => .ok (g.killEntity entityId)
  | .initializePlayers numPlayers => g.initializePlayers numPlayers
  | .updateBullets now => .ok (g.updateBullets now)
  | .updateEnemies now => .ok (g.updateEnemies now)
  | .checkCollisions => .ok g.checkCollisions
  | .waveSystem now draws => g.waveSystem now draws
  | .updateUI now => .ok (g.updateUI now)
  | .checkPlayersAlive numClients => .ok (g.checkPlayersAlive numClients).2
  | .stop => .ok g.stop

end Game

/-! ## Histories -/

/-- A game, and the exception that one of the calls on it has thrown. -/
structure History where
  game : Game
  thrown : Option StdException

namespace History

def new : History := ⟨.new, none⟩

/-- The next call; there is none after an exception. -/
def step (s : History) (c : Call) : History :=
  if s.thrown.isSome then s
  else match s.game.perform c with
    | .ok game => { s with game := game }
    | .error e => { s with thrown := some e }

/-- What a call can come to. -/
theorem step_cases (s : History) (c : Call) :
    s.step c = s ∧ s.thrown.isSome = true ∨
    (∃ game, s.thrown = none ∧ s.game.perform c = .ok game ∧ s.step c = { s with game := game }) ∨
    ∃ e, s.thrown = none ∧ s.game.perform c = .error e ∧ s.step c = { s with thrown := some e } := by
  unfold step
  cases hthrown : s.thrown with
  | some e => exact .inl ⟨rfl, rfl⟩
  | none =>
      cases hcall : s.game.perform c with
      | ok game => exact .inr (.inl ⟨game, rfl, rfl, rfl⟩)
      | error e => exact .inr (.inr ⟨e, rfl, rfl, rfl⟩)

/-- What every call keeps, it keeps along every history. -/
theorem always_of_perform {I : Game → Prop} {calls : List Call} {s : History} (hs : I s.game)
    (hcall : ∀ g c g', I g → g.perform c = .ok g' → I g') :
    Always step (fun s => I s.game) s calls := by
  refine always_of_step hs fun s c hs => ?_
  obtain ⟨h, -⟩ | ⟨game, -, hok, h⟩ | ⟨e, -, -, h⟩ := s.step_cases c
  · rw [h]
    exact hs
  · rw [h]
    exact hcall s.game c game hs hok
  · rw [h]
    exact hs

end History

/-! ## Threads -/

/-- The call that a thread makes next. -/
def Thread.call (t : Thread) (tick : Tick) : Option Call :=
  match t.pc with
  | .initializePlayers => some (.initializePlayers t.numPlayers)
  | .processPlayerActions => some .processPlayerActions
  | .deletePlayerAction => some .deletePlayerAction
  | .updateBullets => some (.updateBullets tick.now)
  | .updateEnemies => some (.updateEnemies tick.now)
  | .checkCollisions => some .checkCollisions
  | .waveSystem => some (.waveSystem tick.now tick.draws)
  | .updateUI => some (.updateUI tick.now)
  | .checkPlayersAlive => some (.checkPlayersAlive tick.numClients)
  | .returned => none

namespace Game

variable {g g' : Game} {t : Thread} {tick : Tick} {pc : ThreadPc}

/-- A step of a thread is the call that it makes, if it makes one. -/
theorem threadStep_call (h : g.threadStep t tick = .ok (g', pc)) :
    match t.call tick with
    | some c => g.perform c = .ok g'
    | none => g' = g := by
  obtain ⟨n, start⟩ := t
  cases start with
  | initializePlayers =>
      obtain ⟨g₁, h₁, h⟩ := Fallible.bind_eq_ok.mp h
      cases Fallible.pure_eq_ok.mp h
      exact h₁
  | processPlayerActions =>
      obtain ⟨g₁, h₁, h⟩ := Fallible.bind_eq_ok.mp h
      cases Fallible.pure_eq_ok.mp h
      exact h₁
  | waveSystem =>
      obtain ⟨g₁, h₁, h⟩ := Fallible.bind_eq_ok.mp h
      cases Fallible.pure_eq_ok.mp h
      exact h₁
  | checkPlayersAlive =>
      simp only [threadStep] at h
      split at h <;> rename_i heq <;> cases h <;> exact congrArg (Except.ok ·.2) heq
  | deletePlayerAction => cases h; rfl
  | updateBullets => cases h; rfl
  | updateEnemies => cases h; rfl
  | checkCollisions => cases h; rfl
  | updateUI => cases h; rfl
  | returned => cases h; rfl

/-- A call that a thread makes and that does not throw is a step of the thread. -/
theorem exists_threadStep_of_call {c : Call} (hc : t.call tick = some c)
    (h : g.perform c = .ok g') : ∃ pc, g.threadStep t tick = .ok (g', pc) := by
  obtain ⟨n, start⟩ := t
  cases start with
  | initializePlayers =>
      cases hc
      exact ⟨_, Fallible.bind_eq_ok.mpr ⟨g', h, rfl⟩⟩
  | processPlayerActions =>
      cases hc
      exact ⟨_, Fallible.bind_eq_ok.mpr ⟨g', h, rfl⟩⟩
  | waveSystem =>
      cases hc
      exact ⟨_, Fallible.bind_eq_ok.mpr ⟨g', h, rfl⟩⟩
  | checkPlayersAlive =>
      cases hc
      cases h
      simp only [threadStep]
      split <;> rename_i heq <;> exact ⟨_, by rw [heq]⟩
  | deletePlayerAction => cases hc; cases h; exact ⟨_, rfl⟩
  | updateBullets => cases hc; cases h; exact ⟨_, rfl⟩
  | updateEnemies => cases hc; cases h; exact ⟨_, rfl⟩
  | checkCollisions => cases hc; cases h; exact ⟨_, rfl⟩
  | updateUI => cases hc; cases h; exact ⟨_, rfl⟩
  | returned => cases hc

theorem call_cases {c : Call} (h : t.call tick = some c) :
    c.InGame ∨ (∃ numPlayers, c = .initializePlayers numPlayers) ∨
      ∃ numClients, c = .checkPlayersAlive numClients := by
  unfold Thread.call at h
  split at h <;> cases h
  · exact .inr (.inl ⟨_, rfl⟩)
  all_goals first | exact .inl trivial | exact .inr (.inr ⟨_, rfl⟩)

/-- The registry that objects are spawned from is not touched while a game runs. -/
theorem registry_perform {c : Call} (hc : c.InGame) (h : g.perform c = .ok g') :
    g'.registry = g.registry := by
  cases c with
  | addPlayerAction playerId actionId => cases h; rfl
  | processPlayerActions => exact (processPlayerActions_acted h).registry
  | deletePlayerAction => cases h; rfl
  | spawnBullet playerId => exact (spawnBullet_acted h).registry
  | updateBullets now => cases h; exact updateBullets_timed.registry
  | updateEnemies now => cases h; exact updateEnemies_timed.registry
  | checkCollisions => cases h; exact checkCollisions_keeps.registry
  | waveSystem now draws => exact (waveSystem_waved h).registry
  | updateUI now => cases h; exact updateUI_timed.registry
  | _ => exact hc.elim

/-- The kill functions take players and bullets away, and announce it. -/
theorem kill_frame {c : Call} (h : g.perform c = .ok g') (hc : c.IsKill) : g' = { g with
    players := g'.players
    bullets := g'.bullets
    registry := g'.registry
    broadcasts := g'.broadcasts } := by
  cases c with
  | killPlayers entityId =>
      cases h
      unfold killPlayers
      split <;> rfl
  | killBullets entityId =>
      cases h
      unfold killBullets
      split <;> rfl
  | killEnemies entityId =>
      cases h
      unfold killEnemies
      split <;> rfl
  | killBosses entityId =>
      cases h
      unfold killBosses
      split <;> rfl
  | killEntity entityId =>
      cases h
      unfold killEntity killBullets killPlayers
      split <;> split <;> rfl
  | _ => exact hc.elim

/-! ## The rule for calls -/

/-- A relation that holds across the work that moves nothing. -/
structure QuietRule (R : Game → Game → Prop) : Prop where
  refl : ∀ g, R g g
  trans : ∀ {g m g'}, R g m → R m g' → R g g'
  /-- The fields that steer the game and are not part of any object or packet. -/
  record : ∀ {g g'}, g' = { g with
    playerActions := g'.playerActions
    currentWave := g'.currentWave
    enemiesPerWave := g'.enemiesPerWave
    lastWaveTime := g'.lastWaveTime
    lastBroadcastTime := g'.lastBroadcastTime
    lastBulletUpdateTime := g'.lastBulletUpdateTime
    lastEnemyUpdateTime := g'.lastEnemyUpdateTime } → R g g'
  report : ∀ g messages, (∀ m ∈ messages, m.type = PacketType.uiUpdate) →
    R g { g with broadcasts := g.broadcasts ++ messages }
  spawnBullet : ∀ {g playerId g'}, g.spawnBullet playerId = .ok g' → R g g'
  spawnNextEnemy : ∀ {g draw g'}, g.spawnNextEnemy draw = .ok g' → R g g'
  spawnNextBoss : ∀ {g draw g'}, g.spawnNextBoss draw = .ok g' → R g g'

/-- A relation that holds across the work that leaves bullets, enemies and bosses
where they are. -/
structure StillRule (R : Game → Game → Prop) : Prop extends QuietRule R where
  handlePlayerMove : ∀ {g playerId actionId g'}, g.handlePlayerMove playerId actionId = .ok g' →
    R g g'

/-- A relation that holds across every piece of work that a call made while a game
runs is put together from. -/
structure Rule (R : Game → Game → Prop) : Prop extends StillRule R where
  moveBullets : ∀ g : Game, R g { g with bullets := g.bullets.map fun _ bullet => bullet.move 5 0 }
  moveEnemies : ∀ g : Game, R g { g with
    enemies := g.enemies.map fun _ enemy => enemy.move (-1) 0
    bosses := g.bosses.map fun _ boss => boss.move (-1 / 10) 0 }
  checkCollisions : ∀ g, R g g.checkCollisions

/-- A relation that holds across the work that spawns waves and reports to the
clients. -/
structure WaveRule (R : Game → Game → Prop) : Prop where
  refl : ∀ g, R g g
  trans : ∀ {g m g'}, R g m → R m g' → R g g'
  record : ∀ {g g'}, g' = { g with
    playerActions := g'.playerActions
    currentWave := g'.currentWave
    enemiesPerWave := g'.enemiesPerWave
    lastWaveTime := g'.lastWaveTime
    lastBroadcastTime := g'.lastBroadcastTime
    lastBulletUpdateTime := g'.lastBulletUpdateTime
    lastEnemyUpdateTime := g'.lastEnemyUpdateTime } → R g g'
  report : ∀ g messages, (∀ m ∈ messages, m.type = PacketType.uiUpdate) →
    R g { g with broadcasts := g.broadcasts ++ messages }
  spawnNextEnemy : ∀ {g draw g'}, g.spawnNextEnemy draw = .ok g' → R g g'
  spawnNextBoss : ∀ {g draw g'}, g.spawnNextBoss draw = .ok g' → R g g'

namespace WaveRule

variable {R : Game → Game → Prop} (hR : WaveRule R)

include hR

theorem spawnEnemies {draws : Nat → Draw} {ids : List Nat}
    (h : ids.foldlM (fun g i => g.spawnNextEnemy (draws i)) g = .ok g') : R g g' :=
  Fallible.foldlM_ok (P := fun _ b => R g b) (hR.refl g)
    (fun _ _ _ _ hb hspawn => hR.trans hb (hR.spawnNextEnemy hspawn)) h

theorem startNextWave {draws : Nat → Draw} (h : g.startNextWave draws = .ok g') : R g g' := by
  obtain ⟨g₁, hrow, h⟩ := Fallible.bind_eq_ok.mp h
  obtain rfl := Fallible.pure_eq_ok.mp h
  refine hR.trans (m := { g with currentWave := g.currentWave + 1 }) (hR.record rfl) ?_
  exact hR.trans (hR.spawnEnemies hrow) (hR.record rfl)

theorem nextWave {draws : Nat → Draw} (h : g.nextWave draws = .ok g') : R g g' := by
  refine hR.trans (m := { g with currentWave := g.currentWave + 1 }) (hR.record rfl) ?_
  unfold Game.nextWave at h
  dsimp only at h
  split at h
  · obtain ⟨g₁, hboss, h⟩ := Fallible.bind_eq_ok.mp h
    exact hR.trans (hR.spawnNextBoss hboss) (hR.spawnEnemies h)
  · exact hR.startNextWave h

theorem waveSystem {now : Int} {draws : Nat → Draw} (h : g.waveSystem now draws = .ok g') :
    R g g' := by
  refine hR.trans (m := { g with lastWaveTime := some (g.lastWaveTime.getD now) })
    (hR.record rfl) ?_
  unfold Game.waveSystem at h
  dsimp only at h
  split at h
  · obtain ⟨g₁, hwave, h⟩ := Fallible.bind_eq_ok.mp h
    obtain rfl := Fallible.pure_eq_ok.mp h
    exact hR.trans (hR.nextWave hwave) (hR.record rfl)
  · cases h
    exact hR.refl _

theorem updateUI (now : Int) : R g (g.updateUI now) := by
  unfold Game.updateUI
  dsimp only
  split
  · refine hR.trans (hR.report g _ fun m hm => ?_) (hR.record rfl)
    obtain ⟨p, -, rfl⟩ := List.mem_map.mp hm
    rfl
  · exact hR.record rfl

end WaveRule

namespace QuietRule

variable {R : Game → Game → Prop} (hR : QuietRule R)

include hR

theorem waves : WaveRule R where
  refl := hR.refl
  trans := hR.trans
  record := hR.record
  report := hR.report
  spawnNextEnemy := hR.spawnNextEnemy
  spawnNextBoss := hR.spawnNextBoss

/-- The relation holds across every call that moves nothing. -/
theorem perform {c : Call} (hc : c.Quiet) (h : g.perform c = .ok g') : R g g' := by
  cases c with
  | addPlayerAction playerId actionId =>
      cases h
      exact hR.record rfl
  | deletePlayerAction =>
      cases h
      exact hR.record rfl
  | spawnBullet playerId => exact hR.spawnBullet h
  | waveSystem now draws => exact hR.waves.waveSystem h
  | updateUI now =>
      cases h
      exact hR.waves.updateUI now
  | _ => exact hc.elim

end QuietRule

/-- A relation that holds across the work that queued actions ask for. -/
structure ActionRule (R : Game → Game → Prop) : Prop where
  refl : ∀ g, R g g
  trans : ∀ {g m g'}, R g m → R m g' → R g g'
  handlePlayerMove : ∀ {g playerId actionId g'}, g.handlePlayerMove playerId actionId = .ok g' →
    R g g'
  spawnBullet : ∀ {g playerId g'}, g.spawnBullet playerId = .ok g' → R g g'

namespace ActionRule

variable {R : Game → Game → Prop} (hR : ActionRule R)

include hR

theorem applyPlayerAction {action action' : PlayerAction}
    (h : g.applyPlayerAction action = .ok (g', action')) : R g g' := by
  unfold Game.applyPlayerAction at h
  split at h
  · obtain ⟨g₁, hmove, h⟩ := Fallible.bind_eq_ok.mp h
    cases Fallible.pure_eq_ok.mp h
    exact hR.handlePlayerMove hmove
  · split at h
    · obtain ⟨g₁, hshoot, h⟩ := Fallible.bind_eq_ok.mp h
      cases Fallible.pure_eq_ok.mp h
      exact hR.spawnBullet hshoot
    · cases h
      exact hR.refl g

theorem applyPlayerActions {actions actions' : List PlayerAction}
    (h : g.applyPlayerActions actions = .ok (g', actions')) : R g g' := by
  induction actions generalizing g actions' with
  | nil =>
      cases h
      exact hR.refl _
  | cons action rest ih =>
      obtain ⟨g₁, action', rest', hfirst, hrest, rfl⟩ := Game.applyPlayerActions_cons.mp h
      exact hR.trans (hR.applyPlayerAction hfirst) (ih hrest)

end ActionRule

namespace StillRule

variable {R : Game → Game → Prop} (hR : StillRule R)

include hR

theorem actions : ActionRule R where
  refl := hR.refl
  trans := hR.trans
  handlePlayerMove := hR.handlePlayerMove
  spawnBullet := hR.spawnBullet

theorem processPlayerActions (h : g.processPlayerActions = .ok g') : R g g' := by
  obtain ⟨⟨g₁, actions⟩, hloop, h⟩ := Fallible.bind_eq_ok.mp h
  obtain rfl := Fallible.pure_eq_ok.mp h
  exact hR.trans (hR.actions.applyPlayerActions hloop) (hR.record rfl)

/-- The relation holds across every call that leaves bullets, enemies and bosses where
they are. -/
theorem perform {c : Call} (hc : c.Still) (h : g.perform c = .ok g') : R g g' := by
  cases c with
  | processPlayerActions => exact hR.processPlayerActions h
  | _ => exact hR.toQuietRule.perform (by exact hc) h

end StillRule

namespace Rule

variable {R : Game → Game → Prop} (hR : Rule R)

include hR

theorem updateBullets (now : Int) : R g (g.updateBullets now) := by
  unfold Game.updateBullets
  dsimp only
  split
  · exact hR.trans (hR.moveBullets g) (hR.record rfl)
  · exact hR.record rfl

theorem updateEnemies (now : Int) : R g (g.updateEnemies now) := by
  unfold Game.updateEnemies
  dsimp only
  split
  · exact hR.trans (hR.moveEnemies g) (hR.record rfl)
  · exact hR.record rfl

/-- The relation holds across every call that is made while a game runs. -/
theorem perform {c : Call} (hc : c.InGame) (h : g.perform c = .ok g') : R g g' := by
  cases c with
  | updateBullets now =>
      cases h
      exact hR.updateBullets now
  | updateEnemies now =>
      cases h
      exact hR.updateEnemies now
  | checkCollisions =>
      cases h
      exact hR.checkCollisions g
  | _ => exact hR.toStillRule.perform (by exact hc) h

end Rule

/-- What all players have as objects stays while a game runs, if moving a player keeps
it: nothing else changes the objects of the players that are left. -/
theorem playerObjects_rule {P : GameObject → Prop}
    (hmove : ∀ {g : Game} {playerId actionId g'}, g.handlePlayerMove playerId actionId = .ok g' →
      AllEntries (fun p : Player => P p.toGameObject) g.players →
      AllEntries (fun p : Player => P p.toGameObject) g'.players) :
    Rule fun g g' => AllEntries (fun p : Player => P p.toGameObject) g.players →
      AllEntries (fun p : Player => P p.toGameObject) g'.players where
  refl := fun _ hg => hg
  trans := fun h h' hg => h' (h hg)
  record := by
    rintro g g' heq hg
    rw [heq]
    exact hg
  report := fun _ _ _ hg => hg
  moveBullets := fun _ hg => hg
  moveEnemies := fun _ hg => hg
  handlePlayerMove := hmove
  spawnBullet := by
    rintro g playerId g' h hg
    obtain rfl | ⟨player, bullet, -, -, rfl⟩ := spawnBullet_new h
    · exact hg
    · exact hg
  spawnNextEnemy := by
    rintro g draw g' h hg
    obtain ⟨enemy, -, rfl⟩ := spawnEnemy_new h
    exact hg
  spawnNextBoss := by
    rintro g draw g' h hg
    obtain ⟨boss, -, rfl⟩ := spawnBoss_new h
    exact hg
  checkCollisions := by
    rintro g hg i p hp
    obtain ⟨q, hq, heq⟩ := getElem?_players_checkCollisions hp
    rw [heq]
    exact hg i q hq

/-- What the positions of all players have stays while a game runs, if it holds wherever
a move takes a player. -/
theorem playerPositions_rule {P : Position → Prop}
    (htarget : ∀ current actionId, P current → P (moveTarget current actionId)) :
    Rule fun g g' => AllEntries (fun p : Player => P p.position) g.players →
      AllEntries (fun p : Player => P p.position) g'.players :=
  playerObjects_rule (P := fun o => P o.position) fun h hg => by
    obtain ⟨player, positions, messages, hplayer, -, rfl⟩ := handlePlayerMove_new h
    refine AllEntries.modify hg fun p hp hcurrent => ?_
    obtain rfl := Option.some.inj (hplayer.symm.trans hp)
    -- The way to the target is added to where the player is.
    change P (GameObject.position (player.toGameObject.move _ _))
    rw [GameObject.position_move]
    split
    · rw [add_sub_cancel, add_sub_cancel]
      exact htarget _ _ hcurrent
    · exact hcurrent

end Game

end BeeRType
