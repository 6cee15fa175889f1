-- SUMMARY: The game loop: the sub-steps of `Game::update`, `stop`, and the control of a thread inside `Game::run`.
import BeeRType.Game.Collisions

/-!
# The game loop

`Game::run` as a thread that takes one step per call of a sub-function. Each
step reads the clock once and may draw random positions; both come from outside.
-/

open Cpp Std

namespace BeeRType

namespace Game

/-! ## Sub-steps -/

/-- `initializePlayers`; a negative number of players spawns none. -/
def initializePlayers (g : Game) (numPlayers : Int) : Except StdException Game :=
  (List.range numPlayers.toNat).foldlM (fun g (i : Nat) => g.spawnPlayer i (100 * (i + 1)) 100)
    { g with totalPlayers := numPlayers }

/-- The whole units of time since a clock reading. -/
def elapsed (last now unit : Int) : Int := (now - last).tdiv unit

def nanosPerSecond : Int := 1000000000
def nanosPerMilli : Int := 1000000

def updateBullets (g : Game) (now : Int) : Game :=
  let lastUpdateTime := g.lastBulletUpdateTime.getD now
  if 16 ≤ elapsed lastUpdateTime now nanosPerMilli then
    { g with
      bullets := g.bullets.map fun _ bullet => bullet.move 5 0
      lastBulletUpdateTime := some now }
  else { g with lastBulletUpdateTime := some lastUpdateTime }

def updateEnemies (g : Game) (now : Int) : Game :=
  let lastUpdateTime := g.lastEnemyUpdateTime.getD now
  if 16 ≤ elapsed lastUpdateTime now nanosPerMilli then
    { g with
      enemies := g.enemies.map fun _ enemy => enemy.move (-1) 0
      bosses := g.bosses.map fun _ boss => boss.move (-1 / 10) 0
      lastEnemyUpdateTime := some now }
  else { g with lastEnemyUpdateTime := some lastUpdateTime }

/-- `spawnEnemy(enemyId++, distX(rng), distY(rng))`. -/
def spawnNextEnemy (g : Game) (draw : Draw) : Except StdException Game :=
  { g with enemyId := g.enemyId + 1 }.spawnEnemy g.enemyId draw.x draw.y

/-- `spawnBoss(bossId++, distX(rng), distY(rng))`. -/
def spawnNextBoss (g : Game) (draw : Draw) : Except StdException Game :=
  { g with bossId := g.bossId + 1 }.spawnBoss g.bossId draw.x draw.y

def startNextWave (g : Game) (draws : Nat → Draw) : Except StdException Game := do
  let g := { g with currentWave := g.currentWave + 1 }
  let g ← (List.range g.enemiesPerWave.toNat).foldlM (fun g (i : Nat) => g.spawnNextEnemy (draws i)) g
  pure { g with enemiesPerWave := g.enemiesPerWave + 5 }

/-- Whether the wave timer fires; the first call of `waveSystem` sets it. -/
def waveDue (g : Game) (now : Int) : Bool :=
  decide (10 ≤ elapsed (g.lastWaveTime.getD now) now nanosPerSecond)

/-- The body of the `if` in `waveSystem`. -/
def nextWave (g : Game) (draws : Nat → Draw) : Except StdException Game :=
  let g := { g with currentWave := g.currentWave + 1 }
  if g.currentWave.tmod 3 = 0 then do
    let g ← g.spawnNextBoss (draws 0)
    (List.range 4).foldlM (fun g (i : Nat) => g.spawnNextEnemy (draws (i + 1))) g
  else g.startNextWave draws

def waveSystem (g : Game) (now : Int) (draws : Nat → Draw) : Except StdException Game :=
  let g := { g with lastWaveTime := some (g.lastWaveTime.getD now) }
  if g.waveDue now then do
    let g ← g.nextWave draws
    pure { g with lastWaveTime := some now }
  else .ok g

def updateUI (g : Game) (now : Int) : Game :=
  let lastBroadcastTime := g.lastBroadcastTime.getD now
  if 1 ≤ elapsed lastBroadcastTime now nanosPerSecond then
    { g with
      broadcasts := g.broadcasts ++ g.players.toList.map fun p => ⟨.uiUpdate,
        ⟨toStringInt p.1, toStringFloat p.2.hp, toStringFloat p.2.score, str "0", str "0"⟩⟩
      lastBroadcastTime := some now }
  else { g with lastBroadcastTime := some lastBroadcastTime }

def stop (g : Game) : Game :=
  { g with
    players := ∅
    enemies := ∅
    bullets := ∅
    bosses := ∅
    deadPlayers := []
    deadEnemies := []
    deadBullets := []
    deadBosses := [] }

/-- `checkPlayersAlive`, with the number of clients of the server. -/
def checkPlayersAlive (g : Game) (numClients : Nat) : Bool × Game :=
  let g := { g with totalPlayers := numClients }
  if g.totalPlayers = 0 ∨ g.players.isEmpty then
    let g := g.broadcast .gameEnd ⟨str "0", str "0", str "0", str "0", str "0"⟩
    (false, g.stop)
  else (true, g)

end Game

/-! ## Threads -/

/-- Where a thread stands in `Game::run`: the call it makes next. -/
inductive ThreadPc where
  | initializePlayers
  | processPlayerActions
  | deletePlayerAction
  | updateBullets
  | updateEnemies
  | checkCollisions
  | waveSystem
  | updateUI
  | checkPlayersAlive
  | returned
  deriving DecidableEq, Repr

/-- A thread started by `handleGameStart`: its argument, and where it stands. -/
structure Thread where
  numPlayers : Int
  pc : ThreadPc
  deriving DecidableEq, Repr

/-- What a step of a thread reads from outside the game. -/
structure Tick where
  now : Int
  draws : Nat → Draw
  numClients : Nat

namespace Game

/-- One step of a thread inside `Game::run`. The calls of `update` repeat inside
its own `while (true)`, which nothing leaves. -/
def threadStep (g : Game) (t : Thread) (tick : Tick) : Except StdException (Game × ThreadPc) :=
  match t.pc with
  | .initializePlayers => do
    let g ← g.initializePlayers t.numPlayers
    pure (g, .processPlayerActions)
  | .processPlayerActions => do
    let g ← g.processPlayerActions
    pure (g, .deletePlayerAction)
  | .deletePlayerAction => .ok (g.deletePlayerAction, .updateBullets)
  | .updateBullets => .ok (g.updateBullets tick.now, .updateEnemies)
  | .updateEnemies => .ok (g.updateEnemies tick.now, .checkCollisions)
  | .checkCollisions => .ok (g.checkCollisions, .waveSystem)
  | .waveSystem => do
    let g ← g.waveSystem tick.now tick.draws
    pure (g, .updateUI)
  | .updateUI => .ok (g.updateUI tick.now, .processPlayerActions)
  | .checkPlayersAlive =>
    match g.checkPlayersAlive tick.numClients with
    | (true, g) => .ok (g, .processPlayerActions)
    | (false, g) => .ok (g, .returned)
  | .returned => .ok (g, .returned)

end Game

/-! ## Inside `run` -/

/-- The thread is inside `Game::run`. -/
def Thread.Inside (t : Thread) : Prop := t.pc ≠ .returned

instance (t : Thread) : Decidable t.Inside := inferInstanceAs (Decidable (_ ≠ _))

/-- The thread is before or inside the loop of `Game::update`. -/
def Thread.Looping (t : Thread) : Prop := t.pc ≠ .checkPlayersAlive ∧ t.pc ≠ .returned

/-- Nothing leaves the loop of `update`. -/
theorem Thread.Looping.step {g g' : Game} {t : Thread} {tick : Tick} {pc : ThreadPc}
    (ht : t.Looping) (h : g.threadStep t tick = .ok (g', pc)) : Looping { t with pc := pc } := by
  unfold Game.threadStep at h
  split at h
  · obtain ⟨g₁, -, h⟩ := Fallible.bind_eq_ok.mp h
    cases Fallible.pure_eq_ok.mp h
    exact ⟨nofun, nofun⟩
  · obtain ⟨g₁, -, h⟩ := Fallible.bind_eq_ok.mp h
    cases Fallible.pure_eq_ok.mp h
    exact ⟨nofun, nofun⟩
  · cases h
    exact ⟨nofun, nofun⟩
  · cases h
    exact ⟨nofun, nofun⟩
  · cases h
    exact ⟨nofun, nofun⟩
  · cases h
    exact ⟨nofun, nofun⟩
  · obtain ⟨g₁, -, h⟩ := Fallible.bind_eq_ok.mp h
    cases Fallible.pure_eq_ok.mp h
    exact ⟨nofun, nofun⟩
  · cases h
    exact ⟨nofun, nofun⟩
  · rename_i hpc
    exact absurd hpc ht.1
  · rename_i hpc
    exact absurd hpc ht.2

end BeeRType
