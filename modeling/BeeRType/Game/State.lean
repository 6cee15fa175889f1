-- SUMMARY: The state of a game, and the functions of `AGame.cpp` and `Game.cpp` that spawn objects, move players and apply player actions.
import BeeRType.Base.FloatText
import BeeRType.Game.Entities
import BeeRType.Network.Packet
import Std.Data.ExtTreeMap

/-!
# Game

The state of `Game` and its base class `AGame`, with the static variables of
their functions. Arithmetic is exact. A call `Broadcast(createPacket(..))` is
recorded in `broadcasts`, oldest first.
-/

open Cpp Std

namespace BeeRType

structure PlayerAction where
  playerId : Int
  actionId : Int
  processed : Bool
  deriving DecidableEq, Repr

/-- A random draw `distX(rng), distY(rng)` of a spawn position. -/
structure Draw where
  x : ℚ
  y : ℚ
  x_mem : 0 ≤ x ∧ x ≤ 1280
  y_mem : 0 ≤ y ∧ y ≤ 720

theorem Draw.zero_mem_x : (0 : ℚ) ≤ 0 ∧ (0 : ℚ) ≤ 1280 := by norm_num
theorem Draw.zero_mem_y : (0 : ℚ) ≤ 0 ∧ (0 : ℚ) ≤ 720 := by norm_num
theorem Draw.inFront_mem_y : (0 : ℚ) ≤ 120 ∧ (120 : ℚ) ≤ 720 := by norm_num

/-- The upper left corner. -/
def Draw.origin : Draw := ⟨0, 0, zero_mem_x, zero_mem_y⟩

/-- The height of the players that `initializePlayers` adds, and of their bullets. -/
def Draw.inFront : Draw := ⟨0, 120, zero_mem_x, inFront_mem_y⟩

structure Game where
  playerActions : List PlayerAction
  players : ExtTreeMap Int Player
  bullets : ExtTreeMap Int Bullet
  bulletIdWhoShot : ExtTreeMap Int Int
  registry : Registry Component
  enemies : ExtTreeMap Int Enemy
  bosses : ExtTreeMap Int Boss
  enemiesPerWave : Int
  enemyId : Int
  bossId : Int
  totalPlayers : Int
  deadPlayers : List Int
  deadEnemies : List Int
  deadBullets : List Int
  deadBosses : List Int
  currentWave : Int
  /-- The static counter of `spawnBullet`. -/
  nextBulletId : Int
  /-- The static table of `playerPacketFactory`. -/
  lastKnownPositions : ExtTreeMap Int (ℚ × ℚ)
  /-- The static clock readings, in nanoseconds, set by the first call of their
  functions. -/
  lastWaveTime : Option Int
  lastBroadcastTime : Option Int
  lastBulletUpdateTime : Option Int
  lastEnemyUpdateTime : Option Int
  broadcasts : List Message

namespace Game

/-- `AGame::registerComponents`. -/
def registerComponents (r : Registry Component) : Registry Component :=
  [Component.position, .velocity, .drawable, .controllable, .collidable, .projectile].foldl
    Registry.registerComponent r

/-- A game as the constructor leaves it, which does not set `totalPlayers`. -/
def new : Game where
  playerActions := []
  players := ∅
  bullets := ∅
  bulletIdWhoShot := ∅
  registry := registerComponents .new
  enemies := ∅
  bosses := ∅
  enemiesPerWave := 5
  enemyId := 0
  bossId := 0
  totalPlayers := 0
  deadPlayers := []
  deadEnemies := []
  deadBullets := []
  deadBosses := []
  currentWave := 0
  nextBulletId := 0
  lastKnownPositions := ∅
  lastWaveTime := none
  lastBroadcastTime := none
  lastBulletUpdateTime := none
  lastEnemyUpdateTime := none
  broadcasts := []

/-- `Broadcast(createPacket(type, data))`. -/
def broadcast (g : Game) (type : PacketType) (payload : Payload) : Game :=
  { g with broadcasts := g.broadcasts ++ [⟨type, payload⟩] }

/-! ## Positions -/

def getPlayerPosition (g : Game) (playerId : Int) : Except StdException Position :=
  match g.players[playerId]? with
  | none => .error (.outOfRange "Invalid player ID")
  | some player => .ok player.position

def clampPositionToBounds (x y : ℚ) : ℚ × ℚ :=
  (if x < 0 then 0 else if 1195 < x then 1195 else x,
    if y < 0 then 0 else if 630 < y then 630 else y)

/-- Whether a position differs from the last one published, and the game that
remembers it. -/
def hasPositionChanged (g : Game) (id : Int) (x y : ℚ) : Bool × Game :=
  if g.lastKnownPositions[id]? = some (x, y) then (false, g)
  else (true, { g with lastKnownPositions := g.lastKnownPositions.insert id (x, y) })

/-- The body of the loop of `playerPacketFactory`; the exception for an unknown
id is caught. -/
def publishPosition (g : Game) (playerId : Int) : Game :=
  match g.getPlayerPosition playerId with
  | .error _ => g
  | .ok pos =>
    match g.hasPositionChanged playerId pos.x pos.y with
    | (true, g) => g.broadcast .change
        ⟨toStringInt playerId, toStringFloat pos.x, toStringFloat pos.y, str "0", str "0"⟩
    | (false, g) => g

/-- The ids looked up are those below the number of players. -/
def playerPacketFactory (g : Game) : Game :=
  (List.range g.players.size).foldl (fun g (playerId : Nat) => g.publishPosition playerId) g

/-! ## Spawning -/

def spawnPlayer (g : Game) (playerId : Int) (x y : ℚ) : Except StdException Game := do
  let player ← Player.new g.registry x y
  let players := g.players.insertIfNew playerId player
  let players := players.modify playerId fun p => (p.updateHp 100).updateScore 0
  match players[playerId]? with
  | none => .error (.outOfRange "map::at")
  | some p =>
    let g := { g with players := players }.broadcast .createPlayer
      ⟨toStringInt playerId, toStringFloat x, toStringFloat y, str "0", str "0"⟩
    pure (g.broadcast .uiUpdate
      ⟨toStringInt playerId, toStringFloat p.hp, toStringFloat p.score, str "0", str "0"⟩)

def spawnBullet (g : Game) (playerId : Int) : Except StdException Game :=
  match g.players[playerId]? with
  | none => .ok g
  | some player =>
    if player.registry.hasComponent .position player.entity then do
      let x := player.position.x + 50
      let y := player.position.y + 25
      let bullet ← Bullet.new g.registry x y
      let g' := { g with
        bullets := g.bullets.insertIfNew g.nextBulletId bullet
        bulletIdWhoShot := g.bulletIdWhoShot.insert g.nextBulletId playerId
        nextBulletId := g.nextBulletId + 1 }
      pure (g'.broadcast .createBullet
        ⟨toStringInt g.nextBulletId, toStringFloat x, toStringFloat y, str "5", str "0"⟩)
    else .ok g

def spawnBoss (g : Game) (bossId : Int) (_x y : ℚ) : Except StdException Game := do
  let spawnX := 1000
  let boss ← Boss.new g.registry spawnX y
  pure ({ g with bosses := g.bosses.insertIfNew bossId boss }.broadcast .createBoss
    ⟨toStringInt bossId, toStringFloat spawnX, toStringFloat y, str "-0.1", str "0"⟩)

def spawnEnemy (g : Game) (enemyId : Int) (_x y : ℚ) : Except StdException Game := do
  let spawnX := 1000
  let enemy ← Enemy.new g.registry spawnX y
  pure ({ g with enemies := g.enemies.insertIfNew enemyId enemy }.broadcast .createEnemy
    ⟨toStringInt enemyId, toStringFloat spawnX, toStringFloat y, str "-1", str "0"⟩)

/-! ## Player actions -/

def addPlayerAction (g : Game) (playerId actionId : Int) : Game :=
  { g with playerActions := g.playerActions ++ [⟨playerId, actionId, false⟩] }

/-- The step of an action: left, right, up, down. -/
def moveStep (actionId : Int) : ℚ × ℚ :=
  let moveDistance := 20
  match actionId with
  | 1 => (-moveDistance, 0)
  | 2 => (moveDistance, 0)
  | 3 => (0, -moveDistance)
  | 4 => (0, moveDistance)
  | _ => (0, 0)

def handlePlayerMove (g : Game) (playerId actionId : Int) : Except StdException Game := do
  let current ← g.getPlayerPosition playerId
  let (x, y) := moveStep actionId
  let (newX, newY) := clampPositionToBounds (current.x + x) (current.y + y)
  -- `players[playerId]` exists: its position has just been read.
  let g := { g with
    players := g.players.modify playerId fun p => p.move (newX - current.x) (newY - current.y) }
  pure g.playerPacketFactory

/-- One round of the loop of `processPlayerActions`: the game and the action
after it. -/
def applyPlayerAction (g : Game) (action : PlayerAction) :
    Except StdException (Game × PlayerAction) :=
  if 0 < action.actionId ∧ action.actionId < 5 then do
    let g ← g.handlePlayerMove action.playerId action.actionId
    pure (g, { action with processed := true })
  else if action.actionId = 5 then do
    let g ← g.spawnBullet action.playerId
    pure (g, { action with processed := true })
  else .ok (g, action)

def applyPlayerActions (g : Game) : List PlayerAction → Except StdException (Game × List PlayerAction)
  | [] => .ok (g, [])
  | action :: rest => do
    let (g, action) ← g.applyPlayerAction action
    let (g, rest) ← g.applyPlayerActions rest
    pure (g, action :: rest)

/-- The loop of `processPlayerActions`. It takes no lock and applies every action
of the vector, processed or not. -/
def processPlayerActions (g : Game) : Except StdException Game := do
  let (g, actions) ← g.applyPlayerActions g.playerActions
  pure { g with playerActions := actions }

/-- `deletePlayerAction`, which `processPlayerActions` ends with. -/
def deletePlayerAction (g : Game) : Game :=
  { g with playerActions := g.playerActions.filter fun action => !action.processed }

end Game

end BeeRType
