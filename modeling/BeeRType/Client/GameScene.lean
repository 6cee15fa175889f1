-- SUMMARY: The client's game scene: its sprites, and what it does with a packet and with the player's input.
import BeeRType.Client.Client
import Std.Data.ExtTreeMap

/-!
# Game scene

The state of `GameScene` without what is only drawn, and the functions of
`GameScene.cpp` that change it. A function that reads the mailbox takes it as an
argument.
-/

open Cpp Std

namespace BeeRType

inductive SpriteType where
  | enemy
  | boss
  | player
  | bullet
  | background
  | startButton
  deriving DecidableEq, Repr

/-- A sprite with its texture and position. -/
structure SpriteElement where
  id : Int32
  hp : Int
  vx : FloatValue
  vy : FloatValue
  texture : SpriteType
  x : FloatValue
  y : FloatValue
  deriving DecidableEq

structure GameScene where
  bulletSprites : ExtTreeMap Int32 SpriteElement
  playerAliveStatus : ExtTreeMap Int32 Bool
  playerSprites : ExtTreeMap Int32 SpriteElement
  serverPositions : ExtTreeMap Int32 (FloatValue × FloatValue)
  enemySprites : ExtTreeMap Int32 SpriteElement
  bossSprites : ExtTreeMap Int32 SpriteElement
  fastBulletSprites : ExtTreeMap Int32 SpriteElement
  newAction : Option PacketType
  health : Int32
  score : Int32

inductive Key where
  | right
  | left
  | up
  | down
  | space
  | escape
  | other
  deriving DecidableEq, Repr

/-- The window events that `handleInput` tells apart. -/
inductive InputEvent where
  | closed
  | keyPressed (key : Key)
  | other
  deriving DecidableEq, Repr

/-- `resetValues`. -/
def PacketData.reset : PacketData := ⟨0, 0, .finite 0, .finite 0, .finite 0, .finite 0⟩

namespace GameScene

/-- A scene as the constructor leaves it. -/
def new : GameScene where
  bulletSprites := ∅
  playerAliveStatus := ∅
  playerSprites := ∅
  serverPositions := ∅
  enemySprites := ∅
  bossSprites := ∅
  fastBulletSprites := ∅
  newAction := none
  health := 100
  score := 0

/-! ## Packets -/

def createSprites (packetData : PacketData) (type : SpriteType)
    (spriteMap : ExtTreeMap Int32 SpriteElement) : ExtTreeMap Int32 SpriteElement :=
  spriteMap.insert packetData.serverId
    { id := packetData.serverId
      hp := 100
      vx := packetData.newVx
      vy := packetData.newVy
      texture := type
      x := packetData.newX
      y := packetData.newY }

def destroySprite (packetData : PacketData) (spriteMap : ExtTreeMap Int32 SpriteElement) :
    ExtTreeMap Int32 SpriteElement :=
  spriteMap.erase packetData.serverId

def updateSpritePosition (scene : GameScene) (packetData : PacketData) : GameScene :=
  match scene.playerSprites[packetData.serverId]? with
  | some spriteElement =>
    { scene with
      serverPositions :=
        scene.serverPositions.insert spriteElement.id (packetData.newX, packetData.newY)
      playerSprites := scene.playerSprites.insert packetData.serverId
        { spriteElement with x := packetData.newX, y := packetData.newY } }
  | none => scene

def updateUI (scene : GameScene) (packetData : PacketData) : GameScene :=
  { scene with health := packetData.newX.toInt32, score := packetData.newY.toInt32 }

/-- The `switch` of `handleServerAction`. -/
def applyAction (scene : GameScene) (packetData : PacketData) : GameScene :=
  match PacketType.ofCode? packetData.action with
  | some .createEnemy =>
    { scene with enemySprites := createSprites packetData .enemy scene.enemySprites }
  | some .createBoss =>
    { scene with bossSprites := createSprites packetData .boss scene.bossSprites }
  | some .createPlayer =>
    { scene with
      playerSprites := createSprites packetData .player scene.playerSprites
      playerAliveStatus := scene.playerAliveStatus.insert packetData.serverId true }
  | some .createBullet =>
    { scene with bulletSprites := createSprites packetData .bullet scene.bulletSprites }
  | some .change => scene.updateSpritePosition packetData
  | some .uiUpdate => scene.updateUI packetData
  | some .destroyPlayer =>
    { scene with
      playerSprites := destroySprite packetData scene.playerSprites
      playerAliveStatus := scene.playerAliveStatus.insert packetData.serverId false }
  | some .destroyEnemy =>
    { scene with enemySprites := destroySprite packetData scene.enemySprites }
  | some .destroyBoss =>
    { scene with bossSprites := destroySprite packetData scene.bossSprites }
  -- Bullets are created in `bulletSprites_`.
  | some .destroyBullet =>
    { scene with fastBulletSprites := destroySprite packetData scene.fastBulletSprites }
  | _ => scene

/-- The scene and the mailbox after the call. -/
def handleServerAction (scene : GameScene) (packetData : PacketData) : GameScene × PacketData :=
  (scene.applyAction packetData, .reset)

/-! ## Input -/

def checkGameEnd (scene : GameScene) : Bool := scene.playerSprites.isEmpty

/-- The scene, and whether the window is closed. `playerAliveStatus_[id]` enters
an unknown id as not alive. -/
def handleKeyPress (scene : GameScene) (packetData : PacketData) (key : Key) : GameScene × Bool :=
  let scene := { scene with
    playerAliveStatus := scene.playerAliveStatus.insertIfNew packetData.serverId false }
  if scene.playerAliveStatus.getD packetData.serverId false = false then (scene, false)
  else match key with
    | .right => ({ scene with newAction := some .playerRight }, false)
    | .left => ({ scene with newAction := some .playerLeft }, false)
    | .up => ({ scene with newAction := some .playerUp }, false)
    | .down => ({ scene with newAction := some .playerDown }, false)
    | .space => ({ scene with newAction := some .playerShoot }, false)
    | .escape => ({ scene with newAction := some .gameEnd }, true)
    | .other => (scene, false)

def handleEvent (scene : GameScene) (packetData : PacketData) : InputEvent → GameScene × Bool
  | .closed =>
    let scene := { scene with
      playerSprites :=
        destroySprite packetData (scene.playerSprites.erase packetData.serverId) }
    (if scene.checkGameEnd then { scene with newAction := some .gameEnd } else scene, true)
  | .keyPressed key => scene.handleKeyPress packetData key
  | .other => (scene, false)

/-- The loop over the events of the window, and whether one of them closed it. A
closed window has no further events. -/
def handleInput (scene : GameScene) (packetData : PacketData) :
    List InputEvent → GameScene × Bool
  | [] => (scene, false)
  | event :: events =>
    match scene.handleEvent packetData event with
    | (scene, true) => (scene, true)
    | (scene, false) => scene.handleInput packetData events

/-- A frame: the scene, the mailbox and whether the window has been closed. -/
def update (scene : GameScene) (packetData : PacketData) (inputs : List InputEvent) :
    GameScene × PacketData × Bool :=
  let (scene, packetData) := scene.handleServerAction packetData
  let (scene, closed) := scene.handleInput packetData inputs
  (scene, packetData, closed)

def sendOverPackets (scene : GameScene) : Option PacketType × GameScene :=
  (scene.newAction, { scene with newAction := none })

end GameScene

end BeeRType
