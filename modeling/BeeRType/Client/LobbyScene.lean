-- SUMMARY: The client's lobby scene: its start button, and when the game starts.
import BeeRType.Network.Packet

/-!
# Lobby scene

The state of `LobbyScene` without what is only drawn. The background has the id `1`
and the start button the id `0`.
-/

namespace BeeRType

structure LobbyScene where
  /-- The ids of the elements in `scenes_`. -/
  scenes : List Int
  startButtonClicked : Bool
  newAction : Option PacketType

/-- The window events that `LobbyScene::handleInput` tells apart. -/
inductive LobbyInput where
  | closed
  /-- The mouse is inside the bounds of these elements. -/
  | mouseButtonPressed (under : List Int)
  | other
  deriving DecidableEq, Repr

namespace LobbyScene

def new : LobbyScene where
  scenes := [0, 1]
  startButtonClicked := false
  newAction := none

def cleanup (lobby : LobbyScene) : LobbyScene := { lobby with scenes := [] }

def handleMousePressed (lobby : LobbyScene) (under : List Int) : LobbyScene :=
  if lobby.scenes.any fun id => id ∈ under ∧ id = 0 then
    { lobby with startButtonClicked := true, newAction := some .gameStart }
  else lobby

/-- The loop over the events of the window, and whether one of them closed it. -/
def handleInput (lobby : LobbyScene) : List LobbyInput → LobbyScene × Bool
  | [] => (lobby, false)
  | .closed :: _ => (lobby.cleanup, true)
  | .mouseButtonPressed under :: inputs => (lobby.handleMousePressed under).handleInput inputs
  | .other :: inputs => lobby.handleInput inputs

def update (lobby : LobbyScene) (inputs : List LobbyInput) : LobbyScene × Bool :=
  (if lobby.startButtonClicked then lobby.cleanup else lobby).handleInput inputs

def sendOverPackets (lobby : LobbyScene) : Option PacketType × LobbyScene :=
  (lobby.newAction, { lobby with newAction := none })

/-- Whether the game starts: by the button, or by a GAME_START in the mailbox. -/
def checkGameStart (lobby : LobbyScene) (action : Int) : Bool × LobbyScene :=
  if lobby.startButtonClicked ∨ action = 3 then
    (true, { lobby.cleanup with startButtonClicked := false, newAction := some .gameStart })
  else (false, lobby)

end LobbyScene

end BeeRType
