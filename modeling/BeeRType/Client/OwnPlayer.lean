-- SUMMARY: Whose health, score and life the client goes by: its own player's, or another one's.
import BeeRType.Client.Sprites

/-!
# Own player

The client is never told which player is its own. UI_UPDATE packets of all players
set the same two numbers, and `handleKeyPress` asks for the player whose id is in the
mailbox, which `resetValues` has set to `0` earlier in the same frame. A frame sends one
action at most, the last that its events have set.
-/

open Cpp Std Transition Replay

namespace BeeRType

/-- The action of a movement or shoot key. -/
def Key.action : Key → Option PacketType
  | .right => some .playerRight
  | .left => some .playerLeft
  | .up => some .playerUp
  | .down => some .playerDown
  | .space => some .playerShoot
  | .escape | .other => none

/-- The action of an event that is a movement or shoot key. -/
def InputEvent.action : InputEvent → Option PacketType
  | .keyPressed key => key.action
  | .closed | .other => none

/-- The events that `handleInput` polls: those up to the first that closes the window. -/
def GameScene.polled (scene : GameScene) (packetData : PacketData) :
    List InputEvent → List InputEvent
  | [] => []
  | event :: events =>
    event :: match scene.handleEvent packetData event with
      | (_, true) => []
      | (scene, false) => scene.polled packetData events

instance (c : ObjectClass) (packets : List PacketData) (id : Int32) :
    Decidable (CreatedLast c packets id) :=
  inferInstanceAs (Decidable (_ = true))

/-- A frame of the game scene. -/
structure Frame where
  packetData : PacketData
  inputs : List InputEvent

structure OwnPlayer where
  scene : GameScene
  /-- The packets consumed, oldest first. -/
  packets : List PacketData
  /-- What `main_loop` has pushed for the server, oldest first. -/
  pushed : List PacketType
  closed : Bool

/-- What a UI_UPDATE packet for `k` shows. -/
def PacketData.shows (k : Int32) (p : PacketData) : Option (Int32 × Int32) :=
  if PacketType.ofCode? p.action = some .uiUpdate ∧ p.serverId = k then
    some (p.newX.toInt32, p.newY.toInt32)
  else none

/-- Health and score by the last UI_UPDATE for `k`, or those of a new scene. -/
def lastShown (k : Int32) (packets : List PacketData) : Int32 × Int32 :=
  (packets.filterMap (·.shows k)).getLastD (100, 0)

namespace OwnPlayer

def start : OwnPlayer where
  scene := .new
  packets := []
  pushed := []
  closed := false

/-- One frame of `main_loop`, which ends with the window. -/
def step (s : OwnPlayer) (frame : Frame) : OwnPlayer :=
  if s.closed then s
  else
    let (scene, _, closed) := s.scene.update frame.packetData frame.inputs
    let (newAction, scene) := scene.sendOverPackets
    { scene
      packets := s.packets ++ [frame.packetData]
      pushed := s.pushed ++ newAction.toList
      closed }

/-- Health and score are those of `k`. -/
def ShowsOwn (k : Int32) (s : OwnPlayer) : Prop :=
  (s.scene.health, s.scene.score) = lastShown k s.packets

/-- The frame sends the action of every movement or shoot key that it polls, in their
order, if `k` is alive, and none if it is not. GAME_END is no such action. -/
def ActsFor (k : Int32) (s : OwnPlayer) (frame : Frame) : Prop :=
  s.closed = false → ∃ sent, (s.step frame).pushed = s.pushed ++ sent ∧
    sent.filter (· ≠ .gameEnd) =
      if CreatedLast .player (s.packets ++ [frame.packetData]) k then
        let (scene, packetData) := s.scene.handleServerAction frame.packetData
        (scene.polled packetData frame.inputs).filterMap InputEvent.action
      else []

/-- A UI_UPDATE for another player shows what the last one for `k` has shown. -/
def OwnStats (k : Int32) (s : OwnPlayer) (frame : Frame) : Prop :=
  s.closed = false → PacketType.ofCode? frame.packetData.action = some .uiUpdate →
    frame.packetData.serverId ≠ k →
      (frame.packetData.newX.toInt32, frame.packetData.newY.toInt32) = lastShown k s.packets

/-- The event closes the window: an escape does if player `0` is alive. -/
def Closes (packets : List PacketData) (event : InputEvent) : Prop :=
  event = .closed ∨ event = .keyPressed .escape ∧ CreatedLast .player packets 0

instance (packets : List PacketData) (event : InputEvent) : Decidable (Closes packets event) :=
  inferInstanceAs (Decidable (_ ∨ _))

/-- The events up to the first that closes the window. -/
def untilClosed (packets : List PacketData) : List InputEvent → List InputEvent
  | [] => []
  | event :: events => event :: if Closes packets event then [] else untilClosed packets events

/-- The event sets another action to be sent, if player `0` is alive: a movement or shoot
key, an escape, or the end of the window if no other player is drawn. -/
def Overrides (packets : List PacketData) (event : InputEvent) : Prop :=
  (∃ key ≠ Key.other, event = .keyPressed key) ∨
    event = .closed ∧ ∀ id, CreatedLast .player packets id → id = 0

/-- A movement or shoot key acts: player `0` is alive, and no later event overrides it. -/
def Acts (packets : List PacketData) (later : List InputEvent) : Prop :=
  CreatedLast .player packets 0 ∧ ∀ event ∈ later, ¬ Overrides packets event

/-- Each movement or shoot key that is polled acts exactly if `k` is alive. -/
def OwnKeys (k : Int32) (s : OwnPlayer) (frame : Frame) : Prop :=
  s.closed = false →
    let packets := s.packets ++ [frame.packetData]
    ∀ pre key post, untilClosed packets frame.inputs = pre ++ .keyPressed key :: post →
      key.action ≠ none → (Acts packets post ↔ CreatedLast .player packets k)

end OwnPlayer

namespace GameScene

/-! ## Players alive -/

/-- The ids that `handleKeyPress` takes for alive. -/
def alive (scene : GameScene) : Set Int32 :=
  {id | scene.playerAliveStatus.getD id false = true}

variable {scene : GameScene} {p : PacketData} {id : Int32}

theorem alive_insert {status : Bool} :
    ({ scene with playerAliveStatus := scene.playerAliveStatus.insert id status }).alive =
      apply scene.alive (if status then .create id else .destroy id) := by
  ext id'
  simp only [alive, Set.mem_ofPred_eq, ExtTreeMap.getD_insert, Std.compare_eq_iff_eq]
  by_cases h : id = id'
  · cases status <;> simp [h, apply]
  · cases status <;> simp [h, apply, Ne.symm h]

/-- Entering an unknown id as not alive changes no answer. -/
theorem getD_insertIfNew_false {status : ExtTreeMap Int32 Bool} {id' : Int32} :
    (status.insertIfNew id false).getD id' false = status.getD id' false := by
  rw [ExtTreeMap.getD_insertIfNew]
  split
  · rename_i h
    obtain ⟨heq, hmem⟩ := h
    rw [Std.compare_eq_iff_eq] at heq
    subst heq
    exact (ExtTreeMap.getD_eq_fallback hmem).symm
  · rfl

theorem alive_insertIfNew (id : Int32) :
    ({ scene with
      playerAliveStatus := scene.playerAliveStatus.insertIfNew id false }).alive = scene.alive := by
  ext id'
  exact Eq.congr_left getD_insertIfNew_false

theorem alive_consume : (scene.consume p).alive =
    match p.announces .player with
    | some change => apply scene.alive change
    | none => scene.alive := by
  unfold consume handleServerAction applyAction PacketData.announces
  cases PacketType.ofCode? p.action with
  | none => rfl
  | some type =>
      cases type with
      | createPlayer => exact alive_insert
      | destroyPlayer => exact alive_insert
      | change =>
          simp only [updateSpritePosition]
          split <;> rfl
      | _ => rfl

theorem alive_handleKeyPress {key : Key} : (scene.handleKeyPress p key).1.alive = scene.alive := by
  refine Eq.trans ?_ (alive_insertIfNew p.serverId)
  unfold handleKeyPress
  dsimp only
  split
  · rfl
  · cases key <;> rfl

theorem alive_handleEvent {event : InputEvent} :
    (scene.handleEvent p event).1.alive = scene.alive := by
  cases event with
  | closed =>
      unfold handleEvent
      dsimp only
      split <;> rfl
  | keyPressed key => exact alive_handleKeyPress
  | other => rfl

/-- A key of a player that is not alive does nothing. -/
theorem handleKeyPress_dead {key : Key} (h : p.serverId ∉ scene.alive) :
    (scene.handleKeyPress p key).2 = false ∧
      (scene.handleKeyPress p key).1.newAction = scene.newAction := by
  have hdead : scene.playerAliveStatus.getD p.serverId false = false := eq_false_of_ne_true h
  unfold handleKeyPress
  dsimp only
  rw [if_pos (getD_insertIfNew_false.trans hdead)]
  exact ⟨rfl, rfl⟩

/-- Escape closes the window, and a movement or shoot key sets its action. -/
theorem handleKeyPress_alive {key : Key} (h : p.serverId ∈ scene.alive) :
    ((scene.handleKeyPress p key).2 = true ↔ key = .escape) ∧
      (scene.handleKeyPress p key).1.newAction =
        if key = .escape then some .gameEnd else key.action.or scene.newAction := by
  have halive : scene.playerAliveStatus.getD p.serverId false = true := h
  unfold handleKeyPress
  dsimp only
  rw [if_neg (ne_false_of_eq_true (getD_insertIfNew_false.trans halive))]
  cases key <;> simp [Key.action]

/-! ## The events of a frame -/

/-- The action that an event sets to be sent. -/
def sets (scene : GameScene) (p : PacketData) : InputEvent → Option PacketType
  | .closed =>
    if (destroySprite p (scene.playerSprites.erase p.serverId)).isEmpty then some .gameEnd else none
  | .keyPressed key =>
    if scene.playerAliveStatus.getD p.serverId false then
      if key = .escape then some .gameEnd else key.action
    else none
  | .other => none

theorem newAction_handleEvent {event : InputEvent} :
    (scene.handleEvent p event).1.newAction = (scene.sets p event).or scene.newAction := by
  cases event with
  | closed =>
      unfold handleEvent sets checkGameEnd
      dsimp only
      split <;> rfl
  | keyPressed key =>
      unfold sets
      dsimp only
      split
      · rename_i halive
        rw [handleEvent, (handleKeyPress_alive halive).2]
        split <;> rfl
      · rename_i hdead
        rw [handleEvent, (handleKeyPress_dead hdead).2]
        rfl
  | other => rfl

/-- The events that close the window. -/
def closing (scene : GameScene) (p : PacketData) (event : InputEvent) : Prop :=
  event = .closed ∨ event = .keyPressed .escape ∧ p.serverId ∈ scene.alive

theorem handleEvent_closes_iff {event : InputEvent} :
    (scene.handleEvent p event).2 = true ↔ scene.closing p event := by
  cases event with
  | closed => simp [handleEvent, closing]
  | keyPressed key =>
      by_cases h : p.serverId ∈ scene.alive
      · simpa [handleEvent, closing, h] using (handleKeyPress_alive h).1
      · simpa [handleEvent, closing, h] using (handleKeyPress_dead h).1
  | other => simp [handleEvent, closing]

theorem playerSprites_handleKeyPress {key : Key} :
    (scene.handleKeyPress p key).1.playerSprites = scene.playerSprites := by
  unfold handleKeyPress
  dsimp only
  split
  · rfl
  · cases key <;> rfl

theorem playerSprites_handleEvent {event : InputEvent} (h : (scene.handleEvent p event).2 = false) :
    (scene.handleEvent p event).1.playerSprites = scene.playerSprites := by
  cases event with
  | closed => cases h
  | keyPressed key => exact playerSprites_handleKeyPress
  | other => rfl

/-- An event that leaves the window open does not change what the others do. -/
theorem sets_handleEvent {event : InputEvent} (h : (scene.handleEvent p event).2 = false) :
    (scene.handleEvent p event).1.sets p = scene.sets p := by
  have halive : (scene.handleEvent p event).1.playerAliveStatus.getD p.serverId false =
      scene.playerAliveStatus.getD p.serverId false :=
    Bool.eq_iff_iff.mpr (Set.ext_iff.mp alive_handleEvent p.serverId)
  funext event'
  cases event' with
  | closed => rw [sets, sets, playerSprites_handleEvent h]
  | keyPressed key => rw [sets, sets, halive]
  | other => rfl

theorem handleInput_cons {event : InputEvent} {inputs : List InputEvent} :
    scene.handleInput p (event :: inputs) =
      if (scene.handleEvent p event).2 = true then ((scene.handleEvent p event).1, true)
      else (scene.handleEvent p event).1.handleInput p inputs := by
  rw [handleInput]
  split
  · rename_i hevent
    simp [hevent]
  · rename_i hevent
    simp [hevent]

theorem polled_cons {event : InputEvent} {inputs : List InputEvent} :
    scene.polled p (event :: inputs) =
      event :: if (scene.handleEvent p event).2 = true then []
        else (scene.handleEvent p event).1.polled p inputs := by
  rw [polled]
  split
  · rename_i hevent
    simp [hevent]
  · rename_i hevent
    simp [hevent]

theorem alive_handleInput {inputs : List InputEvent} :
    (scene.handleInput p inputs).1.alive = scene.alive := by
  induction inputs generalizing scene with
  | nil => rfl
  | cons event inputs ih =>
      rw [handleInput_cons]
      split
      · exact alive_handleEvent
      · exact ih.trans alive_handleEvent

theorem playerSprites_handleInput {inputs : List InputEvent}
    (h : (scene.handleInput p inputs).2 = false) :
    (scene.handleInput p inputs).1.playerSprites = scene.playerSprites := by
  induction inputs generalizing scene with
  | nil => rfl
  | cons event inputs ih =>
      rw [handleInput_cons] at h ⊢
      split at h
      · cases h
      · rename_i hevent
        rw [if_neg hevent, ih h, playerSprites_handleEvent (eq_false_of_ne_true hevent)]

/-- What is to be sent is what the last event that has set an action has set. -/
theorem newAction_handleInput {inputs : List InputEvent} :
    (scene.handleInput p inputs).1.newAction =
      ((scene.polled p inputs).filterMap (scene.sets p)).getLast?.or scene.newAction := by
  induction inputs generalizing scene with
  | nil => rfl
  | cons event inputs ih =>
      have hlast : ∀ rest : List PacketType,
          ((scene.sets p event).toList ++ rest).getLast?.or scene.newAction =
            rest.getLast?.or ((scene.sets p event).or scene.newAction) := by
        intro rest
        rw [List.getLast?_append, Option.or_assoc]
        cases scene.sets p event <;> rfl
      have hcons : ∀ rest : List InputEvent, (event :: rest).filterMap (scene.sets p) =
          (scene.sets p event).toList ++ rest.filterMap (scene.sets p) := by
        intro rest
        rw [List.filterMap_cons]
        cases scene.sets p event <;> rfl
      rw [handleInput_cons, polled_cons, hcons, hlast, ← newAction_handleEvent]
      split
      · rfl
      · rename_i hevent
        rw [ih, sets_handleEvent (eq_false_of_ne_true hevent)]

end GameScene

namespace OwnPlayer

variable {s : OwnPlayer} {frame : Frame} {k : Int32} {frames : List Frame} {scene : GameScene}
  {packets : List PacketData} {event : InputEvent}

/-- The scene is what the packets leave; no action is left over from the frame before. -/
structure Current (s : OwnPlayer) : Prop where
  alive : ∀ id, id ∈ s.scene.alive ↔ CreatedLast .player s.packets id
  drawn : s.closed = false → ∀ id, id ∈ s.scene.playerSprites ↔ CreatedLast .player s.packets id
  newAction : s.scene.newAction = none

theorem createdLast_append {p : PacketData} {id : Int32} (alive : Set Int32)
    (halive : ∀ id, id ∈ alive ↔ CreatedLast .player packets id) :
    CreatedLast .player (packets ++ [p]) id ↔ id ∈
      match p.announces .player with
      | some change => apply alive change
      | none => alive := by
  have hreplay : replay ∅ (announcedBy .player packets) = alive :=
    Set.ext fun id => GameScene.createdLast_iff.symm.trans (halive id).symm
  rw [GameScene.createdLast_iff, announcedBy, List.filterMap_append, replay_append,
    ← announcedBy, hreplay]
  cases hp : p.announces .player with
  | none => simp [hp]
  | some change => simp [hp]

/-- The players that the scene has, both alive and drawn, are those of the packets. -/
def Shows (packets : List PacketData) (scene : GameScene) : Prop :=
  ∀ id, (id ∈ scene.alive ↔ CreatedLast .player packets id) ∧
    (id ∈ scene.playerSprites ↔ CreatedLast .player packets id)

/-- The scene when the frame has handled its packet. -/
theorem Current.shows (hs : s.Current) (frame : Frame) (hopen : s.closed = false) :
    Shows (s.packets ++ [frame.packetData]) (s.scene.consume frame.packetData) := by
  intro id
  constructor
  · rw [createdLast_append s.scene.alive hs.alive, GameScene.alive_consume]
  · rw [createdLast_append (s.scene.drawn .player) (hs.drawn hopen)]
    exact Set.ext_iff.mp (GameScene.drawn_consume (c := .player) ObjectClass.noConfusion) id

theorem newAction_consume {p : PacketData} : (scene.consume p).newAction = scene.newAction := by
  unfold GameScene.consume GameScene.handleServerAction GameScene.applyAction
  dsimp only
  split
  case h_5 =>
    unfold GameScene.updateSpritePosition
    split <;> rfl
  all_goals rfl

theorem step_open (hopen : s.closed = false) : s.step frame =
    let scene := s.scene.consume frame.packetData
    { scene := (scene.handleInput .reset frame.inputs).1.sendOverPackets.2
      packets := s.packets ++ [frame.packetData]
      pushed := s.pushed ++ (scene.handleInput .reset frame.inputs).1.newAction.toList
      closed := (scene.handleInput .reset frame.inputs).2 } := by
  unfold step
  rw [hopen]
  rfl

theorem step_closed (hclosed : s.closed = true) : s.step frame = s := by
  unfold step
  rw [if_pos hclosed]

theorem Current.step (hs : s.Current) (frame : Frame) : (s.step frame).Current := by
  cases hclosed : s.closed with
  | true =>
      rw [step_closed hclosed]
      exact hs
  | false =>
      have hshows := hs.shows frame hclosed
      rw [step_open hclosed]
      refine ⟨fun id => ?_, fun hopen id => ?_, rfl⟩
      · rw [← (hshows id).1]
        exact Set.ext_iff.mp GameScene.alive_handleInput id
      · rw [← (hshows id).2, ← GameScene.playerSprites_handleInput hopen]
        rfl

/-! ## What the events of a frame set -/

theorem closes_iff (hshows : Shows packets scene) :
    (scene.handleEvent .reset event).2 = true ↔ Closes packets event :=
  GameScene.handleEvent_closes_iff.trans (or_congr_right (and_congr_right' (hshows 0).1))

theorem Shows.handleEvent (hshows : Shows packets scene)
    (hopen : (scene.handleEvent .reset event).2 = false) :
    Shows packets (scene.handleEvent .reset event).1 := by
  intro id
  rw [GameScene.alive_handleEvent, GameScene.playerSprites_handleEvent hopen]
  exact hshows id

/-- The events that are polled are those up to the first that closes the window. -/
theorem polled_eq {inputs : List InputEvent} (hshows : Shows packets scene) :
    scene.polled .reset inputs = untilClosed packets inputs := by
  induction inputs generalizing scene with
  | nil => rfl
  | cons event inputs ih =>
      rw [GameScene.polled_cons, untilClosed, if_congr (closes_iff hshows) rfl rfl]
      split
      · rfl
      · rename_i hcloses
        rw [ih (hshows.handleEvent (eq_false_of_ne_true (mt (closes_iff hshows).mp hcloses)))]

theorem getD_eq (hshows : Shows packets scene) :
    scene.playerAliveStatus.getD PacketData.reset.serverId false = true ↔
      CreatedLast .player packets 0 := (hshows 0).1

/-- Only a movement or shoot key of a client whose player `0` is alive sets its action; all
that is set otherwise is GAME_END. -/
theorem sets_eq_some (hshows : Shows packets scene) {t : PacketType}
    (h : scene.sets .reset event = some t) (ht : t ≠ .gameEnd) :
    CreatedLast .player packets 0 ∧ ∃ key, event = .keyPressed key ∧ key.action = some t := by
  cases event with
  | closed =>
      rw [GameScene.sets] at h
      split at h
      · exact absurd (Option.some.inj h).symm ht
      · cases h
  | keyPressed key =>
      rw [GameScene.sets] at h
      split at h
      · rename_i halive
        split at h
        · exact absurd (Option.some.inj h).symm ht
        · exact ⟨(getD_eq hshows).mp halive, key, rfl, h⟩
      · cases h
  | other => cases h

theorem sets_key (hshows : Shows packets scene) (halive : CreatedLast .player packets 0)
    {key : Key} {t : PacketType} (hkey : key.action = some t) :
    scene.sets .reset (.keyPressed key) = some t := by
  have hescape : key ≠ .escape := by
    rintro rfl
    cases hkey
  rw [GameScene.sets, if_pos ((getD_eq hshows).mpr halive), if_neg hescape, hkey]

/-- The events that leave what is to be sent alone. -/
theorem sets_eq_none_iff (hshows : Shows packets scene) (halive : CreatedLast .player packets 0) :
    scene.sets .reset event = none ↔ ¬ Overrides packets event := by
  cases event with
  | closed =>
      have hempty : (GameScene.destroySprite .reset
          (scene.playerSprites.erase PacketData.reset.serverId)).isEmpty = true ↔
            ∀ id, CreatedLast .player packets id → id = 0 := by
        rw [ExtTreeMap.isEmpty_iff, ExtTreeMap.eq_empty_iff_forall_not_mem]
        refine forall_congr' fun id => ?_
        rw [← (hshows id).2, GameScene.destroySprite, ExtTreeMap.mem_erase, ExtTreeMap.mem_erase]
        have hid : compare PacketData.reset.serverId id = .eq ↔ id = 0 :=
          Std.compare_eq_iff_eq.trans eq_comm
        rw [ne_eq, hid]
        tauto
      unfold GameScene.sets Overrides
      dsimp only
      rw [← hempty]
      split
      · rename_i h
        simp [h]
      · rename_i h
        simp [h]
  | keyPressed key =>
      unfold GameScene.sets Overrides
      dsimp only
      rw [if_pos ((getD_eq hshows).mpr halive)]
      cases key <;> simp [Key.action]
  | other => simp [GameScene.sets, Overrides]

/-- What is to be sent in the end is what an event has set after which none has. -/
theorem getLast?_sets {events : List InputEvent} {t : PacketType} :
    (events.filterMap (scene.sets .reset)).getLast? = some t ↔
      ∃ pre event post, events = pre ++ event :: post ∧ scene.sets .reset event = some t ∧
        ∀ later ∈ post, scene.sets .reset later = none := by
  rw [List.getLast?_filterMap, List.findSome?_eq_some_iff]
  constructor
  · rintro ⟨post, event, pre, hevents, hset, hpost⟩
    refine ⟨pre.reverse, event, post.reverse, ?_, hset, fun later hlater =>
      hpost later (List.mem_reverse.mp hlater)⟩
    rw [← List.reverse_reverse events, hevents]
    simp
  · rintro ⟨pre, event, post, rfl, hset, hpost⟩
    refine ⟨post.reverse, event, pre.reverse, by simp, hset, fun later hlater =>
      hpost later (List.mem_reverse.mp hlater)⟩

theorem getLast?_of_acts (hshows : Shows packets scene) {pre post : List InputEvent} {key : Key}
    {t : PacketType} (hkey : key.action = some t) (hacts : Acts packets post) :
    ((pre ++ .keyPressed key :: post).filterMap (scene.sets .reset)).getLast? = some t :=
  getLast?_sets.mpr ⟨pre, .keyPressed key, post, rfl, sets_key hshows hacts.1 hkey,
    fun later hlater => (sets_eq_none_iff hshows hacts.1).mpr (hacts.2 later hlater)⟩

theorem exists_acts (hshows : Shows packets scene) {events : List InputEvent} {t : PacketType}
    (h : (events.filterMap (scene.sets .reset)).getLast? = some t) (ht : t ≠ .gameEnd) :
    ∃ pre key post, events = pre ++ .keyPressed key :: post ∧ key.action = some t ∧
      Acts packets post := by
  obtain ⟨pre, event, post, hevents, hset, hpost⟩ := getLast?_sets.mp h
  obtain ⟨halive, key, rfl, hkey⟩ := sets_eq_some hshows hset ht
  exact ⟨pre, key, post, hevents, hkey, halive, fun later hlater =>
    (sets_eq_none_iff hshows halive).mp (hpost later hlater)⟩

theorem action_ne_gameEnd {key : Key} {t : PacketType} (h : key.action = some t) : t ≠ .gameEnd := by
  rintro rfl
  cases key <;> cases h

/-- A key with an action overrides whatever was set before. -/
theorem overrides_of_action {action : PacketType} (h : event.action = some action) :
    Overrides packets event := by
  cases event with
  | keyPressed key =>
      refine .inl ⟨key, ?_, rfl⟩
      rintro rfl
      cases h
  | closed => cases h
  | other => cases h

/-- What a frame sends, GAME_END aside. -/
def sentActions (scene : GameScene) (events : List InputEvent) : List PacketType :=
  (events.filterMap (scene.sets .reset)).getLast?.toList.filter (· ≠ .gameEnd)

theorem sentActions_of_acts (hshows : Shows packets scene) {pre post : List InputEvent} {key : Key}
    {t : PacketType} (hkey : key.action = some t) (hacts : Acts packets post) :
    sentActions scene (pre ++ .keyPressed key :: post) = [t] := by
  rw [sentActions, getLast?_of_acts hshows hkey hacts]
  simp [action_ne_gameEnd hkey]

theorem exists_acts_of_sentActions (hshows : Shows packets scene) {events : List InputEvent}
    (h : sentActions scene events ≠ []) : ∃ pre key post t,
      events = pre ++ .keyPressed key :: post ∧ key.action = some t ∧ Acts packets post ∧
        sentActions scene events = [t] := by
  unfold sentActions at h
  cases hlast : (events.filterMap (scene.sets .reset)).getLast? with
  | none =>
      rw [hlast] at h
      exact absurd rfl h
  | some t =>
      by_cases ht : t = .gameEnd
      · rw [hlast] at h
        simp [ht] at h
      · obtain ⟨pre, key, post, hevents, hkey, hacts⟩ := exists_acts hshows hlast ht
        refine ⟨pre, key, post, t, hevents, hkey, hacts, ?_⟩
        rw [hevents]
        exact sentActions_of_acts hshows hkey hacts

/-- The only event with an action is found in one place. -/
theorem post_unique {pre post pre' post' : List InputEvent} {event' : InputEvent}
    {t t' sent : PacketType} (hsplit : pre ++ event :: post = pre' ++ event' :: post')
    (ht : event.action = some t) (ht' : event'.action = some t')
    (honly : (pre ++ event :: post).filterMap InputEvent.action = [sent]) : post = post' := by
  rw [List.filterMap_append, List.filterMap_cons_some ht] at honly
  obtain ⟨hpre, hpost⟩ : pre.filterMap InputEvent.action = [] ∧
      post.filterMap InputEvent.action = [] := by
    rcases List.append_eq_singleton_iff.mp honly with ⟨hpre, hrest⟩ | ⟨-, hrest⟩
    · exact ⟨hpre, (List.cons.inj hrest).2⟩
    · cases hrest
  rcases List.append_eq_append_iff.mp hsplit with ⟨between, -, hpost'⟩ | ⟨between, hpre', hpost'⟩
  · cases between with
    | nil => exact (List.cons.inj hpost').2
    | cons first between =>
        obtain ⟨-, rfl⟩ := List.cons.inj hpost'
        have hmem : t' ∈ (between ++ event' :: post').filterMap InputEvent.action :=
          List.mem_filterMap.mpr ⟨event', by simp, ht'⟩
        exact absurd (hpost ▸ hmem) List.not_mem_nil
  · cases between with
    | nil => exact (List.cons.inj hpost').2.symm
    | cons first between =>
        obtain ⟨rfl, -⟩ := List.cons.inj hpost'
        have hmem : t' ∈ pre.filterMap InputEvent.action :=
          List.mem_filterMap.mpr ⟨event', by simp [hpre'], ht'⟩
        exact absurd (hpre ▸ hmem) List.not_mem_nil

theorem exists_key {t : PacketType} (h : event.action = some t) :
    ∃ key, event = .keyPressed key ∧ key.action = some t := by
  cases event with
  | keyPressed key => exact ⟨key, rfl, h⟩
  | closed => cases h
  | other => cases h

/-- If each of the keys acts, there is one at most, and it is sent. -/
theorem sentActions_of_all_act (hshows : Shows packets scene) {events : List InputEvent}
    (hkeys : ∀ pre key post, events = pre ++ .keyPressed key :: post → key.action ≠ none →
      Acts packets post) :
    sentActions scene events = events.filterMap InputEvent.action := by
  by_cases hnone : ∀ event ∈ events, event.action = none
  · rw [List.filterMap_eq_nil_iff.mpr hnone]
    by_contra hsent
    obtain ⟨pre, key, post, t, rfl, hkey, -⟩ := exists_acts_of_sentActions hshows hsent
    exact absurd (hkey.symm.trans (hnone (.keyPressed key) (by simp))) (Option.some_ne_none t)
  · push Not at hnone
    obtain ⟨event, hevent, haction⟩ := hnone
    obtain ⟨t, ht⟩ := Option.ne_none_iff_exists'.mp haction
    obtain ⟨key, rfl, hkey⟩ := exists_key ht
    obtain ⟨pre, post, rfl⟩ := List.append_of_mem hevent
    have hacts := hkeys pre key post rfl haction
    have hpost : post.filterMap InputEvent.action = [] := by
      refine List.filterMap_eq_nil_iff.mpr fun later hlater => ?_
      by_contra hne
      obtain ⟨t', ht'⟩ := Option.ne_none_iff_exists'.mp hne
      exact hacts.2 later hlater (overrides_of_action ht')
    have hpre : pre.filterMap InputEvent.action = [] := by
      refine List.filterMap_eq_nil_iff.mpr fun earlier hearlier => ?_
      by_contra hne
      obtain ⟨t', ht'⟩ := Option.ne_none_iff_exists'.mp hne
      obtain ⟨key', rfl, -⟩ := exists_key ht'
      obtain ⟨before, between, rfl⟩ := List.append_of_mem hearlier
      -- this earlier key would be overridden by the one at hand
      have hacts' := hkeys before key' (between ++ .keyPressed key :: post) (by simp) hne
      exact hacts'.2 (.keyPressed key) (by simp) (overrides_of_action ht)
    rw [sentActions_of_acts hshows hkey hacts, List.filterMap_append,
      List.filterMap_cons_some ht, hpre, hpost, List.nil_append]

/-- The frame sends the actions of all its keys, or of none of them, exactly if each key
acts, or none does. -/
theorem sentActions_eq_iff (hshows : Shows packets scene) (events : List InputEvent) (own : Prop)
    [Decidable own] :
    sentActions scene events = (if own then events.filterMap InputEvent.action else []) ↔
      ∀ pre key post, events = pre ++ .keyPressed key :: post → key.action ≠ none →
        (Acts packets post ↔ own) := by
  by_cases hown : own
  · rw [if_pos hown]
    constructor
    · rintro heq pre key post rfl hkey
      obtain ⟨t, ht⟩ := Option.ne_none_iff_exists'.mp hkey
      have hmem : t ∈ (pre ++ .keyPressed key :: post).filterMap InputEvent.action :=
        List.mem_filterMap.mpr ⟨.keyPressed key, by simp, ht⟩
      obtain ⟨pre', key', post', t', hsplit, hkey', hacts, hsent⟩ :=
        exists_acts_of_sentActions hshows (heq ▸ List.ne_nil_of_mem hmem)
      rw [post_unique hsplit ht hkey' (heq.symm.trans hsent)]
      exact iff_of_true hacts hown
    · intro hkeys
      exact sentActions_of_all_act hshows fun pre key post hevents hkey =>
        (hkeys pre key post hevents hkey).mpr hown
  · rw [if_neg hown]
    constructor
    · rintro heq pre key post rfl hkey
      obtain ⟨t, ht⟩ := Option.ne_none_iff_exists'.mp hkey
      refine iff_of_false (fun hacts => ?_) hown
      exact absurd ((sentActions_of_acts hshows ht hacts).symm.trans heq) (List.cons_ne_nil _ _)
    · intro hkeys
      by_contra hsent
      obtain ⟨pre, key, post, t, hevents, hkey, hacts, -⟩ := exists_acts_of_sentActions hshows hsent
      exact hown ((hkeys pre key post hevents (by rw [hkey]; exact Option.some_ne_none t)).mp hacts)

/-- What the frame pushes is the action that its events have set last. -/
theorem Current.pushed_step (hs : s.Current) (hopen : s.closed = false) :
    (s.step frame).pushed = s.pushed ++
      (((s.scene.consume frame.packetData).polled .reset frame.inputs).filterMap
        ((s.scene.consume frame.packetData).sets .reset)).getLast?.toList := by
  rw [step_open hopen]
  dsimp only
  rw [GameScene.newAction_handleInput, newAction_consume, hs.newAction, Option.or_none]

theorem Current.actsFor_iff (hs : s.Current) : s.ActsFor k frame ↔ s.OwnKeys k frame := by
  unfold ActsFor OwnKeys
  refine imp_congr_right fun hopen => ?_
  have hshows := hs.shows frame hopen
  dsimp only
  rw [hs.pushed_step hopen, ← polled_eq hshows]
  refine Iff.trans ?_ (sentActions_eq_iff hshows _ _)
  constructor
  · rintro ⟨sent, hpushed, hsent⟩
    rw [← List.append_cancel_left hpushed] at hsent
    exact hsent
  · exact fun hsent => ⟨_, rfl, hsent⟩

/-! ## Health and score -/

theorem shown_consume {scene : GameScene} {p : PacketData} :
    ((scene.consume p).health, (scene.consume p).score) =
      if PacketType.ofCode? p.action = some .uiUpdate then (p.newX.toInt32, p.newY.toInt32)
      else (scene.health, scene.score) := by
  unfold GameScene.consume GameScene.handleServerAction GameScene.applyAction
  cases PacketType.ofCode? p.action with
  | none => rfl
  | some type =>
      cases type with
      | change =>
          simp only [GameScene.updateSpritePosition]
          split <;> rfl
      | _ => rfl

theorem shown_handleEvent {scene : GameScene} {p : PacketData} {event : InputEvent} :
    (scene.handleEvent p event).1.health = scene.health ∧
      (scene.handleEvent p event).1.score = scene.score := by
  cases event with
  | closed =>
      unfold GameScene.handleEvent
      dsimp only
      split <;> exact ⟨rfl, rfl⟩
  | keyPressed key =>
      unfold GameScene.handleEvent GameScene.handleKeyPress
      dsimp only
      split
      · exact ⟨rfl, rfl⟩
      · cases key <;> exact ⟨rfl, rfl⟩
  | other => exact ⟨rfl, rfl⟩

theorem shown_handleInput (scene : GameScene) (p : PacketData) (inputs : List InputEvent) :
    (scene.handleInput p inputs).1.health = scene.health ∧
      (scene.handleInput p inputs).1.score = scene.score := by
  induction inputs generalizing scene with
  | nil => exact ⟨rfl, rfl⟩
  | cons event inputs ih =>
      rw [GameScene.handleInput_cons]
      split
      · exact shown_handleEvent
      · exact ⟨(ih _).1.trans shown_handleEvent.1, (ih _).2.trans shown_handleEvent.2⟩

/-- The numbers shown are those of the last UI_UPDATE packet, whoever it is for. -/
theorem shown_step (hclosed : s.closed = false) :
    ((s.step frame).scene.health, (s.step frame).scene.score) =
      if PacketType.ofCode? frame.packetData.action = some .uiUpdate then
        (frame.packetData.newX.toInt32, frame.packetData.newY.toInt32)
      else (s.scene.health, s.scene.score) := by
  obtain ⟨hhealth, hscore⟩ :=
    shown_handleInput (s.scene.consume frame.packetData) .reset frame.inputs
  rw [← shown_consume, step_open hclosed, ← hhealth, ← hscore]
  rfl

theorem lastShown_append {packets : List PacketData} {p : PacketData} :
    lastShown k (packets ++ [p]) = (p.shows k).getD (lastShown k packets) := by
  unfold lastShown
  rw [List.filterMap_append]
  cases hp : p.shows k with
  | none => simp [hp]
  | some shown => simp [hp]

theorem showsOwn_start : ShowsOwn k start := rfl

/-- A frame keeps the numbers those of `k` exactly if it does not show those of another
player. -/
theorem showsOwn_step_iff (hs : s.ShowsOwn k) : (s.step frame).ShowsOwn k ↔ s.OwnStats k frame := by
  cases hclosed : s.closed with
  | true =>
      rw [step_closed hclosed]
      exact iff_of_true hs fun hopen => absurd (hclosed.symm.trans hopen) nofun
  | false =>
      have hpackets : (s.step frame).packets = s.packets ++ [frame.packetData] := by
        rw [step_open hclosed]
      rw [ShowsOwn, shown_step hclosed, hpackets, lastShown_append]
      unfold OwnStats PacketData.shows
      by_cases hupdate : PacketType.ofCode? frame.packetData.action = some .uiUpdate
      · by_cases hown : frame.packetData.serverId = k
        · simp [hupdate, hown]
        · simp [hclosed, hupdate, hown]
      · have hshown : (s.scene.health, s.scene.score) = lastShown k s.packets := hs
        simp [hupdate, hshown]

/-! ## Runs -/

theorem current_start : start.Current := by
  have hnone (id : Int32) : ¬ CreatedLast .player [] id := by
    rw [GameScene.createdLast_iff]
    exact Set.notMem_empty id
  refine ⟨fun id => iff_of_false ?_ (hnone id), fun _ id => iff_of_false ?_ (hnone id), rfl⟩
  · simp [start, GameScene.new, GameScene.alive]
  · simp [start, GameScene.new]

/-- The client goes by its own player's packets exactly if no UI_UPDATE shows other
numbers than the last one for `k`, and for every movement or shoot key that it polls,
player `k` is alive exactly if player `0` is and nothing overrides the key. -/
theorem followsOwn_iff (k : Int32) (frames : List Frame) :
    Always step (ShowsOwn k) start frames ∧ EachStep step (ActsFor k) start frames ↔
      EachStep step (OwnStats k) start frames ∧ EachStep step (OwnKeys k) start frames := by
  have hcurrent : Always step Current start frames :=
    always_of_step current_start fun _ frame hs => hs.step frame
  have hshows : Always step (ShowsOwn k) start frames ↔ EachStep step (OwnStats k) start frames :=
    always_iff_eachStep showsOwn_start (fun _ hs => hs)
      (fun _ _ hs h => (showsOwn_step_iff hs).mpr h) fun _ _ hs h => mt (showsOwn_step_iff hs).mp h
  exact and_congr hshows (hcurrent.eachStep_congr fun _ _ hs => hs.actsFor_iff)

/-- Player `1` is created and presses a key; then the health of player `0` arrives. -/
theorem not_followsOwn_twoPlayers :
    let frames : List Frame :=
      [⟨⟨24, 1, .finite 50, .finite 100, .finite 0, .finite 0⟩, [.keyPressed .space]⟩,
        ⟨⟨34, 0, .finite 40, .finite 3, .finite 0, .finite 0⟩, []⟩]
    ¬ (Always step (ShowsOwn 1) start frames ∧ EachStep step (ActsFor 1) start frames) ∧
      (run step start frames).pushed = [] ∧ (run step start frames).scene.health = 40 := by
  refine ⟨fun h => ?_, by decide +kernel, by decide +kernel⟩
  have hshown := h.1.final
  unfold ShowsOwn at hshown
  exact absurd hshown (by decide +kernel)

-- Of two keys in one frame, the second is sent.
example : (run step start [⟨⟨24, 0, .finite 50, .finite 100, .finite 0, .finite 0⟩,
    [.keyPressed .right, .keyPressed .space]⟩]).pushed = [.playerShoot] := by decide +kernel

end OwnPlayer

end BeeRType
