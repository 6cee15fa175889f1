-- SUMMARY: The frames of the game scene: where a sprite is drawn, from its CREATE packet and the frames since.
import BeeRType.Base.Ageing
import BeeRType.Client.Sprites

/-!
# Rendering

In every frame the scene consumes the mailbox, moves its sprites and handles the input.
An enemy, a boss or a bullet is never corrected: it is drawn at the position of the last
CREATE packet of its id, plus its velocity for every frame since.
-/

open Cpp Std Transition Replay

namespace BeeRType

/-- `sprite.move(vx, vy)`. -/
def SpriteElement.move (s : SpriteElement) : SpriteElement :=
  { s with x := s.x.add s.vx, y := s.y.add s.vy }

def ObjectClass.spriteType : ObjectClass → SpriteType
  | .player => .player
  | .enemy => .enemy
  | .boss => .boss
  | .bullet => .bullet

/-- The sprite that `createSprites` makes of a packet. -/
def PacketData.sprite (p : PacketData) (c : ObjectClass) : SpriteElement where
  id := p.serverId
  hp := 100
  vx := p.newVx
  vy := p.newVy
  texture := c.spriteType
  x := p.newX
  y := p.newY

/-- The packet says nothing that would replace the sprite, or remove it: a bullet is
never removed. -/
def PacketData.Leaves (p : PacketData) (c : ObjectClass) (id : Int32) : Prop :=
  p.announces c ≠ some (.create id) ∧ (c ≠ .bullet → p.announces c ≠ some (.destroy id))

/-- As long as the sums are `float`s, none of them is rounded. -/
theorem add_iterate {q v : ℚ} {n : Nat} (h : ∀ k ≤ n, IsFloat (q + k * v)) :
    (fun x : FloatValue => x.add (.finite v))^[n] (.finite q) = .finite (q + n * v) := by
  induction n with
  | zero => simp
  | succ n ih =>
      have hsum : q + n * v + v = q + (n + 1 : Nat) * v := by
        push_cast
        ring
      rw [Function.iterate_succ_apply', ih fun k hk => h k (hk.trans n.le_succ),
        FloatValue.add_finite (by rw [hsum]; exact h (n + 1) le_rfl), hsum]

namespace SpriteElement

/-- All of the sprite but its position. -/
def unplaced (s : SpriteElement) : Int32 × Int × FloatValue × FloatValue × SpriteType :=
  (s.id, s.hp, s.vx, s.vy, s.texture)

variable {s : SpriteElement}

/-- A coordinate grows by the velocity with every move. -/
theorem coordinate_iterate (value velocity : SpriteElement → FloatValue)
    (hmove : ∀ s, value s.move = (value s).add (velocity s))
    (hvelocity : ∀ s, velocity s.move = velocity s) (n : Nat) :
    value (move^[n] s) = (fun x => x.add (velocity s))^[n] (value s) ∧
      velocity (move^[n] s) = velocity s := by
  induction n with
  | zero => exact ⟨rfl, rfl⟩
  | succ n ih =>
      obtain ⟨hvalue, hconstant⟩ := ih
      rw [Function.iterate_succ_apply', Function.iterate_succ_apply', hmove, hvelocity, hvalue,
        hconstant]
      exact ⟨rfl, rfl⟩

theorem x_iterate (n : Nat) : (move^[n] s).x = (fun x => x.add s.vx)^[n] s.x :=
  (coordinate_iterate x vx (fun _ => rfl) (fun _ => rfl) n).1

theorem y_iterate (n : Nat) : (move^[n] s).y = (fun y => y.add s.vy)^[n] s.y :=
  (coordinate_iterate y vy (fun _ => rfl) (fun _ => rfl) n).1

end SpriteElement

namespace GameScene

def updatePositions (scene : GameScene) : GameScene :=
  { scene with
    bulletSprites := scene.bulletSprites.map fun _ s => s.move
    enemySprites := scene.enemySprites.map fun _ s => s.move
    bossSprites := scene.bossSprites.map fun _ s => s.move
    fastBulletSprites := scene.fastBulletSprites.map fun _ s => s.move }

/-- `update` with the part of `render` that changes the scene. -/
def frame (scene : GameScene) (packetData : PacketData) (inputs : List InputEvent) :
    GameScene × PacketData × Bool :=
  let (scene, packetData) := scene.handleServerAction packetData
  let scene := scene.updatePositions
  let (scene, closed) := scene.handleInput packetData inputs
  (scene, packetData, closed)

/-- The sprites of a class that packets create. -/
def sprites (scene : GameScene) : ObjectClass → ExtTreeMap Int32 SpriteElement
  | .player => scene.playerSprites
  | .enemy => scene.enemySprites
  | .boss => scene.bossSprites
  | .bullet => scene.bulletSprites

variable {scene scene' : GameScene} {p : PacketData} {inputs : List InputEvent} {c : ObjectClass}
  {id : Int32}

/-! ## A frame -/

/-- A key changes which players are alive and what is to be sent. -/
theorem handleKeyPress_frame {α : Type} {f : GameScene → α}
    (hf : ∀ (scene : GameScene) playerAliveStatus newAction,
      f { scene with playerAliveStatus, newAction } = f scene) (key : Key) :
    f (scene.handleKeyPress p key).1 = f scene := by
  unfold handleKeyPress
  dsimp only
  split
  · exact hf scene _ scene.newAction
  · cases key <;> exact hf scene _ _

/-- Input changes the players, which of them are alive and what is to be sent. -/
theorem handleInput_frame {α : Type} {f : GameScene → α}
    (hf : ∀ (scene : GameScene) playerSprites playerAliveStatus newAction,
      f { scene with playerSprites, playerAliveStatus, newAction } = f scene) :
    f (scene.handleInput p inputs).1 = f scene := by
  have hevent : ∀ (scene : GameScene) event, f (scene.handleEvent p event).1 = f scene := by
    intro scene event
    cases event with
    | closed =>
        unfold handleEvent
        dsimp only
        split <;> exact hf scene _ scene.playerAliveStatus _
    | keyPressed key => exact handleKeyPress_frame (fun scene => hf scene scene.playerSprites) key
    | other => rfl
  induction inputs generalizing scene with
  | nil => rfl
  | cons event inputs ih =>
      have h := hevent scene event
      rw [handleInput]
      split <;> rename_i scene' heq <;> rw [heq] at h
      · exact h
      · rw [ih]
        exact h

theorem getElem?_createSprites {type : SpriteType} {sprites : ExtTreeMap Int32 SpriteElement} :
    (createSprites p type sprites)[id]? = if p.serverId = id then
      some ⟨p.serverId, 100, p.newVx, p.newVy, type, p.newX, p.newY⟩ else sprites[id]? := by
  rw [createSprites, ExtTreeMap.getElem?_insert]
  simp only [Std.compare_eq_iff_eq]

theorem getElem?_destroySprite {sprites : ExtTreeMap Int32 SpriteElement} :
    (destroySprite p sprites)[id]? = if p.serverId = id then none else sprites[id]? := by
  rw [destroySprite, ExtTreeMap.getElem?_erase]
  simp only [Std.compare_eq_iff_eq]

theorem sprites_updateSpritePosition (hc : c ≠ .player) :
    (scene.updateSpritePosition p).sprites c = scene.sprites c := by
  unfold updateSpritePosition
  split <;> cases c <;> first | rfl | exact absurd rfl hc

/-- What a packet does to the sprite of an enemy, a boss or a bullet. -/
theorem getElem?_sprites_consume (hc : c ≠ .player) : ((scene.consume p).sprites c)[id]? =
    match p.announces c with
    | some (.create k) => if k = id then some (p.sprite c) else (scene.sprites c)[id]?
    | some (.destroy k) => if k = id ∧ c ≠ .bullet then none else (scene.sprites c)[id]?
    | none => (scene.sprites c)[id]? := by
  have hdestroyed {c : ObjectClass} {sprites : ExtTreeMap Int32 SpriteElement} (h : c ≠ .bullet) :
      (destroySprite p sprites)[id]? =
        if p.serverId = id ∧ c ≠ .bullet then none else sprites[id]? := by
    rw [getElem?_destroySprite]
    simp only [h, ne_eq, not_false_eq_true, and_true]
  unfold consume handleServerAction applyAction PacketData.announces
  cases PacketType.ofCode? p.action with
  | none => rfl
  | some type =>
      cases type with
      | createPlayer => cases c <;> first | exact absurd rfl hc | rfl
      | createEnemy => cases c <;> first | exact getElem?_createSprites | rfl
      | createBoss => cases c <;> first | exact getElem?_createSprites | rfl
      | createBullet => cases c <;> first | exact getElem?_createSprites | rfl
      | destroyPlayer => cases c <;> first | exact absurd rfl hc | rfl
      | destroyEnemy => cases c <;> first | exact hdestroyed nofun | rfl
      | destroyBoss => cases c <;> first | exact hdestroyed nofun | rfl
      | destroyBullet => cases c <;> first | exact (if_neg fun h => h.2 rfl).symm | rfl
      | change =>
          simp only [sprites_updateSpritePosition hc]
          cases c <;> rfl
      | _ => cases c <;> rfl

/-- The scene after a frame that has found this packet in the mailbox. -/
def next (scene : GameScene) (e : PacketData × List InputEvent) : GameScene :=
  (scene.frame e.1 e.2).1

theorem getElem?_sprites_next {e : PacketData × List InputEvent} (hc : c ≠ .player) :
    ((scene.next e).sprites c)[id]? = ((scene.consume e.1).sprites c)[id]?.map .move := by
  have hinput : (scene.next e).sprites c = (scene.consume e.1).updatePositions.sprites c :=
    handleInput_frame (f := fun scene => scene.sprites c) fun _ _ _ _ => by
      cases c <;> first | rfl | exact absurd rfl hc
  rw [hinput]
  cases c with
  | player => exact absurd rfl hc
  | _ => exact ExtTreeMap.getElem?_map

/-! ## A frame without the rendering

What a frame does besides moving sprites is what `update` says, so that nothing a player
can cause depends on where the sprites are. -/

/-- The scene with the moving sprites of another one. -/
def place (scene moving : GameScene) : GameScene :=
  { scene with
    bulletSprites := moving.bulletSprites
    enemySprites := moving.enemySprites
    bossSprites := moving.bossSprites
    fastBulletSprites := moving.fastBulletSprites }

/-- The same sprites under the same ids, but for where they are. -/
def Alike (sprites sprites' : ExtTreeMap Int32 SpriteElement) : Prop :=
  ∀ id : Int32,
    (sprites'[id]?).map SpriteElement.unplaced = (sprites[id]?).map SpriteElement.unplaced

/-- The scenes differ only in where the moving sprites are. -/
structure Agrees (scene scene' : GameScene) : Prop where
  place : scene' = scene.place scene'
  bullets : Alike scene.bulletSprites scene'.bulletSprites
  enemies : Alike scene.enemySprites scene'.enemySprites
  bosses : Alike scene.bossSprites scene'.bossSprites
  fastBullets : Alike scene.fastBulletSprites scene'.fastBulletSprites

section Alike

variable {sprites sprites' : ExtTreeMap Int32 SpriteElement}

theorem Alike.refl (sprites : ExtTreeMap Int32 SpriteElement) : Alike sprites sprites :=
  fun _ => rfl

theorem Alike.create (h : Alike sprites sprites') (type : SpriteType) :
    Alike (createSprites p type sprites) (createSprites p type sprites') := by
  intro id
  rw [getElem?_createSprites, getElem?_createSprites]
  split
  · rfl
  · exact h id

theorem Alike.destroy (h : Alike sprites sprites') :
    Alike (destroySprite p sprites) (destroySprite p sprites') := by
  intro id
  rw [getElem?_destroySprite, getElem?_destroySprite]
  split
  · rfl
  · exact h id

theorem Alike.move (h : Alike sprites sprites') :
    Alike sprites (sprites'.map fun _ s => s.move) := by
  intro id
  rw [ExtTreeMap.getElem?_map, Option.map_map]
  exact h id

end Alike

theorem handleKeyPress_place {moving : GameScene} {key : Key} :
    (scene.place moving).handleKeyPress p key =
      ((scene.handleKeyPress p key).1.place moving, (scene.handleKeyPress p key).2) := by
  unfold handleKeyPress
  dsimp only [place]
  split
  · rfl
  · cases key <;> rfl

theorem handleEvent_place {moving : GameScene} {event : InputEvent} :
    (scene.place moving).handleEvent p event =
      ((scene.handleEvent p event).1.place moving, (scene.handleEvent p event).2) := by
  cases event with
  | closed =>
      unfold handleEvent
      by_cases h : (destroySprite p (scene.playerSprites.erase p.serverId)).isEmpty = true <;>
        simp [h, place, checkGameEnd]
  | keyPressed key => exact handleKeyPress_place
  | other => rfl

theorem handleInput_place {moving : GameScene} :
    (scene.place moving).handleInput p inputs =
      ((scene.handleInput p inputs).1.place moving, (scene.handleInput p inputs).2) := by
  induction inputs generalizing scene with
  | nil => rfl
  | cons event inputs ih =>
      rw [handleInput, handleInput, handleEvent_place]
      rcases scene.handleEvent p event with ⟨scene', closed⟩
      cases closed with
      | true => rfl
      | false => exact ih

theorem Agrees.handleInput (h : Agrees scene scene') (p : PacketData) (inputs : List InputEvent) :
    Agrees (scene.handleInput p inputs).1 (scene'.handleInput p inputs).1 ∧
      (scene'.handleInput p inputs).2 = (scene.handleInput p inputs).2 := by
  obtain ⟨moving, rfl⟩ : ∃ moving, scene' = scene.place moving := ⟨_, h.place⟩
  rw [handleInput_place]
  refine ⟨⟨rfl, ?_, ?_, ?_, ?_⟩, rfl⟩
  · rw [handleInput_frame (f := bulletSprites) fun _ _ _ _ => rfl]
    exact h.bullets
  · rw [handleInput_frame (f := enemySprites) fun _ _ _ _ => rfl]
    exact h.enemies
  · rw [handleInput_frame (f := bossSprites) fun _ _ _ _ => rfl]
    exact h.bosses
  · rw [handleInput_frame (f := fastBulletSprites) fun _ _ _ _ => rfl]
    exact h.fastBullets

theorem Agrees.updatePositions (h : Agrees scene scene') : Agrees scene scene'.updatePositions where
  place := by
    rw [h.place]
    rfl
  bullets := h.bullets.move
  enemies := h.enemies.move
  bosses := h.bosses.move
  fastBullets := h.fastBullets.move

theorem updateSpritePosition_place {moving : GameScene} :
    (scene.place moving).updateSpritePosition p = (scene.updateSpritePosition p).place moving := by
  unfold updateSpritePosition
  dsimp only [place]
  cases scene.playerSprites[p.serverId]? <;> rfl

theorem updateSpritePosition_self : scene.updateSpritePosition p =
    (scene.updateSpritePosition p).place scene := by
  unfold updateSpritePosition
  split <;> rfl

theorem Agrees.applyAction (h : Agrees scene scene') :
    Agrees (scene.applyAction p) (scene'.applyAction p) := by
  obtain ⟨moving, rfl⟩ : ∃ moving, scene' = scene.place moving := ⟨_, h.place⟩
  obtain ⟨-, hbullets, henemies, hbosses, hfast⟩ := h
  unfold GameScene.applyAction
  cases PacketType.ofCode? p.action with
  | none => exact ⟨rfl, hbullets, henemies, hbosses, hfast⟩
  | some type =>
      cases type with
      | createEnemy => exact ⟨rfl, hbullets, henemies.create _, hbosses, hfast⟩
      | createBoss => exact ⟨rfl, hbullets, henemies, hbosses.create _, hfast⟩
      | createBullet => exact ⟨rfl, hbullets.create _, henemies, hbosses, hfast⟩
      | destroyEnemy => exact ⟨rfl, hbullets, henemies.destroy, hbosses, hfast⟩
      | destroyBoss => exact ⟨rfl, hbullets, henemies, hbosses.destroy, hfast⟩
      | destroyBullet => exact ⟨rfl, hbullets, henemies, hbosses, hfast.destroy⟩
      | change =>
          dsimp only
          rw [updateSpritePosition_place, updateSpritePosition_self]
          exact ⟨rfl, hbullets, henemies, hbosses, hfast⟩
      | _ => exact ⟨rfl, hbullets, henemies, hbosses, hfast⟩

/-- A frame agrees with `update`. -/
theorem Agrees.frame (h : Agrees scene scene') :
    Agrees (scene.update p inputs).1 (scene'.frame p inputs).1 ∧
      (scene'.frame p inputs).2 = (scene.update p inputs).2 := by
  obtain ⟨hscene, hclosed⟩ :=
    h.applyAction.updatePositions.handleInput .reset inputs
  refine ⟨hscene, ?_⟩
  unfold GameScene.frame GameScene.update
  dsimp only [handleServerAction]
  rw [hclosed]

/-- `update` alone. -/
def nextUnrendered (scene : GameScene) (e : PacketData × List InputEvent) : GameScene :=
  (scene.update e.1 e.2).1

/-- With the same packets and input, the frames agree with `update` throughout, and close
the window when it does. -/
theorem frames_agree (frames : List (PacketData × List InputEvent)) :
    Agrees (run nextUnrendered new frames) (run next new frames) ∧
      ∀ p inputs, ((run next new frames).frame p inputs).2 =
        ((run nextUnrendered new frames).update p inputs).2 := by
  have hagrees : Agrees (run nextUnrendered new frames) (run next new frames) := by
    induction frames using List.reverseRecOn with
    | nil => exact ⟨rfl, .refl _, .refl _, .refl _, .refl _⟩
    | append_singleton frames e ih =>
        rw [run_append, run_append]
        exact ih.frame.1
  exact ⟨hagrees, fun p inputs => hagrees.frame.2⟩

/-! ## Frames -/

/-- What a frame does to the sprite of an object. -/
def effect (c : ObjectClass) (id : Int32) (_ : GameScene) (e : PacketData × List InputEvent) :
    Ageing.Effect SpriteElement :=
  match e.1.announces c with
  | some (.create k) => if k = id then .put (e.1.sprite c).move else .keep 1
  | some (.destroy k) => if k = id ∧ c ≠ .bullet then .drop else .keep 1
  | none => .keep 1

theorem acts {e : PacketData × List InputEvent} (hc : c ≠ .player) :
    Ageing.Acts next (effect c id) .move (fun scene => (scene.sprites c)[id]?) scene e := by
  unfold Ageing.Acts effect
  dsimp only
  rw [getElem?_sprites_next hc, getElem?_sprites_consume hc]
  cases e.1.announces c with
  | none => rfl
  | some change => cases change <;> dsimp only <;> split <;> rfl

theorem effect_cases (c : ObjectClass) (id : Int32) (scene : GameScene)
    (e : PacketData × List InputEvent) :
    e.1.announces c = some (.create id) ∧ effect c id scene e = .put (e.1.sprite c).move ∨
      (c ≠ .bullet ∧ e.1.announces c = some (.destroy id)) ∧ effect c id scene e = .drop ∨
      e.1.Leaves c id ∧ effect c id scene e = .keep 1 := by
  unfold effect PacketData.Leaves
  cases e.1.announces c with
  | none => simp
  | some change =>
      cases change with
      | create k => by_cases h : k = id <;> simp [h]
      | destroy k => by_cases h : k = id <;> by_cases hc : c = .bullet <;> simp [h, hc]

theorem keeps_iff {e : PacketData × List InputEvent} :
    (effect c id scene e).Keeps ↔ e.1.Leaves c id := by
  obtain ⟨h, heq⟩ | ⟨⟨hc, h⟩, heq⟩ | ⟨h, heq⟩ := effect_cases c id scene e <;> rw [heq]
  · exact iff_of_false (fun h => h) fun hleaves => hleaves.1 h
  · exact iff_of_false (fun h => h) fun hleaves => hleaves.2 hc h
  · exact iff_of_true trivial h

theorem age_eq_length {frames : List (PacketData × List InputEvent)}
    (h : ∀ e ∈ frames, e.1.Leaves c id) :
    Ageing.age next (effect c id) scene frames = frames.length := by
  induction frames generalizing scene with
  | nil => rfl
  | cons e frames ih =>
      obtain ⟨he, hframes⟩ := List.forall_mem_cons.mp h
      obtain ⟨hcreate, -⟩ | ⟨⟨hc, hdestroy⟩, -⟩ | ⟨-, heq⟩ := effect_cases c id scene e
      · exact absurd hcreate he.1
      · exact absurd hdestroy (he.2 hc)
      · rw [Ageing.age_cons, heq, ih hframes, Ageing.Effect.age, List.length_cons, Nat.add_comm]

theorem eachStep_keeps_iff {frames : List (PacketData × List InputEvent)} :
    EachStep next (fun scene e => (effect c id scene e).Keeps) scene frames ↔
      ∀ e ∈ frames, e.1.Leaves c id := by
  induction frames generalizing scene with
  | nil => simp
  | cons e frames ih => rw [eachStep_cons, keeps_iff, ih, List.forall_mem_cons]

theorem eachStep_acts (hc : c ≠ .player) (frames : List (PacketData × List InputEvent)) :
    EachStep next (Ageing.Acts next (effect c id) .move fun scene => (scene.sprites c)[id]?) new
      frames := eachStep_iff.mpr fun _ _ _ _ => acts hc

theorem exists_packet_of_sprite {frames : List (PacketData × List InputEvent)}
    {sprite : SpriteElement} (hc : c ≠ .player)
    (h : ((run next new frames).sprites c)[id]? = some sprite) :
    ∃ pre p inputs post, frames = pre ++ (p, inputs) :: post ∧
      p.announces c = some (.create id) ∧ (∀ e ∈ post, e.1.Leaves c id) ∧
      sprite = SpriteElement.move^[post.length + 1] (p.sprite c) := by
  obtain ⟨-, a, ha, -⟩ | ⟨pre, ⟨p, inputs⟩, post, a, rfl, hput, hkeeps, rfl⟩ :=
    (Ageing.slot_run_eq_some_iff (eachStep_acts hc frames)).mp h
  · cases c <;> simp [sprites, new] at ha
  have hleaves := eachStep_keeps_iff.mp hkeeps
  obtain ⟨hcreate, heq⟩ | ⟨-, heq⟩ | ⟨-, heq⟩ :=
    effect_cases c id (run next new pre) (p, inputs) <;> rw [hput] at heq <;> cases heq
  refine ⟨pre, p, inputs, post, rfl, hcreate, hleaves, ?_⟩
  rw [age_eq_length hleaves, Function.iterate_succ_apply]

theorem sprite_of_packet {pre post : List (PacketData × List InputEvent)} (hc : c ≠ .player)
    (hcreate : p.announces c = some (.create id)) (hleaves : ∀ e ∈ post, e.1.Leaves c id) :
    ((run next new (pre ++ (p, inputs) :: post)).sprites c)[id]? =
      some (SpriteElement.move^[post.length + 1] (p.sprite c)) := by
  refine (Ageing.slot_run_eq_some_iff (eachStep_acts hc _)).mpr (.inr
    ⟨pre, (p, inputs), post, (p.sprite c).move, rfl, ?_, eachStep_keeps_iff.mpr hleaves, ?_⟩)
  · unfold effect
    simp [hcreate]
  · rw [age_eq_length hleaves, Function.iterate_succ_apply]

/-- Nothing is ever put where `DESTROY_BULLET` looks for bullets. -/
theorem fastBulletSprites_run (frames : List (PacketData × List InputEvent)) :
    (run next new frames).fastBulletSprites = ∅ := by
  induction frames using List.reverseRecOn with
  | nil => rfl
  | append_singleton frames e ih =>
      have hinput : ((run next new frames).next e).fastBulletSprites =
          ((run next new frames).consume e.1).updatePositions.fastBulletSprites :=
        handleInput_frame (f := fastBulletSprites) fun _ _ _ _ => rfl
      rw [run_append, run_cons, run_nil, hinput, updatePositions, fastBulletSprites_consume ih]
      rfl

/-- An enemy, a boss or a bullet is drawn exactly if its id has been created and not been
destroyed since, which no bullet ever is. Its sprite is the one of the last CREATE packet,
moved in the frame of that packet and in every frame since. There are no fast bullets. -/
theorem deadReckoning (hc : c ≠ .player) (frames : List (PacketData × List InputEvent))
    (sprite : SpriteElement) :
    (((run next new frames).sprites c)[id]? = some sprite ↔
      ∃ pre p inputs post, frames = pre ++ (p, inputs) :: post ∧
        p.announces c = some (.create id) ∧ (∀ e ∈ post, e.1.Leaves c id) ∧
        sprite = SpriteElement.move^[post.length + 1] (p.sprite c)) ∧
    (run next new frames).fastBulletSprites = ∅ := by
  refine ⟨⟨exists_packet_of_sprite hc, ?_⟩, fastBulletSprites_run frames⟩
  rintro ⟨pre, p, inputs, post, rfl, hcreate, hleaves, rfl⟩
  exact sprite_of_packet hc hcreate hleaves

/-- A packet about an enemy. -/
def enemyPacket (type : PacketType) (id : Int32) : PacketData :=
  ⟨type.code, id, .finite 1000, .finite 300, .finite (-1), .finite 0⟩

theorem deadReckoning_enemy :
    ((run next new [(enemyPacket .createEnemy 0, []), (enemyPacket .createEnemy 1, []),
        (enemyPacket .destroyEnemy 0, [])]).sprites .enemy)[(1 : Int32)]? =
      some (SpriteElement.move^[2] ((enemyPacket .createEnemy 1).sprite .enemy)) := by
  refine (deadReckoning (c := .enemy) nofun _ _).1.mpr ⟨[(enemyPacket .createEnemy 0, [])],
    enemyPacket .createEnemy 1, [], [(enemyPacket .destroyEnemy 0, [])], rfl, by decide, ?_, rfl⟩
  intro e he
  obtain rfl := List.mem_singleton.mp he
  exact ⟨by decide, fun _ => by decide⟩

end GameScene

end BeeRType
