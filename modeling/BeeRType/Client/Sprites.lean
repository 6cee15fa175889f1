-- SUMMARY: The sprites that a scene draws for each class of objects, against the packets it has consumed.
import BeeRType.Client.GameScene
import BeeRType.Network.Announcement

/-!
# Sprites

A scene replays the CREATE and DESTROY packets: for players, enemies and bosses it
draws the ids that the packets leave. A DESTROY_BULLET packet however erases from
`fastBulletSprites_`, where no packet ever puts a sprite, so that a bullet that has
once been created is drawn for ever.
-/

open Cpp Std Transition Replay

namespace BeeRType

/-- What a packet in the mailbox says about the objects of a class. -/
def PacketData.announces (p : PacketData) (c : ObjectClass) : Option (Change Int32) :=
  (PacketType.ofCode? p.action).bind fun type => c.announces type p.serverId

/-- What a sequence of packets says about the objects of a class. -/
def announcedBy (c : ObjectClass) (packets : List PacketData) : List (Change Int32) :=
  packets.filterMap fun p => p.announces c

/-- The last CREATE or DESTROY packet of a class for an id is a CREATE. -/
def CreatedLast (c : ObjectClass) (packets : List PacketData) (id : Int32) : Prop :=
  ((announcedBy c packets).filter fun change => change.key = id).getLast?.any Change.isCreate = true

namespace GameScene

/-- The ids of the sprites that `drawSprites` draws for a class. -/
def drawn (scene : GameScene) : ObjectClass → Set Int32
  | .player => {id | id ∈ scene.playerSprites}
  | .enemy => {id | id ∈ scene.enemySprites}
  | .boss => {id | id ∈ scene.bossSprites}
  | .bullet => {id | id ∈ scene.bulletSprites ∨ id ∈ scene.fastBulletSprites}

/-- The scene after a packet has been consumed. -/
def consume (scene : GameScene) (p : PacketData) : GameScene := (scene.handleServerAction p).1

/-- The drawn sprites are those of the objects that exist by the packets, and a
packet touches the sprites of its own class and id only. -/
structure Follows (scene : GameScene) (packets : List PacketData) : Prop where
  drawn : ∀ c id, id ∈ (run consume scene packets).drawn c ↔ CreatedLast c packets id
  separate : ∀ (scene : GameScene) p c id, (∀ change, p.announces c = some change → change.key ≠ id) →
    (id ∈ (scene.consume p).drawn c ↔ id ∈ scene.drawn c)

variable {scene : GameScene} {p : PacketData} {packets : List PacketData} {c : ObjectClass}
  {id : Int32}

theorem mem_createSprites {type : SpriteType} {sprites : ExtTreeMap Int32 SpriteElement} :
    {id | id ∈ createSprites p type sprites} = insert p.serverId ({id | id ∈ sprites} : Set Int32) := by
  ext id
  rw [Set.mem_insert_iff, Set.mem_ofPred_eq, Set.mem_ofPred_eq, createSprites,
    ExtTreeMap.mem_insert, Std.compare_eq_iff_eq, eq_comm]

theorem mem_destroySprite {sprites : ExtTreeMap Int32 SpriteElement} :
    {id | id ∈ destroySprite p sprites} = ({id | id ∈ sprites} : Set Int32) \ {p.serverId} := by
  ext id
  rw [Set.mem_sdiff, Set.mem_singleton_iff, Set.mem_ofPred_eq, Set.mem_ofPred_eq, destroySprite,
    ExtTreeMap.mem_erase, Std.compare_ne_eq_iff_ne, and_comm, ne_comm]

/-- Moving a sprite neither adds nor removes one. -/
theorem drawn_updateSpritePosition : (scene.updateSpritePosition p).drawn = scene.drawn := by
  unfold updateSpritePosition
  split
  · rename_i spriteElement hsprite
    have hmem : p.serverId ∈ scene.playerSprites := by
      rw [ExtTreeMap.mem_iff_isSome_getElem?, hsprite]
      rfl
    funext c
    cases c with
    | player =>
        ext id
        simp only [drawn, Set.mem_ofPred_eq, ExtTreeMap.mem_insert, Std.compare_eq_iff_eq]
        exact ⟨fun h => h.elim (fun heq => heq ▸ hmem) fun h => h, .inr⟩
    | _ => rfl
  · rfl

/-- Players, enemies and bosses: a packet changes what is drawn as it says. -/
theorem drawn_consume (hc : c ≠ .bullet) : (scene.consume p).drawn c =
    match p.announces c with
    | some change => apply (scene.drawn c) change
    | none => scene.drawn c := by
  unfold consume handleServerAction applyAction PacketData.announces
  cases PacketType.ofCode? p.action with
  | none => rfl
  | some type =>
      cases type with
      | createPlayer => cases c <;> first | exact mem_createSprites | rfl
      | createEnemy => cases c <;> first | exact mem_createSprites | rfl
      | createBoss => cases c <;> first | exact mem_createSprites | rfl
      | createBullet => cases c <;> first | exact absurd rfl hc | rfl
      | destroyPlayer => cases c <;> first | exact mem_destroySprite | rfl
      | destroyEnemy => cases c <;> first | exact mem_destroySprite | rfl
      | destroyBoss => cases c <;> first | exact mem_destroySprite | rfl
      | destroyBullet => cases c <;> first | exact absurd rfl hc | rfl
      | change => rw [drawn_updateSpritePosition]; cases c <;> rfl
      | _ => cases c <;> rfl

/-- Bullets: a DESTROY_BULLET packet does not look at `bulletSprites_`. -/
theorem mem_drawn_consume_bullet : id ∈ (scene.consume p).drawn .bullet ↔
    match p.announces .bullet with
    | some (.create k) => id = k ∨ id ∈ scene.drawn .bullet
    | some (.destroy k) => id ∈ scene.bulletSprites ∨ id ∈ scene.fastBulletSprites ∧ id ≠ k
    | none => id ∈ scene.drawn .bullet := by
  unfold consume handleServerAction applyAction PacketData.announces
  cases PacketType.ofCode? p.action with
  | none => exact Iff.rfl
  | some type =>
      cases type with
      | createBullet =>
          simp only [drawn, Set.mem_ofPred_eq, createSprites, ExtTreeMap.mem_insert,
            Std.compare_eq_iff_eq, or_assoc]
          exact or_congr_left eq_comm
      | destroyBullet =>
          simp only [drawn, Set.mem_ofPred_eq, destroySprite, ExtTreeMap.mem_erase,
            Std.compare_ne_eq_iff_ne]
          exact or_congr_right (and_comm.trans (and_congr_right' ne_comm))
      | change => rw [drawn_updateSpritePosition]; exact Iff.rfl
      | _ => exact Iff.rfl

/-- No packet puts a sprite into `fastBulletSprites_`. -/
theorem fastBulletSprites_consume (h : scene.fastBulletSprites = ∅) :
    (scene.consume p).fastBulletSprites = ∅ := by
  unfold consume handleServerAction applyAction
  dsimp only
  split
  case h_5 =>
    unfold updateSpritePosition
    split <;> exact h
  case h_10 =>
    rw [h]
    exact ExtTreeMap.erase_empty
  all_goals exact h

theorem drawn_run (hc : c ≠ .bullet) :
    (run consume scene packets).drawn c = replay (scene.drawn c) (announcedBy c packets) := by
  induction packets generalizing scene with
  | nil => rfl
  | cons p packets ih =>
      rw [run_cons, ih, drawn_consume hc, announcedBy, announcedBy, List.filterMap_cons]
      cases p.announces c with
      | none => rfl
      | some change => rfl

/-- Every bullet that has been created is drawn, whatever has been destroyed. -/
theorem mem_drawn_run_bullet (h : scene.fastBulletSprites = ∅) :
    id ∈ (run consume scene packets).drawn .bullet ↔
      id ∈ scene.drawn .bullet ∨ id ∈ created (announcedBy .bullet packets) := by
  induction packets generalizing scene with
  | nil => simp [announcedBy]
  | cons p packets ih =>
      rw [run_cons, ih (fastBulletSprites_consume h), mem_drawn_consume_bullet, announcedBy,
        announcedBy, List.filterMap_cons]
      cases p.announces .bullet with
      | none => exact Iff.rfl
      | some change =>
          cases change with
          | create k => simp only [created_create, List.mem_cons]; tauto
          | destroy k => simp [drawn, h]

/-! ## The law -/

theorem createdLast_iff : CreatedLast c packets id ↔ id ∈ replay ∅ (announcedBy c packets) := by
  rw [CreatedLast, mem_replay]
  cases ((announcedBy c packets).filter fun change => change.key = id).getLast? with
  | none => simp
  | some change => simp

theorem separate (h : ∀ change, p.announces c = some change → change.key ≠ id) :
    id ∈ (scene.consume p).drawn c ↔ id ∈ scene.drawn c := by
  by_cases hc : c = .bullet
  · subst hc
    rw [mem_drawn_consume_bullet]
    cases hp : p.announces .bullet with
    | none => exact Iff.rfl
    | some change =>
        have hne := h change hp
        cases change with
        | create k => exact or_iff_right (Ne.symm hne)
        | destroy k => exact or_congr_right (and_iff_left (Ne.symm hne))
  · rw [drawn_consume hc]
    cases hp : p.announces c with
    | none => exact Iff.rfl
    | some change => exact mem_apply.trans (by rw [if_neg (h change hp)])

/-- From a scene without sprites, the drawn sprites follow the packets exactly if
DESTROY_BULLET is the last word on no bullet that has been created. -/
theorem follows_iff (hempty : ∀ c, scene.drawn c = ∅) (packets : List PacketData) :
    scene.Follows packets ↔
      ∀ id ∈ created (announcedBy .bullet packets), CreatedLast .bullet packets id := by
  have hfast : scene.fastBulletSprites = ∅ := by
    refine ExtTreeMap.eq_empty_iff_forall_not_mem.mpr fun id hid => ?_
    exact Set.eq_empty_iff_forall_notMem.mp (hempty .bullet) id (.inr hid)
  have hbullet : ∀ id, id ∈ (run consume scene packets).drawn .bullet ↔
      id ∈ created (announcedBy .bullet packets) := by
    intro id
    rw [mem_drawn_run_bullet hfast, hempty]
    exact or_iff_right (Set.notMem_empty id)
  constructor
  · intro h id hid
    exact (h.drawn .bullet id).mp ((hbullet id).mpr hid)
  · intro h
    refine ⟨fun c id => ?_, fun _ _ _ _ => separate⟩
    by_cases hc : c = .bullet
    · subst hc
      rw [hbullet]
      refine ⟨h id, fun hlast => ?_⟩
      have hcreated := mem_created_of_mem_replay (createdLast_iff.mp hlast)
      exact hcreated.resolve_left (Set.notMem_empty id)
    · rw [drawn_run hc, hempty, createdLast_iff]

/-- A packet about the bullet `7`. -/
def bulletPacket (type : PacketType) : PacketData :=
  ⟨type.code, 7, .finite 0, .finite 0, .finite 0, .finite 0⟩

theorem drawn_new (c : ObjectClass) : GameScene.new.drawn c = ∅ := by
  refine Set.eq_empty_of_forall_notMem fun id hid => ?_
  cases c with
  | bullet => exact hid.elim ExtTreeMap.not_mem_empty ExtTreeMap.not_mem_empty
  | _ => exact ExtTreeMap.not_mem_empty hid

/-- A bullet that is only created. -/
theorem follows_iff_created : GameScene.new.Follows [bulletPacket .createBullet] := by
  refine (follows_iff drawn_new [bulletPacket .createBullet]).mpr fun id hid => ?_
  obtain rfl : id = 7 := List.mem_singleton.mp hid
  unfold CreatedLast
  decide +kernel

/-- A bullet that is created and destroyed stays on the screen. -/
theorem not_follows_destroyed :
    ¬ GameScene.new.Follows [bulletPacket .createBullet, bulletPacket .destroyBullet] := by
  intro h
  have hdrawn : (7 : Int32) ∈ (run consume GameScene.new
      [bulletPacket .createBullet, bulletPacket .destroyBullet]).drawn .bullet :=
    .inl (by decide +kernel)
  have hlast := (h.drawn .bullet 7).mp hdrawn
  unfold CreatedLast at hlast
  exact absurd hlast (by decide +kernel)

end GameScene

end BeeRType
