-- SUMMARY: `checkCollisions`: collision detection, damage and score, and the removal of what has been hit or has left the screen.
import BeeRType.Game.State

/-!
# Collisions

The functions of `Game.cpp` behind `checkCollisions`. Their overloads differ in
the types of the two entities only; where the bodies differ, the entity is part
of the name.
-/

open Cpp Std

namespace BeeRType

namespace Game

/-! ## Detection -/

/-- `checkCollision`, all four overloads. The distance is compared by its square,
since it is a square root. -/
def checkCollision (entityA entityB : GameObject) (minDistance : ℚ) : Bool :=
  let posA := entityA.position
  let posB := entityB.position
  let widthA := 60
  let heightA := 80
  let widthB := 60
  let heightB := 80
  let distanceSq := (posA.x - posB.x) ^ 2 + (posA.y - posB.y) ^ 2
  if minDistance < 0 ∨ minDistance ^ 2 < distanceSq then
    decide (posA.x < posB.x + widthB) &&
      decide (posB.x < posA.x + widthA) &&
      decide (posA.y < posB.y + heightB) &&
      decide (posB.y < posA.y + heightA)
  else false

/-- `handleEntityADeath(Player&, ..)`. -/
def handlePlayerDeath (g : Game) (idA : Int) (damageA : ℚ) (checkHp : Bool) : Game :=
  if checkHp then
    let g := { g with players := g.players.modify idA fun p => p.updateHp damageA }
    match g.players[idA]? with
    | some p => if p.hp ≤ 0 then { g with deadPlayers := g.deadPlayers ++ [idA] } else g
    | none => g
  else { g with deadPlayers := g.deadPlayers ++ [idA] }

/-- `handleEntityADeath(Bullet&, ..)`. -/
def handleBulletDeath (g : Game) (idA : Int) : Game :=
  { g with deadBullets := g.deadBullets ++ [idA] }

/-- The loop `player.updateScore(amount)` over all players. -/
def updateScores (g : Game) (amount : ℚ) : Game :=
  { g with players := g.players.map fun _ p => p.updateScore amount }

/-- `handleEntityBDeath(Enemy&, ..)`: it does not look at the hit points. -/
def handleEnemyDeath (g : Game) (idB : Int) : Game :=
  { g with deadEnemies := g.deadEnemies ++ [idB] }.updateScores 5

/-- `handleEntityBDeath(Boss&, ..)`. -/
def handleBossDeath (g : Game) (idB : Int) : Game :=
  { g with deadBosses := g.deadBosses ++ [idB] }.updateScores 20

/-- The two loops of `detectCollisions`. The handlers change no position and no
key, so the entities can be listed beforehand. -/
def detectCollisions (entitiesA entitiesB : List (Int × GameObject))
    (handle : Game → Int → Int → Game) (g : Game) : Game :=
  let minDistance := 10
  entitiesA.foldl (fun g a => entitiesB.foldl (fun g b =>
    if checkCollision a.2 b.2 minDistance then handle g a.1 b.1 else g) g) g

def bulletEnemyCollisions (g : Game) : Game :=
  g.detectCollisions g.bullets.toList g.enemies.toList fun g idA idB =>
    (g.handleBulletDeath idA).handleEnemyDeath idB

def bulletBossCollisions (g : Game) : Game :=
  g.detectCollisions g.bullets.toList g.bosses.toList fun g idA idB =>
    (g.handleBulletDeath idA).handleBossDeath idB

/-- The players as entities of a collision. -/
def playerObjects (g : Game) : List (Int × GameObject) :=
  (g.players.map fun _ p => p.toGameObject).toList

def playerEnemyCollisions (g : Game) (damageA : ℚ) (checkHp : Bool) : Game :=
  g.detectCollisions g.playerObjects g.enemies.toList fun g idA idB =>
    (g.handlePlayerDeath idA damageA checkHp).handleEnemyDeath idB

def playerBossCollisions (g : Game) (damageA : ℚ) (checkHp : Bool) : Game :=
  g.detectCollisions g.playerObjects g.bosses.toList fun g idA idB =>
    (g.handlePlayerDeath idA damageA checkHp).handleBossDeath idB

def outOfBounds (o : GameObject) : Bool :=
  let pos := o.position
  decide (pos.x < -50) || decide (1280 < pos.x) || decide (pos.y < -50) || decide (720 < pos.y)

def detectOutOfBounds (g : Game) : Game :=
  let outside (entities : ExtTreeMap Int GameObject) : List Int :=
    (entities.toList.filter fun e => outOfBounds e.2).map (·.1)
  { g with
    deadBullets := g.deadBullets ++ outside g.bullets
    deadEnemies := g.deadEnemies ++ outside g.enemies
    deadBosses := g.deadBosses ++ outside g.bosses }

/-! ## Removal -/

/-- What a `removeEntities` loop leaves and does: the map, the ids still in the
list, and the ids removed, in order. -/
structure Removal (E : Type) where
  entities : ExtTreeMap Int E
  left : List Int
  removed : List Int

/-- The loop of `removeEntities`: an id that is not in the map stays in the
list. -/
def removeEntities {E : Type} (entities : ExtTreeMap Int E) : List Int → Removal E
  | [] => ⟨entities, [], []⟩
  | id :: rest =>
    if entities.contains id then
      let r := removeEntities (entities.erase id) rest
      { r with removed := id :: r.removed }
    else
      let r := removeEntities entities rest
      { r with left := id :: r.left }

/-- The packets that announce removed ids. -/
def destroyed (packetType : PacketType) (ids : List Int) : List Message :=
  ids.map fun id => ⟨packetType, ⟨toStringInt id, str "0", str "0", str "0", str "0"⟩⟩

def removeBullets (g : Game) : Game :=
  let r := removeEntities g.bullets g.deadBullets
  { g with
    bullets := r.entities
    deadBullets := r.left
    bulletIdWhoShot := r.removed.foldl (fun m id => m.erase id) g.bulletIdWhoShot
    broadcasts := g.broadcasts ++ destroyed .destroyBullet r.removed }

def removeEnemies (g : Game) : Game :=
  let r := removeEntities g.enemies g.deadEnemies
  { g with
    enemies := r.entities
    deadEnemies := r.left
    broadcasts := g.broadcasts ++ destroyed .destroyEnemy r.removed }

def removePlayers (g : Game) : Game :=
  let r := removeEntities g.players g.deadPlayers
  { g with
    players := r.entities
    deadPlayers := r.left
    totalPlayers := g.totalPlayers - r.removed.length
    broadcasts := g.broadcasts ++ destroyed .destroyPlayer r.removed }

def removeBosses (g : Game) : Game :=
  let r := removeEntities g.bosses g.deadBosses
  { g with
    bosses := r.entities
    deadBosses := r.left
    broadcasts := g.broadcasts ++ destroyed .destroyBoss r.removed }

/-- The four calls of `detectCollisions` in `checkCollisions`. -/
def detectAll (g : Game) : Game :=
  let g := g.bulletEnemyCollisions
  let g := g.bulletBossCollisions
  let g := g.playerEnemyCollisions (-10) true
  g.playerBossCollisions (-20) true

def checkCollisions (g : Game) : Game :=
  let g := g.detectAll
  let g := g.detectOutOfBounds
  let g := g.removeBullets
  let g := g.removeEnemies
  let g := g.removePlayers
  g.removeBosses

/-! ## Removal, by ids -/

section Removal

variable {E : Type} {entities : ExtTreeMap Int E} {ids : List Int} {id : Int}

theorem getElem?_removeEntities :
    (removeEntities entities ids).entities[id]? = if id ∈ ids then none else entities[id]? := by
  induction ids generalizing entities with
  | nil => simp [removeEntities]
  | cons first rest ih =>
      unfold removeEntities
      split
      · simp only [ih, ExtTreeMap.getElem?_erase, Std.compare_eq_iff_eq, List.mem_cons]
        split <;> rename_i hrest
        · simp [hrest]
        · simp [hrest, eq_comm]
      · rename_i hfirst
        simp only [ih, List.mem_cons]
        by_cases hid : id = first
        · subst hid
          have : entities[id]? = none := ExtTreeMap.getElem?_eq_none (by
            rwa [ExtTreeMap.mem_iff_contains])
          simp [this]
        · simp [hid]

theorem mem_removeEntities :
    id ∈ (removeEntities entities ids).entities ↔ id ∈ entities ∧ id ∉ ids := by
  simp only [ExtTreeMap.mem_iff_isSome_getElem?, getElem?_removeEntities]
  split <;> simp_all

theorem mem_of_mem_removed (h : id ∈ (removeEntities entities ids).removed) : id ∈ entities := by
  induction ids generalizing entities with
  | nil => cases h
  | cons first rest ih =>
      unfold removeEntities at h
      split at h
      · rename_i hfirst
        rcases List.mem_cons.mp h with rfl | h
        · exact ExtTreeMap.mem_iff_contains.mpr hfirst
        · exact ExtTreeMap.mem_of_mem_erase (ih h)
      · exact ih h

/-- An id that is listed twice is removed once. -/
theorem nodup_removed : (removeEntities entities ids).removed.Nodup := by
  induction ids generalizing entities with
  | nil => exact List.nodup_nil
  | cons first rest ih =>
      unfold removeEntities
      split
      · refine List.nodup_cons.mpr ⟨fun h => ?_, ih⟩
        simpa using ExtTreeMap.mem_erase.mp (mem_of_mem_removed h)
      · exact ih

/-- What is left is what has not been removed. -/
theorem mem_removeEntities_iff : id ∈ (removeEntities entities ids).entities ↔
    id ∈ entities ∧ id ∉ (removeEntities entities ids).removed := by
  induction ids generalizing entities with
  | nil => simp [removeEntities]
  | cons first rest ih =>
      unfold removeEntities
      split
      · simp only [ih, ExtTreeMap.mem_erase, List.mem_cons, not_or, Std.compare_ne_eq_iff_ne]
        rw [and_assoc, and_left_comm, ne_comm]
      · exact ih

theorem mem_of_mem_left (h : id ∈ (removeEntities entities ids).left) : id ∈ ids := by
  induction ids generalizing entities with
  | nil => cases h
  | cons first rest ih =>
      unfold removeEntities at h
      split at h
      · exact List.mem_cons_of_mem _ (ih h)
      · rcases List.mem_cons.mp h with rfl | h
        · exact List.mem_cons_self
        · exact List.mem_cons_of_mem _ (ih h)

theorem removeEntities_empty :
    removeEntities (∅ : ExtTreeMap Int E) ids = ⟨∅, ids, []⟩ := by
  induction ids with
  | nil => rfl
  | cons first rest ih => simp [removeEntities, ih]

end Removal

variable {g g' : Game} {i : Int} {p : Player}

@[simp] theorem detectOutOfBounds_players : g.detectOutOfBounds.players = g.players := rfl
@[simp] theorem detectOutOfBounds_deadPlayers : g.detectOutOfBounds.deadPlayers = g.deadPlayers := rfl
@[simp] theorem detectOutOfBounds_bullets : g.detectOutOfBounds.bullets = g.bullets := rfl
@[simp] theorem detectOutOfBounds_enemies : g.detectOutOfBounds.enemies = g.enemies := rfl
@[simp] theorem detectOutOfBounds_bosses : g.detectOutOfBounds.bosses = g.bosses := rfl
@[simp] theorem detectOutOfBounds_broadcasts : g.detectOutOfBounds.broadcasts = g.broadcasts := rfl

/-- The four calls of `removeEntities` in `checkCollisions`. -/
theorem removeAll_eq : g.removeBullets.removeEnemies.removePlayers.removeBosses = { g with
    bullets := (removeEntities g.bullets g.deadBullets).entities
    enemies := (removeEntities g.enemies g.deadEnemies).entities
    players := (removeEntities g.players g.deadPlayers).entities
    bosses := (removeEntities g.bosses g.deadBosses).entities
    deadBullets := (removeEntities g.bullets g.deadBullets).left
    deadEnemies := (removeEntities g.enemies g.deadEnemies).left
    deadPlayers := (removeEntities g.players g.deadPlayers).left
    deadBosses := (removeEntities g.bosses g.deadBosses).left
    bulletIdWhoShot := (removeEntities g.bullets g.deadBullets).removed.foldl
      (fun m id => m.erase id) g.bulletIdWhoShot
    totalPlayers := g.totalPlayers - (removeEntities g.players g.deadPlayers).removed.length
    broadcasts := g.broadcasts ++
      destroyed .destroyBullet (removeEntities g.bullets g.deadBullets).removed ++
      destroyed .destroyEnemy (removeEntities g.enemies g.deadEnemies).removed ++
      destroyed .destroyPlayer (removeEntities g.players g.deadPlayers).removed ++
      destroyed .destroyBoss (removeEntities g.bosses g.deadBosses).removed } := rfl

@[simp] theorem removeAll_bullets :
    g.removeBullets.removeEnemies.removePlayers.removeBosses.bullets =
      (removeEntities g.bullets g.deadBullets).entities := rfl

@[simp] theorem removeAll_enemies :
    g.removeBullets.removeEnemies.removePlayers.removeBosses.enemies =
      (removeEntities g.enemies g.deadEnemies).entities := rfl

@[simp] theorem removeAll_bosses :
    g.removeBullets.removeEnemies.removePlayers.removeBosses.bosses =
      (removeEntities g.bosses g.deadBosses).entities := rfl

@[simp] theorem removeAll_players :
    g.removeBullets.removeEnemies.removePlayers.removeBosses.players =
      (removeEntities g.players g.deadPlayers).entities := rfl

@[simp] theorem removeAll_deadBullets :
    g.removeBullets.removeEnemies.removePlayers.removeBosses.deadBullets =
      (removeEntities g.bullets g.deadBullets).left := rfl

@[simp] theorem removeAll_deadEnemies :
    g.removeBullets.removeEnemies.removePlayers.removeBosses.deadEnemies =
      (removeEntities g.enemies g.deadEnemies).left := rfl

@[simp] theorem removeAll_deadBosses :
    g.removeBullets.removeEnemies.removePlayers.removeBosses.deadBosses =
      (removeEntities g.bosses g.deadBosses).left := rfl

@[simp] theorem removeAll_deadPlayers :
    g.removeBullets.removeEnemies.removePlayers.removeBosses.deadPlayers =
      (removeEntities g.players g.deadPlayers).left := rfl

/-! ## What detection changes -/

/-- What detecting collisions leaves as it is: all positions, and everything that
is not score, hit points or a dead list. -/
structure Detected (g g' : Game) : Prop where
  objects : g'.players.map (fun _ p => p.toGameObject) = g.players.map fun _ p => p.toGameObject
  frame : g' = { g with
    players := g'.players
    deadPlayers := g'.deadPlayers
    deadEnemies := g'.deadEnemies
    deadBullets := g'.deadBullets
    deadBosses := g'.deadBosses }

namespace Detected

theorem refl : Detected g g := ⟨rfl, rfl⟩

theorem trans {m : Game} (h : Detected g m) (h' : Detected m g') : Detected g g' where
  objects := h'.objects.trans h.objects
  frame := h'.frame.trans (by rw [h.frame])

theorem bullets (h : Detected g g') : g'.bullets = g.bullets := by rw [h.frame]
theorem enemies (h : Detected g g') : g'.enemies = g.enemies := by rw [h.frame]
theorem bosses (h : Detected g g') : g'.bosses = g.bosses := by rw [h.frame]
theorem registry (h : Detected g g') : g'.registry = g.registry := by rw [h.frame]

theorem enemiesPerWave (h : Detected g g') : g'.enemiesPerWave = g.enemiesPerWave := by rw [h.frame]

theorem broadcasts (h : Detected g g') : g'.broadcasts = g.broadcasts := by rw [h.frame]

theorem mem_players (h : Detected g g') : i ∈ g'.players ↔ i ∈ g.players := by
  rw [← ExtTreeMap.mem_map (f := fun _ p => p.toGameObject), h.objects, ExtTreeMap.mem_map]

theorem playerObjects (h : Detected g g') : g'.playerObjects = g.playerObjects := by
  rw [Game.playerObjects, h.objects, Game.playerObjects]

theorem foldl {α : Type} {f : Game → α → Game} (hf : ∀ g a, Detected g (f g a)) (l : List α) :
    Detected g (l.foldl f g) := by
  induction l generalizing g with
  | nil => exact refl
  | cons a l ih => exact (hf g a).trans ih

end Detected

theorem updateScores_detected {amount : ℚ} : Detected g (g.updateScores amount) := by
  refine ⟨ExtTreeMap.ext_getElem? fun i => ?_, rfl⟩
  simp only [updateScores, ExtTreeMap.getElem?_map, Option.map_map]
  rfl

theorem handleBulletDeath_detected : Detected g (g.handleBulletDeath i) :=
  ⟨rfl, rfl⟩

theorem handleEnemyDeath_detected : Detected g (g.handleEnemyDeath i) :=
  Detected.trans (m := { g with deadEnemies := g.deadEnemies ++ [i] })
    ⟨rfl, rfl⟩ updateScores_detected

theorem handleBossDeath_detected : Detected g (g.handleBossDeath i) :=
  Detected.trans (m := { g with deadBosses := g.deadBosses ++ [i] })
    ⟨rfl, rfl⟩ updateScores_detected

theorem handlePlayerDeath_detected {damageA : ℚ} {checkHp : Bool} :
    Detected g (g.handlePlayerDeath i damageA checkHp) := by
  have hobjects : (g.players.modify i fun p => p.updateHp damageA).map (fun _ p => p.toGameObject) =
      g.players.map fun _ p => p.toGameObject := by
    refine ExtTreeMap.ext_getElem? fun j => ?_
    simp only [ExtTreeMap.getElem?_map, ExtTreeMap.getElem?_modify]
    split
    · rename_i hj
      rw [Std.compare_eq_iff_eq.mp hj]
      cases g.players[j]? <;> rfl
    · rfl
  unfold handlePlayerDeath
  split
  · dsimp only
    split
    · split
      · exact ⟨hobjects, rfl⟩
      · exact ⟨hobjects, rfl⟩
    · exact ⟨hobjects, rfl⟩
  · exact ⟨rfl, rfl⟩

theorem detectCollisions_detected {entitiesA entitiesB : List (Int × GameObject)}
    {handle : Game → Int → Int → Game} (h : ∀ g idA idB, Detected g (handle g idA idB)) :
    Detected g (g.detectCollisions entitiesA entitiesB handle) := by
  refine Detected.foldl (fun g a => Detected.foldl (fun g b => ?_) _) _
  split
  · exact h g a.1 b.1
  · exact .refl

theorem bulletEnemyCollisions_detected : Detected g g.bulletEnemyCollisions :=
  detectCollisions_detected fun _ _ _ => handleBulletDeath_detected.trans handleEnemyDeath_detected

theorem bulletBossCollisions_detected : Detected g g.bulletBossCollisions :=
  detectCollisions_detected fun _ _ _ => handleBulletDeath_detected.trans handleBossDeath_detected

theorem playerEnemyCollisions_detected {damageA : ℚ} {checkHp : Bool} :
    Detected g (g.playerEnemyCollisions damageA checkHp) :=
  detectCollisions_detected fun _ _ _ => handlePlayerDeath_detected.trans handleEnemyDeath_detected

theorem playerBossCollisions_detected {damageA : ℚ} {checkHp : Bool} :
    Detected g (g.playerBossCollisions damageA checkHp) :=
  detectCollisions_detected fun _ _ _ => handlePlayerDeath_detected.trans handleBossDeath_detected

/-! ## Damage -/

/-- The pairs of ids that collide, in the order in which the loops meet them. -/
def collidingPairs (entitiesA entitiesB : List (Int × GameObject)) : List (Int × Int) :=
  entitiesA.flatMap fun a =>
    (entitiesB.filter fun b => checkCollision a.2 b.2 10).map fun b => (a.1, b.1)

theorem detectCollisions_eq {entitiesA entitiesB : List (Int × GameObject)}
    {handle : Game → Int → Int → Game} :
    g.detectCollisions entitiesA entitiesB handle =
      (collidingPairs entitiesA entitiesB).foldl (fun g ab => handle g ab.1 ab.2) g := by
  simp only [detectCollisions, collidingPairs, List.foldl_flatMap, List.foldl_map, List.foldl_filter]

/-- How many of the entities an object collides with. -/
def hits (o : GameObject) (entities : ExtTreeMap Int GameObject) : Nat :=
  entities.toList.countP fun b => checkCollision o b.2 10

/-- How many of the entities collide with an object. -/
def hitBy (o : GameObject) (entities : ExtTreeMap Int GameObject) : Nat :=
  entities.toList.countP fun a => checkCollision a.2 o 10

section Pairs

variable {A B : ExtTreeMap Int GameObject} {o : GameObject}

/-- The loops meet each id once. -/
theorem pairwise_fst_ne : A.toList.Pairwise fun a b => a.1 ≠ b.1 :=
  A.distinct_keys_toList.imp fun h heq => h (Std.compare_eq_iff_eq.mpr heq)

/-- What is counted of the one entry with an id. -/
theorem countP_fst_eq {objects : List (Int × GameObject)}
    (hdistinct : objects.Pairwise fun a b => a.1 ≠ b.1) (hmem : (i, o) ∈ objects)
    (q : GameObject → Bool) :
    objects.countP (fun a => decide (a.1 = i) && q a.2) = (q o).toNat := by
  induction objects with
  | nil => cases hmem
  | cons a rest ih =>
      obtain ⟨hne, hrest⟩ := List.pairwise_cons.mp hdistinct
      rcases List.mem_cons.mp hmem with rfl | hmem
      · have hothers : rest.countP (fun a => decide (a.1 = i) && q a.2) = 0 := by
          refine List.countP_eq_zero.mpr fun b hb => ?_
          simpa using fun h : b.1 = i => absurd h.symm (hne b hb)
        rw [List.countP_cons, hothers]
        cases q o <;> simp
      · rw [List.countP_cons, ih hrest hmem]
        simp [hne _ hmem]

/-- An object of the outer loop is in as many pairs as it has hits. -/
theorem countP_fst_collidingPairs (ho : A[i]? = some o) :
    (collidingPairs A.toList B.toList).countP (fun ab => ab.1 = i) = hits o B := by
  have hmem : (i, o) ∈ A.toList := ExtTreeMap.mem_toList_iff_getElem?_eq_some.mpr ho
  have hdistinct : A.toList.Pairwise fun a b => a.1 ≠ b.1 := pairwise_fst_ne
  revert hmem hdistinct
  generalize A.toList = objects
  intro hmem hdistinct
  induction objects with
  | nil => cases hmem
  | cons a rest ih =>
      rw [List.pairwise_cons] at hdistinct
      simp only [collidingPairs, List.flatMap_cons, List.countP_append, List.countP_map] at ih ⊢
      rcases List.mem_cons.mp hmem with rfl | hrest
      · have hothers : (rest.flatMap fun a => (B.toList.filter fun b =>
            checkCollision a.2 b.2 10).map fun b => (a.1, b.1)).countP (fun ab => ab.1 = i) = 0 := by
          rw [List.countP_eq_zero]
          intro ab hab
          obtain ⟨a, ha, hab⟩ := List.mem_flatMap.mp hab
          obtain ⟨b, -, rfl⟩ := List.mem_map.mp hab
          simpa using (hdistinct.1 a ha).symm
        rw [hothers]
        simp [hits, List.countP_filter, Function.comp_def]
      · have hne : a.1 ≠ i := hdistinct.1 _ hrest
        simp [hne, Function.comp_def, ih hrest hdistinct.2]

/-- An object of the inner loop is in as many pairs as it is hit. -/
theorem countP_snd_collidingPairs (ho : B[i]? = some o) :
    (collidingPairs A.toList B.toList).countP (fun ab => ab.2 = i) = hitBy o A := by
  have hmem : (i, o) ∈ B.toList := ExtTreeMap.mem_toList_iff_getElem?_eq_some.mpr ho
  rw [hitBy]
  generalize A.toList = objects
  induction objects with
  | nil => rfl
  | cons a rest ih =>
      have hone : ((B.toList.filter fun b => checkCollision a.2 b.2 10).map fun b =>
          (a.1, b.1)).countP (fun ab => ab.2 = i) = (checkCollision a.2 o 10).toNat := by
        rw [List.countP_map, List.countP_filter]
        exact countP_fst_eq pairwise_fst_ne hmem fun b => checkCollision a.2 b 10
      rw [collidingPairs, List.flatMap_cons, List.countP_append, hone, List.countP_cons]
      rw [collidingPairs] at ih
      rw [ih]
      cases checkCollision a.2 o 10 <;> simp [Nat.add_comm]

end Pairs

/-- A player is in as many pairs as it has hits. -/
theorem countP_collidingPairs (hp : g.players[i]? = some p) {entities : ExtTreeMap Int GameObject} :
    (collidingPairs g.playerObjects entities.toList).countP (fun ab => ab.1 = i) =
      hits p.toGameObject entities := by
  refine countP_fst_collidingPairs ?_
  rw [ExtTreeMap.getElem?_map, hp]
  rfl

theorem players_handlePlayerDeath {idA : Int} {d : ℚ} :
    (g.handlePlayerDeath idA d true).players = g.players.modify idA fun p => p.updateHp d := by
  simp only [handlePlayerDeath, ↓reduceIte]
  split
  · split <;> rfl
  · rfl

/-- A player is listed if the hit leaves it no hit points. -/
theorem deadPlayers_handlePlayerDeath {idA : Int} {d : ℚ} :
    (g.handlePlayerDeath idA d true).deadPlayers =
      g.deadPlayers ++ if g.players[idA]?.any fun p => p.hp + d ≤ 0 then [idA] else [] := by
  simp only [handlePlayerDeath, ↓reduceIte, ExtTreeMap.getElem?_modify_self]
  cases g.players[idA]? with
  | none => exact (List.append_nil _).symm
  | some p =>
      have hhp : (p.updateHp d).hp = p.hp + d := rfl
      simp only [Option.map_some, Option.any_some, decide_eq_true_eq, hhp]
      split
      · rfl
      · exact (List.append_nil _).symm

theorem handlePlayerDeath_self {d : ℚ} (hp : g.players[i]? = some p) :
    (g.handlePlayerDeath i d true).players[i]? = some (p.updateHp d) ∧
      (i ∈ (g.handlePlayerDeath i d true).deadPlayers ↔ i ∈ g.deadPlayers ∨ p.hp + d ≤ 0) := by
  rw [players_handlePlayerDeath, ExtTreeMap.getElem?_modify_self, deadPlayers_handlePlayerDeath, hp]
  exact ⟨rfl, by simp⟩

theorem handlePlayerDeath_ne {idA : Int} {d : ℚ} (h : idA ≠ i) :
    (g.handlePlayerDeath idA d true).players[i]? = g.players[i]? ∧
      (i ∈ (g.handlePlayerDeath idA d true).deadPlayers ↔ i ∈ g.deadPlayers) := by
  rw [players_handlePlayerDeath, ExtTreeMap.getElem?_modify, if_neg (by simpa using h),
    deadPlayers_handlePlayerDeath]
  exact ⟨rfl, by simp [Ne.symm h]⟩

/-- Hit points run out at the first hit or at a later one exactly when they have
run out after the last. -/
theorem hp_nonpos_iff {hp d : ℚ} (hd : d < 0) (c : Nat) :
    hp + d ≤ 0 ∨ 0 < c ∧ hp + d + c * d ≤ 0 ↔ hp + (c + 1) * d ≤ 0 := by
  have hrest : (c : ℚ) * d ≤ 0 := mul_nonpos_of_nonneg_of_nonpos c.cast_nonneg hd.le
  constructor
  · rintro (h | ⟨-, h⟩) <;> linarith
  · intro h
    cases c with
    | zero => exact .inl (by simpa using h)
    | succ c => exact .inr ⟨c.succ_pos, by linarith⟩

/-- A player after `c` hits of `d` points each. -/
theorem foldl_handlePlayerDeath {d : ℚ} (hd : d < 0) (handleB : Game → Int → Game) (amount : ℚ)
    (hplayers : ∀ g idB, (handleB g idB).players = g.players.map fun _ p => p.updateScore amount)
    (hdead : ∀ g idB, (handleB g idB).deadPlayers = g.deadPlayers)
    (pairs : List (Int × Int)) (hp : g.players[i]? = some p)
    (hg' : g' = pairs.foldl (fun g ab => handleB (g.handlePlayerDeath ab.1 d true) ab.2) g)
    {c : Nat} (hc : c = pairs.countP fun ab => ab.1 = i) :
    (∃ p', g'.players[i]? = some p' ∧ p'.hp = p.hp + c * d ∧ p'.toGameObject = p.toGameObject) ∧
      (i ∈ g'.deadPlayers ↔ i ∈ g.deadPlayers ∨ 0 < c ∧ p.hp + c * d ≤ 0) := by
  induction pairs generalizing g p c with
  | nil =>
      subst hg' hc
      exact ⟨⟨p, hp, by simp, rfl⟩, by simp⟩
  | cons ab rest ih =>
      rw [List.foldl_cons] at hg'
      by_cases hab : ab.1 = i
      · obtain ⟨hself, hselfDead⟩ := handlePlayerDeath_self (d := d) hp
        have hstep : (handleB (g.handlePlayerDeath ab.1 d true) ab.2).players[i]? =
            some ((p.updateHp d).updateScore amount) := by
          rw [hplayers, ExtTreeMap.getElem?_map, hab, hself]
          rfl
        obtain ⟨⟨p', hp', hhp, hobject⟩, hdead'⟩ := ih hstep hg' rfl
        have hc' : (c : ℚ) = (rest.countP fun ab => ab.1 = i) + 1 := by
          rw [hc, List.countP_cons_of_pos (by simpa using hab)]
          push_cast
          rfl
        refine ⟨⟨p', hp', ?_, hobject⟩, ?_⟩
        · rw [hhp, hc']
          simp only [Player.updateScore, Player.updateHp]
          ring
        · rw [hdead', hdead, hab, hselfDead, or_assoc]
          have hpos : 0 < c := by
            rw [hc, List.countP_cons_of_pos (by simpa using hab)]
            exact Nat.succ_pos _
          rw [hc', and_iff_right hpos]
          exact or_congr_right (hp_nonpos_iff hd _)
      · obtain ⟨hother, hotherDead⟩ := handlePlayerDeath_ne (g := g) (d := d) hab
        have hstep : (handleB (g.handlePlayerDeath ab.1 d true) ab.2).players[i]? =
            some (p.updateScore amount) := by
          rw [hplayers, ExtTreeMap.getElem?_map, hother, hp]
          rfl
        obtain ⟨⟨p', hp', hhp, hobject⟩, hdead'⟩ := ih hstep hg' rfl
        rw [List.countP_cons_of_neg (by simpa using hab)] at hc
        subst hc
        exact ⟨⟨p', hp', hhp, hobject⟩, by rw [hdead', hdead, hotherDead]; rfl⟩

/-- A player outlives a call of `checkCollisions` if it is not already listed as
dead and has hit points left after its hits, if there are any. -/
def Survives (g : Game) (i : Int) (p : Player) : Prop :=
  i ∉ g.deadPlayers ∧
    (hits p.toGameObject g.enemies + hits p.toGameObject g.bosses = 0 ∨
      0 < p.hp - 10 * hits p.toGameObject g.enemies - 20 * hits p.toGameObject g.bosses)

/-- A player dies of the hits of one kind of enemy or of those of both. -/
theorem dead_iff_not_survives {k m : Nat} {hp : ℚ} {listed : Prop} :
    ((listed ∨ 0 < k ∧ hp + k * -10 ≤ 0) ∨ 0 < m ∧ hp + k * -10 + m * -20 ≤ 0) ↔
      ¬ (¬ listed ∧ (k + m = 0 ∨ 0 < hp - 10 * k - 20 * m)) := by
  have hm : (0 : ℚ) ≤ m := m.cast_nonneg
  rw [not_and, not_or, Std.not_lt]
  constructor
  · rintro ((hlisted | ⟨hk, hdead⟩) | ⟨hpos, hdead⟩) hnot
    · exact absurd hlisted hnot
    · exact ⟨by omega, by linarith⟩
    · exact ⟨by omega, by linarith⟩
  · intro h
    by_cases hlisted : listed
    · exact .inl (.inl hlisted)
    · obtain ⟨hhit, hdead⟩ := h hlisted
      rcases Nat.eq_zero_or_pos m with rfl | hpos
      · exact .inl (.inr ⟨by omega, by simp at hdead; linarith⟩)
      · exact .inr ⟨hpos, by linarith⟩

/-- The hit points and the dead list of the players are as before. -/
structure Unharmed (g g' : Game) : Prop where
  hps : g'.players.map (fun _ p => p.hp) = g.players.map fun _ p => p.hp
  deadPlayers : g'.deadPlayers = g.deadPlayers

namespace Unharmed

theorem refl : Unharmed g g := ⟨rfl, rfl⟩

theorem trans {m : Game} (h : Unharmed g m) (h' : Unharmed m g') : Unharmed g g' :=
  ⟨h'.hps.trans h.hps, h'.deadPlayers.trans h.deadPlayers⟩

theorem foldl {α : Type} {f : Game → α → Game} (hf : ∀ g a, Unharmed g (f g a)) (l : List α) :
    Unharmed g (l.foldl f g) := by
  induction l generalizing g with
  | nil => exact refl
  | cons a l ih => exact (hf g a).trans ih

end Unharmed

theorem updateScores_unharmed {amount : ℚ} : Unharmed g (g.updateScores amount) := by
  refine ⟨ExtTreeMap.ext_getElem? fun i => ?_, rfl⟩
  simp only [updateScores, ExtTreeMap.getElem?_map, Option.map_map]
  rfl

theorem bulletEnemyCollisions_unharmed : Unharmed g g.bulletEnemyCollisions := by
  rw [bulletEnemyCollisions, detectCollisions_eq]
  refine Unharmed.foldl (fun g ab => ?_) _
  exact Unharmed.trans (m := g.handleBulletDeath ab.1) ⟨rfl, rfl⟩ (Unharmed.trans
    (m := { g.handleBulletDeath ab.1 with deadEnemies := g.deadEnemies ++ [ab.2] })
    ⟨rfl, rfl⟩ updateScores_unharmed)

theorem bulletBossCollisions_unharmed : Unharmed g g.bulletBossCollisions := by
  rw [bulletBossCollisions, detectCollisions_eq]
  refine Unharmed.foldl (fun g ab => ?_) _
  exact Unharmed.trans (m := g.handleBulletDeath ab.1) ⟨rfl, rfl⟩ (Unharmed.trans
    (m := { g.handleBulletDeath ab.1 with deadBosses := g.deadBosses ++ [ab.2] })
    ⟨rfl, rfl⟩ updateScores_unharmed)

/-- A player that neither moves nor is harmed. -/
theorem exists_same_player (h : Detected g g') (h' : Unharmed g g') (hp : g.players[i]? = some p) :
    ∃ p', g'.players[i]? = some p' ∧ p'.toGameObject = p.toGameObject ∧ p'.hp = p.hp := by
  have hobject := congrArg (fun m => m[i]?) h.objects
  have hhp := congrArg (fun m => m[i]?) h'.hps
  simp only [ExtTreeMap.getElem?_map, hp, Option.map_some, Option.map_eq_some_iff] at hobject hhp
  obtain ⟨p', hp', hobject⟩ := hobject
  obtain ⟨p'', hp'', hhp⟩ := hhp
  cases hp'.symm.trans hp''
  exact ⟨p', hp', hobject, hhp⟩

/-- Each overload for players is one run of hits. -/
theorem playerEnemyCollisions_player {d : ℚ} (hd : d < 0) (hp : g.players[i]? = some p) {c : Nat}
    (hc : c = hits p.toGameObject g.enemies) :
    (∃ p', (g.playerEnemyCollisions d true).players[i]? = some p' ∧ p'.hp = p.hp + c * d ∧
        p'.toGameObject = p.toGameObject) ∧
      (i ∈ (g.playerEnemyCollisions d true).deadPlayers ↔
        i ∈ g.deadPlayers ∨ 0 < c ∧ p.hp + c * d ≤ 0) := by
  rw [← countP_collidingPairs hp] at hc
  exact foldl_handlePlayerDeath hd handleEnemyDeath 5
    (fun _ _ => rfl) (fun _ _ => rfl) _ hp (by rw [playerEnemyCollisions, detectCollisions_eq]) hc

theorem playerBossCollisions_player {d : ℚ} (hd : d < 0) (hp : g.players[i]? = some p) {c : Nat}
    (hc : c = hits p.toGameObject g.bosses) :
    (∃ p', (g.playerBossCollisions d true).players[i]? = some p' ∧ p'.hp = p.hp + c * d ∧
        p'.toGameObject = p.toGameObject) ∧
      (i ∈ (g.playerBossCollisions d true).deadPlayers ↔
        i ∈ g.deadPlayers ∨ 0 < c ∧ p.hp + c * d ≤ 0) := by
  rw [← countP_collidingPairs hp] at hc
  exact foldl_handlePlayerDeath hd handleBossDeath 20
    (fun _ _ => rfl) (fun _ _ => rfl) _ hp (by rw [playerBossCollisions, detectCollisions_eq]) hc

/-- The passes over the bullets come first, and harm no player. -/
theorem bulletPasses_detected : Detected g g.bulletEnemyCollisions.bulletBossCollisions :=
  bulletEnemyCollisions_detected.trans bulletBossCollisions_detected

theorem bulletPasses_unharmed : Unharmed g g.bulletEnemyCollisions.bulletBossCollisions :=
  bulletEnemyCollisions_unharmed.trans bulletBossCollisions_unharmed

theorem threePasses_detected : Detected g
    (g.bulletEnemyCollisions.bulletBossCollisions.playerEnemyCollisions (-10) true) :=
  bulletPasses_detected.trans playerEnemyCollisions_detected

theorem detectAll_detected : Detected g g.detectAll :=
  threePasses_detected.trans playerBossCollisions_detected

/-- A player after the four calls of `detectCollisions`. -/
theorem detectAll_player (hp : g.players[i]? = some p) :
    (∃ p', g.detectAll.players[i]? = some p' ∧
      p'.hp = p.hp - 10 * hits p.toGameObject g.enemies - 20 * hits p.toGameObject g.bosses) ∧
      (i ∈ g.detectAll.deadPlayers ↔ ¬ g.Survives i p) := by
  obtain ⟨p₁, hp₁, hobject₁, hhp₁⟩ :=
    exists_same_player bulletPasses_detected bulletPasses_unharmed hp
  obtain ⟨⟨p₂, hp₂, hhp₂, hobject₂⟩, hdead₂⟩ :=
    playerEnemyCollisions_player (d := -10) (by norm_num) hp₁ rfl
  obtain ⟨⟨p₃, hp₃, hhp₃, -⟩, hdead₃⟩ :=
    playerBossCollisions_player (d := -20) (by norm_num) hp₂ rfl
  refine ⟨⟨p₃, hp₃, ?_⟩, ?_⟩
  · rw [hhp₃, hhp₂, hhp₁, threePasses_detected.bosses, hobject₂, hobject₁,
      bulletPasses_detected.enemies]
    ring
  · rw [detectAll, hdead₃, hdead₂, bulletPasses_unharmed.deadPlayers, hhp₂,
      threePasses_detected.bosses, hobject₂, hobject₁, hhp₁, bulletPasses_detected.enemies]
    exact dead_iff_not_survives

/-! ## What is left -/

theorem checkCollisions_eq :
    g.checkCollisions =
      g.detectAll.detectOutOfBounds.removeBullets.removeEnemies.removePlayers.removeBosses := rfl

theorem getElem?_of_removeEntities {E : Type} {entities : ExtTreeMap Int E} {ids : List Int} {e : E}
    (h : (removeEntities entities ids).entities[i]? = some e) : entities[i]? = some e := by
  rw [getElem?_removeEntities] at h
  split at h
  · cases h
  · exact h

/-- The bullets that are left are those that no list of dead ones names. -/
theorem bullets_checkCollisions : g.checkCollisions.bullets =
    (removeEntities g.bullets g.detectAll.detectOutOfBounds.deadBullets).entities := by
  rw [checkCollisions_eq, removeAll_bullets, detectOutOfBounds_bullets, detectAll_detected.bullets]

theorem enemies_checkCollisions : g.checkCollisions.enemies =
    (removeEntities g.enemies g.detectAll.detectOutOfBounds.deadEnemies).entities := by
  rw [checkCollisions_eq, removeAll_enemies, detectOutOfBounds_enemies, detectAll_detected.enemies]

theorem bosses_checkCollisions : g.checkCollisions.bosses =
    (removeEntities g.bosses g.detectAll.detectOutOfBounds.deadBosses).entities := by
  rw [checkCollisions_eq, removeAll_bosses, detectOutOfBounds_bosses, detectAll_detected.bosses]

theorem players_checkCollisions : g.checkCollisions.players =
    (removeEntities g.detectAll.players g.detectAll.deadPlayers).entities := by
  rw [checkCollisions_eq, removeAll_players, detectOutOfBounds_players,
    detectOutOfBounds_deadPlayers]

/-- The players that a call of `checkCollisions` leaves. -/
theorem mem_players_checkCollisions :
    i ∈ g.checkCollisions.players ↔ ∃ p, g.players[i]? = some p ∧ g.Survives i p := by
  have hmem : i ∈ g.checkCollisions.players ↔ i ∈ g.players ∧ i ∉ g.detectAll.deadPlayers := by
    rw [players_checkCollisions, mem_removeEntities, detectAll_detected.mem_players]
  rw [hmem, ExtTreeMap.mem_iff_isSome_getElem?, Option.isSome_iff_exists]
  constructor
  · rintro ⟨⟨p, hp⟩, hdead⟩
    rw [(detectAll_player hp).2, not_not] at hdead
    exact ⟨p, hp, hdead⟩
  · rintro ⟨p, hp, hsurvives⟩
    refine ⟨⟨p, hp⟩, ?_⟩
    rw [(detectAll_player hp).2, not_not]
    exact hsurvives

theorem getElem?_bullets_checkCollisions {o : Bullet}
    (h : g.checkCollisions.bullets[i]? = some o) : g.bullets[i]? = some o := by
  rw [bullets_checkCollisions] at h
  exact getElem?_of_removeEntities h

theorem getElem?_enemies_checkCollisions {o : Enemy}
    (h : g.checkCollisions.enemies[i]? = some o) : g.enemies[i]? = some o := by
  rw [enemies_checkCollisions] at h
  exact getElem?_of_removeEntities h

theorem getElem?_bosses_checkCollisions {o : Boss}
    (h : g.checkCollisions.bosses[i]? = some o) : g.bosses[i]? = some o := by
  rw [bosses_checkCollisions] at h
  exact getElem?_of_removeEntities h

/-- A player that is left stands where it stood. -/
theorem getElem?_players_checkCollisions (h : g.checkCollisions.players[i]? = some p) :
    ∃ q, g.players[i]? = some q ∧ p.toGameObject = q.toGameObject := by
  rw [players_checkCollisions] at h
  have hleft : g.detectAll.players[i]? = some p := getElem?_of_removeEntities h
  have hobject := congrArg (fun m => m[i]?) (detectAll_detected (g := g)).objects
  simp only [ExtTreeMap.getElem?_map, hleft, Option.map_some] at hobject
  obtain ⟨q, hq, heq⟩ := Option.map_eq_some_iff.mp hobject.symm
  exact ⟨q, hq, heq.symm⟩

/-! ## What is listed as dead -/

section Dead

variable {entitiesA entitiesB : List (Int × GameObject)} {handle : Game → Int → Int → Game}
  {a b : Int} {d : ℚ} {checkHp : Bool}

theorem mem_collidingPairs : (a, b) ∈ collidingPairs entitiesA entitiesB ↔
    ∃ o o', (a, o) ∈ entitiesA ∧ (b, o') ∈ entitiesB ∧ checkCollision o o' 10 = true := by
  simp only [collidingPairs, List.mem_flatMap, List.mem_map, List.mem_filter, Prod.exists,
    Prod.mk.injEq]
  constructor
  · rintro ⟨a', o, ha, b', o', ⟨hb, hcollide⟩, rfl, rfl⟩
    exact ⟨o, o', ha, hb, hcollide⟩
  · rintro ⟨o, o', ha, hb, hcollide⟩
    exact ⟨a, o, ha, b, o', ⟨hb, hcollide⟩, rfl, rfl⟩

/-- The two loops meet each pair of ids once. -/
theorem nodup_collidingPairs {A B : ExtTreeMap Int GameObject} :
    (collidingPairs A.toList B.toList).Nodup := by
  have hkeys : ∀ M : ExtTreeMap Int GameObject, (M.toList.map Prod.fst).Nodup := fun M =>
    List.pairwise_map.mpr pairwise_fst_ne
  refine List.nodup_flatMap.mpr ⟨fun x _ => ?_, ?_⟩
  · have hsub := ((hkeys B).sublist (List.filter_sublist.map Prod.fst) :
      ((B.toList.filter fun b => checkCollision x.2 b.2 10).map Prod.fst).Nodup)
    have := hsub.map (f := fun j => (x.1, j)) fun j k hjk => congrArg Prod.snd hjk
    rwa [List.map_map] at this
  · refine (List.pairwise_map.mp (hkeys A)).imp fun hne => ?_
    intro ab hab hab'
    obtain ⟨b, -, rfl⟩ := List.mem_map.mp hab
    obtain ⟨b', -, heq⟩ := List.mem_map.mp hab'
    exact hne (congrArg Prod.fst heq).symm

/-- A dead list to which each collision adds one of the two ids. -/
theorem dead_detectCollisions (dead : Game → List Int) (id : Int × Int → Int)
    (h : ∀ g ab, dead (handle g ab.1 ab.2) = dead g ++ [id ab]) :
    dead (g.detectCollisions entitiesA entitiesB handle) =
      dead g ++ (collidingPairs entitiesA entitiesB).map id := by
  rw [detectCollisions_eq]
  generalize collidingPairs entitiesA entitiesB = pairs
  induction pairs generalizing g with
  | nil => exact (List.append_nil _).symm
  | cons ab pairs ih => rw [List.foldl_cons, ih, h, List.map_cons, ← List.append_cons]

/-- A dead list that the collisions do not touch. -/
theorem dead_detectCollisions_eq (dead : Game → List Int)
    (h : ∀ g a b, dead (handle g a b) = dead g) :
    dead (g.detectCollisions entitiesA entitiesB handle) = dead g := by
  rw [detectCollisions_eq]
  generalize collidingPairs entitiesA entitiesB = pairs
  induction pairs generalizing g with
  | nil => rfl
  | cons ab pairs ih => rw [List.foldl_cons, ih, h]

theorem handlePlayerDeath_frame (dead : Game → List Int)
    (h : ∀ g players deadPlayers,
      dead { g with players := players, deadPlayers := deadPlayers } = dead g) :
    dead (g.handlePlayerDeath a d checkHp) = dead g := by
  unfold handlePlayerDeath
  dsimp only
  split
  · split
    · split
      · exact h g _ _
      · exact h g _ g.deadPlayers
    · exact h g _ g.deadPlayers
  · exact h g g.players _

theorem bulletEnemyCollisions_dead :
    g.bulletEnemyCollisions.deadBullets = g.deadBullets ++
        (collidingPairs g.bullets.toList g.enemies.toList).map Prod.fst ∧
      g.bulletEnemyCollisions.deadEnemies = g.deadEnemies ++
        (collidingPairs g.bullets.toList g.enemies.toList).map Prod.snd ∧
      g.bulletEnemyCollisions.deadBosses = g.deadBosses :=
  ⟨dead_detectCollisions deadBullets Prod.fst fun _ _ => rfl,
    dead_detectCollisions deadEnemies Prod.snd fun _ _ => rfl,
    dead_detectCollisions_eq deadBosses fun _ _ _ => rfl⟩

theorem bulletBossCollisions_dead :
    g.bulletBossCollisions.deadBullets = g.deadBullets ++
        (collidingPairs g.bullets.toList g.bosses.toList).map Prod.fst ∧
      g.bulletBossCollisions.deadEnemies = g.deadEnemies ∧
      g.bulletBossCollisions.deadBosses = g.deadBosses ++
        (collidingPairs g.bullets.toList g.bosses.toList).map Prod.snd :=
  ⟨dead_detectCollisions deadBullets Prod.fst fun _ _ => rfl,
    dead_detectCollisions_eq deadEnemies fun _ _ _ => rfl,
    dead_detectCollisions deadBosses Prod.snd fun _ _ => rfl⟩

theorem playerEnemyCollisions_dead :
    (g.playerEnemyCollisions d checkHp).deadBullets = g.deadBullets ∧
      (g.playerEnemyCollisions d checkHp).deadEnemies = g.deadEnemies ++
        (collidingPairs g.playerObjects g.enemies.toList).map Prod.snd ∧
      (g.playerEnemyCollisions d checkHp).deadBosses = g.deadBosses := by
  refine ⟨dead_detectCollisions_eq deadBullets fun _ _ _ => ?_,
    dead_detectCollisions deadEnemies Prod.snd fun _ ab => ?_,
    dead_detectCollisions_eq deadBosses fun _ _ _ => ?_⟩
  · exact handlePlayerDeath_frame deadBullets fun _ _ _ => rfl
  · exact congrArg (· ++ [ab.2]) (handlePlayerDeath_frame deadEnemies fun _ _ _ => rfl)
  · exact handlePlayerDeath_frame deadBosses fun _ _ _ => rfl

theorem playerBossCollisions_dead :
    (g.playerBossCollisions d checkHp).deadBullets = g.deadBullets ∧
      (g.playerBossCollisions d checkHp).deadEnemies = g.deadEnemies ∧
      (g.playerBossCollisions d checkHp).deadBosses = g.deadBosses ++
        (collidingPairs g.playerObjects g.bosses.toList).map Prod.snd := by
  refine ⟨dead_detectCollisions_eq deadBullets fun _ _ _ => ?_,
    dead_detectCollisions_eq deadEnemies fun _ _ _ => ?_,
    dead_detectCollisions deadBosses Prod.snd fun _ ab => ?_⟩
  · exact handlePlayerDeath_frame deadBullets fun _ _ _ => rfl
  · exact handlePlayerDeath_frame deadEnemies fun _ _ _ => rfl
  · exact congrArg (· ++ [ab.2]) (handlePlayerDeath_frame deadBosses fun _ _ _ => rfl)

/-- Bullets die of the enemies and bosses they hit, enemies and bosses of the bullets
and players that hit them. -/
theorem detectAll_deadObjects :
    g.detectAll.deadBullets = g.deadBullets ++
        (collidingPairs g.bullets.toList g.enemies.toList).map Prod.fst ++
        (collidingPairs g.bullets.toList g.bosses.toList).map Prod.fst ∧
      g.detectAll.deadEnemies = g.deadEnemies ++
        (collidingPairs g.bullets.toList g.enemies.toList).map Prod.snd ++
        (collidingPairs g.playerObjects g.enemies.toList).map Prod.snd ∧
      g.detectAll.deadBosses = g.deadBosses ++
        (collidingPairs g.bullets.toList g.bosses.toList).map Prod.snd ++
        (collidingPairs g.playerObjects g.bosses.toList).map Prod.snd := by
  have hone : Detected g g.bulletEnemyCollisions := bulletEnemyCollisions_detected
  have htwo : Detected g g.bulletEnemyCollisions.bulletBossCollisions := bulletPasses_detected
  have hthree : Detected g
      (g.bulletEnemyCollisions.bulletBossCollisions.playerEnemyCollisions (-10) true) :=
    threePasses_detected
  refine ⟨?_, ?_, ?_⟩
  · rw [detectAll, playerBossCollisions_dead.1, playerEnemyCollisions_dead.1,
      bulletBossCollisions_dead.1, bulletEnemyCollisions_dead.1, hone.bullets, hone.bosses]
  · rw [detectAll, playerBossCollisions_dead.2.1, playerEnemyCollisions_dead.2.1,
      bulletBossCollisions_dead.2.1, bulletEnemyCollisions_dead.2.1, htwo.playerObjects, htwo.enemies]
  · rw [detectAll, playerBossCollisions_dead.2.2, playerEnemyCollisions_dead.2.2,
      bulletBossCollisions_dead.2.2, bulletEnemyCollisions_dead.2.2, hthree.playerObjects,
      hthree.bosses, hone.bullets, hone.bosses]

/-- What `checkCollisions` leaves has been hit by nothing. -/
theorem not_mem_checkCollisions :
    ((∃ b, (i, b) ∈ collidingPairs g.bullets.toList g.enemies.toList ∨
        (i, b) ∈ collidingPairs g.bullets.toList g.bosses.toList) →
      i ∉ g.checkCollisions.bullets) ∧
    ((∃ a, (a, i) ∈ collidingPairs g.bullets.toList g.enemies.toList ∨
        (a, i) ∈ collidingPairs g.playerObjects g.enemies.toList) →
      i ∉ g.checkCollisions.enemies) ∧
    ((∃ a, (a, i) ∈ collidingPairs g.bullets.toList g.bosses.toList ∨
        (a, i) ∈ collidingPairs g.playerObjects g.bosses.toList) →
      i ∉ g.checkCollisions.bosses) := by
  obtain ⟨hbullets, henemies, hbosses⟩ := detectAll_deadObjects (g := g)
  rw [bullets_checkCollisions, enemies_checkCollisions, bosses_checkCollisions]
  refine ⟨?_, ?_, ?_⟩
  · rintro ⟨b, hb⟩ hleft
    refine (mem_removeEntities.mp hleft).2 (List.mem_append_left _ ?_)
    rw [hbullets, List.append_assoc]
    refine List.mem_append_right _ (List.mem_append.mpr ?_)
    exact hb.imp (List.mem_map_of_mem (f := Prod.fst)) (List.mem_map_of_mem (f := Prod.fst))
  · rintro ⟨a, ha⟩ hleft
    refine (mem_removeEntities.mp hleft).2 (List.mem_append_left _ ?_)
    rw [henemies, List.append_assoc]
    refine List.mem_append_right _ (List.mem_append.mpr ?_)
    exact ha.imp (List.mem_map_of_mem (f := Prod.snd)) (List.mem_map_of_mem (f := Prod.snd))
  · rintro ⟨a, ha⟩ hleft
    refine (mem_removeEntities.mp hleft).2 (List.mem_append_left _ ?_)
    rw [hbosses, List.append_assoc]
    refine List.mem_append_right _ (List.mem_append.mpr ?_)
    exact ha.imp (List.mem_map_of_mem (f := Prod.snd)) (List.mem_map_of_mem (f := Prod.snd))

end Dead

end Game

end BeeRType
