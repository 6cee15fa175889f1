-- SUMMARY: The entities of the stored objects: when spawning fails, and when an entity identifies an object.
import BeeRType.Base.Entries
import BeeRType.Game.Calls

/-!
# Entities of objects

A constructor spawns the entity of its object in a copy of the game's registry, so
that the registry itself never gives an entity out. The kill functions however kill
in the registry itself. All objects have entity `0`, and once one of them has been
killed no further object can be made.
-/

open Cpp Std Transition

namespace BeeRType

/-! ## The registry that is copied -/

/-- A registry in which nothing has been spawned and at most entity `0` killed. -/
structure Unspawned (r : Registry Component) : Prop where
  next : r.nextEntity = 0
  dead : ∀ e ∈ r.deadEntities, e = 0
  fresh : r.deadEntities = [] → r = Game.registerComponents .new

namespace Unspawned

variable {r : Registry Component} {o : GameObject} {x y : ℚ}

theorem new : Unspawned (Game.registerComponents .new) :=
  ⟨rfl, fun _ he => absurd he List.not_mem_nil, fun _ => rfl⟩

theorem killEntity (hr : Unspawned r) : Unspawned (r.killEntity 0) where
  next := Registry.nextEntity_killEntity.trans hr.next
  dead := by
    intro e he
    rw [Registry.deadEntities_killEntity] at he
    rcases List.mem_append.mp he with he | he
    · exact hr.dead e he
    · exact List.mem_singleton.mp he
  fresh := by
    intro hnil
    rw [Registry.deadEntities_killEntity] at hnil
    exact absurd hnil (List.append_ne_nil_of_right_ne_nil _ (List.cons_ne_nil _ _))

/-- An object can be made only while nothing has been killed, and has entity `0`:
a killed entity is given out again, but does not exist in the copy. -/
theorem new_ok (hr : Unspawned r) (h : GameObject.new r x y = .ok o) :
    o.entity = 0 ∧ r.deadEntities = [] := by
  obtain ⟨hentity, -, hexists⟩ := GameObject.new_ok h
  cases hdead : r.deadEntities.getLast? with
  | none =>
      have hnil : r.deadEntities = [] := List.getLast?_eq_none_iff.mp hdead
      refine ⟨?_, hnil⟩
      rw [hentity, Registry.spawnEntity, hdead]
      exact hr.next
  | some e =>
      simp [Registry.spawnEntity, hdead, Registry.entityExists, hr.next] at hexists

theorem exists_new_iff (hr : Unspawned r) :
    (∃ o, GameObject.new r x y = .ok o) ↔ r.deadEntities = [] := by
  constructor
  · rintro ⟨o, ho⟩
    exact (hr.new_ok ho).2
  · intro hnil
    rw [hr.fresh hnil]
    exact GameObject.exists_new

end Unspawned

namespace Game

variable {g g' : Game} {id playerId : Int} {x y : ℚ}

/-! ## All objects have the same entity -/

structure EntityInv (g : Game) : Prop where
  registry : Unspawned g.registry
  players : AllEntries (fun p : Player => p.entity = 0) g.players
  enemies : AllEntries (fun o : GameObject => o.entity = 0) g.enemies
  bullets : AllEntries (fun o : GameObject => o.entity = 0) g.bullets
  bosses : AllEntries (fun o : GameObject => o.entity = 0) g.bosses

theorem entityInv_new : EntityInv new := ⟨.new, .empty, .empty, .empty, .empty⟩

theorem EntityInv.player_new (hg : EntityInv g) {p : Player} (h : Player.new g.registry x y = .ok p) :
    p.entity = 0 := by
  obtain ⟨o, ho, h⟩ := Fallible.bind_eq_ok.mp h
  obtain rfl := Fallible.pure_eq_ok.mp h
  exact (hg.registry.new_ok ho).1

theorem EntityInv.spawnPlayer (hg : EntityInv g) (h : g.spawnPlayer playerId x y = .ok g') :
    EntityInv g' := by
  obtain ⟨player, hp, score, hplayer, rfl⟩ := spawnPlayer_new h
  exact ⟨hg.registry, (hg.players.insertIfNew (hg.player_new hplayer)).modify fun _ _ h => h,
    hg.enemies, hg.bullets, hg.bosses⟩

theorem EntityInv.spawnBullet (hg : EntityInv g) (h : g.spawnBullet playerId = .ok g') :
    EntityInv g' := by
  obtain rfl | ⟨player, bullet, -, hbullet, rfl⟩ := spawnBullet_new h
  · exact hg
  · exact ⟨hg.registry, hg.players, hg.enemies,
      hg.bullets.insertIfNew (hg.registry.new_ok hbullet).1, hg.bosses⟩

theorem EntityInv.spawnEnemy (hg : EntityInv g) (h : g.spawnEnemy id x y = .ok g') :
    EntityInv g' := by
  obtain ⟨enemy, henemy, rfl⟩ := spawnEnemy_new h
  exact ⟨hg.registry, hg.players, hg.enemies.insertIfNew (hg.registry.new_ok henemy).1,
    hg.bullets, hg.bosses⟩

theorem EntityInv.spawnBoss (hg : EntityInv g) (h : g.spawnBoss id x y = .ok g') :
    EntityInv g' := by
  obtain ⟨boss, hboss, rfl⟩ := spawnBoss_new h
  exact ⟨hg.registry, hg.players, hg.enemies, hg.bullets,
    hg.bosses.insertIfNew (hg.registry.new_ok hboss).1⟩

theorem EntityInv.handlePlayerMove (hg : EntityInv g) {actionId : Int}
    (h : g.handlePlayerMove playerId actionId = .ok g') : EntityInv g' := by
  obtain ⟨player, positions, messages, -, -, rfl⟩ := handlePlayerMove_new h
  exact ⟨hg.registry, hg.players.modify fun _ _ h => GameObject.move_entity.trans h,
    hg.enemies, hg.bullets, hg.bosses⟩

theorem EntityInv.checkCollisions (hg : EntityInv g) : EntityInv g.checkCollisions where
  registry := by
    rw [checkCollisions_keeps.registry]
    exact hg.registry
  players := by
    intro i p hp
    obtain ⟨q, hq, heq⟩ := getElem?_players_checkCollisions hp
    rw [heq]
    exact hg.players i q hq
  enemies := fun i o ho => hg.enemies i o (getElem?_enemies_checkCollisions ho)
  bullets := fun i o ho => hg.bullets i o (getElem?_bullets_checkCollisions ho)
  bosses := fun i o ho => hg.bosses i o (getElem?_bosses_checkCollisions ho)

theorem entityInv_rule : Rule fun g g' => EntityInv g → EntityInv g' where
  refl := fun _ hg => hg
  trans := fun h h' hg => h' (h hg)
  record := by
    rintro g g' heq hg
    rw [heq]
    exact ⟨hg.registry, hg.players, hg.enemies, hg.bullets, hg.bosses⟩
  report := fun _ _ _ hg => ⟨hg.registry, hg.players, hg.enemies, hg.bullets, hg.bosses⟩
  moveBullets := fun _ hg => ⟨hg.registry, hg.players, hg.enemies,
    hg.bullets.map fun _ _ h => GameObject.move_entity.trans h, hg.bosses⟩
  moveEnemies := fun _ hg => ⟨hg.registry, hg.players,
    hg.enemies.map fun _ _ h => GameObject.move_entity.trans h, hg.bullets,
    hg.bosses.map fun _ _ h => GameObject.move_entity.trans h⟩
  handlePlayerMove := fun h hg => hg.handlePlayerMove h
  spawnBullet := fun h hg => hg.spawnBullet h
  spawnNextEnemy := by
    rintro g draw g' h hg
    exact EntityInv.spawnEnemy (g := { g with enemyId := g.enemyId + 1 })
      ⟨hg.registry, hg.players, hg.enemies, hg.bullets, hg.bosses⟩ h
  spawnNextBoss := by
    rintro g draw g' h hg
    exact EntityInv.spawnBoss (g := { g with bossId := g.bossId + 1 })
      ⟨hg.registry, hg.players, hg.enemies, hg.bullets, hg.bosses⟩ h
  checkCollisions := fun _ hg => hg.checkCollisions

theorem EntityInv.initializePlayers (hg : EntityInv g) {numPlayers : Int}
    (h : g.initializePlayers numPlayers = .ok g') : EntityInv g' :=
  initializePlayers_rule (P := fun _ b => EntityInv b) h
    ⟨hg.registry, hg.players, hg.enemies, hg.bullets, hg.bosses⟩
    fun _ _ _ _ hb hspawn => hb.spawnPlayer hspawn

theorem EntityInv.stop (hg : EntityInv g) : EntityInv g.stop :=
  ⟨hg.registry, .empty, .empty, .empty, .empty⟩

theorem EntityInv.checkPlayersAlive (hg : EntityInv g) (numClients : Nat) :
    EntityInv (g.checkPlayersAlive numClients).2 := by
  have htotal : EntityInv { g with totalPlayers := numClients } :=
    ⟨hg.registry, hg.players, hg.enemies, hg.bullets, hg.bosses⟩
  unfold Game.checkPlayersAlive
  dsimp only
  split
  · exact ⟨hg.registry, .empty, .empty, .empty, .empty⟩
  · exact htotal

/-! ## Killing -/

theorem mem_objectsOf {c : ObjectClass} {o : Int × GameObject} (h : o ∈ g.objectsOf c) :
    (c = .player ∧ ∃ p, g.players[o.1]? = some p ∧ o.2 = p.toGameObject) ∨
      c = .enemy ∧ g.enemies[o.1]? = some o.2 ∨ c = .bullet ∧ g.bullets[o.1]? = some o.2 ∨
      c = .boss ∧ g.bosses[o.1]? = some o.2 := by
  obtain ⟨id, o⟩ := o
  cases c with
  | player =>
      have hget := ExtTreeMap.mem_toList_iff_getElem?_eq_some.mp h
      rw [ExtTreeMap.getElem?_map, Option.map_eq_some_iff] at hget
      obtain ⟨p, hp, rfl⟩ := hget
      exact .inl ⟨rfl, p, hp, rfl⟩
  | enemy => exact .inr (.inl ⟨rfl, ExtTreeMap.mem_toList_iff_getElem?_eq_some.mp h⟩)
  | bullet => exact .inr (.inr (.inl ⟨rfl, ExtTreeMap.mem_toList_iff_getElem?_eq_some.mp h⟩))
  | boss => exact .inr (.inr (.inr ⟨rfl, ExtTreeMap.mem_toList_iff_getElem?_eq_some.mp h⟩))

theorem EntityInv.entity_eq (hg : EntityInv g) {c : ObjectClass} {o : Int × GameObject}
    (h : o ∈ g.objectsOf c) : o.2.entity = 0 := by
  obtain ⟨-, p, hp, heq⟩ | ⟨-, ho⟩ | ⟨-, ho⟩ | ⟨-, ho⟩ := mem_objectsOf h
  · rw [heq]
    exact hg.players _ p hp
  · exact hg.enemies _ _ ho
  · exact hg.bullets _ _ ho
  · exact hg.bosses _ _ ho

theorem EntityInv.of_findIn (hg : EntityInv g) {c : ObjectClass} {entity : Nat}
    (h : g.findIn c entity = some id) : entity = 0 := by
  obtain ⟨o, ho, -⟩ := Option.map_eq_some_iff.mp h
  have hentity : o.2.entity = entity := by simpa using List.find?_some ho
  rw [← hentity]
  exact hg.entity_eq (List.mem_of_find?_eq_some ho)

theorem EntityInv.killFound (hg : EntityInv g) {c : ObjectClass} {entityId : Int}
    (h : toSize entityId = 0) : EntityInv (g.killFound c entityId) := by
  refine ⟨?_, hg.players, hg.enemies, hg.bullets, hg.bosses⟩
  have hkill := hg.registry.killEntity
  rwa [← h] at hkill

theorem EntityInv.killPlayers (hg : EntityInv g) (entityId : Int) :
    EntityInv (g.killPlayers entityId) := by
  unfold Game.killPlayers
  split
  · rename_i id hfind
    exact EntityInv.killFound (g := { g with players := g.players.erase id })
      ⟨hg.registry, hg.players.erase, hg.enemies, hg.bullets, hg.bosses⟩
      (hg.of_findIn hfind)
  · exact hg

theorem EntityInv.killBullets (hg : EntityInv g) (entityId : Int) :
    EntityInv (g.killBullets entityId) := by
  unfold Game.killBullets
  split
  · rename_i id hfind
    exact EntityInv.killFound (g := { g with bullets := g.bullets.erase id })
      ⟨hg.registry, hg.players, hg.enemies, hg.bullets.erase, hg.bosses⟩
      (hg.of_findIn hfind)
  · exact hg

theorem EntityInv.killEnemies (hg : EntityInv g) (entityId : Int) :
    EntityInv (g.killEnemies entityId) := by
  unfold Game.killEnemies
  split
  · rename_i hfind
    exact hg.killFound (hg.of_findIn hfind)
  · exact hg

theorem EntityInv.killBosses (hg : EntityInv g) (entityId : Int) :
    EntityInv (g.killBosses entityId) := by
  unfold Game.killBosses
  split
  · rename_i hfind
    exact hg.killFound (hg.of_findIn hfind)
  · exact hg

theorem EntityInv.killEntity (hg : EntityInv g) (entityId : Int) :
    EntityInv (g.killEntity entityId) :=
  (hg.killPlayers entityId).killBullets entityId

/-- Every call keeps the invariant. -/
theorem EntityInv.perform (hg : EntityInv g) {c : Call} (h : g.perform c = .ok g') :
    EntityInv g' := by
  cases c with
  | handlePlayerMove playerId actionId => exact hg.handlePlayerMove h
  | spawnPlayer playerId x y => exact hg.spawnPlayer h
  | spawnEnemy enemyId x y => exact hg.spawnEnemy (x := x) h
  | spawnBoss bossId x y => exact hg.spawnBoss (x := x) h
  | killPlayers entityId => cases h; exact hg.killPlayers entityId
  | killBullets entityId => cases h; exact hg.killBullets entityId
  | killEnemies entityId => cases h; exact hg.killEnemies entityId
  | killBosses entityId => cases h; exact hg.killBosses entityId
  | killEntity entityId => cases h; exact hg.killEntity entityId
  | initializePlayers numPlayers => exact hg.initializePlayers h
  | checkPlayersAlive numClients => cases h; exact hg.checkPlayersAlive numClients
  | stop => cases h; exact hg.stop
  | _ => exact entityInv_rule.perform (by trivial) h hg

end Game

/-! ## Spawning after a kill -/

/-- The call gets as far as the constructor of an object. -/
def Call.Makes (g : Game) : Call → Prop
  | .spawnPlayer .. | .spawnEnemy .. | .spawnBoss .. => True
  | .spawnBullet playerId =>
    ∃ p, g.players[playerId]? = some p ∧ p.registry.hasComponent .position p.entity = true
  | _ => False

namespace Game

variable {g : Game} {c : Call}

/-- A spawn call throws exactly when it has to make an object after a kill. -/
theorem EntityInv.spawns_iff (hg : EntityInv g) (hc : c.Spawns) :
    (∃ g', g.perform c = .ok g') ↔ (c.Makes g → g.registry.deadEntities = []) := by
  cases c with
  | spawnPlayer playerId x y =>
      rw [Game.perform, exists_spawnPlayer_iff, hg.registry.exists_new_iff]
      exact (true_imp_iff).symm
  | spawnEnemy enemyId x y =>
      rw [← hg.registry.exists_new_iff (x := 1000) (y := y)]
      refine Iff.trans ⟨?_, fun h => Fallible.exists_bind h fun _ _ => ⟨_, rfl⟩⟩ true_imp_iff.symm
      rintro ⟨g', h⟩
      obtain ⟨enemy, henemy, -⟩ := spawnEnemy_new (x := x) h
      exact ⟨enemy, henemy⟩
  | spawnBoss bossId x y =>
      rw [← hg.registry.exists_new_iff (x := 1000) (y := y)]
      refine Iff.trans ⟨?_, fun h => Fallible.exists_bind h fun _ _ => ⟨_, rfl⟩⟩ true_imp_iff.symm
      rintro ⟨g', h⟩
      obtain ⟨boss, hboss, -⟩ := spawnBoss_new (x := x) h
      exact ⟨boss, hboss⟩
  | spawnBullet playerId =>
      simp only [Game.perform, Call.Makes, Game.spawnBullet]
      split
      · rename_i hplayer
        simp [hplayer]
      · rename_i player hplayer
        split
        · rename_i hpos
          have hmakes : ∃ p, g.players[playerId]? = some p ∧
              p.registry.hasComponent .position p.entity = true := ⟨player, hplayer, hpos⟩
          rw [← hg.registry.exists_new_iff (x := player.position.x + 50)
            (y := player.position.y + 25), imp_iff_right hmakes]
          constructor
          · rintro ⟨g', h⟩
            obtain ⟨bullet, hbullet, -⟩ := Fallible.bind_eq_ok.mp h
            exact ⟨bullet, hbullet⟩
          · exact fun h => Fallible.exists_bind h fun _ _ => ⟨_, rfl⟩
        · rename_i hpos
          simp [hplayer, hpos]
  | _ => exact hc.elim

end Game

namespace History

/-- If the call is a spawn call, it does not throw. -/
def SpawnSucceeds (s : History) (c : Call) : Prop :=
  s.thrown = none → c.Spawns → ∃ g', s.game.perform c = .ok g'

/-- If the call has to make an object, no kill function has found an object before:
nothing has been killed in the registry. -/
def MakesBeforeKill (s : History) (c : Call) : Prop :=
  s.thrown = none → c.Spawns → c.Makes s.game → s.game.registry.deadEntities = []

theorem always_entityInv (calls : List Call) :
    Always step (fun s => Game.EntityInv s.game) new calls :=
  always_of_perform Game.entityInv_new fun _ _ _ hg h => hg.perform h

/-- In a history of calls on a new game, no spawn call throws exactly if no object
is made after a kill function has found one. -/
theorem spawning_iff (calls : List Call) :
    EachStep step SpawnSucceeds new calls ↔ EachStep step MakesBeforeKill new calls := by
  refine (always_entityInv calls).eachStep_congr fun s c hs => ?_
  exact forall_congr' fun _ => forall_congr' fun hc => hs.spawns_iff hc

/-- A player is spawned and killed; the next enemy cannot be made. -/
theorem spawning_afterKill :
    ¬ EachStep step SpawnSucceeds new [.spawnPlayer 0 100 100, .killPlayers 0, .spawnEnemy 0 0 100] := by
  intro h
  have hfails : ((run step new [.spawnPlayer 0 100 100, .killPlayers 0]).game.perform
      (.spawnEnemy 0 0 100)).toBool = false := by decide +kernel
  obtain ⟨g, hg⟩ := eachStep_iff.mp h [.spawnPlayer 0 100 100, .killPlayers 0] _ [] rfl
    (by decide +kernel) trivial
  rw [hg] at hfails
  cases hfails

end History

/-! ## Looking objects up -/

/-- In a list with distinct values of `f`, an element is found by its value. -/
theorem find?_of_nodup_map {α β : Type} [DecidableEq β] {f : α → β} {l : List α} {a : α}
    (hl : (l.map f).Nodup) (ha : a ∈ l) : l.find? (fun b => f b = f a) = some a := by
  induction l with
  | nil => cases ha
  | cons b l ih =>
      obtain ⟨hb, hl⟩ := List.nodup_cons.mp hl
      rcases List.mem_cons.mp ha with rfl | ha
      · simp
      · have hne : f b ≠ f a := fun heq => hb (heq ▸ List.mem_map_of_mem ha)
        rw [List.find?_cons_of_neg (by simpa using hne), ih hl ha]

namespace Game

variable {g : Game} {c : ObjectClass} {id : Int} {o : GameObject} {entity : Nat}

/-- The values `getEntity()` of all stored objects. -/
def entities (g : Game) : List Nat := g.objects.map fun o => o.2.entity

theorem mem_objects : ((c, id), o) ∈ g.objects ↔ (id, o) ∈ g.objectsOf c := by
  simp only [objects, List.mem_flatMap, List.mem_map, Prod.mk.injEq, Prod.exists]
  constructor
  · rintro ⟨c', -, id', o', hmem, ⟨rfl, rfl⟩, rfl⟩
    exact hmem
  · intro hmem
    exact ⟨c, by cases c <;> simp, id, o, hmem, ⟨rfl, rfl⟩, rfl⟩

theorem findIn_iff (hg : g.entities.Nodup) :
    g.findIn c entity = some id ↔ ∃ o, ((c, id), o) ∈ g.objects ∧ o.entity = entity := by
  constructor
  · intro h
    obtain ⟨o, ho, rfl⟩ := Option.map_eq_some_iff.mp h
    exact ⟨o.2, mem_objects.mpr (List.mem_of_find?_eq_some ho), by simpa using List.find?_some ho⟩
  · rintro ⟨o, ho, rfl⟩
    have hmem : (id, o) ∈ g.objectsOf c := mem_objects.mp ho
    have hnodup : ((g.objectsOf c).map fun o => o.2.entity).Nodup := by
      have hsub : ((g.objectsOf c).map fun o => ((c, o.1), o.2)).Sublist g.objects :=
        List.sublist_flatten_of_mem (List.mem_map.mpr ⟨c, by cases c <;> simp, rfl⟩)
      have hentities : (g.objects.map fun o => o.2.entity).Nodup := hg
      simpa [Function.comp_def] using hentities.sublist (hsub.map fun o => o.2.entity)
    rw [findIn, find?_of_nodup_map (f := fun o : Int × GameObject => o.2.entity) hnodup hmem]
    rfl

/-- The entities identify the objects: they are distinct, so that each object is
found by its entity, and is the only one that a kill function finds by it. -/
structure Identifiable (g : Game) : Prop where
  distinct : g.entities.Nodup
  found : ∀ c id o, ((c, id), o) ∈ g.objects → g.findEntity o.entity = some ((c, id), o)
  registry : ∀ c id o, ((c, id), o) ∈ g.objects → g.getEntityRegistry o.entity = .ok o.registry
  killed : ∀ c id o, ((c, id), o) ∈ g.objects →
    ∀ c' id', g.findIn c' o.entity = some id' ↔ c' = c ∧ id' = id

theorem findEntity_of_mem (hg : g.entities.Nodup) (ho : ((c, id), o) ∈ g.objects) :
    g.findEntity o.entity = some ((c, id), o) :=
  find?_of_nodup_map (f := fun o : (ObjectClass × Int) × GameObject => o.2.entity) hg ho

theorem identifiable_iff : g.Identifiable ↔ g.entities.Nodup := by
  refine ⟨fun h => h.distinct, fun hg => ⟨hg, fun _ _ _ ho => findEntity_of_mem hg ho, ?_, ?_⟩⟩
  · intro c id o ho
    rw [getEntityRegistry, findEntity_of_mem hg ho]
  · intro c id o ho c' id'
    rw [findIn_iff hg]
    constructor
    · rintro ⟨o', ho', heq⟩
      have hfind := findEntity_of_mem hg ho'
      rw [heq, findEntity_of_mem hg ho] at hfind
      cases hfind
      exact ⟨rfl, rfl⟩
    · rintro ⟨rfl, rfl⟩
      exact ⟨o, ho, rfl⟩

/-- All entities are `0`, so that two objects have the same one. -/
theorem EntityInv.identifiable_iff (hg : EntityInv g) :
    g.Identifiable ↔ g.objects.length ≤ 1 := by
  have hzero : ∀ e ∈ g.entities, e = 0 := by
    intro e he
    obtain ⟨⟨⟨c, id⟩, o⟩, ho, rfl⟩ := List.mem_map.mp he
    exact hg.entity_eq (mem_objects.mp ho)
  have hreplicate : g.entities = List.replicate g.objects.length 0 :=
    List.eq_replicate_iff.mpr ⟨List.length_map .., hzero⟩
  rw [Game.identifiable_iff, hreplicate, List.nodup_replicate]

end Game

namespace History

/-- In every state that calls on a new game can lead to, the entities identify the
stored objects exactly if there is at most one object. -/
theorem entities_identify_iff (calls : List Call) :
    (run step new calls).game.Identifiable ↔ (run step new calls).game.objects.length ≤ 1 :=
  (always_entityInv calls).final.identifiable_iff

/-- Two players have the same entity. -/
theorem entities_ambiguous : ¬ (run step new [.initializePlayers 2]).game.Identifiable := by
  intro h
  exact absurd h.distinct (by decide +kernel)

end History

end BeeRType
