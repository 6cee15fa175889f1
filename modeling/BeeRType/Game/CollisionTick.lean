-- SUMMARY: One call of `checkCollisions` from end to end: what it leaves and what it announces, in terms of the objects before it.
import BeeRType.Game.HitPoints

/-!
# One tick of collisions

Which objects a call of `checkCollisions` leaves does not depend on the order of its
loops: an object is listed as dead, however often, or it is not. What is said here of
the lists is for any contents of them; the tick as a whole starts from lists that name
no stored object.
-/

open Cpp Std Transition

namespace BeeRType

namespace Game

/-- No id in a dead list is the key of an object of the class. -/
structure DeadGone (g : Game) : Prop where
  players : ∀ i ∈ g.deadPlayers, i ∉ g.players
  enemies : ∀ i ∈ g.deadEnemies, i ∉ g.enemies
  bullets : ∀ i ∈ g.deadBullets, i ∉ g.bullets
  bosses : ∀ i ∈ g.deadBosses, i ∉ g.bosses

/-- The rectangle that objects other than players are kept in. -/
def InRectangle (o : GameObject) : Prop :=
  -50 ≤ o.position.x ∧ o.position.x ≤ 1280 ∧ -50 ≤ o.position.y ∧ o.position.y ≤ 720

/-- The object collides with none of the entities. -/
def HitsNone (o : GameObject) (entities : ExtTreeMap Int GameObject) : Prop :=
  ∀ (j : Int) (e : GameObject), entities[j]? = some e → checkCollision o e 10 = false

/-- None of the entities collides with the object. -/
def HitByNone (o : GameObject) (entities : ExtTreeMap Int GameObject) : Prop :=
  ∀ (j : Int) (e : GameObject), entities[j]? = some e → checkCollision e o 10 = false

/-- A bullet stays if it hits nothing and is inside the rectangle. -/
def BulletStays (g : Game) (o : Bullet) : Prop :=
  HitsNone o g.enemies ∧ HitsNone o g.bosses ∧ InRectangle o

/-- An enemy or boss stays if nothing hits it and it is inside the rectangle. -/
def TargetStays (g : Game) (o : GameObject) : Prop :=
  HitByNone o g.bullets ∧
    (∀ (j : Int) (p : Player), g.players[j]? = some p →
      checkCollision p.toGameObject o 10 = false) ∧ InRectangle o

/-- The players that are left are those with hit points left, and the other objects
those that nothing has hit; all stand where they stood. What is gone is announced,
each object by one packet, and nothing else is. -/
structure CollisionTick (g g' : Game) : Prop where
  bullets : ∀ (i : Int) (o : Bullet),
    g'.bullets[i]? = some o ↔ g.bullets[i]? = some o ∧ BulletStays g o
  enemies : ∀ (i : Int) (o : Enemy),
    g'.enemies[i]? = some o ↔ g.enemies[i]? = some o ∧ TargetStays g o
  bosses : ∀ (i : Int) (o : Boss),
    g'.bosses[i]? = some o ↔ g.bosses[i]? = some o ∧ TargetStays g o
  players : ∀ i, i ∈ g'.players ↔ ∃ p : Player, g.players[i]? = some p ∧
    0 < p.hp - 10 * hits p.toGameObject g.enemies - 20 * hits p.toGameObject g.bosses
  playerObjects : ∀ (i : Int) (p' : Player), g'.players[i]? = some p' →
    ∃ p : Player, g.players[i]? = some p ∧ p'.toGameObject = p.toGameObject
  announced : ∃ messages, g'.broadcasts = g.broadcasts ++ messages ∧
    (∀ c i, i ∈ g.ids c → i ∉ g'.ids c → messages.count (destroyMessage c i) = 1) ∧
    ∀ m ∈ messages, ∃ c i, (i ∈ g.ids c ∧ i ∉ g'.ids c) ∧ m = destroyMessage c i
  deadGone : DeadGone g'

variable {g g' : Game} {i : Int} {p : Player} {o : GameObject} {c : ObjectClass}

/-! ## The lists -/

section Listed

variable {A B : ExtTreeMap Int GameObject}

theorem inRectangle_iff : InRectangle o ↔ outOfBounds o = false := by
  simp only [InRectangle, outOfBounds, Bool.or_eq_false_iff, decide_eq_false_iff_not, Std.not_lt,
    and_assoc]

theorem mem_map_outOfBounds :
    i ∈ (A.toList.filter fun e => outOfBounds e.2).map (·.1) ↔
      ∃ o, A[i]? = some o ∧ ¬ InRectangle o := by
  simp only [List.mem_map, List.mem_filter, Prod.exists, ExtTreeMap.mem_toList_iff_getElem?_eq_some,
    inRectangle_iff, Bool.not_eq_false]
  constructor
  · rintro ⟨_, o, ⟨ho, hout⟩, rfl⟩
    exact ⟨o, ho, hout⟩
  · rintro ⟨o, ho, hout⟩
    exact ⟨i, o, ⟨ho, hout⟩, rfl⟩

theorem mem_map_fst_collidingPairs :
    i ∈ (collidingPairs A.toList B.toList).map Prod.fst ↔ ∃ o, A[i]? = some o ∧ ¬ HitsNone o B := by
  simp only [List.mem_map, Prod.exists, exists_and_right, exists_eq_right, mem_collidingPairs,
    ExtTreeMap.mem_toList_iff_getElem?_eq_some, HitsNone, not_forall, Bool.not_eq_false]
  constructor
  · rintro ⟨j, o, o', ho, ho', hcollide⟩
    exact ⟨o, ho, j, o', ho', hcollide⟩
  · rintro ⟨o, ho, j, o', ho', hcollide⟩
    exact ⟨j, o, o', ho, ho', hcollide⟩

theorem mem_map_snd_collidingPairs :
    i ∈ (collidingPairs A.toList B.toList).map Prod.snd ↔ ∃ o, B[i]? = some o ∧ ¬ HitByNone o A := by
  simp only [List.mem_map, Prod.exists, exists_eq_right, mem_collidingPairs,
    ExtTreeMap.mem_toList_iff_getElem?_eq_some, HitByNone, not_forall, Bool.not_eq_false]
  constructor
  · rintro ⟨j, o', o, ho', ho, hcollide⟩
    exact ⟨o, ho, j, o', ho', hcollide⟩
  · rintro ⟨o, ho, j, o', ho', hcollide⟩
    exact ⟨j, o', o, ho', ho, hcollide⟩

theorem hitByNone_players :
    HitByNone o (g.players.map fun _ p => p.toGameObject) ↔
      ∀ (j : Int) (p : Player), g.players[j]? = some p →
        checkCollision p.toGameObject o 10 = false := by
  simp only [HitByNone, ExtTreeMap.getElem?_map, Option.map_eq_some_iff]
  constructor
  · intro h j p hp
    exact h j _ ⟨p, hp, rfl⟩
  · rintro h j _ ⟨p, hp, rfl⟩
    exact h j p hp

/-- What a list names is gone, and the ids that were in it before are not keys. -/
theorem getElem?_removeEntities_eq_some {ids dead : List Int} {Stays : GameObject → Prop}
    (hdead : ∀ j ∈ dead, j ∉ A) (h : i ∈ ids ↔ i ∈ dead ∨ ∃ o, A[i]? = some o ∧ ¬ Stays o) :
    (removeEntities A ids).entities[i]? = some o ↔ A[i]? = some o ∧ Stays o := by
  rw [getElem?_removeEntities]
  constructor
  · intro ho
    split at ho
    · cases ho
    · rename_i hids
      refine ⟨ho, ?_⟩
      by_contra hgo
      exact hids (h.mpr (.inr ⟨o, ho, hgo⟩))
  · rintro ⟨ho, hstays⟩
    rw [if_neg, ho]
    rw [h]
    rintro (hi | ⟨o', ho', hgo⟩)
    · exact hdead i hi (ExtTreeMap.mem_iff_isSome_getElem?.mpr (by rw [ho]; rfl))
    · cases ho.symm.trans ho'
      exact hgo hstays

end Listed

/-- The lists as `checkCollisions` hands them to its removals. -/
theorem deadBullets_detected : g.detectAll.detectOutOfBounds.deadBullets = g.deadBullets ++
    (collidingPairs g.bullets.toList g.enemies.toList).map Prod.fst ++
    (collidingPairs g.bullets.toList g.bosses.toList).map Prod.fst ++
    (g.bullets.toList.filter fun e => outOfBounds e.2).map (·.1) := by
  rw [← detectAll_deadObjects.1, ← detectAll_detected.bullets]
  rfl

theorem deadEnemies_detected : g.detectAll.detectOutOfBounds.deadEnemies = g.deadEnemies ++
    (collidingPairs g.bullets.toList g.enemies.toList).map Prod.snd ++
    (collidingPairs g.playerObjects g.enemies.toList).map Prod.snd ++
    (g.enemies.toList.filter fun e => outOfBounds e.2).map (·.1) := by
  rw [← detectAll_deadObjects.2.1, ← detectAll_detected.enemies]
  rfl

theorem deadBosses_detected : g.detectAll.detectOutOfBounds.deadBosses = g.deadBosses ++
    (collidingPairs g.bullets.toList g.bosses.toList).map Prod.snd ++
    (collidingPairs g.playerObjects g.bosses.toList).map Prod.snd ++
    (g.bosses.toList.filter fun e => outOfBounds e.2).map (·.1) := by
  rw [← detectAll_deadObjects.2.2, ← detectAll_detected.bosses]
  rfl

/-- A bullet is listed if it was before or does not stay. -/
theorem mem_deadBullets : i ∈ g.detectAll.detectOutOfBounds.deadBullets ↔
    i ∈ g.deadBullets ∨ ∃ o, g.bullets[i]? = some o ∧ ¬ BulletStays g o := by
  rw [deadBullets_detected, List.mem_append, List.mem_append, List.mem_append,
    mem_map_fst_collidingPairs, mem_map_fst_collidingPairs, mem_map_outOfBounds, or_assoc, or_assoc,
    ← exists_or, ← exists_or]
  simp only [← and_or_left, BulletStays, not_and_or]

theorem mem_listedTargets {dead : List Int} {targets : ExtTreeMap Int GameObject} :
    i ∈ dead ++ (collidingPairs g.bullets.toList targets.toList).map Prod.snd ++
        (collidingPairs g.playerObjects targets.toList).map Prod.snd ++
        (targets.toList.filter fun e => outOfBounds e.2).map (·.1) ↔
      i ∈ dead ∨ ∃ o, targets[i]? = some o ∧ ¬ TargetStays g o := by
  rw [List.mem_append, List.mem_append, List.mem_append, mem_map_snd_collidingPairs, playerObjects,
    mem_map_snd_collidingPairs, mem_map_outOfBounds, or_assoc, or_assoc, ← exists_or, ← exists_or]
  simp only [← and_or_left, TargetStays, not_and_or, hitByNone_players]

theorem mem_deadEnemies : i ∈ g.detectAll.detectOutOfBounds.deadEnemies ↔
    i ∈ g.deadEnemies ∨ ∃ o, g.enemies[i]? = some o ∧ ¬ TargetStays g o := by
  rw [deadEnemies_detected, mem_listedTargets]

theorem mem_deadBosses : i ∈ g.detectAll.detectOutOfBounds.deadBosses ↔
    i ∈ g.deadBosses ∨ ∃ o, g.bosses[i]? = some o ∧ ¬ TargetStays g o := by
  rw [deadBosses_detected, mem_listedTargets]

/-- An id that is left in a list is no longer a key, whatever the list was. -/
theorem checkCollisions_deadGone : DeadGone g.checkCollisions := by
  have hleft : ∀ {E : Type} {entities : ExtTreeMap Int E} {ids : List Int} {i : Int},
      i ∈ (removeEntities entities ids).left → i ∉ (removeEntities entities ids).entities :=
    fun h hmem => (mem_removeEntities.mp hmem).2 (mem_of_mem_left h)
  rw [checkCollisions_eq, removeAll_eq]
  exact ⟨fun _ => hleft, fun _ => hleft, fun _ => hleft, fun _ => hleft⟩

/-! ## The packets -/

theorem mem_removalMessages {m : Message} :
    m ∈ g.removalMessages ↔ ∃ c i, i ∈ g.removedIds c ∧ m = destroyMessage c i := by
  have hdestroyed : ∀ c, m ∈ destroyed c.destroyType (g.removedIds c) ↔
      ∃ i, i ∈ g.removedIds c ∧ m = destroyMessage c i := fun c => by
    simp only [destroyed, List.mem_map, eq_comm (a := m), destroyMessage]
  simp only [removalMessages, List.mem_flatMap, hdestroyed, List.mem_cons, List.not_mem_nil,
    or_false]
  constructor
  · rintro ⟨c, -, i, hi⟩
    exact ⟨c, i, hi⟩
  · rintro ⟨c, i, hi⟩
    exact ⟨c, by cases c <;> simp, i, hi⟩

/-- No packet is sent twice. -/
theorem nodup_removalMessages : g.removalMessages.Nodup := by
  refine List.nodup_flatMap.mpr ⟨fun c _ => ?_, ?_⟩
  · refine nodup_removedIds.map (f := destroyMessage c) fun i j h => ?_
    exact (destroyMessage_inj.mp h).2
  · have hclasses : [ObjectClass.bullet, .enemy, .player, .boss].Nodup := by decide
    refine hclasses.imp fun hne m hm hm' => ?_
    obtain ⟨i, -, rfl⟩ := List.mem_map.mp hm
    obtain ⟨j, -, heq⟩ := List.mem_map.mp hm'
    exact hne (destroyMessage_inj.mp heq).1.symm

/-- The ids that a tick takes away are those that its loops remove. -/
theorem mem_removedIds_checkCollisions :
    i ∈ g.detectAll.detectOutOfBounds.removedIds c ↔ i ∈ g.ids c ∧ i ∉ g.checkCollisions.ids c := by
  have hids : g.detectAll.detectOutOfBounds.ids c = g.ids c := by
    rw [detectOutOfBounds_ids, detectAll_detected.ids]
  rw [checkCollisions_eq, ids_removeAll, hids]
  simp only [Set.mem_sdiff, Set.mem_ofPred_eq, not_and, not_not]
  constructor
  · intro hi
    have hmem := mem_ids_of_mem_removedIds hi
    rw [hids] at hmem
    exact ⟨hmem, fun _ => hi⟩
  · rintro ⟨hmem, hi⟩
    exact hi hmem

/-! ## The tick -/

theorem checkCollisions_tick (hdead : DeadGone g)
    (hhp : ∀ (i : Int) (p : Player), g.players[i]? = some p → 0 < p.hp) :
    CollisionTick g g.checkCollisions where
  bullets := by
    intro i o
    rw [bullets_checkCollisions]
    exact getElem?_removeEntities_eq_some hdead.bullets mem_deadBullets
  enemies := by
    intro i o
    rw [enemies_checkCollisions]
    exact getElem?_removeEntities_eq_some hdead.enemies mem_deadEnemies
  bosses := by
    intro i o
    rw [bosses_checkCollisions]
    exact getElem?_removeEntities_eq_some hdead.bosses mem_deadBosses
  players := by
    intro i
    rw [mem_players_checkCollisions]
    refine exists_congr fun p => and_congr_right fun hp => survives_iff (fun hi => ?_) (hhp i p hp)
    exact hdead.players i hi (ExtTreeMap.mem_iff_isSome_getElem?.mpr (by rw [hp]; rfl))
  playerObjects := fun i p' hp' => getElem?_players_checkCollisions hp'
  announced := by
    refine ⟨g.detectAll.detectOutOfBounds.removalMessages, ?_, fun c i hi hgone => ?_, fun m hm => ?_⟩
    · rw [checkCollisions_eq, broadcasts_removeAll, detectOutOfBounds_broadcasts,
        detectAll_detected.broadcasts]
    · refine List.count_eq_one_of_mem nodup_removalMessages (mem_removalMessages.mpr ⟨c, i, ?_, rfl⟩)
      exact mem_removedIds_checkCollisions.mpr ⟨hi, hgone⟩
    · obtain ⟨c, i, hi, rfl⟩ := mem_removalMessages.mp hm
      exact ⟨c, i, mem_removedIds_checkCollisions.mp hi, rfl⟩
  deadGone := checkCollisions_deadGone

/-! ## A second tick -/

/-- Nothing that is left is to be removed. -/
structure Settled (g : Game) : Prop where
  deadGone : DeadGone g
  bullets : ∀ (i : Int) (o : Bullet), g.bullets[i]? = some o → BulletStays g o
  enemies : ∀ (i : Int) (o : Enemy), g.enemies[i]? = some o → TargetStays g o
  bosses : ∀ (i : Int) (o : Boss), g.bosses[i]? = some o → TargetStays g o

/-- What stays in a game stays in what a tick leaves of it. -/
theorem TargetStays.checkCollisions (h : TargetStays g o) : TargetStays g.checkCollisions o := by
  obtain ⟨hbullets, hplayers, hin⟩ := h
  refine ⟨fun j e he => hbullets j e (getElem?_bullets_checkCollisions he), fun j p' hp' => ?_, hin⟩
  obtain ⟨p, hp, heq⟩ := getElem?_players_checkCollisions hp'
  rw [heq]
  exact hplayers j p hp

theorem stays_of_removeEntities {A : ExtTreeMap Int GameObject} {dead listed : List Int}
    {Stays : GameObject → Prop} (hlisted : ∀ i, i ∈ listed ↔ i ∈ dead ∨ ∃ o, A[i]? = some o ∧ ¬ Stays o)
    (h : (removeEntities A listed).entities[i]? = some o) : Stays o := by
  rw [getElem?_removeEntities] at h
  split at h
  · cases h
  · rename_i hleft
    by_contra hstays
    exact hleft ((hlisted i).mpr (.inr ⟨o, h, hstays⟩))

theorem checkCollisions_settled (g : Game) : Settled g.checkCollisions where
  deadGone := checkCollisions_deadGone
  bullets := by
    intro i o ho
    rw [bullets_checkCollisions] at ho
    obtain ⟨henemies, hbosses, hin⟩ := stays_of_removeEntities (fun _ => mem_deadBullets) ho
    exact ⟨fun j e he => henemies j e (getElem?_enemies_checkCollisions he),
      fun j e he => hbosses j e (getElem?_bosses_checkCollisions he), hin⟩
  enemies := by
    intro i o ho
    rw [enemies_checkCollisions] at ho
    exact (stays_of_removeEntities (fun _ => mem_deadEnemies) ho).checkCollisions
  bosses := by
    intro i o ho
    rw [bosses_checkCollisions] at ho
    exact (stays_of_removeEntities (fun _ => mem_deadBosses) ho).checkCollisions

theorem removeEntities_of_not_mem {E : Type} {entities : ExtTreeMap Int E} {ids : List Int}
    (h : ∀ i ∈ ids, i ∉ entities) : removeEntities entities ids = ⟨entities, ids, []⟩ := by
  induction ids with
  | nil => rfl
  | cons i ids ih =>
      obtain ⟨hi, hids⟩ := List.forall_mem_cons.mp h
      rw [removeEntities, if_neg (by simpa using hi), ih hids]

theorem collidingPairs_eq_nil {A B : ExtTreeMap Int GameObject}
    (h : ∀ (i : Int) (o : GameObject), B[i]? = some o → HitByNone o A) :
    collidingPairs A.toList B.toList = [] := by
  refine List.eq_nil_iff_forall_not_mem.mpr fun ab hab => ?_
  obtain ⟨o, ho, hhit⟩ := mem_map_snd_collidingPairs.mp (List.mem_map_of_mem hab)
  exact hhit (h _ o ho)

theorem outside_eq_nil {A : ExtTreeMap Int GameObject}
    (h : ∀ (i : Int) (o : GameObject), A[i]? = some o → InRectangle o) :
    (A.toList.filter fun e => outOfBounds e.2).map (·.1) = [] := by
  refine List.eq_nil_iff_forall_not_mem.mpr fun i hi => ?_
  obtain ⟨o, ho, hout⟩ := mem_map_outOfBounds.mp hi
  exact hout (h i o ho)

/-- Where nothing is to be removed, a tick does nothing. -/
theorem Settled.checkCollisions_eq (h : Settled g) : g.checkCollisions = g := by
  have hdetected : g.detectAll = g := by
    have hplayers {targets : ExtTreeMap Int GameObject}
        (ht : ∀ (i : Int) (o : GameObject), targets[i]? = some o → TargetStays g o) :
        collidingPairs g.playerObjects targets.toList = [] := by
      rw [playerObjects]
      exact collidingPairs_eq_nil fun i o ho => hitByNone_players.mpr (ht i o ho).2.1
    rw [detectAll, bulletEnemyCollisions, detectCollisions_eq,
      collidingPairs_eq_nil fun i o ho => (h.enemies i o ho).1, List.foldl_nil,
      bulletBossCollisions, detectCollisions_eq,
      collidingPairs_eq_nil fun i o ho => (h.bosses i o ho).1, List.foldl_nil,
      playerEnemyCollisions, detectCollisions_eq, hplayers h.enemies, List.foldl_nil,
      playerBossCollisions, detectCollisions_eq, hplayers h.bosses, List.foldl_nil]
  have hbounds : g.detectOutOfBounds = g := by
    unfold detectOutOfBounds
    dsimp only
    rw [outside_eq_nil fun i o ho => (h.bullets i o ho).2.2,
      outside_eq_nil fun i o ho => (h.enemies i o ho).2.2,
      outside_eq_nil fun i o ho => (h.bosses i o ho).2.2]
    simp only [List.append_nil]
  obtain ⟨hplayers, henemies, hbullets, hbosses⟩ := h.deadGone
  rw [Game.checkCollisions_eq, hdetected, hbounds, removeAll_eq,
    removeEntities_of_not_mem hbullets, removeEntities_of_not_mem henemies,
    removeEntities_of_not_mem hplayers, removeEntities_of_not_mem hbosses]
  simp only [destroyed, List.map_nil, List.append_nil, List.foldl_nil, List.length_nil,
    Int.natCast_zero, Int.sub_zero]

/-- A second tick has nothing left to do: no score, no damage and no packet comes twice. -/
theorem checkCollisions_checkCollisions (g : Game) :
    g.checkCollisions.checkCollisions = g.checkCollisions :=
  (checkCollisions_settled g).checkCollisions_eq

end Game

namespace History

open Game

/-- A call of `checkCollisions` that is made: no call before it has thrown. -/
def Checks (s : History) (c : Call) : Prop := s.thrown = none ∧ c = .checkCollisions

theorem game_step_of_checks {s : History} {c : Call} (h : s.Checks c) :
    (s.step c).game = s.game.checkCollisions := by
  obtain ⟨g, thrown⟩ := s
  obtain ⟨rfl, rfl⟩ := h
  rfl

/-- A bullet hits two enemies at once, so that its id is left in the list of the dead; the
next one hits a third enemy. -/
def secondHit : List Call :=
  [.initializePlayers 9, .spawnBullet 8, .spawnEnemy 0 0 125, .spawnEnemy 1 0 125, .checkCollisions,
    .spawnBullet 8, .spawnEnemy 2 0 125]

theorem checkCollisions_tick_met :
    let g := (run step new secondHit).game
    g.deadBullets = [0] ∧ 1 ∈ g.bullets ∧ 1 ∉ g.checkCollisions.bullets ∧
      CollisionTick g g.checkCollisions := by
  intro g
  have hp : ∀ e ∈ g.players.toList, 0 < e.2.hp := by decide +kernel
  refine ⟨by decide +kernel, by decide +kernel, by decide +kernel,
    checkCollisions_tick ⟨?_, ?_, ?_, ?_⟩ fun i p hi => ?_⟩
  · decide +kernel
  · decide +kernel
  · decide +kernel
  · decide +kernel
  · exact hp (i, p) (ExtTreeMap.mem_toList_iff_getElem?_eq_some.mpr hi)

end History

end BeeRType
