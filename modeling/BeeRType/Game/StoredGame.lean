-- SUMMARY: The game on top of its storage: every call is made of operations of the storage, so that no read of a position goes wrong.
import BeeRType.Game.Calls
import BeeRType.Game.Storage

/-!
# Stored games

An object of the game carries a proof that it has a position, which an object in memory
does not. The two are tied together call by call: what a call makes of the maps is what
operations of the storage make of them.
-/

open Cpp Std Transition

namespace BeeRType

/-- The object in memory. -/
def GameObject.stored (o : GameObject) : StoredObject := ⟨o.registry, o.entity⟩

/-- The maps of a game in memory. -/
def Game.stored (g : Game) : ObjectClass → ExtTreeMap Int StoredObject
  | .player => g.players.map fun _ p => p.stored
  | .enemy => g.enemies.map fun _ o => o.stored
  | .bullet => g.bullets.map fun _ o => o.stored
  | .boss => g.bosses.map fun _ o => o.stored

namespace GameObject

variable {registry : Registry Component} {o : GameObject} {x y : ℚ}

theorem construct_of_new (h : new registry x y = .ok o) :
    StoredObject.construct registry x y = .ok o.stored := by
  unfold new at h
  dsimp only at h
  split at h
  · cases h
  · rename_i r hadd
    cases h
    exact Fallible.bind_eq_ok.mpr ⟨r, hadd, rfl⟩

theorem stored_move : (o.move x y).stored = o.stored.move x y := by
  unfold move StoredObject.move stored
  split <;> rfl

/-- What a read gives is the position that the functions of the game work with. -/
theorem read_stored : o.stored.read = .ok (some o.position) := by
  obtain ⟨array, harray, hget⟩ := Option.bind_eq_some_iff.mp (Option.some_get o.located).symm
  refine Fallible.bind_eq_ok.mpr ⟨array, ?_, Fallible.pure_eq_ok.mpr hget⟩
  simp only [stored, Registry.getComponents, harray]

end GameObject

namespace Storage

variable {s : Storage} {g g' : Game}

/-- The storage holds what the game holds. -/
structure Holds (s : Storage) (g : Game) : Prop where
  registry : s.registry = g.registry
  objects : s.objects = g.stored

/-- From a storage that holds the one game, operations lead to one that holds the
other. -/
def Reaches (g g' : Game) : Prop :=
  ∀ s : Storage, s.Holds g → ∃ ops, (run step s ops).Holds g'

theorem holds_new : new.Holds .new := by
  refine ⟨rfl, ?_⟩
  funext c
  cases c <;> rfl

theorem Reaches.refl (g : Game) : Reaches g g := fun _ hs => ⟨[], hs⟩

theorem Reaches.trans {m : Game} (h : Reaches g m) (h' : Reaches m g') : Reaches g g' := by
  intro s hs
  obtain ⟨ops, hops⟩ := h s hs
  obtain ⟨ops', hops'⟩ := h' _ hops
  exact ⟨ops ++ ops', by rwa [run_append]⟩

theorem Reaches.of_eq (hregistry : g'.registry = g.registry) (hstored : g'.stored = g.stored) :
    Reaches g g' :=
  fun _ hs => ⟨[], by rw [hregistry]; exact hs.registry, by rw [hstored]; exact hs.objects⟩

theorem Reaches.of_step (op : StorageOp)
    (h : ∀ s : Storage, s.Holds g → (s.step op).Holds g') : Reaches g g' :=
  fun s hs => ⟨[op], h s hs⟩

/-! ## What the calls do to the storage -/

theorem objects_erase (s : Storage) (c : ObjectClass) (id : Int) :
    (s.step (.erase c id)).registry = s.registry ∧
      (s.step (.erase c id)).objects = Function.update s.objects c ((s.objects c).erase id) := by
  simp only [step]
  split
  · rename_i hnone
    refine ⟨rfl, Function.eq_update_self_iff.mpr (ExtTreeMap.ext_getElem? fun id' => ?_)⟩
    rw [ExtTreeMap.getElem?_erase]
    split
    · rename_i heq
      rw [← LawfulEqCmp.eq_of_compare heq, hnone]
    · rfl
  · exact ⟨rfl, rfl⟩

/-- Erasing can leave any part of a map. -/
theorem exists_run_erase {c : ObjectClass} {m : ExtTreeMap Int StoredObject}
    (hsub : ∀ (id : Int) (o : StoredObject), m[id]? = some o → (s.objects c)[id]? = some o) :
    ∃ ops, (run step s ops).registry = s.registry ∧
      (run step s ops).objects = Function.update s.objects c m := by
  obtain ⟨ids, rfl⟩ := exists_foldl_erase hsub
  clear hsub
  refine ⟨ids.map (.erase c), ?_⟩
  induction ids generalizing s with
  | nil => simp
  | cons id ids ih =>
      obtain ⟨hregistry, hobjects⟩ := s.objects_erase c id
      obtain ⟨hregistry', hobjects'⟩ := ih (s := s.step (.erase c id))
      rw [List.map_cons, run_cons, List.foldl_cons, hregistry', hobjects', hregistry, hobjects]
      simp

/-- Erasing can leave any part of all maps. -/
theorem exists_run_shrink {objects : ObjectClass → ExtTreeMap Int StoredObject}
    (hsub : ∀ (c : ObjectClass) (id : Int) (o : StoredObject),
      (objects c)[id]? = some o → (s.objects c)[id]? = some o) (classes : List ObjectClass) :
    ∃ ops, (run step s ops).registry = s.registry ∧ ∀ c,
      (run step s ops).objects c = if c ∈ classes then objects c else s.objects c := by
  induction classes with
  | nil => exact ⟨[], rfl, fun _ => rfl⟩
  | cons first rest ih =>
      obtain ⟨ops, hregistry, hobjects⟩ := ih
      obtain ⟨ops', hregistry', hobjects'⟩ :=
        exists_run_erase (s := run step s ops) (c := first) (m := objects first) fun id o ho => by
          rw [hobjects]
          split
          · exact ho
          · exact hsub first id o ho
      refine ⟨ops ++ ops', ?_, fun c => ?_⟩
      · rw [run_append, hregistry', hregistry]
      · rw [run_append, hobjects']
        by_cases hc : c = first
        · subst hc
          simp
        · simp [hc, hobjects]

theorem Reaches.shrink (hregistry : g'.registry = g.registry)
    (hsub : ∀ (c : ObjectClass) (id : Int) (o : StoredObject),
      (g'.stored c)[id]? = some o → (g.stored c)[id]? = some o) : Reaches g g' := by
  intro s hs
  rw [← hs.objects] at hsub
  obtain ⟨ops, hregistry', hobjects⟩ := exists_run_shrink hsub [.bullet, .enemy, .player, .boss]
  refine ⟨ops, by rw [hregistry', hregistry, hs.registry], ?_⟩
  funext c
  rw [hobjects, if_pos (by cases c <;> decide)]

theorem Reaches.spawn (c : ObjectClass) (id : Int) {x y : ℚ} {o : GameObject}
    (hnew : GameObject.new g.registry x y = .ok o) (hregistry : g'.registry = g.registry)
    (hstored : g'.stored = Function.update g.stored c ((g.stored c).insertIfNew id o.stored)) :
    Reaches g g' := by
  refine .of_step (.spawn c id x y) fun s hs => ?_
  have hconstruct := GameObject.construct_of_new hnew
  rw [← hs.registry] at hconstruct
  simp only [step, hconstruct]
  exact ⟨hs.registry.trans hregistry.symm, by rw [hstored, ← hs.objects]; rfl⟩

theorem stored_players {m : ExtTreeMap Int Player} :
    Game.stored { g with players := m } =
      Function.update g.stored .player (m.map fun _ (p : Player) => p.stored) :=
  Function.eq_update_iff.mpr ⟨rfl, fun c hc => by cases c <;> first | rfl | exact absurd rfl hc⟩

theorem stored_enemies {m : ExtTreeMap Int Enemy} :
    Game.stored { g with enemies := m } =
      Function.update g.stored .enemy (m.map fun _ (o : GameObject) => o.stored) :=
  Function.eq_update_iff.mpr ⟨rfl, fun c hc => by cases c <;> first | rfl | exact absurd rfl hc⟩

theorem stored_bullets {m : ExtTreeMap Int Bullet} :
    Game.stored { g with bullets := m } =
      Function.update g.stored .bullet (m.map fun _ (o : GameObject) => o.stored) :=
  Function.eq_update_iff.mpr ⟨rfl, fun c hc => by cases c <;> first | rfl | exact absurd rfl hc⟩

theorem stored_bosses {m : ExtTreeMap Int Boss} :
    Game.stored { g with bosses := m } =
      Function.update g.stored .boss (m.map fun _ (o : GameObject) => o.stored) :=
  Function.eq_update_iff.mpr ⟨rfl, fun c hc => by cases c <;> first | rfl | exact absurd rfl hc⟩

theorem reaches_spawnPlayer {playerId : Int} {x y : ℚ} (h : g.spawnPlayer playerId x y = .ok g') :
    Reaches g g' := by
  obtain ⟨player, hp, score, hplayer, rfl⟩ := Game.spawnPlayer_new h
  obtain ⟨o, ho, hplayer⟩ := Fallible.bind_eq_ok.mp hplayer
  obtain rfl := Fallible.pure_eq_ok.mp hplayer
  refine .spawn .player playerId ho rfl
    (stored_players.trans (congrArg (Function.update g.stored .player) ?_))
  refine Eq.trans (map_modify_of_eq fun _ => rfl) ?_
  exact map_insertIfNew

theorem reaches_spawnBullet {playerId : Int} (h : g.spawnBullet playerId = .ok g') :
    Reaches g g' := by
  obtain rfl | ⟨player, bullet, -, hbullet, rfl⟩ := Game.spawnBullet_new h
  · exact .refl _
  · exact .spawn .bullet g.nextBulletId hbullet rfl (stored_bullets.trans (congrArg _ map_insertIfNew))

theorem reaches_spawnEnemy {id : Int} {x y : ℚ} (h : g.spawnEnemy id x y = .ok g') :
    Reaches g g' := by
  obtain ⟨enemy, henemy, rfl⟩ := Game.spawnEnemy_new h
  exact .spawn .enemy id henemy rfl (stored_enemies.trans (congrArg _ map_insertIfNew))

theorem reaches_spawnBoss {id : Int} {x y : ℚ} (h : g.spawnBoss id x y = .ok g') :
    Reaches g g' := by
  obtain ⟨boss, hboss, rfl⟩ := Game.spawnBoss_new h
  exact .spawn .boss id hboss rfl (stored_bosses.trans (congrArg _ map_insertIfNew))

/-- A player that moves has been found before. -/
theorem reaches_handlePlayerMove {playerId actionId : Int}
    (h : g.handlePlayerMove playerId actionId = .ok g') : Reaches g g' := by
  obtain ⟨player, positions, messages, hplayer, -, rfl⟩ := Game.handlePlayerMove_new h
  let target := Game.moveTarget player.position actionId
  refine .of_step (.handlePlayerMove playerId (target.x - player.position.x)
    (target.y - player.position.y)) fun s hs => ?_
  have hfound : playerId ∈ s.objects .player := by
    rw [hs.objects, Game.stored, ExtTreeMap.mem_map, ExtTreeMap.mem_iff_isSome_getElem?, hplayer]
    rfl
  rw [step, if_neg (not_not.mpr hfound), subscript_eq hfound]
  refine ⟨hs.registry, Eq.trans ?_ (stored_players (g := g)).symm⟩
  rw [setObjects, hs.objects]
  exact congrArg (Function.update g.stored .player) (map_modify (f := fun p : Player => p.stored)
    (u := fun p => p.move (target.x - player.position.x) (target.y - player.position.y))
    (v := fun o => o.move (target.x - player.position.x) (target.y - player.position.y))
    fun p => p.stored_move).symm

theorem reaches_moveAll {c : ObjectClass} {x y : ℚ} (hregistry : g'.registry = g.registry)
    (hstored : g'.stored =
      Function.update g.stored c ((g.stored c).map fun _ o => o.move x y)) : Reaches g g' :=
  .of_step (.moveAll c x y) fun s hs =>
    ⟨hs.registry.trans hregistry.symm, by rw [hstored, ← hs.objects]; rfl⟩

theorem map_stored_move {m : ExtTreeMap Int GameObject} {x y : ℚ} :
    (m.map fun _ o => o.move x y).map (fun _ o => o.stored) =
      (m.map fun _ o => o.stored).map fun _ o => o.move x y := by
  simp only [ExtTreeMap.map_map, GameObject.stored_move]

theorem reaches_moveBullets (g : Game) :
    Reaches g { g with bullets := g.bullets.map fun _ bullet => bullet.move 5 0 } :=
  reaches_moveAll (c := .bullet) rfl (stored_bullets.trans (congrArg _ map_stored_move))

theorem reaches_moveEnemies (g : Game) : Reaches g { g with
    enemies := g.enemies.map fun _ enemy => enemy.move (-1) 0
    bosses := g.bosses.map fun _ boss => boss.move (-1 / 10) 0 } := by
  let moved : Game := { g with enemies := g.enemies.map fun _ enemy => enemy.move (-1) 0 }
  have henemies : Reaches g moved :=
    reaches_moveAll (c := .enemy) rfl (stored_enemies.trans (congrArg _ map_stored_move))
  exact henemies.trans (reaches_moveAll (c := .boss) rfl
    ((stored_bosses (g := moved)).trans (congrArg _ map_stored_move)))

theorem reaches_checkCollisions (g : Game) : Reaches g g.checkCollisions := by
  refine .shrink Game.checkCollisions_keeps.registry fun c id o ho => ?_
  cases c with
  | player =>
      refine getElem?_map_of_subset (fun i p hp => ?_) ho
      obtain ⟨q, hq, heq⟩ := Game.getElem?_players_checkCollisions hp
      exact ⟨q, hq, congrArg GameObject.stored heq⟩
  | enemy =>
      exact getElem?_map_of_subset
        (fun _ e he => ⟨e, Game.getElem?_enemies_checkCollisions he, rfl⟩) ho
  | bullet =>
      exact getElem?_map_of_subset
        (fun _ b hb => ⟨b, Game.getElem?_bullets_checkCollisions hb, rfl⟩) ho
  | boss =>
      exact getElem?_map_of_subset
        (fun _ b hb => ⟨b, Game.getElem?_bosses_checkCollisions hb, rfl⟩) ho

theorem reaches_rule : Game.Rule Reaches where
  refl := .refl
  trans := .trans
  record := by
    rintro g g' heq
    rw [heq]
    exact .of_eq rfl rfl
  report := fun _ _ _ => .of_eq rfl rfl
  spawnBullet := reaches_spawnBullet
  spawnNextEnemy := by
    rintro g draw g' h
    exact Reaches.trans (m := { g with enemyId := g.enemyId + 1 }) (.of_eq rfl rfl)
      (reaches_spawnEnemy h)
  spawnNextBoss := by
    rintro g draw g' h
    exact Reaches.trans (m := { g with bossId := g.bossId + 1 }) (.of_eq rfl rfl)
      (reaches_spawnBoss h)
  handlePlayerMove := reaches_handlePlayerMove
  moveBullets := reaches_moveBullets
  moveEnemies := reaches_moveEnemies
  checkCollisions := reaches_checkCollisions

theorem reaches_killFound (g : Game) (c : ObjectClass) (entityId : Int) :
    Reaches g (g.killFound c entityId) :=
  .of_step (.killEntity (Game.toSize entityId)) fun _ hs =>
    ⟨congrArg (·.killEntity (Game.toSize entityId)) hs.registry, hs.objects⟩

theorem reaches_erase {c : ObjectClass} {id : Int} (hregistry : g'.registry = g.registry)
    (hstored : g'.stored = Function.update g.stored c ((g.stored c).erase id)) : Reaches g g' := by
  refine .of_step (.erase c id) fun s hs => ?_
  obtain ⟨hregistry', hobjects⟩ := s.objects_erase c id
  refine ⟨by rw [hregistry', hs.registry, hregistry], ?_⟩
  rw [hobjects, hstored, hs.objects]

theorem reaches_killPlayers (g : Game) (entityId : Int) : Reaches g (g.killPlayers entityId) := by
  unfold Game.killPlayers
  split
  · refine Reaches.trans ?_ (reaches_killFound _ .player entityId)
    exact reaches_erase rfl (stored_players.trans (congrArg _ map_erase))
  · exact .refl g

theorem reaches_killBullets (g : Game) (entityId : Int) : Reaches g (g.killBullets entityId) := by
  unfold Game.killBullets
  split
  · refine Reaches.trans ?_ (reaches_killFound _ .bullet entityId)
    exact reaches_erase rfl (stored_bullets.trans (congrArg _ map_erase))
  · exact .refl g

theorem reaches_killEnemies (g : Game) (entityId : Int) : Reaches g (g.killEnemies entityId) := by
  unfold Game.killEnemies
  split
  · exact reaches_killFound g .enemy entityId
  · exact .refl g

theorem reaches_killBosses (g : Game) (entityId : Int) : Reaches g (g.killBosses entityId) := by
  unfold Game.killBosses
  split
  · exact reaches_killFound g .boss entityId
  · exact .refl g

theorem reaches_initializePlayers {numPlayers : Int} (h : g.initializePlayers numPlayers = .ok g') :
    Reaches g g' :=
  Game.initializePlayers_rule (P := fun _ b => Reaches g b) h (.of_eq rfl rfl)
    fun _ _ _ _ hb hspawn => hb.trans (reaches_spawnPlayer hspawn)

theorem reaches_stop (g : Game) : Reaches g g.stop := by
  refine .of_step .stop fun s hs => ⟨hs.registry, ?_⟩
  funext c
  cases c <;> rfl

theorem reaches_checkPlayersAlive (g : Game) (numClients : Nat) :
    Reaches g (g.checkPlayersAlive numClients).2 := by
  unfold Game.checkPlayersAlive
  dsimp only
  split
  · refine Reaches.trans ?_ (reaches_stop _)
    exact .of_eq rfl rfl
  · exact .of_eq rfl rfl

/-- Every call is made of the operations of the storage. -/
theorem reaches_perform {c : Call} (h : g.perform c = .ok g') : Reaches g g' := by
  cases c with
  | handlePlayerMove playerId actionId => exact reaches_handlePlayerMove h
  | spawnPlayer playerId x y => exact reaches_spawnPlayer h
  | spawnEnemy enemyId x y => exact reaches_spawnEnemy (x := x) h
  | spawnBoss bossId x y => exact reaches_spawnBoss (x := x) h
  | killPlayers entityId => cases h; exact reaches_killPlayers g entityId
  | killBullets entityId => cases h; exact reaches_killBullets g entityId
  | killEnemies entityId => cases h; exact reaches_killEnemies g entityId
  | killBosses entityId => cases h; exact reaches_killBosses g entityId
  | killEntity entityId =>
      cases h
      exact (reaches_killPlayers g entityId).trans (reaches_killBullets _ entityId)
  | initializePlayers numPlayers => exact reaches_initializePlayers h
  | checkPlayersAlive numClients => cases h; exact reaches_checkPlayersAlive g numClients
  | stop => cases h; exact reaches_stop g
  | _ => exact reaches_rule.perform (by trivial) h

/-- In every history of a game, the objects lie in memory where operations of the
storage have put them, which has been safe to read from on the way there; a read of
any object finds a position, and it is the position that the game works with. -/
theorem reads_safe (calls : List Call) :
    Always History.step (fun h =>
      (∃ ops, (run step new ops).Holds h.game ∧ Always step AllReadable new ops) ∧
      (∀ c, AllEntries StoredObject.Readable (h.game.stored c)) ∧
      ∀ c, ∀ o ∈ h.game.objectsOf c, o.2.stored.read = .ok (some o.2.position)) .new calls := by
  have hreaches : Always History.step (fun h => Reaches .new h.game) .new calls :=
    History.always_of_perform (Reaches.refl _) fun _ _ _ hg hcall => hg.trans (reaches_perform hcall)
  refine hreaches.mono fun h hh => ?_
  obtain ⟨ops, hops⟩ := hh new holds_new
  have hsafe : Always step AllReadable new ops :=
    always_of_step allReadable_new fun _ op hs => hs.step op
  refine ⟨⟨ops, hops, hsafe⟩, fun c => ?_, fun _ o _ => o.2.read_stored⟩
  rw [← hops.objects]
  exact hsafe.final c

end Storage

end BeeRType
