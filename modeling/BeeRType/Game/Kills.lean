-- SUMMARY: What the kill functions remove and announce, against the object that they have found.
import BeeRType.Game.Stream

/-!
# Kills

A kill function looks for the first object of its class with an entity, and announces
the entity. `removeEntities` announces the id of the map, by which the object was
created. The two agree on the objects whose id is their entity, and only players and
bullets are removed.
-/

open Cpp Std Transition

namespace BeeRType

namespace Game

/-- The kill function of a class. -/
def kill (g : Game) : ObjectClass → Int → Game
  | .player => g.killPlayers
  | .enemy => g.killEnemies
  | .boss => g.killBosses
  | .bullet => g.killBullets

/-- The object with this id is the only one of its class with the entity. -/
def OnlyMatch (g : Game) (c : ObjectClass) (entityId id : Int) : Prop :=
  (∃ o, (id, o) ∈ g.objectsOf c ∧ o.entity = toSize entityId) ∧
    ∀ o ∈ g.objectsOf c, o.2.entity = toSize entityId → o.1 = id

/-- One object has been removed, and its id announced. -/
structure Removed (c : ObjectClass) (id : Int) (g g' : Game) : Prop where
  players : g'.players = if c = .player then g.players.erase id else g.players
  enemies : g'.enemies = if c = .enemy then g.enemies.erase id else g.enemies
  bosses : g'.bosses = if c = .boss then g.bosses.erase id else g.bosses
  bullets : g'.bullets = if c = .bullet then g.bullets.erase id else g.bullets
  broadcasts : g'.broadcasts = g.broadcasts ++ [destroyMessage c id]

/-- An object that is the only match is removed and announced, and without a match
nothing changes. -/
structure RemovesMatch (c : ObjectClass) (entityId : Int) (g g' : Game) : Prop where
  only : ∀ id, OnlyMatch g c entityId id → Removed c id g g'
  none : (∀ o ∈ g.objectsOf c, o.2.entity ≠ toSize entityId) → g' = g

variable {g g' : Game} {c : ObjectClass} {entityId id : Int}

theorem findIn_of_onlyMatch (h : OnlyMatch g c entityId id) :
    g.findIn c (toSize entityId) = some id := by
  obtain ⟨⟨o, ho, hentity⟩, honly⟩ := h
  cases hfind : (g.objectsOf c).find? fun o => o.2.entity = toSize entityId with
  | none => exact absurd (decide_eq_true hentity) (List.find?_eq_none.mp hfind _ ho)
  | some o' =>
      have hentity' : o'.2.entity = toSize entityId := by
        simpa using List.find?_some hfind
      rw [findIn, hfind, Option.map_some, honly o' (List.mem_of_find?_eq_some hfind) hentity']

/-- A class with one object. -/
theorem onlyMatch_of_singleton
    (h : (g.objectsOf c).map (fun o => (o.1, o.2.entity)) = [(id, toSize entityId)]) :
    OnlyMatch g c entityId id := by
  obtain ⟨o, ho, heq⟩ := List.map_eq_singleton_iff.mp h
  obtain ⟨hid, hentity⟩ := Prod.mk.inj heq
  rw [OnlyMatch, ho]
  refine ⟨⟨o.2, ?_, hentity⟩, fun o' ho' _ => ?_⟩
  · rw [← hid]
    exact List.mem_singleton_self _
  · rw [List.mem_singleton.mp ho', hid]

theorem findIn_of_none (h : ∀ o ∈ g.objectsOf c, o.2.entity ≠ toSize entityId) :
    g.findIn c (toSize entityId) = none := by
  rw [findIn, Option.map_eq_none_iff, List.find?_eq_none]
  exact fun o ho => by simpa using h o ho

theorem kill_of_none (h : ∀ o ∈ g.objectsOf c, o.2.entity ≠ toSize entityId) :
    g.kill c entityId = g := by
  have hfind := findIn_of_none h
  cases c <;> simp only [kill, killPlayers, killEnemies, killBosses, killBullets, hfind]

/-- A kill announces the entity. -/
theorem broadcasts_kill (h : g.findIn c (toSize entityId) = some id) :
    (g.kill c entityId).broadcasts = g.broadcasts ++ [destroyMessage c entityId] := by
  cases c <;> simp only [kill, killPlayers, killEnemies, killBosses, killBullets, h] <;> rfl

theorem Removed.id_eq (h : Removed c id g g')
    (hbroadcasts : g'.broadcasts = g.broadcasts ++ [destroyMessage c entityId]) : id = entityId := by
  have heq := h.broadcasts.symm.trans hbroadcasts
  have hmessage := List.append_cancel_left heq
  exact (destroyMessage_inj.mp (List.cons.inj hmessage).1).2

theorem enemies_killEnemies : (g.killEnemies entityId).enemies = g.enemies := by
  unfold killEnemies
  split <;> rfl

theorem bosses_killBosses : (g.killBosses entityId).bosses = g.bosses := by
  unfold killBosses
  split <;> rfl

/-- The object that is found is removed and announced by its id if it is a player or a
bullet whose id is its entity. -/
theorem removed_kill_iff (h : OnlyMatch g c entityId id) :
    Removed c id g (g.kill c entityId) ↔ (c = .player ∨ c = .bullet) ∧ id = entityId := by
  have hfind := findIn_of_onlyMatch h
  have hbroadcasts := broadcasts_kill hfind
  obtain ⟨o, ho, -⟩ := h.1
  constructor
  · intro hremoved
    refine ⟨?_, hremoved.id_eq hbroadcasts⟩
    cases c with
    | player => exact .inl rfl
    | bullet => exact .inr rfl
    | enemy =>
        have hmem : id ∈ g.enemies := ExtTreeMap.mem_iff_isSome_getElem?.mpr
          (Option.isSome_of_mem (ExtTreeMap.mem_toList_iff_getElem?_eq_some.mp ho))
        have hgone : g.enemies = g.enemies.erase id :=
          enemies_killEnemies.symm.trans hremoved.enemies
        rw [hgone] at hmem
        exact absurd hmem (by simp)
    | boss =>
        have hmem : id ∈ g.bosses := ExtTreeMap.mem_iff_isSome_getElem?.mpr
          (Option.isSome_of_mem (ExtTreeMap.mem_toList_iff_getElem?_eq_some.mp ho))
        have hgone : g.bosses = g.bosses.erase id :=
          bosses_killBosses.symm.trans hremoved.bosses
        rw [hgone] at hmem
        exact absurd hmem (by simp)
  · rintro ⟨rfl | rfl, rfl⟩
    · simp only [kill, killPlayers, hfind]
      exact ⟨rfl, rfl, rfl, rfl, rfl⟩
    · simp only [kill, killBullets, hfind]
      exact ⟨rfl, rfl, rfl, rfl, rfl⟩

theorem removesMatch_kill_iff : RemovesMatch c entityId g (g.kill c entityId) ↔
    ∀ id, OnlyMatch g c entityId id → (c = .player ∨ c = .bullet) ∧ id = entityId := by
  constructor
  · intro h id honly
    exact (removed_kill_iff honly).mp (h.only id honly)
  · intro h
    exact ⟨fun id honly => (removed_kill_iff honly).mpr (h id honly), kill_of_none⟩

end Game

/-- The class and the argument of a call of a kill function. -/
def Call.kills : Call → Option (ObjectClass × Int)
  | killPlayers entityId => some (.player, entityId)
  | killEnemies entityId => some (.enemy, entityId)
  | killBosses entityId => some (.boss, entityId)
  | killBullets entityId => some (.bullet, entityId)
  | _ => none

namespace History

open Game

/-- A call of a kill function that is made: no call before it has thrown. -/
def Kills (s : History) (call : Call) (c : ObjectClass) (entityId : Int) : Prop :=
  s.thrown = none ∧ call.kills = some (c, entityId)

theorem game_step_of_kills {s : History} {call : Call} {c : ObjectClass} {entityId : Int}
    (h : s.Kills call c entityId) : (s.step call).game = s.game.kill c entityId := by
  obtain ⟨g, thrown⟩ := s
  obtain ⟨rfl, hkills⟩ := h
  cases call <;> cases hkills <;> rfl

/-- Along every history a kill removes and announces the only match exactly when it is
a player or a bullet whose id is its entity. -/
theorem removesMatch_iff (calls : List Call) :
    EachStep step (fun s call => ∀ c entityId, s.Kills call c entityId →
        RemovesMatch c entityId s.game (s.step call).game) new calls ↔
      EachStep step (fun s call => ∀ c entityId, s.Kills call c entityId →
        ∀ id, OnlyMatch s.game c entityId id → (c = .player ∨ c = .bullet) ∧ id = entityId)
        new calls := by
  refine (always_of_step (I := fun _ : History => True) trivial
    fun _ _ _ => trivial).eachStep_congr fun s call _ => ?_
  refine forall_congr' fun c => forall_congr' fun entityId => forall_congr' fun hkills => ?_
  rw [game_step_of_kills hkills]
  exact removesMatch_kill_iff

/-- The boss of the second wave stays. -/
theorem not_removesMatch_boss :
    ¬ EachStep step (fun s call => ∀ c entityId, s.Kills call c entityId →
        RemovesMatch c entityId s.game (s.step call).game) new
      [.waveSystem 0 fun _ => .origin, .waveSystem 10000000000 fun _ => .origin,
        .waveSystem 20000000000 fun _ => .origin, .killBosses 0] := by
  rintro ⟨-, -, -, hlast, -⟩
  have hremoves := hlast .boss 0 ⟨by decide +kernel, rfl⟩
  have hremoved := hremoves.only 0 (onlyMatch_of_singleton (by decide +kernel))
  exact absurd (congrArg ExtTreeMap.size hremoved.bosses) (by decide +kernel)

end History

end BeeRType
