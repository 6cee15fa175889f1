-- SUMMARY: The table of who has shot which bullet, against the bullets there are.
import BeeRType.Base.Entries
import BeeRType.Game.Calls

/-!
# Shooters

`bulletIdWhoShot` is filled by `spawnBullet` and emptied by `removeEntities`. Two
other ways for a bullet to go, `killBullets` and `stop`, leave its entry behind.
-/

open Cpp Std Transition

namespace BeeRType

namespace Game

/-! ## The bullets that a call creates -/

/-- The bullets that a call of `spawnBullet` puts into the map, with the player. -/
def shotBy (g : Game) (playerId : Int) : List (Int × Int) :=
  match g.spawnBullet playerId with
  | .ok g' => (g'.bullets.keys.filter fun id => id ∉ g.bullets).map fun id => (id, playerId)
  | .error _ => []

/-- Those that the loop over the queued actions puts there. -/
def shotByActions (g : Game) : List PlayerAction → List (Int × Int)
  | [] => []
  | action :: rest =>
    (if action.actionId = 5 then g.shotBy action.playerId else []) ++
      match g.applyPlayerAction action with
      | .ok (g', _) => g'.shotByActions rest
      | .error _ => []

def shots (g : Game) : Call → List (Int × Int)
  | .spawnBullet playerId => g.shotBy playerId
  | .processPlayerActions => g.shotByActions g.playerActions
  | _ => []

/-- The table has an entry for each bullet and no other, and it names the player whose
call of `spawnBullet` has created the bullet; `shot` are the bullets created so far. -/
structure TableMatches (g : Game) (shot : List (Int × Int)) : Prop where
  keys : ∀ id, id ∈ g.bulletIdWhoShot ↔ id ∈ g.bullets
  shooter : ∀ id ∈ g.bullets, ∀ playerId,
    g.bulletIdWhoShot[id]? = some playerId ↔ (id, playerId) ∈ shot

/-- The table matches, and no bullet has had an id that is still to be given out. -/
structure Recorded (g : Game) (shot : List (Int × Int)) : Prop extends TableMatches g shot where
  bullets_lt : ∀ id ∈ g.bullets, id < g.nextBulletId
  shot_lt : ∀ s ∈ shot, s.1 < g.nextBulletId

/-- These bullets go, with their entries. -/
structure Dropped (removed : List Int) (g g' : Game) : Prop where
  bullets : ∀ id, id ∈ g'.bullets ↔ id ∈ g.bullets ∧ id ∉ removed
  shooters : ∀ id, g'.bulletIdWhoShot[id]? = if id ∈ removed then none else g.bulletIdWhoShot[id]?
  nextBulletId : g'.nextBulletId = g.nextBulletId

variable {g g' : Game} {shot : List (Int × Int)} {removed : List Int} {id playerId : Int}

theorem Recorded.dropped (hg : Recorded g shot) (h : Dropped removed g g') : Recorded g' shot where
  keys := by
    intro id
    rw [h.bullets, ← hg.keys, ExtTreeMap.mem_iff_isSome_getElem?, ExtTreeMap.mem_iff_isSome_getElem?,
      h.shooters]
    split <;> simp_all
  shooter := by
    intro id hid playerId
    obtain ⟨hold, hkept⟩ := (h.bullets id).mp hid
    rw [h.shooters, if_neg hkept]
    exact hg.shooter id hold playerId
  bullets_lt := by
    intro id hid
    rw [h.nextBulletId]
    exact hg.bullets_lt id ((h.bullets id).mp hid).1
  shot_lt := by
    rw [h.nextBulletId]
    exact hg.shot_lt

theorem dropped_none (hbullets : ∀ id, id ∈ g'.bullets ↔ id ∈ g.bullets)
    (hshooters : g'.bulletIdWhoShot = g.bulletIdWhoShot)
    (hnext : g'.nextBulletId = g.nextBulletId) : Dropped [] g g' where
  bullets := fun id => by simp [hbullets]
  shooters := fun id => by simp [hshooters]
  nextBulletId := hnext

/-! ## Spawning a bullet -/

theorem mem_shotBy (h : g.spawnBullet playerId = .ok g') {s : Int × Int} :
    s ∈ g.shotBy playerId ↔ s.1 ∈ g'.bullets ∧ s.1 ∉ g.bullets ∧ s.2 = playerId := by
  obtain ⟨id, shooter⟩ := s
  simp only [shotBy, h, List.mem_map, List.mem_filter, ExtTreeMap.mem_keys, decide_eq_true_eq,
    Prod.mk.injEq]
  constructor
  · rintro ⟨_, ⟨hnew, hold⟩, rfl, rfl⟩
    exact ⟨hnew, hold, rfl⟩
  · rintro ⟨hnew, hold, rfl⟩
    exact ⟨id, ⟨hnew, hold⟩, rfl, rfl⟩

theorem shotBy_self (h : g.spawnBullet playerId = .ok g) : g.shotBy playerId = [] :=
  List.eq_nil_iff_forall_not_mem.mpr fun _ hs =>
    ((mem_shotBy h).mp hs).2.1 ((mem_shotBy h).mp hs).1

/-- A bullet has been created under the next id. -/
structure Fired (playerId : Int) (g g' : Game) : Prop where
  bullets : ∀ id, id ∈ g'.bullets ↔ id = g.nextBulletId ∨ id ∈ g.bullets
  shooters : ∀ id, g'.bulletIdWhoShot[id]? =
    if id = g.nextBulletId then some playerId else g.bulletIdWhoShot[id]?
  nextBulletId : g'.nextBulletId = g.nextBulletId + 1

theorem spawnBullet_fired (h : g.spawnBullet playerId = .ok g') : g' = g ∨ Fired playerId g g' := by
  obtain rfl | ⟨-, bullet, x, y, rfl⟩ := spawnBullet_ok h
  · exact .inl rfl
  · refine .inr ⟨fun id => ?_, fun id => ?_, rfl⟩
    · exact ExtTreeMap.mem_insertIfNew.trans (or_congr_left (Std.compare_eq_iff_eq.trans eq_comm))
    · simp only [ExtTreeMap.getElem?_insert, Std.compare_eq_iff_eq, eq_comm (a := id)]

theorem mem_shotBy_fired (hfresh : g.nextBulletId ∉ g.bullets) (h : g.spawnBullet playerId = .ok g')
    (hfired : Fired playerId g g') {s : Int × Int} :
    s ∈ g.shotBy playerId ↔ s = (g.nextBulletId, playerId) := by
  rw [mem_shotBy h, hfired.bullets, Prod.ext_iff]
  constructor
  · rintro ⟨hid | hid, hnew, hshooter⟩
    · exact ⟨hid, hshooter⟩
    · exact absurd hid hnew
  · rintro ⟨hid, hshooter⟩
    exact ⟨.inl hid, hid ▸ hfresh, hshooter⟩

/-- A bullet is created under an id that no bullet has had. -/
theorem Recorded.spawnBullet (hg : Recorded g shot) (h : g.spawnBullet playerId = .ok g') :
    Recorded g' (shot ++ g.shotBy playerId) := by
  obtain hsame | hfired := spawnBullet_fired h
  · rw [hsame] at h ⊢
    rw [shotBy_self h, List.append_nil]
    exact hg
  have hfresh : g.nextBulletId ∉ g.bullets := fun hmem => Int.lt_irrefl _ (hg.bullets_lt _ hmem)
  have hshot : ∀ s, s ∈ shot ++ g.shotBy playerId ↔ s ∈ shot ∨ s = (g.nextBulletId, playerId) :=
    fun s => List.mem_append.trans (or_congr_right (mem_shotBy_fired hfresh h hfired))
  constructor
  · constructor
    · intro id
      rw [hfired.bullets, ← hg.keys, ExtTreeMap.mem_iff_isSome_getElem?,
        ExtTreeMap.mem_iff_isSome_getElem?, hfired.shooters]
      split <;> simp_all
    · intro id hid shooter
      rw [hfired.shooters, hshot, Prod.mk.injEq]
      split
      · rename_i hnew
        subst hnew
        have hnone : (g.nextBulletId, shooter) ∉ shot := fun hmem =>
          Int.lt_irrefl _ (hg.shot_lt _ hmem)
        simp [hnone, eq_comm]
      · rename_i hold
        have hmem := ((hfired.bullets id).mp hid).resolve_left hold
        rw [hg.shooter id hmem]
        simp [hold]
  · intro id hid
    rw [hfired.nextBulletId]
    rcases (hfired.bullets id).mp hid with rfl | hold
    · exact Int.lt_succ _
    · exact Int.lt_trans (hg.bullets_lt id hold) (Int.lt_succ _)
  · intro s hs
    rw [hfired.nextBulletId]
    rcases (hshot s).mp hs with hold | rfl
    · exact Int.lt_trans (hg.shot_lt s hold) (Int.lt_succ _)
    · exact Int.lt_succ _

theorem handlePlayerMove_dropped {actionId : Int}
    (h : g.handlePlayerMove playerId actionId = .ok g') : Dropped [] g g' := by
  obtain ⟨player, positions, messages, -, -, rfl⟩ := handlePlayerMove_new h
  exact dropped_none (fun _ => Iff.rfl) rfl rfl

theorem Recorded.applyPlayerAction {action action' : PlayerAction} (hg : Recorded g shot)
    (h : g.applyPlayerAction action = .ok (g', action')) :
    Recorded g' (shot ++ if action.actionId = 5 then g.shotBy action.playerId else []) := by
  unfold Game.applyPlayerAction at h
  split at h
  · rename_i hmove
    obtain ⟨g₁, hmoved, h⟩ := Fallible.bind_eq_ok.mp h
    cases Fallible.pure_eq_ok.mp h
    have hnoShot : action.actionId ≠ 5 := by omega
    rw [if_neg hnoShot, List.append_nil]
    exact hg.dropped (handlePlayerMove_dropped hmoved)
  · split at h
    · rename_i hshoot
      obtain ⟨g₁, hshot, h⟩ := Fallible.bind_eq_ok.mp h
      cases Fallible.pure_eq_ok.mp h
      rw [if_pos hshoot]
      exact hg.spawnBullet hshot
    · rename_i hnoShot
      cases h
      rw [if_neg hnoShot, List.append_nil]
      exact hg

/-- The loop over the queued actions. -/
theorem Recorded.applyPlayerActions {actions actions' : List PlayerAction}
    (hg : Recorded g shot) (h : g.applyPlayerActions actions = .ok (g', actions')) :
    Recorded g' (shot ++ g.shotByActions actions) := by
  induction actions generalizing g shot actions' with
  | nil =>
      cases h
      rw [shotByActions, List.append_nil]
      exact hg
  | cons action rest ih =>
      obtain ⟨g₁, action', rest', hfirst, hrest, rfl⟩ := applyPlayerActions_cons.mp h
      rw [shotByActions, hfirst, ← List.append_assoc]
      exact ih (hg.applyPlayerAction hfirst) hrest

/-! ## The other calls -/

theorem dropped_rule : WaveRule (Dropped []) where
  refl := fun g => dropped_none (fun _ => Iff.rfl) rfl rfl
  trans := by
    rintro g m g' h h'
    refine ⟨fun id => ?_, fun id => ?_, h'.nextBulletId.trans h.nextBulletId⟩
    · simp [h'.bullets, h.bullets]
    · simp [h'.shooters, h.shooters]
  record := by
    rintro g g' heq
    rw [heq]
    exact dropped_none (fun _ => Iff.rfl) rfl rfl
  report := fun _ _ _ => dropped_none (fun _ => Iff.rfl) rfl rfl
  spawnNextEnemy := by
    rintro g draw g' h
    obtain ⟨enemy, payload, rfl⟩ := spawnEnemy_ok h
    exact dropped_none (fun _ => Iff.rfl) rfl rfl
  spawnNextBoss := by
    rintro g draw g' h
    obtain ⟨boss, payload, rfl⟩ := spawnBoss_ok h
    exact dropped_none (fun _ => Iff.rfl) rfl rfl

theorem detectOutOfBounds_bulletIdWhoShot :
    g.detectOutOfBounds.bulletIdWhoShot = g.bulletIdWhoShot := rfl

theorem detectOutOfBounds_nextBulletId : g.detectOutOfBounds.nextBulletId = g.nextBulletId := rfl

/-- `removeEntities` removes bullets with their entries. -/
theorem checkCollisions_dropped : ∃ removed, Dropped removed g g.checkCollisions := by
  have hbullets : g.detectAll.detectOutOfBounds.bullets = g.bullets :=
    detectOutOfBounds_bullets.trans detectAll_detected.bullets
  have hshooters : g.detectAll.detectOutOfBounds.bulletIdWhoShot = g.bulletIdWhoShot :=
    detectOutOfBounds_bulletIdWhoShot.trans
      (congrArg Game.bulletIdWhoShot detectAll_detected.frame :)
  have hnext : g.detectAll.detectOutOfBounds.nextBulletId = g.nextBulletId :=
    detectOutOfBounds_nextBulletId.trans (congrArg Game.nextBulletId detectAll_detected.frame :)
  refine ⟨(removeEntities g.bullets g.detectAll.detectOutOfBounds.deadBullets).removed, ?_, ?_, ?_⟩
  · intro id
    rw [bullets_checkCollisions]
    exact mem_removeEntities_iff
  · intro id
    rw [checkCollisions_eq, removeAll_eq]
    dsimp only
    rw [hbullets, hshooters]
    exact getElem?_foldl_erase
  · rw [checkCollisions_eq, removeAll_eq]
    dsimp only
    rw [hnext]

theorem updateBullets_dropped {now : Int} : Dropped [] g (g.updateBullets now) := by
  have hmem : ∀ id, id ∈ (g.updateBullets now).bullets ↔ id ∈ g.bullets := by
    intro id
    unfold Game.updateBullets
    dsimp only
    split
    · exact ExtTreeMap.mem_map
    · exact Iff.rfl
  rw [updateBullets_frame] at hmem ⊢
  exact dropped_none hmem rfl rfl

theorem killPlayers_frame {entityId : Int} : g.killPlayers entityId = { g with
    players := (g.killPlayers entityId).players
    registry := (g.killPlayers entityId).registry
    broadcasts := (g.killPlayers entityId).broadcasts } := by
  unfold killPlayers
  split <;> rfl

theorem killPlayers_dropped {entityId : Int} : Dropped [] g (g.killPlayers entityId) := by
  rw [killPlayers_frame]
  exact dropped_none (fun _ => Iff.rfl) rfl rfl

theorem stop_dropped (hbullets : g.bullets = ∅) : Dropped [] g g.stop := by
  refine dropped_none (fun id => ?_) rfl rfl
  rw [hbullets]
  rfl

/-- No bullet goes without its entry. -/
def KeepsEntries (g : Game) : Call → Prop
  | .stop => g.bullets = ∅
  | .checkPlayersAlive numClients => (numClients = 0 ∨ g.players = ∅) → g.bullets = ∅
  | .killBullets entityId | .killEntity entityId => g.findIn .bullet (toSize entityId) = none
  | _ => True

theorem checkPlayersAlive_dropped {numClients : Nat}
    (h : KeepsEntries g (.checkPlayersAlive numClients)) :
    Dropped [] g (g.checkPlayersAlive numClients).2 := by
  unfold checkPlayersAlive
  dsimp only
  split
  · rename_i hover
    have hbullets : g.bullets = ∅ :=
      h (hover.imp Int.natCast_eq_zero.mp ExtTreeMap.isEmpty_iff.mp)
    refine dropped_none (fun id => ?_) rfl rfl
    rw [hbullets]
    rfl
  · exact dropped_none (fun _ => Iff.rfl) rfl rfl

theorem killBullets_of_none {entityId : Int} (h : g.findIn .bullet (toSize entityId) = none) :
    g.killBullets entityId = g := by
  simp only [killBullets, h]

theorem findIn_bullet_killPlayers {entityId : Int} {entity : Nat} :
    (g.killPlayers entityId).findIn .bullet entity = g.findIn .bullet entity := by
  unfold killPlayers
  split <;> rfl

/-- The calls that may create bullets. -/
def Shoots : Call → Prop
  | .spawnBullet _ | .processPlayerActions => True
  | _ => False

/-- What a call does that neither shoots nor loses an entry. -/
theorem perform_dropped {c : Call} (hshoots : ¬ Shoots c) (hc : KeepsEntries g c)
    (h : g.perform c = .ok g') : ∃ removed, Dropped removed g g' := by
  cases c with
  | addPlayerAction playerId actionId =>
      cases h
      exact ⟨[], dropped_rule.record rfl⟩
  | processPlayerActions => exact absurd trivial hshoots
  | deletePlayerAction =>
      cases h
      exact ⟨[], dropped_rule.record rfl⟩
  | handlePlayerMove playerId actionId => exact ⟨[], handlePlayerMove_dropped h⟩
  | spawnPlayer playerId x y =>
      obtain ⟨players, hp, score, -, rfl⟩ := spawnPlayer_ok h
      exact ⟨[], dropped_none (fun _ => Iff.rfl) rfl rfl⟩
  | spawnBullet playerId => exact absurd trivial hshoots
  | spawnEnemy enemyId x y =>
      obtain ⟨enemy, payload, rfl⟩ := spawnEnemy_ok (x := x) h
      exact ⟨[], dropped_none (fun _ => Iff.rfl) rfl rfl⟩
  | spawnBoss bossId x y =>
      obtain ⟨boss, payload, rfl⟩ := spawnBoss_ok (x := x) h
      exact ⟨[], dropped_none (fun _ => Iff.rfl) rfl rfl⟩
  | killPlayers entityId =>
      cases h
      exact ⟨[], killPlayers_dropped⟩
  | killBullets entityId =>
      cases h
      rw [killBullets_of_none hc]
      exact ⟨[], dropped_rule.refl g⟩
  | killEnemies entityId =>
      cases h
      unfold killEnemies
      split <;> exact ⟨[], dropped_none (fun _ => Iff.rfl) rfl rfl⟩
  | killBosses entityId =>
      cases h
      unfold killBosses
      split <;> exact ⟨[], dropped_none (fun _ => Iff.rfl) rfl rfl⟩
  | killEntity entityId =>
      cases h
      rw [killEntity, killBullets_of_none (findIn_bullet_killPlayers.trans hc)]
      exact ⟨[], killPlayers_dropped⟩
  | initializePlayers numPlayers =>
      refine ⟨[], initializePlayers_rule (P := fun _ b => Dropped [] g b) h
        (dropped_none (fun _ => Iff.rfl) rfl rfl) fun pre i b b' hb hspawn => ?_⟩
      obtain ⟨players, hp, score, -, rfl⟩ := spawnPlayer_ok hspawn
      exact dropped_rule.trans hb (dropped_none (fun _ => Iff.rfl) rfl rfl)
  | updateBullets now =>
      cases h
      exact ⟨[], updateBullets_dropped⟩
  | updateEnemies now =>
      cases h
      rw [updateEnemies_frame]
      exact ⟨[], dropped_none (fun _ => Iff.rfl) rfl rfl⟩
  | checkCollisions =>
      cases h
      exact checkCollisions_dropped
  | waveSystem now draws => exact ⟨[], dropped_rule.waveSystem h⟩
  | updateUI now =>
      cases h
      exact ⟨[], dropped_rule.updateUI now⟩
  | checkPlayersAlive numClients =>
      cases h
      exact ⟨[], checkPlayersAlive_dropped hc⟩
  | stop =>
      cases h
      exact ⟨[], stop_dropped hc⟩

theorem Recorded.perform {c : Call} (hg : Recorded g shot) (hc : KeepsEntries g c)
    (h : g.perform c = .ok g') : Recorded g' (shot ++ g.shots c) := by
  by_cases hshoots : Shoots c
  · cases c with
    | spawnBullet playerId => exact hg.spawnBullet h
    | processPlayerActions =>
        obtain ⟨⟨g₁, actions⟩, hloop, h⟩ := Fallible.bind_eq_ok.mp h
        obtain rfl := Fallible.pure_eq_ok.mp h
        exact (hg.applyPlayerActions hloop).dropped (dropped_rule.record rfl)
    | _ => exact hshoots.elim
  · have hshots : g.shots c = [] := by
      cases c <;> first | rfl | exact absurd trivial hshoots
    obtain ⟨removed, hdropped⟩ := perform_dropped hshoots hc h
    rw [hshots, List.append_nil]
    exact hg.dropped hdropped

/-- An entry without a bullet. -/
theorem not_tableMatches (hshooters : g'.bulletIdWhoShot = g.bulletIdWhoShot) (hg : TableMatches g shot)
    (hid : id ∈ g.bullets) (hgone : id ∉ g'.bullets) {shot' : List (Int × Int)} :
    ¬ TableMatches g' shot' := by
  intro hg'
  have hentry := (hg.keys id).mpr hid
  rw [← hshooters] at hentry
  exact hgone ((hg'.keys id).mp hentry)

theorem exists_mem_bullets (h : g.bullets ≠ ∅) : ∃ id, id ∈ g.bullets := by
  by_contra hnone
  exact h (ExtTreeMap.eq_empty_iff_forall_not_mem.mpr fun id hid => hnone ⟨id, hid⟩)

theorem killBullets_of_some {entityId : Int} (h : g.findIn .bullet (toSize entityId) ≠ none) :
    ∃ id ∈ g.bullets, id ∉ (g.killBullets entityId).bullets ∧
      (g.killBullets entityId).bulletIdWhoShot = g.bulletIdWhoShot := by
  obtain ⟨id, hid⟩ := Option.ne_none_iff_exists'.mp h
  obtain ⟨o, ho, rfl⟩ := Option.map_eq_some_iff.mp hid
  have hmem : o.1 ∈ g.bullets := by
    have hget := ExtTreeMap.mem_toList_iff_getElem?_eq_some.mp (List.mem_of_find?_eq_some ho)
    rw [ExtTreeMap.mem_iff_isSome_getElem?, hget]
    rfl
  refine ⟨o.1, hmem, ?_, ?_⟩
  · simp only [killBullets, hid]
    simp [killFound, broadcast]
  · simp only [killBullets, hid]
    rfl

/-- A call that loses an entry leaves the table with one too many. -/
theorem TableMatches.lost {c : Call} (hg : TableMatches g shot) (hc : ¬ KeepsEntries g c)
    (h : g.perform c = .ok g') {shot' : List (Int × Int)} : ¬ TableMatches g' shot' := by
  cases c with
  | stop =>
      cases h
      obtain ⟨id, hid⟩ := exists_mem_bullets hc
      have hshooters : g.stop.bulletIdWhoShot = g.bulletIdWhoShot := rfl
      exact not_tableMatches hshooters hg hid ExtTreeMap.not_mem_empty
  | checkPlayersAlive numClients =>
      obtain ⟨hover, hbullets⟩ := Classical.not_imp.mp hc
      obtain ⟨id, hid⟩ := exists_mem_bullets hbullets
      have hover' : (numClients : Int) = 0 ∨ g.players.isEmpty = true :=
        hover.imp Int.natCast_eq_zero.mpr ExtTreeMap.isEmpty_iff.mpr
      have hstopped : (g.checkPlayersAlive numClients).2.bullets = ∅ ∧
          (g.checkPlayersAlive numClients).2.bulletIdWhoShot = g.bulletIdWhoShot := by
        unfold checkPlayersAlive
        dsimp only
        rw [if_pos hover']
        exact ⟨rfl, rfl⟩
      cases h
      refine not_tableMatches hstopped.2 hg hid ?_
      rw [hstopped.1]
      exact ExtTreeMap.not_mem_empty
  | killBullets entityId =>
      cases h
      obtain ⟨id, hid, hgone, hshooters⟩ := killBullets_of_some hc
      exact not_tableMatches hshooters hg hid hgone
  | killEntity entityId =>
      cases h
      have hfound : (g.killPlayers entityId).findIn .bullet (toSize entityId) ≠ none := by
        rw [findIn_bullet_killPlayers]
        exact hc
      obtain ⟨id, hid, hgone, hshooters⟩ := killBullets_of_some hfound
      have hbullets : (g.killPlayers entityId).bullets = g.bullets := by rw [killPlayers_frame]
      have htable : (g.killPlayers entityId).bulletIdWhoShot = g.bulletIdWhoShot := by
        rw [killPlayers_frame]
      exact not_tableMatches (hshooters.trans htable) hg (hbullets ▸ hid) hgone
  | _ => exact absurd trivial hc

end Game

/-! ## Histories -/

structure Shooters where
  history : History
  /-- The bullets that calls of `spawnBullet` have created, with the player. -/
  shot : List (Int × Int)

namespace Shooters

def new : Shooters := ⟨.new, []⟩

def step (s : Shooters) (c : Call) : Shooters :=
  { history := s.history.step c
    shot := if s.history.thrown.isSome then s.shot
      else match s.history.game.perform c with
        | .ok _ => s.shot ++ s.history.game.shots c
        | .error _ => s.shot }

def Matches (s : Shooters) : Prop := s.history.game.TableMatches s.shot

/-- The call does not throw away a bullet without its entry. -/
def KeepsEntries (s : Shooters) (c : Call) : Prop :=
  s.history.thrown = none → s.history.game.KeepsEntries c

theorem recorded_new : Game.Recorded .new [] := by
  refine ⟨⟨fun id => ?_, fun id hid => ?_⟩, fun id hid => ?_, nofun⟩
  · simp [Game.new]
  · exact absurd hid ExtTreeMap.not_mem_empty
  · exact absurd hid ExtTreeMap.not_mem_empty

variable {s : Shooters} {c : Call} {calls : List Call}

theorem recorded_step (hs : s.history.game.Recorded s.shot) (hc : s.KeepsEntries c) :
    (s.step c).history.game.Recorded (s.step c).shot := by
  unfold step
  obtain ⟨h, hthrown⟩ | ⟨game, hthrown, hok, h⟩ | ⟨e, hthrown, herror, h⟩ := s.history.step_cases c
  · simp only [h, hthrown, if_true]
    exact hs
  · simp only [h, hthrown, hok, Option.isSome_none, Bool.false_eq_true, if_false]
    exact hs.perform (hc hthrown) hok
  · simp only [h, hthrown, herror, Option.isSome_none, Bool.false_eq_true, if_false]
    exact hs

theorem not_matches_step (hs : s.Matches) (hc : ¬ s.KeepsEntries c) : ¬ (s.step c).Matches := by
  obtain ⟨hrunning, hlost⟩ := Classical.not_imp.mp hc
  unfold step Matches
  obtain ⟨-, hthrown⟩ | ⟨game, hthrown, hok, h⟩ | ⟨e, -, herror, -⟩ := s.history.step_cases c
  · rw [hrunning] at hthrown
    cases hthrown
  · rw [h]
    exact Game.TableMatches.lost hs hlost hok
  · cases c <;> first | exact absurd trivial hlost | cases herror

/-- The table matches the bullets in every state of a history exactly if no call of
`stop`, `killBullets` or `killEntity`, and no end of the game in `checkPlayersAlive`,
throws away a bullet. -/
theorem matches_iff : Always step Matches new calls ↔ EachStep step KeepsEntries new calls :=
  always_iff_eachStep (I := fun s => s.history.game.Recorded s.shot) recorded_new
    (fun _ hs => hs.toTableMatches) (fun _ _ hs hc => recorded_step hs hc)
    fun _ _ hs hc => not_matches_step hs.toTableMatches hc

/-- A player shoots, and the game is stopped. -/
def shootThenStop : List Call := [.initializePlayers 1, .spawnBullet 0, .stop]

theorem not_matches_stopped :
    ¬ Always step Matches new shootThenStop ∧
      (run step new shootThenStop).history.game.bulletIdWhoShot[(0 : Int)]? = some 0 ∧
        (run step new shootThenStop).history.game.bullets = ∅ := by
  have hentry :
      (run step new shootThenStop).history.game.bulletIdWhoShot[(0 : Int)]? = some 0 := by
    decide +kernel
  have hbullets : (run step new shootThenStop).history.game.bullets = ∅ := by
    rw [← ExtTreeMap.isEmpty_iff]
    decide +kernel
  refine ⟨fun h => ?_, hentry, hbullets⟩
  have hmem : (0 : Int) ∈ (run step new shootThenStop).history.game.bulletIdWhoShot := by
    rw [ExtTreeMap.mem_iff_isSome_getElem?, hentry]
    rfl
  have hbullet := (h.final.keys 0).mp hmem
  rw [hbullets] at hbullet
  exact absurd hbullet ExtTreeMap.not_mem_empty

end Shooters

end BeeRType
