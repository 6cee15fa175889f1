-- SUMMARY: A bullet that is in front of an enemy or a boss does not get past it.
import BeeRType.Game.Reachable

/-!
# No tunnelling

Between two calls of `checkCollisions` a bullet and its target come closer by at most
six units. That is little enough that they are seen to overlap before the bullet
reaches the zone around the target in which `checkCollision` is blind.
-/

open Cpp Std Transition

namespace BeeRType

namespace Game

/-- The stored object of a class with an id. -/
def objectAt (g : Game) (c : ObjectClass) (i : Int) : Option GameObject :=
  match c with
  | .player => g.players[i]?.map Player.toGameObject
  | .enemy => g.enemies[i]?
  | .boss => g.bosses[i]?
  | .bullet => g.bullets[i]?

@[simp] theorem objectAt_enemy {g : Game} {i : Int} : g.objectAt .enemy i = g.enemies[i]? := rfl
@[simp] theorem objectAt_boss {g : Game} {i : Int} : g.objectAt .boss i = g.bosses[i]? := rfl
@[simp] theorem objectAt_bullet {g : Game} {i : Int} : g.objectAt .bullet i = g.bullets[i]? := rfl

/-- Bullets, enemies and bosses that are already numbered stay where they are, or
disappear. -/
def Stays (g g' : Game) : Prop :=
  ∀ c, c ≠ .player → g.nextId c ≤ g'.nextId c ∧
    ∀ i < g.nextId c, ∀ o, g'.objectAt c i = some o → g.objectAt c i = some o

variable {g m g' : Game} {c : ObjectClass} {b t : Int} {gap gap' : ℚ}

theorem mem_ids_of_objectAt {i : Int} {o : GameObject} (h : g.objectAt c i = some o) :
    i ∈ g.ids c := by
  cases c with
  | player =>
      obtain ⟨p, hp, -⟩ := Option.map_eq_some_iff.mp h
      exact ExtTreeMap.mem_iff_isSome_getElem?.mpr (Option.isSome_of_mem hp)
  | _ => exact ExtTreeMap.mem_iff_isSome_getElem?.mpr (Option.isSome_of_mem h)

theorem Stays.of_eq (hbullets : g'.bullets = g.bullets) (henemies : g'.enemies = g.enemies)
    (hbosses : g'.bosses = g.bosses) (hnext : g'.nextId = g.nextId) : Stays g g' := by
  intro c hc
  rw [hnext]
  refine ⟨Int.le_refl _, fun i _ o ho => ?_⟩
  cases c with
  | player => exact absurd rfl hc
  | enemy =>
      rw [objectAt_enemy, henemies] at ho
      exact ho
  | boss =>
      rw [objectAt_boss, hbosses] at ho
      exact ho
  | bullet =>
      rw [objectAt_bullet, hbullets] at ho
      exact ho

theorem Stays.trans (h : Stays g m) (h' : Stays m g') : Stays g g' := by
  intro c hc
  obtain ⟨hle, hold⟩ := h c hc
  obtain ⟨hle', hold'⟩ := h' c hc
  exact ⟨hle.trans hle', fun i hi o ho => hold i hi o (hold' i (by omega) o ho)⟩

/-- A new object is stored under the next id. -/
theorem getElem?_insertIfNew_of_lt {E : Type} {entities : ExtTreeMap Int E} {e o : E} {i id : Int}
    (hi : i < id) (h : (entities.insertIfNew id e)[i]? = some o) : entities[i]? = some o := by
  rw [ExtTreeMap.getElem?_insertIfNew, if_neg] at h
  · exact h
  · rintro ⟨heq, -⟩
    have := Std.compare_eq_iff_eq.mp heq
    omega

theorem spawnBullet_stays {playerId : Int} (h : g.spawnBullet playerId = .ok g') : Stays g g' := by
  obtain rfl | ⟨player, bullet, -, -, rfl⟩ := spawnBullet_new h
  · exact .of_eq rfl rfl rfl rfl
  · intro c hc
    cases c with
    | player => exact absurd rfl hc
    | bullet => exact ⟨by simp [nextId], fun i hi o ho => getElem?_insertIfNew_of_lt hi ho⟩
    | _ => exact ⟨Int.le_refl _, fun i _ o ho => ho⟩

theorem spawnNextEnemy_stays {draw : Draw} (h : g.spawnNextEnemy draw = .ok g') : Stays g g' := by
  obtain ⟨enemy, -, rfl⟩ := spawnEnemy_new h
  intro c hc
  cases c with
  | player => exact absurd rfl hc
  | enemy => exact ⟨by simp [nextId], fun i hi o ho => getElem?_insertIfNew_of_lt hi ho⟩
  | _ => exact ⟨Int.le_refl _, fun i _ o ho => ho⟩

theorem spawnNextBoss_stays {draw : Draw} (h : g.spawnNextBoss draw = .ok g') : Stays g g' := by
  obtain ⟨boss, -, rfl⟩ := spawnBoss_new h
  intro c hc
  cases c with
  | player => exact absurd rfl hc
  | boss => exact ⟨by simp [nextId], fun i hi o ho => getElem?_insertIfNew_of_lt hi ho⟩
  | _ => exact ⟨Int.le_refl _, fun i _ o ho => ho⟩

theorem stays_rule : StillRule Stays where
  refl := fun _ => .of_eq rfl rfl rfl rfl
  trans := Stays.trans
  record := by
    rintro g g' heq
    rw [heq]
    exact .of_eq rfl rfl rfl rfl
  report := fun _ _ _ => .of_eq rfl rfl rfl rfl
  handlePlayerMove := by
    intro g playerId actionId g' h
    obtain ⟨player, positions, messages, -, -, rfl⟩ := handlePlayerMove_new h
    exact .of_eq rfl rfl rfl rfl
  spawnBullet := spawnBullet_stays
  spawnNextEnemy := spawnNextEnemy_stays
  spawnNextBoss := spawnNextBoss_stays

/-! ## The gap -/

/-- If both are alive, a bullet and a target overlap in height, and the bullet is to
the left of the target by at least `gap`. -/
def Apart (g : Game) (b : Int) (c : ObjectClass) (t : Int) (gap : ℚ) : Prop :=
  ∀ bullet target, g.bullets[b]? = some bullet → g.objectAt c t = some target →
    |bullet.position.y - target.position.y| < 80 ∧ bullet.position.x ≤ target.position.x - gap

theorem Apart.mono (h : Apart g b c t gap) (hgap : gap' ≤ gap) : Apart g b c t gap' :=
  fun bullet target hbullet htarget =>
    ⟨(h bullet target hbullet htarget).1, by linarith [(h bullet target hbullet htarget).2]⟩

theorem Apart.stays (h : Apart g b c t gap) (hc : c ≠ .player) (hb : b < g.nextBulletId)
    (ht : t < g.nextId c) (hstays : Stays g g') : Apart g' b c t gap :=
  fun bullet target hbullet htarget =>
    h bullet target ((hstays .bullet nofun).2 b hb bullet hbullet)
      ((hstays c hc).2 t ht target htarget)

/-- A move of an object goes the whole way or, without a position component, not at
all. -/
theorem position_move_cases (o : GameObject) (x y : ℚ) :
    (o.move x y).position = ⟨o.position.x + x, o.position.y + y⟩ ∨
      (o.move x y).position = o.position := by
  rw [GameObject.position_move]
  split
  · exact .inl rfl
  · exact .inr rfl

theorem Apart.moveBullets (h : Apart g b c t gap) (hc : c ≠ .bullet) :
    Apart { g with bullets := g.bullets.map fun _ bullet => bullet.move 5 0 } b c t (gap - 5) := by
  intro bullet target hbullet htarget
  simp only [ExtTreeMap.getElem?_map, Option.map_eq_some_iff] at hbullet
  obtain ⟨bullet, hold, rfl⟩ := hbullet
  have htarget : g.objectAt c t = some target := by
    cases c <;> first | exact htarget | exact absurd rfl hc
  obtain ⟨hy, hx⟩ := h bullet target hold htarget
  rcases position_move_cases bullet 5 0 with heq | heq <;> rw [heq]
  · exact ⟨by simpa using hy, by dsimp only; linarith⟩
  · exact ⟨hy, by linarith⟩

theorem Apart.moveEnemies (h : Apart g b c t gap) (hc : c = .enemy ∨ c = .boss) :
    Apart { g with
      enemies := g.enemies.map fun _ enemy => enemy.move (-1) 0
      bosses := g.bosses.map fun _ boss => boss.move (-1 / 10) 0 } b c t (gap - 1) := by
  intro bullet target hbullet htarget
  have hmoved : ∃ old dx, g.objectAt c t = some old ∧ target = old.move dx 0 ∧ -1 ≤ dx := by
    rcases hc with rfl | rfl
    · rw [objectAt_enemy, ExtTreeMap.getElem?_map, Option.map_eq_some_iff] at htarget
      obtain ⟨old, hold, rfl⟩ := htarget
      exact ⟨old, -1, hold, rfl, le_rfl⟩
    · rw [objectAt_boss, ExtTreeMap.getElem?_map, Option.map_eq_some_iff] at htarget
      obtain ⟨old, hold, rfl⟩ := htarget
      exact ⟨old, -1 / 10, hold, rfl, by norm_num⟩
  obtain ⟨old, dx, hold, rfl, hdx⟩ := hmoved
  obtain ⟨hy, hx⟩ := h bullet old hbullet hold
  rcases position_move_cases old dx 0 with heq | heq <;> rw [heq]
  · exact ⟨by simpa using hy, by dsimp only; linarith⟩
  · exact ⟨hy, by linarith⟩

/-- Two objects that overlap in height and whose left sides are more than the blind
zone and less than their width apart are seen to collide. -/
theorem checkCollision_of_overlap {o o' : GameObject} (hy : |o.position.y - o'.position.y| < 80)
    (hx : o.position.x ≤ o'.position.x - 54) (hoverlap : o'.position.x - 60 < o.position.x) :
    checkCollision o o' 10 = true := by
  have hdistance : (10 : ℚ) ^ 2 < (o.position.x - o'.position.x) ^ 2 +
      (o.position.y - o'.position.y) ^ 2 := by
    nlinarith [sq_nonneg (o.position.y - o'.position.y)]
  obtain ⟨hbelow, habove⟩ := abs_lt.mp hy
  unfold checkCollision
  dsimp only
  rw [if_pos (.inr hdistance)]
  simp only [Bool.and_eq_true, decide_eq_true_eq]
  refine ⟨⟨⟨?_, ?_⟩, ?_⟩, ?_⟩ <;> linarith

theorem Apart.checkPlayersAlive (h : Apart g b c t gap) (hc : c ≠ .player)
    (hb : b < g.nextBulletId) (ht : t < g.nextId c) (numClients : Nat) :
    Apart (g.checkPlayersAlive numClients).2 b c t gap := by
  rcases checkPlayersAlive_cases g numClients with heq | heq <;> rw [heq]
  · exact h.stays hc hb ht (.of_eq rfl rfl rfl rfl)
  · intro bullet target hbullet
    exact absurd hbullet (by simp [stop])

/-- What `checkCollisions` leaves of a bullet and a target that have come closer. -/
theorem Apart.checkCollisions (h : Apart g b c t 54) (hc : c = .enemy ∨ c = .boss) :
    Apart g.checkCollisions b c t 60 := by
  intro bullet target hbullet htarget
  have hbulletLeft : b ∈ g.checkCollisions.bullets := by
    rw [ExtTreeMap.mem_iff_isSome_getElem?, hbullet]
    rfl
  have hbulletOld := getElem?_bullets_checkCollisions hbullet
  have htargetOld : g.objectAt c t = some target := by
    rcases hc with rfl | rfl
    · exact getElem?_enemies_checkCollisions htarget
    · exact getElem?_bosses_checkCollisions htarget
  obtain ⟨hy, hx⟩ := h bullet target hbulletOld htargetOld
  refine ⟨hy, ?_⟩
  by_contra hoverlap
  have hcollide := checkCollision_of_overlap hy hx (by linarith)
  have hbulletMem := ExtTreeMap.mem_toList_iff_getElem?_eq_some.mpr hbulletOld
  refine not_mem_checkCollisions.1 ⟨t, ?_⟩ hbulletLeft
  rcases hc with rfl | rfl
  · exact .inl (mem_collidingPairs.mpr ⟨bullet, target, hbulletMem,
      ExtTreeMap.mem_toList_iff_getElem?_eq_some.mpr htargetOld, hcollide⟩)
  · exact .inr (mem_collidingPairs.mpr ⟨bullet, target, hbulletMem,
      ExtTreeMap.mem_toList_iff_getElem?_eq_some.mpr htargetOld, hcollide⟩)

end Game

namespace GameRun

/-! ## Runs -/

/-- The thread is between two iterations of the loop of `update`. -/
def BetweenIterations (s : GameRun) : Prop := s.thread.pc = .processPlayerActions

/-- Both are alive, and they overlap in height. -/
def SameHeight (g : Game) (b : Int) (c : ObjectClass) (t : Int) : Prop :=
  ∃ bullet ∈ g.bullets[b]?, ∃ target ∈ g.objectAt c t,
    |bullet.position.y - target.position.y| < 80

/-- If both are alive, the bullet is to the left of the target, by the width of an
object. -/
def InFront (g : Game) (b : Int) (c : ObjectClass) (t : Int) : Prop :=
  ∀ bullet ∈ g.bullets[b]?, ∀ target ∈ g.objectAt c t, bullet.position.x ≤ target.position.x - 60

instance (s : GameRun) : Decidable (BetweenIterations s) := inferInstanceAs (Decidable (_ = _))

instance (g : Game) (b : Int) (c : ObjectClass) (t : Int) : Decidable (SameHeight g b c t) :=
  inferInstanceAs (Decidable (∃ bullet ∈ g.bullets[b]?, ∃ target ∈ g.objectAt c t, _))

instance (g : Game) (b : Int) (c : ObjectClass) (t : Int) : Decidable (InFront g b c t) :=
  inferInstanceAs (Decidable (∀ bullet ∈ g.bullets[b]?, ∀ target ∈ g.objectAt c t, _))

/-- How far apart a bullet and its target are before each call. -/
def gapBefore : ThreadPc → ℚ
  | .updateEnemies => 55
  | .checkCollisions => 54
  | _ => 60

variable {s : GameRun} {e : Event} {es es' : List Event} {g g' : Game} {b t n : Int}
  {c : ObjectClass} {tick : Tick} {pc : ThreadPc} {thread : Thread}

/-- A step of the loop leaves a bullet and its target far enough apart for the next
one. -/
theorem apart_threadStep (hc : c = .enemy ∨ c = .boss) (hb : b < g.nextBulletId)
    (ht : t < g.nextId c) (h : g.Apart b c t (gapBefore thread.pc))
    (hstep : g.threadStep thread tick = .ok (g', pc)) : g'.Apart b c t (gapBefore pc) := by
  have hplayer : c ≠ .player := by rcases hc with rfl | rfl <;> nofun
  have hbullet : c ≠ .bullet := by rcases hc with rfl | rfl <;> nofun
  unfold Game.threadStep at hstep
  split at hstep <;> rename_i hpc <;> rw [hpc] at h
  · obtain ⟨g₁, h₁, hstep⟩ := Fallible.bind_eq_ok.mp hstep
    cases Fallible.pure_eq_ok.mp hstep
    rw [Game.initializePlayers_frame h₁]
    exact h.stays hplayer hb ht (.of_eq rfl rfl rfl rfl)
  · obtain ⟨g₁, h₁, hstep⟩ := Fallible.bind_eq_ok.mp hstep
    cases Fallible.pure_eq_ok.mp hstep
    exact h.stays hplayer hb ht (Game.stays_rule.processPlayerActions h₁)
  · cases hstep
    exact h.stays hplayer hb ht (.of_eq rfl rfl rfl rfl)
  · cases hstep
    unfold Game.updateBullets
    dsimp only
    split
    · exact (h.moveBullets hbullet).mono (by norm_num [gapBefore])
    · exact (h.stays hplayer hb ht (.of_eq rfl rfl rfl rfl)).mono (by norm_num [gapBefore])
  · cases hstep
    unfold Game.updateEnemies
    dsimp only
    split
    · exact (h.moveEnemies hc).mono (by norm_num [gapBefore])
    · exact (h.stays hplayer hb ht (.of_eq rfl rfl rfl rfl)).mono (by norm_num [gapBefore])
  · cases hstep
    exact h.checkCollisions hc
  · obtain ⟨g₁, h₁, hstep⟩ := Fallible.bind_eq_ok.mp hstep
    cases Fallible.pure_eq_ok.mp hstep
    exact h.stays hplayer hb ht (Game.stays_rule.waves.waveSystem h₁)
  · cases hstep
    exact h.stays hplayer hb ht (Game.stays_rule.waves.updateUI _)
  · have halive := h.checkPlayersAlive hplayer hb ht tick.numClients
    split at hstep <;> rename_i heq <;> cases hstep <;> rw [heq] at halive <;> exact halive
  · cases hstep
    exact h

/-- Both are numbered, and they are far enough apart for the next call. -/
structure Ahead (b : Int) (c : ObjectClass) (t : Int) (s : GameRun) : Prop where
  reachable : s.game.Reachable
  bullet_lt : b < s.game.nextBulletId
  target_lt : t < s.game.nextId c
  apart : s.game.Apart b c t (gapBefore s.thread.pc)

theorem Ahead.step (h : Ahead b c t s) (hc : c = .enemy ∨ c = .boss) :
    Ahead b c t (s.step e) := by
  have hplayer : c ≠ .player := by rcases hc with rfl | rfl <;> nofun
  have hbullets : Game.Retires .bullet s.game (s.step e).game := step_retires h.reachable nofun
  have htargets : Game.Retires c s.game (s.step e).game := step_retires h.reachable hplayer
  refine ⟨step_reachable h.reachable, h.bullet_lt.trans_le hbullets.1,
    h.target_lt.trans_le htargets.1, ?_⟩
  cases step_stepped s e with
  | same hgame hthread =>
      rw [hgame, hthread]
      exact h.apart
  | ran tick game pc _ _ hstep heq =>
      rw [heq]
      exact apart_threadStep hc h.bullet_lt h.target_lt h.apart hstep
  | handled call hcall hok hthread =>
      rw [hthread]
      exact h.apart.stays hplayer h.bullet_lt h.target_lt (Game.stays_rule.perform hcall hok)

/-- From the end of an iteration at which a bullet is in front of a target at the same
height, it is in front of the target at the end of every later iteration, while both
are alive. -/
theorem no_tunnelling (hg : g.Reachable) (n : Int) (es : List Event)
    (hc : c = .enemy ∨ c = .boss) (hs : s = run step (enter g n) es) (hpc : BetweenIterations s)
    (hheight : SameHeight s.game b c t) (hfront : InFront s.game b c t) (es' : List Event) :
    Always step (fun s' => BetweenIterations s' → InFront s'.game b c t) s es' := by
  have hreachable : s.game.Reachable := by
    rw [hs]
    exact (always_reachable hg).final
  obtain ⟨bullet, hbullet, target, htarget, hy⟩ := hheight
  have hplayer : c ≠ .player := by rcases hc with rfl | rfl <;> nofun
  have hstart : Ahead b c t s := by
    refine ⟨hreachable, ?_, ?_, fun bullet' target' hbullet' htarget' => ?_⟩
    · exact hreachable.numbered .bullet nofun b (Game.mem_ids_of_objectAt hbullet)
    · exact hreachable.numbered c hplayer t (Game.mem_ids_of_objectAt htarget)
    · cases hbullet.symm.trans hbullet'
      cases htarget.symm.trans htarget'
      rw [BetweenIterations] at hpc
      rw [hpc]
      exact ⟨hy, hfront bullet hbullet target htarget⟩
  refine (always_of_step hstart fun s e hs => hs.step hc).mono fun s' hs' hpc' => ?_
  intro bullet' hbullet' target' htarget'
  rw [BetweenIterations] at hpc'
  have hapart := hs'.apart bullet' target' hbullet' htarget'
  rw [hpc'] at hapart
  exact hapart.2

/-- A player shoots, and five enemies of the first wave appear at the other end of the
screen. -/
def shotAtWave : List Event :=
  [.step (tickAt 0), .spawnBullet 0] ++ List.replicate 7 (.step (tickAt 0)) ++
    List.replicate 7 (.step (tickAt 10))

theorem no_tunnelling_shotAtWave :
    Always step (fun s => BetweenIterations s → InFront s.game 0 .enemy 4)
      (run step (enter .new 1) shotAtWave) (List.replicate 14 (.step (tickAt 11))) :=
  no_tunnelling .new 1 shotAtWave (.inl rfl) rfl (by decide +kernel) (by decide +kernel)
    (by decide +kernel) _

end GameRun

end BeeRType
