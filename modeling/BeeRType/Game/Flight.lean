-- SUMMARY: The way of an enemy, a boss or a bullet from its CREATE packet on, and how long it lasts.
import BeeRType.Base.Ageing
import BeeRType.Game.Actions
import BeeRType.Game.CollisionTick
import BeeRType.Game.Tunnelling

/-!
# Flight

An enemy, a boss or a bullet is put where its CREATE packet says, and goes on by the
velocity of that packet each time its timer fires. It crosses the screen in a lane: it
can leave it on one side only, and does so after a bounded number of firings.
-/

open Cpp Std Transition

namespace BeeRType

namespace ObjectClass

/-- How far an object goes to the right each time it is moved. -/
def velocity : ObjectClass → ℚ
  | .player => 0
  | .enemy => -1
  | .boss => -1 / 10
  | .bullet => 5

/-- The velocity in the CREATE packets. -/
def velocityText : ObjectClass → Bytes
  | .player => str "0"
  | .enemy => str "-1"
  | .boss => str "-0.1"
  | .bullet => str "5"

/-- The packets carry the velocity that the objects are moved with, as a `float`. -/
theorem stof_velocityText (c : ObjectClass) :
    stof c.velocityText = .ok (.finite (roundFloat c.velocity)) := by
  cases c <;> decide +kernel

/-- All but bosses are moved by whole numbers. -/
theorem exists_velocity {c : ObjectClass} (hc : c ≠ .boss) :
    ∃ v : ℤ, |v| ≤ 5 ∧ c.velocity = v := by
  cases c with
  | player => exact ⟨0, by decide, by simp [velocity]⟩
  | enemy => exact ⟨-1, by decide, by simp [velocity]⟩
  | boss => exact absurd rfl hc
  | bullet => exact ⟨5, by decide, by simp [velocity]⟩

end ObjectClass

/-- Above the left border and between the upper and the lower one. -/
def Position.InLane (pos : Position) : Prop := 0 ≤ pos.x ∧ 0 ≤ pos.y ∧ pos.y ≤ 630

/-- An object as the game puts it on the screen. -/
structure Launched (c : ObjectClass) (o : GameObject) : Prop where
  hasComponent : o.registry.hasComponent .position o.entity = true
  lane : 0 ≤ o.position.y ∧ o.position.y ≤ 720
  side : if c = .bullet then 50 ≤ o.position.x else o.position.x = 1000

/-- The CREATE packet of an object. -/
def createMessage (c : ObjectClass) (i : Int) (pos : Position) : Message :=
  ⟨c.createType, ⟨toStringInt i, toStringFloat pos.x, toStringFloat pos.y, c.velocityText, str "0"⟩⟩

/-- One move of an object of the class. -/
def GameObject.fly (c : ObjectClass) (o : GameObject) : GameObject := o.move c.velocity 0

theorem GameObject.position_fly {c : ObjectClass} {o : GameObject} (n : Nat)
    (h : o.registry.hasComponent .position o.entity = true) :
    ((fly c)^[n] o).registry.hasComponent .position ((fly c)^[n] o).entity = true ∧
      ((fly c)^[n] o).position = ⟨o.position.x + n * c.velocity, o.position.y⟩ := by
  induction n with
  | zero => simp [h]
  | succ n ih =>
      obtain ⟨hcomponent, hposition⟩ := ih
      rw [Function.iterate_succ_apply', fly]
      refine ⟨Game.hasComponent_move hcomponent, ?_⟩
      rw [position_move, if_pos hcomponent, hposition]
      push_cast
      congr 1 <;> ring

/-- What holds of an object from its launch on. -/
structure InFlight (c : ObjectClass) (o : GameObject) : Prop where
  hasComponent : o.registry.hasComponent .position o.entity = true
  lane : 0 ≤ o.position.y ∧ o.position.y ≤ 720
  side : if c = .bullet then 50 ≤ o.position.x else o.position.x ≤ 1000

theorem InFlight.fly {c : ObjectClass} {o : GameObject} (h : InFlight c o) (hc : c ≠ .player) (n : Nat) :
    InFlight c ((GameObject.fly c)^[n] o) := by
  obtain ⟨hcomponent, hposition⟩ := GameObject.position_fly (c := c) n h.hasComponent
  have hn : (0 : ℚ) ≤ n := Nat.cast_nonneg n
  have hside := h.side
  refine ⟨hcomponent, ?_, ?_⟩ <;> rw [hposition]
  · exact h.lane
  · cases c with
    | player => exact absurd rfl hc
    | bullet =>
        rw [if_pos rfl] at hside ⊢
        dsimp only [ObjectClass.velocity]
        linarith
    | _ =>
        rw [if_neg nofun] at hside ⊢
        dsimp only [ObjectClass.velocity]
        linarith

theorem Launched.inFlight {c : ObjectClass} {o : GameObject} (h : Launched c o) : InFlight c o := by
  refine ⟨h.hasComponent, h.lane, ?_⟩
  have hside := h.side
  split <;> rename_i hbullet
  · rwa [if_pos hbullet] at hside
  · rw [if_neg hbullet] at hside
    exact hside.le

namespace Game

/-- Every player is in a lane. -/
def Abreast (g : Game) : Prop := AllEntries (fun p : Player => p.position.InLane) g.players

/-- While the players are in their lanes, what is new among the other objects has been
launched and announced, and what is old is where it was. -/
structure Launches (g g' : Game) : Prop where
  nextId_le : ∀ c, c ≠ .player → g.nextId c ≤ g'.nextId c
  launched : g.Abreast → g'.Abreast ∧ ∃ messages, g'.broadcasts = g.broadcasts ++ messages ∧
    ∀ c, c ≠ .player → ∀ i o, g'.objectAt c i = some o →
      g.objectAt c i = some o ∨
        g.nextId c ≤ i ∧ Launched c o ∧ createMessage c i o.position ∈ messages

variable {g m g' : Game} {c : ObjectClass} {i playerId actionId : Int} {o : GameObject}

/-! ## Players in their lanes -/

theorem clampPositionToBounds_inLane (x y : ℚ) :
    Position.InLane ⟨(clampPositionToBounds x y).1, (clampPositionToBounds x y).2⟩ := by
  unfold clampPositionToBounds Position.InLane
  dsimp only
  refine ⟨?_, ?_, ?_⟩
  · split
    · exact le_rfl
    · split <;> linarith
  · split
    · exact le_rfl
    · split <;> linarith
  · split
    · norm_num
    · split <;> linarith

theorem abreast_rule : Rule fun g g' => Abreast g → Abreast g' :=
  playerPositions_rule fun _ _ _ => clampPositionToBounds_inLane _ _

theorem Abreast.initializePlayers (hg : Abreast g) {numPlayers : Int}
    (h : g.initializePlayers numPlayers = .ok g') : Abreast g' := by
  intro i p hp
  obtain ⟨q, hq, heq⟩ | ⟨hnew, hposition⟩ := initializePlayers_player h hp
  · have hsame : p.position = q.position := by rw [heq]
    rw [hsame]
    exact hg i q hq
  · have hi : i ∈ g'.players := by
      rw [ExtTreeMap.mem_iff_isSome_getElem?, hp]
      rfl
    obtain ⟨hpos, -⟩ := (((initializePlayers_ok h).1 i).mp hi).resolve_right hnew
    have hcast : (0 : ℚ) ≤ i := by exact_mod_cast hpos
    rw [hposition]
    exact ⟨by dsimp only; linarith, by norm_num, by norm_num⟩

theorem Abreast.perform {call : Call} (hg : Abreast g) (hc : call.OfServer)
    (h : g.perform call = .ok g') : Abreast g' := by
  obtain hingame | ⟨numPlayers, rfl⟩ | ⟨numClients, rfl⟩ | rfl := hc
  · exact abreast_rule.perform hingame h hg
  · exact hg.initializePlayers h
  · cases h
    rcases checkPlayersAlive_cases g numClients with heq | heq <;> rw [heq]
    · exact hg
    · exact AllEntries.empty
  · cases h
    exact AllEntries.empty

/-! ## Launches -/

theorem Launches.of_eq (hobjects : ∀ c, c ≠ .player → g'.objectAt c = g.objectAt c)
    (hnext : g'.nextId = g.nextId) (habreast : Abreast g → Abreast g')
    (hmessages : ∃ messages, g'.broadcasts = g.broadcasts ++ messages) : Launches g g' := by
  refine ⟨fun c _ => by rw [hnext], fun hg => ⟨habreast hg, ?_⟩⟩
  obtain ⟨messages, hmessages⟩ := hmessages
  refine ⟨messages, hmessages, fun c hc i o ho => .inl ?_⟩
  rw [← hobjects c hc]
  exact ho

theorem Launches.trans (h : Launches g m) (h' : Launches m g') : Launches g g' := by
  refine ⟨fun c hc => (h.nextId_le c hc).trans (h'.nextId_le c hc), fun hg => ?_⟩
  obtain ⟨hm, messages, hmessages, hlaunched⟩ := h.launched hg
  obtain ⟨hg', messages', hmessages', hlaunched'⟩ := h'.launched hm
  refine ⟨hg', messages ++ messages', by rw [hmessages', hmessages, List.append_assoc],
    fun c hc i o ho => ?_⟩
  obtain hold | ⟨hle, hnew, hmem⟩ := hlaunched' c hc i o ho
  · obtain hold | ⟨hle, hnew, hmem⟩ := hlaunched c hc i o hold
    · exact .inl hold
    · exact .inr ⟨hle, hnew, List.mem_append_left _ hmem⟩
  · exact .inr ⟨(h.nextId_le c hc).trans hle, hnew, List.mem_append_right _ hmem⟩

/-- A launch of one object under the next id of its class. -/
theorem Launches.launch (hc : c ≠ .player)
    (hobjects : ∀ c', c' ≠ .player → ∀ i o', g'.objectAt c' i = some o' →
      g.objectAt c' i = some o' ∨ c' = c ∧ i = g.nextId c ∧ o' = o)
    (hnext : ∀ c', g'.nextId c' = if c' = c then g.nextId c + 1 else g.nextId c')
    (hplayers : g'.players = g.players) (ho : Abreast g → Launched c o)
    (hmessages : g'.broadcasts =
      g.broadcasts ++ [createMessage c (g.nextId c) o.position]) : Launches g g' := by
  refine ⟨fun c' _ => ?_, fun hg => ⟨?_, _, hmessages, fun c' hc' i o' ho' => ?_⟩⟩
  · rw [hnext]
    split
    · rename_i heq
      rw [heq]
      omega
    · exact Int.le_refl _
  · unfold Abreast
    rw [hplayers]
    exact hg
  · obtain hold | ⟨rfl, rfl, rfl⟩ := hobjects c' hc' i o' ho'
    · exact .inl hold
    · exact .inr ⟨Int.le_refl _, ho hg, List.mem_singleton.mpr rfl⟩

theorem getElem?_insertIfNew_cases {E : Type} {entities : ExtTreeMap Int E} {e o : E} {id : Int}
    (h : (entities.insertIfNew id e)[i]? = some o) :
    entities[i]? = some o ∨ i = id ∧ o = e := by
  rw [ExtTreeMap.getElem?_insertIfNew] at h
  split at h
  · rename_i hnew
    exact .inr ⟨(Std.compare_eq_iff_eq.mp hnew.1).symm, (Option.some.inj h).symm⟩
  · exact .inl h

theorem spawnBullet_launches (h : g.spawnBullet playerId = .ok g') : Launches g g' := by
  obtain rfl | ⟨player, bullet, hplayer, hbullet, rfl⟩ := spawnBullet_new h
  · exact .of_eq (fun _ _ => rfl) rfl (fun hg => hg) ⟨[], (List.append_nil _).symm⟩
  obtain ⟨-, hposition, -⟩ := GameObject.new_ok hbullet
  refine .launch (c := .bullet) (o := bullet) nofun (fun c' hc' i o' ho' => ?_) (fun c' => ?_) rfl
    (fun hg => ?_) ?_
  · cases c' with
    | player => exact absurd rfl hc'
    | bullet => exact (getElem?_insertIfNew_cases ho').imp_right fun heq => ⟨rfl, heq⟩
    | _ => exact .inl ho'
  · cases c' <;> rfl
  · obtain ⟨hx, hy, hy'⟩ := hg playerId player hplayer
    refine ⟨GameObject.hasComponent_new hbullet, ?_, ?_⟩
    · rw [hposition]
      exact ⟨by dsimp only; linarith, by dsimp only; linarith⟩
    · rw [if_pos rfl, hposition]
      dsimp only
      linarith
  · rw [hposition]
    rfl

theorem spawnNextEnemy_launches {draw : Draw} (h : g.spawnNextEnemy draw = .ok g') :
    Launches g g' := by
  obtain ⟨enemy, henemy, rfl⟩ := spawnEnemy_new h
  obtain ⟨-, hposition, -⟩ := GameObject.new_ok henemy
  refine .launch (c := .enemy) (o := enemy) nofun (fun c' hc' i o' ho' => ?_) (fun c' => ?_) rfl
    (fun _ => ?_) ?_
  · cases c' with
    | player => exact absurd rfl hc'
    | enemy => exact (getElem?_insertIfNew_cases ho').imp_right fun heq => ⟨rfl, heq⟩
    | _ => exact .inl ho'
  · cases c' <;> rfl
  · refine ⟨GameObject.hasComponent_new henemy, ?_, ?_⟩
    · rw [hposition]
      exact draw.y_mem
    · rw [if_neg nofun, hposition]
  · rw [hposition]
    rfl

theorem spawnNextBoss_launches {draw : Draw} (h : g.spawnNextBoss draw = .ok g') :
    Launches g g' := by
  obtain ⟨boss, hboss, rfl⟩ := spawnBoss_new h
  obtain ⟨-, hposition, -⟩ := GameObject.new_ok hboss
  refine .launch (c := .boss) (o := boss) nofun (fun c' hc' i o' ho' => ?_) (fun c' => ?_) rfl
    (fun _ => ?_) ?_
  · cases c' with
    | player => exact absurd rfl hc'
    | boss => exact (getElem?_insertIfNew_cases ho').imp_right fun heq => ⟨rfl, heq⟩
    | _ => exact .inl ho'
  · cases c' <;> rfl
  · refine ⟨GameObject.hasComponent_new hboss, ?_, ?_⟩
    · rw [hposition]
      exact draw.y_mem
    · rw [if_neg nofun, hposition]
  · rw [hposition]
    rfl

theorem launches_rule : StillRule Launches where
  refl := fun g => .of_eq (fun _ _ => rfl) rfl (fun hg => hg) ⟨[], (List.append_nil _).symm⟩
  trans := Launches.trans
  record := by
    rintro g g' heq
    rw [heq]
    exact .of_eq (fun c _ => by cases c <;> rfl) (by funext c; cases c <;> rfl) (fun hg => hg)
      ⟨[], (List.append_nil _).symm⟩
  report := fun g messages _ =>
    .of_eq (fun c _ => by cases c <;> rfl) (by funext c; cases c <;> rfl) (fun hg => hg)
      ⟨messages, rfl⟩
  handlePlayerMove := by
    intro g playerId actionId g' h
    have habreast : Abreast g → Abreast g' := abreast_rule.handlePlayerMove h
    obtain ⟨player, positions, messages, -, -, rfl⟩ := handlePlayerMove_new h
    refine .of_eq (fun c hc => ?_) (by funext c; cases c <;> rfl) habreast ⟨messages, rfl⟩
    cases c with
    | player => exact absurd rfl hc
    | _ => rfl
  spawnBullet := spawnBullet_launches
  spawnNextEnemy := spawnNextEnemy_launches
  spawnNextBoss := spawnNextBoss_launches

/-! ## One call -/

/-- The call moves the objects of the class. -/
def timerFires (g : Game) (c : ObjectClass) : Call → Bool
  | .updateBullets now =>
    decide (c = .bullet ∧ 16 ≤ elapsed (g.lastBulletUpdateTime.getD now) now nanosPerMilli)
  | .updateEnemies now => decide ((c = .enemy ∨ c = .boss) ∧
      16 ≤ elapsed (g.lastEnemyUpdateTime.getD now) now nanosPerMilli)
  | _ => false

theorem objectAt_updateBullets (hc : c ≠ .player) (now : Int) :
    (g.updateBullets now).objectAt c i =
      (g.objectAt c i).map (GameObject.fly c)^[(g.timerFires c (.updateBullets now)).toNat] := by
  unfold updateBullets timerFires
  dsimp only
  split
  · rename_i hdue
    cases c with
    | player => exact absurd rfl hc
    | bullet =>
        simp only [objectAt_bullet, hdue, and_true, decide_true, Bool.toNat_true,
          ExtTreeMap.getElem?_map]
        rfl
    | _ => simp [objectAt]
  · rename_i hdue
    cases c with
    | player => exact absurd rfl hc
    | _ => simp [objectAt, hdue]

theorem objectAt_updateEnemies (hc : c ≠ .player) (now : Int) :
    (g.updateEnemies now).objectAt c i =
      (g.objectAt c i).map (GameObject.fly c)^[(g.timerFires c (.updateEnemies now)).toNat] := by
  unfold updateEnemies timerFires
  dsimp only
  split
  · rename_i hdue
    cases c with
    | player => exact absurd rfl hc
    | bullet => simp [objectAt]
    | enemy =>
        simp only [objectAt_enemy, hdue, true_or, and_true, decide_true, Bool.toNat_true,
          ExtTreeMap.getElem?_map]
        rfl
    | boss =>
        simp only [objectAt_boss, hdue, or_true, and_true, decide_true, Bool.toNat_true,
          ExtTreeMap.getElem?_map]
        rfl
  · rename_i hdue
    cases c with
    | player => exact absurd rfl hc
    | _ => simp [objectAt, hdue]

theorem inRectangle_of_removeEntities {A : ExtTreeMap Int GameObject} {dead listed : List Int}
    (hlisted : listed = dead ++ (A.toList.filter fun e => outOfBounds e.2).map (·.1))
    (h : (removeEntities A listed).entities[i]? = some o) : A[i]? = some o ∧ InRectangle o := by
  rw [getElem?_removeEntities, hlisted] at h
  split at h
  · cases h
  · rename_i hleft
    refine ⟨h, ?_⟩
    by_contra hout
    exact hleft (List.mem_append_right _ (mem_map_outOfBounds.mpr ⟨o, h, hout⟩))

/-- A collision check leaves an object as it is, if it is on the screen, or removes it. -/
theorem objectAt_checkCollisions (hc : c ≠ .player) (ho : g.checkCollisions.objectAt c i = some o) :
    g.objectAt c i = some o ∧ InRectangle o := by
  cases c with
  | player => exact absurd rfl hc
  | bullet =>
      rw [objectAt_bullet, bullets_checkCollisions] at ho
      exact inRectangle_of_removeEntities deadBullets_detected ho
  | enemy =>
      rw [objectAt_enemy, enemies_checkCollisions] at ho
      exact inRectangle_of_removeEntities deadEnemies_detected ho
  | boss =>
      rw [objectAt_boss, bosses_checkCollisions] at ho
      exact inRectangle_of_removeEntities deadBosses_detected ho

theorem objectAt_stop : g.stop.objectAt c i = none := by
  cases c <;> simp [objectAt, stop]

/-- The object is new in `g'`: it has been launched under a new id, and announced. -/
structure NewAt (c : ObjectClass) (i : Int) (o : GameObject) (g g' : Game) : Prop where
  absent : g.objectAt c i = none
  nextId_le : g.nextId c ≤ i
  launched : Launched c o
  announced : ∃ messages, g'.broadcasts = g.broadcasts ++ messages ∧
    createMessage c i o.position ∈ messages

theorem exists_objectAt (h : i ∈ g.ids c) : ∃ o, g.objectAt c i = some o := by
  cases c with
  | player =>
      obtain ⟨p, hp⟩ := Option.isSome_iff_exists.mp (ExtTreeMap.mem_iff_isSome_getElem?.mp h)
      exact ⟨p.toGameObject, Option.map_eq_some_iff.mpr ⟨p, hp, rfl⟩⟩
  | _ => exact Option.isSome_iff_exists.mp (ExtTreeMap.mem_iff_isSome_getElem?.mp h)

theorem Reachable.objectAt_eq_none (hg : g.Reachable) (hc : c ≠ .player) (hi : g.nextId c ≤ i) :
    g.objectAt c i = none := by
  cases hold : g.objectAt c i with
  | none => rfl
  | some old =>
      have := hg.numbered c hc i (mem_ids_of_objectAt hold)
      omega

theorem objectAt_perform_still {call : Call} (hg : g.Reachable) (hlane : g.Abreast)
    (hcall : call.Still) (h : g.perform call = .ok g') (hc : c ≠ .player)
    (ho : g'.objectAt c i = some o) : g.objectAt c i = some o ∨ NewAt c i o g g' := by
  obtain ⟨-, messages, hmessages, hlaunched⟩ := (launches_rule.perform hcall h).launched hlane
  obtain hold | ⟨hle, hnew, hmem⟩ := hlaunched c hc i o ho
  · exact .inl hold
  · exact .inr ⟨hg.objectAt_eq_none hc hle, hle, hnew, messages, hmessages, hmem⟩

theorem timerFires_of_still {call : Call} (h : call.Still) : g.timerFires c call = false := by
  cases call <;> first | rfl | exact h.elim

theorem timerFires_of_error {call : Call} {e : StdException} (h : g.perform call = .error e) :
    g.timerFires c call = false := by
  cases call <;> first | rfl | cases h

/-- An object after a call is one from before, moved if its timer has fired, or it has
been launched and announced by the call. -/
theorem objectAt_perform {call : Call} (hg : g.Reachable) (hlane : g.Abreast)
    (hcall : call.OfServer) (h : g.perform call = .ok g') (hc : c ≠ .player)
    (ho : g'.objectAt c i = some o) :
    (∃ old, g.objectAt c i = some old ∧
        o = (GameObject.fly c)^[(g.timerFires c call).toNat] old) ∨ NewAt c i o g g' := by
  have hstill (hstill : call.Still) : (∃ old, g.objectAt c i = some old ∧
      o = (GameObject.fly c)^[(g.timerFires c call).toNat] old) ∨ NewAt c i o g g' := by
    rw [timerFires_of_still hstill]
    exact (objectAt_perform_still hg hlane hstill h hc ho).imp_left fun hold => ⟨o, hold, rfl⟩
  obtain hingame | ⟨numPlayers, rfl⟩ | ⟨numClients, rfl⟩ | rfl := hcall
  · cases call with
    -- The timers move the objects of their class.
    | updateBullets now =>
        cases h
        rw [objectAt_updateBullets hc, Option.map_eq_some_iff] at ho
        obtain ⟨old, hold, heq⟩ := ho
        exact .inl ⟨old, hold, heq.symm⟩
    | updateEnemies now =>
        cases h
        rw [objectAt_updateEnemies hc, Option.map_eq_some_iff] at ho
        obtain ⟨old, hold, heq⟩ := ho
        exact .inl ⟨old, hold, heq.symm⟩
    -- What is left after a tick is where it was.
    | checkCollisions =>
        cases h
        exact .inl ⟨o, (objectAt_checkCollisions hc ho).1, rfl⟩
    | _ => first | exact hstill trivial | exact hingame.elim
  · refine .inl ⟨o, ?_, rfl⟩
    rw [initializePlayers_frame h] at ho
    cases c with
    | player => exact absurd rfl hc
    | _ => exact ho
  · cases h
    rcases checkPlayersAlive_cases g numClients with heq | heq <;> rw [heq] at ho
    · refine .inl ⟨o, ?_, rfl⟩
      cases c <;> exact ho
    · rw [objectAt_stop] at ho
      cases ho
  · cases h
    rw [objectAt_stop] at ho
    cases ho

/-! ## In flight -/

theorem Reachable.abreast (h : g.Reachable) : g.Abreast := by
  induction h with
  | new => exact .empty
  | call hg hc h ih => exact ih.perform hc h

theorem Reachable.inFlight (h : g.Reachable) (hc : c ≠ .player) (ho : g.objectAt c i = some o) :
    InFlight c o := by
  induction h generalizing o with
  | new => cases c <;> cases ho
  | call hg hcall h ih =>
      obtain ⟨old, hold, rfl⟩ | hnew := objectAt_perform hg hg.abreast hcall h hc ho
      · exact (ih hold).fly hc _
      · exact hnew.launched.inFlight

/-- The side on which an object leaves the screen. -/
def Gone (c : ObjectClass) (o : GameObject) : Prop :=
  if c = .bullet then 1280 < o.position.x else o.position.x < -50

/-- No object leaves the screen at the top or at the bottom, or the way it came. -/
theorem not_inRectangle_iff (h : g.Reachable) (hc : c ≠ .player)
    (ho : g.objectAt c i = some o) : ¬ InRectangle o ↔ Gone c o := by
  obtain ⟨-, ⟨hlow, hhigh⟩, hside⟩ := h.inFlight hc ho
  unfold InRectangle Gone
  split at hside <;> rename_i hbullet
  · rw [if_pos hbullet]
    constructor
    · intro hout
      by_contra hx
      exact hout ⟨by linarith, by linarith, by linarith, by linarith⟩
    · rintro hx ⟨-, hin, -⟩
      linarith
  · rw [if_neg hbullet]
    constructor
    · intro hout
      by_contra hx
      exact hout ⟨by linarith, by linarith, by linarith, by linarith⟩
    · rintro hx ⟨hin, -⟩
      linarith

end Game

namespace History

variable {s : History} {call : Call} {calls post : List Call} {c : ObjectClass} {i : Int}
  {o : GameObject}

/-- How often the call moves the objects of the class: once or not at all. -/
def moves (c : ObjectClass) (s : History) (call : Call) : Nat :=
  if s.thrown.isSome then 0 else (s.game.timerFires c call).toNat

/-- How often a history moves the objects of the class. -/
def firings (c : ObjectClass) : History → List Call → Nat
  | _, [] => 0
  | s, call :: calls => s.moves c call + (s.step call).firings c calls

theorem step_reachable (hs : s.game.Reachable) (hcall : call.OfServer) :
    (s.step call).game.Reachable := by
  obtain ⟨heq, -⟩ | ⟨game, -, hok, heq⟩ | ⟨e, -, -, heq⟩ := s.step_cases call <;> rw [heq]
  · exact hs
  · exact hs.call hcall hok
  · exact hs

theorem always_reachable (hs : s.game.Reachable) (hcalls : ∀ call ∈ calls, call.OfServer) :
    Always step (fun s => s.game.Reachable) s calls :=
  always_of_eachStep hs (fun _ _ => step_reachable) (eachStep_of_forall hcalls)

/-- An object after a step is one from before, moved if its timer has fired, or it has
been launched and announced by the step. -/
theorem objectAt_step (hs : s.game.Reachable) (hcall : call.OfServer) (hc : c ≠ .player)
    (ho : (s.step call).game.objectAt c i = some o) :
    (∃ old, s.game.objectAt c i = some old ∧ o = (GameObject.fly c)^[s.moves c call] old) ∨
      Game.NewAt c i o s.game (s.step call).game := by
  obtain ⟨heq, hthrown⟩ | ⟨game, hthrown, hok, heq⟩ | ⟨e, hthrown, hok, heq⟩ := s.step_cases call
  · rw [heq] at ho
    exact .inl ⟨o, ho, by rw [moves, if_pos hthrown]; rfl⟩
  · rw [heq] at ho ⊢
    rw [moves, hthrown]
    exact Game.objectAt_perform hs hs.abreast hcall hok hc ho
  · rw [heq] at ho
    refine .inl ⟨o, ho, ?_⟩
    rw [moves, hthrown, Game.timerFires_of_error hok]
    rfl

/-! ## Runs -/

/-- What a call does to the slot of an object. -/
def effect (c : ObjectClass) (i : Int) (s : History) (call : Call) : Ageing.Effect GameObject :=
  match (s.step call).game.objectAt c i with
  | none => .drop
  | some o => if (s.game.objectAt c i).isSome then .keep (s.moves c call) else .put o

theorem acts (hs : s.game.Reachable) (hcall : call.OfServer) (hc : c ≠ .player) :
    Ageing.Acts step (effect c i) (GameObject.fly c) (fun s => s.game.objectAt c i) s call := by
  unfold Ageing.Acts effect
  dsimp only
  cases ho : (s.step call).game.objectAt c i with
  | none => rfl
  | some o =>
      obtain ⟨old, hold, rfl⟩ | hnew := objectAt_step hs hcall hc ho
      · rw [hold]
        rfl
      · rw [hnew.absent]
        rfl

theorem newAt_of_put (hs : s.game.Reachable) (hcall : call.OfServer) (hc : c ≠ .player)
    (h : effect c i s call = .put o) : Game.NewAt c i o s.game (s.step call).game := by
  unfold effect at h
  split at h
  · cases h
  · rename_i o' ho
    split at h
    · cases h
    · rename_i hnone
      cases h
      obtain ⟨old, hold, -⟩ | hnew := objectAt_step hs hcall hc ho
      · rw [hold] at hnone
        exact absurd rfl hnone
      · exact hnew

theorem age_of_keeps (h : (effect c i s call).Keeps) :
    (effect c i s call).age = s.moves c call := by
  unfold effect at h ⊢
  split <;> rename_i ho
  · rw [ho] at h
    exact h.elim
  · rw [ho] at h
    dsimp only at h ⊢
    split
    · rfl
    · rename_i hnone
      rw [if_neg hnone] at h
      exact h.elim

theorem age_eq_firings (h : EachStep step (fun s call => (effect c i s call).Keeps) s calls) :
    Ageing.age step (effect c i) s calls = s.firings c calls := by
  induction calls generalizing s with
  | nil => rfl
  | cons call calls ih => rw [Ageing.age_cons, age_of_keeps h.1, ih h.2, firings]

theorem eachStep_acts (hs : s.game.Reachable) (hcalls : ∀ call ∈ calls, call.OfServer)
    (hc : c ≠ .player) : EachStep step (Ageing.Acts step (effect c i) (GameObject.fly c)
      fun s => s.game.objectAt c i) s calls :=
  eachStep_iff.mpr fun _ call _ heq => acts (always_iff.mp (always_reachable hs hcalls) _ _ heq)
    (hcalls call (by rw [heq]; simp)) hc

/-- The step that has put an object where it is has launched it. -/
theorem newAt_of_run {pre : List Call} (hs : s.game.Reachable)
    (hcalls : ∀ call ∈ calls, call.OfServer) (hc : c ≠ .player) (heq : calls = pre ++ call :: post)
    (hput : effect c i (run step s pre) call = .put o) :
    Game.NewAt c i o (run step s pre).game (run step s (pre ++ [call])).game := by
  rw [run_append]
  exact newAt_of_put (always_iff.mp (always_reachable hs hcalls) _ _ heq)
    (hcalls call (by rw [heq]; simp)) hc hput

/-- Every enemy, boss or bullet has been launched at some point, and since been moved as
often as its timer has fired. -/
theorem exists_newAt (hcalls : ∀ call ∈ calls, call.OfServer) (hc : c ≠ .player)
    (ho : (run step new calls).game.objectAt c i = some o) :
    ∃ pre call post launched, calls = pre ++ call :: post ∧
      Game.NewAt c i launched (run step new pre).game (run step new (pre ++ [call])).game ∧
      o = (GameObject.fly c)^[(run step new (pre ++ [call])).firings c post] launched := by
  obtain ⟨-, a, ha, -⟩ | ⟨pre, call, post, launched, heq, hput, hkeeps, rfl⟩ :=
    (Ageing.slot_run_eq_some_iff (eachStep_acts .new hcalls hc)).mp ho
  · cases c <;> cases ha
  refine ⟨pre, call, post, launched, heq, newAt_of_run .new hcalls hc heq hput, ?_⟩
  rw [age_eq_firings hkeeps]

/-- An enemy, a boss or a bullet has been put where its CREATE packet says, and has
since gone on by its velocity as often as its timer has fired. -/
theorem position_of_firings (hcalls : ∀ call ∈ calls, call.OfServer) (hc : c ≠ .player)
    (ho : (run step new calls).game.objectAt c i = some o) :
    ∃ pre call post launched, calls = pre ++ call :: post ∧
      Game.NewAt c i launched (run step new pre).game (run step new (pre ++ [call])).game ∧
      o.position = ⟨launched.position.x +
          (run step new (pre ++ [call])).firings c post * c.velocity, launched.position.y⟩ := by
  obtain ⟨pre, call, post, launched, heq, hnew, rfl⟩ := exists_newAt hcalls hc ho
  exact ⟨pre, call, post, launched, heq, hnew,
    (GameObject.position_fly _ hnew.launched.hasComponent).2⟩

/-- The bullet timer is asked every sixteen milliseconds. -/
def bulletFrames (n : Nat) : List Call :=
  (List.range n).map fun k : Nat => .updateBullets (16 * Game.nanosPerMilli * k)

theorem ofServer_of_mem_bulletFrames {n : Nat} (h : call ∈ bulletFrames n) : call.OfServer := by
  obtain ⟨k, -, rfl⟩ := List.mem_map.mp h
  exact .inl trivial

/-- One player, who has shot. -/
def shot : List Call := [.initializePlayers 1, .spawnBullet 0]

theorem ofServer_of_mem_shot (h : call ∈ shot) : call.OfServer := by
  obtain rfl | h := List.mem_cons.mp h
  · exact .inr (.inl ⟨1, rfl⟩)
  · obtain rfl := List.mem_singleton.mp h
    exact .inl trivial

theorem position_of_firings_shot : ∃ o,
    (run step new (shot ++ bulletFrames 3)).game.objectAt .bullet 0 = some o ∧
    ∃ pre call post launched, shot ++ bulletFrames 3 = pre ++ call :: post ∧
      Game.NewAt .bullet 0 launched (run step new pre).game (run step new (pre ++ [call])).game ∧
      o.position = ⟨launched.position.x +
          (run step new (pre ++ [call])).firings .bullet post * ObjectClass.bullet.velocity,
        launched.position.y⟩ := by
  obtain ⟨o, ho⟩ : ∃ o, (run step new (shot ++ bulletFrames 3)).game.objectAt .bullet 0 = some o :=
    Option.isSome_iff_exists.mp (by decide +kernel)
  refine ⟨o, ho, position_of_firings (fun call hcall => ?_) nofun ho⟩
  exact (List.mem_append.mp hcall).elim ofServer_of_mem_shot ofServer_of_mem_bulletFrames

/-- How often an object can be moved before it is off the screen. -/
def lifetime : ObjectClass → Nat
  | .player => 0
  | .enemy => 1050
  | .boss => 10500
  | .bullet => 246

theorem gone_of_lifetime {n : Nat} (ho : InFlight c o) (hc : c ≠ .player) (hn : lifetime c < n) :
    ¬ Game.InRectangle ((GameObject.fly c)^[n] o) := by
  obtain ⟨-, hposition⟩ := GameObject.position_fly (c := c) n ho.hasComponent
  have hside := ho.side
  rintro ⟨hleft, hright, -, -⟩
  rw [hposition] at hleft hright
  cases c with
  | player => exact hc rfl
  | bullet =>
      have hmoved : 247 ≤ n := hn
      have hcast : (247 : ℚ) ≤ n := by exact_mod_cast hmoved
      rw [if_pos rfl] at hside
      simp only [ObjectClass.velocity] at hright
      linarith
  | enemy =>
      have hmoved : 1051 ≤ n := hn
      have hcast : (1051 : ℚ) ≤ n := by exact_mod_cast hmoved
      rw [if_neg nofun] at hside
      simp only [ObjectClass.velocity] at hleft
      linarith
  | boss =>
      have hmoved : 10501 ≤ n := hn
      have hcast : (10501 : ℚ) ≤ n := by exact_mod_cast hmoved
      rw [if_neg nofun] at hside
      simp only [ObjectClass.velocity] at hleft
      linarith

theorem nextId_le_of_run (hs : s.game.Reachable) (hcalls : ∀ call ∈ calls, call.OfServer)
    (hc : c ≠ .player) : s.game.nextId c ≤ (run step s calls).game.nextId c := by
  induction calls generalizing s with
  | nil => exact Int.le_refl _
  | cons call calls ih =>
      obtain ⟨hcall, hcalls⟩ := List.forall_mem_cons.mp hcalls
      refine Int.le_trans ?_ (ih (step_reachable hs hcall) hcalls)
      obtain ⟨heq, -⟩ | ⟨game, -, hok, heq⟩ | ⟨e, -, -, heq⟩ := s.step_cases call <;> rw [heq]
      exact (hs.retires hcall hok hc).1

/-- An object under an id that is not new has been there before. -/
theorem exists_fly_of_objectAt (hs : s.game.Reachable) (hcalls : ∀ call ∈ calls, call.OfServer)
    (hc : c ≠ .player) (hi : i < s.game.nextId c)
    (ho : (run step s calls).game.objectAt c i = some o) :
    ∃ old, s.game.objectAt c i = some old ∧ o = (GameObject.fly c)^[s.firings c calls] old := by
  obtain ⟨hkeeps, old, hold, rfl⟩ | ⟨pre, call, post, launched, heq, hput, -⟩ :=
    (Ageing.slot_run_eq_some_iff (eachStep_acts hs hcalls hc)).mp ho
  · exact ⟨old, hold, by rw [age_eq_firings hkeeps]⟩
  · have hpre : ∀ call ∈ pre, call.OfServer := fun call hcall =>
      hcalls call (by rw [heq]; exact List.mem_append_left _ hcall)
    have hle := nextId_le_of_run hs hpre hc
    have := (newAt_of_run hs hcalls hc heq hput).nextId_le
    omega

/-- Whatever happens meanwhile, an object that has been created is removed by the next
collision check after its timer has fired once more than its lifetime. -/
theorem not_mem_of_lifetime (hs : s.game.Reachable) (hcalls : ∀ call ∈ calls, call.OfServer)
    (hc : c ≠ .player) (hi : i < s.game.nextId c) (hlong : lifetime c < s.firings c calls)
    (hthrown : (run step s calls).thrown = none) :
    i ∉ (run step s (calls ++ [.checkCollisions])).game.ids c := by
  intro hmem
  obtain ⟨o, ho⟩ := Game.exists_objectAt hmem
  have hlast : (run step s (calls ++ [.checkCollisions])).game =
      (run step s calls).game.checkCollisions := by
    rw [run_append, run_cons, run_nil, step, hthrown]
    rfl
  rw [hlast] at ho
  obtain ⟨hthere, hin⟩ := Game.objectAt_checkCollisions hc ho
  obtain ⟨old, hold, rfl⟩ := exists_fly_of_objectAt hs hcalls hc hi hthere
  exact gone_of_lifetime (hs.inFlight hc hold) hc hlong hin

end History

namespace Game

theorem not_inRectangle_iff_shot : ∃ o,
    (run History.step .new History.shot).game.objectAt .bullet 0 = some o ∧
      (¬ InRectangle o ↔ Gone .bullet o) := by
  obtain ⟨o, ho⟩ : ∃ o, (run History.step .new History.shot).game.objectAt .bullet 0 = some o :=
    Option.isSome_iff_exists.mp (by decide +kernel)
  have hreachable :=
    (History.always_reachable (s := .new) .new fun _ => History.ofServer_of_mem_shot).final
  exact ⟨o, ho, not_inRectangle_iff hreachable nofun ho⟩

end Game

end BeeRType
