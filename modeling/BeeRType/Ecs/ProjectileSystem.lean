-- SUMMARY: The projectile system of the ECS: what one call does to every entity, and that runs of calls kill no entity twice.
import BeeRType.Ecs.Store
import Mathlib.Algebra.Order.Ring.Rat
import Mathlib.Data.List.Nodup

/-!
# The projectile system

`projectileSystem` moves the projectiles and kills those that leave the screen. A
turn of its loop grows two arrays to the slot it looks at and may erase that slot
from every array; it touches no other entity.
-/

open Cpp Transition

namespace BeeRType

/-! ## Registries that can be -/

/-- The members of a registry are private: it comes about by these functions and by
what is written through the references that `get_components` returns. -/
inductive Registry.Built {κ : Type} [ComponentKind κ] [DecidableEq κ] : Registry κ → Prop
  | new : Built .new
  | registerComponent {r : Registry κ} (k : κ) (hr : Built r) : Built (r.registerComponent k)
  | spawnEntity {r : Registry κ} (hr : Built r) : Built r.spawnEntity.2
  | killEntity {r : Registry κ} (e : Nat) (hr : Built r) : Built (r.killEntity e)
  | written {r : Registry κ} {k : κ} {old : SparseArray (ComponentKind.Value k)}
      (array : SparseArray (ComponentKind.Value k)) (hold : r.getComponents k = .ok old)
      (hr : Built r) : Built (r.setComponents k array)

/-- Every component belongs to an entity that exists. -/
def Registry.Owned {κ : Type} [ComponentKind κ] (r : Registry κ) : Prop :=
  ∀ k e, (r.component? k e).isSome = true → r.entityExists e = true

/-! ## The system -/

namespace Registry

/-- The new position of an entity with the three components. -/
def flight (r : Registry Component) (e : Nat) : Option Position := do
  let proj : Projectile ← r.component? .projectile e
  let pos : Position ← r.component? .position e
  let vel : Velocity ← r.component? .velocity e
  pure ⟨pos.x + vel.vx * proj.speed, pos.y + vel.vy * proj.speed⟩

/-- The new position is off the screen. -/
def leaves (r : Registry Component) (e : Nat) : Bool :=
  (r.flight e).any fun pos => decide (1280 < pos.x)

end Registry

/-- The registry during a call, and the ids of the lines "Killing entity" so far. -/
structure ProjectilePass where
  registry : Registry Component
  killed : List Nat

namespace ProjectilePass

/-- One turn of the loop, for a slot of the projectiles that is there. -/
def turn (p : ProjectilePass) (i : Nat) : ProjectilePass :=
  match (p.registry.component? .projectile i : Option Projectile) with
  | none => p
  | some proj =>
    let r := (p.registry.growTo .position i).growTo .velocity i
    match (r.component? .position i : Option Position),
      (r.component? .velocity i : Option Velocity) with
    | some pos, some vel =>
      let pos : Position := ⟨pos.x + vel.vx * proj.speed, pos.y + vel.vy * proj.speed⟩
      let r := r.modifyComponent .position i fun _ => pos
      if 1280 < pos.x then ⟨r.killEntity i, p.killed ++ [i]⟩ else { p with registry := r }
    | _, _ => { p with registry := r }

end ProjectilePass

/-- `projectileSystem`, called on the registry's own arrays. Neither a turn nor a kill
changes the size of the array of projectiles. -/
def projectileSystem (r : Registry Component) : Except StdException ProjectilePass := do
  let _ ← r.getComponents .position
  let _ ← r.getComponents .velocity
  let projectiles ← r.getComponents .projectile
  pure ((List.range projectiles.size).foldl ProjectilePass.turn ⟨r, []⟩)

/-! ## What a call does -/

namespace ProjectilePass

/-- The components of an entity and its existence are as before. -/
def Kept (r r' : Registry Component) (e : Nat) : Prop :=
  (∀ k, r'.component? k e = r.component? k e) ∧ r'.entityExists e = r.entityExists e

/-- The entity has got a new position, and nothing else. -/
def Moved (r r' : Registry Component) (e : Nat) (pos : Position) : Prop :=
  r'.component? .position e = some pos ∧
    (∀ k, k ≠ .position → r'.component? k e = r.component? k e) ∧
    r'.entityExists e = r.entityExists e

/-- Nothing is left of the entity. -/
def Gone (r' : Registry Component) (e : Nat) : Prop :=
  (∀ k, r'.component? k e = none) ∧ r'.entityExists e = false

/-- What is to become of an entity. -/
def Landed (r r' : Registry Component) (e : Nat) : Prop :=
  match r.flight e with
  | none => Kept r r' e
  | some pos => if 1280 < pos.x then Gone r' e else Moved r r' e pos

/-- A turn lands one entity, keeps the others, and records a kill. -/
structure Turned (p p' : ProjectilePass) (i : Nat) : Prop where
  landed : Landed p.registry p'.registry i
  kept : ∀ e, e ≠ i → Kept p.registry p'.registry e
  killed : p'.killed = p.killed ++ [i].filter p.registry.leaves
  dead : p'.registry.deadEntities = p.registry.deadEntities ++ [i].filter p.registry.leaves
  erased : p'.registry.ErasesAll

variable {r r' r'' : Registry Component} {p p' : ProjectilePass} {e i : Nat} {is : List Nat}

/-! ### One turn -/

theorem kept_refl : Kept r r e := ⟨fun _ => rfl, rfl⟩

theorem Kept.trans (h : Kept r r' e) (h' : Kept r' r'' e) : Kept r r'' e :=
  ⟨fun k => (h'.1 k).trans (h.1 k), h'.2.trans h.2⟩

theorem Kept.flight (h : Kept r r' e) : r'.flight e = r.flight e := by
  unfold Registry.flight
  rw [h.1, h.1, h.1]

theorem Kept.leaves (h : Kept r r' e) : r'.leaves e = r.leaves e := by
  unfold Registry.leaves
  rw [h.flight]

theorem kept_growTo {k : Component} {j : Nat} : Kept r (r.growTo k j) e :=
  ⟨fun _ => Registry.component?_growTo, Registry.growTo_frame (f := fun r => r.entityExists e)
    fun _ _ _ => rfl⟩

/-- The registries differ in the components of one entity at most, and what is
registered in the one is erased by the other if the one erases it. -/
structure OnlyAt (i : Nat) (r r' : Registry Component) : Prop where
  kept : ∀ e, e ≠ i → Kept r r' e
  exist : r'.entityExists i = r.entityExists i
  dead : r'.deadEntities = r.deadEntities
  erased : r.ErasesAll → r'.ErasesAll

theorem onlyAt_refl : OnlyAt i r r := ⟨fun _ _ => kept_refl, rfl, rfl, id⟩

theorem OnlyAt.trans (h : OnlyAt i r r') (h' : OnlyAt i r' r'') : OnlyAt i r r'' where
  kept := fun e he => (h.kept e he).trans (h'.kept e he)
  exist := h'.exist.trans h.exist
  dead := h'.dead.trans h.dead
  erased := fun hr => h'.erased (h.erased hr)

theorem onlyAt_growTo {k : Component} : OnlyAt i r (r.growTo k i) where
  kept := fun _ _ => kept_growTo
  exist := kept_growTo.2
  dead := Registry.growTo_frame (f := Registry.deadEntities) fun _ _ _ => rfl
  erased := fun hr => hr.growTo

theorem onlyAt_modifyComponent {k : Component}
    {f : ComponentKind.Value k → ComponentKind.Value k} : OnlyAt i r (r.modifyComponent k i f) where
  kept := fun e he => ⟨fun _ => Registry.component?_modifyComponent_of_ne (.inr he),
    Registry.modifyComponent_frame (f := fun r => r.entityExists e) fun _ _ _ => rfl⟩
  exist := Registry.modifyComponent_frame (f := fun r => r.entityExists i) fun _ _ _ => rfl
  dead := Registry.modifyComponent_frame (f := Registry.deadEntities) fun _ _ _ => rfl
  erased := fun hr => hr.modifyComponent

/-- A turn without a kill. -/
theorem OnlyAt.turned (hr : p.registry.ErasesAll)
    (h : OnlyAt i p.registry r') (hlanded : Landed p.registry r' i)
    (hleaves : p.registry.leaves i = false) : Turned p { p with registry := r' } i where
  landed := hlanded
  kept := h.kept
  killed := by simp [hleaves]
  dead := by simpa [hleaves] using h.dead
  erased := h.erased hr

/-- A turn with a kill: whatever it has written before is gone. -/
theorem OnlyAt.turned_kill (hr : p.registry.ErasesAll)
    (h : OnlyAt i p.registry r') {pos : Position} (hflight : p.registry.flight i = some pos)
    (hx : 1280 < pos.x) : Turned p ⟨r'.killEntity i, p.killed ++ [i]⟩ i := by
  have hleaves : p.registry.leaves i = true := by simp [Registry.leaves, hflight, hx]
  have hgone : ¬ (r'.killEntity i).entityExists i = true := fun hexists =>
    (Registry.entityExists_killEntity.mp hexists).2 rfl
  refine ⟨?_, fun e he => (h.kept e he).trans ⟨?_, ?_⟩, ?_, ?_, (h.erased hr).killEntity⟩
  · rw [Landed, hflight]
    exact (if_pos hx).mpr
      ⟨fun k => (h.erased hr).component?_killEntity, Bool.not_eq_true _ ▸ hgone⟩
  · exact fun k => Registry.component?_killEntity_of_ne he
  · rw [Bool.eq_iff_iff, Registry.entityExists_killEntity, and_iff_left he]
  · simp [hleaves]
  · simp only [List.filter_singleton, hleaves, cond_true, Registry.deadEntities_killEntity, h.dead]

theorem turned (hr : p.registry.ErasesAll) (i : Nat) :
    Turned p (p.turn i) i := by
  have hidle {r' : Registry Component} (hflight : p.registry.flight i = none)
      (h : OnlyAt i p.registry r') (hkept : Kept p.registry r' i) :
      Turned p { p with registry := r' } i := by
    refine h.turned hr ?_ (by simp [Registry.leaves, hflight])
    rw [Landed, hflight]
    exact hkept
  unfold turn
  split
  · rename_i hproj
    exact hidle (by simp only [Registry.flight, hproj]; rfl) onlyAt_refl kept_refl
  · rename_i proj hproj
    have hgrown : OnlyAt i p.registry ((p.registry.growTo .position i).growTo .velocity i) :=
      onlyAt_growTo.trans onlyAt_growTo
    have hkept : Kept p.registry ((p.registry.growTo .position i).growTo .velocity i) i :=
      kept_growTo.trans kept_growTo
    dsimp only
    generalize (p.registry.growTo .position i).growTo .velocity i = grown at hgrown hkept ⊢
    split
    · rename_i pos vel hpos hvel
      rw [hkept.1] at hpos hvel
      have hflight : p.registry.flight i =
          some ⟨pos.x + vel.vx * proj.speed, pos.y + vel.vy * proj.speed⟩ := by
        simp only [Registry.flight, hproj, hpos, hvel]
        rfl
      split
      · rename_i hx
        exact (hgrown.trans onlyAt_modifyComponent).turned_kill hr hflight hx
      · rename_i hx
        refine (hgrown.trans onlyAt_modifyComponent).turned hr ?_ ?_
        · rw [Landed, hflight]
          refine (if_neg hx).mpr ⟨?_, fun k hk => ?_, ?_⟩
          · rw [Registry.component?_modifyComponent, hkept.1, hpos]
            rfl
          · exact (Registry.component?_modifyComponent_of_ne (.inl hk)).trans (hkept.1 k)
          · exact (hgrown.trans onlyAt_modifyComponent).exist
        · simp [Registry.leaves, hflight, hx]
    · rename_i hnone
      refine hidle ?_ hgrown hkept
      rw [hkept.1, hkept.1] at hnone
      simp only [Registry.flight, hproj]
      cases hpos : (p.registry.component? .position i : Option Position) with
      | none => rfl
      | some pos =>
          cases hvel : (p.registry.component? .velocity i : Option Velocity) with
          | none => rfl
          | some vel => exact (hnone pos vel hpos hvel).elim

/-! ### A whole call -/

/-- What the turns for some entities have done to the registry of the call. -/
structure Passed (r : Registry Component) (is : List Nat) (p : ProjectilePass) : Prop where
  landed : ∀ e ∈ is, Landed r p.registry e
  kept : ∀ e, e ∉ is → Kept r p.registry e
  killed : p.killed = is.filter r.leaves
  dead : p.registry.deadEntities = r.deadEntities ++ p.killed
  erased : p.registry.ErasesAll

/-- Landing from a registry that agrees on the entity. -/
theorem Landed.of_kept (h : Landed r' r'' e) (hkept : Kept r r' e) : Landed r r'' e := by
  unfold Landed at h ⊢
  rw [hkept.flight] at h
  split at h
  · exact hkept.trans h
  · split at h
    · rename_i hx
      exact (if_pos hx).mpr h
    · rename_i hx
      refine (if_neg hx).mpr ⟨h.1, fun k hk => ?_, h.2.2.trans hkept.2⟩
      exact (h.2.1 k hk).trans (hkept.1 k)

/-- A later turn for another entity keeps what has landed. -/
theorem Landed.kept (h : Landed r r' e) (hkept : Kept r' r'' e) : Landed r r'' e := by
  unfold Landed at h ⊢
  split at h
  · exact h.trans hkept
  · split at h
    · rename_i hx
      exact (if_pos hx).mpr ⟨fun k => (hkept.1 k).trans (h.1 k), hkept.2.trans h.2⟩
    · rename_i hx
      refine (if_neg hx).mpr ⟨(hkept.1 _).trans h.1, fun k hk => ?_, hkept.2.trans h.2.2⟩
      exact (hkept.1 k).trans (h.2.1 k hk)

theorem Passed.turn (h : Passed r is p) (hi : i ∉ is) : Passed r (is ++ [i]) (p.turn i) := by
  have hturn := turned h.erased i
  have hkept := h.kept i hi
  have hleaves : [i].filter p.registry.leaves = [i].filter r.leaves := by
    simp only [List.filter_singleton, hkept.leaves]
  refine ⟨fun e he => ?_, fun e he => ?_, ?_, ?_, hturn.erased⟩
  · rcases List.mem_append.mp he with he | he
    · exact (h.landed e he).kept (hturn.kept e fun heq => hi (heq ▸ he))
    · obtain rfl := List.mem_singleton.mp he
      exact hturn.landed.of_kept hkept
  · rw [List.mem_append, List.mem_singleton, not_or] at he
    exact (h.kept e he.1).trans (hturn.kept e he.2)
  · rw [hturn.killed, h.killed, hleaves, List.filter_append]
  · rw [hturn.dead, hturn.killed, h.dead, List.append_assoc]

theorem passed (hr : r.ErasesAll) (his : is.Nodup) :
    Passed r is (is.foldl turn ⟨r, []⟩) := by
  induction is using List.reverseRecOn with
  | nil =>
      exact ⟨fun _ he => absurd he List.not_mem_nil, fun _ _ => kept_refl, rfl,
        (List.append_nil _).symm, hr⟩
  | append_singleton is i ih =>
      obtain ⟨hnodup, -, hne⟩ := List.nodup_append.mp his
      rw [List.foldl_append]
      exact (ih hnodup).turn fun hi => hne i hi i (List.mem_singleton_self i) rfl

/-- Entities without a slot in the array of projectiles have no projectile. -/
theorem projectileSystem_passed (hr : r.ErasesAll)
    (h : projectileSystem r = .ok p) :
    ∃ is : List Nat, is.Nodup ∧ Passed r is p ∧ ∀ e, e ∉ is → r.flight e = none := by
  obtain ⟨positions, -, h⟩ := Fallible.bind_eq_ok.mp h
  obtain ⟨velocities, -, h⟩ := Fallible.bind_eq_ok.mp h
  obtain ⟨projectiles, hprojectiles, h⟩ := Fallible.bind_eq_ok.mp h
  obtain rfl := Fallible.pure_eq_ok.mp h
  refine ⟨List.range projectiles.size, List.nodup_range, passed hr List.nodup_range, ?_⟩
  intro e he
  have hslot : r.component? .projectile e = none := by
    by_contra hslot
    have hlt := Registry.lt_size_of_component hprojectiles (Option.isSome_iff_ne_none.mpr hslot)
    exact he (List.mem_range.mpr hlt)
  simp only [Registry.flight, hslot]
  rfl

/-! ## What a call is for -/

/-- A call flies every entity with the three components by its velocity times the speed
of its projectile, kills those that it flies off the screen, and does nothing else. -/
structure Exact (p : ProjectilePass) (r : Registry Component) : Prop where
  moved : ∀ e pos, r.flight e = some pos → pos.x ≤ 1280 →
    p.registry.component? .position e = some pos ∧
      (∀ k, k ≠ .position → p.registry.component? k e = r.component? k e) ∧
      p.registry.entityExists e = true
  gone : ∀ e pos, r.flight e = some pos → 1280 < pos.x →
    (∀ k, p.registry.component? k e = none) ∧ p.registry.entityExists e = false ∧
      p.registry.deadEntities.count e = 1
  others : ∀ e, r.flight e = none →
    (∀ k, p.registry.component? k e = r.component? k e) ∧
      p.registry.entityExists e = r.entityExists e
  dead : p.registry.deadEntities = r.deadEntities ++ p.killed
  nodup : p.killed.Nodup
  killed_iff : ∀ e, e ∈ p.killed ↔ ∃ pos, r.flight e = some pos ∧ 1280 < pos.x

theorem isSome_of_flight {pos : Position} (h : r.flight e = some pos) :
    (r.component? .projectile e).isSome = true := by
  obtain ⟨proj, hproj, -⟩ := Option.bind_eq_some_iff.mp h
  exact Option.isSome_iff_exists.mpr ⟨proj, hproj⟩

theorem leaves_iff : r.leaves e = true ↔ ∃ pos, r.flight e = some pos ∧ 1280 < pos.x := by
  cases hflight : r.flight e <;> simp [Registry.leaves, hflight]

theorem Passed.exact (hr : r.Sane) (hnodup : is.Nodup) (h : Passed r is p)
    (hother : ∀ e, e ∉ is → r.flight e = none) : p.Exact r := by
  have hlanded : ∀ e, Landed r p.registry e := by
    intro e
    by_cases he : e ∈ is
    · exact h.landed e he
    · rw [Landed, hother e he]
      exact h.kept e he
  have hkilled : ∀ e, e ∈ p.killed ↔ ∃ pos, r.flight e = some pos ∧ 1280 < pos.x := by
    intro e
    rw [h.killed, List.mem_filter, leaves_iff, and_iff_right_iff_imp]
    rintro ⟨pos, hflight, -⟩
    by_contra he
    rw [hother e he] at hflight
    cases hflight
  have hnodup : p.killed.Nodup := h.killed ▸ hnodup.filter _
  refine ⟨fun e pos hflight hx => ?_, fun e pos hflight hx => ?_, fun e hflight => ?_, h.dead,
    hnodup, hkilled⟩
  · have hmoved := hlanded e
    rw [Landed, hflight] at hmoved
    obtain ⟨hpos, hrest, hexists⟩ := (if_neg (not_lt.mpr hx)).mp hmoved
    exact ⟨hpos, hrest, hexists.trans (hr.entityExists (isSome_of_flight hflight))⟩
  · have hgone := hlanded e
    rw [Landed, hflight] at hgone
    obtain ⟨hnone, hexists⟩ := (if_pos hx).mp hgone
    have hlive := hr.entityExists (isSome_of_flight hflight)
    refine ⟨hnone, hexists, ?_⟩
    rw [h.dead, List.count_append,
      List.count_eq_zero_of_not_mem (Registry.entityExists_iff.mp hlive).2, Nat.zero_add]
    exact List.count_eq_one_of_mem hnodup ((hkilled e).mpr ⟨pos, hflight, hx⟩)
  · have hkept := hlanded e
    rwa [Landed, hflight] at hkept

theorem Passed.sane (hr : r.Sane) (h : Passed r is p) (hexact : p.Exact r) : p.registry.Sane := by
  refine ⟨h.erased, fun k e hexists => ?_⟩
  cases hflight : r.flight e with
  | none =>
      obtain ⟨hslots, hexists'⟩ := hexact.others e hflight
      rw [hslots]
      exact hr.vacant k e (hexists'.symm.trans hexists)
  | some pos =>
      by_cases hx : 1280 < pos.x
      · exact (hexact.gone e pos hflight hx).1 k
      · rw [(hexact.moved e pos hflight (not_lt.mp hx)).2.2] at hexists
        cases hexists

/-- One call, on the arrays of the registry. -/
theorem projectileSystem_ok (hr : r.Sane) (h : projectileSystem r = .ok p) :
    p.Exact r ∧ p.registry.Sane := by
  obtain ⟨is, hnodup, hpassed, hother⟩ := projectileSystem_passed hr.erased h
  have hexact := hpassed.exact hr hnodup hother
  exact ⟨hexact, hpassed.sane hr hexact⟩

theorem projectileSystem_succeeds (hposition : r.IsRegistered .position)
    (hvelocity : r.IsRegistered .velocity) (hprojectile : r.IsRegistered .projectile) :
    ∃ p, projectileSystem r = .ok p := by
  have hpositions := Registry.getComponents_of_isRegistered hposition
  have hvelocities := Registry.getComponents_of_isRegistered hvelocity
  have hprojectiles := Registry.getComponents_of_isRegistered hprojectile
  exact Fallible.exists_bind hpositions fun _ _ =>
    Fallible.exists_bind hvelocities fun _ _ =>
      Fallible.exists_bind hprojectiles fun _ _ => ⟨_, rfl⟩

end ProjectilePass

/-! ## Runs of calls -/

/-- A call of the system, or an operation on the registry between the calls. -/
inductive FlightEvent where
  | projectileSystem
  | operation (op : RegistryOp Component)

/-- What becomes of an entity: `spawn_entity` has returned it, or the system has killed
it. -/
inductive FlightRecord where
  | spawned (e : Nat)
  | killed (e : Nat)

/-- A registry, and what has become of its entities, newest first. -/
structure FlightHistory where
  registry : Registry Component
  log : List FlightRecord

namespace FlightHistory

def spawns (h : FlightHistory) : RegistryOp Component → List FlightRecord
  | .spawnEntity => [.spawned h.registry.spawnEntity.1]
  | _ => []

/-- A call that throws leaves the registry as it is. -/
def step (h : FlightHistory) : FlightEvent → FlightHistory
  | .projectileSystem =>
    match projectileSystem h.registry with
    | .ok p => ⟨p.registry, p.killed.reverse.map .killed ++ h.log⟩
    | .error _ => h
  | .operation op => ⟨(RegistryHistory.step ⟨h.registry, []⟩ op).registry, h.spawns op ++ h.log⟩

/-- The system has killed the entity, and it has not been spawned since. -/
def Unspawned (e : Nat) : List FlightRecord → Prop
  | [] => False
  | .spawned e' :: log => e' ≠ e ∧ Unspawned e log
  | .killed e' :: log => e' = e ∨ Unspawned e log

/-- Between two kills of an entity by the system, it has been spawned. -/
def KilledOnce : List FlightRecord → Prop
  | [] => True
  | .spawned _ :: log => KilledOnce log
  | .killed e :: log => ¬ Unspawned e log ∧ KilledOnce log

/-- What waits for its respawn does not exist. -/
structure FlightInv (h : FlightHistory) : Prop where
  sane : h.registry.Sane
  unspawned : ∀ e, Unspawned e h.log → h.registry.entityExists e = false
  once : KilledOnce h.log

variable {h : FlightHistory} {r : Registry Component} {p : ProjectilePass} {e : Nat}
  {log : List FlightRecord}

theorem unspawned_killed {ids : List Nat} :
    Unspawned e (ids.map .killed ++ log) ↔ e ∈ ids ∨ Unspawned e log := by
  induction ids with
  | nil => simp
  | cons id ids ih =>
      rw [List.map_cons, List.cons_append, Unspawned, ih, List.mem_cons, or_assoc, eq_comm]

theorem killedOnce_killed {ids : List Nat} (hnodup : ids.Nodup)
    (hids : ∀ e ∈ ids, ¬ Unspawned e log) (hlog : KilledOnce log) :
    KilledOnce (ids.map .killed ++ log) := by
  induction ids with
  | nil => exact hlog
  | cons id ids ih =>
      obtain ⟨hid, hnodup⟩ := List.nodup_cons.mp hnodup
      refine ⟨fun hwaits => ?_, ih hnodup fun e he => hids e (List.mem_cons_of_mem _ he)⟩
      rcases unspawned_killed.mp hwaits with hmem | hwaits
      · exact hid hmem
      · exact hids id List.mem_cons_self hwaits

theorem FlightInv.call (hh : FlightInv h) (hp : projectileSystem h.registry = .ok p) :
    FlightInv ⟨p.registry, p.killed.reverse.map .killed ++ h.log⟩ := by
  obtain ⟨hexact, hsane⟩ := ProjectilePass.projectileSystem_ok hh.sane hp
  refine ⟨hsane, fun e he => ?_, killedOnce_killed (List.nodup_reverse.mpr hexact.nodup)
    (fun e he hwaits => ?_) hh.once⟩
  · rcases unspawned_killed.mp he with he | he
    · obtain ⟨pos, hflight, hx⟩ := (hexact.killed_iff e).mp (List.mem_reverse.mp he)
      exact (hexact.gone e pos hflight hx).2.1
    · have hold := hh.unspawned e he
      refine (hexact.others e ?_).2.trans hold
      cases hflight : h.registry.flight e with
      | none => rfl
      | some pos =>
          rw [hh.sane.entityExists (ProjectilePass.isSome_of_flight hflight)] at hold
          cases hold
  · obtain ⟨pos, hflight, -⟩ := (hexact.killed_iff e).mp (List.mem_reverse.mp he)
    have hold := hh.unspawned e hwaits
    rw [hh.sane.entityExists (ProjectilePass.isSome_of_flight hflight)] at hold
    cases hold

theorem unspawned_spawns {op : RegistryOp Component} (he : Unspawned e (h.spawns op ++ h.log)) :
    Unspawned e h.log ∧ ¬ (op = .spawnEntity ∧ e = h.registry.spawnEntity.1) := by
  cases op with
  | spawnEntity => exact ⟨he.2, fun ⟨_, heq⟩ => he.1 heq.symm⟩
  | _ => exact ⟨he, fun ⟨hop, _⟩ => by cases hop⟩

theorem FlightInv.operation (hh : FlightInv h) (op : RegistryOp Component) :
    FlightInv (h.step (.operation op)) := by
  refine ⟨RegistryHistory.sane_step hh.sane, fun e he => ?_, ?_⟩
  · obtain ⟨hwaits, hspawned⟩ := unspawned_spawns he
    by_contra hexists
    rw [Bool.not_eq_false] at hexists
    rcases RegistryHistory.entityExists_step hexists with hold | hnew
    · rw [hh.unspawned e hwaits] at hold
      cases hold
    · exact hspawned hnew
  · cases op <;> exact hh.once

theorem FlightInv.step (hh : FlightInv h) (event : FlightEvent) : FlightInv (h.step event) := by
  cases event with
  | operation op => exact hh.operation op
  | projectileSystem =>
      simp only [FlightHistory.step]
      split
      · rename_i p hp
        exact hh.call hp
      · exact hh

theorem flightInv_run {events : List FlightEvent} (hr : r.Sane) :
    FlightInv (run FlightHistory.step ⟨r, []⟩ events) :=
  (always_of_step ⟨hr, fun _ he => he.elim, trivial⟩ fun _ event hh => hh.step event).final

end FlightHistory

/-! ## Registries that their functions build -/

namespace Registry

variable {κ : Type} [ComponentKind κ] [DecidableEq κ] {r : Registry κ}

theorem Built.erased (hr : r.Built) : r.ErasesAll := by
  induction hr with
  | new => exact erasesAll_new
  | registerComponent k _ ih => exact ih.registerComponent
  | spawnEntity _ ih => exact ih.spawnEntity
  | killEntity e _ ih => exact ih.killEntity
  | written array hold _ ih => exact ih.setComponents hold

theorem Built.sane (hr : r.Built) (howned : r.Owned) : r.Sane where
  erased := hr.erased
  vacant := fun k e hexists => by
    by_contra hslot
    rw [howned k e (Option.isSome_iff_ne_none.mpr hslot)] at hexists
    cases hexists

omit [DecidableEq κ] in
theorem Sane.owned (hr : r.Sane) : r.Owned := fun _ _ => hr.entityExists

end Registry

/-- The operations build registries, and keep the components owned. -/
theorem RegistryHistory.built_run (ops : List (RegistryOp Component)) :
    (run RegistryHistory.step .new ops).registry.Built := by
  have hstep (h : RegistryHistory Component) (op : RegistryOp Component)
      (hh : h.registry.Built) : (h.step op).registry.Built := by
    cases h.stepped op with
    | registered k hop =>
        rw [hop]
        exact hh.registerComponent k
    | spawned hop =>
        rw [hop]
        exact hh.spawnEntity
    | killed e hop =>
        rw [hop]
        exact hh.killEntity e
    | stored k e c _ _ array harray heq =>
        rw [heq]
        exact hh.written _ harray
    | removed k e _ array harray heq =>
        rw [heq]
        exact hh.written _ harray
    | threw _ heq =>
        rw [heq]
        exact hh
  have hinv : Always RegistryHistory.step (fun h => h.registry.Built) .new ops :=
    always_of_step Registry.Built.new hstep
  exact hinv.final

theorem RegistryHistory.owned_run (ops : List (RegistryOp Component)) :
    (run RegistryHistory.step .new ops).registry.Owned := by
  have hinv : Always RegistryHistory.step (fun h => h.registry.Sane) .new ops :=
    always_of_step Registry.sane_new fun _ _ hh => sane_step hh
  exact hinv.final.owned

/-- From any registry whose components belong to existing entities, a call on its own
arrays is exact, and no run of calls and other operations has the system kill an entity
twice without a spawn of it in between. -/
theorem projectileSystem_exact (r : Registry Component) (hbuilt : r.Built) (howned : r.Owned) :
    (r.IsRegistered .position → r.IsRegistered .velocity → r.IsRegistered .projectile →
      ∃ p, projectileSystem r = .ok p ∧ p.Exact r) ∧
    ∀ events, FlightHistory.KilledOnce (run FlightHistory.step ⟨r, []⟩ events).log := by
  have hsane := hbuilt.sane howned
  refine ⟨fun hposition hvelocity hprojectile => ?_, fun events =>
    (FlightHistory.flightInv_run hsane).once⟩
  obtain ⟨p, hp⟩ := ProjectilePass.projectileSystem_succeeds hposition hvelocity hprojectile
  exact ⟨p, hp, (ProjectilePass.projectileSystem_ok hsane hp).1⟩

/-- A projectile at the edge of the screen, with the operations that make it. -/
def projectileAtEdge : List (RegistryOp Component) :=
  [.registerComponent .position, .registerComponent .velocity, .registerComponent .projectile,
    .spawnEntity, .addComponent .position 0 (⟨1279, 0⟩ : Position),
    .addComponent .velocity 0 (⟨1, 0⟩ : Velocity),
    .addComponent .projectile 0 (⟨2⟩ : Projectile)]

theorem projectileSystem_exact_atEdge :
    (∃ p, projectileSystem (run RegistryHistory.step .new projectileAtEdge).registry = .ok p ∧
      p.Exact (run RegistryHistory.step .new projectileAtEdge).registry) ∧
    FlightHistory.KilledOnce (run FlightHistory.step
      ⟨(run RegistryHistory.step .new projectileAtEdge).registry, []⟩
      [.projectileSystem, .operation .spawnEntity, .projectileSystem]).log := by
  obtain ⟨hcall, hruns⟩ := projectileSystem_exact
    (run RegistryHistory.step .new projectileAtEdge).registry
    (RegistryHistory.built_run _) (RegistryHistory.owned_run _)
  exact ⟨hcall rfl rfl rfl, hruns _⟩

end BeeRType
