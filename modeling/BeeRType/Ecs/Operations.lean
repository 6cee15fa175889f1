-- SUMMARY: Histories of a registry: its operations with the exceptions they throw, what they have done, and when the ids it hands out are fresh.
import BeeRType.Base.Transition
import BeeRType.Ecs.Components

/-!
# Operations

A registry under any sequence of its operations. An operation that throws leaves the
registry as it is at the `throw`. Next to the registry, a history keeps what the
operations have done, newest first.
-/

open Cpp Transition

namespace BeeRType

variable {κ : Type} [ComponentKind κ] [DecidableEq κ]

/-! ## Operations that throw -/

/-- A member function of the registry: an exception keeps the registry of the moment. -/
abbrev RegistryM (κ : Type) [ComponentKind κ] (α : Type) : Type :=
  EStateM StdException (Registry κ) α

namespace Registry

/-- `get_components`. -/
def getComponentsM (k : κ) : RegistryM κ (SparseArray (ComponentKind.Value k)) := do
  match (← get).getComponents k with
  | .ok array => pure array
  | .error exception => throw exception

/-- `add_component`. -/
def addComponentM (k : κ) (entity : Nat) (c : ComponentKind.Value k) : RegistryM κ Unit := do
  if !(← get).entityExists entity then
    throw (.outOfRange "Entity does not exist")
  let array ← getComponentsM k
  modify fun r => r.setComponents k (array.insertAt entity c)

/-- `emplace_component`. -/
def emplaceComponentM (k : κ) (entity : Nat) (c : ComponentKind.Value k) : RegistryM κ Unit := do
  if !(← get).entityExists entity then
    throw (.outOfRange "Entity does not exist")
  let array ← getComponentsM k
  modify fun r => r.setComponents k (array.emplaceAt entity c)

/-- `remove_component`. -/
def removeComponentM (k : κ) (entity : Nat) : RegistryM κ Unit := do
  let array ← getComponentsM k
  modify fun r => r.setComponents k (array.erase entity)

/-- What a member function comes to that throws before it writes, or goes through. -/
def outcome (r : Registry κ) : Except StdException (Registry κ) →
    EStateM.Result StdException (Registry κ) Unit
  | .ok r' => .ok () r'
  | .error exception => .error exception r

variable {r : Registry κ} {k : κ} {e : Nat} {c : ComponentKind.Value k}

omit [DecidableEq κ] in
theorem getComponentsM_run : (getComponentsM k).run r =
    match r.getComponents k with
    | .ok array => .ok array r
    | .error exception => .error exception r := by
  cases harray : r.getComponents k <;>
    simp only [getComponentsM, EStateM.run_bind, EStateM.run_get, harray] <;> rfl

theorem addComponentM_run : (addComponentM k e c).run r = outcome r (r.addComponent k e c) := by
  cases hexists : r.entityExists e with
  | false => simp [addComponentM, addComponent, hexists, outcome]
  | true =>
      cases harray : r.getComponents k with
      | error exception =>
          have hthrows : r.addComponent k e c = .error exception := by
            simp only [addComponent, hexists, if_true, harray]
            rfl
          simp [addComponentM, hexists, getComponentsM_run, harray, hthrows, outcome]
      | ok array =>
          have hstores : r.addComponent k e c = .ok (r.setComponents k (array.insertAt e c)) := by
            simp only [addComponent, hexists, if_true, harray]
            rfl
          simp [addComponentM, hexists, getComponentsM_run, harray, hstores, outcome]

theorem emplaceComponentM_run :
    (emplaceComponentM k e c).run r = outcome r (r.emplaceComponent k e c) :=
  addComponentM_run

theorem removeComponentM_run : (removeComponentM k e).run r = outcome r (r.removeComponent k e) := by
  cases harray : r.getComponents k with
  | error exception =>
      have hthrows : r.removeComponent k e = .error exception := by
        simp only [removeComponent, harray]
        rfl
      simp [removeComponentM, getComponentsM_run, harray, hthrows, outcome]
  | ok array =>
      have herases : r.removeComponent k e = .ok (r.setComponents k (array.erase e)) := by
        simp only [removeComponent, harray]
        rfl
      simp [removeComponentM, getComponentsM_run, harray, herases, outcome]

end Registry

/-! ## Histories -/

inductive RegistryOp (κ : Type) [ComponentKind κ] where
  | registerComponent (k : κ)
  | spawnEntity
  | killEntity (e : Nat)
  | addComponent (k : κ) (entity : Nat) (c : ComponentKind.Value k)
  | emplaceComponent (k : κ) (entity : Nat) (c : ComponentKind.Value k)
  | removeComponent (k : κ) (entity : Nat)

/-- The operations on one component of one entity, which can throw. -/
def RegistryOp.OnComponent : RegistryOp κ → Prop
  | .addComponent .. | .emplaceComponent .. | .removeComponent .. => True
  | _ => False

/-- What an operation has done. -/
inductive RegistryEvent (κ : Type) [ComponentKind κ] where
  /-- `spawn_entity` has returned the id. -/
  | spawned (e : Nat)
  | killed (e : Nat)
  | stored (k : κ) (e : Nat) (c : ComponentKind.Value k)
  | removed (k : κ) (e : Nat)

/-- A registry, and what its operations have done, newest first. -/
structure RegistryHistory (κ : Type) [ComponentKind κ] where
  registry : Registry κ
  log : List (RegistryEvent κ)

namespace RegistryHistory

def new : RegistryHistory κ := ⟨.new, []⟩

/-- An operation that throws has done nothing that would be remembered. -/
def record (h : RegistryHistory κ) (event : RegistryEvent κ) :
    EStateM.Result StdException (Registry κ) Unit → RegistryHistory κ
  | .ok _ r => ⟨r, event :: h.log⟩
  | .error _ r => { h with registry := r }

def step (h : RegistryHistory κ) : RegistryOp κ → RegistryHistory κ
  | .registerComponent k => { h with registry := h.registry.registerComponent k }
  | .spawnEntity => ⟨h.registry.spawnEntity.2, .spawned h.registry.spawnEntity.1 :: h.log⟩
  | .killEntity e => ⟨h.registry.killEntity e, .killed e :: h.log⟩
  | .addComponent k e c => h.record (.stored k e c) ((Registry.addComponentM k e c).run h.registry)
  | .emplaceComponent k e c =>
    h.record (.stored k e c) ((Registry.emplaceComponentM k e c).run h.registry)
  | .removeComponent k e => h.record (.removed k e) ((Registry.removeComponentM k e).run h.registry)

/-- The entity has been returned by `spawn_entity`, and not been killed since. -/
def AliveIn (e : Nat) : List (RegistryEvent κ) → Prop
  | [] => False
  | .spawned e' :: log => e' = e ∨ AliveIn e log
  | .killed e' :: log => e' ≠ e ∧ AliveIn e log
  | .stored .. :: log | .removed .. :: log => AliveIn e log

def Alive (h : RegistryHistory κ) (e : Nat) : Prop := AliveIn e h.log

instance AliveIn.decidable (e : Nat) : ∀ log : List (RegistryEvent κ), Decidable (AliveIn e log)
  | [] => inferInstanceAs (Decidable False)
  | .spawned _ :: log =>
    have := AliveIn.decidable e log
    inferInstanceAs (Decidable (_ ∨ _))
  | .killed _ :: log =>
    have := AliveIn.decidable e log
    inferInstanceAs (Decidable (_ ∧ _))
  | .stored .. :: log | .removed .. :: log => AliveIn.decidable e log

/-! ## Fresh ids -/

/-- The id that `spawn_entity` returns next is not alive and exists from then on, and
what is alive exists. -/
structure Fresh (h : RegistryHistory κ) : Prop where
  not_alive : ¬ h.Alive h.registry.spawnEntity.1
  spawned : h.registry.spawnEntity.2.entityExists h.registry.spawnEntity.1 = true
  alive : ∀ e, h.Alive e → h.registry.entityExists e = true

/-- `kill_entity` is called on an entity that exists. -/
def KillsExisting (h : RegistryHistory κ) : RegistryOp κ → Prop
  | .killEntity e => h.registry.entityExists e = true
  | _ => True

instance : ∀ (h : RegistryHistory κ) op, Decidable (KillsExisting h op)
  | _, .killEntity _ => inferInstanceAs (Decidable (_ = true))
  | _, .registerComponent _ => inferInstanceAs (Decidable True)
  | _, .spawnEntity => inferInstanceAs (Decidable True)
  | _, .addComponent .. => inferInstanceAs (Decidable True)
  | _, .emplaceComponent .. => inferInstanceAs (Decidable True)
  | _, .removeComponent .. => inferInstanceAs (Decidable True)

/-- The ids that wait for their reuse are distinct and have been given out, and the
others below the counter are alive. -/
structure IdInv (h : RegistryHistory κ) : Prop where
  nodup : h.registry.deadEntities.Nodup
  dead_lt : ∀ e ∈ h.registry.deadEntities, e < h.registry.nextEntity
  alive_iff : ∀ e, h.Alive e ↔ h.registry.entityExists e = true

variable {h : RegistryHistory κ} {op : RegistryOp κ}

/-! ## What a step can be -/

/-- The arrays are written by the operations on components only, and only if these go
through. -/
inductive Stepped (h : RegistryHistory κ) (op : RegistryOp κ) : Prop where
  | registered (k : κ) (hop : op = .registerComponent k)
  | spawned (hop : op = .spawnEntity)
  | killed (e : Nat) (hop : op = .killEntity e)
  | stored (k : κ) (e : Nat) (c : ComponentKind.Value k)
      (hop : op = .addComponent k e c ∨ op = .emplaceComponent k e c)
      (hexists : h.registry.entityExists e = true) (array : SparseArray (ComponentKind.Value k))
      (harray : h.registry.getComponents k = .ok array)
      (heq : h.step op = ⟨h.registry.setComponents k (array.insertAt e c), .stored k e c :: h.log⟩)
  | removed (k : κ) (e : Nat) (hop : op = .removeComponent k e)
      (array : SparseArray (ComponentKind.Value k)) (harray : h.registry.getComponents k = .ok array)
      (heq : h.step op = ⟨h.registry.setComponents k (array.erase e), .removed k e :: h.log⟩)
  | threw (hop : op.OnComponent) (heq : h.step op = h)

omit [DecidableEq κ] in
theorem record_cases (h : RegistryHistory κ) (event : RegistryEvent κ)
    (result : Except StdException (Registry κ)) :
    (∃ r, result = .ok r ∧
      h.record event (Registry.outcome h.registry result) = ⟨r, event :: h.log⟩) ∨
      h.record event (Registry.outcome h.registry result) = h := by
  cases result with
  | ok r => exact .inl ⟨r, rfl, rfl⟩
  | error exception => exact .inr rfl

theorem stepped (h : RegistryHistory κ) (op : RegistryOp κ) : Stepped h op := by
  cases op with
  | registerComponent k => exact .registered k rfl
  | spawnEntity => exact .spawned rfl
  | killEntity e => exact .killed e rfl
  | addComponent k e c =>
      have hstep : h.step (.addComponent k e c) = h.record (.stored k e c)
          (Registry.outcome h.registry (h.registry.addComponent k e c)) :=
        congrArg (h.record _) Registry.addComponentM_run
      obtain ⟨r, hr, heq⟩ | heq := h.record_cases (.stored k e c) (h.registry.addComponent k e c)
      · obtain ⟨hexists, array, harray, rfl⟩ := Registry.addComponent_ok hr
        exact .stored k e c (.inl rfl) hexists array harray (hstep.trans heq)
      · exact .threw trivial (hstep.trans heq)
  | emplaceComponent k e c =>
      have hstep : h.step (.emplaceComponent k e c) = h.record (.stored k e c)
          (Registry.outcome h.registry (h.registry.addComponent k e c)) :=
        congrArg (h.record _) Registry.emplaceComponentM_run
      obtain ⟨r, hr, heq⟩ | heq := h.record_cases (.stored k e c) (h.registry.addComponent k e c)
      · obtain ⟨hexists, array, harray, rfl⟩ := Registry.addComponent_ok hr
        exact .stored k e c (.inr rfl) hexists array harray (hstep.trans heq)
      · exact .threw trivial (hstep.trans heq)
  | removeComponent k e =>
      have hstep : h.step (.removeComponent k e) = h.record (.removed k e)
          (Registry.outcome h.registry (h.registry.removeComponent k e)) :=
        congrArg (h.record _) Registry.removeComponentM_run
      obtain ⟨r, hr, heq⟩ | heq := h.record_cases (.removed k e) (h.registry.removeComponent k e)
      · obtain ⟨array, harray, hr⟩ := Fallible.bind_eq_ok.mp hr
        obtain rfl := Fallible.pure_eq_ok.mp hr
        exact .removed k e rfl array harray (hstep.trans heq)
      · exact .threw trivial (hstep.trans heq)

/-! ## Ids along a history -/

omit [DecidableEq κ] in
theorem idInv_new : IdInv (new : RegistryHistory κ) where
  nodup := List.nodup_nil
  dead_lt := fun e he => absurd he List.not_mem_nil
  alive_iff := fun e => by simp [Alive, AliveIn, new, Registry.new, Registry.entityExists]

omit [DecidableEq κ] in
theorem IdInv.fresh (hh : IdInv h) : Fresh h where
  not_alive := by
    rw [hh.alive_iff, Registry.entityExists_spawned]
    exact Bool.false_ne_true
  spawned := by
    refine Registry.entityExists_spawnEntity_iff.mpr fun ids e hids => ?_
    refine ⟨hh.dead_lt e (by rw [hids]; exact List.mem_concat_self), fun he => ?_⟩
    have hnodup := hh.nodup
    rw [hids] at hnodup
    exact (List.nodup_append.mp hnodup).2.2 e he e (List.mem_singleton_self e) rfl
  alive := fun e => (hh.alive_iff e).mp

theorem IdInv.spawnEntity (hh : IdInv h) : IdInv (h.step .spawnEntity) := by
  have halive : ∀ e, (h.step .spawnEntity).Alive e ↔
      (h.step .spawnEntity).registry.entityExists e = true := by
    intro e
    by_cases he : e = h.registry.spawnEntity.1
    · rw [he]
      exact iff_of_true (.inl rfl) hh.fresh.spawned
    · refine (or_iff_right (Ne.symm he)).trans ((hh.alive_iff e).trans ?_)
      rw [step, Registry.entityExists_spawnEntity_of_ne he]
  obtain ⟨ids, e, hids, hspawn⟩ | ⟨hdead, hspawn⟩ := h.registry.spawnEntity_cases
  · have hnodup := hh.nodup
    rw [hids] at hnodup
    refine ⟨?_, fun e' he' => ?_, halive⟩
    · rw [step, hspawn]
      exact (List.nodup_append.mp hnodup).1
    · rw [step, hspawn] at he' ⊢
      exact hh.dead_lt e' (by rw [hids]; exact List.mem_append_left _ he')
  · refine ⟨?_, fun e' he' => ?_, halive⟩
    · rw [step, hspawn]
      exact hh.nodup
    · rw [step, hspawn] at he'
      rw [hdead] at he'
      cases he'

theorem IdInv.killEntity (hh : IdInv h) {e : Nat} (he : h.registry.entityExists e = true) :
    IdInv (h.step (.killEntity e)) := by
  obtain ⟨hlt, hdead⟩ := Registry.entityExists_iff.mp he
  refine ⟨?_, fun e' he' => ?_, fun e' => ?_⟩
  · rw [step, Registry.deadEntities_killEntity]
    exact List.nodup_append.mpr ⟨hh.nodup, List.pairwise_singleton _ e, fun e₁ h₁ e₂ h₂ heq =>
      hdead (List.mem_singleton.mp h₂ ▸ heq ▸ h₁)⟩
  · rw [step, Registry.deadEntities_killEntity] at he'
    rw [step, Registry.nextEntity_killEntity]
    rcases List.mem_append.mp he' with he' | he'
    · exact hh.dead_lt e' he'
    · rw [List.mem_singleton.mp he']
      exact hlt
  · rw [step, Registry.entityExists_killEntity, ← hh.alive_iff, and_comm]
    exact and_congr_left' ne_comm

omit [DecidableEq κ] in
/-- The operations on components leave the ids alone. -/
theorem IdInv.of_eq {h' : RegistryHistory κ} (hh : IdInv h)
    (hnext : h'.registry.nextEntity = h.registry.nextEntity)
    (hdead : h'.registry.deadEntities = h.registry.deadEntities)
    (halive : ∀ e, h'.Alive e ↔ h.Alive e) : IdInv h' where
  nodup := by
    rw [hdead]
    exact hh.nodup
  dead_lt := by
    rw [hdead, hnext]
    exact hh.dead_lt
  alive_iff := fun e => by
    rw [halive, hh.alive_iff, Registry.entityExists_iff, Registry.entityExists_iff, hdead, hnext]

theorem IdInv.step (hh : IdInv h) (hkills : h.KillsExisting op) : IdInv (h.step op) := by
  cases h.stepped op with
  | registered k hop =>
      rw [hop]
      exact hh.of_eq Registry.nextEntity_registerComponent Registry.deadEntities_registerComponent
        fun _ => Iff.rfl
  | spawned hop =>
      rw [hop]
      exact hh.spawnEntity
  | killed e hop =>
      subst hop
      exact hh.killEntity hkills
  | stored k e c hop hexists array harray heq =>
      rw [heq]
      exact hh.of_eq rfl rfl fun _ => Iff.rfl
  | removed k e hop array harray heq =>
      rw [heq]
      exact hh.of_eq rfl rfl fun _ => Iff.rfl
  | threw hop heq =>
      rw [heq]
      exact hh

/-- A killed entity that did not exist is handed out next, and does not exist then. -/
theorem not_fresh_step (hkills : ¬ h.KillsExisting op) : ¬ Fresh (h.step op) := by
  intro hfresh
  cases op with
  | killEntity e =>
      have hids : (h.step (.killEntity e)).registry.deadEntities = h.registry.deadEntities ++ [e] :=
        Registry.deadEntities_killEntity
      obtain ⟨hlt, hdead⟩ := Registry.entityExists_spawnEntity_iff.mp hfresh.spawned _ e hids
      rw [RegistryHistory.step, Registry.nextEntity_killEntity] at hlt
      exact hkills (Registry.entityExists_iff.mpr ⟨hlt, hdead⟩)
  | _ => exact hkills trivial

/-- The ids that a registry hands out are fresh along a history exactly if only
existing entities are killed. -/
theorem fresh_iff (ops : List (RegistryOp κ)) :
    Always step Fresh new ops ↔ EachStep step KillsExisting new ops :=
  always_iff_eachStep idInv_new (fun _ hh => hh.fresh) (fun _ _ hh hkills => hh.step hkills)
    fun _ _ _ hkills => not_fresh_step hkills

/-- The only entity is killed twice. -/
theorem not_fresh_killedTwice :
    ¬ Always step Fresh (new : RegistryHistory Component)
      [.spawnEntity, .killEntity 0, .killEntity 0] :=
  fun h => absurd h.final.spawned (by decide)

end RegistryHistory

end BeeRType
