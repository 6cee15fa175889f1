-- SUMMARY: The entity registry: entity ids and their reuse, component arrays, and the operations on components.
import BeeRType.Base.Fallible
import BeeRType.Base.Text
import BeeRType.Ecs.SparseArray
import Mathlib.Logic.Function.Basic

/-!
# Registry

The registry gives out entity ids, takes back those of killed entities, and
holds one sparse array per registered component type. The component types are a
parameter: a key `κ` for each type, with the type of its values and its name.
-/

open Cpp

namespace BeeRType

/-- The component types a registry is used with. -/
class ComponentKind (κ : Type) where
  /-- The type of the components of a kind. -/
  Value : κ → Type
  /-- `typeid(Component).name()`. -/
  typeName : κ → String

structure Registry (κ : Type) [ComponentKind κ] where
  nextEntity : Nat
  deadEntities : List Nat
  componentArrays : (k : κ) → Option (SparseArray (ComponentKind.Value k))
  eraseFunctions : List κ

namespace Registry

variable {κ : Type} [ComponentKind κ] [DecidableEq κ]

def new : Registry κ where
  nextEntity := 0
  deadEntities := []
  componentArrays := fun _ => none
  eraseFunctions := []

/-! ## Entities -/

/-- The entity killed last, or a fresh one. -/
def spawnEntity (r : Registry κ) : Nat × Registry κ :=
  match r.deadEntities.getLast? with
  | some id => (id, { r with deadEntities := r.deadEntities.dropLast })
  | none => (r.nextEntity, { r with nextEntity := r.nextEntity + 1 })

def entityExists (r : Registry κ) (entity : Nat) : Bool :=
  decide (entity < r.nextEntity) && !r.deadEntities.contains entity

/-! ## Components -/

/-- The array of a component type, or a fresh one at its first registration. -/
def registerComponent (r : Registry κ) (k : κ) : Registry κ :=
  match r.componentArrays k with
  | some _ => r
  | none => { r with
      componentArrays := Function.update r.componentArrays k (some .empty)
      eraseFunctions := r.eraseFunctions ++ [k] }

def getComponents (r : Registry κ) (k : κ) :
    Except StdException (SparseArray (ComponentKind.Value k)) :=
  match r.componentArrays k with
  | some array => .ok array
  | none => .error (.outOfRange
      ("get_components(): Component array not found for type " ++ ComponentKind.typeName k))

/-- Writes back an array that `get_components` has returned by reference. -/
def setComponents (r : Registry κ) (k : κ) (array : SparseArray (ComponentKind.Value k)) :
    Registry κ :=
  { r with componentArrays := Function.update r.componentArrays k (some array) }

def addComponent (r : Registry κ) (k : κ) (entity : Nat) (c : ComponentKind.Value k) :
    Except StdException (Registry κ) :=
  if r.entityExists entity then do
    let array ← r.getComponents k
    pure (r.setComponents k (array.insertAt entity c))
  else .error (.outOfRange "Entity does not exist")

/-- `emplace_component`, with the component that its arguments construct. -/
def emplaceComponent (r : Registry κ) (k : κ) (entity : Nat) (c : ComponentKind.Value k) :
    Except StdException (Registry κ) :=
  if r.entityExists entity then do
    let array ← r.getComponents k
    pure (r.setComponents k (array.emplaceAt entity c))
  else .error (.outOfRange "Entity does not exist")

def removeComponent (r : Registry κ) (k : κ) (entity : Nat) : Except StdException (Registry κ) := do
  let array ← r.getComponents k
  pure (r.setComponents k (array.erase entity))

def hasComponent (r : Registry κ) (k : κ) (entity : Nat) : Bool :=
  r.entityExists entity &&
    match r.componentArrays k with
    | some array => array.contains entity
    | none => false

/-- An erase function: `get_components` finds the array it was made for. -/
def eraseComponent (r : Registry κ) (k : κ) (e : Nat) : Registry κ :=
  match r.componentArrays k with
  | some array => r.setComponents k (array.erase e)
  | none => r

def killEntity (r : Registry κ) (e : Nat) : Registry κ :=
  let r := r.eraseFunctions.foldl (fun r k => r.eraseComponent k e) r
  { r with deadEntities := r.deadEntities ++ [e] }

/-- What `get_components<Component>()[entity]` refers to, without a check of
either. -/
def component? (r : Registry κ) (k : κ) (entity : Nat) : Option (ComponentKind.Value k) :=
  (r.componentArrays k).bind (·.get? entity)

/-- An assignment through the reference to a component. -/
def modifyComponent (r : Registry κ) (k : κ) (entity : Nat)
    (f : ComponentKind.Value k → ComponentKind.Value k) : Registry κ :=
  match r.componentArrays k with
  | some array => r.setComponents k (array.modify entity f)
  | none => r

/-- What `operator[]` does to the array of a component type, besides returning the
slot of the entity. -/
def growTo (r : Registry κ) (k : κ) (entity : Nat) : Registry κ :=
  match r.componentArrays k with
  | some array => r.setComponents k (array.reserve entity)
  | none => r

/-! ## Lemmas -/

variable {r r' : Registry κ} {k : κ} {e : Nat}

theorem component?_setComponents {array : SparseArray (ComponentKind.Value k)} :
    (r.setComponents k array).component? k e = array.get? e := by
  simp [component?, setComponents]

theorem component?_addComponent {c : ComponentKind.Value k} (h : r.addComponent k e c = .ok r') :
    r'.component? k e = some c := by
  unfold addComponent at h
  split at h
  · cases harray : r.getComponents k with
    | error err => simp [harray, bind, Except.bind] at h
    | ok array =>
        simp only [harray, bind, Except.bind, pure, Except.pure, Except.ok.injEq] at h
        subst h
        rw [component?_setComponents, SparseArray.get?_insertAt, if_pos rfl]
  · simp at h

theorem getComponents_setComponents {array : SparseArray (ComponentKind.Value k)} :
    (r.setComponents k array).getComponents k = .ok array := by
  simp [getComponents, setComponents]

/-- What a component that has been added has been written to. -/
theorem addComponent_ok {c : ComponentKind.Value k} (h : r.addComponent k e c = .ok r') :
    r.entityExists e = true ∧ ∃ array : SparseArray (ComponentKind.Value k),
      r.getComponents k = .ok array ∧ r' = r.setComponents k (array.insertAt e c) := by
  unfold addComponent at h
  split at h
  · rename_i hexists
    obtain ⟨array, harray, h⟩ := Fallible.bind_eq_ok.mp h
    exact ⟨hexists, array, harray, (Fallible.pure_eq_ok.mp h).symm⟩
  · cases h

theorem getComponents_addComponent {c : ComponentKind.Value k} (h : r.addComponent k e c = .ok r') :
    ∃ array : SparseArray (ComponentKind.Value k),
      r'.getComponents k = .ok (array.insertAt e c) := by
  obtain ⟨-, array, -, rfl⟩ := addComponent_ok h
  exact ⟨array, getComponents_setComponents⟩

/-- Adding a component writes its array only. -/
theorem addComponent_frame {α : Type} {f : Registry κ → α} {c : ComponentKind.Value k}
    (hf : ∀ (r : Registry κ) (k : κ) array, f (r.setComponents k array) = f r)
    (h : r.addComponent k e c = .ok r') : f r' = f r := by
  obtain ⟨-, array, -, rfl⟩ := addComponent_ok h
  exact hf r k _

theorem entityExists_addComponent {c : ComponentKind.Value k} (h : r.addComponent k e c = .ok r')
    {e' : Nat} : r'.entityExists e' = r.entityExists e' :=
  addComponent_frame (f := fun r => r.entityExists e') (fun _ _ _ => rfl) h

theorem eraseFunctions_addComponent {c : ComponentKind.Value k} (h : r.addComponent k e c = .ok r') :
    r'.eraseFunctions = r.eraseFunctions :=
  addComponent_frame (f := eraseFunctions) (fun _ _ _ => rfl) h

theorem component?_modifyComponent {f : ComponentKind.Value k → ComponentKind.Value k} :
    (r.modifyComponent k e f).component? k e = (r.component? k e).map f := by
  unfold modifyComponent
  cases harray : r.componentArrays k with
  | none => simp [component?, harray]
  | some array =>
      simp only [component?_setComponents, SparseArray.get?_modify, ↓reduceIte]
      simp [component?, harray]

theorem getComponents_modifyComponent {f : ComponentKind.Value k → ComponentKind.Value k}
    {array : SparseArray (ComponentKind.Value k)} (h : r.getComponents k = .ok array) :
    (r.modifyComponent k e f).getComponents k = .ok (array.modify e f) := by
  unfold getComponents at h
  split at h
  · rename_i hget
    cases h
    simp only [modifyComponent, hget]
    exact getComponents_setComponents
  · cases h

omit [DecidableEq κ] in
theorem hasComponent_iff : r.hasComponent k e = true ↔
    r.entityExists e = true ∧ (r.component? k e).isSome = true := by
  rw [hasComponent, Bool.and_eq_true]
  cases harray : r.componentArrays k with
  | none => simp [component?, harray]
  | some array => simp [component?, harray, SparseArray.contains_iff]

omit [DecidableEq κ] in
theorem component?_of_getComponents {array : SparseArray (ComponentKind.Value k)}
    (h : r.getComponents k = .ok array) : r.component? k e = array.get? e := by
  unfold getComponents at h
  split at h
  · rename_i hget
    cases h
    simp [component?, hget]
  · cases h

theorem modifyComponent_frame {α : Type} {f : Registry κ → α}
    {u : ComponentKind.Value k → ComponentKind.Value k}
    (hf : ∀ (r : Registry κ) (k : κ) array, f (r.setComponents k array) = f r) :
    f (r.modifyComponent k e u) = f r := by
  unfold modifyComponent
  split
  · exact hf r k _
  · rfl

/-- A registered component can be added to an existing entity. -/
theorem addComponent_eq_ok {c : ComponentKind.Value k} (he : r.entityExists e = true)
    {a : SparseArray (ComponentKind.Value k)} (harray : r.componentArrays k = some a) :
    r.addComponent k e c = .ok (r.setComponents k (a.insertAt e c)) := by
  simp [addComponent, he, getComponents, harray, bind, Except.bind, pure, Except.pure]

/-! ## Other slots -/

section Frame

variable {k' : κ} {e' : Nat}

theorem component?_setComponents_of_ne (h : k' ≠ k) {array : SparseArray (ComponentKind.Value k)} :
    (r.setComponents k array).component? k' e' = r.component? k' e' := by
  simp [component?, setComponents, Function.update_of_ne h]

/-- Writing an array back leaves the slots alone that are the same in it. -/
theorem component?_setComponents_of_eq {array : SparseArray (ComponentKind.Value k)}
    (h : ∀ heq : k' = k, (heq ▸ array).get? e' = r.component? k' e') :
    (r.setComponents k array).component? k' e' = r.component? k' e' := by
  by_cases hk : k' = k
  · subst hk
    rw [component?_setComponents]
    exact h rfl
  · exact component?_setComponents_of_ne hk

theorem component?_registerComponent :
    (r.registerComponent k).component? k' e' = r.component? k' e' := by
  unfold registerComponent
  split
  · rfl
  · rename_i hnone
    by_cases hk : k' = k
    · subst hk
      simp [component?, hnone, SparseArray.get?, SparseArray.empty]
    · simp [component?, Function.update_of_ne hk]

theorem component?_eraseComponent_of_ne (h : e' ≠ e) :
    (r.eraseComponent k e).component? k' e' = r.component? k' e' := by
  unfold eraseComponent
  split
  · rename_i array harray
    refine component?_setComponents_of_eq fun heq => ?_
    subst heq
    rw [SparseArray.get?_erase, if_neg h]
    simp [component?, harray]
  · rfl

theorem component?_modifyComponent_of_ne {f : ComponentKind.Value k → ComponentKind.Value k}
    (h : k' ≠ k ∨ e' ≠ e) : (r.modifyComponent k e f).component? k' e' = r.component? k' e' := by
  unfold modifyComponent
  split
  · rename_i array harray
    refine component?_setComponents_of_eq fun heq => ?_
    subst heq
    rw [SparseArray.get?_modify, if_neg (h.resolve_left fun hne => hne rfl)]
    simp [component?, harray]
  · rfl

/-- A slot that has been grown into is empty. -/
theorem component?_growTo : (r.growTo k e).component? k' e' = r.component? k' e' := by
  unfold growTo
  split
  · rename_i array harray
    refine component?_setComponents_of_eq fun heq => ?_
    subst heq
    rw [SparseArray.get?_reserve]
    simp [component?, harray]
  · rfl

theorem growTo_frame {α : Type} {f : Registry κ → α}
    (hf : ∀ (r : Registry κ) (k : κ) array, f (r.setComponents k array) = f r) :
    f (r.growTo k e) = f r := by
  unfold growTo
  split
  · exact hf r k _
  · rfl

end Frame

/-! ## Killing -/

theorem eraseComponent_frame {α : Type} {f : Registry κ → α}
    (hf : ∀ (r : Registry κ) (k : κ) array, f (r.setComponents k array) = f r) :
    f (r.eraseComponent k e) = f r := by
  unfold eraseComponent
  split
  · exact hf r k _
  · rfl

/-- The erase functions touch the arrays only. -/
theorem eraseFunctions_frame {α : Type} {f : Registry κ → α} {ks : List κ}
    (hf : ∀ (r : Registry κ) (k : κ) array, f (r.setComponents k array) = f r) :
    f (ks.foldl (fun r k => r.eraseComponent k e) r) = f r := by
  induction ks generalizing r with
  | nil => rfl
  | cons k ks ih => exact ih.trans (eraseComponent_frame hf)

theorem nextEntity_killEntity : (r.killEntity e).nextEntity = r.nextEntity :=
  eraseFunctions_frame (f := nextEntity) fun _ _ _ => rfl

theorem deadEntities_killEntity : (r.killEntity e).deadEntities = r.deadEntities ++ [e] :=
  congrArg (· ++ [e]) (eraseFunctions_frame (f := deadEntities) fun _ _ _ => rfl)

theorem eraseFunctions_killEntity : (r.killEntity e).eraseFunctions = r.eraseFunctions :=
  eraseFunctions_frame (f := eraseFunctions) fun _ _ _ => rfl

theorem component?_eraseComponent_self : (r.eraseComponent k e).component? k e = none := by
  unfold eraseComponent
  split
  · rw [component?_setComponents, SparseArray.get?_erase, if_pos rfl]
  · rename_i hnone
    simp [component?, hnone]

theorem component?_eraseComponent {k' : κ} (h : r.component? k e = none) :
    (r.eraseComponent k' e).component? k e = none := by
  by_cases hk : k' = k
  · subst hk
    exact component?_eraseComponent_self
  · unfold eraseComponent
    split
    · simpa [component?, setComponents, Function.update_of_ne (Ne.symm hk)] using h
    · exact h

/-- A killed entity has no component left of a type that the registry erases, and none
of a type that it had none of. -/
theorem component?_killEntity_eq_none (h : k ∈ r.eraseFunctions ∨ r.component? k e = none) :
    (r.killEntity e).component? k e = none := by
  have herase (ks : List κ) (r : Registry κ) (h : k ∈ ks ∨ r.component? k e = none) :
      (ks.foldl (fun r k => r.eraseComponent k e) r).component? k e = none := by
    induction ks generalizing r with
    | nil => exact h.resolve_left List.not_mem_nil
    | cons first rest ih =>
        refine ih _ ?_
        rcases h with h | h
        · rcases List.mem_cons.mp h with rfl | hrest
          · exact .inr component?_eraseComponent_self
          · exact .inl hrest
        · exact .inr (component?_eraseComponent h)
  exact herase r.eraseFunctions r h

theorem component?_killEntity (h : k ∈ r.eraseFunctions) : (r.killEntity e).component? k e = none :=
  component?_killEntity_eq_none (.inl h)

theorem component?_killEntity_of_ne {e' : Nat} (h : e' ≠ e) :
    (r.killEntity e).component? k e' = r.component? k e' := by
  have herase (ks : List κ) (r : Registry κ) :
      (ks.foldl (fun r k => r.eraseComponent k e) r).component? k e' = r.component? k e' := by
    induction ks generalizing r with
    | nil => rfl
    | cons first rest ih => exact (ih _).trans (component?_eraseComponent_of_ne h)
  exact herase r.eraseFunctions r

/-! ## Registered types -/

def IsRegistered (r : Registry κ) (k : κ) : Prop := (r.componentArrays k).isSome = true

theorem isRegistered_registerComponent {k' : κ} :
    (r.registerComponent k).IsRegistered k' ↔ k' = k ∨ r.IsRegistered k' := by
  unfold registerComponent IsRegistered
  split
  · rename_i harray
    refine (or_iff_right_of_imp ?_).symm
    rintro rfl
    rw [harray]
    rfl
  · by_cases hk : k' = k
    · subst hk
      simp
    · simp [hk]

theorem mem_eraseFunctions_registerComponent {k' : κ} (h : ¬ r.IsRegistered k) :
    k' ∈ (r.registerComponent k).eraseFunctions ↔ k' ∈ r.eraseFunctions ∨ k' = k := by
  have hnone : r.componentArrays k = none := by simpa [IsRegistered] using h
  simp only [registerComponent, hnone, List.mem_append, List.mem_singleton]

theorem registerComponent_of_isRegistered (h : r.IsRegistered k) : r.registerComponent k = r := by
  obtain ⟨array, harray⟩ := Option.isSome_iff_exists.mp h
  simp only [registerComponent, harray]

omit [DecidableEq κ] in
theorem isRegistered_of_eq_some {array : SparseArray (ComponentKind.Value k)}
    (h : r.componentArrays k = some array) : r.IsRegistered k :=
  Option.isSome_iff_exists.mpr ⟨array, h⟩

omit [DecidableEq κ] in
theorem isRegistered_of_getComponents {array : SparseArray (ComponentKind.Value k)}
    (h : r.getComponents k = .ok array) : r.IsRegistered k := by
  unfold getComponents at h
  split at h
  · rename_i harray
    exact isRegistered_of_eq_some harray
  · cases h

omit [DecidableEq κ] in
theorem getComponents_of_isRegistered (h : r.IsRegistered k) :
    ∃ array, r.getComponents k = .ok array := by
  obtain ⟨array, harray⟩ := Option.isSome_iff_exists.mp h
  exact ⟨array, by simp only [getComponents, harray]⟩

omit [DecidableEq κ] in
/-- A component is in a slot of its array. -/
theorem lt_size_of_component {array : SparseArray (ComponentKind.Value k)}
    (harray : r.getComponents k = .ok array) (h : (r.component? k e).isSome = true) :
    e < array.size := by
  rw [component?_of_getComponents harray] at h
  exact of_decide_eq_true (Bool.and_eq_true_iff.mp (SparseArray.contains_iff.mpr h)).1

theorem isRegistered_setComponents {k' : κ} {array : SparseArray (ComponentKind.Value k)}
    (h : r.IsRegistered k) : (r.setComponents k array).IsRegistered k' ↔ r.IsRegistered k' := by
  unfold setComponents IsRegistered
  by_cases hk : k' = k
  · subst hk
    simpa [IsRegistered] using h
  · simp [Function.update_of_ne hk]

theorem isRegistered_eraseComponent {k' : κ} :
    (r.eraseComponent k e).IsRegistered k' ↔ r.IsRegistered k' := by
  unfold eraseComponent
  split
  · rename_i harray
    exact isRegistered_setComponents (isRegistered_of_eq_some harray)
  · exact Iff.rfl

theorem isRegistered_modifyComponent {k' : κ} {f : ComponentKind.Value k → ComponentKind.Value k} :
    (r.modifyComponent k e f).IsRegistered k' ↔ r.IsRegistered k' := by
  unfold modifyComponent
  split
  · rename_i harray
    exact isRegistered_setComponents (isRegistered_of_eq_some harray)
  · exact Iff.rfl

theorem isRegistered_growTo {k' : κ} : (r.growTo k e).IsRegistered k' ↔ r.IsRegistered k' := by
  unfold growTo
  split
  · rename_i harray
    exact isRegistered_setComponents (isRegistered_of_eq_some harray)
  · exact Iff.rfl

theorem isRegistered_killEntity {k' : κ} :
    (r.killEntity e).IsRegistered k' ↔ r.IsRegistered k' := by
  have herase (ks : List κ) (r : Registry κ) :
      (ks.foldl (fun r k => r.eraseComponent k e) r).IsRegistered k' ↔ r.IsRegistered k' := by
    induction ks generalizing r with
    | nil => exact Iff.rfl
    | cons first rest ih => exact (ih _).trans isRegistered_eraseComponent
  exact herase r.eraseFunctions r

omit [DecidableEq κ] in
theorem component?_of_not_isRegistered (h : ¬ r.IsRegistered k) : r.component? k e = none := by
  have hnone : r.componentArrays k = none := by simpa [IsRegistered] using h
  simp only [component?, hnone, Option.bind_none]

/-! ## Ids -/

theorem nextEntity_registerComponent : (r.registerComponent k).nextEntity = r.nextEntity := by
  unfold registerComponent
  split <;> rfl

theorem deadEntities_registerComponent :
    (r.registerComponent k).deadEntities = r.deadEntities := by
  unfold registerComponent
  split <;> rfl

theorem entityExists_registerComponent {e : Nat} :
    (r.registerComponent k).entityExists e = r.entityExists e := by
  rw [entityExists, nextEntity_registerComponent, deadEntities_registerComponent]
  rfl

section Ids

omit [DecidableEq κ]

theorem entityExists_iff :
    r.entityExists e = true ↔ e < r.nextEntity ∧ e ∉ r.deadEntities := by
  simp [entityExists]

/-- The two ways in which an id is given out. -/
theorem spawnEntity_cases (r : Registry κ) :
    (∃ ids e, r.deadEntities = ids ++ [e] ∧ r.spawnEntity = (e, { r with deadEntities := ids })) ∨
      r.deadEntities = [] ∧
        r.spawnEntity = (r.nextEntity, { r with nextEntity := r.nextEntity + 1 }) := by
  unfold spawnEntity
  cases hlast : r.deadEntities.getLast? with
  | none => exact .inr ⟨List.getLast?_eq_none_iff.mp hlast, rfl⟩
  | some e =>
      obtain ⟨ids, hids⟩ := List.getLast?_eq_some_iff.mp hlast
      refine .inl ⟨ids, e, hids, ?_⟩
      simp only [hids, List.dropLast_concat]

/-- An id that is handed out did not exist. -/
theorem entityExists_spawned (r : Registry κ) : r.entityExists r.spawnEntity.1 = false := by
  rw [← Bool.not_eq_true, entityExists_iff, not_and, not_not]
  obtain ⟨ids, e, hids, hspawn⟩ | ⟨-, hspawn⟩ := r.spawnEntity_cases
  · rw [hspawn, hids]
    exact fun _ => List.mem_concat_self
  · rw [hspawn]
    exact fun hlt => absurd hlt (Nat.lt_irrefl _)

theorem entityExists_spawnEntity_of_ne (h : e ≠ r.spawnEntity.1) :
    r.spawnEntity.2.entityExists e = r.entityExists e := by
  rw [Bool.eq_iff_iff, entityExists_iff, entityExists_iff]
  obtain ⟨ids, e', hids, hspawn⟩ | ⟨hdead, hspawn⟩ := r.spawnEntity_cases
  · rw [hspawn] at h ⊢
    simp [hids, h]
  · rw [hspawn] at h ⊢
    have hne : e ≠ r.nextEntity := h
    simp only [hdead, List.not_mem_nil, not_false_eq_true, and_true]
    omega

/-- An id that is handed out exists then, unless it was no id of a dead entity or waits
for its reuse a second time. -/
theorem entityExists_spawnEntity_iff :
    r.spawnEntity.2.entityExists r.spawnEntity.1 = true ↔
      ∀ ids e, r.deadEntities = ids ++ [e] → e < r.nextEntity ∧ e ∉ ids := by
  rw [entityExists_iff]
  obtain ⟨ids, e, hids, hspawn⟩ | ⟨hdead, hspawn⟩ := r.spawnEntity_cases
  · rw [hspawn, hids]
    refine ⟨fun hexists ids' e' heq => ?_, fun hall => hall ids e rfl⟩
    obtain ⟨rfl, hlast⟩ := List.append_inj' heq rfl
    cases hlast
    exact hexists
  · rw [hspawn]
    simp [hdead]

end Ids

/-- A kill ends the existence of one entity. -/
theorem entityExists_killEntity {e' : Nat} :
    (r.killEntity e).entityExists e' = true ↔ r.entityExists e' = true ∧ e' ≠ e := by
  rw [entityExists_iff, entityExists_iff, nextEntity_killEntity, deadEntities_killEntity,
    List.mem_append, List.mem_singleton, not_or, and_assoc]

end Registry

end BeeRType
