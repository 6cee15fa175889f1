-- SUMMARY: The registry as a store of components: what it holds is what its operations have stored last.
import BeeRType.Ecs.Operations

/-!
# The component store

What a registry is for: a map from component types and entities to components. An
entity loses its components when it is killed and starts without any when it is
spawned; in between, the last operation on a component counts.
-/

open Cpp Transition

namespace BeeRType

variable {κ : Type} [ComponentKind κ] [DecidableEq κ]

/-- The component of an entity, read off what has been done to a registry. -/
def contentsIn (k : κ) (e : Nat) : List (RegistryEvent κ) → Option (ComponentKind.Value k)
  | [] => none
  | .spawned e' :: log | .killed e' :: log => if e' = e then none else contentsIn k e log
  | .stored k' e' c :: log =>
    if h : k' = k ∧ e' = e then some (h.1 ▸ c) else contentsIn k e log
  | .removed k' e' :: log => if k' = k ∧ e' = e then none else contentsIn k e log

/-- The component that an operation is about; a kill is about all components of its
entity. -/
def RegistryOp.Touches (k : κ) (e : Nat) : RegistryOp κ → Prop
  | .killEntity e' => e' = e
  | .addComponent k' e' _ | .emplaceComponent k' e' _ | .removeComponent k' e' => k' = k ∧ e' = e
  | .registerComponent _ | .spawnEntity => False

namespace Registry

variable {r : Registry κ} {k : κ} {e : Nat}

/-! ## Slots -/

omit [DecidableEq κ] in
theorem component?_spawnEntity : r.spawnEntity.2.component? k e = r.component? k e := by
  unfold spawnEntity
  split <;> rfl

/-- A slot after a write to its array. -/
theorem component?_written {k' : κ} {e' : Nat}
    {array array' : SparseArray (ComponentKind.Value k')} {v : Option (ComponentKind.Value k')}
    (harray : r.getComponents k' = .ok array)
    (hwrite : ∀ idx, array'.get? idx = if idx = e' then v else array.get? idx) :
    (r.setComponents k' array').component? k e =
      if heq : k' = k ∧ e' = e then heq.1 ▸ v else r.component? k e := by
  by_cases hk : k' = k
  · subst hk
    rw [component?_setComponents, hwrite, component?_of_getComponents harray]
    by_cases he : e = e'
    · simp [he]
    · simp [he, Ne.symm he]
  · rw [component?_setComponents_of_ne (Ne.symm hk), dif_neg (fun heq => hk heq.1)]

theorem component?_insertAt {array : SparseArray (ComponentKind.Value k)}
    (harray : r.getComponents k = .ok array) (c : ComponentKind.Value k) (k' : κ) (e' : Nat) :
    (r.setComponents k (array.insertAt e c)).component? k' e' =
      if heq : k = k' ∧ e = e' then heq.1 ▸ some c else r.component? k' e' :=
  component?_written harray fun _ => SparseArray.get?_insertAt

theorem component?_erase {array : SparseArray (ComponentKind.Value k)}
    (harray : r.getComponents k = .ok array) (k' : κ) (e' : Nat) :
    (r.setComponents k (array.erase e)).component? k' e' =
      if k = k' ∧ e = e' then none else r.component? k' e' := by
  rw [component?_written harray fun _ => SparseArray.get?_erase]
  by_cases heq : k = k' ∧ e = e'
  · obtain ⟨rfl, rfl⟩ := heq
    rw [dif_pos ⟨rfl, rfl⟩, if_pos ⟨rfl, rfl⟩]
  · rw [dif_neg heq, if_neg heq]

/-! ## Sane registries -/

/-- A kill erases every type that is registered. -/
def ErasesAll (r : Registry κ) : Prop := ∀ k, r.IsRegistered k → k ∈ r.eraseFunctions

omit [DecidableEq κ] in
theorem erasesAll_new : ErasesAll (new : Registry κ) := fun k hk => by cases hk

theorem ErasesAll.registerComponent (hr : r.ErasesAll) : (r.registerComponent k).ErasesAll := by
  intro k' hk'
  by_cases hk : r.IsRegistered k
  · rw [registerComponent_of_isRegistered hk] at hk' ⊢
    exact hr k' hk'
  · refine (mem_eraseFunctions_registerComponent hk).mpr ?_
    exact (isRegistered_registerComponent.mp hk').symm.imp_left (hr k')

omit [DecidableEq κ] in
theorem ErasesAll.spawnEntity (hr : r.ErasesAll) : r.spawnEntity.2.ErasesAll := by
  intro k hk
  obtain ⟨ids, e, -, hspawn⟩ | ⟨-, hspawn⟩ := r.spawnEntity_cases <;>
    rw [hspawn] at hk ⊢ <;> exact hr k hk

theorem ErasesAll.killEntity (hr : r.ErasesAll) : (r.killEntity e).ErasesAll := by
  intro k hk
  rw [eraseFunctions_killEntity]
  exact hr k (isRegistered_killEntity.mp hk)

/-- What is written through a reference does not register a type. -/
theorem ErasesAll.setComponents (hr : r.ErasesAll) {old array : SparseArray (ComponentKind.Value k)}
    (hold : r.getComponents k = .ok old) : (r.setComponents k array).ErasesAll := fun k' hk' =>
  hr k' ((isRegistered_setComponents (isRegistered_of_getComponents hold)).mp hk')

theorem ErasesAll.growTo (hr : r.ErasesAll) : (r.growTo k e).ErasesAll := fun k' hk' => by
  rw [growTo_frame (f := eraseFunctions) fun _ _ _ => rfl]
  exact hr k' (isRegistered_growTo.mp hk')

theorem ErasesAll.modifyComponent (hr : r.ErasesAll)
    {f : ComponentKind.Value k → ComponentKind.Value k} : (r.modifyComponent k e f).ErasesAll :=
  fun k' hk' => by
    rw [modifyComponent_frame (f := eraseFunctions) fun _ _ _ => rfl]
    exact hr k' (isRegistered_modifyComponent.mp hk')

/-- A killed entity has no component left. -/
theorem ErasesAll.component?_killEntity (hr : r.ErasesAll) :
    (r.killEntity e).component? k e = none := by
  refine component?_killEntity_eq_none ?_
  by_cases hk : r.IsRegistered k
  · exact .inl (hr k hk)
  · exact .inr (component?_of_not_isRegistered hk)

/-- What every operation keeps: a registered type is erased by a kill, and what does
not exist has no component. -/
structure Sane (r : Registry κ) : Prop where
  erased : r.ErasesAll
  vacant : ∀ k e, r.entityExists e = false → r.component? k e = none

omit [DecidableEq κ] in
theorem sane_new : Sane (new : Registry κ) := ⟨erasesAll_new, fun _ _ _ => rfl⟩

omit [DecidableEq κ] in
/-- An entity with a component exists. -/
theorem Sane.entityExists (hr : r.Sane) (h : (r.component? k e).isSome = true) :
    r.entityExists e = true := by
  by_contra hexists
  rw [hr.vacant k e (Bool.not_eq_true _ ▸ hexists)] at h
  cases h

theorem Sane.registerComponent (hr : r.Sane) : (r.registerComponent k).Sane := by
  refine ⟨hr.erased.registerComponent, fun k' e he => ?_⟩
  rw [component?_registerComponent]
  refine hr.vacant k' e ?_
  rwa [entityExists_registerComponent] at he

omit [DecidableEq κ] in
theorem Sane.spawnEntity (hr : r.Sane) : r.spawnEntity.2.Sane := by
  refine ⟨hr.erased.spawnEntity, fun k e he => ?_⟩
  rw [component?_spawnEntity]
  by_cases hid : e = r.spawnEntity.1
  · rw [hid]
    exact hr.vacant k _ r.entityExists_spawned
  · rw [entityExists_spawnEntity_of_ne hid] at he
    exact hr.vacant k e he

theorem Sane.killEntity (hr : r.Sane) : (r.killEntity e).Sane := by
  refine ⟨hr.erased.killEntity, fun k e' he' => ?_⟩
  by_cases he : e' = e
  · rw [he]
    exact hr.erased.component?_killEntity
  · refine (component?_killEntity_of_ne he).trans (hr.vacant k e' ?_)
    rw [← Bool.not_eq_true] at he' ⊢
    exact fun hexists => he' (entityExists_killEntity.mpr ⟨hexists, he⟩)

theorem Sane.insertAt (hr : r.Sane) {array : SparseArray (ComponentKind.Value k)}
    {c : ComponentKind.Value k} (hexists : r.entityExists e = true)
    (harray : r.getComponents k = .ok array) : (r.setComponents k (array.insertAt e c)).Sane := by
  refine ⟨hr.erased.setComponents harray, fun k' e' he' => ?_⟩
  have hother : ¬ (k = k' ∧ e = e') := by
    rintro ⟨-, rfl⟩
    rw [show (r.setComponents k _).entityExists e = r.entityExists e from rfl, hexists] at he'
    cases he'
  rw [component?_insertAt harray, dif_neg hother]
  exact hr.vacant k' e' he'

theorem Sane.erase (hr : r.Sane) {array : SparseArray (ComponentKind.Value k)}
    (harray : r.getComponents k = .ok array) : (r.setComponents k (array.erase e)).Sane := by
  refine ⟨hr.erased.setComponents harray, fun k' e' he' => ?_⟩
  rw [component?_erase harray]
  split
  · rfl
  · exact hr.vacant k' e' he'

end Registry

namespace RegistryHistory

def contents (h : RegistryHistory κ) (k : κ) (e : Nat) : Option (ComponentKind.Value k) :=
  contentsIn k e h.log

/-- The registry is the store that the history describes. -/
structure Faithful (h : RegistryHistory κ) : Prop where
  /-- A component is there if its entity exists and it has been stored last. -/
  holds_iff : ∀ k e v, h.registry.IsRegistered k →
    (h.registry.hasComponent k e = true ∧ h.registry.component? k e = some v ↔
      h.registry.entityExists e = true ∧ h.contents k e = some v)
  /-- The other components are as before. -/
  untouched : ∀ op k e, ¬ op.Touches k e →
    (h.step op).registry.hasComponent k e = h.registry.hasComponent k e ∧
      (h.step op).registry.component? k e = h.registry.component? k e
  /-- A spawned entity has no component. -/
  spawned : ∀ k, h.registry.spawnEntity.2.hasComponent k h.registry.spawnEntity.1 = false ∧
    h.registry.spawnEntity.2.component? k h.registry.spawnEntity.1 = none
  /-- Adding a component throws if the entity does not exist or the type is not
  registered, and then leaves the registry as it is. -/
  throws : ∀ k e c,
    (∃ exception r, (Registry.addComponentM k e c).run h.registry = .error exception r ∨
      (Registry.emplaceComponentM k e c).run h.registry = .error exception r) ↔
    h.registry.entityExists e = false ∨ ¬ h.registry.IsRegistered k
  unchanged : ∀ k e c exception r,
    (Registry.addComponentM k e c).run h.registry = .error exception r ∨
    (Registry.emplaceComponentM k e c).run h.registry = .error exception r → r = h.registry

/-- Every registered type is erased by a kill, what does not exist has no component, and
the slots are filled as the history says. -/
structure StoreInv (h : RegistryHistory κ) : Prop where
  erased : ∀ k, h.registry.IsRegistered k → k ∈ h.registry.eraseFunctions
  vacant : ∀ k e, h.registry.entityExists e = false → h.registry.component? k e = none
  contents : ∀ k e, h.registry.component? k e = h.contents k e

variable {h : RegistryHistory κ} {op : RegistryOp κ} {k : κ} {e : Nat}

/-! ## One step -/

theorem StoreInv.sane (hh : StoreInv h) : h.registry.Sane := ⟨hh.erased, hh.vacant⟩

theorem storeInv_of_sane (hr : h.registry.Sane)
    (hcontents : ∀ k e, h.registry.component? k e = h.contents k e) : StoreInv h :=
  ⟨hr.erased, hr.vacant, hcontents⟩

theorem storeInv_new : StoreInv (new : RegistryHistory κ) :=
  storeInv_of_sane Registry.sane_new fun _ _ => rfl

theorem StoreInv.registerComponent (hh : StoreInv h) : StoreInv (h.step (.registerComponent k)) :=
  storeInv_of_sane hh.sane.registerComponent fun k' e =>
    Registry.component?_registerComponent.trans (hh.contents k' e)

theorem StoreInv.spawnEntity (hh : StoreInv h) : StoreInv (h.step .spawnEntity) := by
  refine storeInv_of_sane hh.sane.spawnEntity fun k e => ?_
  rw [step, Registry.component?_spawnEntity, RegistryHistory.contents, contentsIn]
  split
  · rename_i hid
    rw [← hid]
    exact hh.vacant k _ (Registry.entityExists_spawned h.registry)
  · exact hh.contents k e

theorem StoreInv.killEntity (hh : StoreInv h) : StoreInv (h.step (.killEntity e)) := by
  refine storeInv_of_sane hh.sane.killEntity fun k e' => ?_
  rw [RegistryHistory.contents, step, contentsIn]
  split
  · rename_i he
    rw [← he]
    exact hh.sane.erased.component?_killEntity
  · rename_i he
    exact (Registry.component?_killEntity_of_ne (Ne.symm he)).trans (hh.contents k e')

theorem StoreInv.stored (hh : StoreInv h) {array : SparseArray (ComponentKind.Value k)}
    {c : ComponentKind.Value k} (hexists : h.registry.entityExists e = true)
    (harray : h.registry.getComponents k = .ok array) :
    StoreInv ⟨h.registry.setComponents k (array.insertAt e c), .stored k e c :: h.log⟩ := by
  refine storeInv_of_sane (hh.sane.insertAt hexists harray) fun k' e' => ?_
  rw [Registry.component?_insertAt harray, RegistryHistory.contents, contentsIn]
  split
  · rename_i heq
    obtain ⟨rfl, rfl⟩ := heq
    rfl
  · exact hh.contents k' e'

theorem StoreInv.removed (hh : StoreInv h) {array : SparseArray (ComponentKind.Value k)}
    (harray : h.registry.getComponents k = .ok array) :
    StoreInv ⟨h.registry.setComponents k (array.erase e), .removed k e :: h.log⟩ := by
  refine storeInv_of_sane (hh.sane.erase harray) fun k' e' => ?_
  rw [Registry.component?_erase harray, RegistryHistory.contents, contentsIn, hh.contents]
  rfl

theorem StoreInv.step (hh : StoreInv h) : StoreInv (h.step op) := by
  cases h.stepped op with
  | registered k hop =>
      rw [hop]
      exact hh.registerComponent
  | spawned hop =>
      rw [hop]
      exact hh.spawnEntity
  | killed e hop =>
      rw [hop]
      exact hh.killEntity
  | stored k e c hop hexists array harray heq =>
      rw [heq]
      exact hh.stored hexists harray
  | removed k e hop array harray heq =>
      rw [heq]
      exact hh.removed harray
  | threw hop heq =>
      rw [heq]
      exact hh

/-! ## Registries along a history -/

theorem sane_step (hr : h.registry.Sane) : (h.step op).registry.Sane := by
  cases h.stepped op with
  | registered k hop =>
      rw [hop]
      exact hr.registerComponent
  | spawned hop =>
      rw [hop]
      exact hr.spawnEntity
  | killed e hop =>
      rw [hop]
      exact hr.killEntity
  | stored k e c hop hexists array harray heq =>
      rw [heq]
      exact hr.insertAt hexists harray
  | removed k e hop array harray heq =>
      rw [heq]
      exact hr.erase harray
  | threw hop heq =>
      rw [heq]
      exact hr

/-- What exists after an operation existed before, or has been handed out by it. -/
theorem entityExists_step (hexists : (h.step op).registry.entityExists e = true) :
    h.registry.entityExists e = true ∨ op = .spawnEntity ∧ e = h.registry.spawnEntity.1 := by
  cases h.stepped op with
  | registered k hop =>
      rw [hop, step, Registry.entityExists_registerComponent] at hexists
      exact .inl hexists
  | spawned hop =>
      by_cases he : e = h.registry.spawnEntity.1
      · exact .inr ⟨hop, he⟩
      · rw [hop, step, Registry.entityExists_spawnEntity_of_ne he] at hexists
        exact .inl hexists
  | killed e' hop =>
      rw [hop, step] at hexists
      exact .inl (Registry.entityExists_killEntity.mp hexists).1
  | stored k e' c hop _ array harray heq =>
      rw [heq] at hexists
      exact .inl hexists
  | removed k e' hop array harray heq =>
      rw [heq] at hexists
      exact .inl hexists
  | threw hop heq =>
      rw [heq] at hexists
      exact .inl hexists

/-! ## What the invariant gives -/

omit [DecidableEq κ] in
theorem hasComponent_congr {r r' : Registry κ} {e : Nat}
    (hexists : r'.entityExists e = r.entityExists e) (hslot : r'.component? k e = r.component? k e) :
    r'.hasComponent k e = r.hasComponent k e ∧ r'.component? k e = r.component? k e := by
  refine ⟨?_, hslot⟩
  rw [Bool.eq_iff_iff, Registry.hasComponent_iff, Registry.hasComponent_iff, hexists, hslot]

theorem StoreInv.spawned (hh : StoreInv h) (k : κ) :
    h.registry.spawnEntity.2.hasComponent k h.registry.spawnEntity.1 = false ∧
      h.registry.spawnEntity.2.component? k h.registry.spawnEntity.1 = none := by
  have hslot : h.registry.spawnEntity.2.component? k h.registry.spawnEntity.1 = none :=
    Registry.component?_spawnEntity.trans (hh.vacant k _ (Registry.entityExists_spawned h.registry))
  refine ⟨?_, hslot⟩
  rw [← Bool.not_eq_true, Registry.hasComponent_iff, hslot]
  simp

theorem StoreInv.untouched (hh : StoreInv h) (hop : ¬ op.Touches k e) :
    (h.step op).registry.hasComponent k e = h.registry.hasComponent k e ∧
      (h.step op).registry.component? k e = h.registry.component? k e := by
  cases h.stepped op with
  | registered k' heq =>
      subst heq
      exact hasComponent_congr Registry.entityExists_registerComponent
        Registry.component?_registerComponent
  | spawned heq =>
      subst heq
      by_cases hid : e = h.registry.spawnEntity.1
      · subst hid
        refine ⟨(hh.spawned k).1.trans ?_, Registry.component?_spawnEntity⟩
        rw [Registry.hasComponent, Registry.entityExists_spawned, Bool.false_and]
      · exact hasComponent_congr (Registry.entityExists_spawnEntity_of_ne hid) Registry.component?_spawnEntity
  | killed e' heq =>
      subst heq
      have hne : e ≠ e' := Ne.symm hop
      refine hasComponent_congr ?_ (Registry.component?_killEntity_of_ne hne)
      rw [Bool.eq_iff_iff, RegistryHistory.step, Registry.entityExists_killEntity, and_iff_left hne]
  | stored k' e' c heq hexists array harray hstep =>
      have hne : ¬ (k' = k ∧ e' = e) := by rcases heq with rfl | rfl <;> exact hop
      rw [hstep]
      refine hasComponent_congr rfl ?_
      rw [Registry.component?_insertAt harray, dif_neg hne]
  | removed k' e' heq array harray hstep =>
      subst heq
      rw [hstep]
      refine hasComponent_congr rfl ?_
      exact (Registry.component?_erase harray k e).trans (if_neg hop)
  | threw _ heq =>
      rw [heq]
      exact ⟨rfl, rfl⟩

theorem StoreInv.holds_iff (hh : StoreInv h) (v : ComponentKind.Value k) :
    (h.registry.hasComponent k e = true ∧ h.registry.component? k e = some v ↔
      h.registry.entityExists e = true ∧ h.contents k e = some v) := by
  rw [Registry.hasComponent_iff, hh.contents]
  constructor
  · rintro ⟨⟨hexists, -⟩, hv⟩
    exact ⟨hexists, hv⟩
  · rintro ⟨hexists, hv⟩
    exact ⟨⟨hexists, by rw [hv]; rfl⟩, hv⟩

/-! ## Exceptions -/

omit [DecidableEq κ] in
theorem outcome_eq_error {r r' : Registry κ} {result : Except StdException (Registry κ)}
    {exception : StdException} :
    Registry.outcome r result = .error exception r' ↔ result = .error exception ∧ r' = r := by
  cases result with
  | ok _ => simp [Registry.outcome]
  | error _ => simp [Registry.outcome, eq_comm]

/-- `emplace_component` comes to what `add_component` comes to. -/
theorem add_or_emplace {r r' : Registry κ} {c : ComponentKind.Value k} {exception : StdException} :
    (Registry.addComponentM k e c).run r = .error exception r' ∨
        (Registry.emplaceComponentM k e c).run r = .error exception r' ↔
      r.addComponent k e c = .error exception ∧ r' = r := by
  rw [Registry.addComponentM_run, Registry.emplaceComponentM_run, outcome_eq_error, outcome_eq_error]
  exact or_self_iff

theorem exists_addComponent_error {r : Registry κ} {c : ComponentKind.Value k} :
    (∃ exception, r.addComponent k e c = .error exception) ↔
      r.entityExists e = false ∨ ¬ r.IsRegistered k := by
  cases hexists : r.entityExists e with
  | false => simp [Registry.addComponent, hexists]
  | true =>
      cases harray : r.componentArrays k with
      | none =>
          have hthrows : r.addComponent k e c = .error (.outOfRange
              ("get_components(): Component array not found for type " ++
                ComponentKind.typeName k)) := by
            simp only [Registry.addComponent, hexists, if_true, Registry.getComponents, harray]
            rfl
          simp [hthrows, Registry.IsRegistered, harray]
      | some array =>
          simp [Registry.addComponent_eq_ok hexists harray, Registry.IsRegistered, harray]

/-! ## Histories -/

theorem StoreInv.faithful (hh : StoreInv h) : Faithful h where
  holds_iff := fun _ _ v _ => hh.holds_iff v
  untouched := fun _ _ _ hop => hh.untouched hop
  spawned := hh.spawned
  throws := by
    intro k e c
    rw [← exists_addComponent_error (c := c)]
    simp only [add_or_emplace, exists_and_left, exists_eq, and_true]
  unchanged := fun _ _ _ _ _ hthrows => (add_or_emplace.mp hthrows).2

/-- After every sequence of its operations, the registry is a faithful store of
components. -/
theorem registry_faithful (ops : List (RegistryOp κ)) : Faithful (run step new ops) :=
  (always_of_step storeInv_new fun _ _ hh => hh.step).final.faithful

end RegistryHistory

end BeeRType
