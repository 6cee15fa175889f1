-- SUMMARY: How far the ids and the component arrays of a registry grow.
import BeeRType.Base.Recycling
import BeeRType.Ecs.Operations

/-!
# Reuse of entities

The id of a killed entity is handed out again before a new one is made, the one killed
last first. As long as only existing entities are killed, the ids, and with them the
arrays, need no more room than the largest number of entities alive at once.
-/

open Cpp Transition Recycling

namespace BeeRType

namespace SparseArray

variable {α : Type} {a : SparseArray α} {pos n : Nat}

theorem size_insertAt_le {c : α} (ha : a.size ≤ n) (hpos : pos < n) :
    (a.insertAt pos c).size ≤ n := by
  unfold insertAt reserve
  split
  · simp only [size, List.length_set, List.length_append, List.length_replicate] at *
    omega
  · simpa only [size, List.length_set] using ha

theorem size_erase : (a.erase pos).size = a.size := by
  unfold erase
  split
  · simp only [size, List.length_set]
  · rfl

end SparseArray

variable {κ : Type} [ComponentKind κ] [DecidableEq κ]

namespace Registry

/-- No component array is longer. -/
def Bounded (n : Nat) (r : Registry κ) : Prop :=
  ∀ (k : κ) (array : SparseArray (ComponentKind.Value k)),
    r.componentArrays k = some array → array.size ≤ n

variable {r : Registry κ} {k : κ} {e n m : Nat} {array : SparseArray (ComponentKind.Value k)}

namespace Bounded

omit [DecidableEq κ] in
theorem mono (hr : r.Bounded n) (h : n ≤ m) : r.Bounded m :=
  fun k array harray => (hr k array harray).trans h

omit [DecidableEq κ] in
theorem of_getComponents (hr : r.Bounded n) (h : r.getComponents k = .ok array) : array.size ≤ n := by
  unfold getComponents at h
  split at h
  · rename_i harray
    cases h
    exact hr k _ harray
  · cases h

theorem update {arrays : (k : κ) → Option (SparseArray (ComponentKind.Value k))}
    (hr : ∀ k array, arrays k = some array → array.size ≤ n) (harray : array.size ≤ n) (k' : κ)
    (array' : SparseArray (ComponentKind.Value k'))
    (h : Function.update arrays k (some array) k' = some array') : array'.size ≤ n := by
  by_cases hk : k' = k
  · subst hk
    rw [Function.update_self] at h
    cases h
    exact harray
  · rw [Function.update_of_ne hk] at h
    exact hr k' array' h

theorem setComponents (hr : r.Bounded n) (harray : array.size ≤ n) :
    (r.setComponents k array).Bounded n :=
  update hr harray

theorem registerComponent (hr : r.Bounded n) : (r.registerComponent k).Bounded n := by
  unfold Registry.registerComponent
  split
  · exact hr
  · exact update hr (Nat.zero_le n)

theorem eraseComponent (hr : r.Bounded n) : (r.eraseComponent k e).Bounded n := by
  unfold Registry.eraseComponent
  split
  · rename_i array harray
    exact hr.setComponents (SparseArray.size_erase.trans_le (hr k array harray))
  · exact hr

theorem killEntity (hr : r.Bounded n) : (r.killEntity e).Bounded n := by
  have herased : ∀ (ks : List κ) {r : Registry κ}, r.Bounded n →
      (ks.foldl (fun r k => r.eraseComponent k e) r).Bounded n := by
    intro ks
    induction ks with
    | nil => exact fun hr => hr
    | cons k ks ih => exact fun hr => ih hr.eraseComponent
  exact herased r.eraseFunctions hr

end Bounded

end Registry

namespace RegistryHistory

variable {h : RegistryHistory κ} {op : RegistryOp κ} {e : Nat}

/-! ## The ids as a pool -/

def existing (h : RegistryHistory κ) : Finset Nat :=
  (Finset.range h.registry.nextEntity).filter fun e => h.registry.entityExists e = true

/-- How many entities are alive. -/
def population (h : RegistryHistory κ) : Nat := h.existing.card

omit [DecidableEq κ] in
theorem mem_existing : e ∈ h.existing ↔ h.registry.entityExists e = true := by
  rw [existing, Finset.mem_filter, Finset.mem_range, Registry.entityExists_iff]
  exact ⟨fun h => h.2, fun h => ⟨h.1, h⟩⟩

/-- The entities that exist, and the ids of those killed. -/
def pool (h : RegistryHistory κ) : Pool Nat where
  used := h.existing
  free := h.registry.deadEntities.toFinset
  disjoint := by
    refine Finset.disjoint_left.mpr fun e he hdead => ?_
    exact (Registry.entityExists_iff.mp (mem_existing.mp he)).2 (List.mem_toFinset.mp hdead)

omit [DecidableEq κ] in
theorem mem_used : e ∈ h.pool.used ↔ h.registry.entityExists e = true := mem_existing

omit [DecidableEq κ] in
theorem mem_free : e ∈ h.pool.free ↔ e ∈ h.registry.deadEntities := List.mem_toFinset

omit [DecidableEq κ] in
theorem free_eq_empty (hdead : h.registry.deadEntities = []) : h.pool.free = ∅ :=
  List.toFinset_eq_empty_iff _ |>.mpr hdead

omit [DecidableEq κ] in
/-- The counter counts the ids that have been made. -/
theorem made_pool (hh : IdInv h) : h.pool.made = h.registry.nextEntity := by
  have hids : h.pool.used ∪ h.pool.free = Finset.range h.registry.nextEntity := by
    ext e
    rw [Finset.mem_union, mem_used, mem_free, Finset.mem_range, Registry.entityExists_iff]
    constructor
    · rintro (⟨hlt, -⟩ | hdead)
      · exact hlt
      · exact hh.dead_lt e hdead
    · intro hlt
      by_cases hdead : e ∈ h.registry.deadEntities
      · exact .inr hdead
      · exact .inl ⟨hlt, hdead⟩
  rw [Pool.made, ← Finset.card_union_of_disjoint h.pool.disjoint, hids, Finset.card_range]

omit [DecidableEq κ] in
theorem step_of_eq {h' : RegistryHistory κ}
    (hnext : h'.registry.nextEntity = h.registry.nextEntity)
    (hdead : h'.registry.deadEntities = h.registry.deadEntities) : Pool.Step h.pool h'.pool := by
  refine .idle (Finset.ext fun e => ?_) (Finset.ext fun e => ?_)
  · rw [mem_used, mem_used, Registry.entityExists_iff, Registry.entityExists_iff, hnext, hdead]
  · rw [mem_free, mem_free, hdead]

theorem step_spawnEntity (hh : IdInv h) : Pool.Step h.pool (h.step .spawnEntity).pool := by
  have hused : (h.step .spawnEntity).pool.used =
      insert h.registry.spawnEntity.1 h.pool.used := by
    ext e
    rw [Finset.mem_insert, mem_used, mem_used, step]
    by_cases he : e = h.registry.spawnEntity.1
    · subst he
      exact iff_of_true hh.fresh.spawned (.inl rfl)
    · rw [Registry.entityExists_spawnEntity_of_ne he]
      exact (or_iff_right he).symm
  -- The dead ids are a stack: the last one is taken, and is not in the rest.
  obtain ⟨ids, e, hids, hspawn⟩ | ⟨hdead, hspawn⟩ := h.registry.spawnEntity_cases
  · have hnodup := hh.nodup
    rw [hids] at hnodup
    have hlast : e ∉ ids := fun he =>
      (List.nodup_append.mp hnodup).2.2 e he e (List.mem_singleton_self e) rfl
    rw [hspawn] at hused
    refine .reuse e ?_ hused ?_
    · rw [mem_free, hids]
      exact List.mem_concat_self
    · ext e'
      rw [Finset.mem_erase, mem_free, mem_free, step, hspawn, hids, List.mem_append,
        List.mem_singleton]
      constructor
      · exact fun he' => ⟨fun heq => hlast (heq ▸ he'), .inl he'⟩
      · rintro ⟨hne, he'⟩
        exact he'.resolve_right hne
  · have hnew : h.registry.nextEntity ∉ h.pool.used := fun hmem =>
      absurd (Registry.entityExists_iff.mp (mem_existing.mp hmem)).1 (Nat.lt_irrefl _)
    rw [hspawn] at hused
    exact .make h.registry.nextEntity (free_eq_empty hdead) hnew hused
      (free_eq_empty (by rw [step, hspawn]; exact hdead))

theorem step_killEntity (he : h.registry.entityExists e = true) :
    Pool.Step h.pool (h.step (.killEntity e)).pool := by
  refine .release e (mem_existing.mpr he) ?_ ?_
  · ext e'
    rw [Finset.mem_erase, mem_used, mem_used, step, Registry.entityExists_killEntity, and_comm]
  · ext e'
    rw [Finset.mem_insert, mem_free, mem_free, step, Registry.deadEntities_killEntity,
      List.mem_append, List.mem_singleton, or_comm]

theorem step_pool (hh : IdInv h) (hkills : h.KillsExisting op) : Pool.Step h.pool (h.step op).pool := by
  cases h.stepped op with
  | registered k hop =>
      rw [hop]
      exact step_of_eq Registry.nextEntity_registerComponent Registry.deadEntities_registerComponent
  | spawned hop =>
      rw [hop]
      exact step_spawnEntity hh
  | killed e hop =>
      subst hop
      exact step_killEntity hkills
  | stored k e c hop hexists array harray heq =>
      rw [heq]
      exact step_of_eq rfl rfl
  | removed k e hop array harray heq =>
      rw [heq]
      exact step_of_eq rfl rfl
  | threw hop heq =>
      rw [heq]
      exact step_of_eq rfl rfl

/-! ## What the counter bounds -/

/-- All ids that have been handed out and all arrays are below the counter. -/
structure Roomy (h : RegistryHistory κ) : Prop where
  ids : IdInv h
  spawned : ∀ e, .spawned e ∈ h.log → e < h.registry.nextEntity
  arrays : h.registry.Bounded h.registry.nextEntity

omit [DecidableEq κ] in
theorem roomy_new : Roomy (new : RegistryHistory κ) where
  ids := idInv_new
  spawned := fun _ he => absurd he List.not_mem_nil
  arrays := fun _ _ harray => by cases harray

theorem Roomy.spawnEntity (hh : Roomy h) : Roomy (h.step .spawnEntity) := by
  have hids : IdInv (h.step .spawnEntity) := hh.ids.step trivial
  have hlt := (Registry.entityExists_iff.mp hh.ids.fresh.spawned).1
  have hle : h.registry.nextEntity ≤ (h.step .spawnEntity).registry.nextEntity := by
    rw [step]
    obtain ⟨ids, e, -, hspawn⟩ | ⟨-, hspawn⟩ := h.registry.spawnEntity_cases <;> rw [hspawn]
    exact Nat.le_succ _
  refine ⟨hids, fun e he => ?_, ?_⟩
  · rcases List.mem_cons.mp he with heq | he
    · cases heq
      exact hlt
    · exact (hh.spawned e he).trans_le hle
  · have harrays : (h.step .spawnEntity).registry.componentArrays = h.registry.componentArrays := by
      rw [step]
      obtain ⟨ids, e, -, hspawn⟩ | ⟨-, hspawn⟩ := h.registry.spawnEntity_cases <;> rw [hspawn]
    intro k array harray
    rw [harrays] at harray
    exact (hh.arrays k array harray).trans hle

omit [DecidableEq κ] in
/-- An event that is no spawn leaves the ids handed out as they are. -/
theorem Roomy.spawned_of_cons {event : RegistryEvent κ} (hh : Roomy h)
    (hevent : ∀ e, .spawned e ≠ event) {e : Nat} (he : .spawned e ∈ event :: h.log) :
    e < h.registry.nextEntity :=
  hh.spawned e ((List.mem_cons.mp he).resolve_left (hevent e))

theorem Roomy.step (hh : Roomy h) (hkills : h.KillsExisting op) : Roomy (h.step op) := by
  have hids := hh.ids.step hkills
  cases h.stepped op with
  | registered k hop =>
      rw [hop] at hids ⊢
      refine ⟨hids, ?_, ?_⟩ <;>
        rw [RegistryHistory.step, Registry.nextEntity_registerComponent]
      · exact hh.spawned
      · exact hh.arrays.registerComponent
  | spawned hop =>
      rw [hop]
      exact hh.spawnEntity
  | killed e hop =>
      rw [hop] at hids ⊢
      refine ⟨hids, fun e' he' => ?_, ?_⟩ <;>
        rw [RegistryHistory.step, Registry.nextEntity_killEntity]
      · exact hh.spawned_of_cons (fun _ heq => by cases heq) he'
      · exact hh.arrays.killEntity
  | stored k e c hop hexists array harray heq =>
      rw [heq] at hids ⊢
      refine ⟨hids, fun e' he' => hh.spawned_of_cons (fun _ heq => by cases heq) he', ?_⟩
      exact hh.arrays.setComponents (SparseArray.size_insertAt_le (hh.arrays.of_getComponents harray)
        (Registry.entityExists_iff.mp hexists).1)
  | removed k e hop array harray heq =>
      rw [heq] at hids ⊢
      refine ⟨hids, fun e' he' => hh.spawned_of_cons (fun _ heq => by cases heq) he', ?_⟩
      exact hh.arrays.setComponents
        (SparseArray.size_erase.trans_le (hh.arrays.of_getComponents harray))
  | threw hop heq =>
      rw [heq]
      exact hh

/-- If only existing entities are killed, the counter is the largest number of entities
that have been alive at once; all ids ever handed out are below it, and no component array
is longer. -/
theorem nextEntity_eq_peak (ops : List (RegistryOp κ)) (hkills : EachStep step KillsExisting new ops) :
    (run step new ops).registry.nextEntity = peak step population new ops ∧
      (∀ e, .spawned e ∈ (run step new ops).log → e < peak step population new ops) ∧
      (run step new ops).registry.Bounded (peak step population new ops) := by
  have hroomy : Always step Roomy (new : RegistryHistory κ) ops :=
    always_of_eachStep roomy_new (fun _ _ hh hkills => hh.step hkills) hkills
  have hmade : EachStep step (fun (h : RegistryHistory κ) op => (h.step op).registry.nextEntity =
      max h.registry.nextEntity (h.step op).population) new ops := by
    refine eachStep_iff.mpr fun pre op post heq => ?_
    have hh := always_iff.mp hroomy pre (op :: post) heq
    have hkill := eachStep_iff.mp hkills pre op post heq
    have hmade := (step_pool hh.ids hkill).made_eq
    rwa [made_pool hh.ids, made_pool (hh.ids.step hkill)] at hmade
  have hcounter : (run step new ops).registry.nextEntity = peak step population new ops := by
    have hrun := made_run (fun h : RegistryHistory κ => h.registry.nextEntity)
      (Nat.le_of_eq rfl) hmade
    have hzero : (new : RegistryHistory κ).registry.nextEntity = 0 := rfl
    rwa [hzero, Nat.zero_max] at hrun
  rw [← hcounter]
  exact ⟨rfl, hroomy.final.spawned, hroomy.final.arrays⟩

theorem nextEntity_eq_peak_reused :
    (run step (new : RegistryHistory Component)
      [.spawnEntity, .spawnEntity, .killEntity 0, .spawnEntity]).registry.nextEntity = 2 :=
  (nextEntity_eq_peak _ (by decide)).1.trans (by decide)

end RegistryHistory

end BeeRType
