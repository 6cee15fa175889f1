-- SUMMARY: Logs that create and destroy keys: replaying a log, and what makes it proper.
import BeeRType.Base.Transition
import Mathlib.Data.List.Induction
import Mathlib.Data.Set.Image
import Mathlib.Data.Set.Insert

/-!
# Replaying creations and destructions

A log of changes to a set of keys. Replaying it gives the keys that are there
afterwards. A log is proper if it never creates a key that is there and never
destroys one that is not. Replaying is a run of a state machine whose events are
the changes.
-/

open Transition

namespace Replay

variable {κ κ' : Type*}

inductive Change (κ : Type*) where
  | create (k : κ)
  | destroy (k : κ)
  deriving DecidableEq

namespace Change

def key : Change κ → κ
  | create k => k
  | destroy k => k

def isCreate : Change κ → Bool
  | create _ => true
  | destroy _ => false

def map (f : κ → κ') : Change κ → Change κ'
  | create k => create (f k)
  | destroy k => destroy (f k)

end Change

/-- The keys after a change. -/
def apply (s : Set κ) : Change κ → Set κ
  | .create k => insert k s
  | .destroy k => s \ {k}

def replay (s : Set κ) (log : List (Change κ)) : Set κ := run apply s log

/-- A key that is created is absent, one that is destroyed is there. -/
def Fits (s : Set κ) : Change κ → Prop
  | .create k => k ∉ s
  | .destroy k => k ∈ s

def Proper (s : Set κ) (log : List (Change κ)) : Prop := EachStep apply Fits s log

/-- The keys that a log creates, in order. -/
def created : List (Change κ) → List κ :=
  List.filterMap fun
    | .create k => some k
    | .destroy _ => none

variable {s : Set κ} {k : κ} {c : Change κ} {log log' : List (Change κ)}

@[simp] theorem replay_nil : replay s [] = s := rfl
@[simp] theorem replay_cons : replay s (c :: log) = replay (apply s c) log := rfl
@[simp] theorem proper_cons : Proper s (c :: log) ↔ Fits s c ∧ Proper (apply s c) log := Iff.rfl
@[simp] theorem created_nil : created ([] : List (Change κ)) = [] := rfl
@[simp] theorem created_create : created (.create k :: log) = k :: created log := rfl
@[simp] theorem created_destroy : created (.destroy k :: log) = created log := rfl

theorem replay_append : replay s (log ++ log') = replay (replay s log) log' := run_append

theorem proper_append : Proper s (log ++ log') ↔ Proper s log ∧ Proper (replay s log) log' :=
  eachStep_append

theorem created_append : created (log ++ log') = created log ++ created log' :=
  List.filterMap_append

/-! ## The last change of a key -/

/-- Whether a change leaves a key there that was there before, or was not. -/
theorem mem_apply [DecidableEq κ] :
    k ∈ apply s c ↔ if c.key = k then c.isCreate = true else k ∈ s := by
  cases c with
  | create k' =>
      by_cases h : k' = k
      · simp [apply, Change.key, Change.isCreate, h]
      · simp [apply, Change.key, h, Ne.symm h]
  | destroy k' =>
      by_cases h : k' = k
      · simp [apply, Change.key, Change.isCreate, h]
      · simp [apply, Change.key, h, Ne.symm h]

/-- A key is there after a log if the last change of the key has created it. -/
theorem mem_replay [DecidableEq κ] : k ∈ replay s log ↔
    match (log.filter fun c => c.key = k).getLast? with
    | some c => c.isCreate = true
    | none => k ∈ s := by
  induction log using List.reverseRecOn with
  | nil => simp
  | append_singleton log c ih =>
      rw [replay_append, replay_cons, replay_nil, mem_apply, List.filter_append]
      by_cases h : c.key = k
      · simp [h]
      · simp only [h, ↓reduceIte, ih, decide_false, Bool.false_eq_true, not_false_eq_true,
          List.filter_cons_of_neg, List.filter_nil, List.append_nil]

/-- A key that is there was there before or has been created. -/
theorem mem_created_of_mem_replay (h : k ∈ replay s log) : k ∈ s ∨ k ∈ created log := by
  induction log generalizing s with
  | nil => exact .inl h
  | cons c log ih =>
      have htail := ih h
      clear h
      cases c with
      | create k' =>
          rw [created_create, List.mem_cons]
          exact htail.elim (fun h => h.elim (fun heq => .inr (.inl heq)) .inl) fun h => .inr (.inr h)
      | destroy k' => exact htail.imp_left fun h => h.1

/-! ## Renaming the keys -/

variable {f : κ → κ'}

theorem apply_image (hf : Function.Injective f) :
    apply (f '' s) (c.map f) = f '' apply s c := by
  cases c with
  | create k => exact (Set.image_insert_eq).symm
  | destroy k =>
      simp only [Change.map, apply]
      rw [Set.image_sdiff hf, Set.image_singleton]

theorem replay_image (hf : Function.Injective f) :
    replay (f '' s) (log.map (Change.map f)) = f '' replay s log := by
  induction log generalizing s with
  | nil => rfl
  | cons c log ih => rw [List.map_cons, replay_cons, apply_image hf, ih, replay_cons]

theorem proper_image (hf : Function.Injective f) :
    Proper (f '' s) (log.map (Change.map f)) ↔ Proper s log := by
  induction log generalizing s with
  | nil => exact Iff.rfl
  | cons c log ih =>
      have hfits : Fits (f '' s) (c.map f) ↔ Fits s c := by
        cases c with
        | create k => exact not_congr hf.mem_set_image
        | destroy k => exact hf.mem_set_image
      rw [List.map_cons, proper_cons, apply_image hf, ih, hfits, proper_cons]

theorem created_map : created (log.map (Change.map f)) = (created log).map f := by
  induction log with
  | nil => rfl
  | cons c log ih =>
      cases c with
      | create k => exact congrArg (f k :: ·) ih
      | destroy k => exact ih

/-! ## The changes of one key -/

/-- What a log says about a key. -/
def uses [DecidableEq κ] (log : List (Change κ)) (k : κ) : List (Change κ) :=
  log.filter fun c => c.key = k

section Uses

variable [DecidableEq κ]

theorem uses_append : uses (log ++ log') k = uses log k ++ uses log' k := List.filter_append ..

theorem uses_map [DecidableEq κ'] (hf : Function.Injective f) :
    uses (log.map (Change.map f)) (f k) = (uses log k).map (Change.map f) := by
  induction log with
  | nil => rfl
  | cons c log ih =>
      have hkey : (c.map f).key = f k ↔ c.key = k := by
        cases c <;> exact hf.eq_iff
      simp only [uses, List.map_cons, List.filter_cons, hkey, decide_eq_true_eq] at ih ⊢
      split
      · rw [ih, List.map_cons]
      · exact ih

theorem uses_cons : uses (c :: log) k = if c.key = k then c :: uses log k else uses log k := by
  simp [uses, List.filter_cons]

theorem mem_apply_of_ne (h : c.key ≠ k) : k ∈ apply s c ↔ k ∈ s := by
  rw [mem_apply, if_neg h]

theorem uses_of_unused (hlog : Proper s log) (hk : k ∉ s) (hnew : k ∉ created log) :
    uses log k = [] ∧ k ∉ replay s log := by
  induction log generalizing s with
  | nil => exact ⟨rfl, hk⟩
  | cons c log ih =>
      have hkey : c.key ≠ k := by
        rintro rfl
        cases c with
        | create k => exact hnew List.mem_cons_self
        | destroy k => exact hk hlog.1
      have hnew' : k ∉ created log := by
        cases c with
        | create k' => exact fun h => hnew (List.mem_cons_of_mem _ h)
        | destroy k' => exact hnew
      rw [uses_cons, if_neg hkey, replay_cons]
      exact ih hlog.2 (by rwa [mem_apply_of_ne hkey]) hnew'

/-- A key that is there and is not created again stays there, or is destroyed once. -/
theorem uses_of_mem (hlog : Proper s log) (hk : k ∈ s) (hnew : k ∉ created log) :
    uses log k = [] ∧ k ∈ replay s log ∨ uses log k = [.destroy k] ∧ k ∉ replay s log := by
  induction log generalizing s with
  | nil => exact .inl ⟨rfl, hk⟩
  | cons c log ih =>
      have hnew' : k ∉ created log := by
        cases c with
        | create k' => exact fun h => hnew (List.mem_cons_of_mem _ h)
        | destroy k' => exact hnew
      rw [uses_cons, replay_cons]
      by_cases hkey : c.key = k
      · rw [if_pos hkey]
        cases c with
        | create k' =>
            obtain rfl : k' = k := hkey
            exact absurd List.mem_cons_self hnew
        | destroy k' =>
            obtain rfl : k' = k := hkey
            obtain ⟨huses, hgone⟩ := uses_of_unused hlog.2 (by simp [apply]) hnew'
            exact .inr ⟨by rw [huses], hgone⟩
      · rw [if_neg hkey]
        exact ih hlog.2 ((mem_apply_of_ne hkey).mpr hk) hnew'

/-- A key that is new is created once at most, and then perhaps destroyed once. -/
theorem uses_of_not_mem (hlog : Proper s log) (hk : k ∉ s) (hnew : (created log).Nodup) :
    uses log k = [] ∧ k ∉ replay s log ∨ uses log k = [.create k] ∧ k ∈ replay s log ∨
      uses log k = [.create k, .destroy k] ∧ k ∉ replay s log := by
  induction log generalizing s with
  | nil => exact .inl ⟨rfl, hk⟩
  | cons c log ih =>
      rw [uses_cons, replay_cons]
      by_cases hkey : c.key = k
      · rw [if_pos hkey]
        cases c with
        | create k' =>
            obtain rfl : k' = k := hkey
            obtain ⟨huses, hthere⟩ | ⟨huses, hgone⟩ :=
              uses_of_mem hlog.2 (Set.mem_insert _ _) (List.nodup_cons.mp hnew).1
            · exact .inr (.inl ⟨by rw [huses], hthere⟩)
            · exact .inr (.inr ⟨by rw [huses], hgone⟩)
        | destroy k' =>
            obtain rfl : k' = k := hkey
            exact absurd hlog.1 hk
      · rw [if_neg hkey]
        refine ih hlog.2 (by rwa [mem_apply_of_ne hkey]) ?_
        cases c with
        | create k' => exact (List.nodup_cons.mp hnew).2
        | destroy k' => exact hnew

end Uses

/-! ## Logs of one kind of change -/

variable {ks : List κ}

theorem replay_destroy : replay s (ks.map .destroy) = s \ {k | k ∈ ks} := by
  induction ks generalizing s with
  | nil => simp
  | cons k ks ih =>
      rw [List.map_cons, replay_cons, ih]
      ext x
      simp only [apply, Set.mem_sdiff, Set.mem_singleton_iff, Set.mem_ofPred_eq, List.mem_cons]
      tauto

theorem proper_destroy (hks : ks.Nodup) (hs : ∀ k ∈ ks, k ∈ s) : Proper s (ks.map .destroy) := by
  induction ks generalizing s with
  | nil => trivial
  | cons k ks ih =>
      obtain ⟨hk, hks⟩ := List.nodup_cons.mp hks
      refine ⟨hs k List.mem_cons_self, ih hks fun x hx => ⟨hs x (List.mem_cons_of_mem _ hx), ?_⟩⟩
      rintro rfl
      exact hk hx

@[simp] theorem created_map_destroy : created (ks.map .destroy) = [] := by
  induction ks with
  | nil => rfl
  | cons k ks ih => exact ih

end Replay
