-- SUMMARY: What a pass of the collision system kills and reports, and the registries on which it does so as intended.
import BeeRType.Ecs.CollisionSystem
import BeeRType.Ecs.Store

/-!
# A pass of the collision system

What a pass does is decided by the registry at its start and by the entities killed
so far: a slot is filled as it was, or empty since its entity has been killed. On
that view the first collision of an entity kills it, whatever the pair, and the inner
loop must not find another live entity after it.
-/

open Cpp Transition

namespace BeeRType

/-! ## The registry at the start -/

namespace Registry

variable (r : Registry HitComponent)

def isControllable (e : Nat) : Bool := (r.component? .controllable e).isSome

def isProjectile (e : Nat) : Bool := (r.component? .projectile e).isSome

/-- Neither Controllable nor Projectile. -/
def isPlain (e : Nat) : Bool := !r.isControllable e && !r.isProjectile e

/-- The entity takes part in collisions. -/
def collides (e : Nat) : Bool :=
  (r.component? .position e).isSome &&
    (r.component? .collidable e : Option HitCollidable).any (·.isCollidable)

def overlap (i j : Nat) : Bool :=
  match (r.component? .position i : Option Position),
    (r.component? .collidable i : Option HitCollidable),
    (r.component? .position j : Option Position),
    (r.component? .collidable j : Option HitCollidable) with
  | some pos, some collidable, some otherPos, some otherCollidable =>
    Hitbox.checkCollision pos collidable.hitbox otherPos otherCollidable.hitbox
  | _, _, _, _ => false

/-- The entities that take part, in the order of the loops. -/
def colliders : List Nat := (List.range r.nextEntity).filter r.collides

end Registry

/-- The types whose arrays the system is called with are registered. -/
def Registry.HasCollisionArrays (r : Registry HitComponent) : Prop :=
  r.IsRegistered .position ∧ r.IsRegistered .collidable ∧ r.IsRegistered .controllable ∧
    r.IsRegistered .projectile

namespace CollisionPass

def killed (xs : List Encounter) : List Nat := xs.flatMap Encounter.killed

end CollisionPass

open CollisionPass

/-- The pass does no more than it is meant to. -/
structure CollidesAsIntended (r : Registry HitComponent) : Prop where
  /-- No empty slot is dereferenced. -/
  defined : ∀ result, collisionSystem r = .ok result → ∃ p, result = .ok p
  once : ∀ p, collisionSystem r = .ok (.ok p) →
    (killed p.encounters).Nodup ∧ p.registry.deadEntities.Nodup
  /-- No reported entity has been killed before. -/
  fresh : ∀ p, collisionSystem r = .ok (.ok p) → ∀ pre x post, p.encounters = pre ++ x :: post →
    x.first ∉ killed pre ∧ x.second ∉ killed pre
  /-- Of a Controllable and a plain entity, the Controllable dies. -/
  controllable : ∀ p, collisionSystem r = .ok (.ok p) → ∀ x ∈ p.encounters,
    (r.isControllable x.first → r.isPlain x.second → x.killed = [x.first]) ∧
      (r.isPlain x.first → r.isControllable x.second → x.killed = [x.second])

/-- The entities that are left collide in good order: whichever overlaps a later one
overlaps the last one, and no other, and the two are of one kind. -/
inductive Orderly (r : Registry HitComponent) : List Nat → Prop
  | nil : Orderly r []
  /-- The first entity overlaps no other. -/
  | apart {i : Nat} {rest : List Nat} (hrest : ∀ j ∈ rest, ¬ r.overlap i j) (h : Orderly r rest) :
      Orderly r (i :: rest)
  /-- Of two Controllables the first is killed, if the other is no Projectile. -/
  | controllables {i j : Nat} {mid : List Nat} (hmid : ∀ j ∈ mid, ¬ r.overlap i j)
      (hj : r.overlap i j) (hi : r.isControllable i) (hcontrol : r.isControllable j)
      (hshot : ¬ r.isProjectile j) (h : Orderly r (mid ++ [j])) : Orderly r (i :: (mid ++ [j]))
  /-- Of two others both are killed. -/
  | others {i j : Nat} {mid : List Nat} (hmid : ∀ j ∈ mid, ¬ r.overlap i j)
      (hj : r.overlap i j) (hi : ¬ r.isControllable i) (hcontrol : ¬ r.isControllable j)
      (h : Orderly r mid) : Orderly r (i :: (mid ++ [j]))

/-! ## The view of a pass -/

/-- The registry of a pass that has killed some entities: their slots are empty, the
others are as at the start. -/
structure After (r : Registry HitComponent) (dead : List Nat) (r' : Registry HitComponent) :
    Prop where
  slots : ∀ k e, r'.component? k e = if e ∈ dead then none else r.component? k e
  dead : r'.deadEntities = r.deadEntities ++ dead
  erased : r'.ErasesAll

/-- A slot of the view holds a component. -/
def Registry.holds (r : Registry HitComponent) (dead : List Nat) (k : HitComponent) (e : Nat) : Bool :=
  !dead.contains e && (r.component? k e).isSome

variable {r r' : Registry HitComponent} {dead before : List Nat} {k : HitComponent} {e i j : Nat}
  {s : Kills}

theorem after_nil (hr : r.ErasesAll) : After r [] r where
  slots := fun _ _ => (if_neg List.not_mem_nil).symm
  dead := (List.append_nil _).symm
  erased := hr

theorem After.growTo (h : After r dead r') : After r dead (r'.growTo k e) where
  slots := fun k' e' => Registry.component?_growTo.trans (h.slots k' e')
  dead := (Registry.growTo_frame (f := Registry.deadEntities) fun _ _ _ => rfl).trans h.dead
  erased := h.erased.growTo

theorem After.kill (h : After r dead r') (e : Nat) : After r (dead ++ [e]) (r'.killEntity e) where
  slots := fun k e' => by
    by_cases he : e' = e
    · rw [he, if_pos List.mem_concat_self]
      exact h.erased.component?_killEntity
    · rw [Registry.component?_killEntity_of_ne he, h.slots]
      simp [he]
  dead := by rw [Registry.deadEntities_killEntity, h.dead, List.append_assoc]
  erased := h.erased.killEntity

theorem After.isSome (h : After r dead r') : (r'.component? k e).isSome = r.holds dead k e := by
  rw [h.slots, Registry.holds]
  by_cases he : e ∈ dead <;> simp [he]

theorem holds_kill_self : r.holds (dead ++ [e]) k e = false := by simp [Registry.holds]

theorem holds_kill_of_ne (h : e ≠ i) : r.holds (dead ++ [i]) k e = r.holds dead k e := by
  simp [Registry.holds, h]

namespace Kills

/-- The kills for a pair, after those for the pairs before it. -/
def Follows (r : Registry HitComponent) (before : List Nat) (s : Kills) : Prop :=
  After r (before ++ s.killed) s.registry

/-- Reading slots grows arrays only. -/
theorem Follows.slot (h : s.Follows r before) (k : HitComponent) (e : Nat) :
    ∃ s' : Kills, s.slot k e = (r.holds (before ++ s.killed) k e, s') ∧ s'.Follows r before ∧
      s'.killed = s.killed :=
  ⟨(s.slot k e).2, Prod.ext h.isSome rfl, h.growTo, rfl⟩

theorem Follows.either (h : s.Follows r before) (k : HitComponent) (i j : Nat) :
    ∃ s' : Kills, s.either k i j = (r.holds (before ++ s.killed) k i ||
        r.holds (before ++ s.killed) k j, s') ∧ s'.Follows r before ∧ s'.killed = s.killed := by
  obtain ⟨s₁, hslot, h₁, hkilled₁⟩ := h.slot k i
  obtain ⟨s₂, hslot', h₂, hkilled₂⟩ := h₁.slot k j
  rw [hkilled₁] at hslot' hkilled₂
  simp only [Kills.either, hslot]
  cases r.holds (before ++ s.killed) k i with
  | true => exact ⟨s₁, rfl, h₁, hkilled₁⟩
  | false => exact ⟨s₂, hslot', h₂, hkilled₂⟩

theorem Follows.kill (h : s.Follows r before) (e : Nat) : (s.kill e).Follows r before := by
  have hkill := After.kill h e
  rwa [List.append_assoc] at hkill

theorem Follows.killControllable (h : s.Follows r before) :
    (s.killControllable i j).Follows r before ∧ (s.killControllable i j).killed = s.killed ++
      (if r.holds (before ++ s.killed) .controllable i then [i]
      else if r.holds (before ++ s.killed) .controllable j then [j] else []) := by
  obtain ⟨s₁, heither, h₁, hkilled₁⟩ := h.either .controllable i j
  obtain ⟨s₂, hslot, h₂, hkilled₂⟩ := h₁.slot .controllable i
  rw [hkilled₁] at hslot hkilled₂
  simp only [Kills.killControllable, heither, hslot]
  cases r.holds (before ++ s.killed) .controllable i with
  | true => exact ⟨h₂.kill i, congrArg (· ++ [i]) hkilled₂⟩
  | false =>
      cases r.holds (before ++ s.killed) .controllable j with
      | true => exact ⟨h₂.kill j, congrArg (· ++ [j]) hkilled₂⟩
      | false => exact ⟨h₁, hkilled₁.trans (List.append_nil _).symm⟩

theorem Follows.killPair (h : s.Follows r before) (hne : i ≠ j) :
    (s.killPair i j).Follows r before ∧ (s.killPair i j).killed = s.killed ++
      (if r.holds (before ++ s.killed) .projectile i then [j, i]
      else if r.holds (before ++ s.killed) .projectile j then [i, j]
      else if r.holds (before ++ s.killed) .controllable i ||
        r.holds (before ++ s.killed) .controllable j then [] else [i, j]) := by
  obtain ⟨s₁, heither, h₁, hkilled₁⟩ := h.either .projectile i j
  simp only [Kills.killPair, heither]
  cases hi : r.holds (before ++ s.killed) .projectile i with
  | true =>
      -- The second reading finds the projectile still there.
      obtain ⟨s₂, hslot₂, h₂, hkilled₂⟩ := h₁.slot .projectile i
      obtain ⟨s₃, hslot₃, h₃, hkilled₃⟩ := (h₂.kill j).slot .projectile i
      have hkill : (s₂.kill j).killed = s.killed ++ [j] := by rw [Kills.kill, hkilled₂, hkilled₁]
      rw [hkilled₁, hi] at hslot₂
      rw [hkill, ← List.append_assoc, holds_kill_of_ne hne, hi] at hslot₃
      simp only [Bool.true_or, if_true, hslot₂, hslot₃]
      refine ⟨h₃.kill i, ?_⟩
      rw [Kills.kill, hkilled₃, hkill, List.append_assoc]
      rfl
  | false =>
      cases hj : r.holds (before ++ s.killed) .projectile j with
      | true =>
          -- The first of the pair is dead at the second reading, and had none anyway.
          obtain ⟨s₂, hslot₂, h₂, hkilled₂⟩ := h₁.slot .projectile i
          obtain ⟨s₃, hslot₃, h₃, hkilled₃⟩ := (h₂.kill i).slot .projectile i
          have hkill : (s₂.kill i).killed = s.killed ++ [i] := by
            rw [Kills.kill, hkilled₂, hkilled₁]
          rw [hkilled₁, hi] at hslot₂
          rw [hkill, ← List.append_assoc, holds_kill_self] at hslot₃
          simp only [Bool.false_or, Bool.false_eq_true, if_true, if_false, hslot₂, hslot₃]
          refine ⟨h₃.kill j, ?_⟩
          rw [Kills.kill, hkilled₃, hkill, List.append_assoc]
          rfl
      | false =>
          obtain ⟨s₂, heither₂, h₂, hkilled₂⟩ := h₁.either .controllable i j
          rw [hkilled₁] at heither₂ hkilled₂
          simp only [Bool.false_or, Bool.false_eq_true, if_false, heither₂]
          split
          · exact ⟨h₂, hkilled₂.trans (List.append_nil _).symm⟩
          · refine ⟨(h₂.kill i).kill j, ?_⟩
            rw [Kills.kill, Kills.kill, hkilled₂, List.append_assoc]
            rfl

end Kills

/-- The kills for a pair, by the kinds of its two entities at the start. -/
def Registry.kills (r : Registry HitComponent) (i j : Nat) : List Nat :=
  if r.isControllable i then
    if r.isControllable j ∧ ¬ r.isProjectile j then [i] else [i, i, j]
  else if r.isControllable j then
    if r.isProjectile i then [j, j, i] else [j, i, j]
  else if r.isProjectile i then [j, i] else [i, j]

variable {p : CollisionPass}

theorem holds_of_not_mem (h : e ∉ dead) : r.holds dead k e = (r.component? k e).isSome := by
  simp [Registry.holds, h]

/-- The two steps for a pair come to the kills of its kinds: the second step reads what
the first has emptied. -/
theorem Kills.Follows.pair (h : s.Follows r before) (hs : s.killed = []) (hi : i ∉ before)
    (hj : j ∉ before) (hne : i ≠ j) :
    ((s.killControllable i j).killPair i j).Follows r before ∧
      ((s.killControllable i j).killPair i j).killed = r.kills i j := by
  obtain ⟨h₁, hkilled₁⟩ := h.killControllable (i := i) (j := j)
  obtain ⟨h₂, hkilled₂⟩ := h₁.killPair hne
  refine ⟨h₂, ?_⟩
  have hci : r.holds before .controllable i = r.isControllable i := holds_of_not_mem hi
  have hcj : r.holds before .controllable j = r.isControllable j := holds_of_not_mem hj
  have hpi : r.holds before .projectile i = r.isProjectile i := holds_of_not_mem hi
  have hpj : r.holds before .projectile j = r.isProjectile j := holds_of_not_mem hj
  rw [hs, List.append_nil, List.nil_append, hci, hcj] at hkilled₁
  rw [hkilled₂, hkilled₁, Registry.kills]
  cases hi' : r.isControllable i with
  | true =>
      simp only [if_true, holds_kill_self, holds_kill_of_ne hne.symm, hpj, hcj, Bool.false_or,
        Bool.false_eq_true, if_false, List.cons_append, List.nil_append]
      cases r.isProjectile j <;> cases r.isControllable j <;> rfl
  | false =>
      cases hj' : r.isControllable j with
      | true =>
          simp only [if_true, holds_kill_self, holds_kill_of_ne hne, hpi, hci, hi', Bool.or_self,
            Bool.false_eq_true, if_false, List.cons_append, List.nil_append]
          cases r.isProjectile i <;> rfl
      | false =>
          simp only [Bool.false_eq_true, if_false, List.append_nil, hpi, hpj, hci, hcj, hi', hj',
            Bool.or_self, List.nil_append]
          cases r.isProjectile i <;> cases r.isProjectile j <;> rfl

/-- Dealing with two entities that are alive. -/
theorem After.collide (h : After r (killed p.encounters) p.registry)
    (hi : i ∉ killed p.encounters) (hj : j ∉ killed p.encounters) (hne : i ≠ j) :
    (p.collide i j).encounters = p.encounters ++ [⟨i, j, r.kills i j⟩] ∧
      After r (killed (p.collide i j).encounters) (p.collide i j).registry := by
  have hstart : Kills.Follows r (killed p.encounters) ⟨p.registry, []⟩ := by
    rw [Kills.Follows, List.append_nil]
    exact h
  obtain ⟨hafter, hkilled⟩ := hstart.pair rfl hi hj hne
  have hencounters : (p.collide i j).encounters = p.encounters ++ [⟨i, j, r.kills i j⟩] := by
    rw [CollisionPass.collide, hkilled]
  refine ⟨hencounters, ?_⟩
  rw [Kills.Follows, hkilled] at hafter
  rw [hencounters, killed, List.flatMap_append, List.flatMap_singleton]
  exact hafter

/-! ## The pass on the view -/

/-- A turn of the inner loop, for an entity that takes part. -/
def scanTurn (r : Registry HitComponent) (i : Nat) (xs : List Encounter) (j : Nat) :
    Except EmptySlot (List Encounter) :=
  if j ∈ killed xs then .ok xs
  else if i ∈ killed xs then .error .dereferenced
  else if r.overlap i j then .ok (xs ++ [⟨i, j, r.kills i j⟩])
  else .ok xs

/-- Both loops, over the entities that take part. -/
def scan (r : Registry HitComponent) : List Encounter → List Nat → Except EmptySlot (List Encounter)
  | xs, [] => .ok xs
  | xs, i :: rest =>
    if i ∈ killed xs then scan r xs rest
    else rest.foldlM (scanTurn r i) xs >>= fun ys => scan r ys rest

/-- A pass, and what it has reported as seen from the start. -/
def Viewed (r : Registry HitComponent) (p : CollisionPass) (xs : List Encounter) : Prop :=
  p.encounters = xs ∧ After r (killed xs) p.registry

variable {xs ys : List Encounter} {rest : List Nat} {n : Nat}

theorem Viewed.killed (h : Viewed r p xs) (he : e ∈ killed xs) :
    p.registry.component? k e = none :=
  (h.2.slots k e).trans (if_pos he)

theorem Viewed.alive (h : Viewed r p xs) (he : e ∉ CollisionPass.killed xs) :
    p.registry.component? k e = r.component? k e :=
  (h.2.slots k e).trans (if_neg he)

theorem Registry.collides_of_some {pos : Position} {c : HitCollidable}
    (hpos : r.component? .position e = some pos) (hc : r.component? .collidable e = some c) :
    r.collides e = c.isCollidable := by
  rw [Registry.collides, hpos, hc]
  simp

/-- An entity that takes part has both components. -/
theorem Registry.exists_of_collides (h : r.collides e = true) :
    ∃ (pos : Position) (c : HitCollidable), r.component? .position e = some pos ∧
      r.component? .collidable e = some c := by
  rw [Registry.collides, Bool.and_eq_true, Option.isSome_iff_exists, Option.any_eq_true] at h
  obtain ⟨⟨pos, hpos⟩, c, hc, -⟩ := h
  exact ⟨pos, c, hpos, hc⟩

/-- A live entity that takes part, against one that took part when its turn came. -/
theorem Viewed.scanTurn (h : Viewed r p xs) (hi : r.collides i) (hj : r.collides j) (hne : i ≠ j)
    (hlive : j ∉ CollisionPass.killed xs) :
    Fallible.Agree (Viewed r) (CollisionPass.innerTurn i p j) (BeeRType.scanTurn r i xs j) := by
  obtain ⟨otherPos, otherCollidable, hotherPos, hother⟩ := Registry.exists_of_collides hj
  obtain ⟨pos, collidable, hpos, hcollidable⟩ := Registry.exists_of_collides hi
  have hother' : otherCollidable.isCollidable = true :=
    (Registry.collides_of_some hotherPos hother).symm.trans hj
  simp only [CollisionPass.innerTurn, h.alive hlive, hotherPos, hother, hother', if_true,
    BeeRType.scanTurn, if_neg hlive]
  by_cases hdead : i ∈ CollisionPass.killed xs
  · simp only [h.killed hdead, if_pos hdead]
    exact .error _
  · have hoverlap : r.overlap i j = Hitbox.checkCollision pos collidable.hitbox otherPos
        otherCollidable.hitbox := by
      simp only [Registry.overlap, hpos, hcollidable, hotherPos, hother]
    simp only [h.alive hdead, hpos, hcollidable, if_neg hdead, hoverlap]
    split
    · obtain ⟨hxs, hafter⟩ := h
      subst hxs
      obtain ⟨hencounters, hcollide⟩ := hafter.collide hdead hlive hne
      rw [hencounters] at hcollide
      exact .ok ⟨hencounters, hcollide⟩
    · exact .ok h

theorem Viewed.innerTurn (h : Viewed r p xs) (hi : r.collides i) (hne : i ≠ j) :
    Fallible.Agree (Viewed r) (CollisionPass.innerTurn i p j)
      (if r.collides j then BeeRType.scanTurn r i xs j else .ok xs) := by
  by_cases hlive : j ∈ CollisionPass.killed xs
  · have hturn : CollisionPass.innerTurn i p j = .ok p := by
      simp only [CollisionPass.innerTurn, h.killed hlive]
    have hscan : (if r.collides j then BeeRType.scanTurn r i xs j else .ok xs) = .ok xs := by
      rw [BeeRType.scanTurn, if_pos hlive, ite_self]
    rw [hturn, hscan]
    exact .ok h
  · by_cases hj : r.collides j
    · rw [if_pos hj]
      exact h.scanTurn hi hj hne hlive
    · rw [if_neg hj]
      have hturn : CollisionPass.innerTurn i p j = .ok p := by
        simp only [CollisionPass.innerTurn, h.alive hlive]
        cases hpos : (r.component? .position j : Option Position) with
        | none => rfl
        | some pos =>
            cases hc : (r.component? .collidable j : Option HitCollidable) with
            | none => rfl
            | some c =>
                rw [Registry.collides_of_some hpos hc] at hj
                exact if_neg hj
      rw [hturn]
      exact .ok h

/-- The inner loop of an entity that takes part and is alive. -/
theorem Viewed.innerLoop (h : Viewed r p xs) (hi : r.collides i) (len : Nat) :
    Fallible.Agree (Viewed r) ((List.range' (i + 1) len).foldlM (CollisionPass.innerTurn i) p)
      (((List.range' (i + 1) len).filter r.collides).foldlM (BeeRType.scanTurn r i) xs) := by
  rw [List.foldlM_filter]
  refine .foldlM h fun p xs j hj h => h.innerTurn hi ?_
  have hlt := (List.mem_range'_1.mp hj).1
  omega

theorem Viewed.outerTurn_idle (h : Viewed r p xs) (hi : i ∈ CollisionPass.killed xs ∨ ¬ r.collides i) :
    CollisionPass.outerTurn n p i = .ok p := by
  by_cases hdead : i ∈ CollisionPass.killed xs
  · simp only [CollisionPass.outerTurn, h.killed hdead]
  · have hcollides := hi.resolve_left hdead
    simp only [CollisionPass.outerTurn, h.alive hdead]
    cases hpos : (r.component? .position i : Option Position) with
    | none => rfl
    | some pos =>
        cases hc : (r.component? .collidable i : Option HitCollidable) with
        | none => rfl
        | some c =>
            rw [Registry.collides_of_some hpos hc] at hcollides
            exact if_neg hcollides

theorem Viewed.outerTurn_live (h : Viewed r p xs) (hdead : i ∉ CollisionPass.killed xs)
    (hi : r.collides i) : CollisionPass.outerTurn n p i =
      (List.range' (i + 1) (n - (i + 1))).foldlM (CollisionPass.innerTurn i) p := by
  obtain ⟨pos, collidable, hpos, hcollidable⟩ := Registry.exists_of_collides hi
  have hcollides : collidable.isCollidable = true :=
    (Registry.collides_of_some hpos hcollidable).symm.trans hi
  simp only [CollisionPass.outerTurn, h.alive hdead, hpos, hcollidable, hcollides, if_true]

/-- The loops agree with the scan of the entities that take part. -/
theorem Viewed.outerLoop {m a : Nat} (h : Viewed r p xs) (hn : a + m = n) :
    Fallible.Agree (Viewed r) ((List.range' a m).foldlM (CollisionPass.outerTurn n) p)
      (scan r xs ((List.range' a m).filter r.collides)) := by
  induction m generalizing a p xs with
  | zero => exact .ok h
  | succ m ih =>
      rw [List.range'_succ, List.foldlM_cons]
      have hrest : n - (a + 1) = m := by omega
      by_cases hcollides : r.collides a
      · rw [List.filter_cons_of_pos hcollides, scan]
        by_cases hdead : a ∈ CollisionPass.killed xs
        · rw [h.outerTurn_idle (.inl hdead), if_pos hdead]
          exact ih h (by omega)
        · rw [h.outerTurn_live hdead hcollides, if_neg hdead, hrest]
          exact (h.innerLoop hcollides m).bind fun _ _ h => ih h (by omega)
      · rw [List.filter_cons_of_neg hcollides, h.outerTurn_idle (.inr hcollides)]
        exact ih h (by omega)

/-! ## Kills for a pair -/

theorem mem_kills_first : i ∈ r.kills i j := by
  unfold Registry.kills
  split_ifs <;> simp

theorem eq_or_eq_of_mem_kills (h : e ∈ r.kills i j) : e = i ∨ e = j := by
  unfold Registry.kills at h
  split_ifs at h <;> simp at h <;> tauto

/-- Nobody else is killed. -/
theorem filter_not_mem_kills {es : List Nat} (hi : i ∉ es) (hj : j ∉ es) :
    es.filter (· ∉ r.kills i j) = es := by
  refine List.filter_eq_self.mpr fun e he => ?_
  rw [decide_eq_true_eq]
  intro hkill
  rcases eq_or_eq_of_mem_kills hkill with rfl | rfl
  · exact hi he
  · exact hj he

theorem kills_controllables (hi : r.isControllable i) (hj : r.isControllable j)
    (hshot : ¬ r.isProjectile j) : r.kills i j = [i] := by
  rw [Registry.kills, if_pos hi, if_pos ⟨hj, hshot⟩]

theorem mem_kills_second (hi : ¬ r.isControllable i) : j ∈ r.kills i j := by
  unfold Registry.kills
  rw [if_neg hi]
  split_ifs <;> simp

/-- Two Controllables, or none. -/
theorem nodup_kills_iff (hne : i ≠ j) : (r.kills i j).Nodup ↔
    r.isControllable i ∧ r.isControllable j ∧ ¬ r.isProjectile j ∨
      ¬ r.isControllable i ∧ ¬ r.isControllable j := by
  unfold Registry.kills
  split_ifs <;> simp_all [Ne.symm hne]

/-! ## Entities that are left -/

namespace CollisionPass

/-- The entities that have not been killed. -/
def alive (xs : List Encounter) (es : List Nat) : List Nat := es.filter (· ∉ killed xs)

theorem alive_cons_of_mem (h : e ∈ killed xs) : alive xs (e :: rest) = alive xs rest :=
  List.filter_cons_of_neg (by simpa using h)

theorem alive_cons_of_not_mem (h : e ∉ killed xs) : alive xs (e :: rest) = e :: alive xs rest :=
  List.filter_cons_of_pos (by simpa using h)

theorem killed_concat {x : Encounter} : killed (xs ++ [x]) = killed xs ++ x.killed := by
  rw [killed, List.flatMap_append, List.flatMap_singleton]
  rfl

theorem alive_concat {x : Encounter} :
    alive (xs ++ [x]) rest = (alive xs rest).filter (· ∉ x.killed) := by
  rw [alive, alive, List.filter_filter, killed_concat]
  refine List.filter_congr fun e _ => ?_
  simp [and_comm]

theorem alive_concat_of_ne {es : List Nat} (h : alive xs rest = es) (hi : i ∉ es) (hj : j ∉ es) :
    alive (xs ++ [⟨i, j, r.kills i j⟩]) rest = es := by
  rw [alive_concat, h]
  exact filter_not_mem_kills hi hj

/-! ## The inner loop on the view -/

theorem scanTurns_apart (hi : i ∉ killed xs) (h : ∀ j ∈ alive xs rest, ¬ r.overlap i j) :
    rest.foldlM (scanTurn r i) xs = .ok xs := by
  induction rest with
  | nil => rfl
  | cons j rest ih =>
      rw [List.foldlM_cons, scanTurn]
      by_cases hj : j ∈ killed xs
      · rw [alive_cons_of_mem hj] at h
        rw [if_pos hj]
        exact ih h
      · rw [alive_cons_of_not_mem hj] at h
        rw [if_neg hj, if_neg hi, if_neg (h j List.mem_cons_self)]
        exact ih fun j' hj' => h j' (List.mem_cons_of_mem _ hj')

/-- After its first collision, the entity must not meet another live one. -/
theorem scanTurns_dead (hi : i ∈ killed xs) : rest.foldlM (scanTurn r i) xs =
    if alive xs rest = [] then .ok xs else .error .dereferenced := by
  induction rest with
  | nil => rfl
  | cons j rest ih =>
      rw [List.foldlM_cons, scanTurn]
      by_cases hj : j ∈ killed xs
      · rw [alive_cons_of_mem hj, if_pos hj]
        exact ih
      · rw [alive_cons_of_not_mem hj, if_neg hj, if_pos hi, if_neg (List.cons_ne_nil _ _)]
        rfl

theorem scanTurns_hit {mid tail : List Nat} (hi : i ∉ killed xs) (hrest : (i :: rest).Nodup)
    (halive : alive xs rest = mid ++ j :: tail) (hmid : ∀ j ∈ mid, ¬ r.overlap i j)
    (hj : r.overlap i j) : rest.foldlM (scanTurn r i) xs =
      if tail = [] then .ok (xs ++ [⟨i, j, r.kills i j⟩]) else .error .dereferenced := by
  induction rest generalizing mid with
  | nil => cases List.append_eq_nil_iff.mp halive.symm with | intro _ h => cases h
  | cons a rest ih =>
      obtain ⟨hirest, hnodup⟩ := List.nodup_cons.mp hrest
      have hrest' : (i :: rest).Nodup :=
        List.nodup_cons.mpr ⟨fun hmem => hirest (List.mem_cons_of_mem _ hmem), hnodup.of_cons⟩
      rw [List.foldlM_cons, scanTurn]
      by_cases ha : a ∈ killed xs
      · rw [alive_cons_of_mem ha] at halive
        rw [if_pos ha]
        exact ih hrest' halive hmid
      · rw [alive_cons_of_not_mem ha] at halive
        rw [if_neg ha, if_neg hi]
        cases mid with
        | nil =>
            obtain ⟨rfl, htail⟩ := List.cons.inj halive
            have hdead : i ∈ killed (xs ++ [⟨i, a, r.kills i a⟩]) := by
              rw [killed_concat]
              exact List.mem_append_right _ mem_kills_first
            have hsub : ∀ e ∈ tail, e ∈ rest := fun e he =>
              List.mem_of_mem_filter (htail ▸ he)
            rw [if_pos hj]
            refine (scanTurns_dead hdead).trans ?_
            rw [alive_concat_of_ne htail (fun he => hirest (List.mem_cons_of_mem _ (hsub i he)))
              fun he => (List.nodup_cons.mp hnodup).1 (hsub a he)]
        | cons b mid =>
            obtain ⟨rfl, htail⟩ := List.cons.inj halive
            rw [if_neg (hmid a List.mem_cons_self)]
            exact ih hrest' htail fun j' hj' => hmid j' (List.mem_cons_of_mem _ hj')

end CollisionPass

/-! ## Good order -/

theorem orderly_apart_iff (h : ∀ j ∈ rest, ¬ r.overlap i j) :
    Orderly r (i :: rest) ↔ Orderly r rest := by
  refine ⟨fun horderly => ?_, .apart h⟩
  generalize hes : i :: rest = es at horderly
  cases horderly with
  | nil => cases hes
  | apart _ horderly =>
      obtain ⟨-, rfl⟩ := List.cons.inj hes
      exact horderly
  | controllables _ hj _ _ _ _ =>
      obtain ⟨rfl, rfl⟩ := List.cons.inj hes
      exact absurd hj (h _ List.mem_concat_self)
  | others _ hj _ _ _ =>
      obtain ⟨rfl, rfl⟩ := List.cons.inj hes
      exact absurd hj (h _ List.mem_concat_self)

/-- The first entity that is overlapped stands where it stands. -/
theorem first_overlap_unique {mid mid' tail : List Nat} {j' : Nat}
    (heq : mid ++ j :: tail = mid' ++ [j']) (hmid : ∀ j ∈ mid, ¬ r.overlap i j) (hj : r.overlap i j)
    (hmid' : ∀ j ∈ mid', ¬ r.overlap i j) (hj' : r.overlap i j') :
    mid = mid' ∧ j = j' ∧ tail = [] := by
  have htake {mid tail : List Nat} {j : Nat} (hmid : ∀ j ∈ mid, ¬ r.overlap i j)
      (hj : r.overlap i j) : (mid ++ j :: tail).takeWhile (fun e => !r.overlap i e) = mid := by
    rw [List.takeWhile_append_of_pos (by simpa using hmid), List.takeWhile_cons_of_neg (by simpa),
      List.append_nil]
  have hmids : mid = mid' := by
    have hsplit := @htake mid' [] j' hmid' hj'
    rw [← heq, htake hmid hj] at hsplit
    exact hsplit
  subst hmids
  obtain ⟨rfl, rfl⟩ := List.cons.inj (List.append_cancel_left heq)
  exact ⟨rfl, rfl, rfl⟩

theorem orderly_hit_iff {mid tail : List Nat} (hmid : ∀ j ∈ mid, ¬ r.overlap i j)
    (hj : r.overlap i j) : Orderly r (i :: (mid ++ j :: tail)) ↔ tail = [] ∧
      (r.isControllable i ∧ r.isControllable j ∧ ¬ r.isProjectile j ∧ Orderly r (mid ++ [j]) ∨
        ¬ r.isControllable i ∧ ¬ r.isControllable j ∧ Orderly r mid) := by
  constructor
  · intro horderly
    generalize hes : i :: (mid ++ j :: tail) = es at horderly
    cases horderly with
    | nil => cases hes
    | apart hrest _ =>
        obtain ⟨rfl, rfl⟩ := List.cons.inj hes
        exact absurd hj (hrest j (List.mem_append_right _ List.mem_cons_self))
    | controllables hmid' hj' hi hcontrol hshot h =>
        obtain ⟨rfl, heq⟩ := List.cons.inj hes
        obtain ⟨rfl, rfl, htail⟩ := first_overlap_unique heq hmid hj hmid' hj'
        exact ⟨htail, .inl ⟨hi, hcontrol, hshot, h⟩⟩
    | others hmid' hj' hi hcontrol h =>
        obtain ⟨rfl, heq⟩ := List.cons.inj hes
        obtain ⟨rfl, rfl, htail⟩ := first_overlap_unique heq hmid hj hmid' hj'
        exact ⟨htail, .inr ⟨hi, hcontrol, h⟩⟩
  · rintro ⟨rfl, ⟨hi, hcontrol, hshot, h⟩ | ⟨hi, hcontrol, h⟩⟩
    · exact .controllables hmid hj hi hcontrol hshot h
    · exact .others hmid hj hi hcontrol h

/-! ## A pass in good order -/

/-- What is reported: two different entities, neither of them killed before, with the
kills of their kinds. -/
structure Sound (r : Registry HitComponent) (xs : List Encounter) : Prop where
  fresh : ∀ pre x post, xs = pre ++ x :: post → x.first ∉ killed pre ∧ x.second ∉ killed pre
  kills : ∀ x ∈ xs, x.first ≠ x.second ∧ x.killed = r.kills x.first x.second

theorem sound_nil : Sound r [] where
  fresh := fun pre x post h => by cases List.append_eq_nil_iff.mp h.symm with | intro _ h => cases h
  kills := fun _ hx => absurd hx List.not_mem_nil

theorem Sound.concat (h : Sound r xs) (hi : i ∉ killed xs) (hj : j ∉ killed xs) (hne : i ≠ j) :
    Sound r (xs ++ [⟨i, j, r.kills i j⟩]) where
  fresh := fun pre x post heq => by
    rcases List.eq_nil_or_concat' post with rfl | ⟨post, last, rfl⟩
    · obtain ⟨rfl, hx⟩ := List.append_inj' heq rfl
      cases hx
      exact ⟨hi, hj⟩
    · rw [← List.cons_append, ← List.append_assoc] at heq
      exact h.fresh pre x post (List.append_inj' heq rfl).1
  kills := fun x hx => by
    rcases List.mem_append.mp hx with hx | hx
    · exact h.kills x hx
    · obtain rfl := List.mem_singleton.mp hx
      exact ⟨hne, rfl⟩

theorem Sound.of_append (h : Sound r (xs ++ ys)) : Sound r xs where
  fresh := fun pre x post heq => h.fresh pre x (post ++ ys) (by rw [heq, List.append_assoc]; rfl)
  kills := fun x hx => h.kills x (List.mem_append_left _ hx)

/-- Nobody is killed twice in the pass if nobody is killed twice for a pair. -/
theorem Sound.nodup_iff (h : Sound r xs) :
    (killed xs).Nodup ↔ ∀ x ∈ xs, x.killed.Nodup := by
  induction xs using List.reverseRecOn with
  | nil => exact iff_of_true List.nodup_nil fun _ hx => absurd hx List.not_mem_nil
  | append_singleton xs x ih =>
      obtain ⟨hfirst, hsecond⟩ := h.fresh xs x [] rfl
      have hkills := (h.kills x List.mem_concat_self).2
      have hdisjoint : ∀ a ∈ killed xs, ∀ b ∈ x.killed, a ≠ b := by
        rintro a ha b hb rfl
        rw [hkills] at hb
        rcases eq_or_eq_of_mem_kills hb with rfl | rfl
        · exact hfirst ha
        · exact hsecond ha
      rw [killed_concat, List.nodup_append, ih h.of_append, List.forall_mem_append,
        List.forall_mem_singleton, and_iff_left hdisjoint]

/-- The inner loop of an entity that is alive: nothing, or its first collision with what
is left, which must be the last. -/
theorem scanTurns_cases (hi : i ∉ killed xs) (hrest : (i :: rest).Nodup) :
    (∀ j ∈ alive xs rest, ¬ r.overlap i j) ∧ rest.foldlM (scanTurn r i) xs = .ok xs ∨
      ∃ mid j tail, alive xs rest = mid ++ j :: tail ∧ (∀ j ∈ mid, ¬ r.overlap i j) ∧
        r.overlap i j ∧ rest.foldlM (scanTurn r i) xs =
          if tail = [] then .ok (xs ++ [⟨i, j, r.kills i j⟩]) else .error .dereferenced := by
  cases hfind : (alive xs rest).find? (r.overlap i) with
  | none =>
      have hnone : ∀ j ∈ alive xs rest, ¬ r.overlap i j := List.find?_eq_none.mp hfind
      exact .inl ⟨hnone, scanTurns_apart hi hnone⟩
  | some j =>
      obtain ⟨hj, mid, tail, halive, hmid⟩ := List.find?_eq_some_iff_append.mp hfind
      have hmid' : ∀ j ∈ mid, ¬ r.overlap i j := by simpa using hmid
      exact .inr ⟨mid, j, tail, halive, hmid', hj, scanTurns_hit hi hrest halive hmid' hj⟩

theorem mem_alive {es : List Nat} : e ∈ alive xs es ↔ e ∈ es ∧ e ∉ killed xs := by
  simp [alive]

/-- A scan adds to what has been reported, and stays sound. -/
theorem Sound.scan {es : List Nat} (h : Sound r xs) (hes : es.Nodup)
    (hscan : BeeRType.scan r xs es = .ok ys) : Sound r ys ∧ ∃ zs, ys = xs ++ zs := by
  induction es generalizing xs with
  | nil =>
      cases hscan
      exact ⟨h, [], (List.append_nil _).symm⟩
  | cons i rest ih =>
      obtain ⟨hirest, hrest⟩ := List.nodup_cons.mp hes
      rw [BeeRType.scan] at hscan
      split at hscan
      · exact ih h hrest hscan
      · rename_i hi
        obtain ⟨zs, hturns, hscan⟩ := Fallible.bind_eq_ok.mp hscan
        obtain ⟨-, hok⟩ | ⟨mid, j, tail, halive, -, -, hok⟩ := scanTurns_cases (r := r) hi hes
        · cases hok.symm.trans hturns
          exact ih h hrest hscan
        · rw [hok] at hturns
          split at hturns
          · cases hturns
            have hj : j ∈ alive xs rest := halive ▸ List.mem_append_right _ List.mem_cons_self
            obtain ⟨hjrest, hjlive⟩ := mem_alive.mp hj
            have hconcat := h.concat hi hjlive fun heq => hirest (heq ▸ hjrest)
            obtain ⟨hsound, zs, rfl⟩ := ih hconcat hrest hscan
            exact ⟨hsound, _, List.append_assoc _ _ _⟩
          · cases hturns

/-- What is left after a collision with the last one that was left. -/
theorem alive_hit {mid : List Nat} (hes : (i :: rest).Nodup) (halive : alive xs rest = mid ++ [j])
    (hkills : (r.kills i j).Nodup) :
    Orderly r (alive (xs ++ [⟨i, j, r.kills i j⟩]) rest) ↔
      r.isControllable i ∧ r.isControllable j ∧ ¬ r.isProjectile j ∧ Orderly r (mid ++ [j]) ∨
        ¬ r.isControllable i ∧ ¬ r.isControllable j ∧ Orderly r mid := by
  obtain ⟨hirest, hrest⟩ := List.nodup_cons.mp hes
  have hnodup : (mid ++ [j]).Nodup := halive ▸ hrest.filter _
  have hi : i ∉ mid ++ [j] := fun hmem => hirest (mem_alive.mp (halive ▸ hmem)).1
  have hne : i ≠ j := fun heq => hi (heq ▸ List.mem_concat_self)
  rw [alive_concat, halive]
  rcases (nodup_kills_iff hne).mp hkills with ⟨hci, hcj, hpj⟩ | ⟨hci, hcj⟩
  · -- The first is killed, the other is left.
    have hleft : (mid ++ [j]).filter (· ∉ r.kills i j) = mid ++ [j] := by
      refine List.filter_eq_self.mpr fun e he => ?_
      rw [decide_eq_true_eq, kills_controllables hci hcj hpj, List.mem_singleton]
      exact fun heq => hi (heq ▸ he)
    rw [hleft]
    exact ⟨fun h => .inl ⟨hci, hcj, hpj, h⟩, fun h => h.elim (·.2.2.2) fun h => absurd hci h.1⟩
  · -- Both are killed.
    have hj : j ∉ mid := fun hmem =>
      (List.nodup_append.mp hnodup).2.2 j hmem j (List.mem_singleton_self j) rfl
    have hmid : mid.filter (· ∉ r.kills i j) = mid :=
      filter_not_mem_kills (fun hmem => hi (List.mem_append_left _ hmem)) hj
    have hleft : (mid ++ [j]).filter (· ∉ r.kills i j) = mid := by
      rw [List.filter_append, hmid, List.filter_cons_of_neg (by simpa using mem_kills_second hci)]
      exact List.append_nil _
    rw [hleft]
    exact ⟨fun h => .inr ⟨hci, hcj, h⟩, fun h => h.elim (fun h => absurd h.1 hci) (·.2.2)⟩

/-- The scan of what is left goes through without killing anybody twice exactly if what
is left is in good order. -/
theorem Sound.scan_iff {es : List Nat} (h : Sound r xs) (honce : ∀ x ∈ xs, x.killed.Nodup)
    (hes : es.Nodup) : (∃ ys, BeeRType.scan r xs es = .ok ys ∧ ∀ x ∈ ys, x.killed.Nodup) ↔
      Orderly r (alive xs es) := by
  induction es generalizing xs with
  | nil => exact iff_of_true ⟨xs, rfl, honce⟩ .nil
  | cons i rest ih =>
      obtain ⟨hirest, hrest⟩ := List.nodup_cons.mp hes
      rw [BeeRType.scan]
      by_cases hi : i ∈ killed xs
      · rw [if_pos hi, alive_cons_of_mem hi]
        exact ih h honce hrest
      · rw [if_neg hi, alive_cons_of_not_mem hi]
        obtain ⟨hapart, hok⟩ | ⟨mid, j, tail, halive, hmid, hj, hok⟩ :=
          scanTurns_cases (r := r) hi hes
        · rw [hok, orderly_apart_iff hapart]
          exact ih h honce hrest
        · have hjmem : j ∈ alive xs rest := halive ▸ List.mem_append_right _ List.mem_cons_self
          obtain ⟨hjrest, hjlive⟩ := mem_alive.mp hjmem
          have hne : i ≠ j := fun heq => hirest (heq ▸ hjrest)
          rw [hok, halive, orderly_hit_iff hmid hj]
          by_cases htail : tail = []
          · subst htail
            have hconcat := h.concat hi hjlive hne
            rw [if_pos rfl, and_iff_right rfl, Fallible.ok_bind]
            by_cases hkills : (r.kills i j).Nodup
            · rw [← alive_hit hes halive hkills]
              refine ih hconcat (fun x hx => ?_) hrest
              rcases List.mem_append.mp hx with hx | hx
              · exact honce x hx
              · rw [List.mem_singleton.mp hx]
                exact hkills
            · refine iff_of_false ?_ fun hkinds => hkills ((nodup_kills_iff hne).mpr ?_)
              · rintro ⟨ys, hscan, hall⟩
                obtain ⟨-, zs, rfl⟩ := hconcat.scan hrest hscan
                exact hkills (hall ⟨i, j, r.kills i j⟩
                  (List.mem_append_left _ List.mem_concat_self))
              · exact hkinds.imp (fun h => ⟨h.1, h.2.1, h.2.2.1⟩) fun h => ⟨h.1, h.2.1⟩
          · rw [if_neg htail]
            refine iff_of_false ?_ fun h => htail h.1
            rintro ⟨ys, hscan, -⟩
            cases hscan

/-! ## The call -/

/-- A filtered range does not depend on a bound that everything kept is below. -/
theorem filter_range_congr {p : Nat → Bool} {m n : Nat} (h : ∀ e, p e → e < m ∧ e < n) :
    (List.range m).filter p = (List.range n).filter p := by
  have hcut {m n : Nat} (hmn : m ≤ n) (h : ∀ e, p e → e < m) :
      (List.range n).filter p = (List.range m).filter p := by
    obtain ⟨d, rfl⟩ := Nat.exists_eq_add_of_le hmn
    rw [List.range_add, List.filter_append, List.append_right_eq_self]
    refine List.filter_eq_nil_iff.mpr fun e he hp => ?_
    obtain ⟨a, -, rfl⟩ := List.mem_map.mp he
    have hlt := h _ hp
    omega
  rcases Nat.le_total m n with hmn | hnm
  · exact (hcut hmn fun e he => (h e he).1).symm
  · exact hcut hnm fun e he => (h e he).2

/-- The call agrees with the scan of the colliders. -/
theorem collisionSystem_agrees (hr : r.Sane) (harrays : r.HasCollisionArrays) :
    ∃ result, collisionSystem r = .ok result ∧
      Fallible.Agree (Viewed r) result (scan r [] r.colliders) := by
  obtain ⟨hposition, hcollidable, hcontrollable, hprojectile⟩ := harrays
  obtain ⟨positions, hpositions⟩ := Registry.getComponents_of_isRegistered hposition
  obtain ⟨collidables, hcollidables⟩ := Registry.getComponents_of_isRegistered hcollidable
  obtain ⟨controllables, hcontrollables⟩ := Registry.getComponents_of_isRegistered hcontrollable
  obtain ⟨projectiles, hprojectiles⟩ := Registry.getComponents_of_isRegistered hprojectile
  refine ⟨(List.range (min positions.size collidables.size)).foldlM
    (CollisionPass.outerTurn (min positions.size collidables.size)) ⟨r, []⟩, ?_, ?_⟩
  · simp only [collisionSystem, hpositions, hcollidables, hcontrollables, hprojectiles]
    rfl
  · have hbound : ∀ e, r.collides e →
        e < min positions.size collidables.size ∧ e < r.nextEntity := by
      intro e he
      obtain ⟨pos, c, hpos, hc⟩ := Registry.exists_of_collides he
      have hpos' : (r.component? .position e).isSome = true := Option.isSome_iff_exists.mpr ⟨pos, hpos⟩
      have hc' : (r.component? .collidable e).isSome = true := Option.isSome_iff_exists.mpr ⟨c, hc⟩
      exact ⟨lt_min (Registry.lt_size_of_component hpositions hpos')
          (Registry.lt_size_of_component hcollidables hc'),
        (Registry.entityExists_iff.mp (hr.entityExists hpos')).1⟩
    have hstart : Viewed r ⟨r, []⟩ [] := ⟨rfl, after_nil hr.erased⟩
    rw [Registry.colliders, ← filter_range_congr hbound, List.range_eq_range']
    exact hstart.outerLoop (Nat.zero_add _)

theorem hasCollisionArrays_of_ok {result : Except EmptySlot CollisionPass}
    (hcall : collisionSystem r = .ok result) : r.HasCollisionArrays := by
  obtain ⟨positions, hpositions, hcall⟩ := Fallible.bind_eq_ok.mp hcall
  obtain ⟨collidables, hcollidables, hcall⟩ := Fallible.bind_eq_ok.mp hcall
  obtain ⟨controllables, hcontrollables, hcall⟩ := Fallible.bind_eq_ok.mp hcall
  obtain ⟨projectiles, hprojectiles, -⟩ := Fallible.bind_eq_ok.mp hcall
  exact ⟨Registry.isRegistered_of_getComponents hpositions,
    Registry.isRegistered_of_getComponents hcollidables,
    Registry.isRegistered_of_getComponents hcontrollables,
    Registry.isRegistered_of_getComponents hprojectiles⟩

theorem nodup_colliders : r.colliders.Nodup := List.nodup_range.filter _

theorem alive_nil {es : List Nat} : alive [] es = es :=
  List.filter_eq_self.mpr fun _ _ => decide_eq_true List.not_mem_nil

/-- A pass that has killed nobody twice for a pair. -/
theorem Sound.asIntended (h : Sound r p.encounters) (hcall : collisionSystem r = .ok (.ok p))
    (hafter : After r (killed p.encounters) p.registry) (hdead : r.deadEntities = [])
    (honce : ∀ x ∈ p.encounters, x.killed.Nodup) : CollidesAsIntended r := by
  have hnodup := h.nodup_iff.mpr honce
  have hunique : ∀ p', collisionSystem r = .ok (.ok p') → p' = p := by
    intro p' hcall'
    rw [hcall] at hcall'
    cases hcall'
    rfl
  refine ⟨fun result hresult => ?_, fun p' hp' => ?_, fun p' hp' => ?_, fun p' hp' => ?_⟩
  · rw [hcall] at hresult
    cases hresult
    exact ⟨p, rfl⟩
  · obtain rfl := hunique p' hp'
    refine ⟨hnodup, ?_⟩
    rw [hafter.dead, hdead]
    exact hnodup
  · obtain rfl := hunique p' hp'
    exact h.fresh
  · -- The kills of a Controllable and a plain entity repeat one of them.
    obtain rfl := hunique p' hp'
    intro x hx
    obtain ⟨hne, hkills⟩ := h.kills x hx
    have hkinds := honce x hx
    rw [hkills, nodup_kills_iff hne] at hkinds
    simp only [Registry.isPlain, Bool.and_eq_true, Bool.not_eq_true']
    refine ⟨fun hfirst hplain => ?_, fun hplain hsecond => ?_⟩
    · rcases hkinds with h | h
      · rw [h.2.1] at hplain
        cases hplain.1
      · exact absurd hfirst h.1
    · rcases hkinds with h | h
      · rw [h.1] at hplain
        cases hplain.1
      · exact absurd hsecond h.2

/-- From a registry without dead entities, a pass does as intended exactly if its
colliders are in good order. -/
theorem Registry.Sane.collidesAsIntended_iff (hr : r.Sane) (hdead : r.deadEntities = []) :
    CollidesAsIntended r ↔ (r.HasCollisionArrays → Orderly r r.colliders) := by
  have hscan := (sound_nil (r := r)).scan_iff (fun x hx => absurd hx List.not_mem_nil)
    (nodup_colliders (r := r))
  rw [alive_nil] at hscan
  by_cases harrays : r.HasCollisionArrays
  · obtain ⟨result, hcall, hagree⟩ := collisionSystem_agrees hr harrays
    rw [forall_prop_of_true harrays, ← hscan]
    constructor
    · intro h
      obtain ⟨p, rfl⟩ := h.defined result hcall
      generalize hys : scan r [] r.colliders = scanned at hagree
      cases hagree with
      | ok hviewed =>
          rename_i ys
          refine ⟨ys, rfl, ?_⟩
          obtain ⟨hsound, -⟩ := sound_nil.scan nodup_colliders hys
          rw [← hsound.nodup_iff, ← hviewed.1]
          exact (h.once p hcall).1
    · rintro ⟨ys, hys, honce⟩
      obtain ⟨hsound, -⟩ := sound_nil.scan nodup_colliders hys
      rw [hys] at hagree
      cases hagree with
      | ok hviewed =>
          rename_i p
          obtain ⟨hencounters, hafter⟩ := hviewed
          subst hencounters
          exact hsound.asIntended hcall hafter hdead honce
  · have hcall {result} (h : collisionSystem r = .ok result) : False :=
      harrays (hasCollisionArrays_of_ok h)
    exact iff_of_true ⟨fun _ h => (hcall h).elim, fun _ h => (hcall h).elim,
      fun _ h => (hcall h).elim, fun _ h => (hcall h).elim⟩ fun h => absurd h harrays

/-! ## Populated registries -/

/-- The operations that a registry is populated by. -/
inductive PopulateOp where
  | registerComponent (k : HitComponent)
  | spawnEntity
  | addComponent (k : HitComponent) (entity : Nat) (c : ComponentKind.Value k)

def PopulateOp.op : PopulateOp → RegistryOp HitComponent
  | .registerComponent k => .registerComponent k
  | .spawnEntity => .spawnEntity
  | .addComponent k entity c => .addComponent k entity c

/-- The registry after some operations on a new one. -/
def populated (ops : List PopulateOp) : Registry HitComponent :=
  (run RegistryHistory.step .new (ops.map PopulateOp.op)).registry

/-- Populating kills nobody. -/
theorem deadEntities_populate {h : RegistryHistory HitComponent} (op : PopulateOp)
    (hh : h.registry.deadEntities = []) : (h.step op.op).registry.deadEntities = [] := by
  cases h.stepped op.op with
  | registered k hop =>
      rw [hop]
      exact Registry.deadEntities_registerComponent.trans hh
  | spawned hop =>
      obtain ⟨ids, e, hids, -⟩ | ⟨-, hspawn⟩ := h.registry.spawnEntity_cases
      · rw [hids] at hh
        cases List.append_eq_nil_iff.mp hh with | intro _ h => cases h
      · rw [hop, RegistryHistory.step, hspawn]
        exact hh
  | killed e hop => cases op <;> cases hop
  | stored k e c _ _ array _ heq =>
      rw [heq]
      exact hh
  | removed k e hop array _ heq => cases op <;> cases hop
  | threw _ heq =>
      rw [heq]
      exact hh

theorem populated_spec (ops : List PopulateOp) :
    (populated ops).Sane ∧ (populated ops).deadEntities = [] := by
  have hrun : EachStep RegistryHistory.step (fun _ op => ∃ op', op = PopulateOp.op op')
      (.new : RegistryHistory HitComponent) (ops.map PopulateOp.op) :=
    eachStep_of_forall fun op hop => by
      obtain ⟨op', -, rfl⟩ := List.mem_map.mp hop
      exact ⟨op', rfl⟩
  have hinv : Always RegistryHistory.step
      (fun h => h.registry.Sane ∧ h.registry.deadEntities = [])
      (.new : RegistryHistory HitComponent) (ops.map PopulateOp.op) := by
    refine always_of_eachStep ⟨Registry.sane_new, rfl⟩ (fun h op hh hop => ?_) hrun
    obtain ⟨op', rfl⟩ := hop
    exact ⟨RegistryHistory.sane_step hh.1, deadEntities_populate op' hh.2⟩
  exact hinv.final

/-- A pass over a populated registry does as intended exactly if the colliders are in
good order. -/
theorem collisionSystem_asIntended_iff (ops : List PopulateOp) :
    CollidesAsIntended (populated ops) ↔
      ((populated ops).HasCollisionArrays → Orderly (populated ops) (populated ops).colliders) :=
  (populated_spec ops).1.collidesAsIntended_iff (populated_spec ops).2

/-- A Controllable that overlaps a plain entity. -/
def playerAndRock : List PopulateOp :=
  [.registerComponent .position, .registerComponent .collidable, .registerComponent .controllable,
    .registerComponent .projectile, .spawnEntity, .spawnEntity,
    .addComponent .position 0 (⟨0, 0⟩ : Position),
    .addComponent .collidable 0 (⟨true, ⟨10, 10⟩⟩ : HitCollidable),
    .addComponent .controllable 0 (),
    .addComponent .position 1 (⟨5, 5⟩ : Position),
    .addComponent .collidable 1 (⟨true, ⟨10, 10⟩⟩ : HitCollidable)]

/-- The Controllable is killed, killed again as if it had not been one, and the other
entity with it. -/
theorem not_collidesAsIntended : ¬ CollidesAsIntended (populated playerAndRock) := by
  obtain ⟨hsane, hdead⟩ := populated_spec playerAndRock
  rw [hsane.collidesAsIntended_iff hdead]
  intro h
  have hcolliders : (populated playerAndRock).colliders = [] ++ 0 :: ([] ++ 1 :: []) := by
    decide +kernel
  have horderly := h ⟨rfl, rfl, rfl, rfl⟩
  rw [hcolliders, List.nil_append, orderly_hit_iff (fun _ hj => absurd hj List.not_mem_nil)
    (by decide +kernel)] at horderly
  rcases horderly.2 with ⟨-, hcontrol, -⟩ | ⟨hcontrol, -⟩
  · exact absurd hcontrol (by decide +kernel)
  · exact absurd hcontrol (by decide +kernel)

end BeeRType
