-- SUMMARY: The stored objects as they are in memory: copies, destructors and unchecked reads, and that every read finds a position.
import BeeRType.Base.Entries
import BeeRType.Base.Transition
import BeeRType.Game.State
import BeeRType.Network.Announcement

/-!
# Storage

An object in memory is a registry and an entity, and nothing says that the entity has a
position. Objects are copied into the maps, and an object that goes away kills its
entity in a registry that is its own. A read of a position checks neither the index nor
the optional.
-/

open Cpp Std Transition

namespace BeeRType

/-! ## Objects -/

/-- An object of one of the four classes. -/
structure StoredObject where
  registry : Registry Component
  entity : Nat

namespace StoredObject

/-- `Player()`. -/
def default : StoredObject := ⟨.new, 0⟩

/-- The body of the other constructors: `registry` is passed by value. -/
def construct (registry : Registry Component) (x y : ℚ) : Except StdException StoredObject := do
  let spawned := registry.spawnEntity
  let registry ← spawned.2.addComponent .position spawned.1 (⟨x, y⟩ : Position)
  pure ⟨registry, spawned.1⟩

/-- The implicit copy constructor. -/
def copy (o : StoredObject) : StoredObject := ⟨o.registry, o.entity⟩

/-- The object as its destructor leaves it. -/
def destroy (o : StoredObject) : StoredObject :=
  if o.registry.entityExists o.entity then { o with registry := o.registry.killEntity o.entity }
  else o

def move (o : StoredObject) (x y : ℚ) : StoredObject :=
  if o.registry.hasComponent .position o.entity then
    { o with
      registry := o.registry.modifyComponent .position o.entity
        fun pos : Position => ⟨pos.x + x, pos.y + y⟩ }
  else o

/-- `getRegistry().get_components<Position>()[getEntity()]`, without a check of the
index; there is no value where the slot is missing or empty. -/
def read (o : StoredObject) : Except StdException (Option Position) := do
  let array ← o.registry.getComponents .position
  pure (array.get? o.entity)

/-- The index is below the size of the object's own array, and the slot holds a
value. -/
def Readable (o : StoredObject) : Prop :=
  ∃ array, o.registry.getComponents .position = .ok array ∧ o.entity < array.size ∧
    (array.get? o.entity).isSome = true

end StoredObject

/-! ## Maps -/

/-- The maps of a game, by class, and the registry that objects are made from. -/
structure Storage where
  registry : Registry Component
  objects : ObjectClass → ExtTreeMap Int StoredObject
  /-- What the destructors have left, oldest first. -/
  destroyed : List StoredObject

/-- What the member functions of a game do to the objects. -/
inductive StorageOp where
  /-- `emplace(id, Object(registry, x, y))` in one of the spawn functions. -/
  | spawn (c : ObjectClass) (id : Int) (x y : ℚ)
  /-- `handlePlayerMove`, with the way that the player is moved. -/
  | handlePlayerMove (playerId : Int) (x y : ℚ)
  /-- A loop of `updateBullets` or `updateEnemies` over one map. -/
  | moveAll (c : ObjectClass) (x y : ℚ)
  /-- `find` and `erase` in `removeEntities` or in a kill function. -/
  | erase (c : ObjectClass) (id : Int)
  /-- `registry.kill_entity` in a kill function. -/
  | killEntity (entity : Nat)
  | stop

namespace Storage

def new : Storage where
  registry := Game.registerComponents .new
  objects := fun _ => ∅
  destroyed := []

def setObjects (s : Storage) (c : ObjectClass) (m : ExtTreeMap Int StoredObject) : Storage :=
  { s with objects := Function.update s.objects c m }

/-- `emplace`: the node holds a copy of the temporary, and goes away if the id is
taken; then the temporary goes away. -/
def emplace (s : Storage) (c : ObjectClass) (id : Int) (temporary : StoredObject) : Storage :=
  let node := temporary.copy
  let unused := if id ∈ s.objects c then [node.destroy] else []
  { s.setObjects c ((s.objects c).insertIfNew id node) with
    destroyed := s.destroyed ++ unused ++ [temporary.destroy] }

/-- A call on `players[playerId]`, which makes an empty player under an id that is not
in the map. -/
def subscript (s : Storage) (playerId : Int) (f : StoredObject → StoredObject) : Storage :=
  s.setObjects .player (((s.objects .player).insertIfNew playerId .default).modify playerId f)

def step (s : Storage) : StorageOp → Storage
  | .spawn c id x y =>
    match StoredObject.construct s.registry x y with
    | .error _ => s
    | .ok temporary => s.emplace c id temporary
  | .handlePlayerMove playerId x y =>
    -- `getPlayerPosition` throws.
    if playerId ∉ s.objects .player then s
    else s.subscript playerId fun p => p.move x y
  | .moveAll c x y => s.setObjects c ((s.objects c).map fun _ o => o.move x y)
  | .erase c id =>
    match (s.objects c)[id]? with
    | none => s
    | some o =>
      { s.setObjects c ((s.objects c).erase id) with destroyed := s.destroyed ++ [o.destroy] }
  | .killEntity entity => { s with registry := s.registry.killEntity entity }
  | .stop =>
    { s with
      objects := fun _ => ∅
      destroyed := s.destroyed ++ [ObjectClass.player, .enemy, .bullet, .boss].flatMap fun c =>
        (s.objects c).toList.map fun o => o.2.destroy }

/-- A read of any stored object finds a position. -/
def AllReadable (s : Storage) : Prop := ∀ c, AllEntries StoredObject.Readable (s.objects c)

end Storage

/-! ## What the operations keep -/

namespace StoredObject

variable {registry : Registry Component} {o : StoredObject} {x y : ℚ}

/-- A constructor that does not throw has given the object a position. -/
theorem readable_construct (h : construct registry x y = .ok o) : o.Readable := by
  obtain ⟨r, hadd, h⟩ := Fallible.bind_eq_ok.mp h
  obtain rfl := Fallible.pure_eq_ok.mp h
  obtain ⟨array, harray⟩ := Registry.getComponents_addComponent hadd
  refine ⟨_, harray, SparseArray.lt_size_insertAt, ?_⟩
  rw [SparseArray.get?_insertAt, if_pos rfl]
  rfl

theorem Readable.copy (h : o.Readable) : o.copy.Readable := h

theorem Readable.move (h : o.Readable) (x y : ℚ) : (o.move x y).Readable := by
  unfold StoredObject.move
  split
  · obtain ⟨array, harray, -, hslot⟩ := h
    refine ⟨_, Registry.getComponents_modifyComponent harray, SparseArray.lt_size_modify, ?_⟩
    rw [SparseArray.get?_modify, if_pos rfl, Option.isSome_map]
    exact hslot
  · exact h

/-- An empty player has no position to read. -/
theorem not_readable_default : ¬ default.Readable := by
  rintro ⟨array, harray, -⟩
  cases harray

end StoredObject

namespace Storage

variable {s : Storage}

theorem allReadable_new : AllReadable new := fun _ => .empty

theorem allEntries_setObjects {P : StoredObject → Prop} (hs : ∀ c, AllEntries P (s.objects c))
    {c : ObjectClass} {m : ExtTreeMap Int StoredObject} (hm : AllEntries P m) :
    ∀ c', AllEntries P ((s.setObjects c m).objects c') := by
  intro c'
  by_cases hc : c' = c
  · subst hc
    simpa [setObjects] using hm
  · simpa [setObjects, hc] using hs c'

/-- A player that is in the map is found: `operator[]` makes no empty one. -/
theorem subscript_eq {playerId : Int} (h : playerId ∈ s.objects .player)
    (f : StoredObject → StoredObject) :
    s.subscript playerId f = s.setObjects .player ((s.objects .player).modify playerId f) := by
  have hfound : (s.objects .player).insertIfNew playerId .default = s.objects .player := by
    apply ExtTreeMap.ext_getElem?
    intro k
    rw [ExtTreeMap.getElem?_insertIfNew]
    split
    · rename_i hnew
      exact absurd h hnew.2
    · rfl
  rw [subscript, hfound]

theorem AllReadable.step (hs : s.AllReadable) (op : StorageOp) : (s.step op).AllReadable := by
  cases op with
  | spawn c id x y =>
      simp only [Storage.step]
      split
      · exact hs
      · rename_i temporary hconstruct
        have htemporary := StoredObject.readable_construct hconstruct
        exact allEntries_setObjects hs ((hs c).insertIfNew htemporary.copy)
  | handlePlayerMove playerId x y =>
      simp only [Storage.step]
      split
      · exact hs
      · rename_i hfound
        rw [subscript_eq (not_not.mp hfound)]
        exact allEntries_setObjects hs ((hs .player).modify fun _ _ h => h.move x y)
  | moveAll c x y => exact allEntries_setObjects hs ((hs c).map fun _ _ h => h.move x y)
  | erase c id =>
      simp only [Storage.step]
      split
      · exact hs
      · exact allEntries_setObjects hs (hs c).erase
  | killEntity entity => exact hs
  | stop => exact fun _ => .empty

end Storage

/-! ## Destroyed objects -/

/-- The destructor of the object has an entity to kill, and the registry erases
positions. -/
structure StoredObject.Owned (o : StoredObject) : Prop where
  alive : o.registry.entityExists o.entity = true
  erases : Component.position ∈ o.registry.eraseFunctions

namespace StoredObject

variable {registry : Registry Component} {o : StoredObject} {x y : ℚ}

theorem eraseFunctions_spawnEntity :
    registry.spawnEntity.2.eraseFunctions = registry.eraseFunctions := by
  unfold Registry.spawnEntity
  split <;> rfl

theorem owned_construct (h : construct registry x y = .ok o)
    (herases : .position ∈ registry.eraseFunctions) : o.Owned := by
  obtain ⟨r, hadd, h⟩ := Fallible.bind_eq_ok.mp h
  obtain rfl := Fallible.pure_eq_ok.mp h
  refine ⟨?_, ?_⟩
  · rw [Registry.entityExists_addComponent hadd]
    by_contra hexists
    simp [Registry.addComponent, hexists] at hadd
  · rw [Registry.eraseFunctions_addComponent hadd, eraseFunctions_spawnEntity]
    exact herases

theorem Owned.move (h : o.Owned) (x y : ℚ) : (o.move x y).Owned := by
  unfold StoredObject.move
  split
  · refine ⟨?_, ?_⟩
    · rw [Registry.modifyComponent_frame (f := fun r => r.entityExists o.entity) fun _ _ _ => rfl]
      exact h.alive
    · rw [Registry.modifyComponent_frame (f := Registry.eraseFunctions) fun _ _ _ => rfl]
      exact h.erases
  · exact h

/-- A destroyed object has no position. -/
theorem Owned.not_readable_destroy (h : o.Owned) : ¬ o.destroy.Readable := by
  rintro ⟨array, harray, -, hslot⟩
  rw [destroy, if_pos h.alive] at harray hslot
  have hnone := Registry.component?_killEntity (e := o.entity) h.erases
  rw [Registry.component?_of_getComponents harray] at hnone
  rw [hnone] at hslot
  cases hslot

end StoredObject

namespace Storage

variable {s : Storage}

/-- Whatever is destroyed loses its position, and the objects of the maps are not
destroyed. -/
structure OwnPositions (s : Storage) : Prop where
  erases : .position ∈ s.registry.eraseFunctions
  stored : ∀ c, AllEntries StoredObject.Owned (s.objects c)
  destroyed : ∀ o ∈ s.destroyed, ¬ o.Readable

theorem ownPositions_new : new.OwnPositions := ⟨by decide, fun _ => .empty, nofun⟩

/-- More objects that had an entity to kill are destroyed. -/
theorem OwnPositions.destroy (hs : s.OwnPositions) (objects : List StoredObject)
    (hobjects : ∀ o ∈ objects, o.Owned) :
    ∀ o ∈ s.destroyed ++ objects.map .destroy, ¬ o.Readable := by
  intro o ho
  rcases List.mem_append.mp ho with hold | hnew
  · exact hs.destroyed o hold
  · obtain ⟨o', ho', rfl⟩ := List.mem_map.mp hnew
    exact (hobjects o' ho').not_readable_destroy

theorem OwnPositions.emplace (hs : s.OwnPositions) {c : ObjectClass} {id : Int} {o : StoredObject}
    (ho : o.Owned) : (s.emplace c id o).OwnPositions := by
  refine ⟨hs.erases, allEntries_setObjects hs.stored ((hs.stored c).insertIfNew ho), ?_⟩
  let gone : List StoredObject := (if id ∈ s.objects c then [o.copy] else []) ++ [o]
  have hgone : ∀ o' ∈ gone, o'.Owned := by
    intro o' ho'
    rcases List.mem_append.mp ho' with hnode | htemporary
    · split at hnode
      · rw [List.mem_singleton.mp hnode]
        exact ho
      · cases hnode
    · rw [List.mem_singleton.mp htemporary]
      exact ho
  have hlist : (s.emplace c id o).destroyed = s.destroyed ++ gone.map .destroy := by
    simp only [Storage.emplace, gone]
    split <;> simp
  rw [hlist]
  exact hs.destroy gone hgone

theorem OwnPositions.step (hs : s.OwnPositions) (op : StorageOp) : (s.step op).OwnPositions := by
  cases op with
  | spawn c id x y =>
      simp only [Storage.step]
      split
      · exact hs
      · exact hs.emplace (StoredObject.owned_construct ‹_› hs.erases)
  | handlePlayerMove playerId x y =>
      simp only [Storage.step]
      split
      · exact hs
      · rename_i hfound
        rw [subscript_eq (not_not.mp hfound)]
        exact ⟨hs.erases, allEntries_setObjects hs.stored
          ((hs.stored .player).modify fun _ _ h => h.move x y), hs.destroyed⟩
  | moveAll c x y =>
      exact ⟨hs.erases, allEntries_setObjects hs.stored
        ((hs.stored c).map fun _ _ h => h.move x y), hs.destroyed⟩
  | erase c id =>
      simp only [Storage.step]
      split
      · exact hs
      · rename_i o ho
        exact ⟨hs.erases, allEntries_setObjects hs.stored (hs.stored c).erase,
          hs.destroy [o] (by simpa using hs.stored c id o ho)⟩
  | killEntity entity =>
      refine ⟨?_, hs.stored, hs.destroyed⟩
      simp only [Storage.step, Registry.eraseFunctions_killEntity]
      exact hs.erases
  | stop =>
      let gone : List StoredObject := [ObjectClass.player, .enemy, .bullet, .boss].flatMap fun c =>
        (s.objects c).toList.map fun o => o.2
      have hlist : (s.step .stop).destroyed = s.destroyed ++ gone.map .destroy := by
        simp only [Storage.step, gone, List.map_flatMap, List.map_map, Function.comp_def]
      refine ⟨hs.erases, fun _ => .empty, ?_⟩
      rw [hlist]
      refine hs.destroy gone fun o ho => ?_
      obtain ⟨c, -, ho⟩ := List.mem_flatMap.mp ho
      obtain ⟨⟨id, o⟩, hentry, rfl⟩ := List.mem_map.mp ho
      exact hs.stored c id o (ExtTreeMap.mem_toList_iff_getElem?_eq_some.mp hentry)

/-- Destructors take the positions of the objects that go away, temporaries and nodes
included, and of no others. -/
theorem destroyed_not_readable (ops : List StorageOp) :
    Always step (fun s => s.AllReadable ∧ ∀ o ∈ s.destroyed, ¬ o.Readable) new ops :=
  (always_of_step (I := fun s => s.AllReadable ∧ s.OwnPositions)
    ⟨allReadable_new, ownPositions_new⟩ fun _ op hs => ⟨hs.1.step op, hs.2.step op⟩).mono
    fun _ hs => ⟨hs.1, hs.2.destroyed⟩

end Storage

end BeeRType
