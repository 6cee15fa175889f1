-- SUMMARY: The stream of CREATE and DESTROY packets of a game, and the objects it leaves at a client that replays it.
import BeeRType.Game.Calls

/-!
# The stream of a game

A game announces its objects to the clients by packets only. Each piece of work
adds a proper log of changes to the stream of every class, and the ids of the class
are what replaying the log makes of the ids before. New ids come from counters that
only go up.
-/

open Cpp Std Transition Replay

namespace BeeRType

namespace Game

/-- The ids of the stored objects of a class. -/
def ids (g : Game) : ObjectClass → Set Int
  | .player => {i | i ∈ g.players}
  | .enemy => {i | i ∈ g.enemies}
  | .boss => {i | i ∈ g.bosses}
  | .bullet => {i | i ∈ g.bullets}

/-- The counter that the ids of a class are taken from. Players are numbered by
`initializePlayers`. -/
def nextId (g : Game) : ObjectClass → Int
  | .player => 0
  | .enemy => g.enemyId
  | .boss => g.bossId
  | .bullet => g.nextBulletId

/-- All ids have been taken from the counters. -/
def Numbered (g : Game) : Prop := ∀ c, c ≠ .player → ∀ i ∈ g.ids c, i < g.nextId c

/-- From `g` to `g'` the stream of a class is continued by a log. -/
structure Continues (g g' : Game) (c : ObjectClass) (log : List (Change Int)) : Prop where
  announced : announced c g'.broadcasts =
    announced c g.broadcasts ++ log.map (Change.map toStringInt)
  proper : Proper (g.ids c) log
  ids : g'.ids c = replay (g.ids c) log
  nextId_le : g.nextId c ≤ g'.nextId c
  fresh : c ≠ .player → (created log).Nodup ∧
    ∀ i ∈ created log, g.nextId c ≤ i ∧ i < g'.nextId c

variable {g m g' : Game} {c c' : ObjectClass} {log log' : List (Change Int)}
  {messages : List Message} {id playerId : Int} {x y : ℚ}

theorem announced_append (c : ObjectClass) (messages messages' : List Message) :
    announced c (messages ++ messages') = announced c messages ++ announced c messages' :=
  List.filterMap_append

namespace Continues

theorem trans (h : Continues g m c log) (h' : Continues m g' c log') :
    Continues g g' c (log ++ log') where
  announced := by rw [h'.announced, h.announced, List.map_append, List.append_assoc]
  proper := proper_append.mpr ⟨h.proper, by rw [← h.ids]; exact h'.proper⟩
  ids := by rw [replay_append, ← h.ids, h'.ids]
  nextId_le := h.nextId_le.trans h'.nextId_le
  fresh := by
    intro hc
    obtain ⟨hnodup, hrange⟩ := h.fresh hc
    obtain ⟨hnodup', hrange'⟩ := h'.fresh hc
    rw [created_append]
    refine ⟨List.nodup_append.mpr ⟨hnodup, hnodup', ?_⟩, fun i hi => ?_⟩
    · rintro i hi j hj rfl
      have hlt := (hrange i hi).2
      have hle := (hrange' i hj).1
      omega
    · have hle := h.nextId_le
      have hle' := h'.nextId_le
      rcases List.mem_append.mp hi with hi | hi
      · have := hrange i hi
        omega
      · have := hrange' i hi
        omega

/-- Work that leaves the ids of a class as they are and does not announce any. -/
theorem quiet (hids : g'.ids c = g.ids c) (hnext : g'.nextId c = g.nextId c)
    (hmessages : g'.broadcasts = g.broadcasts ++ messages)
    (hquiet : ∀ m ∈ messages, c.announces m.type m.payload.f1 = none) : Continues g g' c [] where
  announced := by
    rw [hmessages, announced_append, List.map_nil]
    exact congrArg _ (List.filterMap_eq_nil_iff.mpr hquiet)
  proper := trivial
  ids := hids
  nextId_le := hnext.ge
  fresh := fun _ => ⟨List.nodup_nil, fun _ hi => absurd hi List.not_mem_nil⟩

end Continues

/-- The stream of every class is continued, and ids go on being taken from the
counters. -/
def Streams (g g' : Game) : Prop :=
  Numbered g → Numbered g' ∧ ∀ c, ∃ log, Continues g g' c log

theorem Streams.trans (h : Streams g m) (h' : Streams m g') : Streams g g' := by
  intro hg
  obtain ⟨hm, hlogs⟩ := h hg
  obtain ⟨hg', hlogs'⟩ := h' hm
  refine ⟨hg', fun c => ?_⟩
  obtain ⟨log, hlog⟩ := hlogs c
  obtain ⟨log', hlog'⟩ := hlogs' c
  exact ⟨_, hlog.trans hlog'⟩

/-- Work that leaves all ids as they are and announces nothing. -/
theorem Streams.quiet (hids : g'.ids = g.ids) (hnext : g'.nextId = g.nextId)
    (hmessages : g'.broadcasts = g.broadcasts ++ messages)
    (hquiet : ∀ c : ObjectClass, ∀ m ∈ messages, c.announces m.type m.payload.f1 = none) :
    Streams g g' := by
  intro hg
  refine ⟨?_, fun c => ⟨[], ?_⟩⟩
  · unfold Numbered
    rw [hids, hnext]
    exact hg
  · exact .quiet (congrFun hids c) (congrFun hnext c) hmessages (hquiet c)

/-! ## Creating -/

theorem ids_insertIfNew {E : Type} {entities : ExtTreeMap Int E} {e : E} :
    {i | i ∈ entities.insertIfNew id e} = insert id ({i | i ∈ entities} : Set Int) := by
  ext i
  rw [Set.mem_insert_iff, Set.mem_ofPred_eq, Set.mem_ofPred_eq, ExtTreeMap.mem_insertIfNew,
    Std.compare_eq_iff_eq, eq_comm]

/-- An object of one class is created under the next id. -/
theorem Streams.create {payload : Payload} (hc : c ≠ .player)
    (hids : ∀ c', g'.ids c' = if c' = c then insert (g.nextId c) (g.ids c) else g.ids c')
    (hnext : ∀ c', g'.nextId c' = if c' = c then g.nextId c + 1 else g.nextId c')
    (hmessages : g'.broadcasts = g.broadcasts ++ [⟨c.createType, payload⟩])
    (hid : payload.f1 = toStringInt (g.nextId c)) : Streams g g' := by
  intro hg
  refine ⟨fun c' hc' i hi => ?_, fun c' => ?_⟩
  · rw [hids] at hi
    rw [hnext]
    split at hi
    · rename_i heq
      subst heq
      rw [if_pos rfl]
      rcases hi with rfl | hi
      · omega
      · have := hg c' hc' i hi
        omega
    · rename_i hne
      rw [if_neg hne]
      exact hg c' hc' i hi
  · by_cases heq : c' = c
    · subst heq
      refine ⟨[.create (g.nextId c')], ?_, ⟨fun hmem => ?_, trivial⟩, ?_, ?_, fun _ => ⟨?_, ?_⟩⟩
      · rw [hmessages, announced_append]
        simp [announced, hid, Change.map]
      · exact absurd (hg c' hc _ hmem) (Int.lt_irrefl _)
      · rw [hids, if_pos rfl]
        rfl
      · rw [hnext, if_pos rfl]
        omega
      · exact List.nodup_singleton _
      · intro i hi
        obtain rfl := List.mem_singleton.mp hi
        rw [hnext, if_pos rfl]
        omega
    · refine ⟨[], .quiet ?_ ?_ hmessages ?_⟩
      · rw [hids, if_neg heq]
      · rw [hnext, if_neg heq]
      · intro m hm
        obtain rfl := List.mem_singleton.mp hm
        rw [ObjectClass.announces_createType, if_neg heq]

theorem spawnBullet_streams (h : g.spawnBullet playerId = .ok g') : Streams g g' := by
  obtain rfl | ⟨player, bullet, -, -, rfl⟩ := spawnBullet_new h
  · exact .quiet rfl rfl (List.append_nil _).symm (fun _ _ hm => absurd hm List.not_mem_nil)
  · refine .create (c := .bullet) nofun (fun c' => ?_) (fun c' => ?_) rfl rfl
    · cases c' with
      | bullet => exact ids_insertIfNew
      | _ => rfl
    · cases c' <;> rfl

theorem spawnNextEnemy_streams {draw : Draw} (h : g.spawnNextEnemy draw = .ok g') :
    Streams g g' := by
  obtain ⟨enemy, -, rfl⟩ := spawnEnemy_new h
  refine .create (c := .enemy) nofun (fun c' => ?_) (fun c' => ?_) rfl rfl
  · cases c' with
    | enemy => exact ids_insertIfNew
    | _ => rfl
  · cases c' <;> rfl

theorem spawnNextBoss_streams {draw : Draw} (h : g.spawnNextBoss draw = .ok g') :
    Streams g g' := by
  obtain ⟨boss, -, rfl⟩ := spawnBoss_new h
  refine .create (c := .boss) nofun (fun c' => ?_) (fun c' => ?_) rfl rfl
  · cases c' with
    | boss => exact ids_insertIfNew
    | _ => rfl
  · cases c' <;> rfl

/-! ## Destroying -/

/-- The ids that the calls of `removeEntities` remove. -/
def removedIds (g : Game) : ObjectClass → List Int
  | .player => (removeEntities g.players g.deadPlayers).removed
  | .enemy => (removeEntities g.enemies g.deadEnemies).removed
  | .boss => (removeEntities g.bosses g.deadBosses).removed
  | .bullet => (removeEntities g.bullets g.deadBullets).removed

theorem announced_destroyed {ids : List Int} : announced c (destroyed c'.destroyType ids) =
    if c = c' then ids.map fun id => Change.destroy (toStringInt id) else [] := by
  unfold announced destroyed
  rw [List.filterMap_map]
  split
  · rename_i heq
    subst heq
    simp
  · rename_i hne
    simp [hne]

theorem ids_removeEntities {E : Type} {entities : ExtTreeMap Int E} {dead : List Int} :
    {i | i ∈ (removeEntities entities dead).entities} =
      ({i | i ∈ entities} : Set Int) \ {i | i ∈ (removeEntities entities dead).removed} := by
  ext i
  simp only [Set.mem_sdiff, Set.mem_ofPred_eq]
  exact mem_removeEntities_iff

/-- The packets of the four calls of `removeEntities`. -/
def removalMessages (g : Game) : List Message :=
  [ObjectClass.bullet, .enemy, .player, .boss].flatMap fun c =>
    destroyed c.destroyType (g.removedIds c)

/-- The packet that announces that an object is gone. -/
def destroyMessage (c : ObjectClass) (id : Int) : Message :=
  ⟨c.destroyType, ⟨toStringInt id, str "0", str "0", str "0", str "0"⟩⟩

theorem destroyMessage_inj : destroyMessage c id = destroyMessage c' playerId ↔
    c = c' ∧ id = playerId := by
  constructor
  · intro h
    have htype : c.destroyType = c'.destroyType := congrArg Message.type h
    have hid : toStringInt id = toStringInt playerId := congrArg (fun m => m.payload.f1) h
    refine ⟨?_, toStringInt_injective hid⟩
    cases c <;> cases c' <;> first | rfl | cases htype
  · rintro ⟨rfl, rfl⟩
    rfl

theorem nodup_removedIds : (g.removedIds c).Nodup := by
  cases c <;> exact nodup_removed

theorem mem_ids_of_mem_removedIds {i : Int} (h : i ∈ g.removedIds c) : i ∈ g.ids c := by
  cases c <;> exact mem_of_mem_removed h

theorem ids_removeAll : g.removeBullets.removeEnemies.removePlayers.removeBosses.ids c =
    g.ids c \ {i | i ∈ g.removedIds c} := by
  rw [removeAll_eq]
  cases c <;> exact ids_removeEntities

theorem broadcasts_removeAll :
    g.removeBullets.removeEnemies.removePlayers.removeBosses.broadcasts =
      g.broadcasts ++ g.removalMessages := by
  rw [removeAll_eq]
  simp [removalMessages, removedIds, ObjectClass.destroyType]

theorem announced_removalMessages :
    announced c g.removalMessages = (g.removedIds c).map fun id => .destroy (toStringInt id) := by
  simp only [removalMessages, List.flatMap_cons, List.flatMap_nil, announced_append,
    announced_destroyed]
  cases c <;> simp [announced]

theorem removeAll_streams :
    Streams g g.removeBullets.removeEnemies.removePlayers.removeBosses := by
  have hnext : ∀ c, g.removeBullets.removeEnemies.removePlayers.removeBosses.nextId c =
      g.nextId c := by
    intro c
    cases c <;> rfl
  intro hg
  refine ⟨fun c hc i hi => ?_, fun c => ⟨(g.removedIds c).map .destroy, ?_, ?_, ?_, ?_, fun _ => ?_⟩⟩
  · rw [ids_removeAll] at hi
    rw [hnext]
    exact hg c hc i hi.1
  · rw [broadcasts_removeAll, announced_append, announced_removalMessages, List.map_map]
    rfl
  · exact proper_destroy nodup_removedIds fun i hi => mem_ids_of_mem_removedIds hi
  · rw [ids_removeAll, replay_destroy]
  · exact (hnext c).ge
  · rw [created_map_destroy]
    exact ⟨List.nodup_nil, fun _ hi => absurd hi List.not_mem_nil⟩

theorem Detected.ids (h : Detected g g') : g'.ids = g.ids := by
  funext c
  cases c with
  | player => exact Set.ext fun i => h.mem_players
  | enemy => exact congrArg (fun m : ExtTreeMap Int Enemy => {i : Int | i ∈ m}) h.enemies
  | boss => exact congrArg (fun m : ExtTreeMap Int Boss => {i : Int | i ∈ m}) h.bosses
  | bullet => exact congrArg (fun m : ExtTreeMap Int Bullet => {i : Int | i ∈ m}) h.bullets

/-- The loops over the colliding pairs announce nothing. -/
theorem Detected.streams (h : Detected g g') : Streams g g' := by
  have hnext : g'.nextId = g.nextId := by
    funext c
    cases c with
    | player => rfl
    | enemy => exact (congrArg Game.enemyId h.frame :)
    | boss => exact (congrArg Game.bossId h.frame :)
    | bullet => exact (congrArg Game.nextBulletId h.frame :)
  have hbroadcasts : g'.broadcasts = g.broadcasts ++ [] := by
    rw [h.broadcasts, List.append_nil]
  exact .quiet h.ids hnext hbroadcasts fun _ _ hm => absurd hm List.not_mem_nil

theorem detectOutOfBounds_ids : g.detectOutOfBounds.ids = g.ids := by
  funext c
  cases c <;> rfl

theorem detectOutOfBounds_streams : Streams g g.detectOutOfBounds := by
  have hnext : g.detectOutOfBounds.nextId = g.nextId := by
    funext c
    cases c <;> rfl
  exact .quiet detectOutOfBounds_ids hnext (List.append_nil _).symm fun _ _ hm =>
    absurd hm List.not_mem_nil

theorem checkCollisions_streams : Streams g g.checkCollisions := by
  rw [checkCollisions_eq]
  exact (detectAll_detected.streams.trans detectOutOfBounds_streams).trans removeAll_streams

/-! ## Runs -/

/-- Work that announces nothing keeps the stream as it is. -/
theorem announces_eq_none {type : PacketType} {id : Bytes}
    (h : type = .uiUpdate ∨ type = .change) : c.announces type id = none := by
  rcases h with rfl | rfl <;> cases c <;> rfl

theorem ids_map {E E' : Type} {entities : ExtTreeMap Int E} {f : Int → E → E'} :
    {i | i ∈ entities.map f} = ({i | i ∈ entities} : Set Int) :=
  Set.ext fun _ => ExtTreeMap.mem_map

theorem streams_rule : Rule Streams where
  refl := fun g => .quiet rfl rfl (List.append_nil _).symm fun _ _ hm => absurd hm List.not_mem_nil
  trans := Streams.trans
  record := by
    rintro g g' heq
    rw [heq]
    exact .quiet rfl rfl (List.append_nil _).symm fun _ _ hm => absurd hm List.not_mem_nil
  report := fun g messages hm =>
    .quiet rfl rfl rfl fun c m hmem => announces_eq_none (.inl (hm m hmem))
  moveBullets := by
    intro g
    refine .quiet ?_ rfl (List.append_nil _).symm fun _ _ hm => absurd hm List.not_mem_nil
    funext c
    cases c with
    | bullet => exact ids_map
    | _ => rfl
  moveEnemies := by
    intro g
    refine .quiet ?_ rfl (List.append_nil _).symm fun _ _ hm => absurd hm List.not_mem_nil
    funext c
    cases c with
    | enemy => exact ids_map
    | boss => exact ids_map
    | _ => rfl
  handlePlayerMove := by
    intro g playerId actionId g' h
    obtain ⟨player, positions, messages, -, hmessages, rfl⟩ := handlePlayerMove_new h
    refine .quiet ?_ rfl rfl fun c m hmem => announces_eq_none (.inr (hmessages m hmem))
    funext c
    cases c with
    | player => exact Set.ext fun _ => ExtTreeMap.mem_modify
    | _ => rfl
  spawnBullet := spawnBullet_streams
  spawnNextEnemy := spawnNextEnemy_streams
  spawnNextBoss := spawnNextBoss_streams
  checkCollisions := fun _ => checkCollisions_streams

/-- A player is created under an id that is not in use. -/
theorem spawnPlayer_streams (hid : playerId ∉ g.players) (h : g.spawnPlayer playerId x y = .ok g') :
    Streams g g' := by
  obtain ⟨players, hp, score, hmem, rfl⟩ := spawnPlayer_ok h
  intro hg
  refine ⟨fun c hc i hi => ?_, fun c => ?_⟩
  · cases c with
    | player => exact absurd rfl hc
    | _ => exact hg _ hc i hi
  · cases c with
    | player =>
        refine ⟨[.create playerId], ?_, ⟨hid, trivial⟩, ?_, Int.le_refl _, fun hc => absurd rfl hc⟩
        · rw [announced_append]
          rfl
        · exact Set.ext hmem
    | _ =>
        refine ⟨[], .quiet rfl rfl rfl fun m hm => ?_⟩
        rcases List.mem_pair.mp hm with rfl | rfl <;> rfl

/-- `initializePlayers` on a new game creates each player once. -/
theorem initializePlayers_streams {numPlayers : Int}
    (h : new.initializePlayers numPlayers = .ok g) : Streams new g := by
  have hrun := initializePlayers_rule (P := fun pre b => pre.Nodup →
    (∀ i, i ∈ b.players ↔ ∃ k ∈ pre, ((k : Nat) : Int) = i) ∧ Streams new b) h ?_ ?_
  · exact (hrun List.nodup_range).2
  · intro _
    refine ⟨by simp [new], ?_⟩
    exact .quiet rfl rfl (List.append_nil _).symm fun _ _ hm => absurd hm List.not_mem_nil
  · intro pre k b b' hb hspawn hnodup
    obtain ⟨hpre, -, hk⟩ := List.nodup_append.mp hnodup
    obtain ⟨hmem, hstreams⟩ := hb hpre
    have hnew : (k : Int) ∉ b.players := by
      rw [hmem]
      rintro ⟨j, hj, hjk⟩
      exact hk j hj k List.mem_cons_self (Int.ofNat_inj.mp hjk)
    refine ⟨fun i => ?_, hstreams.trans (spawnPlayer_streams hnew hspawn)⟩
    obtain ⟨players, hp, score, hplayers, rfl⟩ := spawnPlayer_ok hspawn
    rw [hplayers, hmem]
    simp only [List.mem_append, List.mem_singleton, or_and_right, exists_or, exists_eq_left]
    rw [or_comm, eq_comm]

/-- The stream of a class tells exactly which objects there are: replaying it from
nothing leaves their ids, each packet fits what is there, and the ids that come from
a counter are used once. -/
structure Faithful (g : Game) (c : ObjectClass) : Prop where
  replay : replay ∅ (announced c g.broadcasts) = Set.image toStringInt (g.ids c)
  proper : Proper ∅ (announced c g.broadcasts)
  fresh : c ≠ .player → (created (announced c g.broadcasts)).Nodup

theorem Streams.faithful (h : Streams new g) (c : ObjectClass) : Faithful g c := by
  have hnone : new.ids c = ∅ := by
    cases c <;> exact Set.eq_empty_of_forall_notMem fun i hi => ExtTreeMap.not_mem_empty hi
  have hstart : Numbered new := by
    intro c hc i hi
    cases c <;> exact absurd hi ExtTreeMap.not_mem_empty
  obtain ⟨log, hlog⟩ := (h hstart).2 c
  have hannounced : announced c g.broadcasts = log.map (Change.map toStringInt) := hlog.announced
  have himage : (∅ : Set Bytes) = Set.image toStringInt (new.ids c) := by
    rw [hnone, Set.image_empty]
  constructor
  · rw [hannounced, himage, replay_image toStringInt_injective, hlog.ids]
  · rw [hannounced, himage, proper_image toStringInt_injective]
    exact hlog.proper
  · intro hc
    rw [hannounced, created_map]
    exact (hlog.fresh hc).1.map toStringInt_injective

end Game

namespace History

/-- In every run of one game on a new `Game`, the CREATE and DESTROY packets of each
class tell exactly which objects there are. -/
theorem stream_faithful (numPlayers : Int) {calls : List Call} (hcalls : ∀ c ∈ calls, c.InGame)
    (c : ObjectClass) :
    (run step new (.initializePlayers numPlayers :: calls)).game.Faithful c := by
  obtain ⟨g, hg⟩ := Game.exists_initializePlayers (g := .new) rfl numPlayers
  have hstart : new.step (.initializePlayers numPlayers) = ⟨g, none⟩ := by
    simp only [step, new, Game.perform, hg]
    rfl
  rw [run_cons, hstart]
  refine Game.Streams.faithful ?_ c
  refine (always_of_eachStep (I := fun s : History => Game.Streams .new s.game)
    (Game.initializePlayers_streams hg) ?_ (eachStep_of_forall hcalls)).final
  intro s call hs hcall
  obtain ⟨h, -⟩ | ⟨game, -, hok, h⟩ | ⟨e, -, -, h⟩ := s.step_cases call
  · rw [h]
    exact hs
  · rw [h]
    exact hs.trans (Game.streams_rule.perform hcall hok)
  · rw [h]
    exact hs

/-- Two players, one of whom shoots. -/
theorem stream_faithful_shot :
    (run step new (.initializePlayers 2 :: [.spawnBullet 1, .checkCollisions])).game.Faithful
      .bullet :=
  stream_faithful 2 (by simp [Call.InGame]) .bullet

end History

end BeeRType
