-- SUMMARY: Every packet that a run of the server broadcasts can be read by the client.
import BeeRType.Client.Compared
import BeeRType.Game.CollisionTick
import BeeRType.Game.Published
import BeeRType.Game.Reachable
import BeeRType.Server.Dispatch
import BeeRType.World.Calls

/-!
# Packets of the game

What a game prints into its packets comes from its counters, from the positions of
players, which stay close to where they are spawned, and from random draws. As long
as the counters fit an `int`, every packet has the form that the client reads. Only
the hit points and the score of UI_UPDATE have no bound.
-/

open Cpp Std Transition

namespace BeeRType

/-- A packet that the client can read, whatever UI_UPDATE shows. -/
def Message.Readable (m : Message) : Prop := m.type = .uiUpdate ∨ m.payload.CallSite

/-- A position that `std::to_string` prints in full. -/
def Position.Near (pos : Position) : Prop := |pos.x| ≤ 2 ^ 40 ∧ |pos.y| ≤ 2 ^ 40

namespace Game

/-- The counters have not passed the largest `int`. -/
def CountersFit (g : Game) : Prop := ∀ c, g.nextId c ≤ 2 ^ 31

structure InRange (g : Game) : Prop where
  ids : ∀ c, ∀ i ∈ g.ids c, 0 ≤ i ∧ i < 2 ^ 31
  counters : ∀ c, 0 ≤ g.nextId c
  near : AllEntries (fun p : Player => p.position.Near) g.players
  readable : ∀ m ∈ g.broadcasts, m.Readable

/-- What the calls of a game keep while the counters fit. -/
structure KeepsInRange (g g' : Game) : Prop where
  nextId_le : ∀ c, g.nextId c ≤ g'.nextId c
  broadcasts : ∃ messages, g'.broadcasts = g.broadcasts ++ messages
  inRange : g.InRange → g'.CountersFit → g'.InRange

variable {g m g' : Game} {c : ObjectClass} {messages : List Message} {playerId i : Int}

theorem keepsInRange_trans (h : KeepsInRange g m) (h' : KeepsInRange m g') :
    KeepsInRange g g' := by
  refine ⟨fun c => (h.nextId_le c).trans (h'.nextId_le c), ?_, fun hg hfit => ?_⟩
  · obtain ⟨messages, heq⟩ := h.broadcasts
    obtain ⟨messages', heq'⟩ := h'.broadcasts
    exact ⟨messages ++ messages', by rw [heq', heq, List.append_assoc]⟩
  · exact h'.inRange (h.inRange hg fun c => (h'.nextId_le c).trans (hfit c)) hfit

/-- New ids come from the counters, and new packets can be read. -/
theorem KeepsInRange.intro (hnext : ∀ c, g.nextId c ≤ g'.nextId c)
    (hids : ∀ c, ∀ i ∈ g'.ids c, i ∈ g.ids c ∨ g.nextId c ≤ i ∧ i < g'.nextId c)
    (hnear : AllEntries (fun p : Player => p.position.Near) g.players →
      AllEntries (fun p : Player => p.position.Near) g'.players)
    (hbroadcasts : g'.broadcasts = g.broadcasts ++ messages)
    (hreadable : g.InRange → g'.CountersFit → ∀ m ∈ messages, m.Readable) :
    KeepsInRange g g' := by
  refine ⟨hnext, ⟨messages, hbroadcasts⟩, fun hg hfit => ⟨fun c i hi => ?_, fun c => (hg.counters c).trans (hnext c),
    hnear hg.near, fun m hm => ?_⟩⟩
  · rcases hids c i hi with hold | ⟨hle, hlt⟩
    · exact hg.ids c i hold
    · exact ⟨(hg.counters c).trans hle, hlt.trans_le (hfit c)⟩
  · rw [hbroadcasts] at hm
    rcases List.mem_append.mp hm with hm | hm
    · exact hg.readable m hm
    · exact hreadable hg hfit m hm

/-- Work that leaves players, ids and counters alone. -/
theorem KeepsInRange.quiet (hids : g'.ids = g.ids) (hnext : g'.nextId = g.nextId)
    (hplayers : g'.players = g.players) (hbroadcasts : g'.broadcasts = g.broadcasts ++ messages)
    (hreadable : ∀ m ∈ messages, m.Readable) : KeepsInRange g g' := by
  refine .intro (fun c => by rw [hnext]) (fun c i hi => ?_) (fun h => ?_) hbroadcasts
    fun _ _ => hreadable
  · rw [hids] at hi
    exact .inl hi
  · rw [hplayers]
    exact h

/-! ## Fields of packets -/

theorem exists_int32 {i : Int} (hlow : 0 ≤ i) (hhigh : i < 2 ^ 31) :
    ∃ id : Int32, toStringInt i = toStringInt id.toInt := by
  refine ⟨Int32.ofInt i, ?_⟩
  rw [Int32.toInt_ofInt_of_le (by omega) (by omega)]

/-- A packet with an id, two numbers and a velocity. -/
theorem callSite_of_bounds {vx vy : Bytes} {x y : ℚ} (hlow : 0 ≤ i) (hhigh : i < 2 ^ 31)
    (hx : |x| ≤ fltMax) (hy : |y| ≤ fltMax)
    (hvx : vx ∈ [str "0", str "5", str "-1", str "-0.1"])
    (hvy : vy ∈ [str "0", str "5", str "-1", str "-0.1"]) :
    Payload.CallSite ⟨toStringInt i, toStringFloat x, toStringFloat y, vx, vy⟩ where
  id := exists_int32 hlow hhigh
  rest := by
    intro f hf
    simp only [List.mem_cons, List.not_mem_nil, or_false] at hf
    rcases hf with rfl | rfl | rfl | rfl
    · exact .inr ⟨x, hx, rfl⟩
    · exact .inr ⟨y, hy, rfl⟩
    · exact .inl hvx
    · exact .inl hvy

/-- A packet with an id only. -/
theorem callSite_of_id (hlow : 0 ≤ i) (hhigh : i < 2 ^ 31) :
    Payload.CallSite ⟨toStringInt i, str "0", str "0", str "0", str "0"⟩ where
  id := exists_int32 hlow hhigh
  rest := by
    intro f hf
    simp only [List.mem_cons, List.not_mem_nil, or_false, or_self] at hf
    exact .inl (by simp [hf])

theorem abs_le_fltMax {x : ℚ} (h : |x| ≤ 2 ^ 40 + 50) : |x| ≤ fltMax :=
  h.trans (by norm_num [fltMax])

theorem abs_add_le_fltMax {x d : ℚ} (hx : |x| ≤ 2 ^ 40) (hlow : 0 ≤ d) (hhigh : d ≤ 50) :
    |x + d| ≤ fltMax := by
  refine abs_le_fltMax ((abs_add_le x d).trans ?_)
  rw [abs_of_nonneg hlow]
  linarith

theorem abs_y_le (draw : Draw) : |draw.y| ≤ fltMax := by
  refine abs_le_fltMax ?_
  rw [abs_of_nonneg draw.y_mem.1]
  linarith [draw.y_mem.2]

theorem clampPositionToBounds_near (x y : ℚ) :
    Position.Near ⟨(clampPositionToBounds x y).1, (clampPositionToBounds x y).2⟩ := by
  unfold clampPositionToBounds Position.Near
  dsimp only
  constructor
  · split
    · norm_num
    · split
      · norm_num
      · rw [abs_le]
        constructor <;> linarith
  · split
    · norm_num
    · split
      · norm_num
      · rw [abs_le]
        constructor <;> linarith

/-! ## Calls -/

/-- `playerPacketFactory` prints positions of players in the map. -/
theorem broadcasts_publishAll (g : Game) (ids : List Nat) :
    ∃ messages, (g.publishAll ids).broadcasts = g.broadcasts ++ messages ∧
      ∀ m ∈ messages, ∃ (id : Int) (p : Player), g.players[id]? = some p ∧
        m = changeMessage id p.position := by
  induction ids generalizing g with
  | nil => exact ⟨[], (List.append_nil _).symm, fun m hm => absurd hm List.not_mem_nil⟩
  | cons k ids ih =>
      obtain ⟨later, hlater, hmessages⟩ := ih (g.publishPosition k)
      rw [publishPosition_players] at hmessages
      cases hp : g.players[(k : Int)]? with
      | none =>
          rw [publishPosition_of_not_mem hp] at hlater
          refine ⟨later, ?_, hmessages⟩
          rw [publishAll, List.foldl_cons, publishPosition_of_not_mem hp]
          exact hlater
      | some p =>
          by_cases hknown : g.lastKnownPositions[(k : Int)]? = some (p.position.x, p.position.y)
          · rw [publishPosition_of_known hp hknown] at hlater
            refine ⟨later, ?_, hmessages⟩
            rw [publishAll, List.foldl_cons, publishPosition_of_known hp hknown]
            exact hlater
          · have hstep := publishPosition_of_changed hp hknown
            refine ⟨changeMessage k p.position :: later, ?_, fun m hm => ?_⟩
            · rw [publishAll, List.foldl_cons]
              refine hlater.trans ?_
              rw [hstep, List.append_assoc]
              rfl
            · rcases List.mem_cons.mp hm with rfl | hm
              · exact ⟨k, p, hp, rfl⟩
              · exact hmessages m hm

theorem mem_ids_player {p : Player} (h : g.players[i]? = some p) : i ∈ g.ids .player := by
  change i ∈ g.players
  rw [ExtTreeMap.mem_iff_isSome_getElem?, h]
  rfl

theorem handlePlayerMove_keepsInRange {actionId : Int}
    (h : g.handlePlayerMove playerId actionId = .ok g') : KeepsInRange g g' := by
  obtain ⟨player, hplayer, rfl⟩ := handlePlayerMove_eq h
  have hnear : AllEntries (fun p : Player => p.position.Near) g.players →
      AllEntries (fun p : Player => p.position.Near)
        (g.movePlayer playerId actionId player.position).players := by
    intro hg
    refine hg.modify fun p hp hclose => ?_
    obtain rfl := Option.some.inj (hplayer.symm.trans hp)
    -- The way to the target is added to where the player is.
    change Position.Near (GameObject.position (player.toGameObject.move _ _))
    rw [GameObject.position_move]
    split
    · rw [add_sub_cancel, add_sub_cancel]
      exact clampPositionToBounds_near _ _
    · exact hclose
  obtain ⟨messages, hbroadcasts, hmessages⟩ := broadcasts_publishAll
    (g.movePlayer playerId actionId player.position)
    (List.range (g.movePlayer playerId actionId player.position).players.size)
  obtain ⟨positions, messages', -, heq⟩ :=
    playerPacketFactory_eq (g := g.movePlayer playerId actionId player.position)
  have hplayers : (g.movePlayer playerId actionId player.position).playerPacketFactory.players =
      (g.movePlayer playerId actionId player.position).players := by rw [heq]
  have hids : (g.movePlayer playerId actionId player.position).playerPacketFactory.ids =
      g.ids := by
    rw [heq]
    funext c
    cases c with
    | player => exact Set.ext fun _ => ExtTreeMap.mem_modify
    | _ => rfl
  have hnext : (g.movePlayer playerId actionId player.position).playerPacketFactory.nextId =
      g.nextId := by
    rw [heq]
    funext c
    cases c <;> rfl
  refine .intro (fun c => by rw [hnext]) (fun c i hi => ?_) (fun hg => ?_) hbroadcasts ?_
  · rw [hids] at hi
    exact .inl hi
  · rw [hplayers]
    exact hnear hg
  · intro hg _ m hm
    obtain ⟨id, p, hp, rfl⟩ := hmessages m hm
    have hmem : id ∈ g.ids .player := by
      rw [← hids]
      change id ∈ (Game.playerPacketFactory _).players
      rw [hplayers]
      exact mem_ids_player hp
    obtain ⟨hlow, hhigh⟩ := hg.ids .player id hmem
    have hclose := hnear hg.near id p hp
    exact .inr (callSite_of_bounds hlow hhigh
      (abs_le_fltMax (hclose.1.trans (by norm_num))) (abs_le_fltMax (hclose.2.trans (by norm_num)))
      (by simp) (by simp))

/-- An object is created under the next id. -/
theorem KeepsInRange.create {payload : Payload}
    (hids : ∀ c', g'.ids c' = if c' = c then insert (g.nextId c) (g.ids c) else g.ids c')
    (hnext : ∀ c', g'.nextId c' = if c' = c then g.nextId c + 1 else g.nextId c')
    (hplayers : g'.players = g.players)
    (hbroadcasts : g'.broadcasts = g.broadcasts ++ [⟨c.createType, payload⟩])
    (hpayload : g.InRange → g.nextId c < 2 ^ 31 → payload.CallSite) : KeepsInRange g g' := by
  refine .intro (fun c' => ?_) (fun c' i hi => ?_) (fun h => ?_) hbroadcasts fun hg hfit m hm => ?_
  · rw [hnext]
    split
    · rename_i heq
      rw [heq]
      omega
    · exact Int.le_refl _
  · rw [hids] at hi
    split at hi
    · rename_i heq
      subst heq
      refine hi.symm.imp_right ?_
      rintro rfl
      rw [hnext, if_pos rfl]
      omega
    · exact .inl hi
  · rw [hplayers]
    exact h
  · obtain rfl := List.mem_singleton.mp hm
    refine .inr (hpayload hg ?_)
    have hle := hfit c
    rw [hnext, if_pos rfl] at hle
    omega

theorem spawnBullet_keepsInRange (h : g.spawnBullet playerId = .ok g') : KeepsInRange g g' := by
  obtain rfl | ⟨player, bullet, hplayer, -, rfl⟩ := spawnBullet_new h
  · exact .quiet rfl rfl rfl (List.append_nil _).symm fun _ hm => absurd hm List.not_mem_nil
  · refine .create (c := .bullet) (fun c' => ?_) (fun c' => ?_) rfl rfl fun hg hlt => ?_
    · cases c' with
      | bullet => exact ids_insertIfNew
      | _ => rfl
    · cases c' <;> rfl
    · obtain ⟨hx, hy⟩ := hg.near playerId player hplayer
      exact callSite_of_bounds (hg.counters .bullet) hlt
        (abs_add_le_fltMax hx (by norm_num) (by norm_num))
        (abs_add_le_fltMax hy (by norm_num) (by norm_num)) (by simp) (by simp)

theorem spawnNextEnemy_keepsInRange {draw : Draw} (h : g.spawnNextEnemy draw = .ok g') :
    KeepsInRange g g' := by
  obtain ⟨enemy, -, rfl⟩ := spawnEnemy_new h
  refine .create (c := .enemy) (fun c' => ?_) (fun c' => ?_) rfl rfl fun hg hlt => ?_
  · cases c' with
    | enemy => exact ids_insertIfNew
    | _ => rfl
  · cases c' <;> rfl
  · exact callSite_of_bounds (hg.counters .enemy) hlt (abs_le_fltMax (by norm_num)) (abs_y_le draw)
      (by simp) (by simp)

theorem spawnNextBoss_keepsInRange {draw : Draw} (h : g.spawnNextBoss draw = .ok g') :
    KeepsInRange g g' := by
  obtain ⟨boss, -, rfl⟩ := spawnBoss_new h
  refine .create (c := .boss) (fun c' => ?_) (fun c' => ?_) rfl rfl fun hg hlt => ?_
  · cases c' with
    | boss => exact ids_insertIfNew
    | _ => rfl
  · cases c' <;> rfl
  · exact callSite_of_bounds (hg.counters .boss) hlt (abs_le_fltMax (by norm_num)) (abs_y_le draw)
      (by simp) (by simp)

theorem nextId_removeAll :
    g.removeBullets.removeEnemies.removePlayers.removeBosses.nextId = g.nextId := by
  funext c
  cases c <;> rfl

theorem nextId_detectOutOfBounds : g.detectOutOfBounds.nextId = g.nextId := by
  funext c
  cases c <;> rfl

theorem nextId_checkCollisions : g.checkCollisions.nextId = g.nextId := by
  have hframe := (detectAll_detected (g := g)).frame
  rw [checkCollisions_eq, nextId_removeAll, nextId_detectOutOfBounds]
  funext c
  cases c with
  | player => rfl
  | enemy => exact (congrArg Game.enemyId hframe :)
  | boss => exact (congrArg Game.bossId hframe :)
  | bullet => exact (congrArg Game.nextBulletId hframe :)

theorem checkCollisions_keepsInRange : KeepsInRange g g.checkCollisions := by
  have hids : ∀ c, g.detectAll.detectOutOfBounds.ids c = g.ids c := fun c => by
    rw [detectOutOfBounds_ids, detectAll_detected.ids]
  have hremoved : ∀ c, ∀ i ∈ g.checkCollisions.ids c, i ∈ g.ids c := by
    intro c i hi
    rw [checkCollisions_eq, ids_removeAll, hids] at hi
    exact hi.1
  have hbroadcasts : g.checkCollisions.broadcasts =
      g.broadcasts ++ g.detectAll.detectOutOfBounds.removalMessages := by
    rw [checkCollisions_eq, broadcasts_removeAll, detectOutOfBounds_broadcasts,
      detectAll_detected.broadcasts]
  refine .intro (fun c => by rw [nextId_checkCollisions]) (fun c i hi => .inl (hremoved c i hi))
    (fun hg i p' hp' => ?_) hbroadcasts fun hg _ m hm => ?_
  · obtain ⟨p, hp, hposition⟩ := checkCollisions_leavesInPlace.position i p' hp'
    rw [hposition]
    exact hg i p hp
  · obtain ⟨c, i, hi, rfl⟩ := mem_removalMessages.mp hm
    have hmem := mem_ids_of_mem_removedIds hi
    rw [hids] at hmem
    obtain ⟨hlow, hhigh⟩ := hg.ids c i hmem
    exact .inr (callSite_of_id hlow hhigh)

theorem keepsInRange_rule : Rule KeepsInRange where
  refl := fun g => .quiet rfl rfl rfl (List.append_nil _).symm fun _ hm => absurd hm List.not_mem_nil
  trans := keepsInRange_trans
  record := by
    rintro g g' heq
    rw [heq]
    exact .quiet rfl rfl rfl (List.append_nil _).symm fun _ hm => absurd hm List.not_mem_nil
  report := fun g messages hm => .quiet rfl rfl rfl rfl fun m hmem => .inl (hm m hmem)
  moveBullets := by
    intro g
    refine .quiet ?_ rfl rfl (List.append_nil _).symm fun _ hm => absurd hm List.not_mem_nil
    funext c
    cases c with
    | bullet => exact ids_map
    | _ => rfl
  moveEnemies := by
    intro g
    refine .quiet ?_ rfl rfl (List.append_nil _).symm fun _ hm => absurd hm List.not_mem_nil
    funext c
    cases c with
    | enemy => exact ids_map
    | boss => exact ids_map
    | _ => rfl
  handlePlayerMove := handlePlayerMove_keepsInRange
  spawnBullet := spawnBullet_keepsInRange
  spawnNextEnemy := spawnNextEnemy_keepsInRange
  spawnNextBoss := spawnNextBoss_keepsInRange
  checkCollisions := fun _ => checkCollisions_keepsInRange

theorem InRange.spawnPlayer {k : Nat} (hk : (k : Int) < 2 ^ 31) (hg : g.InRange)
    (h : g.spawnPlayer k (100 * (k + 1)) 100 = .ok g') : g'.InRange := by
  have hnear : Position.Near ⟨100 * (k + 1), 100⟩ := by
    have hcast : (k : ℚ) < 2 ^ 31 := by exact_mod_cast hk
    constructor
    · rw [abs_of_nonneg (by positivity)]
      dsimp only
      linarith
    · norm_num
  have hplayers : AllEntries (fun p : Player => p.position.Near) g'.players := by
    intro i p hp
    -- Another player, one who was there already and stays in place, or the new one.
    obtain ⟨-, hother⟩ | ⟨-, q, hq, rfl⟩ | ⟨-, -, hposition, -⟩ := getElem?_spawnPlayer h hp
    · exact hg.near i p hother
    · exact hg.near i q hq
    · rw [hposition]
      exact hnear
  obtain ⟨players, hp, score, hmem, rfl⟩ := spawnPlayer_ok h
  refine ⟨fun c i hi => ?_, fun c => ?_, hplayers, fun m hm => ?_⟩
  · have hold := hg.ids c i
    cases c with
    | player =>
        rcases (hmem i).mp hi with rfl | hi
        · exact ⟨Int.natCast_nonneg k, hk⟩
        · exact hold hi
    | _ => exact hold hi
  · have hcounter := hg.counters c
    cases c <;> exact hcounter
  · rcases List.mem_append.mp hm with hm | hm
    · exact hg.readable m hm
    · rcases List.mem_pair.mp hm with rfl | rfl
      · exact .inr (callSite_of_bounds (Int.natCast_nonneg k) hk
          (abs_le_fltMax (hnear.1.trans (by norm_num))) (abs_le_fltMax (by norm_num)) (by simp)
          (by simp))
      · exact .inl rfl

theorem InRange.initializePlayers {numPlayers : Int} (hn : numPlayers ≤ 2 ^ 31) (hg : g.InRange)
    (h : g.initializePlayers numPlayers = .ok g') : g'.InRange := by
  refine initializePlayers_rule (P := fun pre b => (∀ k ∈ pre, ((k : Nat) : Int) < numPlayers) →
    b.InRange) h (fun _ => ⟨hg.ids, hg.counters, hg.near, hg.readable⟩) ?_ fun k hk => ?_
  · intro pre k b b' hb hspawn hlt
    have hk : (k : Int) < numPlayers := hlt k (by simp)
    exact (hb fun j hj => hlt j (List.mem_append_left _ hj)).spawnPlayer (by omega) hspawn
  · rw [List.mem_range] at hk
    omega

theorem InRange.stop (hg : g.InRange) : g.stop.InRange where
  ids := by
    intro c i hi
    cases c <;> exact absurd hi ExtTreeMap.not_mem_empty
  counters := by
    intro c
    have hcounter := hg.counters c
    cases c <;> exact hcounter
  near := AllEntries.empty
  readable := hg.readable

theorem exists_broadcasts_initializePlayers {numPlayers : Int}
    (h : g.initializePlayers numPlayers = .ok g') :
    ∃ messages, g'.broadcasts = g.broadcasts ++ messages := by
  refine initializePlayers_rule (P := fun _ b => ∃ messages,
    b.broadcasts = g.broadcasts ++ messages) h ⟨[], (List.append_nil _).symm⟩ ?_
  rintro pre i b b' ⟨messages, hb⟩ hspawn
  obtain ⟨players, hp, score, -, rfl⟩ := spawnPlayer_ok hspawn
  exact ⟨_, by rw [hb, List.append_assoc]⟩

/-- No call of the server leaves the range, unless a counter does. -/
theorem keepsInRange_perform {call : Call} (hcall : call.OfServer)
    (hn : ∀ numPlayers, call = .initializePlayers numPlayers → numPlayers ≤ 2 ^ 31)
    (h : g.perform call = .ok g') : KeepsInRange g g' := by
  obtain hingame | ⟨numPlayers, rfl⟩ | ⟨numClients, rfl⟩ | rfl := hcall
  · exact keepsInRange_rule.perform hingame h
  · refine ⟨fun c => ?_, ?_, fun hg _ => hg.initializePlayers (hn numPlayers rfl) h⟩
    · rw [initializePlayers_frame h]
      cases c <;> exact Int.le_refl _
    · exact exists_broadcasts_initializePlayers h
  · cases h
    have hover : Message.Readable ⟨.gameEnd, ⟨str "0", str "0", str "0", str "0", str "0"⟩⟩ :=
      .inr (callSite_of_id (i := 0) (by norm_num) (by norm_num))
    rcases checkPlayersAlive_cases g numClients with heq | heq <;> rw [heq]
    · exact .quiet rfl rfl rfl (List.append_nil _).symm fun _ hm => absurd hm List.not_mem_nil
    · refine ⟨fun c => by cases c <;> exact Int.le_refl _, ⟨_, rfl⟩, fun hg _ => InRange.stop ?_⟩
      refine ⟨hg.ids, hg.counters, hg.near, fun m hm => ?_⟩
      rcases List.mem_append.mp hm with hm | hm
      · exact hg.readable m hm
      · rw [List.mem_singleton.mp hm]
        exact hover
  · cases h
    exact ⟨fun c => by cases c <;> exact Int.le_refl _, ⟨[], (List.append_nil _).symm⟩,
      fun hg _ => hg.stop⟩

/-- What has been broadcast stays so. -/
theorem exists_broadcasts_perform {call : Call} (hcall : call.OfServer)
    (h : g.perform call = .ok g') : ∃ messages, g'.broadcasts = g.broadcasts ++ messages := by
  obtain hingame | ⟨numPlayers, rfl⟩ | hrest := hcall
  · exact (keepsInRange_rule.perform hingame h).broadcasts
  · exact exists_broadcasts_initializePlayers h
  · refine (keepsInRange_perform (.inr (.inr hrest)) (fun numPlayers heq => ?_) h).broadcasts
    obtain ⟨numClients, rfl⟩ | rfl := hrest <;> cases heq

theorem inRange_new : new.InRange where
  ids := by
    intro c i hi
    cases c <;> exact absurd hi ExtTreeMap.not_mem_empty
  counters := fun c => by cases c <;> exact Int.le_refl _
  near := AllEntries.empty
  readable := fun m hm => absurd hm List.not_mem_nil

end Game

/-! ## Datagrams -/

/-- The datagram is a packet that the client can read. -/
def Built (data : Bytes) : Prop :=
  ∃ (s : Server) (m : Message), m.Readable ∧ (s.createPacket m.type m.payload.data).1 = data

theorem Built.cons {data : Bytes} (h : Built data) :
    ∃ (t : PacketType) (rest : Bytes), data = t.byte :: 59 :: rest ∧
      (t ≠ .uiUpdate → ∃ (s : Server) (p : Payload),
        p.CallSite ∧ (s.createPacket t p.data).1 = data) := by
  obtain ⟨s, m, hreadable, rfl⟩ := h
  refine ⟨m.type, _, by rw [Server.createPacket_data m.payload.data_ne_nil], fun ht => ?_⟩
  exact ⟨s, m.payload, hreadable.resolve_left ht, rfl⟩

/-- No such packet makes `parseMessage` throw. -/
theorem Built.handleReceive {data : Bytes} (h : Built data) (c : Client) (now : ℚ)
    (source : Endpoint) : ∃ c', c.handleReceive now .success source data = .ok c' := by
  obtain ⟨t, rest, rfl, -⟩ := h.cons
  simp only [Client.handleReceive, Client.parseMessage, maxLength, List.take_succ_cons]
  split
  · exact ⟨_, rfl⟩
  · split <;> exact ⟨_, rfl⟩

theorem Built.wellFormed {data : Bytes} (h : Built data)
    (hheartbeat : data.head? ≠ some PacketType.heartbeat.byte)
    (hui : data.head? ≠ some PacketType.uiUpdate.byte) : Client.WellFormed data := by
  obtain ⟨t, rest, rfl, hcallSite⟩ := h.cons
  have ht : t ≠ .heartbeat := by
    rintro rfl
    exact hheartbeat rfl
  obtain ⟨s, p, hp, hdata⟩ := hcallSite (by rintro rfl; exact hui rfl)
  rw [← hdata, Client.WellFormed, List.take_of_length_le (hp.fits s t),
    Client.comparedNumber_createPacket ht hp]
  rfl

namespace Server

/-- Everything that is sent, or waits to be sent, is such a packet. -/
structure AllBuilt (s : Server) : Prop where
  queue : ∀ data ∈ s.sendQueue, Built data
  sent : ∀ datagram ∈ s.sent, Built datagram.2

variable {s s' : Server} {e : Endpoint}

theorem AllBuilt.of_eq (hs : s.AllBuilt) (hqueue : s'.sendQueue = s.sendQueue)
    (hsent : s'.sent = s.sent) : s'.AllBuilt :=
  ⟨by rw [hqueue]; exact hs.queue, by rw [hsent]; exact hs.sent⟩

theorem built_nil (s : Server) (t : PacketType) : Built (s.createPacket t []).1 :=
  ⟨s, ⟨t, .minusOnes⟩, .inr Payload.minusOnes_callSite, by rw [s.createPacket_nil]⟩

theorem AllBuilt.broadcastPacket (hs : s.AllBuilt) {t : PacketType} {data : Bytes}
    (h : Built (s.createPacket t data).1) : (s.broadcastPacket t data).AllBuilt where
  queue := fun data hdata => by
    rcases List.mem_append.mp hdata with hdata | hdata
    · exact hs.queue data hdata
    · rw [List.mem_singleton.mp hdata]
      exact h
  sent := hs.sent

theorem AllBuilt.unicasts (hs : s.AllBuilt) (h : Unicasts s s' e) : s'.AllBuilt := by
  obtain ⟨t, -, hsent⟩ := h.sent
  refine ⟨by rw [h.queue]; exact hs.queue, fun datagram hdatagram => ?_⟩
  rw [hsent] at hdatagram
  rcases List.mem_append.mp hdatagram with hdatagram | hdatagram
  · exact hs.sent datagram hdatagram
  · rw [List.mem_singleton.mp hdatagram]
    exact built_nil s t

theorem AllBuilt.disconnectData (hs : s.AllBuilt) (e : Endpoint) :
    (s.disconnectData e).2.AllBuilt := by
  by_cases hknown : s.Registered e
  · obtain ⟨availableIds, k, hsilent⟩ := disconnectData_silent hknown
    rw [hsilent]
    exact hs.of_eq rfl rfl
  · exact hs.unicasts (disconnectData_unicasts hknown).1

theorem AllBuilt.handleSendTimer (hs : s.AllBuilt) : s.handleSendTimer.AllBuilt := by
  cases hqueue : s.sendQueue with
  | nil =>
      rw [handleSendTimer_nil hqueue]
      exact hs
  | cons message rest =>
      have hmessage : Built message := hs.queue message (by rw [hqueue]; exact List.mem_cons_self)
      rw [handleSendTimer_cons hqueue]
      refine ⟨fun data hdata => hs.queue data (by rw [hqueue]; exact List.mem_cons_of_mem _ hdata),
        fun datagram hdatagram => ?_⟩
      rcases List.mem_append.mp hdatagram with hdatagram | hdatagram
      · exact hs.sent datagram hdatagram
      · obtain ⟨client, -, rfl⟩ := List.mem_map.mp hdatagram
        exact hmessage

theorem AllBuilt.handleReceive (hs : s.AllBuilt) (error : ReceiveError) (source : Endpoint)
    (data : Bytes) : (s.handleReceive error source data).AllBuilt := by
  cases error <;> exact hs.of_eq rfl rfl

/-- The packets of a game are broadcast one by one. -/
theorem AllBuilt.broadcastAll (hs : s.AllBuilt) {messages : List Message}
    (h : ∀ m ∈ messages, m.Readable) :
    (messages.foldl (fun s m => s.broadcastPacket m.type m.payload.data) s).AllBuilt := by
  induction messages generalizing s with
  | nil => exact hs
  | cons m messages ih =>
      exact ih (hs.broadcastPacket ⟨s, m, h m List.mem_cons_self, rfl⟩) fun m' hm' =>
        h m' (List.mem_cons_of_mem _ hm')

end Server

namespace World

/-- The world's threads have been given numbers of players that fit an `int`. -/
def ThreadsFit (w : World) : Prop := ∀ t ∈ w.threads, t.numPlayers ≤ 2 ^ 31

/-- While the counters of the game fit, the server talks so that clients can read it. -/
structure Talks (w : World) : Prop where
  threads : w.ThreadsFit
  inRange : w.game.CountersFit → w.game.InRange
  built : w.game.CountersFit → w.server.AllBuilt

variable {w : World} {e : Event}

theorem numPlayers_le_int (w : World) : w.numPlayers ≤ 2 ^ 31 := by
  have hlt := (Int32.ofNat w.server.clients.size).toInt_lt
  unfold numPlayers
  omega

/-- A step that makes a call on the game. -/
theorem keepsInRange_step (hw : w.ThreadsFit) (e : Event) :
    Game.KeepsInRange w.game (w.step e).game := by
  have hperform : ∀ {c : Call}, c.InGame → w.game.perform c = .ok (w.step e).game →
      Game.KeepsInRange w.game (w.step e).game := fun hc h =>
    Game.keepsInRange_rule.perform hc h
  cases step_gameStepped w e with
  | same heq =>
      rw [heq]
      exact Game.keepsInRange_rule.refl _
  | queued playerId action heq =>
      exact hperform (c := .addPlayerAction playerId action) trivial (by rw [heq]; rfl)
  | shot playerId heq => exact hperform (c := .spawnBullet playerId) trivial heq
  | stopped heq =>
      rw [heq]
      have hok : w.game.perform .stop = .ok w.game.stop := rfl
      exact Game.keepsInRange_perform (.inr (.inr (.inr rfl))) nofun hok
  | called c hc heq =>
      obtain ⟨i, now, draws, t, -, -, ht, hcall⟩ := hc
      refine Game.keepsInRange_perform (Game.ofServer_of_call hcall) ?_ heq
      rintro numPlayers rfl
      have hn : t.numPlayers = numPlayers := by
        cases hpc : t.pc <;> simp only [Thread.call, hpc] at hcall <;> cases hcall
        rfl
      rw [← hn]
      exact hw t (List.mem_of_getElem? ht)

theorem threadsFit_step (hw : w.ThreadsFit) (e : Event) : (w.step e).ThreadsFit := by
  have hnew : ∀ t ∈ w.threads ++ [⟨w.numPlayers, .initializePlayers⟩],
      t.numPlayers ≤ 2 ^ 31 := by
    intro t ht
    rcases List.mem_append.mp ht with ht | ht
    · exact hw t ht
    · rw [List.mem_singleton.mp ht]
      exact w.numPlayers_le_int
  cases step_stepped w e with
  | idle heq | received _ _ _ heq | sent heq | crashed _ _ _ _ _ _ _ _ _ heq =>
      rw [heq]
      exact hw
  | ran i _ _ t _ _ _ _ ht _ heq =>
      rw [heq]
      intro t' ht'
      rcases List.mem_or_eq_of_mem_set ht' with ht' | rfl
      · exact hw t' ht'
      · exact hw t (List.mem_of_getElem? ht)
  | handled packet rest _ _ _ heq =>
      rw [heq]
      cases handlePacket_handled (w.setPacketQueue rest) packet with
      | started _ _ h =>
          rw [h]
          exact hnew
      | shot playerId _ h =>
          rw [h]
          cases (w.setPacketQueue rest).game.spawnBullet playerId <;> exact hw
      | ignored h | connected _ h | disconnected _ h | ended _ _ h | moved _ _ _ h | pinged h =>
          rw [h]
          exact hw

/-- Setting the game of a world broadcasts what the game has added to its packets. -/
theorem allBuilt_setGame {game : Game} (hw : w.server.AllBuilt) (hgame : game.InRange) :
    (w.setGame game).server.AllBuilt :=
  hw.broadcastAll fun m hm => hgame.readable m (List.mem_of_mem_drop hm)

theorem allBuilt_step (hw : w.server.AllBuilt) (hgame : (w.step e).game.InRange) :
    (w.step e).server.AllBuilt := by
  cases step_stepped w e with
  | idle heq | crashed _ _ _ _ _ _ _ _ _ heq =>
      rw [heq]
      exact hw
  | received error source data heq =>
      rw [heq]
      exact hw.handleReceive error source data
  | sent heq =>
      rw [heq]
      exact hw.handleSendTimer
  | ran _ _ _ _ game _ _ _ _ _ heq =>
      rw [heq] at hgame ⊢
      exact allBuilt_setGame hw hgame
  | handled packet rest _ _ _ heq =>
      rw [heq] at hgame ⊢
      -- The answers carry no payload; a shot is the game's, and carries positions.
      have hqueue : (w.setPacketQueue rest).server.AllBuilt := hw.of_eq rfl rfl
      cases handlePacket_handled (w.setPacketQueue rest) packet with
      | ignored h | moved _ _ _ h | ended _ _ h =>
          rw [h]
          exact hw.of_eq rfl rfl
      | connected _ h =>
          rw [h]
          exact hqueue.unicasts Server.reqConnectData_unicasts
      | disconnected _ h =>
          rw [h]
          exact hqueue.disconnectData _
      | started _ _ h =>
          have hrunning :
              Server.AllBuilt { (w.setPacketQueue rest).server with gameRunning := true } :=
            hqueue.of_eq rfl rfl
          rw [h]
          exact hrunning.broadcastPacket (Server.built_nil _ _)
      | pinged h =>
          rw [h]
          exact hqueue.broadcastPacket (Server.built_nil _ _)
      | shot playerId _ h =>
          rw [h] at hgame ⊢
          cases hshot : (w.setPacketQueue rest).game.spawnBullet playerId with
          | error exception => exact hqueue
          | ok game =>
              rw [hshot] at hgame
              exact allBuilt_setGame hqueue hgame

theorem Talks.step (hw : w.Talks) (e : Event) : (w.step e).Talks := by
  have hkeeps := keepsInRange_step hw.threads e
  have hfit : (w.step e).game.CountersFit → w.game.CountersFit := fun h c =>
    (hkeeps.nextId_le c).trans (h c)
  have hinRange : (w.step e).game.CountersFit → (w.step e).game.InRange := fun h =>
    hkeeps.inRange (hw.inRange (hfit h)) h
  exact ⟨threadsFit_step hw.threads e, hinRange, fun h => allBuilt_step (hw.built (hfit h)) (hinRange h)⟩

theorem talks_new : new.Talks where
  threads := fun _ ht => absurd ht List.not_mem_nil
  inRange := fun _ => Game.inRange_new
  built := fun _ => ⟨fun _ h => absurd h List.not_mem_nil, fun _ h => absurd h List.not_mem_nil⟩

theorem talks_run (es : List Event) : (run step new es).Talks :=
  (always_of_step (I := Talks) talks_new fun _ _ h => h.step _).final

/-- Whatever clients send and however the threads interleave: no datagram of the
server makes a client's `parseMessage` throw, and each one but the heartbeat and
UI_UPDATE is read to its end. -/
theorem sent_readable (es : List Event) (hfit : (run step new es).game.CountersFit) :
    ∀ datagram ∈ (run step new es).server.sent,
      (∀ (c : Client) (now : ℚ) (source : Endpoint),
        ∃ c', c.handleReceive now .success source datagram.2 = .ok c') ∧
      (datagram.2.head? ≠ some PacketType.heartbeat.byte →
        datagram.2.head? ≠ some PacketType.uiUpdate.byte → Client.WellFormed datagram.2) := by
  intro datagram hdatagram
  have hbuilt := ((talks_run es).built hfit).sent datagram hdatagram
  exact ⟨hbuilt.handleReceive, hbuilt.wellFormed⟩

/-- One client starts a game and is sent the packets of its player. -/
def onePlayer : List Event :=
  [.receive .success ⟨1, 4000⟩ [1], .process, .receive .success ⟨1, 4000⟩ [3], .process,
    .thread 0 0 fun _ => .origin, .sendTimer, .sendTimer]

theorem sent_readable_onePlayer : ∃ datagram ∈ (run step new onePlayer).server.sent,
    datagram.2.head? = some PacketType.createPlayer.byte ∧ Client.WellFormed datagram.2 := by
  obtain ⟨datagram, hdatagram, htype⟩ : ∃ datagram ∈ (run step new onePlayer).server.sent,
      datagram.2.head? = some PacketType.createPlayer.byte := by decide +kernel
  refine ⟨datagram, hdatagram, htype, ?_⟩
  refine (sent_readable onePlayer (fun c => by cases c <;> decide +kernel) datagram hdatagram).2 ?_ ?_
  · rw [htype]
    decide
  · rw [htype]
    decide

end World

end BeeRType
