-- SUMMARY: The hit points of the players over a whole run, accounted for by the enemies and bosses that have hit them.
import BeeRType.Game.Reachable

/-!
# Hit points

A run is followed by a tally of all collisions of players with enemies and with
bosses, in the order in which `detectCollisions` handles them. An enemy or boss that
has hit a player is removed by the same call and its id is not used again, so that it
is in the tally of a player at most once.
-/

open Cpp Std Transition

namespace BeeRType

namespace Game

variable {g g' : Game} {i : Int} {p : Player}

/-! ## Calls that harm nobody -/

theorem Unharmed.of_eq (hplayers : g'.players = g.players) (hdead : g'.deadPlayers = g.deadPlayers) :
    Unharmed g g' :=
  ⟨by rw [hplayers], hdead⟩

theorem handlePlayerMove_unharmed {playerId actionId : Int}
    (h : g.handlePlayerMove playerId actionId = .ok g') : Unharmed g g' := by
  obtain ⟨player, positions, messages, -, -, rfl⟩ := handlePlayerMove_new h
  refine ⟨ExtTreeMap.ext_getElem? fun j => ?_, rfl⟩
  simp only [movePlayer, ExtTreeMap.getElem?_map, ExtTreeMap.getElem?_modify]
  split
  · rename_i hj
    rw [Std.compare_eq_iff_eq.mp hj, Option.map_map]
    rfl
  · rfl

theorem unharmed_rule : StillRule Unharmed where
  refl := fun _ => .refl
  trans := Unharmed.trans
  record := by
    rintro g g' heq
    rw [heq]
    exact .of_eq rfl rfl
  report := fun _ _ _ => .of_eq rfl rfl
  handlePlayerMove := handlePlayerMove_unharmed
  spawnBullet := by
    intro g playerId g' h
    obtain rfl | ⟨player, bullet, -, -, rfl⟩ := spawnBullet_new h <;> exact .of_eq rfl rfl
  spawnNextEnemy := by
    intro g draw g' h
    obtain ⟨enemy, -, rfl⟩ := spawnEnemy_new h
    exact .of_eq rfl rfl
  spawnNextBoss := by
    intro g draw g' h
    obtain ⟨boss, -, rfl⟩ := spawnBoss_new h
    exact .of_eq rfl rfl

/-- Only `checkCollisions` harms players while a game runs. -/
theorem perform_unharmed {c : Call} (hc : c.InGame) (hcheck : c ≠ .checkCollisions)
    (h : g.perform c = .ok g') : Unharmed g g' := by
  cases c with
  | updateBullets now =>
      cases h
      rw [updateBullets_frame]
      exact .of_eq rfl rfl
  | updateEnemies now =>
      cases h
      rw [updateEnemies_frame]
      exact .of_eq rfl rfl
  | checkCollisions => exact absurd rfl hcheck
  | _ => exact unharmed_rule.perform (by exact hc) h

theorem Unharmed.getElem?_hp (h : Unharmed g g') :
    g'.players[i]?.map Player.hp = g.players[i]?.map Player.hp := by
  have := congrArg (fun m => m[i]?) h.hps
  simpa only [ExtTreeMap.getElem?_map] using this

theorem Unharmed.mem_players (h : Unharmed g g') : i ∈ g'.players ↔ i ∈ g.players := by
  rw [← ExtTreeMap.mem_map (f := fun _ p => p.hp), h.hps, ExtTreeMap.mem_map]

/-! ## A call of `checkCollisions` -/

/-- The players that are not listed as dead survive if they have hit points left. -/
theorem survives_iff (hdead : i ∉ g.deadPlayers) (hhp : 0 < p.hp) : g.Survives i p ↔
    0 < p.hp - 10 * hits p.toGameObject g.enemies - 20 * hits p.toGameObject g.bosses := by
  unfold Survives
  rw [and_iff_right hdead]
  constructor
  · rintro (hnone | hleft)
    · obtain ⟨hk, hm⟩ := Nat.add_eq_zero_iff.mp hnone
      rw [hk, hm]
      simpa using hhp
    · exact hleft
  · exact .inr

/-- The hit points that a player keeps are those after the four calls of
`detectCollisions`. -/
theorem checkCollisions_hp {p' : Player} (hp' : g.checkCollisions.players[i]? = some p') :
    ∃ p, g.players[i]? = some p ∧
      p'.hp = p.hp - 10 * hits p.toGameObject g.enemies - 20 * hits p.toGameObject g.bosses := by
  have hmem : i ∈ g.checkCollisions.players := by
    rw [ExtTreeMap.mem_iff_isSome_getElem?, hp']
    rfl
  obtain ⟨p, hp, -⟩ := mem_players_checkCollisions.mp hmem
  obtain ⟨q, hq, hhp⟩ := (detectAll_player hp).1
  rw [players_checkCollisions] at hp'
  have hleft : g.detectAll.players[i]? = some p' := getElem?_of_removeEntities hp'
  cases hq.symm.trans hleft
  exact ⟨p, hp, hhp⟩

/-- No player that is left is listed as dead. -/
theorem not_mem_deadPlayers_checkCollisions (h : i ∈ g.checkCollisions.players) :
    i ∉ g.checkCollisions.deadPlayers := by
  rw [checkCollisions_eq, removeAll_players] at h
  rw [checkCollisions_eq, removeAll_deadPlayers]
  intro hleft
  exact (mem_removeEntities.mp h).2 (mem_of_mem_left hleft)

/-! ## New players -/

/-- `initializePlayers` gives each new player 100 hit points. -/
theorem initializePlayers_hp {numPlayers : Int} (hnone : g.players = ∅)
    (h : g.initializePlayers numPlayers = .ok g') (hp : g'.players[i]? = some p) : p.hp = 100 := by
  have hrun := initializePlayers_rule (P := fun pre b => pre.Nodup →
    (∀ i ∈ b.players, ∃ k ∈ pre, ((k : Nat) : Int) = i) ∧
      ∀ (i : Int) (p : Player), b.players[i]? = some p → p.hp = 100) h ?_ ?_
  · exact (hrun List.nodup_range).2 i p hp
  · intro _
    simp [hnone]
  · intro pre k b b' hb hspawn hnodup
    obtain ⟨hpre, -, hk⟩ := List.nodup_append.mp hnodup
    obtain ⟨hmem, hhp⟩ := hb hpre
    refine ⟨fun i hi => ?_, fun i p hp => ?_⟩
    · obtain ⟨players, hp, score, hplayers, rfl⟩ := spawnPlayer_ok hspawn
      rcases (hplayers i).mp hi with rfl | hi
      · exact ⟨k, by simp, rfl⟩
      · obtain ⟨j, hj, hji⟩ := hmem i hi
        exact ⟨j, by simp [hj], hji⟩
    · obtain ⟨-, hold⟩ | ⟨rfl, q, hold, -⟩ | ⟨-, -, -, hnew⟩ := getElem?_spawnPlayer hspawn hp
      · exact hhp i p hold
      · obtain ⟨j, hj, hjk⟩ := hmem _ (ExtTreeMap.mem_iff_isSome_getElem?.mpr
          (Option.isSome_of_mem hold))
        exact absurd (Int.ofNat_inj.mp hjk) (hk j hj k List.mem_cons_self)
      · exact hnew

end Game

/-! ## The tally -/

namespace GameRun

/-- The event is a call of `checkCollisions`. -/
def Checks (s : GameRun) (e : Event) : Prop :=
  match e with
  | .step _ => s.terminated = none ∧ s.thread.pc = .checkCollisions
  | _ => False

instance (s : GameRun) (e : Event) : Decidable (s.Checks e) :=
  match e with
  | .step _ => inferInstanceAs (Decidable (_ ∧ _))
  | .addPlayerAction .. => inferInstanceAs (Decidable False)
  | .spawnBullet _ => inferInstanceAs (Decidable False)

variable {s : GameRun} {e : Event}

theorem step_of_checks (h : s.Checks e) : s.step e = { s with
    game := s.game.checkCollisions
    thread := { s.thread with pc := .waveSystem } } := by
  cases e with
  | step tick => simp [step, h.1, Game.threadStep, h.2]
  | addPlayerAction playerId actionId => exact h.elim
  | spawnBullet playerId => exact h.elim

/-- Any other event of a thread in the loop harms nobody, or makes the players. -/
theorem step_of_not_checks (hlooping : s.thread.Looping) (h : ¬ s.Checks e) :
    (Game.Unharmed s.game (s.step e).game ∧
        ((s.step e).thread.pc = .initializePlayers → s.thread.pc = .initializePlayers)) ∨
      (s.thread.pc = .initializePlayers ∧ (s.step e).thread.pc ≠ .initializePlayers ∧
        s.game.initializePlayers s.thread.numPlayers = .ok (s.step e).game) := by
  cases step_stepped s e with
  | same hgame hthread =>
      rw [hgame, hthread]
      exact .inl ⟨.refl, id⟩
  | handled c hc hcall hthread =>
      rw [hthread]
      exact .inl ⟨Game.unharmed_rule.perform hc hcall, id⟩
  | ran tick game pc he hrunning hstep heq =>
      have hpc : pc ≠ .initializePlayers := Game.ne_initializePlayers_of_threadStep hstep
      have hcall := Game.threadStep_call hstep
      rw [heq]
      split at hcall
      · rename_i c hc
        obtain hingame | ⟨numPlayers, rfl⟩ | ⟨numClients, rfl⟩ := Game.call_cases hc
        · refine .inl ⟨Game.perform_unharmed hingame ?_ hcall, fun hback => absurd hback hpc⟩
          rintro rfl
          refine h (he ▸ ⟨hrunning, ?_⟩)
          unfold Thread.call at hc
          split at hc <;> first | assumption | cases hc
        · refine .inr ⟨?_, hpc, ?_⟩
          · unfold Thread.call at hc
            split at hc <;> first | assumption | cases hc
          · unfold Thread.call at hc
            split at hc <;> cases hc
            exact hcall
        · refine absurd ?_ hlooping.1
          unfold Thread.call at hc
          split at hc <;> first | assumption | cases hc
      · rw [hcall]
        exact .inl ⟨.refl, fun hback => absurd hback hpc⟩

end GameRun

/-- A run with the collisions of players so far: the id of the player and that of the
enemy or boss. -/
structure Tally where
  run : GameRun
  enemyHits : List (Int × Int)
  bossHits : List (Int × Int)

namespace Tally

/-- `run(numPlayers)` is entered on a new game. -/
def start (numPlayers : Int) : Tally := ⟨.enter .new numPlayers, [], []⟩

/-- A call of `checkCollisions` adds the pairs that its loops over the players handle. -/
def step (T : Tally) (e : GameRun.Event) : Tally :=
  if T.run.Checks e then {
    run := T.run.step e
    enemyHits := T.enemyHits ++
      Game.collidingPairs T.run.game.playerObjects T.run.game.enemies.toList
    bossHits := T.bossHits ++
      Game.collidingPairs T.run.game.playerObjects T.run.game.bosses.toList }
  else { T with run := T.run.step e }

/-- The enemies or bosses that have hit a player. -/
def struckBy (hits : List (Int × Int)) (i : Int) : Finset Int :=
  ((hits.filter fun h => h.1 = i).map Prod.snd).toFinset

/-- The hit points that a player has left by the tally. -/
def hpLeft (T : Tally) (i : Int) : ℚ :=
  100 - 10 * (struckBy T.enemyHits i).card - 20 * (struckBy T.bossHits i).card

/-- The hit points of all players are positive and those of the tally, and nothing has
hit a player twice. -/
structure Accounted (T : Tally) : Prop where
  hp : ∀ i p, T.run.game.players[i]? = some p → 0 < p.hp ∧ p.hp = T.hpLeft i
  enemyHits : T.enemyHits.Nodup
  bossHits : T.bossHits.Nodup

/-- A player is removed exactly by a call of `checkCollisions` whose collisions leave
it without hit points. -/
def RemovedAtZero (T : Tally) (e : GameRun.Event) : Prop :=
  ∀ i p, T.run.game.players[i]? = some p →
    (i ∉ (T.step e).run.game.players ↔ T.run.Checks e ∧ (T.step e).hpLeft i ≤ 0) ∧
      (T.run.Checks e → ∃ q, T.run.game.detectAll.players[i]? = some q ∧
        q.hp = (T.step e).hpLeft i)

/-! ## What has hit a player is gone -/

/-- Every enemy or boss in the tally is gone and does not come back. -/
structure Spent (k : ObjectClass) (g : Game) (hits : List (Int × Int)) : Prop where
  nodup : hits.Nodup
  gone : ∀ h ∈ hits, h.2 < g.nextId k ∧ h.2 ∉ g.ids k

variable {T : Tally} {e : GameRun.Event} {es : List GameRun.Event} {g g' : Game} {i : Int}
  {p : Player} {k : ObjectClass} {hits new : List (Int × Int)}

theorem Spent.retires (h : Spent k g hits) (hretires : Game.Retires k g g') : Spent k g' hits where
  nodup := h.nodup
  gone := fun a ha => ⟨(h.gone a ha).1.trans_le hretires.1,
    fun hback => (h.gone a ha).2 (hretires.2 a.2 (h.gone a ha).1 hback)⟩

/-- Hits by what is there before a call and gone after it. -/
theorem Spent.append (h : Spent k g hits) (hretires : Game.Retires k g g') (hnew : new.Nodup)
    (hnumbered : ∀ j ∈ g.ids k, j < g.nextId k) (hthere : ∀ a ∈ new, a.2 ∈ g.ids k)
    (hgone : ∀ a ∈ new, a.2 ∉ g'.ids k) : Spent k g' (hits ++ new) where
  nodup := by
    refine List.nodup_append.mpr ⟨h.nodup, hnew, ?_⟩
    rintro a ha b hb rfl
    exact (h.gone a ha).2 (hthere a hb)
  gone := by
    intro a ha
    rcases List.mem_append.mp ha with hold | hfresh
    · exact (h.retires hretires).gone a hold
    · exact ⟨(hnumbered _ (hthere a hfresh)).trans_le hretires.1, hgone a hfresh⟩

theorem card_struckBy (h : hits.Nodup) :
    (struckBy hits i).card = hits.countP fun a => a.1 = i := by
  have hdistinct : ((hits.filter fun a => a.1 = i).map Prod.snd).Nodup := by
    refine List.Nodup.map_on (fun a ha b hb hab => ?_) (h.filter _)
    have ha' := of_decide_eq_true (List.mem_filter.mp ha).2
    have hb' := of_decide_eq_true (List.mem_filter.mp hb).2
    exact Prod.ext (ha'.trans hb'.symm) hab
  rw [struckBy, List.toFinset_card_of_nodup hdistinct, List.length_map, List.countP_eq_length_filter]

/-- The ids in the list of the loop of `detectCollisions` are those of stored objects. -/
theorem snd_mem_of_collidingPairs {entitiesA : List (Int × GameObject)}
    {entities : ExtTreeMap Int GameObject} {a : Int × Int}
    (h : a ∈ Game.collidingPairs entitiesA entities.toList) : a.2 ∈ entities := by
  obtain ⟨o, o', -, hb, -⟩ := Game.mem_collidingPairs.mp (show (a.1, a.2) ∈ _ from h)
  rw [ExtTreeMap.mem_iff_isSome_getElem?, ExtTreeMap.mem_toList_iff_getElem?_eq_some.mp hb]
  rfl

/-! ## The invariant -/

structure Inv (T : Tally) : Prop where
  reachable : T.run.game.Reachable
  looping : T.run.thread.Looping
  hp : ∀ i p, T.run.game.players[i]? = some p → 0 < p.hp ∧ p.hp = T.hpLeft i
  enemyHits : Spent .enemy T.run.game T.enemyHits
  bossHits : Spent .boss T.run.game T.bossHits
  deadPlayers : ∀ i ∈ T.run.game.players, i ∉ T.run.game.deadPlayers
  unstarted : T.run.thread.pc = .initializePlayers →
    T.run.game.players = ∅ ∧ T.run.game.deadPlayers = [] ∧ T.enemyHits = [] ∧ T.bossHits = []

theorem step_of_not_checks (h : ¬ T.run.Checks e) : T.step e = { T with run := T.run.step e } :=
  if_neg h

theorem step_of_checks (h : T.run.Checks e) : T.step e = {
    run := T.run.step e
    enemyHits := T.enemyHits ++
      Game.collidingPairs T.run.game.playerObjects T.run.game.enemies.toList
    bossHits := T.bossHits ++
      Game.collidingPairs T.run.game.playerObjects T.run.game.bosses.toList } :=
  if_pos h

theorem looping_step (h : T.run.thread.Looping) : (T.run.step e).thread.Looping := by
  cases GameRun.step_stepped T.run e with
  | same _ hthread =>
      rw [hthread]
      exact h
  | ran tick game pc _ _ hstep heq =>
      rw [heq]
      exact h.step hstep
  | handled c _ _ hthread =>
      rw [hthread]
      exact h

/-- The hits that a call of `checkCollisions` adds. -/
theorem Inv.spent_step (hT : Inv T) (h : T.run.Checks e) :
    Spent .enemy (T.step e).run.game (T.step e).enemyHits ∧
      Spent .boss (T.step e).run.game (T.step e).bossHits := by
  have hgame : (T.run.step e).game = T.run.game.checkCollisions := by
    rw [GameRun.step_of_checks h]
  have hretires : ∀ k, k ≠ .player → Game.Retires k T.run.game (T.run.step e).game := fun k hk =>
    GameRun.step_retires hT.reachable hk
  rw [step_of_checks h]
  refine ⟨hT.enemyHits.append (hretires .enemy nofun) Game.nodup_collidingPairs
    (hT.reachable.numbered .enemy nofun) (fun a ha => snd_mem_of_collidingPairs ha) ?_,
    hT.bossHits.append (hretires .boss nofun) Game.nodup_collidingPairs
    (hT.reachable.numbered .boss nofun) (fun a ha => snd_mem_of_collidingPairs ha) ?_⟩
  · intro a ha
    rw [hgame]
    exact Game.not_mem_checkCollisions.2.1 ⟨a.1, .inr ha⟩
  · intro a ha
    rw [hgame]
    exact Game.not_mem_checkCollisions.2.2 ⟨a.1, .inr ha⟩

/-- A call of `checkCollisions` takes from the tally what it takes from the player. -/
theorem Inv.hpLeft_step (hT : Inv T) (h : T.run.Checks e) (hp : T.run.game.players[i]? = some p) :
    (T.step e).hpLeft i = p.hp - 10 * Game.hits p.toGameObject T.run.game.enemies -
      20 * Game.hits p.toGameObject T.run.game.bosses := by
  obtain ⟨henemies, hbosses⟩ := hT.spent_step h
  rw [(hT.hp i p hp).2, hpLeft, hpLeft, card_struckBy henemies.nodup, card_struckBy hbosses.nodup,
    card_struckBy hT.enemyHits.nodup, card_struckBy hT.bossHits.nodup, step_of_checks h]
  dsimp only
  rw [List.countP_append, List.countP_append, Game.countP_collidingPairs hp,
    Game.countP_collidingPairs hp]
  push_cast
  ring

theorem Inv.step_checks (hT : Inv T) (h : T.run.Checks e) : Inv (T.step e) := by
  obtain ⟨henemies, hbosses⟩ := hT.spent_step h
  have hrun : (T.step e).run = { T.run with
      game := T.run.game.checkCollisions
      thread := { T.run.thread with pc := .waveSystem } } := by
    rw [step_of_checks h, GameRun.step_of_checks h]
  have hgame : (T.step e).run.game = T.run.game.checkCollisions := by rw [hrun]
  refine ⟨?_, ?_, fun i p hp => ?_, henemies, hbosses, fun i hi => ?_, fun hpc => ?_⟩
  · rw [step_of_checks h]
    exact GameRun.step_reachable hT.reachable
  · rw [step_of_checks h]
    exact looping_step hT.looping
  · rw [hgame] at hp
    obtain ⟨q, hq, hhp⟩ := Game.checkCollisions_hp hp
    have hmem : i ∈ T.run.game.checkCollisions.players :=
      ExtTreeMap.mem_iff_isSome_getElem?.mpr (Option.isSome_of_mem hp)
    obtain ⟨q', hq', hsurvives⟩ := Game.mem_players_checkCollisions.mp hmem
    cases hq.symm.trans hq'
    have hdead : i ∉ T.run.game.deadPlayers :=
      hT.deadPlayers i (ExtTreeMap.mem_iff_isSome_getElem?.mpr (Option.isSome_of_mem hq))
    rw [hT.hpLeft_step h hq, hhp]
    exact ⟨(Game.survives_iff hdead (hT.hp i q hq).1).mp hsurvives, rfl⟩
  · rw [hgame] at hi ⊢
    exact Game.not_mem_deadPlayers_checkCollisions hi
  · rw [hrun] at hpc
    cases hpc

theorem Inv.step (hT : Inv T) : Inv (T.step e) := by
  by_cases h : T.run.Checks e
  · exact hT.step_checks h
  · rw [step_of_not_checks h]
    have hretires : ∀ k, k ≠ .player → Game.Retires k T.run.game (T.run.step e).game := fun k hk =>
      GameRun.step_retires hT.reachable hk
    obtain ⟨hunharmed, hpc⟩ | ⟨hstart, hpc, hinit⟩ := GameRun.step_of_not_checks hT.looping h
    · refine ⟨GameRun.step_reachable hT.reachable, looping_step hT.looping, fun i p hp => ?_,
        hT.enemyHits.retires (hretires .enemy nofun), hT.bossHits.retires (hretires .boss nofun),
        fun i hi => ?_, fun hback => ?_⟩
      · have hsame := hunharmed.getElem?_hp (i := i)
        rw [hp] at hsame
        obtain ⟨q, hq, hqhp⟩ := Option.map_eq_some_iff.mp hsame.symm
        rw [← hqhp]
        exact hT.hp i q hq
      · rw [hunharmed.deadPlayers]
        exact hT.deadPlayers i (hunharmed.mem_players.mp hi)
      · obtain ⟨hplayers, hdead, hhits⟩ := hT.unstarted (hpc hback)
        refine ⟨ExtTreeMap.eq_empty_iff_forall_not_mem.mpr fun i hi => ?_, ?_, hhits⟩
        · rw [hunharmed.mem_players, hplayers] at hi
          exact ExtTreeMap.not_mem_empty hi
        · rw [hunharmed.deadPlayers, hdead]
    · obtain ⟨hplayers, hdead, henemies, hbosses⟩ := hT.unstarted hstart
      refine ⟨GameRun.step_reachable hT.reachable, looping_step hT.looping, fun i p hp => ?_,
        hT.enemyHits.retires (hretires .enemy nofun), hT.bossHits.retires (hretires .boss nofun),
        fun i hi => ?_, fun hback => absurd hback hpc⟩
      · rw [Game.initializePlayers_hp hplayers hinit hp, hpLeft, henemies, hbosses]
        norm_num [struckBy]
      · rw [Game.initializePlayers_frame hinit]
        simp [hdead]

theorem inv_start (numPlayers : Int) : Inv (start numPlayers) where
  reachable := .new
  looping := ⟨nofun, nofun⟩
  hp := fun _ _ hp => absurd (ExtTreeMap.mem_iff_isSome_getElem?.mpr (Option.isSome_of_mem hp))
    ExtTreeMap.not_mem_empty
  enemyHits := ⟨List.nodup_nil, fun _ ha => absurd ha List.not_mem_nil⟩
  bossHits := ⟨List.nodup_nil, fun _ ha => absurd ha List.not_mem_nil⟩
  deadPlayers := fun _ hi => absurd hi ExtTreeMap.not_mem_empty
  unstarted := fun _ => ⟨rfl, rfl, rfl, rfl⟩

theorem Inv.removedAtZero (hT : Inv T) : RemovedAtZero T e := by
  intro i p hp
  have hi : i ∈ T.run.game.players :=
    ExtTreeMap.mem_iff_isSome_getElem?.mpr (Option.isSome_of_mem hp)
  by_cases h : T.run.Checks e
  · have hleft := hT.hpLeft_step h hp
    have hsurvives : i ∈ (T.step e).run.game.players ↔ 0 < (T.step e).hpLeft i := by
      rw [hleft, ← Game.survives_iff (hT.deadPlayers i hi) (hT.hp i p hp).1, step_of_checks h,
        GameRun.step_of_checks h]
      refine Game.mem_players_checkCollisions.trans ⟨?_, fun hsurvives => ⟨p, hp, hsurvives⟩⟩
      rintro ⟨q, hq, hsurvives⟩
      cases hp.symm.trans hq
      exact hsurvives
    refine ⟨by rw [hsurvives, and_iff_right h, Std.not_lt], fun _ => ?_⟩
    rw [hleft]
    exact (Game.detectAll_player hp).1
  · refine ⟨⟨fun hgone => absurd ?_ hgone, fun hcheck => absurd hcheck.1 h⟩,
      fun hcheck => absurd hcheck h⟩
    rw [step_of_not_checks h]
    obtain ⟨hunharmed, -⟩ | ⟨hstart, -⟩ := GameRun.step_of_not_checks hT.looping h
    · exact hunharmed.mem_players.mpr hi
    · rw [(hT.unstarted hstart).1] at hi
      exact absurd hi ExtTreeMap.not_mem_empty

/-- In every run of one game the hit points of the players are what the enemies and
bosses that have hit them have left, each of which has hit a player once, and a player
is removed exactly by the call of `checkCollisions` that leaves none. -/
theorem hitPoints_accounted (numPlayers : Int) (es : List GameRun.Event) :
    Always step Accounted (start numPlayers) es ∧
      EachStep step RemovedAtZero (start numPlayers) es := by
  have hinv : Always step Inv (start numPlayers) es :=
    always_of_step (inv_start numPlayers) fun _ _ hT => hT.step
  exact ⟨hinv.mono fun T hT => ⟨hT.hp, hT.enemyHits.nodup, hT.bossHits.nodup⟩,
    hinv.eachStep fun T e hT => hT.removedAtZero⟩

/-- Two waves meet the player at the place where they appear: five enemies leave it 50
hit points, then a boss and four enemies leave it none. -/
example : (Transition.run step (start 1) (GameRun.twoWaves.take 63)).hpLeft 0 = 50 ∧
    (Transition.run step (start 1) GameRun.twoWaves).hpLeft 0 = -10 := by decide +kernel

end Tally

end BeeRType
