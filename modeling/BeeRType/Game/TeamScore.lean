-- SUMMARY: The score of a player over a whole run, accounted for by the hits since the player came into the game.
import BeeRType.Base.Ageing
import BeeRType.Game.Scores
import Mathlib.Algebra.Group.Basic

/-!
# The score of the team

Every hit on an enemy or a boss is paid to all players, whoever has made it. The score of
a player is what has been paid since the player came in, and another call of
`initializePlayers` does not change it.
-/

open Cpp Std Transition

namespace BeeRType

namespace Game

/-- What the call pays to every player, in fives: one for each hit on an enemy and four for
each hit on a boss. -/
def fivesPaid (g : Game) : Call → Nat
  | .checkCollisions => g.totalHits g.enemies + 4 * g.totalHits g.bosses
  | _ => 0

/-- Nobody has come in, and nobody's score has changed. -/
def SameScores (g g' : Game) : Prop :=
  ∀ (i : Int) (p' : Player), g'.players[i]? = some p' →
    ∃ p : Player, g.players[i]? = some p ∧ p'.score = p.score

/-- Who has come in has no score, and nobody else's score has changed. -/
def FreshScores (g g' : Game) : Prop :=
  (∀ i ∈ g.players, i ∈ g'.players) ∧ ∀ (i : Int) (p' : Player), g'.players[i]? = some p' →
    (∃ p : Player, g.players[i]? = some p ∧ p'.score = p.score) ∨ i ∉ g.players ∧ p'.score = 0

variable {g m g' : Game} {call : Call} {playerId i : Int} {x y : ℚ} {p p' : Player}

theorem SameScores.of_eq (h : g'.players = g.players) : SameScores g g' :=
  fun _ p' hp' => ⟨p', h ▸ hp', rfl⟩

theorem SameScores.trans (h : SameScores g m) (h' : SameScores m g') : SameScores g g' := by
  intro i p' hp'
  obtain ⟨q, hq, hscore'⟩ := h' i p' hp'
  obtain ⟨p, hp, hscore⟩ := h i q hq
  exact ⟨p, hp, hscore'.trans hscore⟩

theorem FreshScores.trans (h : FreshScores g m) (h' : FreshScores m g') : FreshScores g g' := by
  refine ⟨fun i hi => h'.1 i (h.1 i hi), fun i p' hp' => ?_⟩
  obtain ⟨q, hq, hscore'⟩ | ⟨hnew, hzero⟩ := h'.2 i p' hp'
  · rw [hscore']
    exact h.2 i q hq
  · exact .inr ⟨fun hi => hnew (h.1 i hi), hzero⟩

/-- Spawning a player who is already there adds `0` to the score. -/
theorem spawnPlayer_freshScores (h : g.spawnPlayer playerId x y = .ok g') : FreshScores g g' := by
  obtain ⟨_, _, _, hmem, heq⟩ := spawnPlayer_ok h
  refine ⟨fun i hi => by rw [heq]; exact (hmem i).mpr (.inr hi), fun i p' hp' => ?_⟩
  obtain ⟨player, hp, score, hplayer, rfl⟩ := spawnPlayer_new h
  have hzero : player.score = 0 := by
    obtain ⟨o, -, hok⟩ := Fallible.bind_eq_ok.mp hplayer
    rw [← Fallible.pure_eq_ok.mp hok]
  simp only [ExtTreeMap.getElem?_modify, ExtTreeMap.getElem?_insertIfNew, Std.compare_eq_iff_eq,
    true_and] at hp'
  by_cases hi : playerId = i
  · subst hi
    -- A player who is there already is not replaced, and keeps the score.
    rw [if_pos rfl, Option.map_eq_some_iff] at hp'
    obtain ⟨q, hq, rfl⟩ := hp'
    have hscore : ((q.updateHp 100).updateScore 0).score = q.score := add_zero q.score
    split at hq
    · rename_i hnew
      cases hq
      exact .inr ⟨hnew, hscore.trans hzero⟩
    · exact .inl ⟨q, hq, hscore⟩
  · rw [if_neg hi, if_neg fun h => hi h.1] at hp'
    exact .inl ⟨p', hp', rfl⟩

theorem initializePlayers_freshScores {numPlayers : Int}
    (h : g.initializePlayers numPlayers = .ok g') : FreshScores g g' :=
  initializePlayers_rule (P := fun _ b => FreshScores g b) h
    ⟨fun _ hi => hi, fun _ p' hp' => .inl ⟨p', hp', rfl⟩⟩
    fun _ _ _ _ hb hspawn => hb.trans (spawnPlayer_freshScores hspawn)

theorem sameScores_rule : StillRule SameScores where
  refl := fun _ => .of_eq rfl
  trans := .trans
  record := fun heq => by rw [heq]; exact .of_eq rfl
  report := fun _ _ _ => .of_eq rfl
  spawnBullet := by
    intro g playerId g' h
    obtain rfl | ⟨-, bullet, x, y, rfl⟩ := spawnBullet_ok h <;> exact .of_eq rfl
  spawnNextEnemy := fun h => .of_eq (spawnNextEnemy_ok h).1.players
  spawnNextBoss := fun h => .of_eq (spawnNextBoss_ok h).players
  handlePlayerMove := by
    intro g playerId actionId g' h i p' hp'
    obtain ⟨player, positions, messages, hplayer, -, rfl⟩ := handlePlayerMove_new h
    have hp' : (g.movePlayer playerId actionId player.position).players[i]? = some p' := hp'
    by_cases hi : i = playerId
    · subst hi
      rw [getElem?_movePlayer_self hplayer] at hp'
      cases hp'
      exact ⟨player, hplayer, rfl⟩
    · rw [getElem?_movePlayer_ne hi] at hp'
      exact ⟨p', hp', rfl⟩

theorem SameScores.of_erase {id : Int} (h : g'.players = g.players.erase id) :
    SameScores g g' := by
  intro i p' hp'
  rw [h, ExtTreeMap.getElem?_erase] at hp'
  split at hp'
  · cases hp'
  · exact ⟨p', hp', rfl⟩

theorem killPlayers_sameScores (entityId : Int) : SameScores g (g.killPlayers entityId) := by
  unfold killPlayers
  split
  · exact .of_erase rfl
  · exact .of_eq rfl

theorem kill_sameScores (hc : call.IsKill) (h : g.perform call = .ok g') : SameScores g g' := by
  have hbullets (g : Game) (entityId : Int) : SameScores g (g.killBullets entityId) := by
    unfold killBullets
    split <;> exact .of_eq rfl
  cases call with
  | killPlayers entityId => cases h; exact killPlayers_sameScores entityId
  | killBullets entityId => cases h; exact hbullets g entityId
  | killEnemies entityId =>
      cases h
      unfold killEnemies
      split <;> exact .of_eq rfl
  | killBosses entityId =>
      cases h
      unfold killBosses
      split <;> exact .of_eq rfl
  | killEntity entityId => cases h; exact (killPlayers_sameScores entityId).trans (hbullets _ _)
  | _ => exact hc.elim

theorem stop_sameScores : SameScores g g.stop := by
  intro i p' hp'
  cases hp'

theorem checkPlayersAlive_sameScores (numClients : Nat) :
    SameScores g (g.checkPlayersAlive numClients).2 := by
  rcases checkPlayersAlive_cases g numClients with heq | heq <;> rw [heq]
  · exact .of_eq rfl
  · exact stop_sameScores

/-- A player after a call was there before and has been paid for the hits, or has come in
with the call and without a score. -/
theorem score_perform (h : g.perform call = .ok g') (hp' : g'.players[i]? = some p') :
    (∃ p : Player, g.players[i]? = some p ∧ p'.score = p.score + 5 * g.fivesPaid call) ∨
      i ∉ g.players ∧ p'.score = 0 := by
  have hsame (hpaid : g.fivesPaid call = 0) (h : SameScores g g') :
      ∃ p : Player, g.players[i]? = some p ∧ p'.score = p.score + 5 * g.fivesPaid call := by
    simpa [hpaid] using h i p' hp'
  have hfresh (hpaid : g.fivesPaid call = 0) (h : FreshScores g g') :
      (∃ p : Player, g.players[i]? = some p ∧ p'.score = p.score + 5 * g.fivesPaid call) ∨
        i ∉ g.players ∧ p'.score = 0 := by
    simpa [hpaid] using h.2 i p' hp'
  cases call with
  | checkCollisions =>
      cases h
      obtain ⟨p, hp, hscore⟩ := score_checkCollisions hp'
      refine .inl ⟨p, hp, hscore.trans ?_⟩
      rw [fivesPaid]
      push_cast
      ring
  | spawnPlayer playerId x y => exact hfresh rfl (spawnPlayer_freshScores h)
  | initializePlayers numPlayers => exact hfresh rfl (initializePlayers_freshScores h)
  | handlePlayerMove playerId actionId =>
      exact .inl (hsame rfl (sameScores_rule.handlePlayerMove h))
  | spawnEnemy enemyId x y =>
      obtain ⟨enemy, payload, rfl⟩ := spawnEnemy_ok (x := x) h
      exact .inl (hsame rfl (.of_eq rfl))
  | spawnBoss bossId x y =>
      obtain ⟨boss, payload, rfl⟩ := spawnBoss_ok (x := x) h
      exact .inl (hsame rfl (.of_eq rfl))
  | killPlayers _ | killBullets _ | killEnemies _ | killBosses _ | killEntity _ =>
      exact .inl (hsame rfl (kill_sameScores (by exact trivial) h))
  | updateBullets now =>
      cases h
      exact .inl (hsame rfl (.of_eq updateBullets_timed.players))
  | updateEnemies now =>
      cases h
      exact .inl (hsame rfl (.of_eq updateEnemies_timed.players))
  | checkPlayersAlive numClients =>
      cases h
      exact .inl (hsame rfl (checkPlayersAlive_sameScores numClients))
  | stop =>
      cases h
      exact .inl (hsame rfl stop_sameScores)
  | _ => exact .inl (hsame rfl (sameScores_rule.perform (by exact trivial) h))

end Game

namespace History

variable {s : History} {call : Call} {calls : List Call} {i : Int} {p : Player}

/-- What a step pays to every player, in fives. -/
def fivesPaid (s : History) (call : Call) : Nat :=
  if s.thrown.isSome then 0 else s.game.fivesPaid call

/-- What a history pays to every player, in fives. -/
def fivesEarned : History → List Call → Nat
  | _, [] => 0
  | s, call :: calls => s.fivesPaid call + (s.step call).fivesEarned calls

def scoreOf (i : Int) (s : History) : Option ℚ := s.game.players[i]?.map Player.score

/-- The player is there after the step. -/
def Stays (i : Int) (s : History) (call : Call) : Prop := i ∈ (s.step call).game.players

theorem isSome_scoreOf : (s.scoreOf i).isSome = true ↔ i ∈ s.game.players := by
  rw [scoreOf, Option.isSome_map, ExtTreeMap.mem_iff_isSome_getElem?]

theorem fivesPaid_of_error {e : StdException} (h : s.game.perform call = .error e) :
    s.game.fivesPaid call = 0 := by
  cases call <;> first | rfl | cases h

theorem scoreOf_step {r : ℚ} (h : (s.step call).scoreOf i = some r) :
    (∃ q, s.scoreOf i = some q ∧ r = (· + 5)^[s.fivesPaid call] q) ∨
      s.scoreOf i = none ∧ r = 0 := by
  obtain ⟨heq, hthrown⟩ | ⟨game, hthrown, hok, heq⟩ | ⟨e, hthrown, hok, heq⟩ := s.step_cases call
  · rw [heq] at h
    exact .inl ⟨r, h, by rw [fivesPaid, if_pos hthrown]; rfl⟩
  · rw [heq, scoreOf, Option.map_eq_some_iff] at h
    obtain ⟨p', hp', rfl⟩ := h
    obtain ⟨p, hp, hscore⟩ | ⟨hnew, hzero⟩ := Game.score_perform hok hp'
    · refine .inl ⟨p.score, by rw [scoreOf, hp, Option.map_some], ?_⟩
      rw [hscore, fivesPaid, hthrown, add_right_iterate_apply, nsmul_eq_mul, mul_comm]
      rfl
    · refine .inr ⟨?_, hzero⟩
      rwa [← Option.not_isSome_iff_eq_none, isSome_scoreOf]
  · rw [heq] at h
    refine .inl ⟨r, h, ?_⟩
    rw [fivesPaid, hthrown, fivesPaid_of_error hok]
    rfl

/-! ## Runs -/

/-- What a call does to the score of a player. -/
def scoreEffect (i : Int) (s : History) (call : Call) : Ageing.Effect ℚ :=
  match (s.step call).scoreOf i with
  | none => .drop
  | some r => if (s.scoreOf i).isSome then .keep (s.fivesPaid call) else .put r

theorem acts_scoreEffect : Ageing.Acts step (scoreEffect i) (· + 5) (scoreOf i) s call := by
  unfold Ageing.Acts scoreEffect
  cases hr : (s.step call).scoreOf i with
  | none => rfl
  | some r =>
      obtain ⟨q, hq, rfl⟩ | ⟨hnone, -⟩ := scoreOf_step hr
      · simp only [hq, Option.isSome_some, if_true]
        rfl
      · simp only [hnone, Option.isSome_none]
        rfl

theorem stays_of_scoreOf {r : ℚ} (h : (s.step call).scoreOf i = some r) : Stays i s call :=
  isSome_scoreOf.mp (by rw [h]; rfl)

theorem scoreEffect_eq_put {r : ℚ} (h : scoreEffect i s call = .put r) :
    i ∉ s.game.players ∧ Stays i s call ∧ r = 0 := by
  unfold scoreEffect at h
  split at h
  · cases h
  · rename_i r' hr
    split at h
    · cases h
    · rename_i hnone
      cases h
      obtain ⟨q, hq, -⟩ | ⟨-, hzero⟩ := scoreOf_step hr
      · rw [hq] at hnone
        exact absurd rfl hnone
      · exact ⟨fun hi => hnone (isSome_scoreOf.mpr hi), stays_of_scoreOf hr, hzero⟩

/-- A score that is kept is one of a player who stays, and is paid what all are. -/
theorem of_scoreEffect_keeps (h : (scoreEffect i s call).Keeps) :
    Stays i s call ∧ (scoreEffect i s call).age = s.fivesPaid call := by
  unfold scoreEffect at h ⊢
  split at h
  · exact h.elim
  · rename_i r hr
    refine ⟨stays_of_scoreOf hr, ?_⟩
    split at h
    · rename_i hsome
      simp only [hsome, if_true]
      rfl
    · exact h.elim

theorem age_scoreEffect (h : EachStep step (fun s call => (scoreEffect i s call).Keeps) s calls) :
    Ageing.age step (scoreEffect i) s calls = s.fivesEarned calls := by
  induction calls generalizing s with
  | nil => rfl
  | cons call calls ih =>
      rw [Ageing.age_cons, (of_scoreEffect_keeps h.1).2, ih h.2, fivesEarned]

/-- The score of a player is what has been paid to all players since the player has come
in: five for each hit on an enemy, and twenty for each hit on a boss. -/
theorem score_of_hits (hp : (run step new calls).game.players[i]? = some p) :
    ∃ pre call post, calls = pre ++ call :: post ∧ i ∉ (run step new pre).game.players ∧
      EachStep step (Stays i) (run step new pre) (call :: post) ∧
      p.score = 5 * (run step new (pre ++ [call])).fivesEarned post := by
  have hscore : (run step new calls).scoreOf i = some p.score := by
    rw [scoreOf, hp, Option.map_some]
  obtain ⟨-, q, hq, -⟩ | ⟨pre, call, post, q, rfl, hput, hkeeps, heq⟩ :=
    (Ageing.slot_run_eq_some_iff (eachStep_iff.mpr fun _ _ _ _ => acts_scoreEffect)).mp hscore
  · cases hq
  obtain ⟨hnew, hcomes, rfl⟩ := scoreEffect_eq_put hput
  refine ⟨pre, call, post, rfl, hnew, ⟨hcomes, ?_⟩, ?_⟩
  · rw [run_append] at hkeeps
    exact hkeeps.mono fun _ _ h => (of_scoreEffect_keeps h).1
  · rw [heq, age_scoreEffect hkeeps, add_right_iterate_apply, nsmul_eq_mul, zero_add, mul_comm]

/-- Nine players, and two bullets in front of the last one that hit the same enemies. -/
def twoShots : List Call :=
  [.initializePlayers 9, .waveSystem 0 fun _ => .inFront, .waveSystem 10000000000 fun _ => .inFront,
    .spawnBullet 8, .spawnBullet 8, .checkCollisions]

theorem score_of_hits_twoShots : ∃ p, (run step new twoShots).game.players[(0 : Int)]? = some p ∧
    ∃ pre call post, twoShots = pre ++ call :: post ∧ 0 ∉ (run step new pre).game.players ∧
      EachStep step (Stays 0) (run step new pre) (call :: post) ∧
      p.score = 5 * (run step new (pre ++ [call])).fivesEarned post := by
  obtain ⟨p, hp⟩ : ∃ p, (run step new twoShots).game.players[(0 : Int)]? = some p :=
    Option.isSome_iff_exists.mp (by decide +kernel)
  exact ⟨p, hp, score_of_hits hp⟩

end History

end BeeRType
