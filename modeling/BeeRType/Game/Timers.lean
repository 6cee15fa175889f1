-- SUMMARY: The four timers of the game loop: how often they fire, and by when an object has left the screen.
import BeeRType.Base.Throttle
import BeeRType.Game.Flight

/-!
# Timers

Bullets, enemies, waves and the UI have a timer each, which the loop polls in every round.
The clock readings are static variables: neither the start of a game nor its end resets
them.
-/

open Cpp Std Transition

namespace BeeRType

inductive LoopTimer where
  | bullets
  | enemies
  | waves
  | ui
  deriving DecidableEq, Repr

namespace LoopTimer

/-- In nanoseconds. -/
def period : LoopTimer → Int
  | .bullets | .enemies => 16 * Game.nanosPerMilli
  | .waves => 10 * Game.nanosPerSecond
  | .ui => 1 * Game.nanosPerSecond

/-- The clock reading that a game has kept for the timer. -/
def last (g : Game) : LoopTimer → Option Int
  | .bullets => g.lastBulletUpdateTime
  | .enemies => g.lastEnemyUpdateTime
  | .waves => g.lastWaveTime
  | .ui => g.lastBroadcastTime

/-- The time at which a call polls the timer, if it does. -/
def poll : LoopTimer → Call → Option Int
  | .bullets, .updateBullets now => some now
  | .enemies, .updateEnemies now => some now
  | .waves, .waveSystem now _ => some now
  | .ui, .updateUI now => some now
  | _, _ => none

/-- The times at which a history polls the timer. -/
def polls (t : LoopTimer) (calls : List Call) : List Int := calls.filterMap t.poll

variable {t : LoopTimer} {g g' : Game} {call : Call} {now : Int}

theorem period_pos : 0 < t.period := by cases t <;> decide

end LoopTimer

/-- The timer that moves the objects of a class. -/
def ObjectClass.timer : ObjectClass → LoopTimer
  | .bullet => .bullets
  | _ => .enemies

namespace Game

variable {g m g' : Game} {call : Call} {now last unit k : Int}

theorem le_elapsed_iff (hk : 0 < k) (hunit : 0 < unit) :
    k ≤ elapsed last now unit ↔ k * unit ≤ now - last := by
  unfold elapsed
  rcases le_or_gt 0 (now - last) with hnonneg | hneg
  · rw [Int.tdiv_eq_ediv_of_nonneg hnonneg, Int.le_ediv_iff_mul_le hunit]
  · have htdiv := Int.tdiv_le_tdiv hunit hneg.le
    rw [Int.zero_tdiv] at htdiv
    have hmul : 0 < k * unit := Int.mul_pos hk hunit
    constructor <;> intro h <;> omega

/-- No timer is read or set. -/
def KeepsTime (g g' : Game) : Prop := ∀ t : LoopTimer, t.last g' = t.last g

theorem KeepsTime.trans (h : KeepsTime g m) (h' : KeepsTime m g') : KeepsTime g g' :=
  fun t => (h' t).trans (h t)

theorem KeepsTime.of_eq (hbullets : g'.lastBulletUpdateTime = g.lastBulletUpdateTime)
    (henemies : g'.lastEnemyUpdateTime = g.lastEnemyUpdateTime)
    (hwaves : g'.lastWaveTime = g.lastWaveTime)
    (hui : g'.lastBroadcastTime = g.lastBroadcastTime) : KeepsTime g g' := by
  intro t
  cases t
  · exact hbullets
  · exact henemies
  · exact hwaves
  · exact hui

theorem keepsTime_actions : ActionRule KeepsTime where
  refl := fun _ _ => rfl
  trans := KeepsTime.trans
  handlePlayerMove := by
    intro g playerId actionId g' h
    obtain ⟨player, positions, messages, -, -, rfl⟩ := handlePlayerMove_new h
    exact .of_eq rfl rfl rfl rfl
  spawnBullet := by
    intro g playerId g' h
    obtain rfl | ⟨player, bullet, -, -, rfl⟩ := spawnBullet_new h
    · exact fun _ => rfl
    · exact .of_eq rfl rfl rfl rfl

theorem spawnNextEnemy_keepsTime {draw : Draw} (h : g.spawnNextEnemy draw = .ok g') :
    KeepsTime g g' := by
  obtain ⟨enemy, -, rfl⟩ := spawnEnemy_new h
  exact .of_eq rfl rfl rfl rfl

theorem spawnEnemies_keepsTime {draws : Nat → Draw} {ids : List Nat}
    (h : ids.foldlM (fun g i => g.spawnNextEnemy (draws i)) g = .ok g') : KeepsTime g g' :=
  Fallible.foldlM_ok (P := fun _ m => KeepsTime g m) (fun _ => rfl)
    (fun _ _ _ _ hm hspawn => hm.trans (spawnNextEnemy_keepsTime hspawn)) h

theorem nextWave_keepsTime {draws : Nat → Draw} (h : g.nextWave draws = .ok g') :
    KeepsTime g g' := by
  unfold nextWave at h
  dsimp only at h
  split at h
  · obtain ⟨m, hboss, h⟩ := Fallible.bind_eq_ok.mp h
    obtain ⟨boss, -, rfl⟩ := spawnBoss_new hboss
    refine KeepsTime.trans ?_ (spawnEnemies_keepsTime h)
    exact .of_eq rfl rfl rfl rfl
  · unfold startNextWave at h
    obtain ⟨m, hspawn, h⟩ := Fallible.bind_eq_ok.mp h
    obtain rfl := Fallible.pure_eq_ok.mp h
    exact KeepsTime.trans (g := g) (.of_eq rfl rfl rfl rfl)
      ((spawnEnemies_keepsTime hspawn).trans (.of_eq rfl rfl rfl rfl))

theorem throttle_eq (t : LoopTimer) (g : Game) (now : Int) {units : Int} (hk : 0 < units)
    (hunit : 0 < unit) (hperiod : t.period = units * unit) :
    Throttle.fires t.period ((t.last g).getD now) now =
      decide (units ≤ elapsed ((t.last g).getD now) now unit) := by
  rw [Throttle.fires, hperiod]
  exact decide_eq_decide.mpr (le_elapsed_iff hk hunit).symm

theorem checkCollisions_keepsTime : KeepsTime g g.checkCollisions := by
  have hframe := (detectAll_detected (g := g)).frame
  have hdetected : KeepsTime g g.detectAll :=
    .of_eq (congrArg lastBulletUpdateTime hframe :) (congrArg lastEnemyUpdateTime hframe :)
      (congrArg lastWaveTime hframe :) (congrArg lastBroadcastTime hframe :)
  rw [checkCollisions_eq, removeAll_eq]
  exact hdetected.trans (.of_eq rfl rfl rfl rfl)

theorem last_updateBullets (t : LoopTimer) : t.last (g.updateBullets now) =
    match t.poll (.updateBullets now) with
    | some now => some (Throttle.next t.period ((t.last g).getD now) now)
    | none => t.last g := by
  have hfires := throttle_eq .bullets g now (by decide : (0 : Int) < 16)
    (by decide : 0 < nanosPerMilli) rfl
  cases t with
  | bullets =>
      unfold updateBullets
      dsimp only
      split <;> rename_i hdue
      · simp only [LoopTimer.poll, Throttle.next, hfires.trans (decide_eq_true hdue)]
        rfl
      · simp only [LoopTimer.poll, Throttle.next, hfires.trans (decide_eq_false hdue)]
        rfl
  | _ =>
      unfold updateBullets
      dsimp only
      split <;> rfl

theorem last_updateEnemies (t : LoopTimer) : t.last (g.updateEnemies now) =
    match t.poll (.updateEnemies now) with
    | some now => some (Throttle.next t.period ((t.last g).getD now) now)
    | none => t.last g := by
  have hfires := throttle_eq .enemies g now (by decide : (0 : Int) < 16)
    (by decide : 0 < nanosPerMilli) rfl
  cases t with
  | enemies =>
      unfold updateEnemies
      dsimp only
      split <;> rename_i hdue
      · simp only [LoopTimer.poll, Throttle.next, hfires.trans (decide_eq_true hdue)]
        rfl
      · simp only [LoopTimer.poll, Throttle.next, hfires.trans (decide_eq_false hdue)]
        rfl
  | _ =>
      unfold updateEnemies
      dsimp only
      split <;> rfl

theorem last_updateUI (t : LoopTimer) : t.last (g.updateUI now) =
    match t.poll (.updateUI now) with
    | some now => some (Throttle.next t.period ((t.last g).getD now) now)
    | none => t.last g := by
  have hfires := throttle_eq .ui g now (by decide : (0 : Int) < 1)
    (by decide : 0 < nanosPerSecond) rfl
  cases t with
  | ui =>
      unfold updateUI
      dsimp only
      split <;> rename_i hdue
      · simp only [LoopTimer.poll, Throttle.next, hfires.trans (decide_eq_true hdue)]
        rfl
      · simp only [LoopTimer.poll, Throttle.next, hfires.trans (decide_eq_false hdue)]
        rfl
  | _ =>
      unfold updateUI
      dsimp only
      split <;> rfl

theorem waveDue_eq : g.waveDue now =
    Throttle.fires LoopTimer.waves.period ((LoopTimer.waves.last g).getD now) now :=
  (throttle_eq .waves g now (by decide : (0 : Int) < 10) (by decide : 0 < nanosPerSecond) rfl).symm

theorem last_waveSystem (t : LoopTimer) {draws : Nat → Draw} (h : g.waveSystem now draws = .ok g') :
    t.last g' = match t.poll (.waveSystem now draws) with
      | some now => some (Throttle.next t.period ((t.last g).getD now) now)
      | none => t.last g := by
  obtain ⟨last, hlast⟩ : ∃ last, last = g.lastWaveTime.getD now := ⟨_, rfl⟩
  -- A clock that has not been read yet starts now, before the interval is checked.
  have hdue : ({ g with lastWaveTime := some last } : Game).waveDue now = g.waveDue now := by
    rw [waveDue, waveDue, hlast]
    rfl
  unfold waveSystem at h
  dsimp only at h
  rw [← hlast, hdue] at h
  cases hfires : g.waveDue now with
  | true =>
      rw [hfires, if_pos rfl] at h
      obtain ⟨m, hwave, h⟩ := Fallible.bind_eq_ok.mp h
      obtain rfl := Fallible.pure_eq_ok.mp h
      have hkeeps := nextWave_keepsTime hwave
      rw [waveDue_eq] at hfires
      cases t with
      | waves =>
          simp only [LoopTimer.poll, Throttle.next, hfires]
          rfl
      | bullets => exact hkeeps .bullets
      | enemies => exact hkeeps .enemies
      | ui => exact hkeeps .ui
  | false =>
      rw [hfires, if_neg Bool.false_ne_true] at h
      cases h
      rw [waveDue_eq] at hfires
      cases t with
      | waves =>
          simp only [LoopTimer.poll, Throttle.next, hfires, hlast]
          rfl
      | _ => rfl

/-- What a call does to a timer: a poll fires it or not, everything else leaves it. -/
theorem last_perform (t : LoopTimer) (hcall : call.OfServer) (h : g.perform call = .ok g') :
    t.last g' = match t.poll call with
      | some now => some (Throttle.next t.period ((t.last g).getD now) now)
      | none => t.last g := by
  obtain hingame | ⟨numPlayers, rfl⟩ | ⟨numClients, rfl⟩ | rfl := hcall
  · cases call with
    | processPlayerActions =>
        obtain ⟨⟨m, actions⟩, hloop, h⟩ := Fallible.bind_eq_ok.mp h
        obtain rfl := Fallible.pure_eq_ok.mp h
        have hkeeps : KeepsTime g { m with playerActions := actions } :=
          (keepsTime_actions.applyPlayerActions hloop).trans (.of_eq rfl rfl rfl rfl)
        rw [hkeeps t]
        cases t <;> rfl
    | spawnBullet playerId =>
        rw [keepsTime_actions.spawnBullet h t]
        cases t <;> rfl
    | updateBullets now =>
        cases h
        exact last_updateBullets t
    | updateEnemies now =>
        cases h
        exact last_updateEnemies t
    | checkCollisions =>
        cases h
        rw [checkCollisions_keepsTime t]
        cases t <;> rfl
    | waveSystem now draws => exact last_waveSystem t h
    | updateUI now =>
        cases h
        exact last_updateUI t
    | addPlayerAction | deletePlayerAction =>
        cases h
        cases t <;> rfl
    | _ => exact hingame.elim
  · rw [initializePlayers_frame h]
    cases t <;> rfl
  · cases h
    rcases checkPlayersAlive_cases g numClients with heq | heq <;> rw [heq] <;> cases t <;> rfl
  · cases h
    cases t <;> rfl

theorem timerFires_eq {c : ObjectClass} (hc : c ≠ .player) : g.timerFires c call =
    match c.timer.poll call with
    | some now => Throttle.fires c.timer.period ((c.timer.last g).getD now) now
    | none => false := by
  have hmilli : 0 < nanosPerMilli := by decide
  cases call with
  | updateBullets now =>
      cases c with
      | player => exact absurd rfl hc
      | bullet =>
          have hfires := throttle_eq .bullets g now (by decide : (0 : Int) < 16) hmilli rfl
          exact (decide_eq_decide.mpr (and_iff_right rfl)).trans hfires.symm
      | _ => rfl
  | updateEnemies now =>
      cases c with
      | player => exact absurd rfl hc
      | bullet => rfl
      | enemy =>
          have hfires := throttle_eq .enemies g now (by decide : (0 : Int) < 16) hmilli rfl
          exact (decide_eq_decide.mpr (and_iff_right (.inl rfl))).trans hfires.symm
      | boss =>
          have hfires := throttle_eq .enemies g now (by decide : (0 : Int) < 16) hmilli rfl
          exact (decide_eq_decide.mpr (and_iff_right (.inr rfl))).trans hfires.symm
  | _ => cases c <;> rfl

end Game

namespace History

variable {t : LoopTimer} {s : History} {call : Call} {calls : List Call} {c : ObjectClass}
  {l start delay : Int}

/-- The call polls the timer, and the timer fires. -/
def fired (t : LoopTimer) (s : History) (call : Call) : Bool :=
  match t.poll call with
  | some now => s.thrown.isNone && Throttle.fires t.period ((t.last s.game).getD now) now
  | none => false

/-- How often the timer fires in a history. -/
def timerFirings (t : LoopTimer) : History → List Call → Nat
  | _, [] => 0
  | s, call :: calls => (s.fired t call).toNat + (s.step call).timerFirings t calls

theorem thrown_eq_none_of_run (h : (run step s calls).thrown = none) : s.thrown = none := by
  induction calls generalizing s with
  | nil => exact h
  | cons call calls ih =>
      have hstep := ih h
      obtain ⟨heq, -⟩ | ⟨game, hnone, -⟩ | ⟨e, hnone, -⟩ := s.step_cases call
      · rw [heq] at hstep
        exact hstep
      · exact hnone
      · exact hnone

/-- A step that does not throw is a call on the game. -/
theorem perform_of_step (h : (s.step call).thrown = none) :
    s.thrown = none ∧ s.game.perform call = .ok (s.step call).game := by
  obtain ⟨heq, hthrown⟩ | ⟨game, hnone, hok, heq⟩ | ⟨e, hnone, -, heq⟩ := s.step_cases call <;>
    rw [heq] at h
  · rw [h] at hthrown
    cases hthrown
  · exact ⟨hnone, by rw [heq]; exact hok⟩
  · cases h

/-- Up to an exception, a timer goes by its polls alone. -/
theorem timerFirings_eq (hcalls : ∀ call ∈ calls, call.OfServer)
    (hthrown : (run step s calls).thrown = none) (hlast : t.last s.game = some l) :
    s.timerFirings t calls = Throttle.firings t.period l (t.polls calls) := by
  induction calls generalizing s l with
  | nil => rfl
  | cons call calls ih =>
      obtain ⟨hcall, hcalls⟩ := List.forall_mem_cons.mp hcalls
      obtain ⟨hnone, hok⟩ := perform_of_step (thrown_eq_none_of_run (s := s.step call) hthrown)
      have hnext := Game.last_perform t hcall hok
      rw [timerFirings, fired, LoopTimer.polls, List.filterMap_cons]
      cases hpoll : t.poll call with
      | none =>
          rw [hpoll, hlast] at hnext
          rw [ih hcalls hthrown hnext, Bool.toNat_false, Nat.zero_add]
          rfl
      | some now =>
          rw [hpoll, hlast] at hnext
          rw [ih hcalls hthrown hnext, hnone, hlast]
          rfl

/-- The times at which the timer is polled go on from `start`, and no two are further
apart than the delay. -/
def Polled (t : LoopTimer) (start delay : Int) (calls : List Call) : Prop :=
  List.IsChain (fun now next => now ≤ next ∧ next ≤ now + delay) (start :: t.polls calls)

/-- No call but a poll of the timer sets its clock. -/
theorem last_step (hcall : call.OfServer) (hpoll : t.poll call = none) :
    t.last (s.step call).game = t.last s.game := by
  obtain ⟨heq, -⟩ | ⟨game, -, hok, heq⟩ | ⟨e, -, -, heq⟩ := s.step_cases call <;> rw [heq]
  have hnext := Game.last_perform t hcall hok
  rwa [hpoll] at hnext

/-- Between two polls of a timer, it has fired at most once for every period, and at
least once for every period with a delay, but for the one that is not over yet. The other
calls, the end of a game and the start of one among them, leave its clock alone. -/
theorem timer_rate (hcalls : ∀ call ∈ calls, call.OfServer)
    (hthrown : (run step s calls).thrown = none) (hlast : t.last s.game = some l)
    (hstart : l ≤ start ∧ start - l < t.period) (hpolled : Polled t start delay calls) :
    (s.timerFirings t calls * t.period ≤ (t.polls calls).getLastD start - l ∧
      (t.polls calls).getLastD start - l <
        s.timerFirings t calls * (t.period + delay) + t.period) ∧
    EachStep step (fun s call => t.poll call = none → t.last (s.step call).game = t.last s.game)
      s calls := by
  refine ⟨?_, eachStep_iff.mpr fun pre call post heq hpoll => ?_⟩
  · rw [timerFirings_eq hcalls hthrown hlast]
    exact ⟨Throttle.firings_mul_le hstart.1 (hpolled.imp fun _ _ h => h.1),
      Throttle.lt_firings_mul LoopTimer.period_pos hstart.2 (hpolled.imp fun _ _ h => h.2)⟩
  · exact last_step (hcalls call (by rw [heq]; simp)) hpoll

theorem polled_bulletFrames (n : Nat) :
    Polled .bullets 0 (16 * Game.nanosPerMilli) (bulletFrames n) := by
  have hpolls : LoopTimer.bullets.polls (bulletFrames n) =
      (List.range n).map fun k : Nat => 16 * Game.nanosPerMilli * (k : Int) := by
    rw [bulletFrames, LoopTimer.polls, List.filterMap_map]
    exact congrFun List.filterMap_eq_map (List.range n)
  rw [Polled, hpolls]
  cases n with
  | zero => exact .singleton _
  | succ n =>
      have hmilli : 0 < Game.nanosPerMilli := by decide
      refine List.IsChain.imp (fun _ _ h => h) ((List.isChain_map
        (fun k : Nat => 16 * Game.nanosPerMilli * (k : Int)) (l := 0 :: _)).mpr
          ((List.isChain_cons_range_succ _ n 0).mpr ⟨?_, fun m _ => ?_⟩))
      · simp [hmilli.le]
      · push_cast
        constructor <;> linarith

theorem timer_rate_shot :
    let s := run step new (shot ++ bulletFrames 1)
    s.timerFirings .bullets (bulletFrames 4) * LoopTimer.bullets.period ≤
        (LoopTimer.bullets.polls (bulletFrames 4)).getLastD 0 - 0 ∧
      (LoopTimer.bullets.polls (bulletFrames 4)).getLastD 0 - 0 <
        s.timerFirings .bullets (bulletFrames 4) *
          (LoopTimer.bullets.period + 16 * Game.nanosPerMilli) + LoopTimer.bullets.period :=
  (timer_rate (fun _ => ofServer_of_mem_bulletFrames) (by decide +kernel) (by decide +kernel)
    (by decide) (polled_bulletFrames 4)).1

/-! ## What the timers do -/

theorem moves_eq (hc : c ≠ .player) : s.moves c call = (s.fired c.timer call).toNat := by
  rw [moves, fired, Game.timerFires_eq hc]
  cases s.thrown <;> cases c.timer.poll call <;> rfl

theorem firings_eq (hc : c ≠ .player) : s.firings c calls = s.timerFirings c.timer calls := by
  induction calls generalizing s with
  | nil => rfl
  | cons call calls ih => rw [firings, timerFirings, moves_eq hc, ih]

/-- If every round of the loop comes within the delay, an object that has been created is
gone, at the next collision check, after its lifetime in periods with a delay. -/
theorem gone_by (hs : s.game.Reachable) (hcalls : ∀ call ∈ calls, call.OfServer)
    (hthrown : (run step s calls).thrown = none) (hc : c ≠ .player) (hdelay : 0 ≤ delay) {i : Int}
    (hi : i < s.game.nextId c) (hlast : c.timer.last s.game = some l)
    (hstart : l ≤ start ∧ start - l < c.timer.period) (hpolled : Polled c.timer start delay calls)
    (hlong : (lifetime c + 1 : Nat) * (c.timer.period + delay) + c.timer.period ≤
      (c.timer.polls calls).getLastD start - l) :
    i ∉ (run step s (calls ++ [.checkCollisions])).game.ids c := by
  refine not_mem_of_lifetime hs hcalls hc hi ?_ hthrown
  rw [firings_eq hc]
  have hrate := Throttle.lt_firings_mul LoopTimer.period_pos hstart.2
    (hpolled.imp fun _ _ h => h.2)
  rw [← timerFirings_eq hcalls hthrown hlast] at hrate
  by_contra hfew
  have hle : (s.timerFirings c.timer calls : Int) ≤ lifetime c := by
    exact_mod_cast Nat.le_of_not_lt hfew
  have hpos : 0 < c.timer.period + delay := by
    have := c.timer.period_pos
    linarith
  have hmul := Int.mul_le_mul_of_nonneg_right hle hpos.le
  push_cast at hlong
  linarith

theorem gone_by_shot : 0 ∉ (run step (run step new (shot ++ bulletFrames 1))
    (bulletFrames 497 ++ [.checkCollisions])).game.ids .bullet :=
  gone_by (l := 0) (always_reachable .new fun _ hcall => (List.mem_append.mp hcall).elim
      ofServer_of_mem_shot ofServer_of_mem_bulletFrames).final
    (fun _ => ofServer_of_mem_bulletFrames) (by decide +kernel) (by decide) (by decide) (by decide +kernel)
    (by decide +kernel) (by decide) (polled_bulletFrames 497) (by decide +kernel)

end History

end BeeRType
