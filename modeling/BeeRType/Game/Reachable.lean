-- SUMMARY: The games that the server program can come to, and one run of `Game::run` as a history of such games.
import BeeRType.Game.GameOver
import BeeRType.Game.Stream

/-!
# Reachable games

A game is reachable if calls that the server makes lead to it from a new `Game`: any
number of games one after the other, with any number of threads.
-/

open Cpp Std Transition

namespace BeeRType

/-- The calls that the game threads and the packet handler make. -/
def Call.OfServer (c : Call) : Prop :=
  c.InGame ∨ (∃ numPlayers, c = .initializePlayers numPlayers) ∨
    (∃ numClients, c = .checkPlayersAlive numClients) ∨ c = .stop

namespace Game

inductive Reachable : Game → Prop
  | new : Reachable .new
  | call {g g' : Game} {c : Call} (hg : Reachable g) (hc : c.OfServer)
      (h : g.perform c = .ok g') : Reachable g'

variable {g g' : Game} {t : Thread} {tick : Tick} {pc : ThreadPc}

theorem ofServer_of_call {c : Call} (h : t.call tick = some c) : c.OfServer := by
  obtain hingame | hinit | halive := call_cases h
  · exact .inl hingame
  · exact .inr (.inl hinit)
  · exact .inr (.inr (.inl halive))

theorem Reachable.threadStep (hg : g.Reachable) (h : g.threadStep t tick = .ok (g', pc)) :
    g'.Reachable := by
  have hcall := threadStep_call h
  split at hcall
  · rename_i c hc
    exact hg.call (ofServer_of_call hc) hcall
  · exact hcall ▸ hg

/-- No step leads back to the start of `run`. -/
theorem ne_initializePlayers_of_threadStep (h : g.threadStep t tick = .ok (g', pc)) :
    pc ≠ .initializePlayers := by
  unfold Game.threadStep at h
  split at h
  case h_1 | h_2 | h_7 =>
    obtain ⟨g₁, -, h⟩ := Fallible.bind_eq_ok.mp h
    cases Fallible.pure_eq_ok.mp h
    nofun
  case h_9 => split at h <;> cases h <;> nofun
  all_goals
    cases h
    nofun

/-! ## What reachable games have in common -/

/-- `initializePlayers` adds players and announces them. -/
theorem initializePlayers_frame {numPlayers : Int} (h : g.initializePlayers numPlayers = .ok g') :
    g' = { g with
      totalPlayers := numPlayers
      players := g'.players
      broadcasts := g'.broadcasts } := by
  refine initializePlayers_rule (P := fun _ b => b = { g with
    totalPlayers := numPlayers
    players := b.players
    broadcasts := b.broadcasts }) h rfl fun pre i b b' hb hspawn => ?_
  obtain ⟨players, hp, score, -, rfl⟩ := spawnPlayer_ok hspawn
  rw [hb]

theorem checkPlayersAlive_cases (g : Game) (numClients : Nat) :
    (g.checkPlayersAlive numClients).2 = { g with totalPlayers := numClients } ∨
      (g.checkPlayersAlive numClients).2 = ({ g with totalPlayers := numClients }.broadcast .gameEnd
        ⟨str "0", str "0", str "0", str "0", str "0"⟩).stop := by
  unfold checkPlayersAlive
  dsimp only
  split
  · exact .inr rfl
  · exact .inl rfl

theorem Reachable.sound (h : g.Reachable) : g.Sound := by
  induction h with
  | new => rfl
  | @call g g' c hg hc h ih =>
      obtain hingame | ⟨numPlayers, rfl⟩ | ⟨numClients, rfl⟩ | rfl := hc
      · exact (registry_perform hingame h).trans ih
      · rw [initializePlayers_frame h]
        exact ih
      · cases h
        rcases checkPlayersAlive_cases g numClients with heq | heq <;> rw [heq] <;> exact ih
      · cases h
        exact ih

theorem numbered_new : Numbered new := by
  intro c _ i hi
  cases c <;> exact absurd hi ExtTreeMap.not_mem_empty

theorem numbered_stop : Numbered g.stop := by
  intro c _ i hi
  cases c <;> exact absurd hi ExtTreeMap.not_mem_empty

/-- The ids of bullets, enemies and bosses have been taken from the counters. -/
theorem Reachable.numbered (h : g.Reachable) : g.Numbered := by
  induction h with
  | new => exact numbered_new
  | @call g g' c hg hc h ih =>
      obtain hingame | ⟨numPlayers, rfl⟩ | ⟨numClients, rfl⟩ | rfl := hc
      · exact (streams_rule.perform hingame h ih).1
      · rw [initializePlayers_frame h]
        intro c hc i hi
        cases c with
        | player => exact absurd rfl hc
        | _ => exact ih _ hc i hi
      · cases h
        rcases checkPlayersAlive_cases g numClients with heq | heq
        · rw [heq]
          exact ih
        · rw [heq]
          exact numbered_stop
      · cases h
        exact numbered_stop

/-- The counter of a class only goes up, and the ids below it are not used again. -/
def Retires (k : ObjectClass) (g g' : Game) : Prop :=
  g.nextId k ≤ g'.nextId k ∧ ∀ i < g.nextId k, i ∈ g'.ids k → i ∈ g.ids k

theorem Retires.of_subset {k : ObjectClass} (hnext : g'.nextId k = g.nextId k)
    (hids : ∀ i ∈ g'.ids k, i ∈ g.ids k) : Retires k g g' :=
  ⟨hnext.ge, fun i _ hi => hids i hi⟩

theorem Streams.retires {k : ObjectClass} (h : Streams g g') (hg : g.Numbered) (hk : k ≠ .player) :
    Retires k g g' := by
  obtain ⟨log, hlog⟩ := (h hg).2 k
  refine ⟨hlog.nextId_le, fun i hlt hi => ?_⟩
  rw [hlog.ids] at hi
  refine (Replay.mem_created_of_mem_replay hi).resolve_right fun hcreated => ?_
  have := ((hlog.fresh hk).2 i hcreated).1
  omega

theorem Reachable.retires {c : Call} {k : ObjectClass} (hg : g.Reachable) (hc : c.OfServer)
    (h : g.perform c = .ok g') (hk : k ≠ .player) : Retires k g g' := by
  have hstop : ∀ {m : Game}, m.nextId k = g.nextId k → Retires k g m.stop := fun hnext =>
    .of_subset (by rw [← hnext]; cases k <;> rfl) fun i hi => by
      cases k <;> exact absurd hi ExtTreeMap.not_mem_empty
  obtain hingame | ⟨numPlayers, rfl⟩ | ⟨numClients, rfl⟩ | rfl := hc
  · exact (streams_rule.perform hingame h).retires hg.numbered hk
  · rw [initializePlayers_frame h]
    cases k with
    | player => exact absurd rfl hk
    | _ => exact .of_subset rfl fun i hi => hi
  · cases h
    rcases checkPlayersAlive_cases g numClients with heq | heq <;> rw [heq]
    · exact .of_subset (by cases k <;> rfl) fun i hi => by cases k <;> exact hi
    · exact hstop (by cases k <;> rfl)
  · cases h
    exact hstop rfl

end Game

namespace GameRun

variable {s : GameRun} {e : Event} {es : List Event} {g : Game} {n : Int}

/-- What an event of a run comes to. -/
inductive Stepped (s : GameRun) (e : Event) : Prop where
  | same (hgame : (s.step e).game = s.game) (hthread : (s.step e).thread = s.thread)
  | ran (tick : Tick) (game : Game) (pc : ThreadPc) (he : e = .step tick)
      (hrunning : s.terminated = none)
      (hstep : s.game.threadStep s.thread tick = .ok (game, pc))
      (heq : s.step e = { s with game := game, thread := { s.thread with pc := pc } })
  | handled (c : Call) (hc : c.Still) (hcall : s.game.perform c = .ok (s.step e).game)
      (hthread : (s.step e).thread = s.thread)

theorem step_stepped (s : GameRun) (e : Event) : Stepped s e := by
  cases hrunning : s.terminated with
  | some exception =>
      have heq : s.step e = s := by simp only [step, hrunning, Option.isSome_some, if_true]
      exact .same (by rw [heq]) (by rw [heq])
  | none =>
      cases e with
      | step tick =>
          cases hstep : s.game.threadStep s.thread tick with
          | ok r =>
              refine .ran tick r.1 r.2 rfl hrunning hstep ?_
              simp [step, hrunning, hstep]
          | error exception =>
              have heq : s.step (.step tick) = { s with terminated := some exception } := by
                simp [step, hrunning, hstep]
              exact .same (by rw [heq]) (by rw [heq])
      | addPlayerAction playerId actionId =>
          have heq : s.step (.addPlayerAction playerId actionId) =
              { s with game := s.game.addPlayerAction playerId actionId } := by
            simp [step, hrunning]
          exact .handled (.addPlayerAction playerId actionId) trivial (by rw [heq]; rfl)
            (by rw [heq])
      | spawnBullet playerId =>
          cases hshot : s.game.spawnBullet playerId with
          | ok game =>
              have heq : s.step (.spawnBullet playerId) = { s with game := game } := by
                simp [step, hrunning, hshot]
              exact .handled (.spawnBullet playerId) trivial (by rw [heq]; exact hshot) (by rw [heq])
          | error exception =>
              have heq : s.step (.spawnBullet playerId) =
                  { s with terminated := some exception } := by
                simp [step, hrunning, hshot]
              exact .same (by rw [heq]) (by rw [heq])

theorem step_reachable (hs : s.game.Reachable) : (s.step e).game.Reachable := by
  cases step_stepped s e with
  | same hgame _ =>
      rw [hgame]
      exact hs
  | ran tick game pc _ _ hstep heq =>
      rw [heq]
      exact hs.threadStep hstep
  | handled c hc hcall _ => exact hs.call (.inl hc.inGame) hcall

theorem step_retires {k : ObjectClass} (hs : s.game.Reachable) (hk : k ≠ .player) :
    Game.Retires k s.game (s.step e).game := by
  have hsame : Game.Retires k s.game s.game := .of_subset rfl fun _ hi => hi
  cases step_stepped s e with
  | same hgame _ =>
      rw [hgame]
      exact hsame
  | ran tick game pc _ _ hstep heq =>
      rw [heq]
      have hcall := Game.threadStep_call hstep
      split at hcall
      · rename_i c hc
        exact hs.retires (Game.ofServer_of_call hc) hcall hk
      · rw [hcall]
        exact hsame
  | handled c hc hcall _ => exact hs.retires (.inl hc.inGame) hcall hk

/-- A run on a reachable game goes through reachable games. -/
theorem always_reachable (hg : g.Reachable) :
    Always step (fun s => s.game.Reachable) (enter g n) es :=
  always_of_step hg fun _ _ => step_reachable

end GameRun

end BeeRType
