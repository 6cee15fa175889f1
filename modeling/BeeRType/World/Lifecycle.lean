-- SUMMARY: The packets about one enemy, boss or bullet, over everything the server ever does.
import BeeRType.Game.Reachable
import BeeRType.World.Calls

/-!
# Lifecycles

The counters of enemies, bosses and bullets are never reset, not even between two games.
So an id stands for one object for as long as the server runs: it is created once, and
destroyed at most once, after that. The objects that a game leaves behind when it is
stopped are not destroyed at all.
-/

open Cpp Std Transition Replay

namespace BeeRType

namespace Game

/-- What the game has ever broadcast about an object. -/
def toldOf (g : Game) (c : ObjectClass) (i : Int) : List (Change Bytes) :=
  uses (announced c g.broadcasts) (toStringInt i)

/-- The object is created once and then destroyed at most once. -/
structure LivesOnce (g : Game) (c : ObjectClass) (i : Int) : Prop where
  live : i ∈ g.ids c → g.toldOf c i = [.create (toStringInt i)]
  once : g.toldOf c i = [] ∨ g.toldOf c i = [.create (toStringInt i)] ∨
    g.toldOf c i = [.create (toStringInt i), .destroy (toStringInt i)]
  unused : g.nextId c ≤ i → g.toldOf c i = []

variable {g g' : Game} {c : ObjectClass} {i : Int} {log : List (Change Int)}

theorem Continues.toldOf (h : Continues g g' c log) :
    g'.toldOf c i = g.toldOf c i ++ (uses log i).map (Change.map toStringInt) := by
  rw [Game.toldOf, h.announced, uses_append, uses_map toStringInt_injective]
  rfl

theorem mem_created_of_uses {rest : List (Change Int)}
    (h : uses log i = .create i :: rest) : i ∈ created log := by
  have hmem : .create i ∈ log := List.mem_of_mem_filter (h ▸ List.mem_cons_self)
  exact List.mem_filterMap.mpr ⟨_, hmem, rfl⟩

theorem LivesOnce.continues (hi : g.LivesOnce c i) (h : Continues g g' c log) (hc : c ≠ .player)
    (hg : g.Numbered) : g'.LivesOnce c i := by
  obtain ⟨hnodup, hfresh⟩ := h.fresh hc
  have hgone : i ∉ replay (g.ids c) log → i ∉ g'.ids c := fun h' => by rwa [h.ids]
  by_cases hmem : i ∈ g.ids c
  · -- What is there can only be destroyed.
    have hlt := hg c hc i hmem
    have hnew : i ∉ created log := fun hcreated => by
      have := (hfresh i hcreated).1
      omega
    have hle := h.nextId_le
    have htold := h.toldOf (i := i)
    rw [hi.live hmem] at htold
    obtain ⟨huses, hthere⟩ | ⟨huses, hnot⟩ := uses_of_mem h.proper hmem hnew
    · rw [huses] at htold
      exact ⟨fun _ => htold, .inr (.inl htold), fun hle' => by omega⟩
    · rw [huses] at htold
      exact ⟨fun hids => absurd hids (hgone hnot), .inr (.inr htold), fun hle' => by omega⟩
  · have htold := h.toldOf (i := i)
    by_cases hlt : i < g.nextId c
    · -- An id that has been used up stays unused.
      have hnew : i ∉ created log := fun hcreated => by
        have := (hfresh i hcreated).1
        omega
      obtain ⟨huses, hnot⟩ := uses_of_unused h.proper hmem hnew
      rw [huses, List.map_nil, List.append_nil] at htold
      have hle := h.nextId_le
      exact ⟨fun hids => absurd hids (hgone hnot), by rw [htold]; exact hi.once,
        fun hle' => by omega⟩
    · -- A fresh id may be created, and destroyed again.
      rw [hi.unused (by omega), List.nil_append] at htold
      obtain ⟨huses, hnot⟩ | ⟨huses, hthere⟩ | ⟨huses, hnot⟩ :=
        uses_of_not_mem h.proper hmem hnodup
      · rw [huses] at htold
        exact ⟨fun hids => absurd hids (hgone hnot), .inl htold, fun _ => htold⟩
      · have hcreated := (hfresh i (mem_created_of_uses huses)).2
        rw [huses] at htold
        exact ⟨fun _ => htold, .inr (.inl htold), fun hle' => by omega⟩
      · have hcreated := (hfresh i (mem_created_of_uses huses)).2
        rw [huses] at htold
        exact ⟨fun hids => absurd hids (hgone hnot), .inr (.inr htold), fun hle' => by omega⟩

/-- Nothing is announced of the class, and at most its objects disappear. -/
theorem LivesOnce.silent (hi : g.LivesOnce c i)
    (hannounced : announced c g'.broadcasts = announced c g.broadcasts)
    (hids : g'.ids c ⊆ g.ids c) (hnext : g'.nextId c = g.nextId c) : g'.LivesOnce c i := by
  have htold : g'.toldOf c i = g.toldOf c i := by rw [toldOf, hannounced, toldOf]
  refine ⟨fun hmem => ?_, ?_, fun hle => ?_⟩ <;> rw [htold]
  · exact hi.live (hids hmem)
  · exact hi.once
  · exact hi.unused (by rwa [hnext] at hle)

theorem announced_initializePlayers {numPlayers : Int} (hc : c ≠ .player)
    (h : g.initializePlayers numPlayers = .ok g') :
    announced c g'.broadcasts = announced c g.broadcasts := by
  refine initializePlayers_rule (P := fun _ b => announced c b.broadcasts = announced c g.broadcasts)
    h rfl fun pre i b b' hb hspawn => ?_
  obtain ⟨players, hp, score, -, rfl⟩ := spawnPlayer_ok hspawn
  rw [announced_append, hb]
  cases c with
  | player => exact absurd rfl hc
  | _ => exact List.append_nil _

theorem LivesOnce.stop (hi : g.LivesOnce c i) : g.stop.LivesOnce c i :=
  hi.silent rfl (fun i hmem => by cases c <;> exact absurd hmem ExtTreeMap.not_mem_empty)
    (by cases c <;> rfl)

theorem LivesOnce.perform {call : Call} (hi : g.LivesOnce c i) (hg : g.Numbered)
    (hcall : call.OfServer) (h : g.perform call = .ok g') (hc : c ≠ .player) :
    g'.LivesOnce c i := by
  obtain hingame | ⟨numPlayers, rfl⟩ | ⟨numClients, rfl⟩ | rfl := hcall
  · obtain ⟨log, hlog⟩ := (streams_rule.perform hingame h hg).2 c
    exact hi.continues hlog hc hg
  · refine hi.silent (announced_initializePlayers hc h) ?_ ?_ <;> rw [initializePlayers_frame h]
    · cases c with
      | player => exact absurd rfl hc
      | _ => exact subset_rfl
    · cases c <;> rfl
  · cases h
    rcases checkPlayersAlive_cases g numClients with heq | heq <;> rw [heq]
    · exact hi.silent rfl (by cases c <;> exact subset_rfl) (by cases c <;> rfl)
    · refine LivesOnce.stop (hi.silent ?_ (by cases c <;> exact subset_rfl) (by cases c <;> rfl))
      refine (announced_append c _ _).trans ?_
      cases c <;> exact List.append_nil _
  · cases h
    exact hi.stop

theorem livesOnce_new : new.LivesOnce c i where
  live := fun hmem => by cases c <;> exact absurd hmem ExtTreeMap.not_mem_empty
  once := .inl rfl
  unused := fun _ => rfl

end Game

namespace World

variable {w : World} {e : Event} {es : List Event} {c : ObjectClass}

/-- A step of the program makes a call on the game, or leaves it as it is. -/
theorem step_performs (w : World) (e : Event) : (w.step e).game = w.game ∨
    ∃ call : Call, call.OfServer ∧ w.game.perform call = .ok (w.step e).game := by
  cases step_gameStepped w e with
  | same heq => exact .inl heq
  | queued playerId action heq =>
      exact .inr ⟨.addPlayerAction playerId action, .inl trivial, by rw [heq]; rfl⟩
  | shot playerId heq => exact .inr ⟨.spawnBullet playerId, .inl trivial, heq⟩
  | stopped heq => exact .inr ⟨.stop, .inr (.inr (.inr rfl)), by rw [heq]; rfl⟩
  | called call hcall heq =>
      obtain ⟨t, tick, hcall⟩ := hcall.exists_call
      exact .inr ⟨call, Game.ofServer_of_call hcall, heq⟩

/-- The game is reachable, and every object lives once. -/
structure EveryoneOnce (w : World) : Prop where
  reachable : w.game.Reachable
  once : ∀ c, c ≠ .player → ∀ i, w.game.LivesOnce c i

theorem EveryoneOnce.step (hw : w.EveryoneOnce) (e : Event) : (w.step e).EveryoneOnce := by
  obtain heq | ⟨call, hcall, hok⟩ := step_performs w e
  · refine ⟨?_, ?_⟩ <;> rw [heq]
    · exact hw.reachable
    · exact hw.once
  · exact ⟨hw.reachable.call hcall hok,
      fun c hc i => (hw.once c hc i).perform hw.reachable.numbered hcall hok hc⟩

/-- Over any number of games, the packets about an enemy, a boss or a bullet are a CREATE
and then perhaps a DESTROY, or none at all. About one that is there it is the CREATE. -/
theorem lifecycle (hc : c ≠ .player) (i : Int) (es : List Event) :
    Always step (fun w => w.game.LivesOnce c i) new es :=
  (always_of_step ⟨.new, fun _ _ _ => Game.livesOnce_new⟩ fun _ e hw => EveryoneOnce.step hw e).mono
    fun _ hw => hw.once c hc i

/-- The packet codes are of REQCONNECT, GAME_START and PLAYER_SHOOT. -/
theorem lifecycle_bullet : Always step (fun w => w.game.LivesOnce .bullet 0) new
    [.receive .success ⟨1, 4000⟩ [1], .process, .receive .success ⟨1, 4000⟩ [3], .process,
      .thread 0 0 fun _ => .origin, .receive .success ⟨1, 4000⟩ [6], .process] :=
  lifecycle (by decide) 0 _

end World

end BeeRType
