-- SUMMARY: The number of game loops against the flag of the server.
import BeeRType.Server.ClientTable
import BeeRType.World.PacketHandler

/-!
# Game loops

A thread that has entered `Game::run` never leaves it: the calls of
`Game::update` repeat inside the loop of `update` itself, and the test that could
end `run` comes after it. So GAME_END clears the flag and leaves the thread.
-/

open Cpp Transition

namespace BeeRType

namespace World

/-- How many threads are inside `Game::run`. -/
def loops (w : World) : Nat := w.threads.countP fun t => t.Inside

/-- At most one thread is inside `Game::run`, and the flag says whether one is. -/
def SingleLoop (w : World) : Prop :=
  w.loops ≤ 1 ∧ (w.server.gameRunning = true ↔ w.loops = 1)

/-- If the event is the handling of a GAME_END, no game runs, so that it is
ignored. -/
def NoGameEnd (w : World) (e : Event) : Prop :=
  e = .process → w.terminated = none → ∀ packet rest, w.server.packetQueue = packet :: rest →
    packet.kind = some .gameEnd → w.server.gameRunning = false

/-- Every thread loops, and the flag says whether there is one. -/
structure OneThread (w : World) : Prop where
  looping : ∀ t ∈ w.threads, t.Looping
  length_le : w.threads.length ≤ 1
  running_iff : w.server.gameRunning = true ↔ w.threads.length = 1

variable {w w' : World} {e : Event} {es : List Event}

theorem loops_of_looping (h : ∀ t ∈ w.threads, t.Looping) : w.loops = w.threads.length :=
  List.countP_eq_length.mpr fun t ht => decide_eq_true (h t ht).2

theorem oneThread_new : OneThread new := ⟨nofun, Nat.zero_le 1, by decide⟩

theorem OneThread.singleLoop (hw : OneThread w) : SingleLoop w := by
  rw [SingleLoop, loops_of_looping hw.looping]
  exact ⟨hw.length_le, hw.running_iff⟩

theorem OneThread.of_eq (hw : OneThread w) (hthreads : w'.threads = w.threads)
    (hrunning : w'.server.gameRunning = w.server.gameRunning) : OneThread w' :=
  ⟨by rw [hthreads]; exact hw.looping, by rw [hthreads]; exact hw.length_le,
    by rw [hthreads, hrunning]; exact hw.running_iff⟩

theorem OneThread.handlePacket {packet : Packet} (hw : OneThread w)
    (h : packet.kind = some .gameEnd → w.server.gameRunning = false) :
    OneThread (w.handlePacket packet) := by
  cases handlePacket_handled w packet with
  | ignored heq => rw [heq]; exact hw
  | connected _ heq => rw [heq]; exact hw.of_eq rfl Server.reqConnectData_gameRunning
  | disconnected _ heq => rw [heq]; exact hw.of_eq rfl Server.disconnectData_gameRunning
  | started _ hrunning heq =>
      rw [heq]
      have hnil : w.threads = [] := by
        have hlength : w.threads.length ≠ 1 := fun hone => by
          simp [hw.running_iff.mpr hone] at hrunning
        have := hw.length_le
        exact List.length_eq_zero_iff.mp (by omega)
      refine ⟨?_, ?_, ?_⟩
      · intro t ht
        simp only [startGame, hnil, List.nil_append, List.mem_singleton] at ht
        subst ht
        exact ⟨nofun, nofun⟩
      · simp [startGame, hnil]
      · simp [startGame, hnil, Server.broadcastPacket, Server.broadcast, Server.createPacket]
  | ended hkind hrunning heq => simp [h hkind] at hrunning
  | moved _ _ _ heq => rw [heq]; exact hw.of_eq rfl rfl
  | shot playerId _ heq =>
      rw [heq]
      refine hw.of_eq ?_ (callGame_frame (f := (·.gameRunning)) fun _ _ _ => rfl)
      cases w.game.spawnBullet playerId <;> rfl
  | pinged heq => rw [heq]; exact hw.of_eq rfl rfl

theorem OneThread.step (hw : OneThread w) (h : NoGameEnd w e) : OneThread (w.step e) := by
  cases step_stepped w e with
  | idle heq => rw [heq]; exact hw
  | received error source data heq =>
      rw [heq]
      refine hw.of_eq rfl ?_
      cases error <;> rfl
  | handled packet rest he hrunning hqueue heq =>
      rw [heq]
      have hend := h he hrunning packet rest hqueue
      exact OneThread.handlePacket (w := w.setPacketQueue rest) (hw.of_eq rfl rfl) hend
  | sent heq =>
      rw [heq]
      exact hw.of_eq rfl (Server.handleSendTimer_frame (fun _ _ _ => rfl) fun _ _ => rfl)
  | ran i now draws t game pc _ _ ht hstep heq =>
      have hserver : (w.setGame game).server.gameRunning = w.server.gameRunning :=
        setGame_frame (f := (·.gameRunning)) fun _ _ _ => rfl
      rw [heq]
      refine ⟨fun t' ht' => ?_, ?_, ?_⟩
      · rcases List.mem_or_eq_of_mem_set ht' with hold | rfl
        · exact hw.looping t' hold
        · exact (hw.looping t (List.mem_of_getElem? ht)).step hstep
      · simpa using hw.length_le
      · simpa [hserver] using hw.running_iff
  | crashed _ _ _ _ _ _ _ _ _ heq => rw [heq]; exact hw.of_eq rfl rfl

theorem not_singleLoop_of_gameEnd (hw : OneThread w) (h : ¬ NoGameEnd w e) :
    ¬ SingleLoop (w.step e) := by
  simp only [NoGameEnd, not_forall] at h
  obtain ⟨rfl, hterminated, packet, rest, hqueue, hkind, hrunning⟩ := h
  rw [Bool.not_eq_false] at hrunning
  rw [step_process hterminated hqueue,
    handlePacket_gameEnd (w := w.setPacketQueue rest) hkind hrunning]
  have hloops : w.loops = 1 := by
    rw [loops_of_looping hw.looping]
    exact hw.running_iff.mp hrunning
  intro hsingle
  exact Bool.false_ne_true (hsingle.2.mpr hloops)

/-- At most one thread is inside `Game::run`, and the flag says whether one is, in
every state of a run, exactly if no GAME_END is handled while a game runs. -/
theorem singleLoop_iff :
    Always step SingleLoop new es ↔ EachStep step NoGameEnd new es :=
  always_iff_eachStep oneThread_new (fun _ hw => hw.singleLoop) (fun _ _ hw h => hw.step h)
    fun _ _ hw h => not_singleLoop_of_gameEnd hw h

/-- GAME_START, GAME_END, GAME_START. -/
def startEndStart : List Event :=
  [.receive .success ⟨1, 4000⟩ [3], .process, .receive .success ⟨1, 4000⟩ [15], .process,
    .receive .success ⟨1, 4000⟩ [3], .process]

/-- Two threads update the game. -/
theorem singleLoop_restart :
    ¬ Always step SingleLoop new startEndStart ∧ (run step new startEndStart).loops = 2 := by
  refine ⟨fun h => ?_, by decide⟩
  exact absurd h.final.1 (by decide)

end World

end BeeRType
