-- SUMMARY: How far apart an object is on the server and on a client's screen.
import BeeRType.Game.Flight
import BeeRType.Session.Relay
import BeeRType.World.Lifecycle

/-!
# Drift

The positions of enemies, bosses and bullets are sent once, with the CREATE packet. From
there the server moves an object when its timer fires, and a client moves the sprite in
every frame. The two are apart by the velocity for each firing that one side is behind,
and by what printing the position and rounding the client's sums have lost.
-/

open Cpp Std Transition Replay

namespace BeeRType

namespace Game

variable {g : Game} {c : ObjectClass} {i : Int} {m m' : Message}

/-- No two messages create the same object. -/
theorem LivesOnce.unique (hi : g.LivesOnce c i) (hm : m ∈ g.broadcasts) (hm' : m' ∈ g.broadcasts)
    (h : c.announces m.type m.payload.f1 = some (.create (toStringInt i)))
    (h' : c.announces m'.type m'.payload.f1 = some (.create (toStringInt i))) : m = m' := by
  have hcount : (announced c g.broadcasts).count (.create (toStringInt i)) ≤ 1 := by
    have htold : (g.toldOf c i).count (.create (toStringInt i)) ≤ 1 := by
      obtain htold | htold | htold := hi.once <;> rw [htold] <;> simp
    exact (List.count_filter (by simp [Change.key])).symm.trans_le htold
  obtain ⟨creates, hcreates⟩ : ∃ creates, creates = g.broadcasts.filter fun m =>
      c.announces m.type m.payload.f1 == some (.create (toStringInt i)) := ⟨_, rfl⟩
  have hlength : creates.length ≤ 1 := by
    rw [hcreates, ← List.countP_eq_length_filter, ← List.count_filterMap]
    exact hcount
  have hmem : m ∈ creates := by
    rw [hcreates]
    exact List.mem_filter.mpr ⟨hm, by rw [h, beq_self_eq_true]⟩
  have hmem' : m' ∈ creates := by
    rw [hcreates]
    exact List.mem_filter.mpr ⟨hm', by rw [h', beq_self_eq_true]⟩
  cases creates with
  | nil => exact absurd hmem List.not_mem_nil
  | cons create rest =>
      obtain rfl : rest = [] := by simpa using hlength
      rw [List.mem_singleton.mp hmem, List.mem_singleton.mp hmem']

end Game

namespace History

variable {s : History} {call : Call} {calls rest : List Call} {c : ObjectClass} {i : Int}

theorem exists_broadcasts_run (hcalls : ∀ call ∈ calls, call.OfServer) :
    ∃ messages, (run step s calls).game.broadcasts = s.game.broadcasts ++ messages := by
  induction calls generalizing s with
  | nil => exact ⟨[], (List.append_nil _).symm⟩
  | cons call calls ih =>
      obtain ⟨hcall, hcalls⟩ := List.forall_mem_cons.mp hcalls
      obtain ⟨later, hlater⟩ := ih (s := s.step call) hcalls
      have hstep : ∃ messages, (s.step call).game.broadcasts = s.game.broadcasts ++ messages := by
        obtain ⟨heq, -⟩ | ⟨game, -, hok, heq⟩ | ⟨e, -, -, heq⟩ := s.step_cases call <;> rw [heq]
        · exact ⟨[], (List.append_nil _).symm⟩
        · exact Game.exists_broadcasts_perform hcall hok
        · exact ⟨[], (List.append_nil _).symm⟩
      obtain ⟨messages, hmessages⟩ := hstep
      exact ⟨messages ++ later, by rw [run_cons, hlater, hmessages, List.append_assoc]⟩

theorem livesOnce_run (hs : s.game.Reachable) (hi : s.game.LivesOnce c i)
    (hcalls : ∀ call ∈ calls, call.OfServer) (hc : c ≠ .player) :
    (run step s calls).game.LivesOnce c i := by
  induction calls generalizing s with
  | nil => exact hi
  | cons call calls ih =>
      obtain ⟨hcall, hcalls⟩ := List.forall_mem_cons.mp hcalls
      refine ih (step_reachable hs hcall) ?_ hcalls
      obtain ⟨heq, -⟩ | ⟨game, -, hok, heq⟩ | ⟨e, -, -, heq⟩ := s.step_cases call <;> rw [heq]
      · exact hi
      · exact hi.perform hs.numbered hcall hok hc
      · exact hi

/-- The CREATE packet of an object that has been launched stays among what has been sent. -/
theorem announced_of_newAt {pre post : List Call} {launched : GameObject}
    (hnew : Game.NewAt c i launched (run step s pre).game (run step s (pre ++ [call])).game)
    (hpost : ∀ call ∈ post, call.OfServer) :
    createMessage c i launched.position ∈ (run step s (pre ++ call :: post)).game.broadcasts := by
  obtain ⟨messages, hmessages, hmem⟩ := hnew.announced
  obtain ⟨later, hlater⟩ := exists_broadcasts_run (s := run step s (pre ++ [call])) hpost
  rw [Ageing.run_append_cons, hlater, hmessages]
  exact List.mem_append_left _ (List.mem_append_right _ hmem)

end History

namespace Session

/-- The object and its sprite come from the same place, but for what printing has
changed. Since then the object has been moved at each firing and the sprite in each
frame, by the same velocity. The sums of the frames are not rounded if an enemy or a
bullet has been launched at a whole number. -/
def Drifted (calls : List Call) (frames : List (PacketData × List InputEvent)) (c : ObjectClass)
    (id : Int32) (o : GameObject) (sprite : SpriteElement) : Prop :=
  ∃ pre call post launched pre' e post', calls = pre ++ call :: post ∧
    frames = pre' ++ e :: post' ∧
    Game.NewAt c id.toInt launched (run History.step .new pre).game
      (run History.step .new (pre ++ [call])).game ∧
    e.1.announces c = some (.create id) ∧ (∀ e' ∈ post', e'.1.Leaves c id) ∧
    o.position = ⟨launched.position.x +
      (run History.step .new (pre ++ [call])).firings c post * c.velocity, launched.position.y⟩ ∧
    sprite.y = .finite (roundFloat (printedFloat launched.position.y)) ∧
    sprite.x = (fun x => x.add (.finite (roundFloat c.velocity)))^[post'.length + 1]
      (.finite (roundFloat (printedFloat launched.position.x))) ∧
    ∀ z : ℤ, launched.position.x = z → c ≠ .boss → |z| + 5 * (post'.length + 1) ≤ 2 ^ 24 →
      sprite.x = .finite (launched.position.x + (post'.length + 1 : Nat) * c.velocity)

variable {calls : List Call} {frames : List (PacketData × List InputEvent)} {c : ObjectClass}
  {id : Int32} {o : GameObject} {sprite : SpriteElement} {p : PacketData} {m : Message}

/-- A CREATE packet in the mailbox comes from a CREATE message with its id. -/
theorem create_of_reads (hp : p.Reads m) (h : p.announces c = some (.create id)) :
    c.announces m.type m.payload.f1 = some (.create (toStringInt id.toInt)) := by
  rw [PacketData.announces, hp.action, PacketType.ofCode?_code, Option.bind_some,
    ObjectClass.announces] at h
  rw [hp.serverId, ObjectClass.announces]
  split at h
  · rename_i htype
    cases h
    rw [if_pos htype]
  · split at h <;> cases h

/-! ## The sprite of a CREATE packet -/

section Sprite

variable {i : Int} {position : Position} {n : Nat}

/-- The vertical velocity is zero: the lane is as far from the border as it was printed. -/
theorem y_of_reads (hp : p.Reads (createMessage c i position))
    (hlane : 0 ≤ position.y ∧ position.y ≤ 720) :
    (SpriteElement.move^[n] (p.sprite c)).y = .finite (roundFloat (printedFloat position.y)) := by
  have hy := eq_of_stof_toStringFloat hp.newY
  have hvy : p.newVy = .finite 0 :=
    (Except.ok.inj ((show stof (str "0") = .ok (.finite 0) by decide +kernel).symm.trans
      hp.newVy)).symm
  have hle := abs_printedFloat_le position.y
  rw [abs_of_nonneg hlane.1] at hle
  have hfloat : IsFloat (roundFloat (printedFloat position.y)) :=
    isFloat_roundFloat (n := 721) (by push_cast; linarith [hlane.2]) (by decide)
  rw [SpriteElement.y_iterate]
  change (fun y => y.add p.newVy)^[n] p.newY = _
  rw [hy, hvy, add_iterate fun k _ => by rwa [mul_zero, add_zero], mul_zero, add_zero]

theorem x_of_reads (hp : p.Reads (createMessage c i position)) :
    (SpriteElement.move^[n] (p.sprite c)).x =
      (fun x => x.add (.finite (roundFloat c.velocity)))^[n]
        (.finite (roundFloat (printedFloat position.x))) := by
  have hx := eq_of_stof_toStringFloat hp.newX
  have hvx : p.newVx = .finite (roundFloat c.velocity) :=
    (Except.ok.inj ((c.stof_velocityText).symm.trans hp.newVx)).symm
  rw [SpriteElement.x_iterate]
  change (fun x => x.add p.newVx)^[n] p.newX = _
  rw [hx, hvx]

/-- From a whole number and by a whole velocity, no sum is rounded. -/
theorem x_of_whole {z : ℤ} (hc : c ≠ .boss) (hrange : |z| + 5 * n ≤ 2 ^ 24) :
    (fun x : FloatValue => x.add (.finite (roundFloat c.velocity)))^[n]
        (.finite (roundFloat (printedFloat z))) = .finite (z + n * c.velocity) := by
  obtain ⟨v, hv, hvelocity⟩ := ObjectClass.exists_velocity hc
  have hsum : ∀ k ≤ n, IsFloat ((z : ℚ) + k * v) := by
    intro k hk
    have hcast : (z : ℚ) + k * v = ((z + k * v : ℤ) : ℚ) := by
      push_cast
      rfl
    rw [hcast]
    have hway : |(k : ℤ) * v| ≤ n * 5 := by
      rw [abs_mul, Nat.abs_cast]
      exact mul_le_mul (by exact_mod_cast hk) hv (abs_nonneg v) (by positivity)
    exact isFloat_intCast ((abs_add_le _ _).trans (by omega))
  have hzero := hsum 0 (Nat.zero_le _)
  rw [Nat.cast_zero, zero_mul, add_zero] at hzero
  rw [printedFloat_intCast, hzero.2, hvelocity, roundFloat_intCast (by omega), add_iterate hsum]

end Sprite

/-- If a client draws an object of the game, the two have drifted apart only by the frames
and firings since the CREATE packet. -/
theorem drift (hcalls : ∀ call ∈ calls, call.OfServer) (hc : c ≠ .player)
    (hreads : ∀ e ∈ frames, e.1.announces c = some (.create id) →
      ∃ m ∈ (run History.step .new calls).game.broadcasts, e.1.Reads m)
    (ho : (run History.step .new calls).game.objectAt c id.toInt = some o)
    (hsprite : ((run GameScene.next .new frames).sprites c)[id]? = some sprite) :
    Drifted calls frames c id o sprite := by
  obtain ⟨pre, call, post, launched, rfl, hnew, rfl⟩ := History.exists_newAt hcalls hc ho
  obtain ⟨pre', p, inputs, post', rfl, hcreate, hleaves, rfl⟩ :=
    GameScene.exists_packet_of_sprite hc hsprite
  obtain ⟨m, hm, hp⟩ := hreads (p, inputs) (by simp) hcreate
  have hlives := History.livesOnce_run (s := .new) .new Game.livesOnce_new hcalls hc
    (i := id.toInt)
  have hannounced : createMessage c id.toInt launched.position ∈
      (run History.step .new (pre ++ call :: post)).game.broadcasts :=
    History.announced_of_newAt hnew fun call hcall => hcalls call (by simp [hcall])
  -- Both sides go back to a CREATE packet with this id, and there is only one.
  obtain rfl : m = createMessage c id.toInt launched.position :=
    hlives.unique hm hannounced (create_of_reads hp hcreate) (by simp [createMessage])
  refine ⟨pre, call, post, launched, pre', (p, inputs), post', rfl, rfl, hnew, hcreate, hleaves,
    (GameObject.position_fly _ hnew.launched.hasComponent).2, y_of_reads hp hnew.launched.lane,
    x_of_reads hp, fun z hz hboss hrange => ?_⟩
  rw [x_of_reads hp, hz]
  exact x_of_whole hboss (by push_cast; exact hrange)

/-- What a client makes of the CREATE packet of the first bullet of the first player. -/
def shotPacket : PacketData :=
  ⟨PacketType.createBullet.code, 0, .finite 150, .finite 125, .finite 5, .finite 0⟩

theorem shotPacket_reads :
    shotPacket.Reads (createMessage .bullet 0 ⟨150, 125⟩) where
  action := rfl
  serverId := rfl
  newX := by decide +kernel
  newY := by decide +kernel
  newVx := by decide +kernel
  newVy := by decide +kernel

def shotFrames : List (PacketData × List InputEvent) :=
  [(shotPacket, []), (.reset, []), (.reset, [])]

/-- The bullet has been moved twice on the server and three times on the screen. -/
theorem drift_shot : ∃ o sprite,
    (run History.step .new (History.shot ++ History.bulletFrames 3)).game.objectAt .bullet 0 =
      some o ∧
    ((run GameScene.next .new shotFrames).sprites .bullet)[(0 : Int32)]? = some sprite ∧
    Drifted (History.shot ++ History.bulletFrames 3) shotFrames .bullet 0 o sprite := by
  obtain ⟨o, ho⟩ : ∃ o, (run History.step .new
      (History.shot ++ History.bulletFrames 3)).game.objectAt .bullet 0 = some o :=
    Option.isSome_iff_exists.mp (by decide +kernel)
  obtain ⟨sprite, hsprite⟩ : ∃ sprite,
      ((run GameScene.next .new shotFrames).sprites .bullet)[(0 : Int32)]? = some sprite :=
    Option.isSome_iff_exists.mp (by decide +kernel)
  refine ⟨o, sprite, ho, hsprite, drift (fun call hcall => ?_) nofun (fun e he hcreate => ?_) ho
    hsprite⟩
  · exact (List.mem_append.mp hcall).elim History.ofServer_of_mem_shot
      History.ofServer_of_mem_bulletFrames
  · refine ⟨createMessage .bullet 0 ⟨150, 125⟩, by decide +kernel, ?_⟩
    rcases List.mem_cons.mp he with rfl | he
    · exact shotPacket_reads
    · rcases List.mem_pair.mp he with rfl | rfl <;> exact absurd hcreate (by decide)

end Session

end BeeRType
