-- SUMMARY: Where the client's screen shows the players, at any time and once nothing is under way.
import BeeRType.Game.Placed
import BeeRType.Session.Mirror

/-!
# Places

A player is drawn at the position of the last CREATE_PLAYER or CHANGE packet that the
scene has consumed. So it is always drawn where it once was, and once nothing is under
way, a player whose id is below the number of players left is drawn where it is, as far
as `float` has its position.
-/

open Cpp Std Transition

namespace BeeRType

/-- A position as far as it can be read. -/
abbrev Place := Except StdException FloatValue × Except StdException FloatValue

/-- What a client reads of a printed position. -/
def readText (text : Bytes × Bytes) : Place := (stof text.1, stof text.2)

/-- The sprite is drawn at the position. -/
def SpriteElement.At (s : SpriteElement) (pos : Position) : Prop :=
  s.x = .finite pos.x ∧ s.y = .finite pos.y

/-- The position that the packet in the mailbox gives for a player. -/
def PacketData.located (p : PacketData) (id : Int32) : Option Place :=
  if (PacketType.ofCode? p.action = some .createPlayer ∨
      PacketType.ofCode? p.action = some .change) ∧ p.serverId = id then
    some (.ok p.newX, .ok p.newY)
  else none

variable {p : PacketData} {m : Message} {id : Int32}

theorem PacketData.located_of_action {t : PacketType} (h : p.action = t.code)
    (ht : t ≠ .createPlayer ∧ t ≠ .change) : p.located id = none := by
  refine if_neg fun hp => ?_
  rw [h, PacketType.ofCode?_code, Option.some_inj, Option.some_inj] at hp
  exact hp.1.elim ht.1 ht.2

/-- The mailbox gives the position that the message gives. -/
theorem PacketData.Reads.located (h : p.Reads m) :
    p.located id = (BeeRType.located id.toInt m).map readText := by
  have hid : p.serverId = id ↔ m.payload.f1 = toStringInt id.toInt := by
    rw [h.serverId]
    exact (idText_injective.eq_iff (a := p.serverId)).symm
  unfold PacketData.located BeeRType.located
  simp only [h.action, PacketType.ofCode?_code, Option.some_inj, hid]
  split
  · rw [Option.map_some, readText, h.newX, h.newY]
  · rfl

namespace GameScene

variable {scene : GameScene} {sprite : SpriteElement}

/-- A player's sprite is where the packet says, or where it has been. -/
theorem place_consume (h : ((scene.consume p).sprites .player)[id]? = some sprite) :
    p.located id = some (.ok sprite.x, .ok sprite.y) ∨
      p.located id = none ∧ (scene.sprites .player)[id]? = some sprite := by
  unfold consume handleServerAction applyAction at h
  dsimp only at h
  unfold PacketData.located
  cases hcode : PacketType.ofCode? p.action with
  | none =>
      rw [hcode] at h
      exact .inr ⟨by simp, h⟩
  | some type =>
      rw [hcode] at h
      cases type with
      | createPlayer =>
          have h : (createSprites p .player scene.playerSprites)[id]? = some sprite := h
          rw [getElem?_createSprites] at h
          split at h
          · rename_i hid
            cases h
            exact .inl (if_pos ⟨.inl rfl, hid⟩)
          · rename_i hid
            exact .inr ⟨if_neg fun hp => hid hp.2, h⟩
      | change =>
          dsimp only at h
          unfold updateSpritePosition at h
          split at h
          · have h : (scene.playerSprites.insert p.serverId _)[id]? = some sprite := h
            rw [ExtTreeMap.getElem?_insert] at h
            split at h
            · rename_i hid
              cases h
              exact .inl (if_pos ⟨.inr rfl, Std.compare_eq_iff_eq.mp hid⟩)
            · rename_i hid
              exact .inr ⟨if_neg fun hp => hid (Std.compare_eq_iff_eq.mpr hp.2), h⟩
          · rename_i hnone
            refine .inr ⟨if_neg fun hp => ?_, h⟩
            rw [hp.2] at hnone
            exact absurd (hnone.symm.trans h) nofun
      | destroyPlayer =>
          have h : (destroySprite p scene.playerSprites)[id]? = some sprite := h
          rw [getElem?_destroySprite] at h
          split at h
          · cases h
          · exact .inr ⟨by simp, h⟩
      | _ => exact .inr ⟨by simp, h⟩

end GameScene

namespace Session

variable {s : Session} {e : Endpoint} {event : SessionEvent}

/-- The places of a player. -/
def places (id : Int32) : Topic Place where
  tells := fun m => ((located id.toInt m).map readText).toList
  mailbox := fun p => (p.located id).toList
  Shows := fun scene seen => ∀ sprite, (scene.sprites .player)[id]? = some sprite →
    seen.getLast? = some (.ok sprite.x, .ok sprite.y)
  answers := by
    rintro ⟨t, payload⟩ ht
    have hnone : located id.toInt ⟨t, payload⟩ = none :=
      located_of_type (by cases t <;> first | exact ht.elim | exact ⟨nofun, nofun⟩)
    rw [hnone]
    rfl
  reset := rfl
  received := by
    intro m data client client' now source hm hmailbox hreceive
    rw [Option.toList_eq_nil_iff] at hmailbox
    obtain ⟨ht, hkept⟩ | ⟨ht, hkept⟩ | hreads := hm.received hreceive
    · rw [located_of_type (by rw [ht]; exact ⟨nofun, nofun⟩), hkept, hmailbox]
      rfl
    · have hnone : client'.packetData.located id = none := by
        rcases hkept with hkept | haction
        · rw [hkept, hmailbox]
        · exact PacketData.located_of_action haction ⟨nofun, nofun⟩
      rw [located_of_type (by rw [ht]; exact ⟨nofun, nofun⟩), hnone]
      rfl
    · rw [hreads.located]
  consume := by
    intro scene seen p hshows sprite hsprite
    obtain hlocated | ⟨hnone, hold⟩ := GameScene.place_consume hsprite
    · rw [hlocated, Option.toList_some, List.getLast?_concat]
    · rw [hnone, Option.toList_none, List.append_nil]
      exact hshows sprite hold
  input := fun _ _ _ _ => rfl

theorem told_places (messages : List Message) :
    (places id).told messages = (messages.filterMap (located id.toInt)).map readText := by
  induction messages with
  | nil => rfl
  | cons m messages ih =>
      rw [Topic.told_cons, ih, List.filterMap_cons]
      change ((located id.toInt m).map readText).toList ++ _ = _
      cases located id.toInt m <;> rfl

/-- The packet in the mailbox does not move a player. -/
def Unmoved (s : Session) : Prop :=
  PacketType.ofCode? s.loop.client.packetData.action ≠ some .change

/-- A CHANGE packet, too, is handled before the next datagram gets into the mailbox. -/
def KeepsPlaces (e : Endpoint) (s : Session) : SessionEvent → Prop
  | .deliver now source => s.KeepsUp e (.deliver now source) ∧
      (s.loop.client.mutexLocked = false → s.Unmoved)
  | event => s.KeepsUp e event

theorem KeepsPlaces.keepsUp (h : s.KeepsPlaces e event) : s.KeepsUp e event := by
  cases event with
  | deliver now source => exact h.1
  | _ => exact h

/-- A datagram that is sent, received and handled. -/
def arrival (now : ℚ) (source : Endpoint) : List SessionEvent :=
  [.sendTimer, .deliver now source, .mainLoop [], .mainLoop [], .mainLoop []]

theorem mailbox_places (hidle : s.Idle) (h : s.Unmoved) :
    (places id).mailbox s.loop.client.packetData = [] := by
  have hnone : s.loop.client.packetData.located id = none := by
    refine if_neg fun hp => hp.1.elim (fun hcreate => ?_) h
    have hannounces := hidle .player
    rw [PacketData.announces, hcreate] at hannounces
    cases hannounces
  change (s.loop.client.packetData.located id).toList = []
  rw [hnone]
  rfl

theorem KeepsPlaces.attends (h : s.KeepsPlaces e event) : s.Attends (places id) event := by
  cases event with
  | deliver now source => exact fun hmutex => mailbox_places (h.1 hmutex) (h.2 hmutex)
  | _ => trivial

/-- The places of each player are on their way to the scene. -/
theorem BeforeGame.places_run (hs : s.BeforeGame e) (hunmoved : s.Unmoved) {numPlayers : Int}
    (hn : numPlayers ≤ 2 ^ 31) {es : List SessionEvent} {s' : Session}
    (hrun : EachStep (step e) (KeepsPlaces e) (s.step e (.call (.initializePlayers numPlayers))) es)
    (hs' : s' = run (step e) (s.step e (.call (.initializePlayers numPlayers))) es) (id : Int32) :
    Relays (places id) e s' := by
  have hshows : (places id).Shows s.loop.scene [] := by
    intro sprite hsprite
    have hdrawn : id ∈ s.loop.scene.drawn .player :=
      ExtTreeMap.mem_iff_isSome_getElem?.mpr (Option.isSome_of_mem hsprite)
    rw [hs.empty] at hdrawn
    exact hdrawn.elim
  rw [hs']
  exact (relays_run (fun _ _ h => ⟨h.keepsUp, h.attends⟩) hs hshows (mailbox_places hs.idle hunmoved) hn
    hrun).2

/-- What a game that has run is like: the players below their number are placed, and all
are on whole numbers, which `float` has unless there were too many players. -/
theorem BeforeGame.placed_run (hs : s.BeforeGame e) {numPlayers : Int} (hn : numPlayers ≤ 2 ^ 31)
    {es : List SessionEvent}
    (hrun : EachStep (step e) (KeepsUp e) (s.step e (.call (.initializePlayers numPlayers))) es) :
    let g := (run (step e) (s.step e (.call (.initializePlayers numPlayers))) es).history.game
    g.Placed ∧ AllEntries (fun p : Player => p.position.Whole) g.players ∧
      (numPlayers ≤ 167771 →
        AllEntries (fun p : Player => p.position.Whole ∧ p.position.asFloat = p.position) g.players) := by
  obtain ⟨g, hg, hstep, -⟩ := hs.initializes hn
  have hgame : (s.step e (.call (.initializePlayers numPlayers))).history.game = g :=
    congrArg History.game hstep
  refine ⟨game_run Game.placed_rule hrun ?_, game_run Game.whole_rule hrun ?_, fun hfew =>
    game_run Game.exact_rule hrun ?_⟩ <;> rw [hgame]
  · exact Game.initializePlayers_placed hg
  · exact Game.initializePlayers_whole hg
  · exact Game.initializePlayers_exact hfew hg

/-- Once nothing is under way, every player of the game is drawn where it was last
published, and if its id is below the number of players left, where it is. -/
theorem BeforeGame.drawn_settled (hs : s.BeforeGame e) (hunmoved : s.Unmoved) {numPlayers : Int}
    (hn : numPlayers ≤ 2 ^ 31) {es : List SessionEvent} {s' : Session}
    (hrun : EachStep (step e) (KeepsPlaces e) (s.step e (.call (.initializePlayers numPlayers))) es)
    (hs' : s' = run (step e) (s.step e (.call (.initializePlayers numPlayers))) es)
    (hsettled : s'.Settled e) (hquiet : s'.Unmoved) {q : Int} {p : Player}
    (hp : s'.history.game.players[q]? = some p) :
    ∃ (id : Int32) (sprite : SpriteElement), id.toInt = q ∧
      (s'.loop.scene.sprites .player)[id]? = some sprite ∧
      (lastLocated q s'.history.game.broadcasts).map readText = some (.ok sprite.x, .ok sprite.y) ∧
      (q < s'.history.game.players.size → sprite.At p.position.asFloat ∧
        (numPlayers ≤ 167771 → sprite.At p.position)) := by
  have hkeeps : EachStep (step e) (KeepsUp e)
      (s.step e (.call (.initializePlayers numPlayers))) es := hrun.mono fun _ _ h => h.keepsUp
  obtain ⟨hserves, hobjects⟩ := hs.objects_run hn hkeeps hs'
  have hmem : q ∈ s'.history.game.ids .player := Game.mem_ids_player hp
  rw [← hobjects.image_drawn_settled hserves hsettled (by decide)] at hmem
  obtain ⟨id, hdrawn, rfl⟩ := hmem
  obtain ⟨sprite, hsprite⟩ : ∃ sprite, (s'.loop.scene.sprites .player)[id]? = some sprite :=
    Option.isSome_iff_exists.mp (ExtTreeMap.mem_iff_isSome_getElem?.mp hdrawn)
  have hshows := (hs.places_run hunmoved hn hrun hs' id).settled hsettled.queue
    hsettled.delivered (mailbox_places hsettled.idle hquiet) sprite hsprite
  rw [told_places, List.getLast?_map, ← lastLocated_eq] at hshows
  refine ⟨id, sprite, rfl, hsprite, hshows, fun hlt => ?_⟩
  -- What was last published is where the player is, which is printed without loss.
  obtain ⟨hplaced, hwhole, hexact⟩ := hs.placed_run hn hkeeps
  rw [← hs'] at hplaced hwhole hexact
  obtain ⟨hlow, -⟩ := hserves.inRange.ids .player _ (Game.mem_ids_player hp)
  rw [(hplaced _ p hp hlow hlt).1] at hshows
  obtain ⟨hx, hy⟩ := Prod.mk.inj (Option.some.inj hshows)
  obtain ⟨⟨m, hm⟩, n, hn⟩ := hwhole _ p hp
  have hat : sprite.At p.position.asFloat := by
    refine ⟨(eq_of_stof_toStringFloat hx).trans ?_, (eq_of_stof_toStringFloat hy).trans ?_⟩
    · rw [hm, printedFloat_intCast, ← hm]
      rfl
    · rw [hn, printedFloat_intCast, ← hn]
      rfl
  refine ⟨hat, fun hfew => ?_⟩
  have hsame := (hexact hfew _ p hp).2
  rwa [hsame] at hat

/-- In every run of a session that keeps up, a player is drawn at a position that the game
has published for it. Once nothing is under way, that is the position published last, and
of a player whose id is below the number of players left it is the player's own, in
`float`s. For an id that is not below it, no position is published any more. -/
theorem players_shown (hs : s.BeforeGame e) (hunmoved : s.Unmoved) {numPlayers : Int}
    (hn : numPlayers ≤ 2 ^ 31) {es : List SessionEvent} {s' : Session}
    (hrun : EachStep (step e) (KeepsPlaces e) (s.step e (.call (.initializePlayers numPlayers))) es)
    (hs' : s' = run (step e) (s.step e (.call (.initializePlayers numPlayers))) es) :
    (∀ (id : Int32) sprite, (s'.loop.scene.sprites .player)[id]? = some sprite →
      ∃ text ∈ s'.history.game.broadcasts.filterMap (located id.toInt),
        readText text = (.ok sprite.x, .ok sprite.y)) ∧
    (s'.Settled e → s'.Unmoved → ∀ (q : Int) (p : Player), s'.history.game.players[q]? = some p →
      ∃ (id : Int32) (sprite : SpriteElement), id.toInt = q ∧
        (s'.loop.scene.sprites .player)[id]? = some sprite ∧
        (lastLocated q s'.history.game.broadcasts).map readText = some (.ok sprite.x, .ok sprite.y) ∧
        (q < s'.history.game.players.size → sprite.At p.position.asFloat ∧
          (numPlayers ≤ 167771 → sprite.At p.position))) ∧
    ∀ pre post, es = pre ++ post → ∀ q : Int,
      let before := run (step e) (s.step e (.call (.initializePlayers numPlayers))) pre
      before.history.game.players.size ≤ q → s'.history.game.broadcasts.filterMap (located q) =
        before.history.game.broadcasts.filterMap (located q) := by
  refine ⟨fun id sprite hsprite => ?_, fun hsettled hquiet q p hp => ?_, ?_⟩
  · obtain ⟨seen, hshows, hprefix⟩ := (hs.places_run hunmoved hn hrun hs' id).exists_seen
    have htold := hprefix.subset (List.mem_of_getLast? (hshows sprite hsprite))
    rw [told_places] at htold
    exact List.mem_map.mp htold
  · exact hs.drawn_settled hunmoved hn hrun hs' hsettled hquiet hp
  · rintro pre post rfl q before hq
    obtain ⟨-, hpost⟩ := eachStep_append.mp hrun
    rw [hs', run_append]
    exact (game_run Game.overlooks_rule (hpost.mono fun _ _ h => h.keepsUp) q hq).2

instance (s : Session) : Decidable s.Unmoved :=
  inferInstanceAs (Decidable (PacketType.ofCode? s.loop.client.packetData.action ≠ some .change))

/-- The player of the game moves to the right, and the client gets to know it. -/
def oneMove : List SessionEvent :=
  arrival 0 ⟨0, 4242⟩ ++ arrival 1 ⟨0, 4242⟩ ++
    [.call (.addPlayerAction 0 2), .call .processPlayerActions] ++ arrival 2 ⟨0, 4242⟩

/-- The session after that. -/
def afterMove : Session :=
  run (step ⟨1, 4000⟩) ((registered ⟨1, 4000⟩).step ⟨1, 4000⟩ (.call (.initializePlayers 1))) oneMove

theorem players_shown_oneMove : ∃ (id : Int32) (sprite : SpriteElement), id.toInt = 0 ∧
    (afterMove.loop.scene.sprites .player)[id]? = some sprite ∧
      sprite.x = .finite 120 ∧ sprite.y = .finite 100 := by
  have hrun : EachStep (step ⟨1, 4000⟩) (KeepsPlaces ⟨1, 4000⟩)
      ((registered ⟨1, 4000⟩).step ⟨1, 4000⟩ (.call (.initializePlayers 1))) oneMove :=
    ⟨trivial, ⟨fun _ => by decide +kernel, fun _ => by decide +kernel⟩, List.not_mem_nil,
      List.not_mem_nil, List.not_mem_nil,
      trivial, ⟨fun _ => by decide +kernel, fun _ => by decide +kernel⟩, List.not_mem_nil,
      List.not_mem_nil, List.not_mem_nil,
      ⟨trivial, fun c => by cases c <;> decide +kernel⟩,
      ⟨trivial, fun c => by cases c <;> decide +kernel⟩,
      trivial, ⟨fun _ => by decide +kernel, fun _ => by decide +kernel⟩, List.not_mem_nil,
      List.not_mem_nil, List.not_mem_nil, trivial⟩
  have hsettled : afterMove.Settled ⟨1, 4000⟩ :=
    ⟨by decide +kernel, by decide +kernel, by decide +kernel⟩
  have hmoved : ∃ p, afterMove.history.game.players[(0 : Int)]? = some p ∧
      p.position = ⟨120, 100⟩ := Option.map_eq_some_iff.mp (by decide +kernel)
  obtain ⟨p, hp, hposition⟩ := hmoved
  obtain ⟨id, sprite, hid, hsprite, -, hplace⟩ :=
    (players_shown (beforeGame_registered ⟨1, 4000⟩) (by decide +kernel) (by decide) hrun
      (rfl : afterMove = _)).2.1 hsettled (by decide +kernel) 0 p hp
  obtain ⟨hx, hy⟩ := (hplace (by decide +kernel)).2 (by decide)
  rw [hposition] at hx hy
  exact ⟨id, sprite, hid, hsprite, hx, hy⟩

end Session

end BeeRType
