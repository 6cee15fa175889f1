-- SUMMARY: What the client's screen shows of the objects of the game, at any time and once nothing is under way.
import BeeRType.Session.Relay

/-!
# Mirror

The screen shows the players, enemies and bosses of some earlier moment of the game, and
once nothing is under way, those of the game as it is. Bullets stay on the screen.
-/

open Cpp Std Transition Replay

namespace BeeRType

/-- The id as the packets have it. -/
def idText (id : Int32) : Bytes := toStringInt id.toInt

theorem idText_injective : Function.Injective idText := fun _ _ h =>
  Int32.toInt_inj.mp (toStringInt_injective h)

variable {c : ObjectClass} {m : Message} {client client' : Client} {data : Bytes} {now : ℚ}
  {source : Endpoint}

theorem announces_of_action {p : PacketData} {t : PacketType} (h : p.action = t.code) :
    p.announces c = c.announces t p.serverId := by
  rw [PacketData.announces, h, PacketType.ofCode?_code]
  rfl

theorem announces_map (c : ObjectClass) (t : PacketType) (id : Int32) :
    (c.announces t id).map (Change.map idText) = c.announces t (idText id) := by
  unfold ObjectClass.announces
  split
  · rfl
  · split <;> rfl

/-- An idle mailbox that receives a packet announces what the packet does. -/
theorem announces_handleReceive (hm : m.SentAs data) (hidle : client.packetData.announces c = none)
    (h : client.handleReceive now .success source data = .ok client') :
    (client'.packetData.announces c).map (Change.map idText) =
      c.announces m.type m.payload.f1 := by
  have hquiet {t : PacketType} (ht : ∀ id : Bytes, c.announces t id = none)
      (hcases : client'.packetData = client.packetData ∨ client'.packetData.action = t.code) :
      (client'.packetData.announces c).map (Change.map idText) = none := by
    rcases hcases with heq | haction
    · rw [heq, hidle]
      rfl
    · rw [announces_of_action haction, announces_map, ht]
  obtain ⟨ht, hkept⟩ | ⟨ht, hkept⟩ | hreads := hm.received h
  · rw [ht]
    have hnone : ∀ id : Bytes, c.announces .heartbeat id = none := fun _ => by cases c <;> rfl
    rw [hnone, hquiet hnone (.inl hkept)]
  · rw [ht]
    have hnone : ∀ id : Bytes, c.announces .uiUpdate id = none := fun _ => by cases c <;> rfl
    rw [hnone, hquiet hnone hkept]
  · rw [announces_of_action hreads.action, announces_map, hreads.serverId]
    rfl

/-! ## The scene -/

namespace GameScene

variable {scene : GameScene} {p : PacketData}

/-- What is drawn of a class once its changes have been seen: bullets stay. -/
def Draws (scene : GameScene) (c : ObjectClass) (seen : List (Change Int32)) : Prop :=
  if c = .bullet then ∀ id, id ∈ scene.drawn .bullet ↔ id ∈ created seen
  else scene.drawn c = replay ∅ seen

variable {c : ObjectClass} {seen : List (Change Int32)}

theorem announcedBy_singleton : announcedBy c [p] = (p.announces c).toList := by
  cases h : p.announces c <;> simp [announcedBy, h]

/-- Consuming a packet shows what the packet says. -/
theorem Draws.consume (h : scene.Draws c seen) (hfast : scene.fastBulletSprites = ∅) :
    (scene.consume p).Draws c (seen ++ (p.announces c).toList) := by
  unfold Draws at h ⊢
  split at h
  · rename_i hc
    subst hc
    rw [if_pos rfl]
    intro id
    have hrun : id ∈ (run GameScene.consume scene [p]).drawn .bullet ↔ _ :=
      mem_drawn_run_bullet hfast
    rw [run_cons, run_nil, h, announcedBy_singleton] at hrun
    rw [hrun, created_append, List.mem_append]
  · rename_i hc
    rw [if_neg hc, replay_append, ← h]
    have hrun : (run GameScene.consume scene [p]).drawn c = _ := drawn_run hc
    rw [run_cons, run_nil, announcedBy_singleton] at hrun
    exact hrun

end GameScene

namespace Session

variable {s : Session} {e : Endpoint} {event : SessionEvent}

theorem announces_reset (c : ObjectClass) : PacketData.reset.announces c = none := by
  cases c <;> rfl

/-- The objects of a class. -/
def objectsOf (c : ObjectClass) : Topic (Change Bytes) where
  tells := fun m => (c.announces m.type m.payload.f1).toList
  mailbox := fun p => ((p.announces c).map (Change.map idText)).toList
  Shows := fun scene seen => scene.fastBulletSprites = ∅ ∧
    ∃ changes, seen = changes.map (Change.map idText) ∧ scene.Draws c changes
  answers := by
    rintro ⟨t, payload⟩ ht
    cases t <;> first | exact ht.elim | (cases c <;> rfl)
  reset := by rw [announces_reset]; rfl
  received := by
    intro m data client client' now source hm hmailbox hreceive
    rw [Option.toList_eq_nil_iff, Option.map_eq_none_iff] at hmailbox
    rw [announces_handleReceive hm hmailbox hreceive]
  consume := by
    rintro scene _ p ⟨hfast, changes, rfl, hdraws⟩
    refine ⟨GameScene.fastBulletSprites_consume hfast, _, ?_, hdraws.consume hfast⟩
    rw [List.map_append]
    cases p.announces c <;> rfl
  input := by
    intro scene playerAliveStatus newAction seen
    unfold GameScene.Draws
    cases c <;> rfl

theorem told_objectsOf (messages : List Message) :
    (objectsOf c).told messages = announced c messages := by
  induction messages with
  | nil => rfl
  | cons m messages ih =>
      rw [Topic.told_cons, ih, announced, announced, List.filterMap_cons]
      change (c.announces m.type m.payload.f1).toList ++ _ = _
      cases c.announces m.type m.payload.f1 <;> rfl

/-! ### The objects of all classes -/

/-- What is said for each class. -/
def ofAll (said : ObjectClass → List (Change Bytes)) : List (ObjectClass × Change Bytes) :=
  [.player, .enemy, .boss, .bullet].flatMap fun c => (said c).map (c, ·)

/-- What is said about one class. -/
def about (c : ObjectClass) (seen : List (ObjectClass × Change Bytes)) : List (Change Bytes) :=
  seen.filterMap fun change => if change.1 = c then some change.2 else none

@[simp] theorem about_append (seen seen' : List (ObjectClass × Change Bytes)) :
    about c (seen ++ seen') = about c seen ++ about c seen' := List.filterMap_append

theorem about_ofAll (said : ObjectClass → List (Change Bytes)) : about c (ofAll said) = said c := by
  have hmap (c' : ObjectClass) : about c ((said c').map (c', ·)) = if c' = c then said c else [] := by
    rw [about, List.filterMap_map]
    by_cases h : c' = c
    · subst h
      simp
    · simp [h]
  unfold ofAll
  simp only [List.flatMap_cons, List.flatMap_nil, about_append, hmap]
  cases c <;> simp [about]

theorem ofAll_eq_nil_iff {said : ObjectClass → List (Change Bytes)} :
    ofAll said = [] ↔ ∀ c, said c = [] := by
  refine ⟨fun h c => ?_, fun h => ?_⟩
  · rw [← about_ofAll (c := c) said, h]
    rfl
  · simp [ofAll, h]

/-- The objects. -/
def objects : Topic (ObjectClass × Change Bytes) where
  tells := fun m => ofAll fun c => (objectsOf c).tells m
  mailbox := fun p => ofAll fun c => (objectsOf c).mailbox p
  Shows := fun scene seen => ∀ c, (objectsOf c).Shows scene (about c seen)
  answers := fun ht => ofAll_eq_nil_iff.mpr fun c => (objectsOf c).answers ht
  reset := ofAll_eq_nil_iff.mpr fun c => (objectsOf c).reset
  received := fun hm hmailbox hreceive => congrArg ofAll <| funext fun c =>
    (objectsOf c).received hm (ofAll_eq_nil_iff.mp hmailbox c) hreceive
  consume := by
    intro scene seen p hshows c
    rw [about_append, about_ofAll]
    exact (objectsOf c).consume (hshows c)
  input := by
    intro scene playerAliveStatus newAction seen
    exact forall_congr fun c => (objectsOf c).input scene playerAliveStatus newAction _

theorem about_told (messages : List Message) :
    about c (objects.told messages) = announced c messages := by
  rw [← told_objectsOf]
  induction messages with
  | nil => rfl
  | cons m messages ih =>
      rw [Topic.told_cons, Topic.told_cons, about_append, ih]
      exact congrArg (· ++ _) (about_ofAll fun c => (objectsOf c).tells m)

/-- A packet creates or destroys one object at most. -/
theorem tells_objects_length (m : Message) : (objects.tells m).length ≤ 1 := by
  obtain ⟨t, payload⟩ := m
  cases t <;> exact of_decide_eq_true rfl

theorem mailbox_objects (h : s.Idle) : objects.mailbox s.loop.client.packetData = [] := by
  have hnone (c : ObjectClass) : (objectsOf c).mailbox s.loop.client.packetData = [] := by
    change ((s.loop.client.packetData.announces c).map _).toList = []
    rw [h c]
    rfl
  exact ofAll_eq_nil_iff.mpr hnone

theorem attends_of_keepsUp (h : s.KeepsUp e event) : s.Attends objects event := by
  cases event with
  | deliver now source => exact fun hmutex => mailbox_objects (h hmutex)
  | _ => trivial

/-- A client that has no sprites shows what has been said so far: nothing. -/
theorem BeforeGame.shows (hs : s.BeforeGame e) : objects.Shows s.loop.scene [] := by
  intro c
  refine ⟨ExtTreeMap.eq_empty_iff_forall_not_mem.mpr fun id hid => ?_, [], rfl, ?_⟩
  · exact Set.eq_empty_iff_forall_notMem.mp (hs.empty .bullet) id (.inr hid)
  · unfold GameScene.Draws
    split
    · intro id
      rw [hs.empty]
      exact ⟨fun h => absurd h (Set.notMem_empty id), fun h => absurd h List.not_mem_nil⟩
    · exact hs.empty c

/-- The objects are on their way to the scene. -/
theorem BeforeGame.objects_run (hs : s.BeforeGame e) {numPlayers : Int} (hn : numPlayers ≤ 2 ^ 31)
    {es : List SessionEvent} {s' : Session}
    (hrun : EachStep (step e) (KeepsUp e) (s.step e (.call (.initializePlayers numPlayers))) es)
    (hs' : s' = run (step e) (s.step e (.call (.initializePlayers numPlayers))) es) :
    Serves e s' ∧ Relays objects e s' := by
  rw [hs']
  exact relays_run (fun s event h => ⟨h, attends_of_keepsUp h⟩) hs hs.shows
    (mailbox_objects hs.idle) hn hrun

/-! ## The screen -/

/-- The screen shows the players, enemies and bosses that there were before, with a first
part of what the call has announced, and all the bullets created up to there. -/
def ShowsWithin (before after : Game) (s : Session) : Prop :=
  ∃ part, before.broadcasts ++ part <+: after.broadcasts ∧
    (∀ c ≠ .bullet, Set.image idText (s.loop.scene.drawn c) =
      replay (Set.image toStringInt (before.ids c)) (announced c part)) ∧
    ∀ id, id ∈ s.loop.scene.drawn .bullet ↔
      idText id ∈ created (announced .bullet (before.broadcasts ++ part))

/-- The game after the first events. -/
def gameAfter (e : Endpoint) (s : Session) (events : List SessionEvent) : Game :=
  (run (step e) s events).history.game

theorem image_drawn (hc : c ≠ .bullet) {changes : List (Change Int32)}
    (h : s.loop.scene.Draws c changes) :
    Set.image idText (s.loop.scene.drawn c) = replay ∅ (changes.map (Change.map idText)) := by
  rw [GameScene.Draws, if_neg hc] at h
  rw [h, ← replay_image idText_injective, Set.image_empty]

theorem mem_drawn_bullet {changes : List (Change Int32)} (h : s.loop.scene.Draws .bullet changes)
    (id : Int32) : id ∈ s.loop.scene.drawn .bullet ↔
      idText id ∈ created (changes.map (Change.map idText)) := by
  rw [GameScene.Draws, if_pos rfl] at h
  rw [h, created_map, List.mem_map_of_injective idText_injective]

/-- What is drawn once the scene has seen what some messages say. -/
theorem drawn_of_shows {messages : List Message}
    (h : objects.Shows s.loop.scene (objects.told messages)) :
    (∀ c ≠ .bullet, Set.image idText (s.loop.scene.drawn c) = replay ∅ (announced c messages)) ∧
    ∀ id, id ∈ s.loop.scene.drawn .bullet ↔ idText id ∈ created (announced .bullet messages) := by
  constructor
  · intro c hc
    obtain ⟨-, changes, hseen, hdraws⟩ := h c
    rw [image_drawn hc hdraws, ← hseen, about_told]
  · intro id
    obtain ⟨-, changes, hseen, hdraws⟩ := h .bullet
    rw [mem_drawn_bullet hdraws, ← hseen, about_told]

/-- Of a settled session the scene has seen all. -/
theorem Relays.drawn_settled (hr : Relays objects e s) (hsettled : s.Settled e) :
    objects.Shows s.loop.scene (objects.told s.history.game.broadcasts) :=
  hr.settled hsettled.queue hsettled.delivered (mailbox_objects hsettled.idle)

/-- A settled screen shows the players, enemies and bosses of the game. -/
theorem Relays.image_drawn_settled (hr : Relays objects e s) (hs : s.Serves e)
    (hsettled : s.Settled e) (hc : c ≠ .bullet) :
    Set.image Int32.toInt (s.loop.scene.drawn c) = s.history.game.ids c := by
  have hfaithful := (hs.streams.faithful c).replay
  rw [← (drawn_of_shows (hr.drawn_settled hsettled)).1 c hc] at hfaithful
  refine toStringInt_injective.image_injective ?_
  rw [← hfaithful, Set.image_image]
  rfl

/-- What the scene has seen ends within one of the calls. -/
theorem shows_within {before after : Game} (hbefore : Game.Streams .new before)
    {messages : List Message}
    (hshows : objects.Shows s.loop.scene (objects.told messages))
    (hfirst : before.broadcasts <+: messages) (hlast : messages <+: after.broadcasts) :
    ShowsWithin before after s := by
  obtain ⟨part, rfl⟩ := hfirst
  obtain ⟨hreplay, hbullets⟩ := drawn_of_shows hshows
  refine ⟨part, hlast, fun c hc => ?_, hbullets⟩
  rw [hreplay c hc, Game.announced_append, replay_append, (hbefore.faithful c).replay]

/-! ## Runs -/

/-- The packets of the game so far stay as they are. -/
theorem KeepsUp.broadcasts (h : s.KeepsUp e event) :
    s.history.game.broadcasts <+: (s.step e event).history.game.broadcasts := by
  have hone : EachStep (step e) (KeepsUp e) s [event] := ⟨h, trivial⟩
  obtain ⟨messages, hmessages⟩ := (game_run Game.keepsInRange_rule hone).broadcasts
  exact ⟨messages, hmessages.symm⟩

theorem BeforeGame.broadcasts_initializePlayers (hs : s.BeforeGame e) {numPlayers : Int}
    (hn : numPlayers ≤ 2 ^ 31) : s.history.game.broadcasts <+:
      (s.step e (.call (.initializePlayers numPlayers))).history.game.broadcasts := by
  obtain ⟨g, -, hstep, hkeeps, -⟩ := hs.initializes hn
  obtain ⟨messages, hmessages⟩ := hkeeps.broadcasts
  refine ⟨messages, ?_⟩
  change _ = (s.history.step (.initializePlayers numPlayers)).game.broadcasts
  rw [hstep, hmessages]

/-- In every run of a session that keeps up, the screen shows the players, enemies and
bosses of one earlier moment of the game, with a first part of what the next call has
announced. Once nothing is under way it shows exactly those of the game, and every bullet
that has ever been announced. -/
theorem mirror (hs : s.BeforeGame e) {numPlayers : Int} (hn : numPlayers ≤ 2 ^ 31)
    {es : List SessionEvent} {s' : Session}
    (hrun : EachStep (step e) (KeepsUp e) (s.step e (.call (.initializePlayers numPlayers))) es)
    (hs' : s' = run (step e) (s.step e (.call (.initializePlayers numPlayers))) es) :
    (∃ pre event post, .call (.initializePlayers numPlayers) :: es = pre ++ event :: post ∧
      ShowsWithin (s.gameAfter e pre) (s.gameAfter e (pre ++ [event])) s') ∧
    (s'.Settled e →
      (∀ c ≠ .bullet, Set.image Int32.toInt (s'.loop.scene.drawn c) = s'.history.game.ids c) ∧
      ∀ id, id ∈ s'.loop.scene.drawn .bullet ↔
        idText id ∈ created (announced .bullet s'.history.game.broadcasts)) := by
  obtain ⟨hserves, hrelays⟩ := hs.objects_run hn hrun hs'
  refine ⟨?_, fun hsettled => ⟨fun c hc => hrelays.image_drawn_settled hserves hsettled hc,
    (drawn_of_shows (hrelays.drawn_settled hsettled)).2⟩⟩
  obtain ⟨seen, hshows, hprefix⟩ := hrelays.exists_seen
  obtain ⟨messages, hmessages, rfl⟩ := Topic.exists_prefix tells_objects_length hprefix
  -- The messages seen end within one of the calls, the first of which starts the game.
  have hlog : EachStep (step e) (fun s event => s.history.game.broadcasts <+:
      (s.step e event).history.game.broadcasts) s (.call (.initializePlayers numPlayers) :: es) :=
    ⟨hs.broadcasts_initializePlayers hn, hrun.mono fun _ _ h => h.broadcasts⟩
  have hstart : s.history.game.broadcasts <+: messages := by
    rw [hs.history]
    exact List.nil_prefix
  rw [hs'] at hmessages
  obtain ⟨pre, event, post, hall, hbefore, hafter⟩ :=
    exists_step_of_prefix hlog (List.cons_ne_nil _ _) hstart hmessages
  refine ⟨pre, event, post, hall, shows_within ?_ hshows hbefore hafter⟩
  cases pre with
  | nil =>
      rw [gameAfter, run_nil, hs.history]
      exact Game.streams_rule.refl _
  | cons first pre =>
      obtain ⟨rfl, rfl⟩ := List.cons.inj hall
      exact (hs.objects_run hn (eachStep_append.mp hrun).1 rfl).1.streams

instance (s : Session) : Decidable s.Idle :=
  decidable_of_iff (∀ c ∈ [ObjectClass.player, .enemy, .boss, .bullet],
    s.loop.client.packetData.announces c = none)
    ⟨fun h c => h c (by cases c <;> simp), fun h c _ => h c⟩

/-- A client that has been registered, and the new game. -/
def registered (e : Endpoint) : Session where
  history := .new
  server := (Server.new.createClient e).2
  loop := .start (.new .reset ⟨0, 4242⟩ 0) .new
  delivered := 0

theorem beforeGame_registered (e : Endpoint) : (registered e).BeforeGame e where
  history := rfl
  once := by
    refine Server.AtMostOnce.createClient fun k k' c c' hk => ?_
    simp [Server.new] at hk
  registered := Server.registered_createClient (by simp [Server.new, Server.takeId])
  queue := Server.createClient_frame (f := Server.sendQueue) fun _ _ _ _ => rfl
  delivered := by
    have hsent : (Server.new.createClient e).2.sent = [] :=
      Server.createClient_frame (f := Server.sent) fun _ _ _ _ => rfl
    simp [registered, Server.sentTo, hsent]
  idle := announces_reset
  empty := GameScene.drawn_new

/-- One player, whose two packets go all the way to the screen. -/
def onePlayerShown : List SessionEvent :=
  [.sendTimer, .deliver 0 ⟨0, 4242⟩, .mainLoop [], .mainLoop [.keyPressed .right], .mainLoop [],
    .sendTimer, .deliver 1 ⟨0, 4242⟩, .mainLoop []]

theorem mirror_onePlayer :
    let e : Endpoint := ⟨1, 4000⟩
    let s := run (step e) ((registered e).step e (.call (.initializePlayers 1))) onePlayerShown
    Set.image Int32.toInt (s.loop.scene.drawn .player) = s.history.game.ids .player := by
  intro e s
  have hrun : EachStep (step e) (KeepsUp e)
      ((registered e).step e (.call (.initializePlayers 1))) onePlayerShown :=
    ⟨trivial, fun _ => by decide +kernel, List.not_mem_nil, by simp [KeepsUp], List.not_mem_nil,
      trivial, fun _ => by decide +kernel, List.not_mem_nil, trivial⟩
  have hsettled : s.Settled e :=
    ⟨by decide +kernel, by decide +kernel, by decide +kernel⟩
  exact ((mirror (beforeGame_registered e) (by decide) hrun rfl).2 hsettled).1 .player (by decide)

end Session

end BeeRType
