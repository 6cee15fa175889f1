-- SUMMARY: The queue of player actions: each is applied once and in order, whenever `addPlayerAction` is called.
import BeeRType.Base.Entries
import BeeRType.Game.Published
import BeeRType.Game.Reachable

/-!
# Player actions

Actions are added at any time, also between the loop of `processPlayerActions` and
its `deletePlayerAction`. The queue is followed together with the list of all actions
that have ever been added: the loop applies those of them that it has not seen before,
each once and in order.
-/

open Cpp Std Transition

namespace BeeRType

namespace Game

variable {g g' : Game} {playerId actionId : Int}

/-! ## Players can be moved -/

/-- The entity of every player has a position that `move` finds. -/
def Movable (g : Game) : Prop :=
  AllEntries (fun p : Player => p.registry.hasComponent .position p.entity = true) g.players

theorem hasComponent_move {o : GameObject} {x y : ℚ}
    (h : o.registry.hasComponent .position o.entity = true) :
    (o.move x y).registry.hasComponent .position (o.move x y).entity = true := by
  refine Registry.hasComponent_iff.mpr ⟨?_, (o.move x y).located⟩
  rw [GameObject.move_entity, GameObject.move, if_pos h]
  exact (Registry.modifyComponent_frame (f := fun r => r.entityExists o.entity)
    fun _ _ _ => rfl).trans (Registry.hasComponent_iff.mp h).1

theorem Movable.handlePlayerMove (hg : Movable g)
    (h : g.handlePlayerMove playerId actionId = .ok g') : Movable g' := by
  obtain ⟨player, positions, messages, -, -, rfl⟩ := handlePlayerMove_new h
  exact AllEntries.modify hg fun p _ hp => hasComponent_move hp

theorem Movable.spawnPlayer (hg : Movable g) {x y : ℚ} (h : g.spawnPlayer playerId x y = .ok g') :
    Movable g' := by
  obtain ⟨player, hp, score, hplayer, rfl⟩ := spawnPlayer_new h
  obtain ⟨o, ho, hplayer⟩ := Fallible.bind_eq_ok.mp hplayer
  obtain rfl := Fallible.pure_eq_ok.mp hplayer
  exact (AllEntries.insertIfNew hg (GameObject.hasComponent_new ho)).modify fun _ _ h => h

theorem movable_rule : Rule fun g g' => Movable g → Movable g' :=
  playerObjects_rule (P := fun o => o.registry.hasComponent .position o.entity = true)
    fun h hg => Movable.handlePlayerMove hg h

theorem Reachable.movable (h : g.Reachable) : Movable g := by
  induction h with
  | new => exact .empty
  | @call g g' c hg hc h ih =>
      obtain hingame | ⟨numPlayers, rfl⟩ | ⟨numClients, rfl⟩ | rfl := hc
      · exact movable_rule.perform hingame h ih
      · exact initializePlayers_rule (P := fun _ b => Movable b) h ih
          fun _ _ _ _ hb hspawn => hb.spawnPlayer hspawn
      · cases h
        rcases checkPlayersAlive_cases g numClients with heq | heq <;> rw [heq]
        · exact ih
        · exact .empty
      · cases h
        exact .empty

/-! ## Applying an action -/

/-- An action that `processPlayerActions` applies: the player and the action id. -/
def Applies (action : Int × Int) : Prop := 1 ≤ action.2 ∧ action.2 ≤ 5

instance (action : Int × Int) : Decidable (Applies action) :=
  inferInstanceAs (Decidable (_ ∧ _))

/-- What applying an action comes to. -/
def act (g : Game) (action : Int × Int) : Except StdException Game :=
  if action.2 = 5 then g.spawnBullet action.1 else g.handlePlayerMove action.1 action.2

/-- The actions as `addPlayerAction` puts them into the queue. -/
def queued (actions : List (Int × Int)) : List PlayerAction :=
  actions.map fun a => ⟨a.1, a.2, false⟩

/-- The queue after the loop. -/
def processed (actions : List (Int × Int)) : List PlayerAction :=
  actions.map fun a => ⟨a.1, a.2, decide (Applies a)⟩

theorem applyPlayerAction_eq (action : Int × Int) :
    g.applyPlayerAction ⟨action.1, action.2, false⟩ =
      if Applies action then
        (g.act action).map fun g' => (g', ⟨action.1, action.2, true⟩)
      else .ok (g, ⟨action.1, action.2, false⟩) := by
  unfold applyPlayerAction act
  dsimp only
  by_cases hshot : action.2 = 5
  · have happlies : Applies action := ⟨by omega, by omega⟩
    rw [if_neg (by omega), if_pos hshot, if_pos hshot, if_pos happlies]
    cases g.spawnBullet action.1 <;> rfl
  · rw [if_neg (c := action.2 = 5) hshot, if_neg hshot]
    by_cases hmove : 0 < action.2 ∧ action.2 < 5
    · have happlies : Applies action := ⟨by omega, by omega⟩
      rw [if_pos hmove, if_pos happlies]
      cases g.handlePlayerMove action.1 action.2 <;> rfl
    · have hskips : ¬ Applies action := fun h => hmove ⟨h.1, by have := h.2; omega⟩
      rw [if_neg hmove, if_neg hskips]

/-- The loop applies the actions with ids from one to five, in order, and marks them. -/
theorem applyPlayerActions_queued (actions : List (Int × Int)) :
    g.applyPlayerActions (queued actions) =
      ((actions.filter Applies).foldlM act g).map fun g' => (g', processed actions) := by
  induction actions generalizing g with
  | nil => rfl
  | cons action rest ih =>
      have hqueued : queued (action :: rest) = ⟨action.1, action.2, false⟩ :: queued rest := rfl
      rw [hqueued, applyPlayerActions, applyPlayerAction_eq]
      by_cases happlies : Applies action
      · rw [if_pos happlies, List.filter_cons_of_pos (by simpa using happlies), List.foldlM_cons]
        cases g.act action with
        | error e => rfl
        | ok m =>
            simp only [Except.map, Fallible.ok_bind, ih]
            cases (rest.filter Applies).foldlM act m with
            | error e => rfl
            | ok g' => simp [processed, happlies, pure, Except.pure, bind, Except.bind]
      · rw [if_neg happlies, List.filter_cons_of_neg (by simpa using happlies)]
        simp only [Fallible.ok_bind, ih]
        cases (rest.filter Applies).foldlM act g with
        | error e => rfl
        | ok g' => simp [Except.map, processed, happlies, pure, Except.pure, bind, Except.bind]

/-! ## What applying actions does to the players -/

/-- A move of a player: to the left, to the right, up or down. -/
def IsMoveOf (playerId : Int) (action : Int × Int) : Prop :=
  action.1 = playerId ∧ 1 ≤ action.2 ∧ action.2 ≤ 4

instance (playerId : Int) (action : Int × Int) : Decidable (IsMoveOf playerId action) :=
  inferInstanceAs (Decidable (_ ∧ _))

/-- Twenty units to the left, to the right, up or down, and then into the screen. -/
def stepThenClamp (pos : Position) (action : Int × Int) : Position :=
  let x := if action.2 = 1 then pos.x - 20 else if action.2 = 2 then pos.x + 20 else pos.x
  let y := if action.2 = 3 then pos.y - 20 else if action.2 = 4 then pos.y + 20 else pos.y
  ⟨max 0 (min 1195 x), max 0 (min 630 y)⟩

theorem add_moveStep (pos : Position) (actionId : Int) :
    pos.x + (moveStep actionId).1 =
        (if actionId = 1 then pos.x - 20 else if actionId = 2 then pos.x + 20 else pos.x) ∧
      pos.y + (moveStep actionId).2 =
        (if actionId = 3 then pos.y - 20 else if actionId = 4 then pos.y + 20 else pos.y) := by
  unfold moveStep
  dsimp only
  split
  · simp [sub_eq_add_neg]
  · simp
  · simp [sub_eq_add_neg]
  · simp
  · rename_i hleft hright hup hdown
    rw [if_neg hleft, if_neg hright, if_neg hup, if_neg hdown]
    exact ⟨add_zero _, add_zero _⟩

theorem clamp_eq_max_min {x bound : ℚ} (hbound : 0 ≤ bound) :
    (if x < 0 then 0 else if bound < x then bound else x) = max 0 (min bound x) := by
  split
  · rename_i hlow
    rw [min_eq_right (hlow.le.trans hbound), max_eq_left hlow.le]
  · rename_i hlow
    split
    · rename_i hhigh
      rw [min_eq_left hhigh.le, max_eq_right hbound]
    · rename_i hhigh
      rw [min_eq_right (Std.not_lt.mp hhigh), max_eq_right (Std.not_lt.mp hlow)]

theorem moveTarget_eq (pos : Position) (action : Int × Int) :
    moveTarget pos action.2 = stepThenClamp pos action := by
  obtain ⟨hx, hy⟩ := add_moveStep pos action.2
  simp only [moveTarget, clampPositionToBounds, stepThenClamp, hx, hy]
  rw [clamp_eq_max_min (by norm_num), clamp_eq_max_min (by norm_num)]

/-- What applying the actions does to the players. -/
structure Acts (g g' : Game) (actions : List (Int × Int)) : Prop where
  acted : Acted g g'
  movable : Movable g'
  position : ∀ (i : Int) (p : Player), g.players[i]? = some p → ∃ q : Player,
    g'.players[i]? = some q ∧
      q.position = (actions.filter (IsMoveOf i)).foldl stepThenClamp p.position

theorem Acts.nil (hm : Movable g) : Acts g g [] :=
  ⟨.refl, hm, fun _ p hp => ⟨p, hp, rfl⟩⟩

theorem Acts.trans {m : Game} {actions actions' : List (Int × Int)} (h : Acts g m actions)
    (h' : Acts m g' actions') : Acts g g' (actions ++ actions') where
  acted := h.acted.trans h'.acted
  movable := h'.movable
  position := fun i p hp => by
    obtain ⟨q, hq, hposition⟩ := h.position i p hp
    obtain ⟨q', hq', hposition'⟩ := h'.position i q hq
    exact ⟨q', hq', by rw [hposition', hposition, List.filter_append, List.foldl_append]⟩

/-- An action of a player in the map is applied without an exception. -/
theorem exists_act (hg : g.Sound) (hm : Movable g) {action : Int × Int}
    (hmem : action.1 ∈ g.players) (happlies : Applies action) : ∃ m, g.act action = .ok m ∧ Acts g m [action] := by
  unfold act
  split
  · rename_i hshot
    obtain ⟨m, hspawn⟩ := exists_spawnBullet hg action.1
    refine ⟨m, hspawn, spawnBullet_acted hspawn, ?_, fun i p hp => ⟨p, ?_, ?_⟩⟩
    · exact movable_rule.spawnBullet hspawn hm
    · obtain rfl | ⟨-, bullet, x, y, rfl⟩ := spawnBullet_ok hspawn <;> exact hp
    · rw [List.filter_cons_of_neg (by simp [IsMoveOf, hshot])]
      rfl
  · rename_i hmove
    obtain ⟨m, hmoved⟩ : ∃ m, g.handlePlayerMove action.1 action.2 = .ok m :=
      exists_handlePlayerMove hmem
    refine ⟨m, hmoved, handlePlayerMove_acted hmoved, hm.handlePlayerMove hmoved, fun i p hp => ?_⟩
    obtain ⟨player, positions, messages, hplayer, -, rfl⟩ := handlePlayerMove_new hmoved
    by_cases hi : i = action.1
    · subst hi
      cases hplayer.symm.trans hp
      have hself : IsMoveOf action.1 action :=
        ⟨rfl, happlies.1, by have := happlies.2; omega⟩
      refine ⟨_, getElem?_movePlayer_self hplayer, ?_⟩
      rw [List.filter_cons_of_pos (by simpa using hself)]
      exact (movedPosition_of_hasComponent (hm _ _ hp)).trans (moveTarget_eq _ _)
    · have hother : ¬ IsMoveOf i action := fun h => hi h.1.symm
      refine ⟨p, (getElem?_movePlayer_ne hi).trans hp, ?_⟩
      rw [List.filter_cons_of_neg (by simpa using hother)]
      rfl

theorem exists_foldlM_act (hg : g.Sound) (hm : Movable g) {actions : List (Int × Int)}
    (h : ∀ action ∈ actions, action.1 ∈ g.players ∧ Applies action) :
    ∃ m, actions.foldlM act g = .ok m ∧ Acts g m actions := by
  induction actions generalizing g with
  | nil => exact ⟨g, rfl, .nil hm⟩
  | cons action rest ih =>
      obtain ⟨hfirst, hrest⟩ := List.forall_mem_cons.mp h
      obtain ⟨m₁, hact, hm₁⟩ := exists_act hg hm hfirst.1 hfirst.2
      have hrest' : ∀ action ∈ rest, action.1 ∈ m₁.players ∧ Applies action := fun a ha =>
        ⟨(hm₁.acted.mem_players a.1).mpr (hrest a ha).1, (hrest a ha).2⟩
      obtain ⟨m, hfold, hm⟩ := ih (hm₁.acted.registry.trans hg) hm₁.movable hrest'
      refine ⟨m, ?_, hm₁.trans hm⟩
      rw [List.foldlM_cons, hact]
      exact hfold

/-! ## The queue does not matter -/

/-- The game with another queue of actions. -/
def withQueue (g : Game) (actions : List PlayerAction) : Game := { g with playerActions := actions }

theorem publishPosition_withQueue {actions : List PlayerAction} {id : Int} :
    (g.withQueue actions).publishPosition id = (g.publishPosition id).withQueue actions := by
  cases hp : g.players[id]? with
  | none =>
      have hp' : (g.withQueue actions).players[id]? = none := hp
      rw [publishPosition_of_not_mem hp, publishPosition_of_not_mem hp']
  | some p =>
      have hp' : (g.withQueue actions).players[id]? = some p := hp
      by_cases hknown : g.lastKnownPositions[id]? = some (p.position.x, p.position.y)
      · rw [publishPosition_of_known hp hknown, publishPosition_of_known hp' hknown]
      · rw [publishPosition_of_changed hp hknown, publishPosition_of_changed hp' hknown]
        rfl

theorem playerPacketFactory_withQueue {actions : List PlayerAction} :
    (g.withQueue actions).playerPacketFactory = g.playerPacketFactory.withQueue actions := by
  unfold playerPacketFactory
  exact List.foldl_hom (fun g : Game => g.withQueue actions) fun _ _ => publishPosition_withQueue

/-- The games differ at most in their queues. -/
def SameButQueue (g g' : Game) : Prop := g' = g.withQueue g'.playerActions

theorem SameButQueue.of_eq {actions : List PlayerAction} (h : g' = g.withQueue actions) :
    SameButQueue g g' := by
  rw [h]
  rfl

theorem SameButQueue.act (h : SameButQueue g g') (action : Int × Int) :
    Fallible.Agree SameButQueue (g.act action) (g'.act action) := by
  rw [h]
  generalize g'.playerActions = actions
  have hplayers : (g.withQueue actions).players[action.1]? = g.players[action.1]? := rfl
  unfold Game.act
  split
  · unfold spawnBullet
    rw [hplayers]
    split
    · exact .ok rfl
    · split
      · exact (Fallible.Agree.eq _).bind fun bullet _ heq => heq ▸ .ok rfl
      · exact .ok rfl
  · cases hp : g.players[action.1]? with
    | none =>
        rw [handlePlayerMove, handlePlayerMove, getPlayerPosition, getPlayerPosition, hplayers, hp]
        exact .error _
    | some p =>
        rw [handlePlayerMove_of_some hp, handlePlayerMove_of_some (hplayers.trans hp)]
        exact .ok (.of_eq (playerPacketFactory_withQueue
          (g := g.movePlayer action.1 action.2 p.position)))

theorem SameButQueue.foldlM_act (h : SameButQueue g g') (actions : List (Int × Int)) :
    Fallible.Agree SameButQueue (actions.foldlM Game.act g) (actions.foldlM Game.act g') :=
  Fallible.Agree.foldlM h fun _ _ action _ hm => hm.act action

/-- `deletePlayerAction` leaves the actions with other ids. -/
theorem filter_processed (actions : List (Int × Int)) :
    (processed actions).filter (fun action => !action.processed) =
      queued (actions.filter fun action => ¬ Applies action) := by
  have hprocessed : ((fun action : PlayerAction => !action.processed) ∘
      fun a : Int × Int => ⟨a.1, a.2, decide (Applies a)⟩) = fun a => decide (¬ Applies a) := by
    funext a
    simp
  rw [processed, List.filter_map, hprocessed, queued]
  refine List.map_congr_left fun a ha => ?_
  have hskips : ¬ Applies a := by simpa using (List.mem_filter.mp ha).2
  simp [hskips]

theorem processPlayerActions_queued {actions : List (Int × Int)}
    (h : g.playerActions = queued actions) : g.processPlayerActions =
      ((actions.filter Applies).foldlM act g).map fun g' => g'.withQueue (processed actions) := by
  rw [processPlayerActions, h, applyPlayerActions_queued]
  cases (actions.filter Applies).foldlM act g <;> rfl

end Game

/-! ## Runs -/

/-- A game whose thread calls `processPlayerActions` again and again. -/
structure ActionRun where
  game : Game
  /-- The loop is over, and `deletePlayerAction` comes next. -/
  deleting : Bool := false
  thrown : Option StdException := none
  /-- The actions that a loop has come across, in the order of their insertion. -/
  passed : List (Int × Int) := []
  /-- The actions inserted since the last loop. -/
  waiting : List (Int × Int)

namespace ActionRun

/-- An action is added, or the game thread gets on with `processPlayerActions`: it
runs the loop, or `deletePlayerAction`. -/
inductive Event where
  | addPlayerAction (playerId actionId : Int)
  | proceed

def step (r : ActionRun) : Event → ActionRun
  | .addPlayerAction playerId actionId => { r with
      game := r.game.addPlayerAction playerId actionId
      waiting := r.waiting ++ [(playerId, actionId)] }
  | .proceed =>
    if r.thrown.isSome then r
    else if r.deleting then { r with game := r.game.deletePlayerAction, deleting := false }
    else
      match r.game.processPlayerActions with
      | .ok game =>
        { r with game := game, deleting := true, passed := r.passed ++ r.waiting, waiting := [] }
      | .error exception => { r with thrown := some exception }

def start (g : Game) (queue : List (Int × Int)) : ActionRun where
  game := g.withQueue (Game.queued queue)
  waiting := queue

/-- The actions that an event adds to the queue. -/
def Event.added : Event → List (Int × Int)
  | .addPlayerAction playerId actionId => [(playerId, actionId)]
  | .proceed => []

/-- The actions of the queue once the processed ones have been deleted. -/
def remaining (r : ActionRun) : List (Int × Int) :=
  (r.passed.filter fun action => ¬ Game.Applies action) ++ r.waiting

/-- Of the actions inserted one after the other, those that a loop has come across have
been applied to the game, each once and in order. The next loop comes across all. -/
structure AppliedOnce (g : Game) (inserted : List (Int × Int)) (r : ActionRun) : Prop where
  runs : r.thrown = none
  order : r.passed ++ r.waiting = inserted
  once : ∃ m, (r.passed.filter Game.Applies).foldlM Game.act g = .ok m ∧ Game.SameButQueue m r.game
  position : ∀ (i : Int) (p : Player), g.players[i]? = some p → ∃ q : Player,
    r.game.players[i]? = some q ∧
      q.position = (r.passed.filter (Game.IsMoveOf i)).foldl Game.stepThenClamp p.position
  mem_players : ∀ i, i ∈ r.game.players ↔ i ∈ g.players
  queue : r.deleting = false → r.game.playerActions = Game.queued r.remaining
  next : r.deleting = false → (r.step .proceed).passed = inserted

/-- The invariant: what the game comes to, and the queue before and after
`deletePlayerAction`. -/
structure Inv (g : Game) (inserted : List (Int × Int)) (r : ActionRun) : Prop where
  runs : r.thrown = none
  inserted : r.passed ++ r.waiting = inserted
  once : ∃ m, (r.passed.filter Game.Applies).foldlM Game.act g = .ok m ∧
    Game.Acts g m (r.passed.filter Game.Applies) ∧ Game.SameButQueue m r.game
  queue : r.deleting = false → r.game.playerActions = Game.queued r.remaining
  deleted : r.deleting = true → r.game.deletePlayerAction.playerActions = Game.queued r.remaining

variable {g : Game} {r : ActionRun} {es : List Event} {queue inserted : List (Int × Int)}

theorem filter_isMoveOf (i : Int) (actions : List (Int × Int)) :
    (actions.filter Game.Applies).filter (Game.IsMoveOf i) = actions.filter (Game.IsMoveOf i) := by
  rw [List.filter_filter]
  refine List.filter_congr fun action _ => ?_
  have happlies : Game.IsMoveOf i action → Game.Applies action := fun h =>
    ⟨h.2.1, h.2.2.trans (by norm_num)⟩
  by_cases hmove : Game.IsMoveOf i action
  · simp [hmove, happlies hmove]
  · simp [hmove]

theorem Inv.start (hm : Game.Movable g) : Inv g queue (start g queue) where
  runs := rfl
  inserted := rfl
  once := ⟨g, rfl, .nil hm, rfl⟩
  queue := fun _ => rfl
  deleted := fun h => by cases h

theorem Inv.addPlayerAction (h : Inv g inserted r) (playerId actionId : Int) :
    Inv g (inserted ++ [(playerId, actionId)]) (r.step (.addPlayerAction playerId actionId)) where
  runs := h.runs
  inserted := by rw [← h.inserted, List.append_assoc]; rfl
  once := by
    obtain ⟨m, hfold, hacts, hsame⟩ := h.once
    exact ⟨m, hfold, hacts, .of_eq (by rw [step, hsame]; rfl)⟩
  queue := fun hdeleting => by
    have hqueue := h.queue hdeleting
    simp only [step, Game.addPlayerAction, hqueue, remaining, Game.queued, List.map_append,
      List.map_cons, List.map_nil, List.append_assoc]
  deleted := fun hdeleting => by
    have hdeleted := h.deleted hdeleting
    simp only [Game.deletePlayerAction] at hdeleted
    simp only [step, Game.addPlayerAction, Game.deletePlayerAction, List.filter_append, hdeleted,
      remaining, Game.queued, List.map_append, List.append_assoc]
    rfl

/-- The loop comes across the actions that have been inserted since the last one, and
across those that it has left in the queue. -/
theorem remaining_filter_applies (r : ActionRun) :
    r.remaining.filter Game.Applies = r.waiting.filter Game.Applies := by
  have hnone : (r.passed.filter fun action => ¬ Game.Applies action).filter Game.Applies = [] := by
    simp [List.filter_filter]
  rw [remaining, List.filter_append, hnone, List.nil_append]

theorem Inv.proceed (hg : g.Sound) (hknown : ∀ action ∈ inserted, action.1 ∈ g.players)
    (h : Inv g inserted r) : Inv g inserted (r.step .proceed) := by
  obtain ⟨m, hfold, hacts, hsame⟩ := h.once
  cases hdeleting : r.deleting with
  | true =>
      have heq : r.step .proceed =
          { r with game := r.game.deletePlayerAction, deleting := false } := by
        simp [step, h.runs, hdeleting]
      rw [heq]
      exact ⟨h.runs, h.inserted, ⟨m, hfold, hacts, .of_eq (by rw [hsame]; rfl)⟩,
        fun _ => h.deleted hdeleting, fun h => by cases h⟩
  | false =>
      have hmem : ∀ action ∈ r.waiting.filter Game.Applies,
          action.1 ∈ m.players ∧ Game.Applies action := fun action ha => by
        obtain ⟨hwaiting, happlies⟩ := List.mem_filter.mp ha
        refine ⟨(hacts.acted.mem_players _).mpr (hknown action ?_), by simpa using happlies⟩
        rw [← h.inserted]
        exact List.mem_append_right _ hwaiting
      obtain ⟨m', hfold', hacts'⟩ :=
        Game.exists_foldlM_act (hacts.acted.registry.trans hg) hacts.movable hmem
      have hagree := hsame.foldlM_act (r.waiting.filter Game.Applies)
      rw [hfold'] at hagree
      generalize hloop : (r.waiting.filter Game.Applies).foldlM Game.act r.game = x at hagree
      cases hagree with
      | @ok _ game hsame' =>
          have hprocess := Game.processPlayerActions_queued (h.queue hdeleting)
          rw [remaining_filter_applies, hloop] at hprocess
          have heq : r.step .proceed = { r with
              game := game.withQueue (Game.processed r.remaining)
              deleting := true
              passed := r.passed ++ r.waiting
              waiting := [] } := by
            simp [step, h.runs, hdeleting, hprocess, Except.map]
          have hpassed : (r.passed ++ r.waiting).filter Game.Applies =
            r.passed.filter Game.Applies ++ r.waiting.filter Game.Applies := List.filter_append ..
          rw [heq]
          refine ⟨h.runs, by rw [← h.inserted, List.append_nil], ⟨m', ?_, ?_, ?_⟩,
            fun h => (by cases h), fun _ => ?_⟩
          · rw [hpassed, List.foldlM_append, hfold]
            exact hfold'
          · rw [hpassed]
            exact hacts.trans hacts'
          · exact .of_eq (by rw [hsame']; rfl)
          · refine (Game.filter_processed r.remaining).trans ?_
            simp [remaining, List.filter_append, List.filter_filter]

/-- A loop that does not throw comes across the whole queue. -/
theorem passed_proceed (hruns : r.thrown = none) (hdeleting : r.deleting = false)
    (hnext : (r.step .proceed).thrown = none) :
    (r.step .proceed).passed = r.passed ++ r.waiting := by
  cases hprocess : r.game.processPlayerActions with
  | ok game => simp [step, hruns, hdeleting, hprocess]
  | error exception => simp [step, hruns, hdeleting, hprocess] at hnext

theorem Inv.appliedOnce (h : Inv g inserted r) (hnext : Inv g inserted (r.step .proceed)) :
    AppliedOnce g inserted r := by
  obtain ⟨m, hfold, hacts, hsame⟩ := h.once
  have hplayers : r.game.players = m.players := by rw [hsame]; rfl
  refine ⟨h.runs, h.inserted, ⟨m, hfold, hsame⟩, fun i p hp => ?_, fun i => ?_, h.queue,
    fun hdeleting => ?_⟩
  · obtain ⟨q, hq, hposition⟩ := hacts.position i p hp
    rw [filter_isMoveOf] at hposition
    exact ⟨q, by rw [hplayers, hq], hposition⟩
  · rw [hplayers]
    exact hacts.acted.mem_players i
  · rw [passed_proceed h.runs hdeleting hnext.runs, h.inserted]

theorem inv_run (hg : g.Reachable)
    (hknown : ∀ action ∈ queue ++ es.flatMap Event.added, action.1 ∈ g.players) :
    Inv g (queue ++ es.flatMap Event.added) (run step (start g queue) es) := by
  induction es using List.reverseRecOn with
  | nil =>
      rw [List.flatMap_nil, List.append_nil]
      exact .start hg.movable
  | append_singleton pre e ih =>
      rw [List.flatMap_append, ← List.append_assoc] at hknown ⊢
      rw [run_append]
      have hpre := ih fun action ha => hknown action (List.mem_append_left _ ha)
      cases e with
      | addPlayerAction playerId actionId => exact hpre.addPlayerAction playerId actionId
      | proceed =>
          rw [List.flatMap_singleton, Event.added, List.append_nil] at hknown ⊢
          exact hpre.proceed hg.sound hknown

/-- Every action with an id from one to five is applied once and in order, whatever
the order of insertions, loops and deletions. -/
theorem actions_applied_once (hg : g.Reachable)
    (hknown : ∀ action ∈ queue ++ es.flatMap Event.added, action.1 ∈ g.players) :
    AppliedOnce g (queue ++ es.flatMap Event.added) (run step (start g queue) es) :=
  have hinv := inv_run hg hknown
  hinv.appliedOnce (hinv.proceed hg.sound hknown)

/-- A move, a shot, and an id that stays in the queue. -/
theorem actions_applied_once_met :
    let g := (run GameRun.step (.enter .new 2) [.step (GameRun.tickAt 0)]).game
    let es : List Event :=
      [.proceed, .addPlayerAction 1 5, .proceed, .addPlayerAction 0 9, .proceed]
    AppliedOnce g ([(0, 2)] ++ es.flatMap Event.added) (run step (start g [(0, 2)]) es) :=
  actions_applied_once (GameRun.always_reachable .new).final (by decide +kernel)

end ActionRun

end BeeRType
