import Outreach.Tree.Execution

/-!
# Tours

A tour is the walk over a tree said without stacks, faults and cancellation: every action that is
reached is a station of it, each before its children, and one context goes from station to
station. A station keeps the call of the activity that carried out the action, if one did.
-/

namespace Outreach

variable {σ : Type}

/-- What an activity does apart from looking at the cancellation. From the context and the
surroundings of a run it comes to an outcome, or a service does not work, and it leaves both. -/
abbrev Behaviour (σ : Type) := Context -> σ -> Except ServiceError Outcome × Context × σ

/-- One call of the activity for a kind of actions. -/
structure Call (σ : Type) where
  kind : ActionKind
  context : Context
  world : σ
  answer : Except ServiceError Outcome
  contextAfter : Context
  worldAfter : σ

/-- The call of the activity for a kind with a behaviour. -/
def Behaviour.call (behaviour : Behaviour σ) (kind : ActionKind) (context : Context) (world : σ) :
    Call σ :=
  let (answer, contextAfter, worldAfter) := behaviour context world
  { kind, context, world, answer, contextAfter, worldAfter }

/-- The outcome of a call: a service that does not work fails the action. -/
def Call.outcome (call : Call σ) : Outcome :=
  match call.answer with
  | .ok outcome => outcome
  | .error cause => .failedWith cause.message

/-- A station of a tour: an action that is reached. -/
structure Station (σ : Type) where
  action : Action
  outcome : Outcome
  /-- The call of an activity, unless the action failed without one. -/
  call : Option (Call σ)

/-- The context and the surroundings after a station. -/
def Station.after (start : Context × σ) (station : Station σ) : Context × σ :=
  match station.call with
  | none => start
  | some call => (call.contextAfter, call.worldAfter)

/-- The behaviours for some of the kinds of actions, and how far below the root they are shown. -/
structure Repertoire (σ : Type) where
  behaviourFor : ActionKind -> Option (Behaviour σ)
  maxDepth : Nat

namespace Repertoire

/-- The station of an action. One that is disabled, too far down or of a kind without behaviour
fails and changes nothing; for any other the behaviour is called once, with the action as the
current one. -/
def station (repertoire : Repertoire σ) (depth : Nat) (start : Context × σ) (action : Action) :
    Station σ :=
  if !action.enabled then ⟨action, .failed, none⟩
  else if repertoire.maxDepth < depth then
    ⟨action,
      .failedWith ("maximum tree depth " ++ Digits.natText repertoire.maxDepth ++ " exceeded"),
      none⟩
  else
    match repertoire.behaviourFor action.kind with
    | none => ⟨action, .failedWith ("no activity registered for " ++ action.kind.name), none⟩
    | some behaviour =>
      let call := behaviour.call action.kind { start.1 with currentAction := .of action } start.2
      ⟨action, call.outcome, some call⟩

/-- The stations of a tree: the action first and then, only if its outcome lets the run go on, the
trees of its children one level down. -/
def tour (repertoire : Repertoire σ) (depth : Nat) (start : Context × σ) :
    Action -> List (Station σ)
  | ⟨id, parentId, projectId, kind, enabled, modifiedAt, name, options, children⟩ =>
    let station := repertoire.station depth start
      ⟨id, parentId, projectId, kind, enabled, modifiedAt, name, options, children⟩
    station ::
      if station.outcome.flow = .proceed then tours repertoire (depth + 1) (station.after start) children
      else []
where
  /-- The stations of trees, from left to right. -/
  tours (repertoire : Repertoire σ) (depth : Nat) (start : Context × σ) :
      List Action -> List (Station σ)
    | [] => []
    | action :: rest =>
      let stations := tour repertoire depth start action
      stations ++ tours repertoire depth (stations.foldl Station.after start) rest

/-- A station is one of its action. -/
@[simp]
theorem station_action (repertoire : Repertoire σ) (depth : Nat) (start : Context × σ)
    (action : Action) : (repertoire.station depth start action).action = action := by
  unfold station
  split
  · rfl
  · split
    · rfl
    · split <;> rfl

mutual

/-- Everything in a tour is a station, reached at some depth in some state. -/
theorem mem_tour (repertoire : Repertoire σ) {station : Station σ} :
    forall (action : Action) (depth : Nat) (start : Context × σ),
      station ∈ repertoire.tour depth start action ->
        ∃ depth start, station = repertoire.station depth start station.action
  | ⟨id, parentId, projectId, kind, enabled, modifiedAt, name, options, children⟩, depth, start,
      member => by
    simp only [tour] at member
    rcases List.mem_cons.mp member with same | below
    · exact ⟨depth, start, by rw [same, station_action]⟩
    · split at below
      · exact mem_tours repertoire children _ _ below
      · cases below

/-- Everything in the tours of several trees is a station. -/
theorem mem_tours (repertoire : Repertoire σ) {station : Station σ} :
    forall (actions : List Action) (depth : Nat) (start : Context × σ),
      station ∈ tour.tours repertoire depth start actions ->
        ∃ depth start, station = repertoire.station depth start station.action
  | [], _, _, member => by cases member
  | action :: rest, depth, start, member => by
    rw [tour.tours] at member
    rcases List.mem_append.mp member with within | later
    · exact mem_tour repertoire action depth start within
    · exact mem_tours repertoire rest depth _ later

end

mutual

/-- A tour leaves actions out and keeps the order of the others. -/
theorem tour_sublist_preorder (repertoire : Repertoire σ) :
    forall (action : Action) (depth : Nat) (start : Context × σ),
      ((repertoire.tour depth start action).map Station.action).Sublist action.preorder
  | ⟨id, parentId, projectId, kind, enabled, modifiedAt, name, options, children⟩, depth,
      start => by
    simp only [tour, Action.preorder, List.map_cons, station_action]
    refine .cons_cons _ ?_
    split
    · exact tours_sublist_preorders repertoire children _ _
    · exact List.nil_sublist _

/-- The tours of several trees keep the order of their actions. -/
theorem tours_sublist_preorders (repertoire : Repertoire σ) :
    forall (actions : List Action) (depth : Nat) (start : Context × σ),
      ((tour.tours repertoire depth start actions).map Station.action).Sublist
        (Action.preorder.preorders actions)
  | [], _, _ => List.nil_sublist _
  | action :: rest, depth, start => by
    rw [tour.tours, Action.preorder.preorders, List.map_append]
    exact (tour_sublist_preorder repertoire action depth start).append
      (tours_sublist_preorders repertoire rest depth _)

end

/-- An activity is called for its kind and with the visited action as the current one. -/
theorem call_of_station (repertoire : Repertoire σ) {depth : Nat} {start : Context × σ}
    {action : Action} {call : Call σ} (made : (repertoire.station depth start action).call = some call) :
    call.kind = action.kind ∧ call.context.currentAction = .of action := by
  unfold station at made
  split at made
  · cases made
  · split at made
    · cases made
    · split at made
      · cases made
      · cases made
        exact ⟨rfl, rfl⟩

end Repertoire

end Outreach
