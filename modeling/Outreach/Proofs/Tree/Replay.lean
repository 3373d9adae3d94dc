import Outreach.Proofs.Tree.Tour
import Outreach.Proofs.Tree.Walk

/-!
# Replaying tours

What an executor does to a tree is what its tour says, station by station, up to the station at
which the run finds itself cancelled. `walk_eq_replay` says so for activities that do anything at
all with the context and the surroundings, and for runs that are cancelled on the way.
-/

namespace Outreach

variable {σ τ : Type}

/-- How surroundings of the type `τ` carry those that behaviours see, and when the run is
cancelled around a call. -/
structure Setting (σ τ : Type) where
  /-- The surroundings that a behaviour sees. -/
  view : τ -> σ
  /-- The surroundings after a call. -/
  keep : Call σ -> τ -> τ
  view_keep : forall call whole, view (keep call whole) = call.worldAfter
  /-- Whether the run is cancelled after the executor has looked, before the activity looks. -/
  stops : τ -> Bool
  /-- Whether the run is cancelled while the activity is at work. -/
  strikes : τ -> Bool

/-- The run takes the answer to a call as its outcome. -/
theorem Executor.absorb_answer (call : Call σ) :
    Executor.absorb (call.answer.mapError .service) = .ok call.outcome := by
  unfold Call.outcome
  cases call.answer <;> rfl

namespace Setting

/-- What activities on a stage do, in a run that has not been cancelled before. -/
def Performs (setting : Setting σ τ) (act : ActionKind -> Behaviour σ -> Activity τ) : Prop :=
  forall kind behaviour context whole,
    act kind behaviour ⟨context, whole, false⟩ =
      if setting.stops whole then (.error .cancelled, ⟨context, whole, true⟩)
      else
        let call := behaviour.call kind context (setting.view whole)
        (call.answer.mapError .service,
          ⟨call.contextAfter, setting.keep call whole, setting.strikes whole⟩)

/-- A run over stations that are known beforehand. -/
def replay (setting : Setting σ τ) : List (Station σ) -> Run τ -> Except RunFault Unit × Run τ
  | [], run => (.ok (), run)
  | station :: rest, run =>
    if run.cancelled then (.error .cancelled, run)
    else
      match station.call with
      | none => setting.replay rest run
      | some call =>
        if setting.stops run.world then
          (.error .cancelled, { Executor.entering run station.action with cancelled := true })
        else
          setting.replay rest
            ⟨call.contextAfter, setting.keep call run.world, setting.strikes run.world⟩

/-- Visits are replayed piece by piece. -/
theorem replay_append (setting : Setting σ τ) (stations others : List (Station σ)) (run : Run τ) :
    setting.replay (stations ++ others) run =
      match setting.replay stations run with
      | (.error fault, run) => (.error fault, run)
      | (.ok (), run) => setting.replay others run := by
  induction stations generalizing run with
  | nil => rfl
  | cons station rest ih =>
    simp only [List.cons_append, replay]
    split
    · rfl
    · split
      · exact ih run
      · split
        · rfl
        · exact ih _

/-- A replay to the end leaves what the stations leave. -/
theorem after_of_replay (setting : Setting σ τ) {stations : List (Station σ)} {run finish : Run τ}
    (replayed : setting.replay stations run = (.ok (), finish)) :
    stations.foldl Station.after (run.context, setting.view run.world) =
      (finish.context, setting.view finish.world) := by
  induction stations generalizing run with
  | nil =>
    cases replayed
    rfl
  | cons station rest ih =>
    simp only [replay] at replayed
    split at replayed
    · cases replayed
    · rw [List.foldl_cons]
      split at replayed
      · rename_i passed
        rw [Station.after, passed]
        exact ih replayed
      · rename_i call called
        split at replayed
        · cases replayed
        · rw [Station.after, called]
          simpa only [setting.view_keep] using ih replayed

end Setting

namespace Repertoire

/-- The executor with an activity for every behaviour. -/
def executor (repertoire : Repertoire σ) (act : ActionKind -> Behaviour σ -> Activity τ) :
    Executor τ :=
  { registry := ⟨fun kind => (repertoire.behaviourFor kind).map (act kind)⟩
    maxDepth := repertoire.maxDepth }

variable {setting : Setting σ τ} {act : ActionKind -> Behaviour σ -> Activity τ}

/-- The executor visits an action as the station says. -/
theorem visit_executor (repertoire : Repertoire σ) (performs : setting.Performs act)
    (depth : Nat) (action : Action) (context : Context) (whole : τ) :
    (repertoire.executor act).visit action depth ⟨context, whole, false⟩ =
      let station := repertoire.station depth (context, setting.view whole) action
      match station.call with
      | none => (.ok station.outcome, ⟨context, whole, false⟩)
      | some call =>
        if setting.stops whole then
          (.error .cancelled, ⟨{ context with currentAction := .of action }, whole, true⟩)
        else
          (.ok station.outcome, ⟨call.contextAfter, setting.keep call whole, setting.strikes whole⟩) := by
  unfold Executor.visit Executor.barred Repertoire.station executor
  by_cases disabled : (!action.enabled) = true
  · simp only [disabled, if_true]
  · by_cases deep : repertoire.maxDepth < depth
    · simp only [disabled, deep, if_true, if_false, Bool.false_eq_true]
    · cases found : repertoire.behaviourFor action.kind with
      | none => simp only [disabled, deep, found, if_false, Option.map_none, Bool.false_eq_true]
      | some behaviour =>
        simp only [disabled, deep, found, if_false, Option.map_some, Bool.false_eq_true]
        rw [Executor.entering, performs]
        by_cases stops : setting.stops whole
        · simp only [stops, if_true, Executor.absorb]
        · simp only [stops, if_false, Bool.false_eq_true]
          rw [Executor.absorb_answer]

/-- What an executor does below an action is replayed if the trees below it are. -/
theorem below_eq_replay {executor : Executor τ} {depth : Nat} {run : Run τ}
    {children : List Action} {stations : List (Station σ)}
    (walked : Executor.walk.walks executor depth run children = setting.replay stations run)
    (outcome : Outcome) :
    (if outcome.descends then
      match Executor.walk.walks executor depth run children with
      | (.error fault, run) => (.error fault, run)
      | (.ok (), run) => (.ok outcome, run)
    else (.ok outcome, run)) =
      ((setting.replay (if outcome.flow = .proceed then stations else []) run).1.map
          (fun _ => outcome),
        (setting.replay (if outcome.flow = .proceed then stations else []) run).2) := by
  by_cases descends : outcome.descends
  · have proceeds : outcome.flow = .proceed := of_decide_eq_true descends
    simp only [descends, proceeds, if_true, walked]
    obtain ⟨answer, after⟩ := setting.replay stations run
    cases answer <;> rfl
  · have stays : ¬ outcome.flow = .proceed := by simpa [Outcome.descends] using descends
    simp only [descends, stays, if_false, Bool.false_eq_true]
    rfl

mutual

/-- The walk of an executor replays the tour of the tree. -/
theorem walk_eq_replay (repertoire : Repertoire σ) (performs : setting.Performs act) :
    forall (action : Action) (depth : Nat) (run : Run τ),
      (repertoire.executor act).walk depth run action =
        ((setting.replay
            (repertoire.tour depth (run.context, setting.view run.world) action) run).1.map
          (fun _ =>
            (repertoire.station depth (run.context, setting.view run.world) action).outcome),
        (setting.replay
          (repertoire.tour depth (run.context, setting.view run.world) action) run).2)
  | ⟨id, parentId, projectId, kind, enabled, modifiedAt, name, options, children⟩, depth,
      ⟨context, whole, cancelled⟩ => by
    rw [Executor.walk]
    simp only [tour, Setting.replay]
    cases cancelled with
    | true => rfl
    | false =>
      simp only [Bool.false_eq_true, if_false, station_action]
      rw [visit_executor repertoire performs]
      generalize repertoire.station depth (context, setting.view whole)
        ⟨id, parentId, projectId, kind, enabled, modifiedAt, name, options, children⟩ = station
      obtain ⟨visited, outcome, call⟩ := station
      cases call with
      | none => exact below_eq_replay (walks_eq_replay repertoire performs children _ _) outcome
      | some call =>
        by_cases stops : setting.stops whole
        · simp only [stops, if_true]
          rfl
        · simp only [stops, if_false, Bool.false_eq_true]
          have walked := walks_eq_replay repertoire performs children (depth + 1)
            ⟨call.contextAfter, setting.keep call whole, setting.strikes whole⟩
          rw [setting.view_keep] at walked
          exact below_eq_replay walked outcome

theorem walks_eq_replay (repertoire : Repertoire σ) (performs : setting.Performs act) :
    forall (children : List Action) (depth : Nat) (run : Run τ),
      Executor.walk.walks (repertoire.executor act) depth run children =
        setting.replay
          (tour.tours repertoire depth (run.context, setting.view run.world) children) run
  | [], _, _ => rfl
  | child :: children, depth, run => by
    rw [Executor.walk.walks, tour.tours, walk_eq_replay repertoire performs child,
      Setting.replay_append]
    cases replayed : setting.replay
      (repertoire.tour depth (run.context, setting.view run.world) child) run with
    | mk answer after =>
      cases answer with
      | error fault => rfl
      | ok done =>
        rw [setting.after_of_replay replayed]
        exact walks_eq_replay repertoire performs children depth after

end

end Repertoire

end Outreach
