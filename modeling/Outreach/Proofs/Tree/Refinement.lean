import Outreach.Proofs.Tree.Replay

/-!
# Carrying out a tree is making its tour

The activities of these executors are behaviours: they do anything at all with the context and the
surroundings, and a service may not work. Their calls are seen through surroundings that keep a
journal. The run is never cancelled.
-/

namespace Outreach

variable {σ τ : Type}

/-- The activity that does what a behaviour does and never looks at the cancellation. -/
def Behaviour.plain (_ : ActionKind) (behaviour : Behaviour σ) : Activity σ := fun run =>
  let (answer, context, world) := behaviour run.context run.world
  (answer.mapError .service, ⟨context, world, run.cancelled⟩)

/-- Surroundings in which the calls of activities are written down. -/
@[ext]
structure Journal (σ : Type) where
  world : σ
  calls : List (Call σ)

/-- The surroundings after a call. -/
def Journal.note (call : Call σ) (journal : Journal σ) : Journal σ :=
  ⟨call.worldAfter, journal.calls ++ [call]⟩

/-- The step of a behaviour whose calls are written down. -/
def Behaviour.recordedStep (kind : ActionKind) (behaviour : Behaviour σ) : Step (Journal σ) :=
  fun context journal =>
    let call := behaviour.call kind context journal.world
    ⟨call.answer.mapError .service, call.contextAfter, journal.note call, false⟩

/-- The activity that looks at the cancellation first and then does what a behaviour does, which
is written down. -/
def Behaviour.recorded (kind : ActionKind) (behaviour : Behaviour σ) : Activity (Journal σ) :=
  (behaviour.recordedStep kind).guarded

namespace Setting

/-- A run that is never cancelled gets to the end. -/
theorem replay_uninterrupted (setting : Setting σ τ)
    (calm : forall whole, setting.stops whole = false ∧ setting.strikes whole = false)
    (stations : List (Station σ)) (context : Context) (whole : τ) :
    setting.replay stations ⟨context, whole, false⟩ =
      (.ok (),
        ⟨(stations.foldl Station.after (context, setting.view whole)).1,
          (stations.filterMap Station.call).foldl (fun whole call => setting.keep call whole) whole,
          false⟩) := by
  induction stations generalizing context whole with
  | nil => rfl
  | cons station rest ih =>
    obtain ⟨action, outcome, call⟩ := station
    cases call with
    | none => exact ih context whole
    | some call =>
      simp only [replay, (calm whole).1, (calm whole).2, Bool.false_eq_true, if_false]
      rw [ih, setting.view_keep]
      rfl

/-- The surroundings are those that behaviours see. -/
def plain : Setting σ σ where
  view := id
  keep call _ := call.worldAfter
  view_keep _ _ := rfl
  stops _ := false
  strikes _ := false

/-- The surroundings keep every call. -/
def recorded : Setting σ (Journal σ) where
  view := Journal.world
  keep := Journal.note
  view_keep _ _ := rfl
  stops _ := false
  strikes _ := false

theorem plain_performs : (plain (σ := σ)).Performs Behaviour.plain := fun _ _ _ _ => rfl

theorem recorded_performs : (recorded (σ := σ)).Performs Behaviour.recorded := fun _ _ _ _ => rfl

end Setting

/-- Calls that are noted one after the other are kept in order. -/
theorem Journal.foldl_note (calls : List (Call σ)) (journal : Journal σ) :
    (calls.foldl (fun journal call => journal.note call) journal).calls =
      journal.calls ++ calls := by
  induction calls generalizing journal with
  | nil => simp
  | cons call rest ih =>
    rw [List.foldl_cons, ih, note, List.append_assoc]
    rfl

namespace Repertoire

variable {setting : Setting σ τ} {act : ActionKind -> Behaviour σ -> Activity τ}

/-- Carrying out a tree replays its tour. -/
theorem execute_eq_replay (repertoire : Repertoire σ) (performs : setting.Performs act)
    (root : Action) (run : Run τ) :
    let start := (run.context, setting.view run.world)
    let replayed := setting.replay (repertoire.tour 0 start root) run
    (repertoire.executor act).execute root run =
      (replayed.1.map (fun _ => (repertoire.station 0 start root).outcome), replayed.2) := by
  rw [Executor.execute_eq_walk]
  exact repertoire.walk_eq_replay performs root 0 run

/-- Carrying out a tree without cancellation makes its tour to the end. -/
theorem execute_uninterrupted (repertoire : Repertoire σ) (performs : setting.Performs act)
    (calm : forall whole, setting.stops whole = false ∧ setting.strikes whole = false)
    (root : Action) (context : Context) (whole : τ) :
    let start := (context, setting.view whole)
    let stations := repertoire.tour 0 start root
    let kept := (stations.filterMap Station.call).foldl (fun whole call => setting.keep call whole) whole
    (repertoire.executor act).execute root ⟨context, whole, false⟩ =
        (.ok (repertoire.station 0 start root).outcome,
          ⟨(stations.foldl Station.after start).1, kept, false⟩) ∧
      setting.view kept = (stations.foldl Station.after start).2 := by
  intro start stations kept
  have replayed := setting.replay_uninterrupted calm stations context whole
  have left := setting.after_of_replay replayed
  refine ⟨?_, (congrArg Prod.snd left).symm⟩
  have executed := repertoire.execute_eq_replay performs root ⟨context, whole, false⟩
  simp only [stations, start] at replayed
  simp only [replayed] at executed
  exact executed

/-- Carrying out a tree without cancellation comes to an outcome, that of the station of its root.
It leaves the context and the surroundings that the tour of the tree leaves and makes the calls of
the tour in its order. The tour follows the preorder of the tree, and every call is one for the
kind of the visited action, with that action as the current one. -/
theorem execute_eq_tour (repertoire : Repertoire σ) (root : Action) (context : Context)
    (world : σ) :
    let stations := repertoire.tour 0 (context, world) root
    let outcome := (repertoire.station 0 (context, world) root).outcome
    let finish := stations.foldl Station.after (context, world)
    (repertoire.executor Behaviour.plain).execute root ⟨context, world, false⟩ =
        (.ok outcome, ⟨finish.1, finish.2, false⟩) ∧
      (repertoire.executor Behaviour.recorded).execute root ⟨context, ⟨world, []⟩, false⟩ =
        (.ok outcome, ⟨finish.1, ⟨finish.2, stations.filterMap Station.call⟩, false⟩) ∧
      (stations.map Station.action).Sublist root.preorder ∧
      ∀ station ∈ stations, ∀ call, station.call = some call ->
        call.kind = station.action.kind ∧ call.context.currentAction = .of station.action := by
  intro stations outcome finish
  refine ⟨?_, ?_, repertoire.tour_sublist_preorder root 0 (context, world), ?_⟩
  · obtain ⟨executed, left⟩ := repertoire.execute_uninterrupted Setting.plain_performs
      (fun _ => ⟨rfl, rfl⟩) root context world
    rw [executed]
    exact congrArg (fun world => (_, Run.mk finish.1 world false)) left
  · obtain ⟨executed, left⟩ := repertoire.execute_uninterrupted Setting.recorded_performs
      (fun _ => ⟨rfl, rfl⟩) root context ⟨world, []⟩
    have noted := Journal.foldl_note (stations.filterMap Station.call) ⟨world, []⟩
    rw [executed]
    exact congrArg (fun journal => (_, Run.mk finish.1 journal false)) (Journal.ext left noted)
  · intro station member call made
    obtain ⟨depth, start, same⟩ := repertoire.mem_tour root 0 (context, world) member
    rw [same] at made
    exact repertoire.call_of_station made

end Repertoire

end Outreach
