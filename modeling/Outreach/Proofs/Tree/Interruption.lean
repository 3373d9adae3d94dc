import Outreach.Proofs.Tree.Refinement

/-!
# Cancelled runs

A run may be cancelled at any moment: before it starts, between the look of the executor at the
cancellation and that of an activity, or while an activity is at work. The activities of these
runs look at the cancellation once, before they do anything.

`interrupted_execute` compares such a run with the one that is not cancelled: what was done by the
moment is done in both and nothing more is done in the former, which has no outcome exactly if
something was still to be done.
-/

namespace Outreach

variable {σ τ : Type}

/-- The moment at which a run is cancelled. The calls of activities are counted from zero. -/
inductive Moment where
  | never
  /-- Before the run. -/
  | atStart
  /-- After the executor has looked at the cancellation, before the activity of a call does. -/
  | before (call : Nat)
  /-- While the activity of a call is at work. -/
  | during (call : Nat)
deriving DecidableEq

/-- The activity that looks at the cancellation first and then does what a behaviour does, which
is written down, in a run that is cancelled at a moment. -/
def Behaviour.interrupted (moment : Moment) (kind : ActionKind) (behaviour : Behaviour σ) :
    Activity (Journal σ) := fun run =>
  let step : Step (Journal σ) := fun context journal =>
    { behaviour.recordedStep kind context journal with
      cancels := moment = .during journal.calls.length }
  step.guarded
    (if moment = .before run.world.calls.length then { run with cancelled := true } else run)

namespace Moment

/-- The calls that are made by the moment, of those of a run that goes on to the end. -/
def prior (calls : List (Call σ)) : Moment -> List (Call σ)
  | never => calls
  | atStart => []
  | before call => calls.take call
  | during call => calls.take (call + 1)

/-- The stations that are still to be visited at the moment, of those that follow `calls` calls:
from the station of the call on, or what follows it if its activity is at work. Nothing is left to
be visited at a moment that does not come. -/
def outstanding (moment : Moment) (calls : Nat) : List (Station σ) -> List (Station σ)
  | [] => []
  | station :: rest =>
    if moment = .atStart then station :: rest
    else
      match station.call with
      | none => outstanding moment calls rest
      | some _ =>
        if moment = .before calls then station :: rest
        else if moment = .during calls then rest
        else outstanding moment (calls + 1) rest

/-- Whether the moment has not come after a number of calls. -/
def Ahead (moment : Moment) (calls : Nat) : Prop :=
  match moment with
  | never => True
  | atStart => False
  | before call => calls <= call
  | during call => calls <= call

/-- The surroundings keep every call, and the run is cancelled at the moment. -/
def setting (moment : Moment) : Setting σ (Journal σ) :=
  { Setting.recorded with
    stops := fun journal => moment = .before journal.calls.length
    strikes := fun journal => moment = .during journal.calls.length }

theorem setting_performs (moment : Moment) :
    (moment.setting (σ := σ)).Performs (Behaviour.interrupted moment) := by
  intro kind behaviour context journal
  unfold Behaviour.interrupted setting
  by_cases now : moment = .before journal.calls.length
  · simp only [now, if_true, decide_true]
    rfl
  · simp only [now, if_false, decide_false, Bool.false_eq_true]
    rfl

/-- By a moment that is ahead all calls have been made. -/
theorem prior_eq_self {moment : Moment} {calls : List (Call σ)}
    (ahead : moment.Ahead calls.length) : moment.prior calls = calls := by
  cases moment with
  | never => rfl
  | atStart => cases ahead
  | before call => exact List.take_of_length_le ahead
  | during call => exact List.take_of_length_le (Nat.le_succ_of_le ahead)

/-- A moment that does not come around the next call stays ahead. -/
theorem Ahead.succ {moment : Moment} {calls : Nat} (ahead : moment.Ahead calls)
    (notBefore : moment ≠ .before calls) (notDuring : moment ≠ .during calls) :
    moment.Ahead (calls + 1) := by
  cases moment with
  | never => trivial
  | atStart => cases ahead
  | before call =>
    have apart : call ≠ calls := fun same => notBefore (same ▸ rfl)
    have bound : calls <= call := ahead
    show calls + 1 <= call
    omega
  | during call =>
    have apart : call ≠ calls := fun same => notDuring (same ▸ rfl)
    have bound : calls <= call := ahead
    show calls + 1 <= call
    omega

end Moment

/-- The context and the surroundings after a call. -/
def Call.after (_ : Context × σ) (call : Call σ) : Context × σ :=
  (call.contextAfter, call.worldAfter)

/-- What a run leaves that is cancelled at a moment, if `done` are the calls made from `start` on
before the given stations. -/
structure Halted (moment : Moment) (start : Context × σ) (done : List (Call σ))
    (stations : List (Station σ)) (left : Except RunFault Unit × Run (Journal σ)) : Prop where
  calls : left.2.world.calls = moment.prior (done ++ stations.filterMap Station.call)
  world : left.2.world.world = (left.2.world.calls.foldl Call.after start).2
  context : left.2.context =
    { (left.2.world.calls.foldl Call.after start).1 with
      currentAction := left.2.context.currentAction }
  answer : left.1 =
    if (moment.outstanding done.length stations).isEmpty then .ok () else .error .cancelled

/-- The calls of a journal lead from `start` to a context and to the surroundings of the journal. -/
def Journal.Stands (journal : Journal σ) (start : Context × σ) (context : Context) : Prop :=
  journal.calls.foldl Call.after start = (context, journal.world)

theorem Journal.Stands.note {journal : Journal σ} {start : Context × σ} (call : Call σ) :
    (journal.note call).Stands start call.contextAfter := by
  unfold Stands
  rw [Journal.note, List.foldl_append]
  rfl

theorem Journal.length_note (call : Call σ) (journal : Journal σ) :
    (journal.note call).calls.length = journal.calls.length + 1 := by
  rw [note, List.length_append]
  rfl

theorem Journal.note_append (call : Call σ) (journal : Journal σ) (later : List (Call σ)) :
    (journal.note call).calls ++ later = journal.calls ++ call :: later := by
  rw [note, List.append_assoc]
  rfl

namespace Halted

variable {moment : Moment} {start : Context × σ} {context : Context} {journal : Journal σ}
  {station : Station σ} {rest : List (Station σ)} {call : Call σ}

/-- A run over no stations comes to its end. -/
theorem finished (ahead : moment.Ahead journal.calls.length)
    (stands : journal.Stands start context) :
    Halted moment start journal.calls [] (.ok (), ⟨context, journal, false⟩) := by
  refine ⟨?_, ?_, ?_, rfl⟩
  · rw [List.filterMap_nil, List.append_nil, Moment.prior_eq_self ahead]
  · rw [stands]
  · rw [stands]

/-- A station without a call leaves everything to those that follow. -/
theorem passing (uncalled : station.call = none) (notAtStart : moment ≠ .atStart)
    {left : Except RunFault Unit × Run (Journal σ)}
    (halted : Halted moment start journal.calls rest left) :
    Halted moment start journal.calls (station :: rest) left := by
  refine ⟨?_, halted.world, halted.context, ?_⟩
  · rw [List.filterMap_cons_none uncalled]
    exact halted.calls
  · simp only [Moment.outstanding, notAtStart, uncalled, if_false]
    exact halted.answer

/-- A run that is cancelled before a call leaves what stands, but for the current action. -/
theorem stopping (called : station.call = some call)
    (now : moment = .before journal.calls.length) (stands : journal.Stands start context)
    (action : CurrentAction) :
    Halted moment start journal.calls (station :: rest)
      (.error .cancelled, ⟨{ context with currentAction := action }, journal, true⟩) := by
  refine ⟨?_, ?_, ?_, ?_⟩
  · simp only [now, Moment.prior, List.take_left]
  · rw [stands]
  · rw [stands]
  · simp [Moment.outstanding, now, called]

/-- A run that is cancelled during a call has an outcome only if no station follows. -/
theorem striking (called : station.call = some call)
    (now : moment = .during journal.calls.length) :
    Halted moment start journal.calls (station :: rest)
      (if rest.isEmpty then .ok () else .error .cancelled,
        ⟨call.contextAfter, journal.note call, true⟩) := by
  have stands : (journal.note call).Stands start call.contextAfter := .note call
  refine ⟨?_, ?_, ?_, ?_⟩
  · rw [List.filterMap_cons_some called, ← Journal.note_append, now, Moment.prior,
      ← Journal.length_note call, List.take_left]
  · rw [stands]
  · rw [stands]
  · simp [Moment.outstanding, now, called]

/-- A call around which the run is not cancelled is one more that has been made. -/
theorem calling (called : station.call = some call) (notAtStart : moment ≠ .atStart)
    (notBefore : moment ≠ .before journal.calls.length)
    (notDuring : moment ≠ .during journal.calls.length)
    {left : Except RunFault Unit × Run (Journal σ)}
    (halted : Halted moment start (journal.note call).calls rest left) :
    Halted moment start journal.calls (station :: rest) left := by
  refine ⟨?_, halted.world, halted.context, ?_⟩
  · rw [List.filterMap_cons_some called, ← Journal.note_append]
    exact halted.calls
  · simp only [Moment.outstanding, notAtStart, called, notBefore, notDuring, if_false]
    rw [← Journal.length_note call]
    exact halted.answer

end Halted

namespace Setting

/-- A run that is cancelled by now goes no further. -/
theorem replay_cancelled (setting : Setting σ τ) (stations : List (Station σ)) (context : Context)
    (whole : τ) :
    setting.replay stations ⟨context, whole, true⟩ =
      (if stations.isEmpty then .ok () else .error .cancelled, ⟨context, whole, true⟩) := by
  cases stations <;> rfl

/-- A run over stations with the moment still ahead halts at the moment. The induction is on the
stations; the calls so far account for the context and the surroundings. -/
theorem halted_replay {moment : Moment} {start : Context × σ} (stations : List (Station σ))
    (context : Context) (journal : Journal σ) (ahead : moment.Ahead journal.calls.length)
    (stands : journal.Stands start context) :
    Halted moment start journal.calls stations
      (moment.setting.replay stations ⟨context, journal, false⟩) := by
  induction stations generalizing context journal with
  | nil => exact .finished ahead stands
  | cons station rest ih =>
    have notAtStart : moment ≠ .atStart := by
      rintro rfl
      exact ahead
    cases called : station.call with
    | none =>
      simp only [replay, called, Bool.false_eq_true, if_false]
      exact .passing called notAtStart (ih context journal ahead stands)
    | some call =>
      simp only [replay, called, Bool.false_eq_true, if_false]
      by_cases now : moment = .before journal.calls.length
      · have stops : moment.setting.stops journal = true := decide_eq_true now
        simp only [stops, if_true]
        exact .stopping called now stands _
      · have goesOn : moment.setting.stops journal = false := decide_eq_false now
        simp only [goesOn, Bool.false_eq_true, if_false]
        by_cases soon : moment = .during journal.calls.length
        · have strikes : moment.setting.strikes journal = true := decide_eq_true soon
          rw [strikes, replay_cancelled]
          exact .striking called soon
        · have goesOn : moment.setting.strikes journal = false := decide_eq_false soon
          rw [goesOn]
          have next : moment.Ahead (journal.note call).calls.length :=
            Journal.length_note call journal ▸ ahead.succ now soon
          exact .calling called notAtStart now soon
            (ih call.contextAfter (journal.note call) next (.note call))

end Setting

namespace Moment

/-- The calls that are made by a moment come first among those of a run that goes on. -/
theorem prior_prefix (moment : Moment) (calls : List (Call σ)) : moment.prior calls <+: calls := by
  cases moment with
  | never => exact List.prefix_refl calls
  | atStart => exact List.nil_prefix
  | before call => exact List.take_prefix call calls
  | during call => exact List.take_prefix (call + 1) calls

end Moment

namespace Repertoire

/-- A run over a tour that is cancelled at a moment halts at the moment. -/
theorem halted_tour (moment : Moment) (stations : List (Station σ)) (context : Context)
    (world : σ) :
    Halted moment (context, world) [] stations
      (moment.setting.replay stations ⟨context, ⟨world, []⟩, moment = .atStart⟩) := by
  by_cases early : moment = .atStart
  · subst early
    simp only [decide_true, Setting.replay_cancelled]
    refine ⟨rfl, rfl, rfl, ?_⟩
    cases stations <;> rfl
  · have ahead : moment.Ahead 0 := by
      cases moment with
      | never => trivial
      | atStart => exact early rfl
      | before call => exact Nat.zero_le call
      | during call => exact Nat.zero_le call
    simp only [early, decide_false]
    exact Setting.halted_replay stations context ⟨world, []⟩ ahead rfl

/-- A run that is cancelled at a moment makes the calls that are made by then in a run that is not
cancelled, and no others. What it leaves is what the last of them left, but for the current action.
It has no outcome if an action was still to be visited at the moment; otherwise it has that of the
run that is not cancelled. -/
theorem interrupted_execute (repertoire : Repertoire σ) (moment : Moment) (root : Action)
    (context : Context) (world : σ) :
    let whole := (repertoire.executor Behaviour.recorded).execute root ⟨context, ⟨world, []⟩, false⟩
    let cut := (repertoire.executor (Behaviour.interrupted moment)).execute root
      ⟨context, ⟨world, []⟩, moment = .atStart⟩
    let stations := repertoire.tour 0 (context, world) root
    let left := cut.2.world.calls.foldl Call.after (context, world)
    whole.2.world.calls = stations.filterMap Station.call ∧
      cut.2.world.calls = moment.prior whole.2.world.calls ∧
      cut.2.world.calls <+: whole.2.world.calls ∧
      cut.2.world.world = left.2 ∧
      cut.2.context = { left.1 with currentAction := cut.2.context.currentAction } ∧
      cut.1 = if (moment.outstanding 0 stations).isEmpty then whole.1 else .error .cancelled := by
  intro whole cut stations left
  have made := (repertoire.execute_eq_tour root context world).2.1
  have halted := halted_tour moment stations context world
  have replayed := repertoire.execute_eq_replay moment.setting_performs root
    ⟨context, ⟨world, []⟩, moment = .atStart⟩
  have calls : whole.2.world.calls = stations.filterMap Station.call := by
    simp only [whole, made, stations]
  have cutCalls : cut.2.world.calls = moment.prior whole.2.world.calls := by
    rw [calls, show cut.2 = _ from congrArg Prod.snd replayed]
    exact halted.calls
  refine ⟨calls, cutCalls, ?_, ?_, ?_, ?_⟩
  · rw [cutCalls]
    exact moment.prior_prefix _
  · simp only [left]
    rw [show cut.2 = _ from congrArg Prod.snd replayed]
    exact halted.world
  · simp only [left]
    rw [show cut.2 = _ from congrArg Prod.snd replayed]
    exact halted.context
  · have answer := halted.answer
    rw [show cut.1 = _ from congrArg Prod.fst replayed, show whole.1 = _ from congrArg Prod.fst made]
    change (Except.map _ (moment.setting.replay stations _).1) = _
    rw [answer, List.length_nil]
    cases (moment.outstanding 0 stations).isEmpty <;> rfl

end Repertoire

end Outreach
