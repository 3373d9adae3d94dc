import Outreach.Tree.Registry

/-!
# Carrying out a tree

A tree is carried out depth first, every action before the actions below it. An action that does
not let the run go on prunes what is below it; what stands beside it still follows. The outcome
of the run is that of the action at the root.

`execute` keeps the actions that are still to be visited on a stack. `walk` says the same by
recursion over the tree.
-/

namespace Outreach

/-- Why a run has no outcome. -/
inductive RunFault where
  /-- The run was cancelled. What it did until then is kept. -/
  | cancelled
  /-- A service did not work while the tree was fetched. -/
  | service (cause : ServiceError)
  /-- An instant, a span or an id out of range. Nothing goes on after that. -/
  | overflow
deriving DecidableEq

/-- The wording of a fault. -/
def RunFault.message : RunFault -> String
  | .cancelled => "execution cancelled"
  | .service cause => "collaborator error: " ++ cause.message
  | .overflow => "date or duration out of range"

/-- How trees are carried out. -/
structure Executor (σ : Type) where
  /-- What carries out the actions. -/
  registry : Registry σ
  /-- Actions more levels than this below the root fail. -/
  maxDepth : Nat

namespace Executor

variable {σ : Type}

/-- What keeps an action from being handed to an activity: it fails with this outcome. -/
def barred (executor : Executor σ) (action : Action) (depth : Nat) : Except Outcome (Activity σ) :=
  if !action.enabled then .error .failed
  else if executor.maxDepth < depth then
    .error (.failedWith
      ("maximum tree depth " ++ Digits.natText executor.maxDepth ++ " exceeded"))
  else
    match executor.registry.activityFor action.kind with
    | some activity => .ok activity
    | none => .error (.failedWith ("no activity registered for " ++ action.kind.name))

/-- The outcome of an activity as the run takes it: a service that does not work fails the
action only. -/
def absorb : Except StepFault Outcome -> Except RunFault Outcome
  | .ok outcome => .ok outcome
  | .error .cancelled => .error .cancelled
  | .error (.service cause) => .ok (.failedWith cause.message)
  | .error .overflow => .error .overflow

/-- The run with an action as the one that is being carried out. -/
def entering (run : Run σ) (action : Action) : Run σ :=
  { run with context := { run.context with currentAction := .of action } }

/-- Carry out a single action. -/
def visit (executor : Executor σ) (action : Action) (depth : Nat) (run : Run σ) :
    Except RunFault Outcome × Run σ :=
  match executor.barred action depth with
  | .error outcome => (.ok outcome, run)
  | .ok activity =>
    let (outcome, run) := activity (entering run action)
    (absorb outcome, run)

/-- An action to be visited and how far it is below the root. -/
abbrev Pending := Action × Nat

/-- The number of actions in the trees of a stack. -/
def pendingSize : List Pending -> Nat
  | [] => 0
  | (action, _) :: rest => action.size + pendingSize rest

theorem size_eq (action : Action) : action.size = Action.size.sizes action.children + 1 := by
  cases action; rfl

theorem pendingSize_append (left right : List Pending) :
    pendingSize (left ++ right) = pendingSize left + pendingSize right := by
  induction left with
  | nil => simp [pendingSize]
  | cons pending left ih => simp [pendingSize, ih, Nat.add_assoc]

theorem pendingSize_children (children : List Action) (depth : Nat) :
    pendingSize (children.map (fun child => (child, depth))) = Action.size.sizes children := by
  induction children with
  | nil => rfl
  | cons child rest ih =>
    rw [List.map_cons, pendingSize, ih]
    rfl

/-- The actions that follow an action with an outcome: its children, if they do. -/
def following (outcome : Outcome) (action : Action) (depth : Nat) : List Pending :=
  if outcome.descends then action.children.map (fun child => (child, depth + 1)) else []

theorem pendingSize_following_lt (outcome : Outcome) (action : Action) (depth : Nat)
    (rest : List Pending) :
    pendingSize (following outcome action depth ++ rest) <
      pendingSize ((action, depth) :: rest) := by
  rw [pendingSize_append]
  unfold following
  split
  · rw [pendingSize_children]
    simp only [pendingSize, size_eq]
    omega
  · simp only [pendingSize, size_eq]
    omega

/-- Carry out the actions on a stack, uppermost first. `first` is the outcome of the action that
was visited first. -/
def loop (executor : Executor σ) (stack : List Pending) (first : Option Outcome) (run : Run σ) :
    Except RunFault Outcome × Run σ :=
  match stack with
  | [] => (.ok (first.getD .failed), run)
  | (action, depth) :: rest =>
    if run.cancelled then (.error .cancelled, run)
    else
      match executor.visit action depth run with
      | (.error fault, run) => (.error fault, run)
      | (.ok outcome, run) =>
        loop executor (following outcome action depth ++ rest) (first.or (some outcome)) run
termination_by pendingSize stack
decreasing_by exact pendingSize_following_lt outcome action depth rest

/-- Carry out a tree. -/
def execute (executor : Executor σ) (root : Action) (run : Run σ) :
    Except RunFault Outcome × Run σ :=
  executor.loop [(root, 0)] none run

/-- Carry out a tree whose root is `depth` levels down, by recursion: the action first, then, if
it lets the run go on, the trees of its children in order. -/
def walk (executor : Executor σ) (depth : Nat) (run : Run σ) :
    Action -> Except RunFault Outcome × Run σ
  | ⟨id, parentId, projectId, kind, enabled, modifiedAt, name, options, children⟩ =>
    if run.cancelled then (.error .cancelled, run)
    else
      let action : Action :=
        ⟨id, parentId, projectId, kind, enabled, modifiedAt, name, options, children⟩
      match executor.visit action depth run with
      | (.error fault, run) => (.error fault, run)
      | (.ok outcome, run) =>
        if outcome.descends then
          match walks executor (depth + 1) run children with
          | (.error fault, run) => (.error fault, run)
          | (.ok (), run) => (.ok outcome, run)
        else (.ok outcome, run)
where
  /-- Carry out trees one after the other. -/
  walks (executor : Executor σ) (depth : Nat) (run : Run σ) :
      List Action -> Except RunFault Unit × Run σ
    | [] => (.ok (), run)
    | action :: rest =>
      match walk executor depth run action with
      | (.error fault, run) => (.error fault, run)
      | (.ok _, run) => walks executor depth run rest

end Executor

end Outreach
