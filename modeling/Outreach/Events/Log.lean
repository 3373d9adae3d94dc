import Outreach.Events.Review
import Outreach.Events.Store
import Outreach.Rules.Store
import Outreach.Text.Blank

/-!
# Recording events

To record an event is to check it, to store it, to apply its owner's rules to it once, and to
store what they changed. The storage behind it may refuse any request.
-/

namespace Outreach

/-- What the recording of events asks of its storage. -/
structure EventStorage (σ : Type) where
  /-- Store an event; the stored event is answered. -/
  insert : Event -> σ -> Reply σ Event
  /-- The rules of an owner. -/
  rulesFor : UserId -> σ -> Reply σ (List Rule)
  /-- Mark an event as deleted. -/
  remove : EventId -> σ -> Reply σ Unit
  /-- Put an event into a category. -/
  setCategory : EventId -> CategoryId -> σ -> Reply σ Unit

namespace EventLog

/-- The review of an event that is to be recorded. -/
def review (event : Event) : Review :=
  ⟨(if event.projectId.isNone then ["project is required"] else []) ++
    (if (event.name.map Text.isBlankText).getD true then ["name is required"] else [])⟩

/-- Store what rules changed in a stored event. -/
def settle {σ : Type} (storage : EventStorage σ) (id : EventId) (before : Option CategoryId)
    (outcome : RuleOutcome) (state : σ) : Reply σ Unit :=
  if outcome.removed then storage.remove id state
  else
    match outcome.categoryId with
    | some category =>
      if some category = before then (.ok (), state) else storage.setCategory id category state
    | none => (.ok (), state)

/-- Apply the rules of its owner to a stored event and store what they changed. -/
def judge {σ : Type} (storage : EventStorage σ) (owner : UserId) (id : EventId) (stored : Event)
    (state : σ) : Reply σ Unit :=
  match storage.rulesFor owner state with
  | (.error cause, state) => (.error cause, state)
  | (.ok rules, state) =>
    settle storage id stored.categoryId (Rule.applyAll rules stored).1 state

/-- Record an event if its review accepts it. An event that belongs to nobody is refused before
it is stored. -/
def create {σ : Type} (storage : EventStorage σ) (event : Event) (state : σ) :
    Reply σ Review :=
  if !(review event).accepts then (.ok (review event), state)
  else
    match event.ownerId with
    | none => (.error (.backend (JudgeError.missingOwner event.id).message), state)
    | some _ =>
      match storage.insert event state with
      | (.error cause, state) => (.error cause, state)
      | (.ok stored, state) =>
        match stored.id, stored.ownerId with
        | none, _ => (.error (.backend "event store assigned no id"), state)
        | some _, none =>
          (.error (.backend (JudgeError.missingOwner stored.id).message), state)
        | some id, some owner =>
          match judge storage owner id stored state with
          | (.error cause, state) => (.error cause, state)
          | (.ok (), state) => (.ok .clean, state)

end EventLog

end Outreach
