import Outreach.Event
import Outreach.ServiceError

/-!
# Stored events

Events in the order in which they were stored. The first event has the id 1, the next one 2,
and so on. Events of one visit form a chain: each has the latest earlier one as its parent.
-/

namespace Outreach

/-- All stored events, deleted ones included. -/
structure EventStore where
  /-- The events in the order in which they were stored. -/
  events : List Event
deriving DecidableEq, Inhabited

namespace EventStore

/-- The store without events. -/
def empty : EventStore := ⟨[]⟩

/-- The events that are not deleted. -/
def live (store : EventStore) : List Event := store.events.filter (fun event => !event.deleted)

/-- The id of the next event. -/
def nextId (store : EventStore) : EventId := Int64.ofNat store.events.length + 1

/-- The latest event of a visit. -/
def latestOf? (store : EventStore) (correlationUri : String) : Option Event :=
  store.events.reverse.find? (fun event => event.correlationUri = some correlationUri)

/-- An event as it is stored: with the next id, and after the latest event of its visit. -/
def prepared (store : EventStore) (event : Event) : Event :=
  { event with
    id := some store.nextId
    parentId := match event.correlationUri with
      | some uri => (store.latestOf? uri).bind Event.id
      | none => event.parentId }

/-- Store an event. -/
def insert (store : EventStore) (event : Event) : Event × EventStore :=
  let stored := store.prepared event
  (stored, ⟨store.events ++ [stored]⟩)

/-- The event with an id. -/
def get? (store : EventStore) (id : EventId) : Option Event :=
  store.events.find? (fun event => event.id = some id)

/-- Change the first event that a test accepts. -/
def changeFirst (accepts : Event -> Bool) (change : Event -> Event) : List Event -> List Event
  | [] => []
  | event :: rest =>
    if accepts event then change event :: rest else event :: changeFirst accepts change rest

/-- Change the event with an id. -/
def change (store : EventStore) (id : EventId) (change : Event -> Event) :
    Reply EventStore Unit :=
  match store.get? id with
  | some _ => (.ok (), ⟨changeFirst (fun event => event.id = some id) change store.events⟩)
  | none => (.error (.notFound "event" (Digits.wordText id)), store)

/-- Mark an event as deleted; a deleted event stays so. -/
def remove (store : EventStore) (id : EventId) : Reply EventStore Unit :=
  store.change id (fun event => { event with deleted := true })

/-- Put an event into a category. -/
def setCategory (store : EventStore) (id : EventId) (category : CategoryId) :
    Reply EventStore Unit :=
  store.change id (fun event => { event with categoryId := some category })

end EventStore

end Outreach
