import Mathlib.Data.List.Nodup
import Outreach.Events.Store

/-!
# The numbers of stored events

Events are stored under the ids 1, 2, and so on, and whatever a store is asked to do, they keep
them: `Reached.numbered`. As long as the ids do not run out, an id therefore stands for one event,
and to change the event with an id is to put another one into its place.
-/

namespace Outreach.EventStore

/-- The stores that come about: events are stored, marked as deleted and put into categories. -/
inductive Reached : EventStore -> Prop where
  | empty : Reached .empty
  | insert {store : EventStore} (event : Event) (reached : Reached store) :
      Reached (store.insert event).2
  | remove {store : EventStore} (id : EventId) (reached : Reached store) :
      Reached (store.remove id).2
  | setCategory {store : EventStore} (id : EventId) (category : CategoryId)
      (reached : Reached store) : Reached (store.setCategory id category).2

/-- The number of ids, which is more events than fit into a memory. -/
def idSupply : Nat := UInt64.size

/-- The id of an event, by the number of the events before it. -/
def idAt (index : Nat) : EventId := Int64.ofNat index + 1

/-- Every event has the id of its place. -/
def Numbered (store : EventStore) : Prop :=
  store.events.map Event.id = (List.range store.events.length).map (fun index => some (idAt index))

/-- The parent of an event that is stored: the latest event of its visit so far. An event of no
visit keeps the parent it comes with. -/
def parentOf (store : EventStore) (event : Event) : Option EventId :=
  match event.correlationUri with
  | some uri =>
    (store.events.filter (fun earlier => earlier.correlationUri = some uri)).getLast?.bind Event.id
  | none => event.parentId

/-- Put an event into the place of the one with its id. -/
def put (store : EventStore) (event : Event) : EventStore :=
  ⟨changeFirst (fun other => other.id = event.id) (fun _ => event) store.events⟩

variable {store : EventStore}

theorem idAt_injective {index other : Nat} (room : index < idSupply) (otherRoom : other < idSupply)
    (same : idAt index = idAt other) : index = other := by
  have words : Int64.ofNat index = Int64.ofNat other := (Int64.add_left_inj 1).mp same
  have numbers := congrArg (fun word : Int64 => word.toBitVec.toNat) words
  simp only [Int64.toBitVec_ofNat', BitVec.toNat_ofNat] at numbers
  unfold idSupply UInt64.size at room otherRoom
  rwa [Nat.mod_eq_of_lt room, Nat.mod_eq_of_lt otherRoom] at numbers

/-- What the storing of a further event looks at of one that is stored. -/
def trace (event : Event) : Option EventId × Option String := (event.id, event.correlationUri)

theorem prepared_eq (store : EventStore) (event : Event) :
    store.prepared event =
      { event with id := some store.nextId, parentId := store.parentOf event } := by
  unfold prepared parentOf
  cases event.correlationUri with
  | none => rfl
  | some uri => simp only [List.getLast?_filter, latestOf?]

section Changes

variable {accepts : Event -> Bool} {change : Event -> Event}

/-- What a change keeps of an event is kept throughout a list. -/
theorem map_changeFirst {α : Type} (view : Event -> α) (accepts : Event -> Bool)
    (kept : forall event, view (change event) = view event) (events : List Event) :
    (changeFirst accepts change events).map view = events.map view := by
  induction events with
  | nil => rfl
  | cons event rest ih =>
    rw [changeFirst]
    split
    · rw [List.map_cons, List.map_cons, kept]
    · rw [List.map_cons, List.map_cons, ih]

/-- Only the event that is found is changed. -/
theorem changeFirst_found {events : List Event} {event : Event}
    (found : events.find? accepts = some event) :
    changeFirst accepts change events = changeFirst accepts (fun _ => change event) events := by
  induction events with
  | nil => cases found
  | cons other rest ih =>
    rw [List.find?_cons] at found
    rw [changeFirst, changeFirst]
    cases accepted : accepts other with
    | true =>
      rw [accepted] at found
      cases found
      rfl
    | false =>
      rw [accepted] at found
      rw [if_neg Bool.false_ne_true, if_neg Bool.false_ne_true, ih found]

theorem changeFirst_same {events : List Event} {event : Event}
    (found : events.find? accepts = some event) :
    changeFirst accepts (fun _ => event) events = events := by
  induction events with
  | nil => rfl
  | cons other rest ih =>
    rw [List.find?_cons] at found
    rw [changeFirst]
    cases accepted : accepts other with
    | true =>
      rw [accepted] at found
      cases found
      rfl
    | false =>
      rw [accepted] at found
      rw [if_neg Bool.false_ne_true, ih found]

/-- Of events none of which is accepted but the last one, the last one is changed. -/
theorem changeFirst_last {events : List Event} {event : Event}
    (refused : ∀ other ∈ events, accepts other = false) (accepted : accepts event = true) :
    changeFirst accepts change (events ++ [event]) = events ++ [change event] := by
  induction events with
  | nil => rw [List.nil_append, changeFirst, if_pos accepted, List.nil_append]
  | cons other rest ih =>
    obtain ⟨here, later⟩ := List.forall_mem_cons.mp refused
    rw [List.cons_append, changeFirst, here, if_neg Bool.false_ne_true, ih later,
      List.cons_append]

end Changes

/-- How an event is stored depends on the traces of the stored ones only. -/
theorem prepared_congr {other : EventStore}
    (same : other.events.map trace = store.events.map trace) (event : Event) :
    other.prepared event = store.prepared event := by
  have length : other.events.length = store.events.length := by
    simpa using congrArg List.length same
  have latest : forall (held : EventStore) (uri : String), (held.latestOf? uri).bind Event.id =
      ((held.events.map trace).reverse.find? (fun trace => trace.2 = some uri)).bind Prod.fst := by
    intro held uri
    rw [← List.map_reverse, List.find?_map, Option.bind_map]
    rfl
  unfold prepared nextId
  rw [length]
  cases event.correlationUri with
  | none => rfl
  | some uri => simp only [latest, same]

theorem id_of_get? {id : EventId} {event : Event} (found : store.get? id = some event) :
    event.id = some id := by
  simpa using List.find?_some found

/-- After an event has been stored there is one with its id. -/
theorem get?_nextId (store : EventStore) (event : Event) :
    ∃ held, (store.insert event).2.get? store.nextId = some held := by
  refine Option.isSome_iff_exists.mp (List.find?_isSome.mpr ⟨store.prepared event, ?_, ?_⟩)
  · exact List.mem_append_right _ List.mem_cons_self
  · exact decide_eq_true rfl

/-- To change the event with an id is to put the changed one into its place. -/
theorem change_eq_put {id : EventId} {event : Event} {change : Event -> Event}
    (found : store.get? id = some event) (kept : (change event).id = event.id) :
    store.change id change = (.ok (), store.put (change event)) := by
  simp only [EventStore.change, found, put, kept, id_of_get? found]
  rw [changeFirst_found found]

/-- An event that is put into its own place changes nothing. -/
theorem put_same {id : EventId} {event : Event} (found : store.get? id = some event) :
    store.put event = store := by
  rw [put, id_of_get? found]
  exact congrArg EventStore.mk (changeFirst_same found)

/-- No event gets lost when one is put into a place. -/
theorem length_put (store : EventStore) (event : Event) :
    (store.put event).events.length = store.events.length := by
  have places : (store.put event).events.map (fun _ => ()) = store.events.map (fun _ => ()) :=
    map_changeFirst (fun _ => ()) _ (fun _ => rfl) store.events
  simpa using congrArg List.length places

namespace Numbered

/-- Events with the same ids are numbered, too. -/
theorem congr {other : EventStore} (numbered : store.Numbered)
    (same : other.events.map Event.id = store.events.map Event.id) : other.Numbered := by
  have length : other.events.length = store.events.length := by
    simpa using congrArg List.length same
  unfold Numbered at numbered ⊢
  rw [same, length]
  exact numbered

theorem insert (numbered : store.Numbered) (event : Event) : (store.insert event).2.Numbered := by
  unfold Numbered EventStore.insert at *
  rw [List.length_append, List.length_singleton, List.range_succ, List.map_append, List.map_append,
    numbered]
  rfl

theorem change (numbered : store.Numbered) (id : EventId) {change : Event -> Event}
    (kept : forall event, (change event).id = event.id) : (store.change id change).2.Numbered := by
  unfold EventStore.change
  split
  · exact numbered.congr (map_changeFirst Event.id (fun event => event.id = some id) kept store.events)
  · exact numbered

end Numbered

/-- The events of every store are numbered. -/
theorem Reached.numbered (reached : store.Reached) : store.Numbered := by
  induction reached with
  | empty => rfl
  | insert event _ ih => exact ih.insert event
  | remove id _ ih => exact ih.change id (fun _ => rfl)
  | setCategory id category _ ih => exact ih.change id (fun _ => rfl)

namespace Numbered

/-- No two events have one id. -/
theorem nodup (numbered : store.Numbered) (room : store.events.length <= idSupply) :
    (store.events.map Event.id).Nodup := by
  rw [numbered]
  refine List.nodup_range.map_on (fun index listed other otherListed same => ?_)
  have below := List.mem_range.mp listed
  have otherBelow := List.mem_range.mp otherListed
  exact idAt_injective (by omega) (by omega) (Option.some.inj same)

/-- The next id is new. -/
theorem fresh (numbered : store.Numbered) (room : store.events.length < idSupply) :
    ∀ event ∈ store.events, event.id ≠ some store.nextId := by
  intro event listed taken
  have among : some store.nextId ∈ store.events.map Event.id := taken ▸ List.mem_map_of_mem listed
  rw [numbered] at among
  obtain ⟨index, below, same⟩ := List.mem_map.mp among
  have before := List.mem_range.mp below
  have here : index = store.events.length :=
    idAt_injective (by omega) room (Option.some.inj same)
  omega

/-- An event is found under its id. -/
theorem get?_of_mem (numbered : store.Numbered) (room : store.events.length <= idSupply)
    {event : Event} {id : EventId} (listed : event ∈ store.events) (isId : event.id = some id) :
    store.get? id = some event := by
  have some : (store.events.find? (fun other => other.id = some id)).isSome :=
    List.find?_isSome.mpr ⟨event, listed, decide_eq_true isId⟩
  obtain ⟨found, isFound⟩ := Option.isSome_iff_exists.mp some
  have same : found = event := List.inj_on_of_nodup_map (numbered.nodup room)
    (List.mem_of_find?_eq_some isFound) listed ((id_of_get? isFound).trans isId.symm)
  rw [get?, isFound, same]

/-- What is put into a numbered store stands in the place of its id and nowhere else. -/
theorem put_eq_map (numbered : store.Numbered) (room : store.events.length <= idSupply)
    (event : Event) :
    store.put event =
      ⟨store.events.map (fun other => if other.id = event.id then event else other)⟩ := by
  have distinct := numbered.nodup room
  unfold put
  congr 1
  generalize store.events = events at distinct
  induction events with
  | nil => rfl
  | cons other rest ih =>
    obtain ⟨apart, later⟩ := List.nodup_cons.mp distinct
    rw [changeFirst, List.map_cons]
    by_cases here : other.id = event.id
    · have others : ∀ next ∈ rest, next.id ≠ event.id := fun next listed same =>
        apart (List.mem_map.mpr ⟨next, listed, same.trans here.symm⟩)
      have kept : rest.map (fun next => if next.id = event.id then event else next) =
          rest.map id := List.map_congr_left (fun next listed => if_neg (others next listed))
      rw [if_pos (decide_eq_true here), if_pos here, kept, List.map_id]
    · rw [if_neg (by simpa using here), if_neg here, ih later]

/-- What is put into the place of the event that has just been stored. -/
theorem put_insert (numbered : store.Numbered) (room : store.events.length < idSupply)
    {event changed : Event} (kept : changed.id = some store.nextId) :
    (store.insert event).2.put changed = ⟨store.events ++ [changed]⟩ := by
  unfold put
  rw [kept]
  refine congrArg EventStore.mk (changeFirst_last (fun other listed => ?_) ?_)
  · exact decide_eq_false (numbered.fresh room other listed)
  · exact decide_eq_true rfl

/-- The event that has just been stored is found under its id. -/
theorem get?_insert (numbered : store.Numbered) (room : store.events.length < idSupply)
    (event : Event) : (store.insert event).2.get? store.nextId = some (store.prepared event) := by
  refine (numbered.insert event).get?_of_mem ?_ (List.mem_append_right _ List.mem_cons_self) rfl
  show (store.events ++ [store.prepared event]).length <= idSupply
  rw [List.length_append, List.length_singleton]
  omega

end Numbered

end Outreach.EventStore
