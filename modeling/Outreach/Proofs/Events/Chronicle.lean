import Mathlib.Algebra.Group.Nat.Defs
import Outreach.Proofs.Events.Numbering

/-!
# What becomes of stored events

Events are stored, marked as deleted and put into categories, in any order and under any ids. One
command only adds an event to those that are there, or changes the category or the mark of one of
them: `grown_apply`. So an event stays at its place as it was stored, but for these two:
`grown_after`. Everything else that is known of it was settled when it was stored: its id, and its
parent among the events before it.
-/

namespace Outreach

/-- What may become of a stored event: its category changes, and it is marked as deleted. -/
structure Event.Ages (before after : Event) : Prop where
  kept : after = { before with categoryId := after.categoryId, deleted := after.deleted }
  deleted : before.deleted = true -> after.deleted = true

namespace EventStore

/-- What a store is told to do. -/
inductive Command where
  | insert (event : Event)
  | remove (id : EventId)
  | setCategory (id : EventId) (category : CategoryId)

namespace Command

/-- The event that is to be stored, if one is. -/
def event? : Command -> Option Event
  | .insert event => some event
  | _ => none

/-- The event that is to be changed, if one is. -/
def target? : Command -> Option EventId
  | .insert _ => none
  | .remove id => some id
  | .setCategory id _ => some id

end Command

/-- Do what a command says. -/
def apply (store : EventStore) : Command -> Reply EventStore Unit
  | .insert event => (.ok (), (store.insert event).2)
  | .remove id => store.remove id
  | .setCategory id category => store.setCategory id category

/-- The store after commands. -/
def after (store : EventStore) (commands : List Command) : EventStore :=
  commands.foldl (fun store command => (store.apply command).2) store

/-- The events that commands submit, in their order. -/
def submitted (commands : List Command) : List Event := commands.filterMap Command.event?

/-- Every event is still at its place. -/
def Grown (before after : EventStore) : Prop :=
  forall (index : Nat) (event : Event), before.events[index]? = some event ->
    ∃ later, after.events[index]? = some later ∧ event.Ages later

/-- The events of a visit before a place, the latest first. -/
def earlier (store : EventStore) (index : Nat) (correlationUri : String) : List Event :=
  ((store.events.take index).filter
    (fun event => event.correlationUri = some correlationUri)).reverse

/-- The events that one comes to from an event by going from parent to parent. -/
inductive Ancestry (store : EventStore) : Event -> List Event -> Prop where
  | first {event : Event} (orphan : event.parentId = none) : Ancestry store event []
  | next {event parent : Event} {id : EventId} {others : List Event}
      (isParent : event.parentId = some id) (found : store.get? id = some parent)
      (ancestry : Ancestry store parent others) : Ancestry store event (parent :: others)

/-- What is known of the event at a place of a store, if `original` is the event that was
submitted. -/
structure Stands (store : EventStore) (index : Nat) (original event : Event) : Prop where
  /-- Its id is the number of its place. -/
  numbered : ∃ id, event.id = some id ∧ id.toInt = index + 1
  /-- It is found under its id. -/
  found : forall id, event.id = some id -> store.get? id = some event
  /-- The rest of it is as it was submitted. -/
  kept : event = { original with id := event.id, parentId := event.parentId
                                 categoryId := event.categoryId, deleted := event.deleted }
  deleted : original.deleted = true -> event.deleted = true
  /-- An event of no visit has the parent that it was submitted with. -/
  single : event.correlationUri = none -> event.parentId = original.parentId
  /-- An event of a visit has the latest event of the visit before it as its parent, if there is
  one. -/
  linked : forall uri, event.correlationUri = some uri ->
    event.parentId = (store.earlier index uri).head?.bind Event.id
  /-- Its parent has a lower id. -/
  descending : forall uri parent, event.correlationUri = some uri -> event.parentId = some parent ->
    ∃ id, event.id = some id ∧ parent < id
  /-- From parent to parent one comes to all events of the visit before it. -/
  ancestry : forall uri, event.correlationUri = some uri ->
    store.Ancestry event (store.earlier index uri)

/-- What is known of a store after commands. -/
structure Chronicle (commands : List Command) (store : EventStore) : Prop where
  /-- It has as many events as were submitted, -/
  complete : store.events.length = (submitted commands).length
  /-- each at its place. -/
  standing : forall (index : Nat) (original : Event),
    (submitted commands)[index]? = some original ->
      ∃ event, store.events[index]? = some event ∧ store.Stands index original event
  /-- Whatever is done next, they only age. -/
  lasting : forall further, store.Grown (store.after further)
  /-- What fails leaves the store as it is. -/
  harmless : forall command error, (store.apply command).1 = .error error ->
    (store.apply command).2 = store
  /-- A command succeeds if the event that it is about is there. -/
  answered : forall command, (store.apply command).1 = .ok () ↔
    forall id, command.target? = some id -> ∃ event ∈ store.events, event.id = some id

end EventStore

namespace Event.Ages

variable {first second third : Event}

/-- What an event is now it may become. -/
theorem refl (event : Event) : event.Ages event := ⟨rfl, fun marked => marked⟩

/-- An event that ages and ages again has aged. -/
theorem trans (left : first.Ages second) (right : second.Ages third) : first.Ages third where
  kept := by rw [right.kept, left.kept]
  deleted marked := right.deleted (left.deleted marked)

/-- An event keeps its id. -/
theorem sameId (ages : first.Ages second) : second.id = first.id := by rw [ages.kept]

/-- An event keeps its visit. -/
theorem sameVisit (ages : first.Ages second) : second.correlationUri = first.correlationUri := by
  rw [ages.kept]

/-- An event keeps its parent. -/
theorem sameParent (ages : first.Ages second) : second.parentId = first.parentId := by
  rw [ages.kept]

/-- Later events see the same of it, for they look at ids and visits alone. -/
theorem sameTrace (ages : first.Ages second) : EventStore.trace second = EventStore.trace first :=
  Prod.ext ages.sameId ages.sameVisit

end Event.Ages

namespace EventStore

variable {store : EventStore}

section Growing

/-- Every event of a store is at its place in it. -/
theorem Grown.refl (store : EventStore) : store.Grown store :=
  fun _ event isEvent => ⟨event, isEvent, .refl event⟩

/-- Events that stay at their places twice have stayed there. -/
theorem Grown.trans {first second third : EventStore} (left : first.Grown second)
    (right : second.Grown third) : first.Grown third := by
  intro index event isEvent
  obtain ⟨later, isLater, ages⟩ := left index event isEvent
  obtain ⟨last, isLast, agesOn⟩ := right index later isLater
  exact ⟨last, isLast, ages.trans agesOn⟩

/-- A change of the first event that is looked for leaves every event at its place. -/
theorem getElem?_changeFirst {accepts : Event -> Bool} {change : Event -> Event}
    (ages : forall event : Event, event.Ages (change event)) {events : List Event} {index : Nat}
    {event : Event} (isEvent : events[index]? = some event) :
    ∃ later, (changeFirst accepts change events)[index]? = some later ∧ event.Ages later := by
  induction events generalizing index with
  | nil => cases isEvent
  | cons other rest ih =>
    rw [changeFirst]
    cases index with
    | zero =>
      cases isEvent
      split
      · exact ⟨change event, rfl, ages event⟩
      · exact ⟨event, rfl, .refl event⟩
    | succ index =>
      split
      · exact ⟨event, isEvent, .refl event⟩
      · exact ih isEvent

/-- A change under an id leaves every event at its place, whether the id is known or not. -/
theorem Grown.change {change : Event -> Event}
    (ages : forall event : Event, event.Ages (change event)) (store : EventStore) (id : EventId) :
    store.Grown (store.change id change).2 := by
  unfold EventStore.change
  split
  · exact fun index event isEvent => getElem?_changeFirst ages isEvent
  · exact .refl store

/-- One command leaves every event at its place. -/
theorem grown_apply (store : EventStore) (command : Command) :
    store.Grown (store.apply command).2 := by
  cases command with
  | insert event =>
    intro index other isOther
    have below : index < store.events.length := (List.getElem?_eq_some_iff.mp isOther).1
    exact ⟨other, (List.getElem?_append_left below).trans isOther, .refl other⟩
  | remove id => exact Grown.change (fun _ => ⟨rfl, fun _ => rfl⟩) store id
  | setCategory id category =>
    refine Grown.change ?_ store id
    exact fun _ => ⟨rfl, fun marked => marked⟩

/-- And so do any number of commands. -/
theorem grown_after (store : EventStore) (commands : List Command) :
    store.Grown (store.after commands) := by
  induction commands generalizing store with
  | nil => exact .refl store
  | cons command rest ih => exact (grown_apply store command).trans (ih (store.apply command).2)

end Growing

section Counting

/-- A change adds no event and drops none. -/
theorem length_change (store : EventStore) (id : EventId) (change : Event -> Event) :
    (store.change id change).2.events.length = store.events.length := by
  unfold EventStore.change
  split
  · have places : (changeFirst (fun event => event.id = some id) change store.events).map
        (fun _ => ()) = store.events.map (fun _ => ()) :=
      map_changeFirst (fun _ => ()) _ (fun _ => rfl) store.events
    simpa using congrArg List.length places
  · rfl

/-- A command adds the event that it submits and no other. -/
theorem length_apply (store : EventStore) (command : Command) :
    (store.apply command).2.events.length =
      store.events.length + command.event?.toList.length := by
  cases command with
  | insert event => exact List.length_append
  | remove id => exact length_change store id _
  | setCategory id category => exact length_change store id _

/-- Commands add as many events as they submit. -/
theorem length_after (store : EventStore) (commands : List Command) :
    (store.after commands).events.length = store.events.length + (submitted commands).length := by
  induction commands generalizing store with
  | nil => rfl
  | cons command rest ih =>
    have counted : (submitted (command :: rest)).length =
        command.event?.toList.length + (submitted rest).length := by
      unfold submitted
      cases picked : command.event? with
      | none =>
        rw [List.filterMap_cons_none picked]
        exact (Nat.zero_add _).symm
      | some event =>
        rw [List.filterMap_cons_some picked, List.length_cons, Nat.add_comm]
        rfl
    have next := ih (store.apply command).2
    rw [length_apply] at next
    rw [counted, ← Nat.add_assoc]
    exact next

/-- No submitted event gets lost. -/
theorem length_empty_after (commands : List Command) :
    (empty.after commands).events.length = (submitted commands).length :=
  (length_after empty commands).trans (Nat.zero_add _)

/-- Commands are carried out one after the other. -/
theorem after_append (store : EventStore) (first rest : List Command) :
    store.after (first ++ rest) = (store.after first).after rest := List.foldl_append

/-- A command leads from a store that is reached to one that is reached. -/
theorem Reached.apply (reached : store.Reached) (command : Command) :
    (store.apply command).2.Reached := by
  cases command with
  | insert event => exact reached.insert event
  | remove id => exact reached.remove id
  | setCategory id category => exact reached.setCategory id category

/-- And so do any number of commands. -/
theorem Reached.after (reached : store.Reached) (commands : List Command) :
    (store.after commands).Reached := by
  induction commands generalizing store with
  | nil => exact reached
  | cons command rest ih => exact ih (reached.apply command)

/-- A submitted event is submitted by one of the commands, after those that submit the events before
it. -/
theorem submitted_split {commands : List Command} {index : Nat} {original : Event}
    (given : (submitted commands)[index]? = some original) :
    ∃ before later, commands = before ++ .insert original :: later ∧
      (submitted before).length = index := by
  induction commands generalizing index with
  | nil => cases given
  | cons command rest ih =>
    cases picked : command.event? with
    | none =>
      rw [submitted, List.filterMap_cons_none picked] at given
      obtain ⟨before, later, rfl, place⟩ := ih given
      refine ⟨command :: before, later, rfl, ?_⟩
      rw [submitted, List.filterMap_cons_none picked]
      exact place
    | some event =>
      rw [submitted, List.filterMap_cons_some picked] at given
      cases index with
      | zero =>
        cases given
        refine ⟨[], rest, ?_, rfl⟩
        cases command <;> cases picked
        rfl
      | succ index =>
        obtain ⟨before, later, rfl, place⟩ := ih given
        refine ⟨command :: before, later, rfl, ?_⟩
        rw [submitted, List.filterMap_cons_some picked, List.length_cons]
        exact congrArg (· + 1) place

end Counting

section Standing

/-- The first events of a store. -/
def upTo (store : EventStore) (count : Nat) : EventStore := ⟨store.events.take count⟩

/-- What later events see of those that are there does not age. -/
theorem Grown.traces {before after : EventStore} (grown : before.Grown after) :
    (after.upTo before.events.length).events.map trace = before.events.map trace := by
  refine List.ext_getElem? (fun index => ?_)
  rw [upTo, List.getElem?_map, List.getElem?_map, List.getElem?_take]
  split
  case isTrue below =>
    have isEvent := List.getElem?_eq_getElem below
    obtain ⟨later, isLater, ages⟩ := grown index _ isEvent
    rw [isEvent, isLater, Option.map_some, Option.map_some, ages.sameTrace]
  case isFalse beyond =>
    rw [List.getElem?_eq_none (Nat.le_of_not_lt beyond)]

/-- A submitted event is stored behind those that were submitted before it, and only ages from then
on. -/
theorem placed {commands : List Command} {index : Nat} {original : Event}
    (given : (submitted commands)[index]? = some original) :
    ∃ event, (empty.after commands).events[index]? = some event ∧
      (((empty.after commands).upTo index).prepared original).Ages event := by
  obtain ⟨before, later, rfl, place⟩ := submitted_split given
  have count : (empty.after before).events.length = index :=
    (length_empty_after before).trans place
  have splits : empty.after (before ++ .insert original :: later) =
      ((empty.after before).insert original).2.after later := after_append empty before _
  rw [splits]
  have stored : ((empty.after before).insert original).2.events[index]? =
      some ((empty.after before).prepared original) := by
    rw [← count]
    exact List.getElem?_concat_length
  obtain ⟨event, isEvent, ages⟩ := grown_after _ later index _ stored
  have grown : (empty.after before).Grown (((empty.after before).insert original).2.after later) :=
    (grown_apply (empty.after before) (.insert original)).trans (grown_after _ later)
  have traces := grown.traces
  rw [count] at traces
  refine ⟨event, isEvent, ?_⟩
  rw [prepared_congr traces]
  exact ages

/-- An event of a visit gets the latest event of the visit in the store as its parent. -/
theorem parent_of_visit {held : EventStore} {original event : Event} {uri : String}
    (ages : (held.prepared original).Ages event) (isUri : event.correlationUri = some uri) :
    event.parentId =
      (held.events.filter (fun earlier => earlier.correlationUri = some uri)).getLast?.bind
        Event.id := by
  have visits : original.correlationUri = some uri := ages.sameVisit.symm.trans isUri
  rw [ages.sameParent, prepared_eq]
  simp only [parentOf, visits]

/-- An event of no visit keeps the parent that it was submitted with. -/
theorem parent_of_single {held : EventStore} {original event : Event}
    (ages : (held.prepared original).Ages event) (alone : event.correlationUri = none) :
    event.parentId = original.parentId := by
  have single : original.correlationUri = none := ages.sameVisit.symm.trans alone
  rw [ages.sameParent, prepared_eq]
  simp only [parentOf, single]

/-- Every event of a visit has the latest event of the visit before it as its parent. -/
def Linked (store : EventStore) : Prop :=
  forall (index : Nat) (event : Event) (uri : String), store.events[index]? = some event ->
    event.correlationUri = some uri ->
    event.parentId = (store.earlier index uri).head?.bind Event.id

/-- Whatever is done, the events of a visit are linked. -/
theorem linked_after (commands : List Command) : (empty.after commands).Linked := by
  intro index event uri isEvent isUri
  have below : index < (submitted commands).length := by
    rw [← length_empty_after]
    exact (List.getElem?_eq_some_iff.mp isEvent).1
  obtain ⟨aged, isAged, ages⟩ := placed (List.getElem?_eq_getElem below)
  obtain rfl : aged = event := Option.some.inj (isAged.symm.trans isEvent)
  rw [earlier, List.head?_reverse]
  exact parent_of_visit ages isUri

/-- The events of a visit before a place are the latest of them and those before it. -/
theorem earlier_eq_cons {index : Nat} {uri : String} {parent : Event} {others : List Event}
    (isEarlier : store.earlier index uri = parent :: others) :
    ∃ place, place < index ∧ store.events[place]? = some parent ∧
      parent.correlationUri = some uri ∧ others = store.earlier place uri := by
  induction index with
  | zero => cases isEarlier
  | succ index ih =>
    rw [earlier, List.take_add_one, List.filter_append, List.reverse_append] at isEarlier
    have skipped : store.earlier index uri = parent :: others ->
        ∃ place, place < index + 1 ∧ store.events[place]? = some parent ∧
          parent.correlationUri = some uri ∧ others = store.earlier place uri := by
      intro isRest
      obtain ⟨place, below, found⟩ := ih isRest
      exact ⟨place, Nat.lt_succ_of_lt below, found⟩
    cases isEvent : store.events[index]? with
    | none =>
      rw [isEvent] at isEarlier
      exact skipped isEarlier
    | some event =>
      rw [isEvent, Option.toList_some] at isEarlier
      by_cases visits : event.correlationUri = some uri
      · rw [List.filter_cons_of_pos (by simpa using visits)] at isEarlier
        cases isEarlier
        exact ⟨index, Nat.lt_succ_self index, isEvent, visits, rfl⟩
      · rw [List.filter_cons_of_neg (by simpa using visits)] at isEarlier
        exact skipped isEarlier

/-- An id is the number of its place as long as 63 bits hold the number. -/
theorem idAt_toInt {index : Nat} (room : index + 1 < 2 ^ 63) : (idAt index).toInt = index + 1 := by
  have plain : idAt index = Int64.ofNat (index + 1) := (Int64.ofNat_add index 1).symm
  rw [plain, Int64.toInt_ofNat_of_lt room, Int.natCast_add_one]

/-- An event has the id of its place. -/
theorem Numbered.id_of_getElem? (numbered : store.Numbered) {index : Nat} {event : Event}
    (isEvent : store.events[index]? = some event) : event.id = some (idAt index) := by
  have below := (List.getElem?_eq_some_iff.mp isEvent).1
  have ids := congrArg (fun ids => ids[index]?) numbered
  simp only [List.getElem?_map, isEvent, List.getElem?_range below, Option.map_some] at ids
  exact Option.some.inj ids

section Numbers

variable (numbered : store.Numbered) (few : store.events.length < 2 ^ 63)

include numbered few

/-- An event is found under its id, for no other event has it. -/
theorem Numbered.found {index : Nat} {event : Event} {id : EventId}
    (isEvent : store.events[index]? = some event) (isId : event.id = some id) :
    store.get? id = some event := by
  refine numbered.get?_of_mem ?_ (List.mem_of_getElem? isEvent) isId
  unfold idSupply UInt64.size
  omega

/-- A parent has a lower id. -/
theorem Linked.descending (linked : store.Linked) {index : Nat} {event : Event} {uri : String}
    {parent : EventId} (isEvent : store.events[index]? = some event)
    (isUri : event.correlationUri = some uri) (isParent : event.parentId = some parent) :
    ∃ id, event.id = some id ∧ parent < id := by
  have below := (List.getElem?_eq_some_iff.mp isEvent).1
  rw [linked index event uri isEvent isUri] at isParent
  cases isEarlier : store.earlier index uri with
  | nil => rw [isEarlier] at isParent; cases isParent
  | cons latest others =>
    obtain ⟨place, before, isLatest, -, -⟩ := earlier_eq_cons isEarlier
    rw [isEarlier] at isParent
    have isId : latest.id = some parent := isParent
    rw [numbered.id_of_getElem? isLatest] at isId
    cases isId
    refine ⟨idAt index, numbered.id_of_getElem? isEvent, Int64.lt_iff_toInt_lt.mpr ?_⟩
    rw [idAt_toInt (by omega), idAt_toInt (by omega)]
    omega

/-- From parent to parent one comes to all earlier events of the visit. -/
theorem Linked.ancestry (linked : store.Linked) {index : Nat} {event : Event} {uri : String}
    (isEvent : store.events[index]? = some event) (isUri : event.correlationUri = some uri) :
    store.Ancestry event (store.earlier index uri) := by
  induction index using Nat.strongRecOn generalizing event with
  | ind index ih =>
    have isParent := linked index event uri isEvent isUri
    cases isEarlier : store.earlier index uri with
    | nil =>
      rw [isEarlier] at isParent
      exact .first isParent
    | cons latest others =>
      obtain ⟨place, before, isLatest, sameUri, rfl⟩ := earlier_eq_cons isEarlier
      rw [isEarlier] at isParent
      have isId := numbered.id_of_getElem? isLatest
      exact .next (isParent.trans isId) (numbered.found few isLatest isId)
        (ih place before isLatest sameUri)

end Numbers

/-- A submitted event is at its place, and what is to be known of it there holds. -/
theorem stands {commands : List Command} (few : (submitted commands).length < 2 ^ 63) {index : Nat}
    {original : Event} (given : (submitted commands)[index]? = some original) :
    ∃ event, (empty.after commands).events[index]? = some event ∧
      (empty.after commands).Stands index original event := by
  obtain ⟨event, isEvent, ages⟩ := placed given
  have numbered := (Reached.empty.after commands).numbered
  have linked := linked_after commands
  have room : (empty.after commands).events.length < 2 ^ 63 := by
    rw [length_empty_after]
    exact few
  have below := (List.getElem?_eq_some_iff.mp isEvent).1
  refine ⟨event, isEvent, ?_⟩
  exact {
    numbered := ⟨idAt index, numbered.id_of_getElem? isEvent, idAt_toInt (by omega)⟩
    found := fun id isId => numbered.found room isEvent isId
    kept := by rw [ages.kept]; rfl
    deleted := ages.deleted
    single := parent_of_single ages
    linked := fun uri => linked index event uri isEvent
    descending := fun uri parent => linked.descending numbered room isEvent
    ancestry := fun uri => linked.ancestry numbered room isEvent }

end Standing

section Answers

/-- A change under an unknown id changes nothing. -/
theorem change_harmless {id : EventId} {change : Event -> Event} {error : ServiceError}
    (failed : (store.change id change).1 = .error error) : (store.change id change).2 = store := by
  unfold EventStore.change at failed ⊢
  split at failed
  · cases failed
  · rfl

/-- A change succeeds exactly if there is an event with the id. -/
theorem change_answered (store : EventStore) (id : EventId) (change : Event -> Event) :
    (store.change id change).1 = .ok () ↔ ∃ event ∈ store.events, event.id = some id := by
  have isFound : (store.get? id).isSome ↔ ∃ event ∈ store.events, event.id = some id := by
    simp only [get?, List.find?_isSome, decide_eq_true_eq]
  rw [← isFound]
  unfold EventStore.change
  cases store.get? id with
  | none => simp
  | some event => simp

/-- A command that fails changes nothing. -/
theorem harmless {command : Command} {error : ServiceError}
    (failed : (store.apply command).1 = .error error) : (store.apply command).2 = store := by
  cases command with
  | insert event => cases failed
  | remove id => exact change_harmless failed
  | setCategory id category => exact change_harmless failed

/-- A command succeeds exactly if the event that it is about is there. -/
theorem answered (store : EventStore) (command : Command) :
    (store.apply command).1 = .ok () ↔
      forall id, command.target? = some id -> ∃ event ∈ store.events, event.id = some id := by
  have named : forall target : EventId, (∃ event ∈ store.events, event.id = some target) ↔
      forall id, some target = some id -> ∃ event ∈ store.events, event.id = some id := by
    intro target
    refine ⟨fun present id same => ?_, fun present => present target rfl⟩
    obtain rfl := Option.some.inj same
    exact present
  cases command with
  | insert event => exact ⟨fun _ _ none => (nomatch none), fun _ => rfl⟩
  | remove id => exact (change_answered store id _).trans (named id)
  | setCategory id category => exact (change_answered store id _).trans (named id)

end Answers

/-- Whatever a new store is told to do, every event that is submitted gets the number of its place
as its id and the latest event of its visit as its parent, and from then on it only ages. That there
are fewer than 2 ^ 63 events is no more than that they fit into a memory. -/
theorem chronicled {commands : List Command} (few : (submitted commands).length < 2 ^ 63) :
    Chronicle commands (empty.after commands) where
  complete := length_empty_after commands
  standing _ _ := stands few
  lasting := grown_after _
  harmless _ _ := harmless
  answered := answered _

/-- Two pages are looked at in turns, one event is deleted on the way, and the last event is
submitted with a parent of its own. -/
def twoVisits : List Command :=
  let seen (uri : String) : Event := { Event.blank with correlationUri := some uri }
  [.insert (seen "first"), .insert (seen "second"), .remove 1,
    .insert { seen "first" with parentId := some 2 }, .setCategory 3 7, .remove 9,
    .insert { Event.blank with parentId := some 2 }]

/-- Each page gets its own chain of parents, and the deletion does not break it. -/
theorem chronicled_twoVisits :
    Chronicle twoVisits (empty.after twoVisits) ∧
      (empty.after twoVisits).events.map
          (fun event => (event.id, event.parentId, event.categoryId, event.deleted)) =
        [(some 1, none, none, true), (some 2, none, none, false), (some 3, some 1, some 7, false),
          (some 4, some 2, none, false)] := by
  have few : (submitted twoVisits).length < 2 ^ 63 := by decide
  exact ⟨chronicled few, by decide⟩

end EventStore

end Outreach
