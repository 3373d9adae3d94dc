import Outreach.Proofs.Events.Recording

/-!
# Where recordings under way lead

A recording that has stored its event holds a copy of it until the rules have been applied and the
stored event is marked. The *outlook* is the desk that is left if all recordings under way come to
their end and no event is stored any more. An event that is marked leaves the outlook alone, and an
event that is stored changes it as if it were recorded at once.
-/

namespace Outreach

namespace RuledEvents

/-- Recordings that are under way hold copies of different stored events. -/
structure Lends (desk : RuledEvents) (copies : List Event) : Prop where
  numbered : desk.events.Numbered
  room : desk.events.events.length <= EventStore.idSupply
  /-- The copies are of events as they are in the store. -/
  listed : ∀ copy ∈ copies, copy ∈ desk.events.events
  apart : copies.Nodup

/-- The desk that is left if the recordings that hold these copies come to their end. -/
def outlook (desk : RuledEvents) (copies : List Event) : RuledEvents :=
  { desk with
    events := ⟨desk.events.events.map (fun event =>
      if event ∈ copies then desk.rules.mark event else event)⟩ }

variable {desk : RuledEvents} {copies : List Event} {copy changed : Event}

@[simp]
theorem outlook_nil (desk : RuledEvents) : desk.outlook [] = desk := by
  simp [outlook]

theorem outlook_congr {others : List Event} (same : forall event, event ∈ copies ↔ event ∈ others) :
    desk.outlook copies = desk.outlook others := by
  simp only [outlook, same]

/-- An outlook keeps of the stored events what further events look at. -/
theorem trace_outlook (desk : RuledEvents) (copies : List Event) :
    (desk.outlook copies).events.events.map EventStore.trace =
      desk.events.events.map EventStore.trace := by
  rw [outlook, List.map_map]
  refine List.map_congr_left (fun event _ => ?_)
  show EventStore.trace (if event ∈ copies then desk.rules.mark event else event) = _
  split
  · simp only [EventStore.trace, RuleStore.mark_id, RuleStore.mark_correlationUri]
  · rfl

namespace Lends

theorem perm {others : List Event} (lends : desk.Lends copies) (same : copies.Perm others) :
    desk.Lends others where
  numbered := lends.numbered
  room := lends.room
  listed := fun copy held => lends.listed copy (same.mem_iff.mpr held)
  apart := same.nodup_iff.mp lends.apart

/-- Copies of different events have different ids. -/
theorem same_of_id (lends : desk.Lends copies) {event : Event} (listed : event ∈ desk.events.events)
    (held : copy ∈ copies) (same : event.id = copy.id) : event = copy :=
  List.inj_on_of_nodup_map (lends.numbered.nodup lends.room) listed (lends.listed copy held) same

/-- A copy of the event that is stored is handed out. -/
theorem insert (lends : desk.Lends copies)
    (room : desk.events.events.length < EventStore.idSupply) (event : Event) :
    ({ desk with events := (desk.events.insert event).2 } : RuledEvents).Lends
      (desk.events.prepared event :: copies) where
  numbered := lends.numbered.insert event
  room := by
    show (desk.events.events ++ [desk.events.prepared event]).length <= EventStore.idSupply
    rw [List.length_append, List.length_singleton]
    omega
  listed := by
    refine List.forall_mem_cons.mpr ⟨List.mem_append_right _ List.mem_cons_self, ?_⟩
    exact fun copy held => List.mem_append_left _ (lends.listed copy held)
  apart := by
    refine List.nodup_cons.mpr ⟨fun held => ?_, lends.apart⟩
    exact lends.numbered.fresh room _ (lends.listed _ held) rfl

/-- A copy is given back when its event is changed. -/
theorem put (lends : desk.Lends (copy :: copies)) (kept : changed.id = copy.id) :
    ({ desk with events := desk.events.put changed } : RuledEvents).Lends copies where
  numbered := by
    rw [lends.numbered.put_eq_map lends.room changed]
    refine lends.numbered.congr ?_
    rw [List.map_map]
    refine List.map_congr_left (fun event _ => ?_)
    show (if event.id = changed.id then changed else event).id = event.id
    split
    · exact Eq.symm ‹_›
    · rfl
  room := by
    rw [lends.numbered.put_eq_map lends.room changed]
    show (desk.events.events.map _).length <= EventStore.idSupply
    rw [List.length_map]
    exact lends.room
  listed := by
    intro other held
    have listed : other ∈ desk.events.events := lends.listed other (List.mem_cons_of_mem _ held)
    have elsewhere : other.id ≠ changed.id := by
      intro same
      have here := lends.same_of_id listed List.mem_cons_self (same.trans kept)
      exact (List.nodup_cons.mp lends.apart).1 (here ▸ held)
    rw [lends.numbered.put_eq_map lends.room changed]
    exact List.mem_map.mpr ⟨other, listed, if_neg elsewhere⟩
  apart := (List.nodup_cons.mp lends.apart).2

/-- The outlook changes with an event that is stored by that event only, with its mark. -/
theorem outlook_insert (lends : desk.Lends copies)
    (room : desk.events.events.length < EventStore.idSupply) (event : Event) :
    ({ desk with events := (desk.events.insert event).2 } : RuledEvents).outlook
        (desk.events.prepared event :: copies) =
      { desk.outlook copies with
        events := ⟨(desk.outlook copies).events.events ++
          [desk.rules.mark (desk.events.prepared event)]⟩ } := by
  have elsewhere : ∀ other ∈ desk.events.events, other ≠ desk.events.prepared event := by
    intro other listed here
    exact lends.numbered.fresh room other listed (here ▸ rfl)
  have kept : desk.events.events.map (fun other =>
        if other ∈ desk.events.prepared event :: copies then desk.rules.mark other else other) =
      (desk.outlook copies).events.events := by
    refine List.map_congr_left (fun other listed => ?_)
    simp only [List.mem_cons, elsewhere other listed, false_or]
  simp only [outlook, EventStore.insert, List.map_append, List.map_singleton, kept,
    List.mem_cons_self, if_true]

/-- To mark an event whose copy is held leaves the outlook alone. -/
theorem outlook_put (lends : desk.Lends (copy :: copies)) :
    ({ desk with events := desk.events.put (desk.rules.mark copy) } : RuledEvents).outlook copies =
      desk.outlook (copy :: copies) := by
  have kept : (desk.rules.mark copy).id = copy.id := RuleStore.mark_id _ _
  have after := lends.put kept
  have given : desk.rules.mark copy ∉ copies := by
    intro held
    have listed := lends.listed _ (List.mem_cons_of_mem copy held)
    have here := lends.same_of_id listed List.mem_cons_self kept
    exact (List.nodup_cons.mp lends.apart).1 (here ▸ held)
  rw [lends.numbered.put_eq_map lends.room]
  unfold outlook
  dsimp only
  rw [List.map_map]
  congr 2
  refine List.map_congr_left (fun event listed => ?_)
  rw [Function.comp_apply, kept]
  by_cases here : event = copy
  · rw [here, if_pos rfl, if_neg given, if_pos List.mem_cons_self]
  · have elsewhere : event.id ≠ copy.id := fun same =>
      here (lends.same_of_id listed List.mem_cons_self same)
    simp only [elsewhere, if_false, List.mem_cons, here, false_or]

end Lends

end RuledEvents

namespace EventLog

open RuledEvents

/-- If a further event is stored, the outlook becomes what its recording makes of it. -/
theorem outlook_create {desk : RuledEvents} {copies : List Event} (lends : desk.Lends copies)
    (room : desk.events.events.length < EventStore.idSupply) (working : desk.faults = [])
    {event : Event} (admitted : admits event = true) :
    ({ desk with events := (desk.events.insert event).2 } : RuledEvents).outlook
        (desk.events.prepared event :: copies) =
      (create storage event (desk.outlook copies)).2 := by
  have traces := desk.trace_outlook copies
  have ids : (desk.outlook copies).events.events.map Event.id =
      desk.events.events.map Event.id := by
    have firsts := congrArg (List.map Prod.fst) traces
    rwa [List.map_map, List.map_map] at firsts
  have length : (desk.outlook copies).events.events.length = desk.events.events.length := by
    simpa using congrArg List.length ids
  have created := create_working (desk.outlook copies) working (lends.numbered.congr ids)
    (length ▸ room) event
  rw [created, if_pos admitted, EventStore.prepared_congr traces]
  exact lends.outlook_insert room event

end EventLog

end Outreach
