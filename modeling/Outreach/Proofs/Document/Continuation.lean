import Outreach.Proofs.Document.Value
import Outreach.Queue.Job

/-!
# Continuations survive their document

The documents of tickets, contacts, events and snapshots are decoded to what they were written
from. So a continuation that was stored as the payload of a job resumes with everything that the
context of its run held.
-/

namespace Outreach

open Decode

/-- A ticket is read as it was written. -/
theorem Ticket.reads_decode : Ticket.decode.Reads Ticket.toJson := by
  intro ticket
  simp only [Ticket.decode, Ticket.toJson, Record.open?, Record.slot]
  simp [List.lookup_cons, reads_int64 _, reads_uuid _, reads_instant _, Slot.problem, bind,
    Except.bind, pure, Except.pure, Slot.required, Record.visit_eq_ok, Record.close]

/-- A contact is read as it was written. -/
theorem Contact.reads_decode : Contact.decode.Reads Contact.toJson := by
  intro contact
  have id := reads_optional reads_int64 (fun _ => Json.noConfusion) contact.id
  have name := reads_optional reads_string (fun _ => Json.noConfusion) contact.name
  simp only [Contact.decode, Contact.toJson, Record.open?, Record.slot]
  simp [List.lookup_cons, id, name, reads_int64 _, reads_string _, reads_idSet _, Slot.problem,
    bind, Except.bind, pure, Except.pure, Slot.required, Slot.orNone, Slot.withDefault,
    Record.visit_eq_ok, Record.close]

/-- An event is read as it was written. -/
theorem Event.reads_decode : Event.decode.Reads Event.toJson := by
  intro event
  have word := reads_optional reads_int64 (fun _ => Json.noConfusion)
  have text := reads_optional reads_string (fun _ => Json.noConfusion)
  have instant := reads_optional reads_instant (fun _ => Json.noConfusion)
  simp only [Event.decode, Event.toJson, Record.open?, Record.slot]
  simp [List.lookup_cons, word _, text _, instant _, ContactState.reads_decode _, reads_bool _,
    Slot.problem, bind, Except.bind, pure, Except.pure, Slot.required, Slot.orNone,
    Slot.withDefault, Record.visit_eq_ok, Record.close]

/-- A snapshot is read as it was written. -/
theorem Snapshot.reads_decode : Snapshot.decode.Reads Snapshot.toJson := by
  intro snapshot
  have ticket := reads_optional Ticket.reads_decode (fun _ => Json.noConfusion) snapshot.ticket
  have anonymousId := reads_optional reads_uuid (fun _ => Json.noConfusion) snapshot.anonymousId
  have contact := reads_optional Contact.reads_decode (fun _ => Json.noConfusion) snapshot.contact
  simp only [Snapshot.decode, Snapshot.toJson, Record.open?, Record.slot]
  simp [List.lookup_cons, ticket, anonymousId, contact, reads_int64 _, ContactState.reads_decode _,
    reads_map _, Event.reads_decode _, Slot.problem, bind, Except.bind, pure, Except.pure,
    Slot.required, Slot.orNone, Slot.withDefault, Record.visit_eq_ok, Record.close]

/-- A continuation is read as it was written. -/
theorem Continuation.reads_decode : Continuation.decode.Reads Continuation.toJson := by
  intro continuation
  simp only [Continuation.decode, Continuation.toJson, Record.open?, Record.slot]
  simp [List.lookup_cons, Snapshot.reads_decode _, reads_list reads_int64 _, Slot.problem, bind,
    Except.bind, pure, Except.pure, Slot.required, Record.visit_eq_ok, Record.close]

/-- What a run goes on with after its context was taken down and restored: all of it but the place
in the tree, which is the action that the continuation starts from. -/
theorem Context.ofSnapshot_snapshot (context : Context) (actionId : ActionId) :
    Context.ofSnapshot (context.snapshot actionId) context.project =
      { context with rootAction := actionId, currentAction := .anchor actionId } :=
  rfl

/-- The payload of a continuation's job is decoded to the continuation, and the context that it
resumes with is the one that it was taken from. -/
theorem Continuation.survives (context : Context) (actionId : ActionId) (childIds : List ActionId)
    (id : Uuid) (runAt : Instant) (maxAttempts : UInt32) :
    exists restored : Continuation,
      Continuation.decode
          (Job.ofContinuation id ⟨context.snapshot actionId, childIds⟩ runAt maxAttempts).payload =
        .ok restored ∧
      restored = ⟨context.snapshot actionId, childIds⟩ ∧
      Context.ofSnapshot restored.snapshot context.project =
        { context with rootAction := actionId, currentAction := .anchor actionId } :=
  ⟨_, reads_decode _, rfl, context.ofSnapshot_snapshot actionId⟩

end Outreach
