import Outreach.Proofs.Run.Conduct
import Outreach.Rehearsal.Basic

/-!
# What the requests of a rehearsal change

A request to the catalog changes nothing but the catalog, and so it is with events, mails and jobs.
Each is one equation for the rehearsal after the request, whether that was answered, refused or made
to fail. So what has nothing to do with the catalog, the events and the mails is carried over all
requests but those that hand over (`services_carries`).
-/

namespace Outreach.Rehearsal

/-- A request to the catalog is made to fail, or the catalog answers it. -/
theorem askCatalog_cases {α : Type} (request : Request) (ask : Catalog -> Reply Catalog α)
    (rehearsal : Rehearsal) :
    (∃ cause, rehearsal.askCatalog request ask = (.error cause, rehearsal)) ∨
      rehearsal.askCatalog request ask =
        ((ask rehearsal.catalog).1, { rehearsal with catalog := (ask rehearsal.catalog).2 }) := by
  unfold askCatalog Faults.answer
  cases rehearsal.faults.lookup request with
  | some cause => exact .inl ⟨cause, rfl⟩
  | none => exact .inr rfl

/-- A question to the catalog changes nothing, and it is answered unless it is made to fail. -/
theorem ask_cases {α : Type} (request : Request) (question : Catalog -> α) (world : Rehearsal) :
    ∃ answer, world.askCatalog request (fun catalog => (.ok (question catalog), catalog)) =
        (answer, world) ∧
      (world.faults.lookup request = none -> answer = .ok (question world.catalog)) := by
  unfold askCatalog Faults.answer
  cases world.faults.lookup request with
  | some cause => exact ⟨.error cause, rfl, nofun⟩
  | none => exact ⟨_, rfl, fun _ => rfl⟩

theorem ask_of_working {α : Type} {request : Request} {world : Rehearsal}
    (working : world.faults.lookup request = none) (question : Catalog -> α) :
    world.askCatalog request (fun catalog => (.ok (question catalog), catalog)) =
      (.ok (question world.catalog), world) := by
  obtain ⟨answer, asked, answered⟩ := ask_cases request question world
  rw [asked, answered working]

/-- A request to the catalog changes the catalog only. -/
theorem catalog_askCatalog {α : Type} (request : Request) (ask : Catalog -> Reply Catalog α)
    (world : Rehearsal) :
    (world.askCatalog request ask).2 =
      { world with catalog := (world.askCatalog request ask).2.catalog } := by
  rcases askCatalog_cases request ask world with ⟨cause, refused⟩ | answered
  · rw [refused]
  · rw [answered]

/-- An answer to the storing of a contact is a fault, or it is that of the catalog. -/
theorem storeContact_cases {contact : Contact} {world : Rehearsal} {reply : Reply Rehearsal Contact}
    (answered : storeContact contact world = some reply) :
    (∃ cause, reply = (.error cause, world)) ∨
      ∃ answer catalog, world.catalog.upsertContact contact = some (answer, catalog) ∧
        reply = (answer, { world with catalog }) := by
  unfold storeContact at answered
  split at answered
  · rename_i cause _
    cases answered
    exact .inl ⟨cause, rfl⟩
  · obtain ⟨⟨answer, catalog⟩, upserted, rfl⟩ := Option.map_eq_some_iff.mp answered
    exact .inr ⟨answer, catalog, upserted, rfl⟩

/-- The recording of an event changes the events only. -/
theorem events_record (event : Event) (users : List UserId) (world : Rehearsal) :
    (record event users world).2 =
      { world with events := (record event users world).2.events } := by
  unfold record Faults.answer
  cases world.faults.lookup .record with
  | some cause => rfl
  | none => cases world.events <;> rfl

/-- The sending of a mail changes the mails only, and it changes nothing if it is refused. -/
theorem mails_send (project : Project) (header : MailHeader) (template : MailTemplate)
    (world : Rehearsal) :
    (send project header template world).2 =
      { world with mails := (send project header template world).2.mails } := by
  unfold send Faults.answer
  cases world.faults.lookup .send with
  | some cause => rfl
  | none => cases world.mails <;> rfl

theorem send_refused {project : Project} {header : MailHeader} {template : MailTemplate}
    {world : Rehearsal} {cause : ServiceError}
    (refused : (send project header template world).1 = .error cause) :
    (send project header template world).2 = world := by
  unfold send Faults.answer at refused ⊢
  cases failing : world.faults.lookup .send with
  | some cause => rfl
  | none =>
    rw [failing] at refused
    cases desk : world.mails <;> simp [desk] at refused

/-- The handing over of a continuation changes the jobs and their number only. -/
theorem jobs_schedule (runAt : Instant) (continuation : Continuation) (world : Rehearsal) :
    (schedule runAt continuation world).2 =
      { world with
        jobs := (schedule runAt continuation world).2.jobs
        jobCount := (schedule runAt continuation world).2.jobCount } := by
  unfold schedule Faults.answer
  cases world.faults.lookup .schedule with
  | some cause => rfl
  | none =>
    cases world.jobs with
    | queue queue maxAttempts => rfl
    | notes jobs refuseNext => cases refuseNext <;> rfl

/-- What holds of a rehearsal and one with another catalog, other events or other mails, and of a
rehearsal and one that has given out an id, holds before and after all requests but those that hand
over. -/
theorem services_carries (lifetime : Span) {Related : Rehearsal -> Rehearsal -> Prop}
    (trans : forall {first second third : Rehearsal}, Related first second ->
      Related second third -> Related first third)
    (changes : forall world catalog events mails,
      Related world { world with catalog, events, mails })
    (fresh : forall world, Related world (freshId world).2) :
    (services lifetime).Carries Related := by
  have asked {α : Type} (request : Request) (ask : Catalog -> Reply Catalog α)
      (world : Rehearsal) : Related world (world.askCatalog request ask).2 := by
    rw [catalog_askCatalog]
    exact changes world _ world.events world.mails
  exact {
    refl := fun world => changes world world.catalog world.events world.mails
    trans := trans
    freshId := fresh
    findProject := fun _ => asked _ _
    hasTags := fun _ _ _ => asked _ _
    findTemplate := fun _ => asked _ _
    record := fun event users world => by
      change Related world (record event users world).2
      rw [events_record]
      exact changes world world.catalog _ world.mails
    send := fun project header template world => by
      change Related world (send project header template world).2
      rw [mails_send]
      exact changes world world.catalog world.events _
    storeContact := fun contact world reply answered => by
      rcases storeContact_cases answered with ⟨cause, rfl⟩ | ⟨answer, catalog, -, rfl⟩
      · exact changes world world.catalog world.events world.mails
      · exact changes world catalog world.events world.mails
    removeContact := fun project id =>
      asked .removeContact (fun catalog => catalog.removeContact project id)
    setTags := fun id included excluded =>
      asked .setTags (fun catalog => catalog.setTags id included excluded) }

end Outreach.Rehearsal
