import Outreach.Proofs.Collections.Keyed
import Outreach.Proofs.Run.Requests
import Outreach.Proofs.Tree.Arrivals
import Outreach.Rehearsal.Samples
import Outreach.Steps.Registry

/-!
# Mails to the contact of a run

A mail is sent to the contact of a run if that is live and everything the mail needs is there, and
then it is the only one: `posted`. Who gets it does not depend on the properties of the run. Those
may hold an invitation, or anything else under its name, and `MailHeader.Fits` says what becomes of
that.
-/

namespace Outreach

namespace MailHeader

/-- What is filled in for a name where an invitation says nothing of it. -/
def ownPlaceholder (contact : Contact) (invitation : Option Invitation) (name : String) :
    Option String :=
  if name = "contact.email" then some contact.email
  else if name = "contact.name" then contact.name
  else if name = "sender.name" then invitation.bind Invitation.senderName
  else none

/-- A header goes to a contact, with what an invitation adds to it. -/
structure Fits (header : MailHeader) (contact : Contact) (invitation : Option Invitation) :
    Prop where
  recipient : header.recipient = ⟨contact.email, contact.name⟩
  /-- The sender is whoever has sent the invitation, if it names an address. -/
  sender : header.sender = (invitation.bind Invitation.senderEmail).map
    (fun email => ⟨email, invitation.bind Invitation.senderName⟩)
  replyTo : header.replyTo = header.sender
  /-- What the invitation fills in counts before the names of the contact and of the sender. -/
  placeholders : forall name, header.placeholders.get? name =
    (invitation.bind (fun invitation => invitation.placeholders.get? name)).or
      (ownPlaceholder contact invitation name)

theorem fits_compose (contact : Contact) (invitation : Option Invitation) :
    (compose ⟨contact.email, contact.name⟩ invitation).Fits contact invitation := by
  have blank (name : String) : (Keyed.empty : Placeholders).get? name = none := rfl
  obtain ⟨id, projectId, email, ownName, tags⟩ := contact
  -- The three names are different, so none of them takes the place of another.
  cases invitation with
  | none =>
    refine ⟨rfl, rfl, rfl, fun name => ?_⟩
    cases ownName <;> simp only [compose, ownPlaceholder, Keyed.get?_insert, blank] <;> grind
  | some invitation =>
    obtain ⟨senderEmail, senderName, placeholders⟩ := invitation
    refine ⟨rfl, rfl, rfl, fun name => ?_⟩
    simp only [compose, Option.bind_some, Keyed.get?_insertAll]
    apply congrArg
    cases ownName <;> cases senderName <;>
      simp only [ownPlaceholder, Keyed.get?_insert, blank] <;> grind

end MailHeader

namespace Rehearsal

/-- A rehearsal that keeps some mails. -/
def keeping (world : Rehearsal) (mails : List SentMail) : Rehearsal :=
  { world with mails := .kept mails }

/-- A mail that is not refused is kept after those that have been sent before. -/
theorem send_kept {world : Rehearsal} {mails : List SentMail} (header : MailHeader)
    (project : Project) (template : MailTemplate) (sending : world.faults.lookup .send = none)
    (kept : world.mails = .kept mails) :
    send project header template world =
      (.ok (), world.keeping (mails ++ [⟨project.id, header, template.id⟩])) := by
  simp only [send, Faults.answer, sending, kept]
  rfl

end Rehearsal

namespace Steps

/-- Everything is there for a mail to the contact of a run: the contact is live, the options of the
action name a template, and the catalog has that and the project of the run. -/
structure Mailable (context : Context) (catalog : Catalog) (contact : Contact)
    (template : MailTemplate) (project : Project) : Prop where
  contact : context.contact = some contact
  live : context.hasLiveContact = true
  template : ∃ templateId, context.currentAction.configuration = .ok (.sendMail templateId) ∧
    catalog.template? templateId = some template
  project : catalog.project? context.project.id = some project

/-- There is at most one mail to send. -/
theorem Mailable.unique {context : Context} {catalog : Catalog} {contact other : Contact}
    {template otherTemplate : MailTemplate} {project otherProject : Project}
    (mailable : Mailable context catalog contact template project)
    (again : Mailable context catalog other otherTemplate otherProject) :
    contact = other ∧ template = otherTemplate ∧ project = otherProject := by
  obtain ⟨templateId, parsed, found⟩ := mailable.template
  obtain ⟨otherId, parsedAgain, foundAgain⟩ := again.template
  cases parsed.symm.trans parsedAgain
  exact ⟨Option.some.inj (mailable.contact.symm.trans again.contact),
    Option.some.inj (found.symm.trans foundAgain),
    Option.some.inj (mailable.project.symm.trans again.project)⟩

section Rehearsals

variable (lifetime : Span)

/-- A step that mails finishes without success, or hands its mail over. -/
theorem sendMail_cases (context : Context) {world : Rehearsal}
    (templates : world.faults.lookup .findTemplate = none)
    (projects : world.faults.lookup .findProject = none) :
    ((forall contact template project,
        ¬ Mailable context world.catalog contact template project) ∧
      ∃ outcome, outcome.isSuccess = false ∧
        sendMail (Rehearsal.services lifetime) context world = .finish outcome context world) ∨
    ∃ contact template project, Mailable context world.catalog contact template project ∧
      sendMail (Rehearsal.services lifetime) context world =
        .ofReply (Rehearsal.send project (mailHeader context contact) template world) context
          (fun _ world => .finish .success context world) := by
  have findTemplate (id : TemplateId) : (Rehearsal.services lifetime).findTemplate id world =
      (.ok (world.catalog.template? id), world) :=
    Rehearsal.ask_of_working templates (fun catalog => catalog.template? id)
  have findProject (id : ProjectId) : (Rehearsal.services lifetime).findProject id world =
      (.ok (world.catalog.project? id), world) :=
    Rehearsal.ask_of_working projects (fun catalog => catalog.project? id)
  unfold sendMail
  cases isContact : context.contact with
  | none =>
    refine .inl ⟨fun _ _ _ mailable => ?_, _, rfl, rfl⟩
    cases isContact.symm.trans mailable.contact
  | some contact =>
    by_cases live : context.hasLiveContact = true
    · simp only [live, Bool.not_true, Bool.false_eq_true, if_false, Context.configured]
      cases said : context.currentAction.configuration with
      | error cause =>
        refine .inl ⟨fun _ _ _ mailable => ?_, _, rfl, rfl⟩
        obtain ⟨_, parsed, -⟩ := mailable.template
        cases said.symm.trans parsed
      | ok configuration =>
        cases configuration with
        | sendMail templateId =>
          simp only [findTemplate, StepResult.ofReply]
          cases isTemplate : world.catalog.template? templateId with
          | none =>
            refine .inl ⟨fun _ _ _ mailable => ?_, _, rfl, rfl⟩
            obtain ⟨_, parsed, found⟩ := mailable.template
            cases said.symm.trans parsed
            cases isTemplate.symm.trans found
          | some template =>
            simp only [findProject]
            cases isProject : world.catalog.project? context.project.id with
            | none =>
              refine .inl ⟨fun _ _ _ mailable => ?_, _, rfl, rfl⟩
              cases isProject.symm.trans mailable.project
            | some project =>
              exact .inr ⟨contact, template, project,
                ⟨isContact, live, ⟨templateId, said, isTemplate⟩, isProject⟩, rfl⟩
        | _ =>
          refine .inl ⟨fun _ _ _ mailable => ?_, _, rfl, rfl⟩
          obtain ⟨_, parsed, -⟩ := mailable.template
          cases said.symm.trans parsed
    · simp only [Bool.eq_false_iff.mpr live, Bool.not_false, if_true]
      exact .inl ⟨fun _ _ _ mailable => live mailable.live, _, rfl, rfl⟩

section Answered

variable {run : Run Rehearsal} (templates : run.world.faults.lookup .findTemplate = none)
  (projects : run.world.faults.lookup .findProject = none)

include templates projects

/-- In a run that has been cancelled, or without everything for a mail, nothing happens. -/
theorem guarded_of_unmailable
    (unmailable : run.cancelled = false -> forall contact template project,
      ¬ Mailable run.context run.world.catalog contact template project) :
    let ended := (forKind (Rehearsal.services lifetime) .sendMail).guarded run
    ended.2 = run ∧ forall outcome, ended.1 = .ok outcome -> outcome.isSuccess = false := by
  obtain ⟨context, world, cancelled⟩ := run
  cases cancelled with
  | true => exact ⟨rfl, nofun⟩
  | false =>
    intro ended
    rcases sendMail_cases lifetime context templates projects with
      ⟨-, outcome, unsuccessful, ends⟩ | ⟨contact, template, project, mailable, -⟩
    · have answered : ended = (.ok outcome, ⟨context, world, false⟩) := by
        change Step.guarded (sendMail (Rehearsal.services lifetime)) _ = _
        rw [Step.guarded_of_working _ rfl, ends]
        rfl
      rw [answered]
      refine ⟨rfl, fun other same => ?_⟩
      cases same
      exact unsuccessful
    · exact absurd mailable (unmailable rfl contact template project)

/-- With everything for a mail it is sent. -/
theorem guarded_of_mailable {mails : List SentMail} {contact : Contact} {template : MailTemplate}
    {project : Project} (sending : run.world.faults.lookup .send = none)
    (kept : run.world.mails = .kept mails) (working : run.cancelled = false)
    (mailable : Mailable run.context run.world.catalog contact template project) :
    (forKind (Rehearsal.services lifetime) .sendMail).guarded run =
      (.ok .success, { run with
        world := run.world.keeping
          (mails ++ [⟨project.id, mailHeader run.context contact, template.id⟩]) }) := by
  change Step.guarded (sendMail (Rehearsal.services lifetime)) _ = _
  rw [Step.guarded_of_working _ working]
  rcases sendMail_cases lifetime run.context templates projects with
    ⟨unmailable, -⟩ | ⟨_, _, _, same, ends⟩
  · exact absurd mailable (unmailable contact template project)
  · obtain ⟨rfl, rfl, rfl⟩ := mailable.unique same
    rw [ends, Rehearsal.send_kept _ project template sending kept, working]
    rfl

end Answered

/-- Where requests are answered and mails are kept, a step that mails succeeds exactly if it begins
in a run that has not been cancelled and everything is there for its mail. Then that mail, to the
contact of the run, is the only one and the only thing that has changed. If the step does not
succeed, nothing has. -/
theorem posted {run : Run Rehearsal} {mails : List SentMail}
    (templates : run.world.faults.lookup .findTemplate = none)
    (projects : run.world.faults.lookup .findProject = none)
    (sending : run.world.faults.lookup .send = none) (kept : run.world.mails = .kept mails) :
    let ended := (forKind (Rehearsal.services lifetime) .sendMail).guarded run
    let succeeds := ∃ outcome, ended.1 = .ok outcome ∧ outcome.isSuccess = true
    (succeeds ↔ run.cancelled = false ∧ ∃ contact template project,
        Mailable run.context run.world.catalog contact template project) ∧
      (forall contact template project, run.cancelled = false ->
        Mailable run.context run.world.catalog contact template project ->
          ∃ header : MailHeader,
            header.Fits contact (run.context.property? Invitation.property Invitation.decode) ∧
              ended = (.ok .success, { run with
                world := run.world.keeping (mails ++ [⟨project.id, header, template.id⟩]) })) ∧
      (¬ succeeds -> ended.2 = run) := by
  intro ended succeeds
  by_cases ready : run.cancelled = false ∧ ∃ contact template project,
      Mailable run.context run.world.catalog contact template project
  · obtain ⟨working, contact, template, project, mailable⟩ := ready
    have ends := guarded_of_mailable lifetime templates projects sending kept working mailable
    have success : succeeds := ⟨.success, congrArg Prod.fst ends, rfl⟩
    refine ⟨⟨fun _ => ⟨working, contact, template, project, mailable⟩, fun _ => success⟩, ?_,
      fun fails => absurd success fails⟩
    intro contact template project _ mailable
    exact ⟨_, MailHeader.fits_compose contact _,
      guarded_of_mailable lifetime templates projects sending kept working mailable⟩
  · obtain ⟨unchanged, unsuccessful⟩ := guarded_of_unmailable lifetime templates projects
      (fun working contact template project mailable =>
        ready ⟨working, contact, template, project, mailable⟩)
    have fails : ¬ succeeds := by
      rintro ⟨outcome, answer, success⟩
      cases (unsuccessful outcome answer).symm.trans success
    refine ⟨⟨fun success => absurd success fails, fun given => absurd given ready⟩, ?_,
      fun _ => unchanged⟩
    intro contact template project working mailable
    exact absurd ⟨working, contact, template, project, mailable⟩ ready

end Rehearsals

namespace Invited

/-- A lead that has been stored. -/
def contact : Contact := { Sample.contact with id := some 1 }

/-- An invitation by a friend, who has a name of their own for the lead. -/
def invitation : Invitation :=
  { senderEmail := some "friend@example.com", senderName := none
    placeholders := Keyed.empty.insert "contact.name" "dear" }

/-- A run that is to mail to the lead, whom the friend has invited. -/
def run : Run Rehearsal :=
  { context := { Context.start Sample.project 40 with
      contact := some contact
      currentAction := { CurrentAction.anchor 40 with
        kind := .sendMail, options := .object [("templateId", .ofInt64 5)] }
      properties := Keyed.empty.insert Invitation.property invitation.toJson }
    world := .start .epoch
      ((Catalog.empty.addProject Sample.project).addTemplate (Sample.template 5))
    cancelled := false }

theorem mailable :
    Mailable run.context run.world.catalog contact (Sample.template 5) Sample.project where
  contact := rfl
  live := rfl
  template := ⟨5, rfl, rfl⟩
  project := rfl

theorem isInvited :
    run.context.property? Invitation.property Invitation.decode = some invitation := by rfl

end Invited

open Invited in
/-- The lead gets one mail. Answers to it go to the friend, and it has the friend's name for the
lead. -/
theorem posted_invited :
    let ended := (forKind (Rehearsal.services .zero) .sendMail).guarded run
    run.world.faults = [] ∧ run.world.mails = .kept [] ∧ run.cancelled = false ∧
      Mailable run.context run.world.catalog contact (Sample.template 5) Sample.project ∧
      ∃ header : MailHeader,
        ended = (.ok .success, { run with world := run.world.keeping [⟨1, header, 5⟩] }) ∧
          header.recipient = ⟨"lead@example.com", some "Lead"⟩ ∧
          header.replyTo = some ⟨"friend@example.com", none⟩ ∧
          header.placeholders.get? "contact.name" = some "dear" := by
  intro ended
  have kept : run.world.mails = .kept [] := rfl
  obtain ⟨-, sent, -⟩ := posted .zero rfl rfl rfl kept
  obtain ⟨header, fits, ends⟩ := sent contact (Sample.template 5) Sample.project rfl mailable
  rw [isInvited] at fits
  exact ⟨rfl, kept, rfl, mailable, header, ends, fits.recipient, fits.replyTo.trans fits.sender,
    fits.placeholders "contact.name"⟩

end Steps

end Outreach
