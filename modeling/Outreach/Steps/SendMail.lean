import Outreach.Run.Activity
import Outreach.Run.Services

/-!
# Mail to the contact

A template of the project is sent to the contact of the run. An invitation in the properties of
the run names the sender and adds to what is filled in.
-/

namespace Outreach.Steps

variable {σ : Type}

/-- The header of the mails of a run to its contact. -/
def mailHeader (context : Context) (contact : Contact) : MailHeader :=
  .compose ⟨contact.email, contact.name⟩ (context.property? Invitation.property Invitation.decode)

/-- Send a template to the contact. -/
def sendMail (services : Services σ) : Step σ := fun context world =>
  match context.contact with
  | none => .finish .failed context world
  | some contact =>
    if !context.hasLiveContact then .finish .failed context world
    else
      context.configured world (fun configuration =>
        match configuration with
        | .sendMail templateId =>
          .ofReply (services.findTemplate templateId world) context (fun template world =>
            match template with
            | none => .finish .failed context world
            | some template =>
              .ofReply (services.findProject context.project.id world) context
                (fun project world =>
                  match project with
                  | none => .finish .failed context world
                  | some project =>
                    .ofReply
                      (services.send project (mailHeader context contact) template world)
                      context (fun _ world => .finish .success context world)))
        | _ => .finish .failed context world)

end Outreach.Steps
