import Outreach.Proofs.Run.Ending

/-!
# What a step does

Of all that the steps ask their services for, four requests matter to what comes later: a contact is
stored, deleted or tagged, or a continuation is handed over. A step makes one of them, and says in the
context of its run what came of it, or it makes none and leaves the contact of its run alone. In
between it may make others, which are not followed one by one: what is known of the surroundings
before and after such requests is known of the whole step. This is `Conduct`; it is read off how the
step ends (`Ending.conduct`), for the steps of all kinds (`conduct_forKind`).
-/

namespace Outreach

variable {σ : Type}

/-- The requests that matter to no contact and hand over nothing relate the surroundings before and
after them, and so do requests about contacts that are refused. -/
structure Services.Keeps (services : Services σ) (Related : σ -> σ -> Prop) : Prop where
  refl : forall world, Related world world
  trans : forall {first second third : σ}, Related first second -> Related second third ->
    Related first third
  freshId : forall world, Related world (services.freshId world).2
  findProject : forall id world, Related world (services.findProject id world).2
  hasTags : forall id included excluded world,
    Related world (services.hasTags id included excluded world).2
  findTemplate : forall id world, Related world (services.findTemplate id world).2
  record : forall event users world, Related world (services.record event users world).2
  send : forall project header template world,
    Related world (services.send project header template world).2
  storeContact : forall contact world cause after,
    services.storeContact contact world = some (.error cause, after) -> Related world after
  removeContact : forall project id world cause,
    (services.removeContact project id world).1 = .error cause ->
      Related world (services.removeContact project id world).2
  setTags : forall id included excluded world cause,
    (services.setTags id included excluded world).1 = .error cause ->
      Related world (services.setTags id included excluded world).2

/-- What is known of requests whether they are accepted or not is known of those that are not. -/
theorem Services.Keeps.spares {services : Services σ} {Related : σ -> σ -> Prop}
    (keeps : services.Keeps Related) : services.Spares Related where
  refl := keeps.refl
  trans := keeps.trans
  findProject := keeps.findProject
  hasTags := keeps.hasTags
  findTemplate := keeps.findTemplate
  record := keeps.record
  storeContact := keeps.storeContact
  removeContact := keeps.removeContact
  setTags := keeps.setTags
  send project header template world _ _ := keeps.send project header template world

/-- All requests but those that hand over relate the surroundings before and after them, whether they
are accepted or not. -/
structure Services.Carries (services : Services σ) (Related : σ -> σ -> Prop) : Prop where
  refl : forall world, Related world world
  trans : forall {first second third : σ}, Related first second -> Related second third ->
    Related first third
  freshId : forall world, Related world (services.freshId world).2
  findProject : forall id world, Related world (services.findProject id world).2
  hasTags : forall id included excluded world,
    Related world (services.hasTags id included excluded world).2
  findTemplate : forall id world, Related world (services.findTemplate id world).2
  record : forall event users world, Related world (services.record event users world).2
  send : forall project header template world,
    Related world (services.send project header template world).2
  storeContact : forall contact world reply, services.storeContact contact world = some reply ->
    Related world reply.2
  removeContact : forall project id world,
    Related world (services.removeContact project id world).2
  setTags : forall id included excluded world,
    Related world (services.setTags id included excluded world).2

theorem Services.Carries.keeps {services : Services σ} {Related : σ -> σ -> Prop}
    (carries : services.Carries Related) : services.Keeps Related where
  refl := carries.refl
  trans := carries.trans
  freshId := carries.freshId
  findProject := carries.findProject
  hasTags := carries.hasTags
  findTemplate := carries.findTemplate
  record := carries.record
  send := carries.send
  storeContact contact world _ _ refused := carries.storeContact contact world _ refused
  removeContact project id world _ _ := carries.removeContact project id world
  setTags id included excluded world _ _ := carries.setTags id included excluded world

namespace Steps

/-- What a step does to the contact of its run and asks of its services. -/
inductive Act (services : Services σ) (Related : σ -> σ -> Prop) (context : Context) (world : σ)
    (context' : Context) (world' : σ) : Prop where
  /-- Nothing that matters. -/
  | nothing (held : context'.contact = context.contact)
      (state : context'.contactState = context.contactState) (related : Related world world')
  /-- The contact is stored, and the stored one takes its place. -/
  | stored (contact stored : Contact) (given : context.contact = some contact)
      (accepted : services.storeContact { contact with projectId := context.project.id } world =
        some (.ok stored, world'))
      (held : context'.contact = some stored) (alive : context'.contactState ≠ .deleted)
  /-- The contact is deleted. -/
  | removed (id : ContactId) (live : context.liveContactId = some id)
      (accepted : (services.removeContact context.project.id id world).1 = .ok ())
      (left : world' = (services.removeContact context.project.id id world).2)
      (held : context'.contact = context.contact) (gone : context'.contactState = .deleted)
  /-- The tags of the contact are changed, and the changed one takes its place. -/
  | tagged (id : ContactId) (included excluded : List TagId) (updated : Contact)
      (live : context.liveContactId = some id)
      (accepted : (services.setTags id included excluded world).1 = .ok updated)
      (left : world' = (services.setTags id included excluded world).2)
      (held : context'.contact = some updated) (alive : context'.contactState ≠ .deleted)
  /-- The actions below are handed over, or that is refused. -/
  | deferred (runAt : Instant) (same : context' = context)
      (left : world' = (services.schedule runAt (continuationOf context) world).2)

/-- What is known of the step of a kind. -/
structure Conduct (services : Services σ) (Related : σ -> σ -> Prop) (kind : ActionKind)
    (context : Context) (world : σ) (result : StepResult σ) : Prop where
  act : Act services Related context world result.context result.world
  /-- The step has nothing to do with the cancellation of its run. -/
  goesOn : result.cancels = false
  /-- Only the guard before a step says that the run has been cancelled. -/
  uncancelled : result.outcome ≠ .error .cancelled
  /-- Only an authentication meets an instant out of range, and only where a contact is stored there
  may be no id left. -/
  overflows : result.outcome = .error .overflow ->
    kind = .authenticate ∨ kind = .register ∧ Exhausted services context world

variable {services : Services σ} {Related : σ -> σ -> Prop} {kind : ActionKind}
  {context : Context} {world after : σ}

theorem Conduct.finish (outcome : Outcome) (related : Related world after) :
    Conduct services Related kind context world (.finish outcome context after) :=
  ⟨.nothing rfl rfl related, rfl, nofun, nofun⟩

section Kinds

variable (keeps : services.Keeps Related)

include keeps

theorem related_visitorId (id : ContactId) :
    Related world (visitorId services context id world).2 := by
  unfold visitorId
  dsimp only
  split
  · exact keeps.refl world
  · exact keeps.freshId world

/-- What a step does can be told from how it ends. -/
theorem Ending.conduct {result : StepResult σ}
    (ending : Ending services Related kind context world result) :
    Conduct services Related kind context world result := by
  cases ending with
  | fruitless answer after nothing asked ends =>
    subst ends
    refine ⟨.nothing rfl rfl asked, rfl, ?_, ?_⟩
    · rintro rfl
      cases nothing
    · rintro rfl
      cases nothing
  | passed outcome after isKind status flow asked ends =>
    subst ends
    exact .finish outcome asked
  | mailed between after project header template isKind asked accepted ends =>
    subst ends
    have sent := keeps.send project header template between
    rw [accepted] at sent
    exact .finish .success (keeps.trans asked sent)
  | authenticated id visitor expiresAt after isKind isId identified ends =>
    subst ends
    have related : Related world (visitorId services context id world).2 :=
      related_visitorId keeps id
    rw [identified] at related
    exact ⟨.nothing rfl rfl related, rfl, nofun, nofun⟩
  | overflowed id visitor after isKind isId identified ends =>
    subst ends
    have related : Related world (visitorId services context id world).2 :=
      related_visitorId keeps id
    rw [identified] at related
    exact ⟨.nothing rfl rfl related, rfl, nofun, fun _ => .inl isKind⟩
  | registered contact stored after isKind given accepted ends =>
    subst ends
    refine ⟨.stored contact stored given accepted rfl ?_, rfl, nofun, nofun⟩
    simp only [StepResult.finish]
    split <;> decide
  | exhausted isKind exhausted ends =>
    subst ends
    exact ⟨.nothing rfl rfl (keeps.refl world), rfl, nofun, fun _ => .inr ⟨isKind, exhausted⟩⟩
  | unregistered id after isKind live accepted ends =>
    subst ends
    exact ⟨.removed id live (congrArg Prod.fst accepted) (congrArg Prod.snd accepted).symm rfl rfl,
      rfl, nofun, nofun⟩
  | tagged id included excluded updated after isKind live accepted ends =>
    subst ends
    exact ⟨.tagged id included excluded updated live (congrArg Prod.fst accepted)
      (congrArg Prod.snd accepted).symm rfl nofun, rfl, nofun, nofun⟩
  | handedOver runAt after isKind accepted ends =>
    subst ends
    exact ⟨.deferred runAt rfl (congrArg Prod.snd accepted).symm, rfl, nofun, nofun⟩
  | turnedDown runAt cause after isKind refused ends =>
    subst ends
    exact ⟨.deferred runAt rfl (congrArg Prod.snd refused).symm, rfl, nofun, nofun⟩

/-- The conduct of the steps of all kinds. -/
theorem conduct_forKind (context : Context) (world : σ) (kind : ActionKind) :
    Conduct services Related kind context world (forKind services kind context world) :=
  (ending_forKind keeps.spares context world kind).conduct keeps

end Kinds

/-- A step that hands over nothing relates the surroundings before and after it. -/
theorem Act.carried {context' : Context} {world' : σ} (carries : services.Carries Related)
    (act : Act services Related context world context' world') :
    Related world world' ∨
      ∃ runAt, world' = (services.schedule runAt (continuationOf context) world).2 := by
  cases act with
  | nothing held state related => exact .inl related
  | stored contact stored given accepted held alive =>
    exact .inl (carries.storeContact _ world _ accepted)
  | removed id live accepted left held gone =>
    exact .inl (left ▸ carries.removeContact context.project.id id world)
  | tagged id included excluded updated live accepted left held alive =>
    exact .inl (left ▸ carries.setTags id included excluded world)
  | deferred runAt same left => exact .inr ⟨runAt, left⟩

end Steps

/-- If nothing is to be known of the surroundings, any services do. -/
theorem Services.keeps_any (services : Services σ) : services.Keeps (fun _ _ => True) where
  refl _ := trivial
  trans _ _ := trivial
  freshId _ := trivial
  findProject _ _ := trivial
  hasTags _ _ _ _ := trivial
  findTemplate _ _ := trivial
  record _ _ _ := trivial
  send _ _ _ _ := trivial
  storeContact _ _ _ _ _ := trivial
  removeContact _ _ _ _ _ := trivial
  setTags _ _ _ _ _ _ := trivial

end Outreach
