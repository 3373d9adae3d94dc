import Mathlib.Data.List.Induction
import Outreach.Proofs.Tree.Validity

/-!
# Which fault of a tree is told

The check of a tree tells one fault. `Place.Breaks` says of every place of a tree, without the
check, which rules are broken there and by which fault that is told. The check goes from place to
place in preorder (`check_eq_foldlM`), so it tells a fault of the first place at which a rule is
broken, with one exception: at every action it looks at the links of all children at once, from the
last one to the first. A misnamed child is told before anything that is wrong with its elder
siblings and with what is below them: `diagnosed`, `not_firstTold`.
-/

namespace Outreach

/-- The action that a fault names. -/
def TreeFault.actionId : TreeFault -> ActionId
  | .duplicateId id => id
  | .brokenParentLink id _ _ => id
  | .foreignProject id _ _ => id
  | .invalidConfiguration id _ => id
  | .tooDeep id _ => id

namespace Action

/-- Where an action stands in a tree. -/
structure Place where
  /-- The id of the action that holds it; the root is held by none. -/
  holder : Option ActionId
  /-- The number of levels below the root. -/
  depth : Nat
  action : Action

/-- Every place of a tree in preorder, if the root of the tree stands below a holder at a depth. -/
def places (holder : Option ActionId) (depth : Nat) : Action -> List Place
  | ⟨id, parentId, projectId, kind, enabled, modifiedAt, name, options, children⟩ =>
    ⟨holder, depth,
      ⟨id, parentId, projectId, kind, enabled, modifiedAt, name, options, children⟩⟩ ::
      placesIn (some id) (depth + 1) children
where
  /-- Every place of a list of trees in preorder. -/
  placesIn (holder : Option ActionId) (depth : Nat) : List Action -> List Place
    | [] => []
    | action :: rest => places holder depth action ++ placesIn holder depth rest

/-- Every child names an action as its parent. -/
def Linked (action : Action) : Prop := ∀ child ∈ action.children, child.parentId = some action.id

/-- A rule is broken at a place, with the places before it in preorder, and a fault tells it. -/
inductive Place.Breaks (project : ProjectId) (maxDepth : Nat) (before : List Place)
    (place : Place) : TreeFault -> Prop where
  /-- The id has occurred before. -/
  | repeated {other : Place} (earlier : other ∈ before) (same : other.action.id = place.action.id) :
      Breaks project maxDepth before place (.duplicateId place.action.id)
  /-- The action does not name the one that holds it as its parent. -/
  | misnamed {holder : ActionId} (held : place.holder = some holder)
      (other : place.action.parentId ≠ some holder) :
      Breaks project maxDepth before place
        (.brokenParentLink place.action.id holder place.action.parentId)
  /-- The action is too far below the root. -/
  | tooDeep (deep : maxDepth < place.depth) :
      Breaks project maxDepth before place (.tooDeep place.action.id maxDepth)
  /-- The action belongs to another project. -/
  | foreign (other : place.action.projectId ≠ project) :
      Breaks project maxDepth before place
        (.foreignProject place.action.id place.action.projectId project)
  /-- The options of the action say no configuration. -/
  | unconfigured {cause : ConfigurationError}
      (refused : place.action.configuration = .error cause) :
      Breaks project maxDepth before place (.invalidConfiguration place.action.id cause)

/-- A fault names the action at whose place the rule is broken. -/
theorem Place.Breaks.actionId_eq {project : ProjectId} {maxDepth : Nat} {before : List Place}
    {place : Place} {fault : TreeFault} (breaks : place.Breaks project maxDepth before fault) :
    fault.actionId = place.action.id := by
  cases breaks <;> rfl

/-- At least one rule is broken somewhere in a tree. -/
def Broken (tree : Action) (maxDepth : Nat) : Prop :=
  ∃ before place after fault, tree.places none 0 = before ++ place :: after ∧
    place.Breaks tree.projectId maxDepth before fault

/-- The first place in preorder at which any rule is broken. -/
structure FirstBroken (tree : Action) (maxDepth : Nat) (before : List Place) (place : Place) :
    Prop where
  stands : ∃ after, tree.places none 0 = before ++ place :: after
  broken : ∃ fault, place.Breaks tree.projectId maxDepth before fault
  /-- No rule is broken before. -/
  clean : forall earlier other later fault, before = earlier ++ other :: later ->
    ¬ other.Breaks tree.projectId maxDepth earlier fault

/-- The fault of the first of several actions that has a misnamed child: the last of its children
that is. -/
inductive FirstMisnamed (places : List Place) : TreeFault -> Prop where
  | link {earlier later : List Place} {holder : Place} {elder younger : List Action}
      {child : Action}
      (stands : places = earlier ++ holder :: later)
      (linked : ∀ other ∈ earlier, other.action.Linked)
      (children : holder.action.children = elder ++ child :: younger)
      (misnamed : child.parentId ≠ some holder.action.id)
      (named : ∀ sibling ∈ younger, sibling.parentId = some holder.action.id) :
      FirstMisnamed places (.brokenParentLink child.id holder.action.id child.parentId)

/-- An earlier action holds the one at a place. -/
def Place.Held (before : List Place) (place : Place) : Prop :=
  ∃ other ∈ before, place.holder = some other.action.id ∧ place.action ∈ other.action.children

section Places

mutual

/-- Every place but that of the root is one of a child of an earlier action. -/
theorem held_of_places {holder : Option ActionId} {depth : Nat} :
    forall (tree : Action) {before after : List Place} {place : Place},
      tree.places holder depth = before ++ place :: after ->
        (place.holder = holder ∧ place.action = tree) ∨ place.Held before
  | ⟨id, parentId, projectId, kind, enabled, modifiedAt, name, options, children⟩, before, after,
      place, stands => by
    rw [places] at stands
    cases before with
    | nil =>
      cases stands
      exact .inl ⟨rfl, rfl⟩
    | cons first rest =>
      obtain ⟨rfl, deeper⟩ := List.cons.inj stands
      rcases held_of_placesIn children deeper with ⟨held, member⟩ | ⟨other, earlier, held, member⟩
      · exact .inr ⟨_, List.mem_cons_self, held, member⟩
      · exact .inr ⟨other, List.mem_cons_of_mem _ earlier, held, member⟩

theorem held_of_placesIn {holder : Option ActionId} {depth : Nat} :
    forall (trees : List Action) {before after : List Place} {place : Place},
      places.placesIn holder depth trees = before ++ place :: after ->
        (place.holder = holder ∧ place.action ∈ trees) ∨ place.Held before
  | [], before, after, place, stands => by simp [places.placesIn] at stands
  | tree :: rest, before, after, place, stands => by
    rw [places.placesIn, List.append_eq_append_iff] at stands
    -- The place stands behind the first tree, or within it.
    rcases stands with ⟨skipped, rfl, later⟩ | ⟨within, here, later⟩
    · rcases held_of_placesIn rest later with ⟨held, member⟩ | ⟨other, earlier, held, member⟩
      · exact .inl ⟨held, List.mem_cons_of_mem _ member⟩
      · exact .inr ⟨other, List.mem_append_right _ earlier, held, member⟩
    · cases within with
      | nil =>
        have next : places.placesIn holder depth rest = [] ++ place :: after := later.symm
        rcases held_of_placesIn rest next with ⟨held, member⟩ | ⟨other, earlier, -⟩
        · exact .inl ⟨held, List.mem_cons_of_mem _ member⟩
        · cases earlier
      | cons first behind =>
        obtain ⟨rfl, -⟩ := List.cons.inj later
        rcases held_of_places tree here with ⟨held, rfl⟩ | below
        · exact .inl ⟨held, List.mem_cons_self⟩
        · exact .inr below

end

/-- If a rule is broken, there is a first place at which one is. -/
theorem Broken.exists_first {tree : Action} {maxDepth : Nat} (broken : tree.Broken maxDepth) :
    ∃ before place, tree.FirstBroken maxDepth before place := by
  obtain ⟨before, place, after, fault, stands, breaks⟩ := broken
  induction size : before.length using Nat.strongRecOn
    generalizing before place after fault with
  | ind count ih =>
    by_cases clean : forall earlier other later fault, before = earlier ++ other :: later ->
        ¬ other.Breaks tree.projectId maxDepth earlier fault
    · exact ⟨before, place, ⟨after, stands⟩, ⟨fault, breaks⟩, clean⟩
    · push Not at clean
      obtain ⟨earlier, other, later, sooner, rfl, breaksSooner⟩ := clean
      have shorter : earlier.length < count := by
        rw [← size, List.length_append, List.length_cons]
        omega
      exact ih _ shorter earlier other (later ++ place :: after) sooner (by simp [stands])
        breaksSooner rfl

end Places

section Passing

variable {project : ProjectId} {maxDepth : Nat}

/-- The check of a single place, with the ids seen before it. -/
def Place.pass (project : ProjectId) (maxDepth : Nat) (seen : List ActionId) (place : Place) :
    Except TreeFault (List ActionId) :=
  match place.action.ownFault? project maxDepth seen place.depth with
  | some fault => .error fault
  | none =>
    match place.action.brokenLink? with
    | some fault => .error fault
    | none => .ok (place.action.id :: seen)

mutual

/-- The check of a tree goes from place to place, whoever holds the tree. -/
theorem check_eq_foldlM (holder : Option ActionId) :
    forall (tree : Action) (seen : List ActionId) (depth : Nat),
      check project maxDepth seen depth tree =
        (tree.places holder depth).foldlM (Place.pass project maxDepth) seen
  | ⟨id, parentId, projectId, kind, enabled, modifiedAt, name, options, children⟩, seen, depth => by
    rw [check, places, List.foldlM_cons, Place.pass]
    dsimp only
    generalize ownFault? project maxDepth seen depth
      ⟨id, parentId, projectId, kind, enabled, modifiedAt, name, options, children⟩ = own
    generalize brokenLink?
      ⟨id, parentId, projectId, kind, enabled, modifiedAt, name, options, children⟩ = link
    cases own with
    | some fault => rfl
    | none =>
      cases link with
      | some fault => rfl
      | none => exact checks_eq_foldlM (some id) children (id :: seen) (depth + 1)

theorem checks_eq_foldlM (holder : Option ActionId) :
    forall (trees : List Action) (seen : List ActionId) (depth : Nat),
      check.checks project maxDepth seen depth trees =
        (places.placesIn holder depth trees).foldlM (Place.pass project maxDepth) seen
  | [], seen, depth => rfl
  | tree :: rest, seen, depth => by
    rw [check.checks, places.placesIn, List.foldlM_append, check_eq_foldlM holder tree]
    cases (tree.places holder depth).foldlM (Place.pass project maxDepth) seen with
    | error fault => rfl
    | ok between => exact checks_eq_foldlM holder rest between depth

end

/-- The ids that have been seen once places have been passed, the latest first. -/
def seenIds (before : List Place) : List ActionId :=
  (before.map (fun place => place.action.id)).reverse

variable {before : List Place} {place : Place} {fault : TreeFault}

theorem mem_seenIds {id : ActionId} :
    id ∈ seenIds before ↔ ∃ other ∈ before, other.action.id = id := by
  simp [seenIds]

/-- What the check finds wrong with an action itself is a broken rule. -/
theorem breaks_of_ownFault?
    (found : place.action.ownFault? project maxDepth (seenIds before) place.depth = some fault) :
    place.Breaks project maxDepth before fault := by
  unfold ownFault? at found
  split at found
  · rename_i known
    obtain ⟨other, earlier, same⟩ := mem_seenIds.mp (List.contains_iff_mem.mp known)
    cases found
    exact .repeated earlier same
  · split at found
    · rename_i deep
      cases found
      exact .tooDeep deep
    · split at found
      · rename_i apart
        cases found
        exact .foreign apart
      · split at found
        · rename_i cause refused
          cases found
          exact .unconfigured refused
        · cases found

/-- Where the action that holds a place is linked with its children, a broken rule is found with
the action itself. -/
theorem exists_ownFault? (breaks : place.Breaks project maxDepth before fault)
    (named : forall holder, place.holder = some holder -> place.action.parentId = some holder) :
    ∃ own, place.action.ownFault? project maxDepth (seenIds before) place.depth = some own := by
  refine Option.ne_none_iff_exists'.mp (fun none => ?_)
  obtain ⟨fresh, shallow, together, configuration, configured⟩ := ownFault?_eq_none_iff.mp none
  cases breaks with
  | repeated earlier same => exact fresh (mem_seenIds.mpr ⟨_, earlier, same⟩)
  | misnamed held other => exact other (named _ held)
  | tooDeep deep => exact absurd shallow (Nat.not_le.mpr deep)
  | foreign other => exact other together
  | unconfigured refused => exact nomatch refused.symm.trans configured

/-- A place at which no rule is broken has nothing wrong of itself. -/
theorem ownFault?_of_clean (clean : forall fault, ¬ place.Breaks project maxDepth before fault) :
    place.action.ownFault? project maxDepth (seenIds before) place.depth = none := by
  cases own : place.action.ownFault? project maxDepth (seenIds before) place.depth with
  | none => rfl
  | some fault => exact absurd (breaks_of_ownFault? own) (clean fault)

/-- The last misnamed child of an action is found. -/
theorem brokenLink?_eq_some {action : Action} (found : action.brokenLink? = some fault) :
    ∃ elder child younger, action.children = elder ++ child :: younger ∧
      child.parentId ≠ some action.id ∧
      (∀ sibling ∈ younger, sibling.parentId = some action.id) ∧
      fault = .brokenParentLink child.id action.id child.parentId := by
  obtain ⟨child, isChild, rfl⟩ := Option.map_eq_some_iff.mp found
  obtain ⟨misnamed, younger, elder, listed, named⟩ := List.find?_eq_some_iff_append.mp isChild
  refine ⟨elder.reverse, child, younger.reverse, ?_, by simpa using misnamed, ?_, rfl⟩
  · rw [← List.reverse_reverse action.children, listed]
    simp
  · intro sibling member
    simpa using named sibling (List.mem_reverse.mp member)

/-- An action with which nothing is wrong and whose children are linked is passed. -/
theorem Place.pass_eq_ok (clean : forall fault, ¬ place.Breaks project maxDepth before fault)
    (linked : place.action.Linked) :
    place.pass project maxDepth (seenIds before) = .ok (seenIds (before ++ [place])) := by
  have link : place.action.brokenLink? = none := brokenLink?_eq_none_iff.mpr linked
  rw [Place.pass, ownFault?_of_clean clean, link]
  simp [seenIds]

/-- Places at which no rule is broken and whose children are linked are passed. -/
theorem foldlM_pass
    (clean : forall earlier other later fault, before = earlier ++ other :: later ->
      ¬ other.Breaks project maxDepth earlier fault)
    (linked : ∀ other ∈ before, other.action.Linked) :
    before.foldlM (Place.pass project maxDepth) [] = .ok (seenIds before) := by
  induction before using List.reverseRecOn with
  | nil => rfl
  | append_singleton before place ih =>
    have passed := ih
      (fun earlier other later fault split => clean earlier other (later ++ [place]) fault
        (by simp [split]))
      (fun other earlier => linked other (List.mem_append_left _ earlier))
    have here : place.pass project maxDepth (seenIds before) = .ok (seenIds (before ++ [place])) :=
      Place.pass_eq_ok (fun fault => clean before place [] fault rfl)
        (linked place (List.mem_append_right _ (List.mem_singleton_self place)))
    rw [List.foldlM_append, passed]
    simp [here, bind, Except.bind, pure, Except.pure]

end Passing

section Telling

variable {tree : Action} {maxDepth : Nat} {before after : List Place} {place : Place}
  {fault : TreeFault}

/-- The check tells what it finds wrong at the first place that it does not pass. -/
theorem validate_eq_error (stands : tree.places none 0 = before ++ place :: after)
    (clean : forall earlier other later fault, before = earlier ++ other :: later ->
      ¬ other.Breaks tree.projectId maxDepth earlier fault)
    (linked : ∀ other ∈ before, other.action.Linked)
    (failed : place.pass tree.projectId maxDepth (seenIds before) = .error fault) :
    tree.validate maxDepth = .error fault := by
  rw [validate, check_eq_foldlM none, stands, List.foldlM_append, foldlM_pass clean linked]
  simp [failed, bind, Except.bind, Except.map]

/-- If the actions before it are linked with their children, a fault of the first place at which a
rule is broken is told. -/
theorem FirstBroken.told (first : tree.FirstBroken maxDepth before place)
    (linked : ∀ other ∈ before, other.action.Linked) :
    ∃ fault, tree.validate maxDepth = .error fault ∧
      place.Breaks tree.projectId maxDepth before fault := by
  obtain ⟨after, stands⟩ := first.stands
  obtain ⟨broken, breaks⟩ := first.broken
  have named : forall holder, place.holder = some holder ->
      place.action.parentId = some holder := by
    intro holder held
    rcases held_of_places tree stands with ⟨isRoot, -⟩ | ⟨other, earlier, isHolder, member⟩
    · exact nomatch isRoot.symm.trans held
    · exact (linked other earlier _ member).trans (isHolder.symm.trans held)
  obtain ⟨fault, own⟩ := exists_ownFault? breaks named
  have failed : place.pass tree.projectId maxDepth (seenIds before) = .error fault := by
    rw [Place.pass, own]
  exact ⟨fault, validate_eq_error stands first.clean linked failed, breaks_of_ownFault? own⟩

/-- If one of the actions before it has a misnamed child, that is told. -/
theorem FirstBroken.misnamed (first : tree.FirstBroken maxDepth before place)
    (unlinked : ¬ ∀ other ∈ before, other.action.Linked) :
    ∃ fault, tree.validate maxDepth = .error fault ∧ FirstMisnamed before fault := by
  obtain ⟨after, stands⟩ := first.stands
  have found : (before.find? (fun other => other.action.brokenLink?.isSome)).isSome = true := by
    rw [List.find?_isSome]
    push Not at unlinked
    obtain ⟨other, earlier, broken⟩ := unlinked
    exact ⟨other, earlier, Option.isSome_iff_ne_none.mpr (mt brokenLink?_eq_none_iff.mp broken)⟩
  obtain ⟨holder, isFirst⟩ := Option.isSome_iff_exists.mp found
  obtain ⟨hasLink, earlier, later, rfl, linked⟩ := List.find?_eq_some_iff_append.mp isFirst
  obtain ⟨fault, link⟩ := Option.isSome_iff_exists.mp hasLink
  have linkedBefore : ∀ other ∈ earlier, other.action.Linked := fun other member =>
    brokenLink?_eq_none_iff.mp (by simpa using linked other member)
  have failed : holder.pass tree.projectId maxDepth (seenIds earlier) = .error fault := by
    have own := ownFault?_of_clean (fun fault => first.clean earlier holder later fault rfl)
    rw [Place.pass, own, link]
  have told : tree.validate maxDepth = .error fault := by
    have here : tree.places none 0 = earlier ++ holder :: (later ++ place :: after) := by
      simp [stands]
    refine validate_eq_error here (fun start other rest broken split => ?_) linkedBefore failed
    exact first.clean start other (rest ++ holder :: later) broken (by simp [split])
  obtain ⟨elder, child, younger, children, misnamed, named, rfl⟩ := brokenLink?_eq_some link
  exact ⟨_, told, .link rfl linkedBefore children misnamed named⟩

end Telling

/-- A tree at which a rule is broken anywhere is refused. Told is a rule that is broken at the first
such place in preorder, and its action is named, unless an action before that place has a misnamed
child. The fault is then that of the first action that has one, for the last such child. -/
theorem diagnosed {tree : Action} {maxDepth : Nat} (broken : tree.Broken maxDepth) :
    ∃ before place fault, tree.FirstBroken maxDepth before place ∧
      tree.validate maxDepth = .error fault ∧
      ((∀ other ∈ before, other.action.Linked) ∧
          place.Breaks tree.projectId maxDepth before fault ∧ fault.actionId = place.action.id ∨
        FirstMisnamed before fault) := by
  obtain ⟨before, place, first⟩ := broken.exists_first
  by_cases linked : ∀ other ∈ before, other.action.Linked
  · obtain ⟨fault, told, breaks⟩ := first.told linked
    exact ⟨before, place, fault, first, told, .inl ⟨linked, breaks, breaks.actionId_eq⟩⟩
  · obtain ⟨fault, told, misnamed⟩ := first.misnamed linked
    exact ⟨before, place, fault, first, told, .inr misnamed⟩

/-- An action with two children. -/
def family (elder younger : Action) : Action :=
  { Action.new 1 1 .sequence "" .epoch with children := [elder, younger] }

/-- A child that names an action that does not hold it. -/
def stray (id : ActionId) : Action := { Action.new id 1 .control "" .epoch with parentId := some 9 }

/-- A child that belongs to another project. -/
def lent (id : ActionId) : Action := { Action.new id 2 .control "" .epoch with parentId := some 1 }

/-- If a rule is broken at the elder child, that is the first one. -/
theorem family_firstBroken {elder younger : Action} {fault : TreeFault}
    (breaks : Place.Breaks 1 64 [⟨none, 0, family elder younger⟩] ⟨some 1, 1, elder⟩ fault) :
    (family elder younger).FirstBroken 64 [⟨none, 0, family elder younger⟩] ⟨some 1, 1, elder⟩ where
  stands := by
    obtain ⟨_, _, _, _, _, _, _, _, children⟩ := elder
    exact ⟨_, rfl⟩
  broken := ⟨fault, breaks⟩
  clean := by
    intro earlier other later fault split breaks
    cases earlier with
    | cons first rest => simp at split
    | nil =>
      obtain ⟨rfl, -⟩ := List.cons.inj split
      cases breaks with
      | repeated earlier => cases earlier
      | misnamed held => cases held
      | tooDeep deep => exact absurd deep (Nat.not_lt_zero 64)
      | foreign other => exact other rfl
      | unconfigured refused => cases refused

theorem diagnosed_strays :
    (family (stray 2) (stray 3)).Broken 64 ∧
      ∃ before place fault, (family (stray 2) (stray 3)).FirstBroken 64 before place ∧
        (family (stray 2) (stray 3)).validate 64 = .error fault ∧
        ((∀ other ∈ before, other.action.Linked) ∧ place.Breaks 1 64 before fault ∧
            fault.actionId = place.action.id ∨
          FirstMisnamed before fault) := by
  have first : (family (stray 2) (stray 3)).FirstBroken 64 _ ⟨some 1, 1, stray 2⟩ :=
    family_firstBroken (.misnamed rfl (by decide))
  obtain ⟨after, stands⟩ := first.stands
  obtain ⟨fault, breaks⟩ := first.broken
  have broken : (family (stray 2) (stray 3)).Broken 64 := ⟨_, _, after, fault, stands, breaks⟩
  exact ⟨broken, diagnosed broken⟩

/-- The fault that is told of a tree names the action of the first place at which a rule is
broken. -/
def FirstTold (tree : Action) (maxDepth : Nat) : Prop :=
  forall before place, tree.FirstBroken maxDepth before place ->
    ∃ fault, tree.validate maxDepth = .error fault ∧ fault.actionId = place.action.id

/-- Of two misnamed children the younger one is told, and it is told before what is wrong with its
elder sibling. -/
theorem not_firstTold :
    ¬ (family (stray 2) (stray 3)).FirstTold 64 ∧ ¬ (family (lent 2) (stray 3)).FirstTold 64 := by
  constructor
  · intro law
    obtain ⟨fault, told, named⟩ := law _ _ (family_firstBroken (.misnamed rfl (by decide)))
    cases told
    exact absurd named (by decide)
  · intro law
    obtain ⟨fault, told, named⟩ := law _ _ (family_firstBroken (.foreign (by decide)))
    cases told
    exact absurd named (by decide)

end Action

end Outreach
