import ServiceGen.Proofs.Analysis.Discovery
import ServiceGen.Proofs.Extraction.Marker

/-!
What makes a declaration a service. It is a trait, the exact path of a tag asks for a kind of
service, and every member can be an operation as it stands. Such a declaration becomes a service
with all of its members, and only tag lines that are none are reported of it. Any other becomes
nothing, and it is reported why: once if it could not be a service whatever its members, else once
for each member that stands in the way and once for the declaration.
-/
namespace ServiceGen

open Analysis

/-- Whether a tag asks for one kind when none has asked for the other yet. -/
def AskedBefore {κ : Type} (asks : Tag → κ → Prop) (tags : List Tag) (kind other : κ) : Prop :=
  ∃ before tag after, tags = before ++ tag :: after ∧ asks tag kind ∧
    ∀ earlier ∈ before ++ [tag], ¬ asks earlier other

/-- Whether kinds are those that tags ask for, each once, in the order in which they are asked for
first. -/
structure Asked {κ : Type} (asks : Tag → κ → Prop) (tags : List Tag) (kinds : List κ) : Prop where
  mem_iff : ∀ kind, kind ∈ kinds ↔ ∃ tag ∈ tags, asks tag kind
  pairwise : kinds.Pairwise (AskedBefore asks tags)

section

variable {κ : Type} {asks : Tag → κ → Prop} {tags : List Tag}

/-- Of two entries of a list one stands in front of the other, or they are the same. -/
theorem mem_of_append_cons_eq {α : Type} {before after front back : List α} {a b : α}
    (h : before ++ a :: after = front ++ b :: back) : b ∈ before ∨ a ∈ front ++ [b] := by
  induction before generalizing front with
  | nil =>
    cases front with
    | nil => exact .inr (by simpa using (List.cons.inj h).1)
    | cons head rest => exact .inr (by simp [(List.cons.inj h).1])
  | cons head rest ih =>
    cases front with
    | nil => exact .inl (by simp [(List.cons.inj h).1])
    | cons other others =>
      obtain ⟨rfl, hrest⟩ := List.cons.inj h
      exact (ih hrest).imp (List.mem_cons_of_mem _) (List.mem_cons_of_mem _)

theorem AskedBefore.concat {kind other : κ} (h : AskedBefore asks tags kind other) (tag : Tag) :
    AskedBefore asks (tags ++ [tag]) kind other := by
  obtain ⟨before, first, after, rfl, hasks, hnot⟩ := h
  exact ⟨before, first, after ++ [tag], by simp, hasks, hnot⟩

theorem asked_eraseDups [DecidableEq κ] {f : Tag → Option κ}
    (hf : ∀ tag kind, f tag = some kind ↔ asks tag kind) (tags : List Tag) :
    Asked asks tags (tags.filterMap f).eraseDups := by
  have hmem : ∀ (tags : List Tag) kind, kind ∈ tags.filterMap f ↔ ∃ tag ∈ tags, asks tag kind := by
    intro tags kind
    simp only [List.mem_filterMap, hf]
  refine ⟨fun kind => List.mem_eraseDups.trans (hmem tags kind), ?_⟩
  induction tags using List.reverseRecOn with
  | nil => exact .nil
  | append_singleton tags last ih =>
    have hkept := ih.imp fun h => h.concat last
    cases hlast : f last with
    | none => simpa [hlast] using hkept
    | some kind =>
      have hconcat : (tags ++ [last]).filterMap f = tags.filterMap f ++ [kind] := by simp [hlast]
      rw [hconcat, eraseDups_concat]
      split
      · exact hkept
      · next hnew =>
        refine List.pairwise_append.mpr ⟨hkept, List.pairwise_singleton .., ?_⟩
        intro known hknown other hother
        rw [List.mem_singleton.mp hother]
        obtain ⟨tag, htag, hasks⟩ := (hmem tags known).mp (List.mem_eraseDups.mp hknown)
        obtain ⟨before, after, rfl⟩ := List.append_of_mem htag
        refine ⟨before, tag, after ++ [last], by simp, hasks, fun earlier hearlier hasked => ?_⟩
        refine hnew ((hmem _ kind).mpr ⟨earlier, ?_, hasked⟩)
        rcases List.mem_append.mp hearlier with hbefore | htag
        · exact List.mem_append_left _ hbefore
        · rw [List.mem_singleton.mp htag]
          exact List.mem_append_right _ List.mem_cons_self

/-- The first kind is what the first tag asks for that asks for any. -/
theorem Asked.first {kind : κ} {others : List κ} (h : Asked asks tags (kind :: others)) :
    ∃ before tag after, tags = before ++ tag :: after ∧ asks tag kind ∧
      ∀ earlier ∈ before, ∀ other, ¬ asks earlier other := by
  classical
  obtain ⟨asking, hasking, hasks⟩ := (h.mem_iff kind).mp List.mem_cons_self
  obtain ⟨tag, hfind⟩ := Option.isSome_iff_exists.mp
    (List.find?_isSome (p := fun tag => ∃ other, asks tag other).mpr
      ⟨asking, hasking, by simpa using ⟨kind, hasks⟩⟩)
  obtain ⟨hany, before, after, hsplit, hnone⟩ := List.find?_eq_some_iff_append.mp hfind
  obtain ⟨other, hother⟩ := of_decide_eq_true hany
  have hnone' : ∀ earlier ∈ before, ∀ other, ¬ asks earlier other := by simpa using hnone
  refine ⟨before, tag, after, hsplit, ?_, hnone'⟩
  have hmem : other ∈ kind :: others :=
    (h.mem_iff other).mpr ⟨tag, by simp [hsplit], hother⟩
  rcases List.mem_cons.mp hmem with rfl | hothers
  · exact hother
  · -- the tag would ask for the other kind before any tag asks for the first one
    obtain ⟨front, first, back, hsplit', hfirst, hnot⟩ :=
      (List.pairwise_cons.mp h.pairwise).1 other hothers
    rcases mem_of_append_cons_eq (hsplit.symm.trans hsplit') with hbefore | hfront
    · exact absurd hfirst (hnone' first hbefore kind)
    · exact absurd hother (hnot tag hfront)

end

namespace Classifier

variable (classifier : Classifier)

/-- Whether a tag asks for a kind of service, by its exact path. -/
def AsksService (tag : Tag) (kind : ServiceKind) : Prop :=
  tag.path = [classifier.marker, kind.segment]

/-- Whether a tag asks for a kind of operation, by its exact path. -/
def AsksOperation (tag : Tag) (kind : OperationKind) : Prop :=
  ∃ segment, kind.segment? = some segment ∧ tag.path = [classifier.marker, "workflow", segment]

theorem asked_serviceKinds (tags : List Tag) :
    Asked classifier.AsksService tags (classifier.serviceKinds tags) := by
  refine asked_eraseDups (fun tag kind => ?_) tags
  constructor
  · intro hfind
    simpa [AsksService, ofService, Predicate.holds, Tag.pathIs] using List.find?_some hfind
  · intro hpath
    have hpath : tag.path = [classifier.marker, kind.segment] := hpath
    cases kind <;>
      simp [ServiceKind.all, ofService, Predicate.holds, Tag.pathIs, hpath, ServiceKind.segment]

theorem asked_operationKinds (tags : List Tag) :
    Asked classifier.AsksOperation tags (classifier.operationKinds tags) := by
  refine asked_eraseDups (fun tag kind => ?_) tags
  constructor
  · intro hfind
    have hholds := List.find?_some hfind
    cases hsegment : kind.segment? with
    | none => simp [ofOperation, hsegment, Predicate.holds, Predicate.holdsOne] at hholds
    | some segment =>
      refine ⟨segment, hsegment, ?_⟩
      simpa [ofOperation, hsegment, Predicate.holds, Tag.pathIs, ServiceKind.segment] using hholds
  · rintro ⟨segment, hsegment, hpath⟩
    cases kind <;> cases hsegment <;>
      simp [OperationKind.ofWorkflow, ofOperation, OperationKind.segment?, Predicate.holds,
        Tag.pathIs, hpath, ServiceKind.segment]

end Classifier

def Member.location : Member → Location
  | .method one => one.location
  | .other _ place => place

/-- Whether a member of a trait can be an operation as it stands: a method that takes a shared
reference to its value and is neither generic nor asynchronous. -/
def Member.IsPlain : Member → Prop
  | .method one => one.receiver = .shared ∧ one.isGeneric = false ∧ one.isAsync = false
  | .other .. => False

instance : DecidablePred Member.IsPlain
  | .method one => inferInstanceAs (Decidable (one.receiver = _ ∧ one.isGeneric = _ ∧ _))
  | .other .. => isFalse id

namespace Extraction

def IsWarningAt (location : Location) (report : Report) : Prop :=
  report.severity = .warning ∧ report.location = some location

theorem isWarningAt_warning (location : Location) (message : String) :
    IsWarningAt location (warning location message) := ⟨rfl, rfl⟩

theorem unfitness?_eq_none_iff (method : Method) :
    unfitness? method = none ↔ (Member.method method).IsPlain := by
  obtain ⟨name, docs, receiver, isGeneric, isAsync, params, results, location⟩ := method
  cases receiver <;> cases isGeneric <;> cases isAsync <;> simp [unfitness?, Member.IsPlain]

theorem objection?_eq_none_iff (item : Item) (member : Member) :
    objection? item member = none ↔ member.IsPlain := by
  cases member with
  | method method => rw [objection?, Option.map_eq_none_iff, unfitness?_eq_none_iff]
  | other what location => simp [objection?, Member.IsPlain]

theorem isWarningAt_of_objection {item : Item} {member : Member} {report : Report}
    (h : objection? item member = some report) : IsWarningAt member.location report := by
  cases member with
  | method method =>
    obtain ⟨reason, -, rfl⟩ := Option.map_eq_some_iff.mp h
    exact isWarningAt_warning _ _
  | other what location =>
    obtain rfl := Option.some.inj h
    exact isWarningAt_warning _ _

/-- There is one objection to each member that cannot be an operation, in order. -/
theorem forall₂_objections (item : Item) (members : List Member) :
    List.Forall₂ IsWarningAt ((members.filter (¬ ·.IsPlain)).map Member.location)
      (members.filterMap (objection? item)) := by
  induction members with
  | nil => exact .nil
  | cons member rest ih =>
    cases hobjection : objection? item member with
    | none =>
      have hplain := (objection?_eq_none_iff item member).mp hobjection
      simpa [hobjection, hplain] using ih
    | some report =>
      have hplain : ¬ member.IsPlain := by
        rw [← objection?_eq_none_iff item, hobjection]
        exact Option.some_ne_none report
      rw [List.filter_cons_of_pos (by simpa using hplain), List.filterMap_cons_some hobjection]
      exact .cons (isWarningAt_of_objection hobjection) ih

/-- Whether a tag asks for a kind of service by its exact path. -/
def IsAsked (classifier : Classifier) (tags : List Tag) : Prop :=
  ∃ tag ∈ tags, ∃ kind, classifier.AsksService tag kind

/-- Whether an operation has the kinds that its tags ask for in a service of some kind. -/
def HasKinds (classifier : Classifier) : ServiceKind → Operation → Prop
  | .workflow, operation =>
    Asked classifier.AsksOperation operation.tags operation.declaredKinds ∧
      operation.kind = operation.declaredKinds.head?.getD .method
  | _, operation => operation.declaredKinds = [] ∧ operation.kind = .method

/-- Whether an operation of a service of some kind is made of a member of a trait. -/
def IsMadeOf (classifier : Classifier) (kind : ServiceKind) : Member → Operation → Prop
  | .method method, operation =>
    operation.name = method.name ∧ operation.params = method.params ∧
      operation.results = method.results ∧ operation.location = method.location ∧
      operation.tags = method.docs.filterMap Tag.ofLine? ∧ HasKinds classifier kind operation
  | .other .., _ => False

/-- Whether a service is what a declaration with the given tags is to become. -/
structure Embodies (classifier : Classifier) (item : Item) (given : List Tag)
    (made : Service) : Prop where
  name : made.name = item.name
  location : made.location = item.location
  tags : made.tags = given
  declaredKinds : Asked classifier.AsksService given made.declaredKinds
  kind : ∃ before tag after, given = before ++ tag :: after ∧
    classifier.AsksService tag made.kind ∧
    ∀ earlier ∈ before, ∀ kind, ¬ classifier.AsksService earlier kind
  operations : List.Forall₂ (IsMadeOf classifier made.kind) item.members made.operations

/-- The places at which the tag lines of a member are reported that are none. -/
def flaws : Member → List Location
  | .method method => (method.docs.filterMap Tag.flaw?).map fun _ => method.location
  | .other .. => []

section

variable (classifier : Classifier) (item : Item) (tags : List Tag)

theorem isAsked_iff : IsAsked classifier tags ↔ classifier.serviceKinds tags ≠ [] := by
  have hmem := (classifier.asked_serviceKinds tags).mem_iff
  constructor
  · rintro ⟨tag, htag, kind, hasks⟩
    exact List.ne_nil_of_mem ((hmem kind).mpr ⟨tag, htag, hasks⟩)
  · intro hne
    obtain ⟨kind, hkind⟩ := List.exists_mem_of_ne_nil _ hne
    obtain ⟨tag, htag, hasks⟩ := (hmem kind).mp hkind
    exact ⟨tag, htag, kind, hasks⟩

theorem objections_eq_nil_iff :
    item.members.filterMap (objection? item) = [] ↔ ∀ member ∈ item.members, member.IsPlain := by
  simp only [List.filterMap_eq_nil_iff, objection?_eq_none_iff]

theorem hasKinds_operation (kind : ServiceKind) (method : Method) :
    HasKinds classifier kind (operation classifier kind method) := by
  cases kind with
  | workflow => exact ⟨classifier.asked_operationKinds _, rfl⟩
  | service => exact ⟨rfl, rfl⟩
  | activity => exact ⟨rfl, rfl⟩

theorem isMadeOf_operation (kind : ServiceKind) (method : Method) :
    IsMadeOf classifier kind (.method method) (operation classifier kind method) :=
  ⟨rfl, rfl, rfl, rfl, Tag.tags_scan method.docs, hasKinds_operation classifier kind method⟩

/-- Members that can all be operations are all methods. -/
theorem map_methods {members : List Member} (hplain : ∀ member ∈ members, member.IsPlain) :
    (methods { item with members }).map Member.method = members := by
  induction members with
  | nil => rfl
  | cons member rest ih =>
    have hrest := ih fun other hother => hplain other (List.mem_cons_of_mem _ hother)
    cases member with
    | method method => exact congrArg (List.cons (.method method)) hrest
    | other what location => exact absurd (hplain _ List.mem_cons_self) id

/-- There is one report of each tag line of a member that is none, in order. -/
theorem forall₂_flaws (methods : List Method) :
    List.Forall₂ IsWarningAt ((methods.map Member.method).flatMap flaws)
      (methods.flatMap fun method =>
        (Tag.scan method.docs).reports method.name method.location) := by
  induction methods with
  | nil => exact .nil
  | cons method rest ih =>
    refine List.rel_append ?_ ih
    rw [flaws, ← Tag.causes_scan, List.map_map]
    exact List.forall₂_map_left_iff.mpr (List.forall₂_map_right_iff.mpr
      (List.forall₂_same.mpr fun _ _ => isWarningAt_warning _ _))

variable {item tags}

theorem service_of_refused (h : item.kind ≠ .trait ∨ ¬ IsAsked classifier tags) :
    ∃ message, service classifier item tags = (none, [warning item.location message]) := by
  unfold service
  by_cases htrait : item.kind = .trait
  · have hnone : classifier.serviceKinds tags = [] := by
      have hnot := h.resolve_left (not_not_intro htrait)
      rwa [isAsked_iff, not_not] at hnot
    simp [htrait, hnone]
  · simp [htrait]

theorem service_of_objections (htrait : item.kind = .trait) (hasked : IsAsked classifier tags)
    (hplain : ¬ ∀ member ∈ item.members, member.IsPlain) :
    ∃ message, service classifier item tags =
      (none, item.members.filterMap (objection? item) ++ [warning item.location message]) := by
  rw [← objections_eq_nil_iff] at hplain
  cases hdeclared : classifier.serviceKinds tags with
  | nil => exact absurd hdeclared ((isAsked_iff classifier tags).mp hasked)
  | cons kind others =>
    refine ⟨"`" ++ item.name ++ "` skipped: unsupported trait members", ?_⟩
    simp [service, htrait, hdeclared, hplain]

theorem service_of_acceptable (htrait : item.kind = .trait) (hasked : IsAsked classifier tags)
    (hplain : ∀ member ∈ item.members, member.IsPlain) :
    ∃ made, service classifier item tags = (some made, methodReports item) ∧
      Embodies classifier item tags made := by
  have hobjections := (objections_eq_nil_iff item).mpr hplain
  have hkinds := classifier.asked_serviceKinds tags
  cases hdeclared : classifier.serviceKinds tags with
  | nil => exact absurd hdeclared ((isAsked_iff classifier tags).mp hasked)
  | cons kind others =>
    rw [hdeclared] at hkinds
    refine ⟨_, by simp [service, htrait, hdeclared, hobjections]; rfl, rfl, rfl, rfl, hkinds,
      hkinds.first, ?_⟩
    rw [← map_methods item hplain]
    exact List.forall₂_map_left_iff.mpr (List.forall₂_map_right_iff.mpr
      (List.forall₂_same.mpr fun method _ => isMadeOf_operation classifier kind method))

end

/-- A declaration becomes a service as a whole or not at all, and never without a word. It becomes
one exactly if it is a trait, the exact path of a tag asks for a kind of service, and all of its
members can be operations. Then each member is an operation, in order, and all that is reported are
the tag lines of methods that are none. Otherwise, what is reported is either the declaration alone,
if it is no trait or no tag asks for a kind, or each member that stands in the way, in order, and
then the declaration. -/
theorem service_all_or_nothing (classifier : Classifier) (item : Item) (tags : List Tag) :
    ((∃ made, (service classifier item tags).1 = some made) ↔
      item.kind = .trait ∧ IsAsked classifier tags ∧ ∀ member ∈ item.members, member.IsPlain) ∧
    (∀ made, (service classifier item tags).1 = some made →
      Embodies classifier item tags made ∧
        List.Forall₂ IsWarningAt (item.members.flatMap flaws) (service classifier item tags).2) ∧
    (item.kind ≠ .trait ∨ ¬ IsAsked classifier tags →
      List.Forall₂ IsWarningAt [item.location] (service classifier item tags).2) ∧
    (item.kind = .trait → IsAsked classifier tags →
      (¬ ∀ member ∈ item.members, member.IsPlain) →
        List.Forall₂ IsWarningAt
          ((item.members.filter (¬ ·.IsPlain)).map Member.location ++ [item.location])
          (service classifier item tags).2) := by
  by_cases hrefused : item.kind ≠ .trait ∨ ¬ IsAsked classifier tags
  · obtain ⟨message, hservice⟩ := service_of_refused classifier hrefused
    rw [hservice]
    refine ⟨⟨by simp, ?_⟩, by simp, fun _ => ?_, ?_⟩
    · rintro ⟨htrait, hasked, -⟩
      exact absurd hrefused (by simp [htrait, hasked])
    · exact .cons (isWarningAt_warning _ _) .nil
    · intro htrait hasked
      exact absurd hrefused (by simp [htrait, hasked])
  obtain ⟨htrait, hasked⟩ : item.kind = .trait ∧ IsAsked classifier tags := by
    simpa [not_or] using hrefused
  by_cases hplain : ∀ member ∈ item.members, member.IsPlain
  · obtain ⟨made, hservice, hmade⟩ := service_of_acceptable classifier htrait hasked hplain
    rw [hservice]
    refine ⟨⟨fun _ => ⟨htrait, hasked, hplain⟩, fun _ => ⟨made, rfl⟩⟩, ?_,
      fun hrefused' => absurd hrefused' hrefused, fun _ _ hunplain => absurd hplain hunplain⟩
    rintro _ ⟨rfl⟩
    refine ⟨hmade, ?_⟩
    rw [← map_methods item hplain]
    exact forall₂_flaws _
  · obtain ⟨message, hservice⟩ := service_of_objections classifier htrait hasked hplain
    rw [hservice]
    refine ⟨⟨by simp, fun h => absurd h.2.2 hplain⟩, by simp,
      fun hrefused' => absurd hrefused' hrefused, fun _ _ _ => ?_⟩
    exact List.rel_append (forall₂_objections item item.members)
      (.cons (isWarningAt_warning _ _) .nil)

end Extraction

end ServiceGen
