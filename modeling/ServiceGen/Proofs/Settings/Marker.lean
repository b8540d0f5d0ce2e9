import ServiceGen.Proofs.Extraction.Marker
import ServiceGen.Proofs.Tag.Canonical
import ServiceGen.Settings.Basic

/-!
The marker as a setting. A text is accepted as a marker exactly if tags can begin with it. Under an
accepted marker everything that can be asked for has a line that asks for it and for nothing else,
and under any other text nothing is ever asked for, so that no unit holds a service.
-/
namespace ServiceGen

open Text

/-- What a tag can ask for: that a declaration be a kind of service, or a method of a workflow a
kind of operation. -/
inductive Request where
  | service (kind : ServiceKind)
  | operation (kind : OperationKind)
  deriving DecidableEq

namespace Request

/-- The segments behind the marker in a tag that asks for it, if there is such a tag. -/
def segments? : Request → Option (List String)
  | .service kind => some [kind.segment]
  | .operation kind => kind.segment?.map fun segment => [ServiceKind.workflow.segment, segment]

/-- The tags that ask for it. -/
def predicate (classifier : Classifier) : Request → Predicate
  | .service kind => classifier.ofService kind
  | .operation kind => classifier.ofOperation kind

def serviceKind? : Request → Option ServiceKind
  | .service kind => some kind
  | .operation _ => none

def operationKind? : Request → Option OperationKind
  | .service _ => none
  | .operation kind => some kind

section

variable {classifier : Classifier} {request other : Request} {tag : Tag}

/-- A tag asks for something by its whole path. -/
theorem holds_iff : (request.predicate classifier).holds tag = true ↔
    ∃ segments, request.segments? = some segments ∧ tag.path = classifier.marker :: segments := by
  cases request with
  | service kind =>
    simp [predicate, segments?, Classifier.ofService, Predicate.holds, Tag.pathIs]
  | operation kind =>
    cases hsegment : kind.segment? with
    | none =>
      simp [predicate, segments?, Classifier.ofOperation, hsegment, Predicate.holds,
        Predicate.holdsOne]
    | some segment =>
      simp [predicate, segments?, Classifier.ofOperation, hsegment, Predicate.holds, Tag.pathIs]

theorem segments?_inj {segments : List String} (h : request.segments? = some segments)
    (hother : other.segments? = some segments) : request = other := by
  rw [← hother] at h
  rcases request with kind | kind <;> rcases other with kind' | kind' <;>
    cases kind <;> cases kind' <;> first | rfl | exact absurd h (by decide)

/-- No tag asks for two things, however long its path is. -/
theorem eq_of_holds (hholds : (request.predicate classifier).holds tag = true)
    (hother : (other.predicate classifier).holds tag = true) : request = other := by
  obtain ⟨segments, hsegments, hpath⟩ := holds_iff.mp hholds
  obtain ⟨segments', hsegments', hpath'⟩ := holds_iff.mp hother
  obtain rfl : segments = segments' := (List.cons.inj (hpath.symm.trans hpath')).2
  exact segments?_inj hsegments hsegments'

theorem holds_iff_eq (hholds : (request.predicate classifier).holds tag = true) :
    (other.predicate classifier).holds tag = true ↔ other = request :=
  ⟨fun hother => eq_of_holds hother hholds, fun heq => heq ▸ hholds⟩

theorem holds_eq_decide (hholds : (request.predicate classifier).holds tag = true)
    (other : Request) : (other.predicate classifier).holds tag = decide (other = request) := by
  rw [Bool.eq_iff_iff, decide_eq_true_iff, holds_iff_eq hholds]

/-- The kinds that are made of a tag are what it asks for. -/
theorem kinds_of_holds (hholds : (request.predicate classifier).holds tag = true) :
    classifier.serviceKinds [tag] = request.serviceKind?.toList ∧
      classifier.operationKinds [tag] = request.operationKind?.toList := by
  have hservice : ∀ kind,
      (classifier.ofService kind).holds tag = decide (.service kind = request) :=
    fun kind => holds_eq_decide hholds (.service kind)
  have hoperation : ∀ kind,
      (classifier.ofOperation kind).holds tag = decide (.operation kind = request) :=
    fun kind => holds_eq_decide hholds (.operation kind)
  have hsome : request.segments? ≠ none := by
    obtain ⟨segments, hsegments, -⟩ := holds_iff.mp hholds
    simp [hsegments]
  simp only [Classifier.serviceKinds, Classifier.operationKinds, List.filterMap_cons,
    List.filterMap_nil, hservice, hoperation]
  cases request with
  | service kind => cases kind <;> decide
  | operation kind =>
    cases kind with
    | method => exact absurd rfl hsome
    | execute | update | query | signal => decide

end

end Request

namespace ValueRule

theorem isMarker_iff {text : String} :
    isMarker text = true ↔ text.toList ≠ [] ∧ ∀ c ∈ text.toList, Tag.isToolChar c = true := by
  simp [isMarker, Tag.isToolChar, Char.isDigit, Char.le_def]

/-- The tool of a tag that can be written can be a marker. -/
theorem isMarker_tool {tag : Tag} (h : tag.IsWritable) : isMarker tag.tool = true := by
  have hbegins := h.begins
  have hpieces := pieces_eq_iff.mpr h.joinedBy_text
  generalize tag.text.toList = text at hbegins hpieces
  obtain @⟨tool, c, rest, hne, htool, -⟩ := hbegins
  -- The text begins with a tool and a colon, and its first piece is the first segment.
  have hcolon : ':' ∉ tool := fun hmem => absurd (htool ':' hmem) (by decide)
  rw [pieces_append_cut (by decide), pieces_of_notMem hcolon] at hpieces
  cases hpath : tag.path with
  | nil => simp [hpath] at hpieces
  | cons first others =>
    rw [hpath, List.map_cons] at hpieces
    obtain ⟨rfl, -⟩ := List.cons.inj hpieces
    rw [Tag.tool, hpath]
    exact isMarker_iff.mpr ⟨hne, htool⟩

/-- Texts that can be markers, if there are at least two, are the path of a tag. -/
theorem isWritable_ofPath {first second : String} {others : List String}
    (hpath : ∀ segment ∈ first :: second :: others, isMarker segment = true) :
    (Tag.ofPath (first :: second :: others)).IsWritable := by
  refine ⟨?_, ?_, List.nodup_nil, fun _ hoption => absurd hoption List.not_mem_nil⟩
  · obtain ⟨hfirst, htool⟩ := isMarker_iff.mp (hpath first (by simp))
    obtain ⟨hsecond, hbehind⟩ := isMarker_iff.mp (hpath second (by simp))
    obtain ⟨c, more, hmore⟩ := List.exists_cons_of_ne_nil hsecond
    have hc : Tag.isToolChar c = true := hbehind c (hmore ▸ List.mem_cons_self)
    have htext : (Tag.ofPath (first :: second :: others)).text.toList =
        (first.toList ++ [':', c]) ++
          (List.intercalate [':'] ((second :: others).map String.toList)).tail := by
      cases others <;> simp [Tag.toList_text, Tag.ofPath, hmore]
    rw [htext]
    exact Tag.Begins.append (.intro [] hfirst htool hc) _
  · intro segment hsegment
    obtain ⟨hne, htool⟩ := isMarker_iff.mp (hpath segment hsegment)
    exact ⟨⟨hne, fun c hc => Tag.isBlank_of_isToolChar (htool c hc)⟩,
      fun hmem => absurd (htool ':' hmem) (by decide)⟩

/-- Such texts with colons between them are read as the tag. -/
theorem parse_intercalate {first second : String} {others : List String}
    (hpath : ∀ segment ∈ first :: second :: others, isMarker segment = true) :
    Tag.parse (String.intercalate ":" (first :: second :: others)) =
      .ok (Tag.ofPath (first :: second :: others)) := by
  have hcanonical : (Tag.ofPath (first :: second :: others)).canonical =
      String.intercalate ":" (first :: second :: others) := by
    simp [Tag.canonical, Tag.ofPath, Options.empty, Tag.text]
  exact hcanonical ▸ (isWritable_ofPath hpath).parse_canonical

theorem isMarker_of_mem_segments {request : Request} {segments : List String}
    (hsegments : request.segments? = some segments) :
    ∀ segment ∈ segments, isMarker segment = true := by
  have hall : (request.segments?.getD []).all isMarker = true := by
    rcases request with kind | kind <;> cases kind <;> decide +kernel
  simpa [hsegments] using hall

end ValueRule

/-- A line that asks for one thing and for nothing else. -/
def Classifier.HearsOnly (classifier : Classifier) (line : String) (request : Request) : Prop :=
  ∃ tag, Tag.parse line = .ok tag ∧
    (∀ other : Request, (other.predicate classifier).holds tag = true ↔ other = request) ∧
    classifier.serviceKinds [tag] = request.serviceKind?.toList ∧
    classifier.operationKinds [tag] = request.operationKind?.toList

section

variable {marker : String} (hmarker : ValueRule.isMarker marker = true)

include hmarker

theorem Classifier.hearsOnly_intercalate {request : Request} {segment : String}
    {others : List String} (hsegments : request.segments? = some (segment :: others)) :
    HearsOnly ⟨marker⟩ (String.intercalate ":" (marker :: segment :: others)) request := by
  have hpath : ∀ word ∈ marker :: segment :: others, ValueRule.isMarker word = true :=
    List.forall_mem_cons.mpr ⟨hmarker, ValueRule.isMarker_of_mem_segments hsegments⟩
  have hholds :
      (request.predicate ⟨marker⟩).holds (Tag.ofPath (marker :: segment :: others)) = true :=
    Request.holds_iff.mpr ⟨_, hsegments, rfl⟩
  exact ⟨_, ValueRule.parse_intercalate hpath, fun _ => Request.holds_iff_eq hholds,
    Request.kinds_of_holds hholds⟩

theorem Classifier.hearsOnly_service (kind : ServiceKind) :
    HearsOnly ⟨marker⟩ (marker ++ ":" ++ kind.segment) (.service kind) := by
  have hsegments : (Request.service kind).segments? = some [kind.segment] := rfl
  have hears := hearsOnly_intercalate hmarker hsegments
  rwa [String.intercalate_cons_cons, String.intercalate_singleton] at hears

theorem Classifier.hearsOnly_operation {kind : OperationKind}
    (hkind : kind ∈ OperationKind.ofWorkflow) :
    HearsOnly ⟨marker⟩ (marker ++ ":workflow:" ++ kind.text) (.operation kind) := by
  have hsegments : ∀ kind ∈ OperationKind.ofWorkflow,
      (Request.operation kind).segments? = some ["workflow", kind.text] := by decide
  have hears := hearsOnly_intercalate hmarker (hsegments kind hkind)
  have hworkflow : ":workflow:" = ":" ++ "workflow" ++ ":" := by decide
  rw [String.intercalate_cons_cons, String.intercalate_cons_cons,
    String.intercalate_singleton] at hears
  simpa only [hworkflow, String.append_assoc] using hears

end

theorem Tag.parse_of_ofLine? {line : String} {tag : Tag} (hline : Tag.ofLine? line = some tag) :
    Tag.parse line = .ok tag := by
  rw [Tag.ofLine?] at hline
  split at hline
  · cases hparse : Tag.parse line with
    | error cause => simp [hparse, Except.toOption] at hline
    | ok other => simpa [hparse, Except.toOption] using hline
  · exact absurd hline (by simp)

/-- Under a text that is no marker no declaration is ever spoken to. -/
theorem Extraction.addressed_of_not_isMarker {marker : String}
    (hmarker : ValueRule.isMarker marker = false) (item : Item) :
    addressed ⟨marker⟩ item = false := by
  rw [addressed, Predicate.any, List.any_eq_false]
  intro tag htag hholds
  rw [Item.tags, Tag.tags_scan, List.mem_filterMap] at htag
  obtain ⟨line, -, hline⟩ := htag
  have hparse : Tag.parse line = .ok tag := Tag.parse_of_ofLine? hline
  have htool : tag.tool = marker := Classifier.tool_of_holds hholds
  have hother := ValueRule.isMarker_tool (Tag.isWritable_of_parse hparse)
  exact absurd (htool ▸ hother) (by simp [hmarker])

namespace Settings

/-- Setting a marker fails for a text that cannot be one, and in no other way. -/
theorem setMarker_eq (settings : Settings) (marker : String) :
    settings.setMarker marker =
      if ValueRule.isMarker marker then
        .ok { settings with generation := { settings.generation with marker } }
      else .error (.invalid .marker ValueRule.marker.demand) := by
  rw [setMarker, ValueRule.marker]
  dsimp only
  cases ValueRule.isMarker marker <;> rfl

theorem setMarker_eq_ok_iff {settings changed : Settings} {marker : String} :
    settings.setMarker marker = .ok changed ↔ ValueRule.isMarker marker = true ∧
      changed = { settings with generation := { settings.generation with marker } } := by
  rw [setMarker_eq]
  cases ValueRule.isMarker marker with
  | false => simp
  | true => simp [eq_comm]

/-- A text is accepted as a marker exactly if a line is read as a tag that begins with it. Under an
accepted marker there is for each kind of service and each kind of operation of workflows a line
that asks for it and for nothing else. Under a text that is not accepted no unit has services, nor
is anything of it reported. -/
theorem setMarker_agrees (settings : Settings) (marker : String) :
    ((∃ changed, settings.setMarker marker = .ok changed) ↔
      ∃ line tag, Tag.parse line = .ok tag ∧ tag.tool = marker) ∧
    (∀ changed, settings.setMarker marker = .ok changed →
      let classifier : Classifier := ⟨changed.generation.marker⟩
      (∀ kind : ServiceKind,
        classifier.HearsOnly (marker ++ ":" ++ kind.segment) (.service kind)) ∧
      ∀ kind ∈ OperationKind.ofWorkflow,
        classifier.HearsOnly (marker ++ ":workflow:" ++ kind.text) (.operation kind)) ∧
    ∀ cause, settings.setMarker marker = .error cause → ∀ unit : SourceUnit,
      (Extraction.package ⟨marker⟩ unit (.ofUnit unit)).services = [] ∧
        Extraction.reports ⟨marker⟩ unit (.ofUnit unit) = [] := by
  refine ⟨⟨?_, ?_⟩, ?_, ?_⟩
  · rintro ⟨changed, hchanged⟩
    obtain ⟨hmarker, -⟩ := setMarker_eq_ok_iff.mp hchanged
    -- Any segment does behind the tool, such as the marker itself.
    have hpath : ∀ segment ∈ [marker, marker], ValueRule.isMarker segment = true := by
      simpa using hmarker
    exact ⟨_, _, ValueRule.parse_intercalate hpath, rfl⟩
  · rintro ⟨line, tag, hparse, rfl⟩
    have hmarker := ValueRule.isMarker_tool (Tag.isWritable_of_parse hparse)
    exact ⟨_, setMarker_eq_ok_iff.mpr ⟨hmarker, rfl⟩⟩
  · intro changed hchanged
    obtain ⟨hmarker, rfl⟩ := setMarker_eq_ok_iff.mp hchanged
    exact ⟨Classifier.hearsOnly_service hmarker,
      fun _ hkind => Classifier.hearsOnly_operation hmarker hkind⟩
  · intro cause hcause unit
    have hmarker : ValueRule.isMarker marker = false := by
      rw [setMarker_eq] at hcause
      split at hcause
      · exact absurd hcause (by simp)
      · next hnot => simpa using hnot
    have hservices : Extraction.services ⟨marker⟩ unit (.ofUnit unit) = [] := by
      rw [Extraction.services_eq, List.filter_eq_nil_iff.mpr, List.map_nil]
      intro item _
      simp [Extraction.addressed_of_not_isMarker hmarker item]
    simp [Extraction.package, Extraction.reports, hservices]

end Settings

end ServiceGen
