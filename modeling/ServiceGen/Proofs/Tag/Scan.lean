import ServiceGen.Grammar.Attribute
import ServiceGen.Proofs.Tag.Grammar
import ServiceGen.Tag.Scan

/-!
Scanning line by line. Each line has one fate, whatever stands around it: it is ignored, it gives a
tag, or it is set aside as a tag that cannot be read. Reading alone decides which, since the lines
that are passed over by their shape are those that reading takes for no tag at all. So a scan of
several texts is put together from their scans.
-/
namespace ServiceGen.Tag

/-- The tag of a line, if the line is taken for a tag and is one. -/
def ofLine? (line : String) : Option Tag :=
  if isTag line then (parse line).toOption else none

/-- Why a line that is taken for a tag is none. -/
def flaw? (line : String) : Option ParseError :=
  if isTag line then
    match parse line with
    | .ok _ => none
    | .error cause => some cause
  else none

/-- A scan goes over its lines one by one. -/
theorem scanFrom_eq (position : Nat) (lines : List String) :
    scanFrom position lines =
      ⟨lines.filterMap ofLine?, (lines.zipIdx position).filterMap fun (line, place) =>
        (flaw? line).map (place, ·)⟩ := by
  induction lines generalizing position with
  | nil => rfl
  | cons line rest ih =>
    simp only [scanFrom, List.zipIdx_cons, List.filterMap_cons, ih, ofLine?, flaw?]
    cases isTag line with
    | false => rfl
    | true => cases parse line <;> rfl

theorem tags_scan (lines : List String) : (scan lines).tags = lines.filterMap ofLine? :=
  congrArg Scan.tags (scanFrom_eq 0 lines)

theorem malformed_scan (lines : List String) :
    (scan lines).malformed =
      lines.zipIdx.filterMap fun (line, place) => (flaw? line).map (place, ·) :=
  congrArg Scan.malformed (scanFrom_eq 0 lines)

theorem causes_scan (lines : List String) :
    (scan lines).malformed.map Prod.snd = lines.filterMap flaw? := by
  have hlines : lines.filterMap flaw? = (lines.zipIdx.map Prod.fst).filterMap flaw? := by
    rw [List.zipIdx_map_fst]
  rw [malformed_scan, List.map_filterMap, hlines, List.filterMap_map]
  apply List.filterMap_congr
  intro entry _
  simp [Option.map_map, Function.comp_def]

/-- What becomes of a line in a scan. -/
inductive Fate where
  | ignored
  | taken (tag : Tag)
  /-- The line begins like a tag and cannot be read as one. -/
  | refused (cause : ParseError)
  deriving DecidableEq

namespace Fate

def tag? : Fate → Option Tag
  | .taken tag => some tag
  | _ => none

def cause? : Fate → Option ParseError
  | .refused cause => some cause
  | _ => none

end Fate

/-- The fate that reading a line decides. -/
def fate (line : String) : Fate :=
  match parse line with
  | .ok tag => .taken tag
  | .error (.notATag _) => .ignored
  | .error cause => .refused cause

section fate

variable {line : String}

/-- The lines without the shape of a tag are those that reading takes for no tag at all. -/
theorem isTag_eq_false_iff :
    isTag line = false ↔ ∃ text, parse line = .error (.notATag text) := by
  rw [← Bool.not_eq_true, isTag_iff]
  constructor
  · exact fun h => ⟨_, parse_of_not_begins h⟩
  · rintro ⟨text, hparse⟩
    rw [parse_eq_iff] at hparse
    cases hparse with
    | stranger hbegins => exact hbegins

theorem isTag_of_parse_ne {answer : Except ParseError Tag} (hparse : parse line = answer)
    (hne : ∀ text, answer ≠ .error (.notATag text)) : isTag line = true := by
  rw [← Bool.not_eq_false, isTag_eq_false_iff]
  rintro ⟨text, hother⟩
  exact hne text (hparse.symm.trans hother)

theorem fate_eq_ignored_iff : fate line = .ignored ↔ isTag line = false := by
  rw [isTag_eq_false_iff, fate]
  cases hparse : parse line with
  | ok tag => simp
  | error cause => cases cause <;> simp

theorem fate_eq_taken_iff {tag : Tag} : fate line = .taken tag ↔ parse line = .ok tag := by
  rw [fate]
  cases hparse : parse line with
  | ok other => simp
  | error cause => cases cause <;> simp

theorem fate_eq_refused_iff {cause : ParseError} :
    fate line = .refused cause ↔ isTag line = true ∧ parse line = .error cause := by
  rw [← Bool.not_eq_false, isTag_eq_false_iff, fate]
  cases hparse : parse line with
  | ok other => simp
  | error other => cases other <;> simp

theorem ofLine?_eq (line : String) : ofLine? line = (fate line).tag? := by
  cases hfate : fate line with
  | ignored => simp [ofLine?, fate_eq_ignored_iff.mp hfate, Fate.tag?]
  | taken tag =>
    have hparse := fate_eq_taken_iff.mp hfate
    have hshape : isTag line = true := isTag_of_parse_ne hparse (by simp)
    simp [ofLine?, hshape, hparse, Except.toOption, Fate.tag?]
  | refused cause =>
    obtain ⟨hshape, hparse⟩ := fate_eq_refused_iff.mp hfate
    simp [ofLine?, hshape, hparse, Except.toOption, Fate.tag?]

theorem flaw?_eq (line : String) : flaw? line = (fate line).cause? := by
  cases hfate : fate line with
  | ignored => simp [flaw?, fate_eq_ignored_iff.mp hfate, Fate.cause?]
  | taken tag => simp [flaw?, fate_eq_taken_iff.mp hfate, Fate.cause?]
  | refused cause =>
    obtain ⟨hshape, hparse⟩ := fate_eq_refused_iff.mp hfate
    simp [flaw?, hshape, hparse, Fate.cause?]

/-- A line that is refused begins like a tag. -/
theorem ne_notATag_of_refused {cause : ParseError} (hfate : fate line = .refused cause)
    (text : String) : cause ≠ .notATag text := by
  rintro rfl
  obtain ⟨hshape, hparse⟩ := fate_eq_refused_iff.mp hfate
  exact absurd (isTag_eq_false_iff.mpr ⟨text, hparse⟩) (by simp [hshape])

end fate

theorem cause?_eq_some_iff {fate : Fate} {cause : ParseError} :
    fate.cause? = some cause ↔ fate = .refused cause := by
  cases fate <;> simp [Fate.cause?]

/-- A line that is refused is set aside with its own position. -/
theorem mem_malformed_scan {lines : List String} {place : Nat} {cause : ParseError} :
    (place, cause) ∈ (scan lines).malformed ↔
      ∃ line, lines[place]? = some line ∧ fate line = .refused cause := by
  rw [malformed_scan, List.mem_filterMap]
  constructor
  · rintro ⟨⟨line, other⟩, hmem, hsome⟩
    obtain ⟨reason, hreason, heq⟩ := Option.map_eq_some_iff.mp hsome
    obtain ⟨rfl, rfl⟩ := Prod.mk.inj heq
    rw [flaw?_eq, cause?_eq_some_iff] at hreason
    exact ⟨line, List.mem_zipIdx_iff_getElem?.mp hmem, hreason⟩
  · rintro ⟨line, hline, hfate⟩
    refine ⟨(line, place), List.mem_zipIdx_iff_getElem?.mpr hline, ?_⟩
    simp [flaw?_eq, hfate, Fate.cause?]

theorem tags_append (front behind : List String) :
    (scan (front ++ behind)).tags = (scan front).tags ++ (scan behind).tags := by
  rw [tags_scan, tags_scan, tags_scan, List.filterMap_append]

/-- The lines of a second text stand behind those of the first. -/
theorem malformed_append (front behind : List String) :
    (scan (front ++ behind)).malformed = (scan front).malformed ++
      (scan behind).malformed.map fun (place, cause) => (front.length + place, cause) := by
  have hbehind : behind.zipIdx front.length =
      behind.zipIdx.map fun (line, place) => (line, front.length + place) :=
    List.zipIdx_eq_map_add
  rw [malformed_scan, malformed_scan, malformed_scan, List.zipIdx_append, List.filterMap_append,
    Nat.zero_add, hbehind, List.filterMap_map, List.map_filterMap]
  congr 1
  apply List.filterMap_congr
  intro entry _
  simp [Option.map_map, Function.comp_def]

theorem tags_flatten (parts : List (List String)) :
    (scan parts.flatten).tags = parts.flatMap fun lines => (scan lines).tags := by
  induction parts with
  | nil => rfl
  | cons lines rest ih => rw [List.flatten_cons, tags_append, ih, List.flatMap_cons]

/-- What an attribute contributes has the tags of its text. -/
theorem tags_docLines (text : String) :
    (scan (Grammar.Attribute.docLines text)).tags = ofText text := by
  rw [Grammar.Attribute.docLines]
  split
  · next hempty =>
    rw [String.isEmpty_iff.mp hempty]
    decide
  · rfl

/-- A scan divides its lines. Each line is ignored, and these are the lines without the shape of a
tag, or it gives its tag, or it is set aside with the reason, which is never that it is no tag at
all; the tags and what is set aside keep the order of their lines, the latter with its position. A
scan of two texts one behind the other is made of their scans, the positions of the second counted
on, and so a declaration has the tags that its attributes give one by one. -/
theorem scan_divides :
    (∀ line, (fate line = .ignored ↔ isTag line = false) ∧
      (∀ tag, fate line = .taken tag ↔ parse line = .ok tag) ∧
      ∀ cause, fate line = .refused cause ↔ isTag line = true ∧ parse line = .error cause) ∧
    (∀ lines, (scan lines).tags = lines.filterMap (fun line => (fate line).tag?) ∧
      (scan lines).malformed = lines.zipIdx.filterMap (fun (line, place) =>
        (fate line).cause?.map (place, ·)) ∧
      ∀ place cause, (place, cause) ∈ (scan lines).malformed →
        (∃ line, lines[place]? = some line ∧ fate line = .refused cause) ∧
          ∀ text, cause ≠ .notATag text) ∧
    (∀ front behind, (scan (front ++ behind)).tags = (scan front).tags ++ (scan behind).tags ∧
      (scan (front ++ behind)).malformed = (scan front).malformed ++
        (scan behind).malformed.map fun (place, cause) => (front.length + place, cause)) ∧
    (∀ parts : List (List String),
      (scan parts.flatten).tags = parts.flatMap fun lines => (scan lines).tags) ∧
    ∀ texts : List String,
      (scan (texts.flatMap Grammar.Attribute.docLines)).tags = texts.flatMap ofText := by
  refine ⟨fun line => ⟨fate_eq_ignored_iff, fun tag => fate_eq_taken_iff,
    fun cause => fate_eq_refused_iff⟩, fun lines => ⟨?_, ?_, ?_⟩,
    fun front behind => ⟨tags_append front behind, malformed_append front behind⟩, tags_flatten,
    fun texts => ?_⟩
  · rw [tags_scan, funext ofLine?_eq]
  · rw [malformed_scan, funext flaw?_eq]
  · intro place cause hentry
    obtain ⟨line, hline, hfate⟩ := mem_malformed_scan.mp hentry
    exact ⟨⟨line, hline, hfate⟩, ne_notATag_of_refused hfate⟩
  · rw [List.flatMap, tags_flatten, List.flatMap_map, funext tags_docLines]

end ServiceGen.Tag
