import ServiceGen.Extraction.Services
import ServiceGen.Proofs.Grammar.Documentation
import ServiceGen.Proofs.Tag.Scan

/-!
Documentation texts keep their tags. The lines of a declaration are put together to a text, without
the blank that is customary in front of each, and the text is trimmed. All that gets lost on the way
are blanks at the ends of lines and lines of blanks, in which no tag stands, so the tags that are
scanned from the lines are those that are found in the text. This needs lines that are lines, and
lines that are read are.
-/
namespace ServiceGen

namespace Tag

theorem parse_trim (line : List Char) :
    parse (String.ofList (Text.trim line)) = parse (String.ofList line) := by
  rw [parse, parse, String.toList_ofList, String.toList_ofList, Text.trim_trim]

/-- The tag of a line, which stands between the blanks at the ends of the line. -/
theorem ignoresBlanks_ofLine? : Text.IgnoresBlanks fun line => ofLine? (String.ofList line) where
  nil := by decide
  trim line := by rw [ofLine?_eq, ofLine?_eq, fate, fate, parse_trim]

theorem ofText_ofList (cs : List Char) :
    ofText (String.ofList cs) =
      (Text.lines cs).filterMap fun line => ofLine? (String.ofList line) := by
  rw [ofText, tags_scan, linesOf, String.toList_ofList, List.filterMap_map]
  rfl

end Tag

namespace Docs

theorem ofLine?_unindent (line : List Char) :
    Tag.ofLine? (String.ofList (unindent line)) = Tag.ofLine? (String.ofList line) := by
  fun_cases unindent line with
  | case1 cs => exact (Tag.ignoresBlanks_ofLine?.cons_blank (by decide) cs).symm
  | case2 => rfl

theorem notMem_unindent {line : List Char} (hline : '\n' ∉ line) : '\n' ∉ unindent line := by
  fun_cases unindent line with
  | case1 cs => exact fun hmem => hline (List.mem_cons_of_mem _ hmem)
  | case2 => exact hline

/-- The text of documentation lines has the tags of the lines. -/
theorem tags_text {lines : List String} (hlines : Unbroken lines) :
    Tag.ofText (text lines) = (Tag.scan lines).tags := by
  have hparts : ∀ part ∈ lines.map fun line => unindent line.toList, '\n' ∉ part := by
    intro part hpart
    obtain ⟨line, hline, rfl⟩ := List.mem_map.mp hpart
    exact notMem_unindent (hlines line hline)
  rw [text, Tag.ofText_ofList, Tag.ignoresBlanks_ofLine?.lines_trim,
    Tag.ignoresBlanks_ofLine?.lines_intercalate hparts, List.filterMap_map, Tag.tags_scan]
  refine List.filterMap_congr fun line _ => ?_
  rw [Function.comp_apply, ofLine?_unindent, String.ofList_toList]

/-- What is no line may hold a line with a tag, which the text of it would bring to light. -/
example : (Tag.scan ["Pays.\nweft:activity"]).tags = [] ∧
    Tag.ofText (text ["Pays.\nweft:activity"]) = [.ofPath ["weft", "activity"]] := by
  decide

end Docs

namespace Extraction

variable {classifier : Classifier}

theorem mem_methods {item : Item} {method : Method} :
    method ∈ methods item ↔ .method method ∈ item.members := by
  rw [methods, List.mem_filterMap]
  constructor
  · rintro ⟨member, hmember, hsome⟩
    cases member with
    | method other => exact Option.some.inj hsome ▸ hmember
    | other what location => exact absurd hsome (Option.some_ne_none method).symm
  · exact fun hmember => ⟨_, hmember, rfl⟩

theorem exists_kind_of_service {item : Item} {tags : List Tag} {made : Service}
    (hmade : (service classifier item tags).1 = some made) :
    ∃ kind, made.operations = (methods item).map (operation classifier kind) := by
  unfold service at hmade
  dsimp only at hmade
  split at hmade
  · exact absurd hmade (Option.some_ne_none made).symm
  split at hmade
  · exact absurd hmade (Option.some_ne_none made).symm
  · next kind others _ =>
    split at hmade
    · obtain rfl := Option.some.inj hmade
      exact ⟨kind, rfl⟩
    · exact absurd hmade (Option.some_ne_none made).symm

/-- Every operation is made of a method that the unit declares. -/
theorem exists_method_of_operation {unit : SourceUnit} {decorations : Decorations}
    {made : Service} (hmade : made ∈ (package classifier unit decorations).services)
    {part : Operation} (hpart : part ∈ made.operations) :
    ∃ item ∈ unit.items, ∃ method, .method method ∈ item.members ∧
      ∃ kind, part = operation classifier kind method := by
  obtain ⟨outcome, houtcome, hsome⟩ := List.mem_filterMap.mp hmade
  obtain ⟨⟨name, tags⟩, -, hentry⟩ := List.mem_filterMap.mp houtcome
  obtain ⟨item, hitem, rfl⟩ : ∃ item, unit.item? name = some item ∧
      service classifier item tags = outcome := by
    dsimp only at hentry
    split at hentry
    · exact Option.map_eq_some_iff.mp hentry
    · exact absurd hentry (Option.some_ne_none outcome).symm
  obtain ⟨kind, hoperations⟩ := exists_kind_of_service hsome
  rw [hoperations, List.mem_map] at hpart
  obtain ⟨method, hmethod, rfl⟩ := hpart
  exact ⟨item, List.mem_of_find?_eq_some hitem, method, mem_methods.mp hmethod, kind, rfl⟩

end Extraction

namespace SourceUnit

variable {package path text : String} {unit : SourceUnit}

theorem lined_of_ofText (hunit : ofText package path text = .ok unit) :
    ∀ item ∈ unit.items, item.Lined := by
  rw [ofText] at hunit
  cases hread : Grammar.readText (withoutCommand (Text.withoutMark text.toList)) fun g =>
      g.file path with
  | error position => simp [hread, bind, Except.bind] at hunit
  | ok answer =>
    rw [hread] at hunit
    obtain rfl := Except.ok.inj hunit
    exact Grammar.Yields.of_readText (Grammar.yields_file · path) hread

/-- Documentation keeps its tags when it becomes a text. In a unit that was read, the text of a
declaration has the tags of its lines, and so has the text of each method in it. Hence the text of
every operation has the tags of the operation, whatever the tags of its service are. -/
theorem docs_keep_tags (hunit : ofText package path text = .ok unit) :
    (∀ item ∈ unit.items,
      Tag.ofText (Docs.text item.docs) = (Tag.scan item.docs).tags ∧
        ∀ method, .method method ∈ item.members →
          Tag.ofText (Docs.text method.docs) = (Tag.scan method.docs).tags) ∧
      ∀ classifier decorations,
        ∀ service ∈ (Extraction.package classifier unit decorations).services,
          ∀ operation ∈ service.operations, Tag.ofText operation.docs = operation.tags := by
  have hlined := lined_of_ofText hunit
  have hmethods {item : Item} (hitem : item ∈ unit.items) {method : Method}
      (hmethod : .method method ∈ item.members) :
      Tag.ofText (Docs.text method.docs) = (Tag.scan method.docs).tags := by
    cases (hlined item hitem).members _ hmethod with
    | method hdocs => exact Docs.tags_text hdocs
  refine ⟨fun item hitem => ⟨Docs.tags_text (hlined item hitem).docs,
    fun method hmethod => hmethods hitem hmethod⟩, ?_⟩
  intro classifier decorations service hservice operation hoperation
  obtain ⟨item, hitem, method, hmethod, kind, rfl⟩ :=
    Extraction.exists_method_of_operation hservice hoperation
  exact hmethods hitem hmethod

/-- A trait with tags between blanks of several kinds. Carriage returns end the lines of its own
documentation, and that of its method begins with a wide blank. -/
def payments : String :=
  "#[doc = \"Pays.\\r\"]\n#[doc = \"\\r\\n weft:activity\\u\x7b2003\x7d\"]\n" ++
    "pub trait Payments \x7b\n" ++
    "    ///\u3000acme:audit level=high\u00a0\n    ///\n    /// See weft:other.\n" ++
    "    fn pay(&self);\n\x7d\n"

/-- The tags of the trait and of its method are those of their texts. -/
theorem payments_keep_tags :
    ∃ unit, ofText "shop" "src/a.rs" payments = .ok unit ∧
      unit.items.map Item.docs = [["Pays.\r", "", " weft:activity\u2003"]] ∧
      (∀ item ∈ unit.items, Tag.ofText (Docs.text item.docs) = [.ofPath ["weft", "activity"]]) ∧
      ∃ service ∈ (Extraction.package ⟨"weft"⟩ unit (.ofUnit unit)).services,
        (service.operations.map fun operation => (operation.docs, operation.tags.map Tag.text)) =
            [("acme:audit level=high\u00a0\n\nSee weft:other.", ["acme:audit"])] ∧
          ∀ operation ∈ service.operations, Tag.ofText operation.docs = operation.tags := by
  have hread : (ofText "shop" "src/a.rs" payments).toOption.any (fun unit =>
      unit.items.map Item.docs = [["Pays.\r", "", " weft:activity\u2003"]] ∧
        (∀ item ∈ unit.items, (Tag.scan item.docs).tags = [.ofPath ["weft", "activity"]]) ∧
        ∃ service ∈ (Extraction.package ⟨"weft"⟩ unit (.ofUnit unit)).services,
          (service.operations.map fun operation => (operation.docs, operation.tags.map Tag.text)) =
            [("acme:audit level=high\u00a0\n\nSee weft:other.", ["acme:audit"])]) = true := by
    decide +kernel
  cases hunit : ofText "shop" "src/a.rs" payments with
  | error position => simp [hunit, Except.toOption] at hread
  | ok unit =>
    obtain ⟨hdocs, htags, service, hservice, hoperations⟩ : _ ∧ _ ∧ _ := by
      simpa only [hunit, Except.toOption, Option.any_some, decide_eq_true_eq] using hread
    obtain ⟨hitems, hkept⟩ := docs_keep_tags hunit
    refine ⟨unit, rfl, hdocs, fun item hitem => ?_, service, hservice, hoperations, ?_⟩
    · rw [(hitems item hitem).1, htags item hitem]
    · exact hkept _ _ service hservice

end SourceUnit

end ServiceGen
