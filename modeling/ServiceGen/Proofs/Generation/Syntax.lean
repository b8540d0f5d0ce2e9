import ServiceGen.Proofs.Generation.Layout
import ServiceGen.Proofs.Render.Syntax.Package
import ServiceGen.Proofs.Source.Loading
import ServiceGen.Proofs.Source.Parsing
import ServiceGen.Proofs.Token.Printing

/-!
Generated files are source texts. If the library is named by a bare path, the path of the source is
on one line and the declared types are plain, every artifact can be read.
-/
namespace ServiceGen

/-! Texts of items -/

namespace Grammar

open Located Token

variable {items : List Token}

theorem AreItems.accepts_file {depth : Nat} (hitems : AreItems items) (path : String)
    (hdepth : 4 * extent items + 2 < depth) : Accepts ((ofDepth depth).file path) items [] := by
  have hinner : beginsInner (placedAll (items ++ [])) = false := by
    rw [List.append_nil]
    exact (hitems path).outer
  exact .skip (skips_inner hinner) (((hitems path).accepts hdepth).last fun _ => .pure)

/-- A reader that takes all tokens is done with them. -/
theorem Accepts.exists_readAll {α : Type} {reader : Reader α} {tokens : List Token}
    (hreader : Accepts reader tokens []) :
    ∃ answer, Reader.readAll reader (placedAll tokens) = .ok answer := by
  obtain ⟨a, printed, hreader⟩ := hreader
  have hread := hreader .start none []
  rw [placedAll, List.append_nil] at hread
  exact ⟨_, by rw [Reader.readAll, hread]; rfl⟩

end Grammar

namespace SourceUnit

open Located Grammar

/-- A text of items is read as a unit. -/
theorem exists_ofText {text : String} {trees : List Located} (htext : tokens text = .ok trees)
    (hitems : AreItems (Located.tokens trees)) (package path : String) :
    ∃ unit, ofText package path text = .ok unit := by
  have hsame : bareAll trees = bareAll (placedAll (Located.tokens trees)) :=
    (bareAll_placedAll trees).symm
  have hplaced : ∃ answer, Reader.readAll ((Grammar.ofTokens trees).file path)
      (placedAll (Located.tokens trees)) = .ok answer := by
    rw [ofTokens_eq hsame]
    exact (hitems.accepts_file path (Nat.add_lt_add_left (by decide) _)).exists_readAll
  have hread :
      ∃ answer, Reader.readAll ((Grammar.ofTokens trees).file path) trees = .ok answer := by
    have hfile := steady_file (robust_ofDepth (4 * Located.sizes trees + 4)) path
    obtain ⟨position, position', -, herror⟩ | ⟨items, printed, -, -, hok, -⟩ :=
      readAll_agree hfile hsame
    · obtain ⟨answer, hanswer⟩ := hplaced
      rw [Grammar.ofTokens, herror] at hanswer
      cases hanswer
    · exact ⟨_, hok⟩
  obtain ⟨answer, hanswer⟩ := hread
  refine ⟨⟨package, path, answer.1⟩, ?_⟩
  rw [tokens] at htext
  simp only [ofText, readText, htext, Bind.bind, Except.bind, hanswer]
  rfl

end SourceUnit

open Analysis Grammar Token

/-- A bare path that is written out is accepted as it stands. -/
theorem Grammar.pathTokens?_bare (path : BarePath) :
    pathTokens? (Token.text path.tokens) = some path.tokens :=
  path.tokens_plain ▸ pathTokens?_text path.plain

/-! The text of a generated file -/

/-- A line behind the words for the source of a file. -/
theorem Token.Lexer.reads_source {line rest : List Char} (hline : '\n' ∉ line) :
    Reads ((Render.Package.header ++ "\n// source: ").toList ++ (line ++ '\n' :: rest))
      [] rest := by
  have hheader : Render.Package.header.toList =
      '/' :: '/' :: ' ' :: "Code generated by weft-gen. DO NOT EDIT.".toList := rfl
  have hsource : "\n// source: ".toList = '\n' :: '/' :: '/' :: ' ' :: "source: ".toList := rfl
  have hwords : '\n' ∉ "source: ".toList ++ line := by simpa using hline
  have hfirst : '\n' ∉ "Code generated by weft-gen. DO NOT EDIT.".toList := by decide
  have hreads : Reads _ [] rest := (reads_comment hfirst).trans (reads_comment hwords)
  rw [String.toList_append, hheader, hsource]
  simp only [List.append_assoc, List.cons_append] at hreads ⊢
  exact hreads

namespace SourceUnit

/-- The characters of a generated file, from which nothing is dropped before they are read. -/
theorem tokens_file (path : String) (code : List Token) :
    tokens (Render.Package.header ++ "\n// source: " ++ path ++ "\n\n" ++ Token.text code ++ "\n") =
      Lexer.readFrom .start ((Render.Package.header ++ "\n// source: ").toList ++
        (path.toList ++ '\n' :: '\n' :: ((Token.text code).toList ++ ['\n']))) := by
  have hheader : Render.Package.header.toList = '/' :: _ := rfl
  rw [tokens]
  simp only [String.toList_append, hheader, List.append_assoc, List.cons_append]
  rfl

/-- The comments in front of generated code are passed over when the file is read. -/
theorem exists_tokens_file {path : String} (hpath : '\n' ∉ path.toList) {code : List Token}
    (hreadable : Readable code) :
    ∃ trees, tokens (Render.Package.header ++ "\n// source: " ++ path ++ "\n\n" ++
      Token.text code ++ "\n") = .ok trees ∧ Located.tokens trees = code := by
  have hcode : Lexer.Reads ((text code).toList ++ ['\n']) (code ++ []) [] :=
    (reads_text code hreadable ['\n'] (apart_cons.mpr (by decide))).trans Lexer.reads_lineEnd
  have hreads := (Lexer.reads_source hpath).trans (Lexer.reads_lineEnd.trans hcode)
  obtain ⟨trees, hread, htrees⟩ := hreads.exists_readFrom .start
  exact ⟨trees, tokens_file path code ▸ hread, by simpa using htrees⟩

/-- What the path of the source says behind a line feed is not passed over. -/
theorem exists_error_file {path : String} {line stray : List Char} {c : Char}
    (hpath : path.toList = line ++ '\n' :: c :: stray) (hline : '\n' ∉ line)
    (hfirst : ∀ rest, Lexeme.first? (c :: rest) = none) (code : List Token)
    (package place : String) :
    ∃ position, ofText package place (Render.Package.header ++ "\n// source: " ++ path ++ "\n\n" ++
      Token.text code ++ "\n") = .error position := by
  obtain ⟨position, hread⟩ := (Lexer.reads_source hline).exists_error (hfirst _) .start
  refine ⟨position, ?_⟩
  have htokens := tokens_file path code
  rw [hpath, List.append_assoc, List.cons_append, List.cons_append, hread, tokens] at htokens
  simp only [ofText, readText, htokens, bind, Except.bind]

end SourceUnit

namespace Render.Package

variable {options : GenerationOptions} {plan : PackagePlan}

/-- The text of a generated file holds items. -/
theorem render_gives {path : BarePath}
    (hlibrary : pathTokens? options.runtimeCrate = some path.tokens)
    (hpath : '\n' ∉ plan.sourcePath.toList) (hplain : ∀ text ∈ plan.types, IsPlain text) :
    (render options plan).Gives fun text =>
      ∀ package path, ∃ unit, SourceUnit.ofText package path text = .ok unit := by
  have hcontext : (Context.of options).Gives fun context => context = library path := by
    rw [Context.of, hlibrary]
    exact .pure rfl
  refine .bind hcontext ?_
  rintro - rfl
  refine .bind (emit_gives path hplain) fun code hcode => .pure ?_
  obtain ⟨trees, htrees, rfl⟩ := SourceUnit.exists_tokens_file hpath (hcode "").readable
  exact SourceUnit.exists_ofText htrees hcode

/-- The text of a generated file cannot be read if the path of its source goes on behind a line feed
with what begins no token. -/
theorem render_refused {line stray : List Char} {c : Char}
    (hpath : plan.sourcePath.toList = line ++ '\n' :: c :: stray) (hline : '\n' ∉ line)
    (hfirst : ∀ rest, Lexeme.first? (c :: rest) = none) :
    (render options plan).Gives fun text =>
      ∀ package path, ∃ position, SourceUnit.ofText package path text = .error position :=
  .bind (.any _) fun _ _ => .bind (.any _) fun code _ =>
    .pure (SourceUnit.exists_error_file hpath hline hfirst code)

end Render.Package

namespace Generation

variable {options : GenerationOptions} {unit : SourceUnit} {artifact : Artifact}

/-- The text of an artifact is that of a plan for what the unit offers. -/
theorem exists_plan_of_generated (hvalue : (generated options unit).value? = some (some artifact)) :
    ∃ plan, PackagePlan.build options (extracted options unit) = .ok plan ∧
      plan.sourcePath = unit.path ∧ Render.Package.render options plan = .ok artifact.text := by
  rw [generated, Generation.artifact] at hvalue
  split at hvalue
  · exact absurd hvalue (by simp [Run.value?])
  · split at hvalue
    · exact absurd hvalue (by simp [Run.value?])
    · next plan hplan =>
      rw [Generation.plan, Loading.mapError_eq_ok] at hplan
      obtain ⟨-, heq⟩ := PackagePlan.eq_of_build hplan
      split at hvalue
      · exact absurd hvalue (by simp [Run.value?])
      · next text hrender =>
        obtain rfl := Option.some.inj (Option.some.inj hvalue)
        exact ⟨plan, hplan, heq ▸ rfl, hrender⟩

/-- Artifacts are source texts, if the library is named by a bare path, the path of the source is on
one line, and the types that are declared are plain. -/
theorem artifact_is_source {source package path : String}
    (hread : SourceUnit.ofText package path source = .ok unit) (hpath : '\n' ∉ path.toList)
    (hlibrary : ∃ library : BarePath, pathTokens? options.runtimeCrate = some library.tokens)
    (hplain : ∀ service ∈ (extracted options unit).services, ∀ operation ∈ service.operations,
      ∀ text ∈ operation.types, Render.IsPlain text)
    (hvalue : (generated options unit).value? = some (some artifact)) (package' path' : String) :
    ∃ made, SourceUnit.ofText package' path' artifact.text = .ok made := by
  obtain ⟨plan, hbuild, hsource, hrender⟩ := exists_plan_of_generated hvalue
  obtain ⟨library, hlibrary⟩ := hlibrary
  rw [← (SourceUnit.ofText_eq hread).2, ← hsource] at hpath
  have htypes : ∀ text ∈ plan.types, Render.IsPlain text := fun text htext =>
    Render.isPlain_of_mem_types hplain (PackagePlan.types_of_build hbuild htext)
  exact Render.Package.render_gives hlibrary hpath htypes _ hrender package' path'

/-- An activity that charges a card. -/
def charging : String :=
  "/// weft:activity\npub trait Payments \x7b\n" ++
  "    fn charge(&self, ctx: &Context, req: Charge) -> Result<Receipt>;\n\x7d\n"

/-- A unit that is read, together with what is tested of it. -/
theorem exists_of_any {package path text : String} {test : SourceUnit → Bool}
    (htest : (SourceUnit.ofText package path text).toOption.any test = true) :
    ∃ unit, SourceUnit.ofText package path text = .ok unit ∧ test unit = true := by
  obtain ⟨unit, hunit, htest⟩ := (Option.any_eq_true _ _).mp htest
  exact ⟨unit, Loading.toOption_eq_some.mp hunit, htest⟩

theorem charging_artifact_is_source :
    ∃ unit artifact, SourceUnit.ofText "shop" "src/shop.rs" charging = .ok unit ∧
      (generated {} unit).value? = some (some artifact) ∧
      ∃ made, SourceUnit.ofText "shop" "src/shop.gen.rs" artifact.text = .ok made := by
  have htest : (SourceUnit.ofText "shop" "src/shop.rs" charging).toOption.any (fun unit =>
      ((generated {} unit).value?.join).isSome ∧
        ∀ service ∈ (extracted {} unit).services, ∀ operation ∈ service.operations,
          ∀ text ∈ operation.types, text ∈ ["& Context", "Charge", "Receipt", "Error"]) = true := by
    decide +kernel
  obtain ⟨unit, hread, htest⟩ := exists_of_any htest
  obtain ⟨hartifact, htexts⟩ := of_decide_eq_true htest
  obtain ⟨artifact, hartifact⟩ := Option.isSome_iff_exists.mp hartifact
  have hvalue := Option.join_eq_some_iff.mp hartifact
  have hcontext : Render.IsPlain "& Context" :=
    ⟨.reference none false (.named (.mk false (.plain ⟨"Context", rfl, rfl⟩) [])), rfl⟩
  have hplain : ∀ text ∈ ["& Context", "Charge", "Receipt", "Error"], Render.IsPlain text := by
    simp only [List.forall_mem_cons]
    exact ⟨hcontext, Render.isPlain_named rfl rfl, Render.isPlain_named rfl rfl,
      Render.isPlain_named rfl rfl, nofun⟩
  have hlibrary : ∃ library : BarePath,
      pathTokens? ({} : GenerationOptions).runtimeCrate = some library.tokens :=
    ⟨_, pathTokens?_bare (.single ⟨"weft_runtime", rfl, rfl⟩)⟩
  exact ⟨unit, artifact, hread, hvalue, artifact_is_source hread (by decide) hlibrary
    (fun service hservice operation hoperation text htext =>
      hplain text (htexts service hservice operation hoperation text htext)) hvalue _ _⟩

/-- Where a path is on two lines, its second line is read as code, so that an artifact may be no
source text. -/
theorem broken_path_breaks_artifact :
    ∃ unit artifact, SourceUnit.ofText "shop" "src/a\n\\b.rs" (taking "u8") = .ok unit ∧
      (generated {} unit).value? = some (some artifact) ∧
      ∀ package path, ∃ position,
        SourceUnit.ofText package path artifact.text = .error position := by
  have htest : (SourceUnit.ofText "shop" "src/a\n\\b.rs" (taking "u8")).toOption.any (fun unit =>
      ((generated {} unit).value?.join).isSome) = true := by
    decide +kernel
  obtain ⟨unit, hread, hartifact⟩ := exists_of_any htest
  obtain ⟨artifact, hartifact⟩ := Option.isSome_iff_exists.mp hartifact
  have hvalue := Option.join_eq_some_iff.mp hartifact
  obtain ⟨plan, -, hsource, hrender⟩ := exists_plan_of_generated hvalue
  have hpath : plan.sourcePath.toList = "src/a".toList ++ '\n' :: '\\' :: "b.rs".toList := by
    rw [hsource, (SourceUnit.ofText_eq hread).2]
    rfl
  exact ⟨unit, artifact, hread, hvalue,
    Render.Package.render_refused hpath (by decide) (fun _ => rfl) _ hrender⟩

end Generation

end ServiceGen
