import ServiceGen.Proofs.Grammar.Plain
import ServiceGen.Proofs.Plan.Agreement
import ServiceGen.Proofs.Render.Refusal
import ServiceGen.Source.Reading

/-!
Declared types in generated code. Where code is generated, the text of a type is read again. If the
code is refused for a type, it is one of the types of its plan, and its text is no type. The text of
a plain type stands for that type again, so a package with plain types is never refused for them.
-/
namespace ServiceGen

namespace Render

/-- A type that a package is refused for is one of its plan, and its text is no type. -/
theorem Package.render_blames (options : GenerationOptions) (plan : PackagePlan)
    (text context : String) (herror : render options plan = .error (.type text context)) :
    text ∈ plan.types ∧ Grammar.typeTokens? text = none :=
  render_failsFor options plan _ herror

/-- Whether a text is that of a plain type. -/
def IsPlain (text : String) : Prop :=
  ∃ type : Grammar.PlainType true, Token.text type.tokens = text

/-- A plain type is never refused, and what is generated for it has its text. -/
theorem type_of_isPlain {text : String} (hplain : IsPlain text) (place : String) :
    ∃ tokens, Render.type text place = .ok tokens ∧ Token.text tokens = text := by
  obtain ⟨type, rfl⟩ := hplain
  exact ⟨type.tokens, by rw [Render.type, Grammar.typeTokens?_text], rfl⟩

theorem isPlain_unitType : IsPlain unitType := ⟨.unit, rfl⟩

theorem isPlain_named {text : String} (hword : Token.IsWord text.toList)
    (hfree : Grammar.Ahead.reserved.contains text = false) : IsPlain text :=
  ⟨.named (.mk false (.plain ⟨text, hword, hfree⟩) []), rfl⟩

/-- The types of a package are plain if those of its operations are. -/
theorem isPlain_of_mem_types {package : Package}
    (hplain : ∀ service ∈ package.services, ∀ operation ∈ service.operations,
      ∀ text ∈ operation.types, IsPlain text) {text : String}
    (htext : text ∈ package.services.flatMap Service.types) : IsPlain text := by
  obtain ⟨service, hservice, htext⟩ := List.mem_flatMap.mp htext
  obtain rfl | htext := List.mem_cons.mp htext
  · exact isPlain_unitType
  · obtain ⟨operation, hoperation, htext⟩ := List.mem_flatMap.mp htext
    exact hplain service hservice operation hoperation text htext

/-- Plain types survive the trip through text: where code is generated, each of them is read as a
type of the same text, so that no package is refused for them. -/
theorem types_survive {options : GenerationOptions} {package : Package} {plan : PackagePlan}
    (hplain : ∀ service ∈ package.services, ∀ operation ∈ service.operations,
      ∀ text ∈ operation.types, IsPlain text)
    (hbuild : PackagePlan.build options package = .ok plan) :
    (∀ text ∈ package.services.flatMap Service.types, ∀ place,
      ∃ tokens, Render.type text place = .ok tokens ∧ Token.text tokens = text) ∧
    ∀ text place, Package.render options plan ≠ .error (.type text place) := by
  have hall : ∀ text ∈ package.services.flatMap Service.types, IsPlain text :=
    fun text htext => isPlain_of_mem_types hplain htext
  refine ⟨fun text htext place => type_of_isPlain (hall text htext) place, ?_⟩
  intro text place herror
  obtain ⟨htext, hread⟩ := Package.render_blames options plan text place herror
  obtain ⟨type, rfl⟩ := hall text (PackagePlan.types_of_build hbuild htext)
  rw [Grammar.typeTokens?_text] at hread
  cases hread

theorem store_types_survive :
    ∃ plan, PackagePlan.build {} Plan.store = .ok plan ∧
      (∀ text ∈ Plan.store.services.flatMap Service.types, ∀ place,
        ∃ tokens, Render.type text place = .ok tokens ∧ Token.text tokens = text) ∧
      ∀ text place, Package.render {} plan ≠ .error (.type text place) := by
  have htexts : ∀ service ∈ Plan.store.services, ∀ operation ∈ service.operations,
      ∀ text ∈ operation.types, text ∈ ["& Context", "()", "Charge", "Receipt", "Cart", "Detail",
        "Status", "Change", "Note"] := by decide +kernel
  have hcontext : IsPlain "& Context" :=
    ⟨.reference none false (.named (.mk false (.plain ⟨"Context", rfl, rfl⟩) [])), rfl⟩
  have hplain : ∀ text ∈ ["& Context", "()", "Charge", "Receipt", "Cart", "Detail", "Status",
      "Change", "Note"], IsPlain text := by
    simp only [List.forall_mem_cons]
    exact ⟨hcontext, isPlain_unitType, isPlain_named rfl rfl, isPlain_named rfl rfl,
      isPlain_named rfl rfl, isPlain_named rfl rfl, isPlain_named rfl rfl, isPlain_named rfl rfl,
      isPlain_named rfl rfl, nofun⟩
  have hproblems : (PackagePlan.ledger {} Plan.store).problems.isEmpty := by decide +kernel
  obtain ⟨plan, hbuild⟩ := PackagePlan.exists_build hproblems
  exact ⟨plan, hbuild, types_survive (fun service hservice operation hoperation text htext =>
    hplain text (htexts service hservice operation hoperation text htext)) hbuild⟩

/-- The types of all parameters that a unit declares. -/
def declaredTypes (unit : SourceUnit) : List String :=
  unit.items.flatMap fun item => item.members.flatMap fun
    | .method method => method.params.map Param.type
    | .other _ _ => []

/-- Not all types survive. Where two calls of macros follow one another in the length of an array,
printing puts parentheses around the second, which are read again as those of a call. -/
theorem adjacent_calls_change :
    ((SourceUnit.ofText "shop" "src/a.rs"
        "pub trait A { fn x(&self, b: [u8; { try!{} try!{} + 1 }]); }").toOption.map fun unit =>
      (declaredTypes unit).map fun text =>
        (text, (Render.type text "x").toOption.map Token.text)) =
      some [("[u8 ; { try ! { } (try ! { }) + 1 }]",
        some "[u8 ; { (try ! { }) (try ! { }) + 1 }]")] := by
  decide +kernel

end Render

end ServiceGen
