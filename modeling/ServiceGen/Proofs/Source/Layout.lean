import Mathlib.Data.List.Forall2
import ServiceGen.Proofs.Token.Layout
import ServiceGen.Source.Declaration

/-!
Declarations that differ in layout only. Where they stand may differ, and so may the text of a type
that holds a part kept as written, but in nothing else than which marks are joined. If no type holds
such a part, the places are all that differs.
-/
namespace ServiceGen

open Token

/-- That two texts of types are one and the same, or are printed from tokens that differ in nothing
but in which marks are joined, with a sign of a part that is kept as written. -/
inductive SameType : String → String → Prop
  | same (type : String) : SameType type type
  | kept {tokens tokens' : List Token} (loose : looseAll tokens = looseAll tokens')
    (sign : hasSign tokens = true) : SameType (text tokens) (text tokens')

/-- That the text of a type shows a sign of a part that is kept as written. -/
def KeepsPart (type : String) : Prop := ∃ tokens, type = text tokens ∧ hasSign tokens = true

theorem SameType.of_prints {tokens tokens' : List Token} (hprints : Prints true tokens tokens') :
    SameType (text tokens) (text tokens') := by
  rcases hprints.same rfl with rfl | hsign
  · exact .same _
  · exact .kept hprints.loose hsign

theorem SameType.eq_of_plain {type type' : String} (hsame : SameType type type')
    (hplain : ¬KeepsPart type) : type = type' := by
  cases hsame with
  | same => rfl
  | kept loose sign => exact absurd ⟨_, rfl, sign⟩ hplain

structure Param.Alike (param param' : Param) : Prop where
  name : param.name = param'.name
  type : SameType param.type param'.type

structure Method.Alike (method method' : Method) : Prop where
  name : method.name = method'.name
  docs : method.docs = method'.docs
  receiver : method.receiver = method'.receiver
  isGeneric : method.isGeneric = method'.isGeneric
  isAsync : method.isAsync = method'.isAsync
  params : method.params.Forall₂ Param.Alike method'.params
  results : method.results.Forall₂ Param.Alike method'.results

inductive Member.Alike : Member → Member → Prop
  | method {method method' : Method} (alike : method.Alike method') :
    Alike (.method method) (.method method')
  | other (what : String) (location location' : Location) :
    Alike (.other what location) (.other what location')

/-- That two declarations differ in where they stand, and beyond that in no more than their types
may. -/
structure Item.Alike (item item' : Item) : Prop where
  name : item.name = item'.name
  kind : item.kind = item'.kind
  docs : item.docs = item'.docs
  members : item.members.Forall₂ Member.Alike item'.members

structure SourceUnit.Alike (unit unit' : SourceUnit) : Prop where
  package : unit.package = unit'.package
  path : unit.path = unit'.path
  items : unit.items.Forall₂ Item.Alike unit'.items

/-- The method without the place where it stands. -/
def Method.unplaced (method : Method) : Method := { method with location := default }

def Member.unplaced : Member → Member
  | .method inner => .method inner.unplaced
  | .other what _ => .other what default

def Item.unplaced (item : Item) : Item :=
  { item with location := default, members := item.members.map Member.unplaced }

/-- The unit without the places where its declarations and their members stand. Units are equal up
to places if what remains of them is equal. -/
def SourceUnit.unplaced (unit : SourceUnit) : SourceUnit :=
  { unit with items := unit.items.map Item.unplaced }

/-! The types of a unit -/

def Member.types : Member → List String
  | .method inner => (inner.params ++ inner.results).map Param.type
  | .other .. => []

def Item.types (item : Item) : List String := item.members.flatMap Member.types

/-- The types that the methods of a unit take and give. -/
def SourceUnit.types (unit : SourceUnit) : List String := unit.items.flatMap Item.types

/-- What is the same for two alike things with plain types is the same for two lists of them. -/
theorem map_eq_of_plain {α β : Type} {R : α → α → Prop} {f : α → β} {types : α → List String}
    (hf : ∀ a a', R a a' → (∀ type ∈ types a, ¬KeepsPart type) → f a = f a') {list list' : List α}
    (halike : list.Forall₂ R list') (hplain : ∀ type ∈ list.flatMap types, ¬KeepsPart type) :
    list.map f = list'.map f := by
  induction halike with
  | nil => rfl
  | cons hfirst _ ih =>
    rw [List.flatMap_cons, List.forall_mem_append] at hplain
    rw [List.map_cons, List.map_cons, hf _ _ hfirst hplain.1, ih hplain.2]

theorem Param.Alike.eq_of_plain {param param' : Param} (halike : param.Alike param')
    (hplain : ¬KeepsPart param.type) : param = param' := by
  obtain ⟨name, type⟩ := param
  obtain ⟨name', type'⟩ := param'
  obtain rfl : name = name' := halike.name
  obtain rfl : type = type' := halike.type.eq_of_plain hplain
  rfl

theorem Param.eq_of_plain {params params' : List Param}
    (halike : params.Forall₂ Param.Alike params')
    (hplain : ∀ type ∈ params.map Param.type, ¬KeepsPart type) : params = params' := by
  rw [List.map_eq_flatMap] at hplain
  have hmap := map_eq_of_plain (f := id) (fun _ _ hparam hplain =>
    Param.Alike.eq_of_plain hparam (hplain _ (List.mem_singleton_self _))) halike hplain
  rwa [List.map_id, List.map_id] at hmap

theorem Member.Alike.unplaced_eq {member member' : Member} (halike : member.Alike member')
    (hplain : ∀ type ∈ member.types, ¬KeepsPart type) : member.unplaced = member'.unplaced := by
  cases halike with
  | other what location location' => rfl
  | @method method method' halike =>
    rw [Member.types, List.map_append, List.forall_mem_append] at hplain
    have hparams := Param.eq_of_plain halike.params hplain.1
    have hresults := Param.eq_of_plain halike.results hplain.2
    simp only [Member.unplaced, Method.unplaced, halike.name, halike.docs, halike.receiver,
      halike.isGeneric, halike.isAsync, hparams, hresults]

/-- Units that differ in layout only differ in places only, or a type keeps a part as written. -/
theorem SourceUnit.Alike.unplaced_eq_or {unit unit' : SourceUnit} (halike : unit.Alike unit') :
    unit.unplaced = unit'.unplaced ∨ ∃ type ∈ unit.types, KeepsPart type := by
  have hitem (item item' : Item) (halike : item.Alike item')
      (hplain : ∀ type ∈ item.types, ¬KeepsPart type) : item.unplaced = item'.unplaced := by
    have hmembers := map_eq_of_plain (fun _ _ hmember hplain =>
      Member.Alike.unplaced_eq hmember hplain) halike.members hplain
    simp only [Item.unplaced, halike.name, halike.kind, halike.docs, hmembers]
  refine Classical.or_iff_not_imp_right.mpr fun hplain => ?_
  have hitems := map_eq_of_plain hitem halike.items fun type hmem hkeeps =>
    hplain ⟨type, hmem, hkeeps⟩
  simp only [SourceUnit.unplaced, halike.package, halike.path, hitems]

end ServiceGen
