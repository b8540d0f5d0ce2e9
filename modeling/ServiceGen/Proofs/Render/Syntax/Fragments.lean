import ServiceGen.Proofs.Grammar.Code.Item
import ServiceGen.Proofs.Render.Types
import ServiceGen.Proofs.Token.Word

/-!
The fragments that generated code is made of: names, declared types, paths into the library and what
the user's methods are called by. Each of them is taken by the grammar at the places where it is
used, if the library is named by a bare path and the declared types are plain.
-/
namespace ServiceGen.Render

open Grammar Token

/-! Emissions -/

/-- That whatever is emitted has a property. -/
def Emit.Gives {α : Type} (emit : Emit α) (Holds : α → Prop) : Prop :=
  ∀ a, emit = .ok a → Holds a

namespace Emit.Gives

variable {α β : Type} {Holds : α → Prop} {Then : β → Prop} {a : α}

theorem pure (hholds : Holds a) : Emit.Gives (Pure.pure a) Holds := by
  rintro other hother
  rwa [← Except.ok.inj hother]

theorem any (emit : Emit α) : emit.Gives fun _ => True := fun _ _ => trivial

theorem throw {error : GenerateError} : Emit.Gives (MonadExcept.throw error) Holds := nofun

theorem bind {first : Emit α} {next : α → Emit β} (hfirst : first.Gives Holds)
    (hnext : ∀ a, Holds a → (next a).Gives Then) : (first >>= next).Gives Then := by
  intro b hb
  obtain ⟨a, ha, hrest⟩ := exists_of_bind hb
  exact hnext a (hfirst a ha) b hrest

theorem mapM {emit : α → Emit β} {list : List α} (heach : ∀ a ∈ list, (emit a).Gives Then) :
    (list.mapM emit).Gives fun all => ∀ b ∈ all, Then b := by
  induction list with
  | nil => exact .pure nofun
  | cons a rest ih =>
    rw [List.mapM_cons]
    refine .bind (heach a List.mem_cons_self) fun b hb => ?_
    refine .bind (ih fun other hother => heach other (List.mem_cons_of_mem _ hother)) ?_
    exact fun all hall => .pure (List.forall_mem_cons.mpr ⟨hb, hall⟩)

end Emit.Gives

/-! Names and types -/

/-- The code of a name. -/
def IsName (code : Code) : Prop := ∃ name : Name, code = [.ident name.text]

/-- An identifier that is read is the only token of its text. -/
theorem exists_of_readAll_ident {trees : List Located} {found : String} {printed : List Token}
    (hread : Reader.readAll Reader.ident trees = .ok (found, printed)) :
    ∃ position, trees = [.ident found position] ∧ Ahead.reserved.contains found = false := by
  have hbranch : Reader.readAll (if Ahead.isIdent trees then Reader.anyIdent else Reader.fail)
      trees = .ok (found, printed) := hread
  cases hident : Ahead.isIdent trees with
  | false => simp [hident, Reader.readAll, Reader.fail] at hbranch
  | true =>
    rw [if_pos hident] at hbranch
    cases trees with
    | nil => exact absurd hident Bool.noConfusion
    | cons tree more =>
      cases tree with
      | ident name position =>
        cases more with
        | nil =>
          obtain ⟨rfl, -⟩ := Prod.mk.inj (Except.ok.inj hbranch)
          exact ⟨position, rfl, by simpa [Ahead.isIdent] using hident⟩
        | cons => simp [Reader.readAll, Reader.anyIdent] at hbranch
      | _ => exact absurd hident Bool.noConfusion

theorem Emit.Gives.ident (text : String) : (Render.ident text).Gives IsName := by
  intro code hcode
  rw [Render.ident] at hcode
  cases hfound : Grammar.identifier? text with
  | none => simp [hfound] at hcode
  | some found =>
    simp only [hfound, Except.ok.injEq] at hcode
    rw [Grammar.identifier?] at hfound
    split at hfound
    · next name printed hread =>
      obtain rfl := Option.some.inj hfound
      rw [readText] at hread
      obtain ⟨trees, hlexed, hread⟩ : ∃ trees, Lexer.read text.toList = .ok trees ∧
          Reader.readAll Reader.ident trees = .ok (name, printed) := by
        cases hlexed : Lexer.read text.toList with
        | error position => simp [hlexed, Bind.bind, Except.bind] at hread
        | ok trees => exact ⟨trees, rfl, by simpa [hlexed, Bind.bind, Except.bind] using hread⟩
      obtain ⟨position, rfl, hfree⟩ := exists_of_readAll_ident hread
      have hword := Lexer.worded_read hlexed name position List.mem_cons_self
      exact ⟨⟨name, hword, hfree⟩, hcode.symm⟩
    · cases hfound

theorem Emit.Gives.type {text : String} (htext : IsPlain text) (place : String) :
    (Render.type text place).Gives (IsType true) := by
  obtain ⟨type, rfl⟩ := htext
  intro code hcode
  rw [Render.type, Grammar.typeTokens?_text] at hcode
  exact Except.ok.inj hcode ▸ type.isType

/-! The library -/

/-- The context of code whose library is named by a bare path. -/
def library (path : BarePath) : Context := ⟨path.tokens⟩

section Library

variable (path : BarePath) {plus : Bool} {text : String} {argument args more : List Token}

theorem lib_eq (names : List Name) (htext : code "::" ++ code text = chain (names.map .name)) :
    (library path).lib text = (path.join names).tokens := by
  rw [Context.lib, List.append_assoc, htext, BarePath.tokens_join]
  rfl

theorem isType_lib (names : List Name)
    (htext : code "::" ++ code text = chain (names.map .name)) :
    IsType plus ((library path).lib text) := lib_eq path names htext ▸ (path.join names).isType

/-- A reference to a type of the library. -/
theorem isType_lib_referenced (changing : Bool) (names : List Name)
    (htext : code "::" ++ code text = chain (names.map .name)) :
    IsType plus
      (.punct '&' false ::
        ((if changing then [.ident "mut"] else []) ++ (library path).lib text)) :=
  (isType_lib path names htext).referenced changing

variable (text)

/-- The path of a type of the library up to its argument. -/
theorem lib_eq_opening (names : List Name) (last : Name)
    (htext : code "::" ++ code text =
      chain ((names ++ [last]).map .name) ++ [.punct '<' false]) :
    (library path).lib text = (Opening.mk (path.join names) last).code ++ [.punct '<' false] := by
  rw [Context.lib, List.append_assoc, htext, List.map_append, BarePath.chain_append, Opening.code,
    Option.elim, BarePath.tokens_join]
  simp [library, chain, BareSegment.text]

variable {text}

/-- The path of a type of the library with what else stands in front of its argument. -/
theorem lib_split {behind : Code} (front : String) (htext : code text = code front ++ behind) :
    (library path).lib text = (library path).lib front ++ behind := by
  rw [Context.lib, Context.lib, htext, List.append_assoc, List.append_assoc, List.append_assoc]

/-- A type of the library with an argument. -/
theorem isType_lib_of (names : List Name) (last : Name)
    (htext : code "::" ++ code text = chain ((names ++ [last]).map .name) ++ [.punct '<' false])
    (hargument : IsType true argument) :
    IsType plus ((library path).lib text ++ (argument ++ code ">")) := by
  rw [lib_eq_opening path text names last htext, List.append_assoc]
  exact (Opening.mk (path.join names) last).isType false hargument

/-- A type of the library with an argument whose closing bracket is joined to its own. -/
theorem isType_lib_nested (names : List Name) (last : Name) (inner : Opening)
    (htext : code "::" ++ code text = chain ((names ++ [last]).map .name) ++ [.punct '<' false])
    (hargument : IsType true argument) :
    IsType plus
      ((library path).lib text ++ (inner.code ++ (code "<" ++ (argument ++ code ">>")))) := by
  have htype : IsType plus _ := (Opening.mk (path.join names) last).isType_nested inner hargument
  simp only [nested, angled, List.append_assoc, List.cons_append] at htype
  rw [lib_eq_opening path text names last htext, List.append_assoc]
  exact htype

/-- The context of a workflow as a parameter. -/
theorem isParam_context {isFirst : Bool} :
    IsParam isFirst (code "ctx : &" ++ (library path).lib "workflow :: Context") :=
  (isType_lib_referenced path false [⟨"workflow", rfl, rfl⟩, ⟨"Context", rfl, rfl⟩] rfl).isParam
    ⟨"ctx", rfl, rfl⟩

/-- The worker that something is registered with, behind the value that is registered. -/
theorem isParams_worker :
    IsParams true (code "self , worker : & mut" ++ (library path).lib "worker :: Worker") :=
  .cons (isParam_self false) (.last ((isType_lib_referenced path true
    [⟨"worker", rfl, rfl⟩, ⟨"Worker", rfl, rfl⟩] rfl).isParam ⟨"worker", rfl, rfl⟩))

variable (text)

/-- Options that may be left out as a parameter. -/
theorem isParam_options {isFirst : Bool} (names : List Name)
    (htext : code "::" ++ code text = chain (names.map .name)) :
    IsParam isFirst (code "options : Option <" ++ ((library path).lib text ++ code ">")) :=
  ((Opening.mk none ⟨"Option", rfl, rfl⟩).isType false (isType_lib path names htext)).isParam
    ⟨"options", rfl, rfl⟩

/-- A call of a function of the library, with what follows it. -/
theorem isLead_lib (first : Name) (names : List Name)
    (htext : code "::" ++ code text = chain ((first :: names).map .name))
    (hargs : IsArguments args) (hmore : Tail true more) :
    IsLead ((library path).lib text ++ (parens args ++ more)) := by
  rw [lib_eq path (first :: names) htext]
  refine (path.join (first :: names)).isLead_tail (.inr ?_) (.call hargs hmore)
  simp [BarePath.join]

end Library

/-! Expressions -/

/-- A structure that is made of its fields. -/
theorem isExpr_structure (name : Name) {fields : Code} (hfields : Commas IsField fields) :
    IsExpr ([.ident name.text] ++ braces fields) :=
  (((BarePath.single name).isAtom_structure hfields).isOperand fun _ _ => trivial).isExpr

/-- A literal that ends wherever a printed token may end. -/
theorem isLiteral_of_first? {text : String}
    (hfront : ∃ first others, text.toList = first :: others ∧ first ≠ '/')
    (hend : Lexeme.first? text.toList = some (.literal text.toList, text.toList.length))
    (hmore : ∀ c more, c = ' ' ∨ c = ')' ∨ c = ']' ∨ c = '\n' →
      Lexeme.first? (text.toList ++ c :: more) = some (.literal text.toList, text.toList.length)) :
    IsLiteral text := by
  refine ⟨hfront, fun rest hapart => ?_⟩
  cases rest with
  | nil => rwa [List.append_nil]
  | cons c more => exact hmore c more (apart_cons.mp hapart)

theorem isExpr_literal {text : String} (htext : IsLiteral text) : IsExpr [.literal text] :=
  ((isAtom_literal htext).isOperand fun _ _ => trivial).isExpr

theorem isExpr_quoted (text : String) : IsExpr (quoted text) :=
  isExpr_literal (isLiteral_ofText text)

theorem isExpr_block {body : Code} (hbody : IsBody body) : IsExpr (braces body) :=
  (hbody.isAtom.isOperand fun _ _ => trivial).isExpr

/-- The value that a method is called on. -/
def selfPath : BarePath := ⟨false, .keyword .self, []⟩

theorem selfPath_isLead {more : Code} (hmore : Tail true more) : IsLead (selfPath.tokens ++ more) :=
  selfPath.isLead_tail (.inl nofun) hmore

theorem commas_of_forall {IsItem : List Token → Prop} {pieces : List Code}
    (hpieces : ∀ piece ∈ pieces, IsItem piece) : Commas IsItem (commas pieces) := by
  induction pieces with
  | nil => exact .nil
  | cons piece pieces ih =>
    have hmore := ih fun other hother => hpieces other (List.mem_cons_of_mem _ hother)
    have hpiece := hpieces piece List.mem_cons_self
    cases pieces with
    | nil => simpa [commas, List.intercalate] using Commas.last hpiece
    | cons second pieces => exact Commas.cons hpiece hmore

/-- Items with a comma behind each of them. -/
theorem commas_flatten {IsItem : List Token → Prop} {pieces : List Code}
    (hpieces : ∀ piece ∈ pieces, ∃ item, IsItem item ∧ piece = item ++ [comma]) :
    Commas IsItem pieces.flatten := by
  induction pieces with
  | nil => exact .nil
  | cons piece pieces ih =>
    obtain ⟨item, hitem, rfl⟩ := hpieces piece List.mem_cons_self
    rw [List.flatten_cons, List.append_assoc]
    exact .cons hitem (ih fun other hother => hpieces other (List.mem_cons_of_mem _ hother))

/-! Calls of the user's methods -/

/-- Tokens behind which other parameters may stand. -/
def LeadsParams (tokens : List Token) : Prop :=
  ∀ more, IsParams false more → IsParams false (tokens ++ more)

theorem LeadsParams.isParams {tokens : List Token} (hleads : LeadsParams tokens) :
    IsParams false tokens := List.append_nil tokens ▸ hleads [] .nil

theorem requestParam_gives {request : Option String} (hplain : ∀ text ∈ request, IsPlain text)
    (place : String) : (requestParam request place).Gives LeadsParams := by
  cases request with
  | none => exact .pure fun _ => id
  | some text =>
    refine .bind (.type (hplain text rfl) place) fun type htype => .pure fun more hmore => ?_
    simp only [List.append_assoc]
    exact .cons (htype.isParam ⟨"req", rfl, rfl⟩) hmore

theorem isExpr_unit : IsExpr (parens []) := (Commas.nil.isAtom.isOperand fun _ _ => trivial).isExpr

theorem isExpr_requestArgument (request : Option String) : IsExpr (requestArgument request) := by
  rw [requestArgument]
  split
  · exact Name.isExpr ⟨"req", rfl, rfl⟩
  · exact isExpr_unit

theorem isArguments_direct (call : UserCall) : IsArguments (commas (directArguments call)) := by
  have hctx : IsExpr (code "ctx") := Name.isExpr ⟨"ctx", rfl, rfl⟩
  have hreq : IsExpr (code "req") := Name.isExpr ⟨"req", rfl, rfl⟩
  refine commas_of_forall fun piece hpiece => ?_
  simp only [directArguments, List.mem_append, List.mem_ite_nil_right, List.mem_singleton] at hpiece
  obtain ⟨-, rfl⟩ | ⟨-, rfl⟩ := hpiece
  · exact hctx
  · exact hreq

/-- A parameter of a closure, with what is passed on of it. -/
structure ClosureParam.IsTaken (param : ClosureParam) : Prop where
  declared : IsClosureParam param.declared
  argument : ∀ code ∈ param.argument, IsExpr code

/-- A parameter that nothing is passed on of. -/
theorem ClosureParam.IsTaken.ignored {declared : Code} (hdeclared : IsClosureParam declared) :
    ClosureParam.IsTaken ⟨declared, none⟩ := ⟨hdeclared, by simp⟩

theorem takenParam_gives (call : UserCall) {text : String} (hplain : IsPlain text) (name : Name)
    {label : String} (hlabel : code label = [.ident name.text]) :
    (takenParam call label text).Gives ClosureParam.IsTaken := by
  refine .bind (.type hplain call.method) fun type htype => .pure ⟨⟨name, type, htype, ?_⟩, ?_⟩
  · simp only [hlabel, List.append_assoc]
    rfl
  · rintro code ⟨⟩
    exact hlabel ▸ name.isExpr

theorem contextParam_gives {call : UserCall} {fallback : Code}
    (hplain : ∀ text ∈ call.types, IsPlain text) (hfallback : IsType true fallback) :
    (contextParam call fallback).Gives fun params => ∀ param ∈ params, param.IsTaken := by
  unfold contextParam
  split
  · split
    · next text htext =>
      have htext : IsPlain text := hplain text (by simp [UserCall.types, htext])
      refine .bind (takenParam_gives call htext ⟨"ctx", rfl, rfl⟩ rfl) fun param hparam => ?_
      exact .pure (List.forall_mem_singleton.mpr hparam)
    · exact .pure (List.forall_mem_singleton.mpr
        (.ignored ⟨⟨"_ctx", rfl, rfl⟩, fallback, hfallback, rfl⟩))
  · exact .pure (List.forall_mem_nil _)

theorem requestClosureParam_gives {call : UserCall} (hplain : ∀ text ∈ call.types, IsPlain text) :
    (requestClosureParam call).Gives ClosureParam.IsTaken := by
  unfold requestClosureParam
  split
  · next text htext =>
    have htaken : text ∈ call.types := by simp [UserCall.types, htext]
    exact takenParam_gives call (hplain text htaken) ⟨"req", rfl, rfl⟩ rfl
  · exact .pure (.ignored ⟨⟨"_req", rfl, rfl⟩, parens [], PlainType.unit.isType, rfl⟩)

/-- A closure that calls a method of the user on what a name stands for. -/
theorem userClosure_gives (target : Name) {call : UserCall} {fallback : Code}
    (hplain : ∀ text ∈ call.types, IsPlain text) (hfallback : IsType true fallback) :
    (userClosure [.ident target.text] call fallback).Gives IsExpr := by
  refine .bind (.ident call.method) ?_
  rintro - ⟨method, rfl⟩
  refine .bind (contextParam_gives hplain hfallback) fun context hcontext => ?_
  refine .bind (requestClosureParam_gives hplain) fun request hrequest => ?_
  have hall : ∀ param ∈ context ++ [request], param.IsTaken := by
    simpa [or_imp, forall_and] using ⟨hcontext, hrequest⟩
  have hparams : Commas IsClosureParam
      (commas ((context ++ [request]).map ClosureParam.declared)) :=
    commas_of_forall (List.forall_mem_map.mpr fun param hparam => (hall param hparam).declared)
  have hargs : IsArguments (commas ((context ++ [request]).filterMap ClosureParam.argument)) := by
    refine commas_of_forall fun piece hpiece => ?_
    obtain ⟨param, hparam, hpiece⟩ := List.mem_filterMap.mp hpiece
    exact (hall param hparam).argument piece hpiece
  have hbody := ((BarePath.single target).isOperand (.method method hargs .nil)).isExpr
  have hclosure := isAtom_closure true false hparams nofun hbody
  refine .pure ?_
  simp only [List.append_assoc]
  exact (hclosure.isOperand fun _ => id).isExpr

/-! Objects of the user's services and of interfaces -/

section

variable {plus : Bool}

/-- The shared object of a service. -/
def shared : Opening := ⟨some ⟨true, .name ⟨"std", rfl, rfl⟩, [.name ⟨"sync", rfl, rfl⟩]⟩,
  ⟨"Arc", rfl, rfl⟩⟩

theorem isType_service (service : Name) :
    IsType true (.ident "dyn" :: ((BarePath.single service).tokens ++
      markers [⟨"Send", rfl, rfl⟩, ⟨"Sync", rfl, rfl⟩])) :=
  (BarePath.single service).isType_objects ⟨"Send", rfl, rfl⟩ [⟨"Sync", rfl, rfl⟩]

theorem isType_sharedService (service : Name) :
    IsType plus (sharedService [.ident service.text]) :=
  shared.isType false (isType_service service)

theorem isType_boxed (interface : Name) : IsType plus (boxed [.ident interface.text]) :=
  (Opening.mk none ⟨"Box", rfl, rfl⟩).isType false (BarePath.single interface).isType_object

end

/-- A shared object is copied for a closure. -/
theorem isStatement_cloned (name : Name) {value : Code}
    (hvalue : IsOperand (.punct '&' false :: value)) :
    IsStatement (.ident "let" :: .ident name.text :: (code "= :: std :: sync :: Arc :: clone" ++
      (parens (.punct '&' false :: value) ++ code ";"))) :=
  name.isTarget.isStatement ((BarePath.mk true (.name ⟨"std", rfl, rfl⟩)
    [.name ⟨"sync", rfl, rfl⟩, .name ⟨"Arc", rfl, rfl⟩, .name ⟨"clone", rfl, rfl⟩]).isOperand
      (.call (.last hvalue.isExpr) .nil)).isExpr

/-- The service of a controller is copied for a closure. -/
theorem isStatement_inner : IsStatement (code "let inner = :: std :: sync :: Arc :: clone" ++
    (parens (code "& self . inner") ++ code ";")) := by
  have hinner : IsOperand (.punct '&' false :: (selfPath.tokens ++ code ". inner")) :=
    (selfPath.isOperand (.field ⟨"inner", rfl, rfl⟩ .nil)).referenced fun _ => ⟨rfl, rfl⟩
  exact isStatement_cloned ⟨"inner", rfl, rfl⟩ hinner

/-- A call of `Box :: new`. -/
theorem isLead_boxed {args : Code} (hargs : IsArguments args) :
    IsLead (code "Box :: new" ++ parens args) :=
  (BarePath.mk false (.name ⟨"Box", rfl, rfl⟩) [.name ⟨"new", rfl, rfl⟩]).isLead_tail (.inl nofun)
    (.call hargs .nil)

end ServiceGen.Render

/-!
Generated interfaces with their hidden implementations, the functions that make them, and the
controllers, which hold one field. They are items if the declarations of their methods are
signatures and the bodies of these are bodies.
-/
namespace ServiceGen.Render

open Grammar Token

/-- The declaration of a method. -/
def IsSignature (tokens : Code) : Prop :=
  ∃ (name : Name) (params : Code) (result : Option Code), IsParams true params ∧
    (∀ type ∈ result, IsType true type) ∧ tokens = Grammar.signature name params result

/-- A method: its declaration and its body. -/
structure IsMethod (method : Code × Code) : Prop where
  signature : IsSignature method.1
  body : IsBody method.2

theorem request_isPlain {method : MethodPlan} (hplain : ∀ text ∈ method.types, IsPlain text) :
    ∀ text ∈ method.request, IsPlain text :=
  fun text htext => hplain text (by simp [MethodPlan.types, Option.mem_def.mp htext])

theorem response_isPlain {method : MethodPlan} (hplain : ∀ text ∈ method.types, IsPlain text) :
    IsPlain method.response := hplain _ (by simp [MethodPlan.types])

theorem isPieces_flatMap {α β : Type} {reader : Grammar → Reader β} {list : List α}
    {tokens : α → Code} (hlist : ∀ a ∈ list, IsPieces reader (tokens a)) :
    IsPieces reader (list.flatMap tokens) := by
  rw [List.flatMap_def]
  exact .flatten (List.forall_mem_map.mpr hlist)

variable {methods : List (Code × Code)}

theorem isPieces_declared (hmethods : ∀ method ∈ methods, IsMethod method) (file : String) :
    IsPieces (Member.ofTrait · file)
      (methods.flatMap fun (signature, _) => signature ++ code ";") := by
  refine isPieces_flatMap fun ⟨declared, body⟩ hmethod => .ofPiece ?_
  obtain ⟨name, params, result, hparams, hresult, rfl⟩ := (hmethods _ hmethod).signature
  exact isPiece_declared file name hparams hresult

theorem isPieces_defined (hmethods : ∀ method ∈ methods, IsMethod method) :
    IsPieces Member.ofImplementation
      (methods.flatMap fun (signature, body) => signature ++ braces body) := by
  refine isPieces_flatMap fun ⟨declared, body⟩ hmethod => .ofPiece ?_
  obtain ⟨⟨name, params, result, hparams, hresult, rfl⟩, hbody⟩ := hmethods _ hmethod
  exact isPiece_method false name hparams hresult hbody

/-- An interface is an item. -/
theorem isBareItem_interface (name : Name) (hmethods : ∀ method ∈ methods, IsMethod method) :
    IsBareItem (code "pub trait" ++ ([.ident name.text] ++ (code ": Send + Sync" ++
      braces (methods.flatMap fun (signature, _) => signature ++ code ";")))) :=
  isBareItem_trait true name ⟨"Send", rfl, rfl⟩ [⟨"Sync", rfl, rfl⟩] (isPieces_declared hmethods)

/-- The hidden implementation of an interface. -/
theorem areItems_implementation (name implementation : Name) {data : Code} (hdata : IsData data)
    (hmethods : ∀ method ∈ methods, IsMethod method) :
    AreItems (code "struct" ++ ([.ident implementation.text] ++ (data ++ (code "impl" ++
      ([.ident name.text] ++ (code "for" ++ ([.ident implementation.text] ++
        braces (methods.flatMap fun (signature, body) => signature ++ braces body)))))))) :=
  (isBareItem_structure false implementation hdata).areItems.append
    (isBareItem_implementation name (some implementation) (isPieces_defined hmethods)).areItems

theorem areItems_documented (text : String) {item : Code} (hitem : IsBareItem item) :
    AreItems (documented text ++ item) := hitem.areItems_documented (isLiteral_ofText text)

/-- A function that makes an implementation of an interface. -/
theorem areItems_constructor (constructor name : Name) {params body : Code}
    (hparams : IsParams true params) (hbody : IsBody body) :
    AreItems (code "pub fn" ++ ([.ident constructor.text] ++ (parens params ++ (code "->" ++
      (boxed [.ident name.text] ++ braces body))))) := by
  have hresult : ∀ type ∈ some (boxed [.ident name.text]), IsType true type := by
    rintro type ⟨⟩
    exact isType_boxed name
  exact (isBareItem_function true constructor hparams hresult hbody).areItems

/-! Controllers -/

theorem isType_self : IsType true (code "Self") :=
  (BarePath.mk false (.keyword .selfType) []).isType

/-- The function that makes a structure of its only field. -/
theorem isPieces_new (field : Name) {type : Code} (htype : IsType true type) :
    IsPieces Member.ofImplementation (code "pub fn new" ++
      (parens (.ident field.text :: .punct ':' false :: type) ++ (code "-> Self" ++
        braces (code "Self" ++ braces [.ident field.text])))) := by
  have hbody : IsBody (code "Self" ++ braces [.ident field.text]) :=
    .result ((BarePath.mk false (.keyword .selfType) []).isLead_structure (.inl nofun)
      (.last (.named field)))
  have hresult : ∀ type ∈ some (code "Self"), IsType true type := by
    rintro type ⟨⟩
    exact isType_self
  exact .ofPiece (isPiece_method true ⟨"new", rfl, rfl⟩ (.last (htype.isParam field)) hresult hbody)

/-- A controller with its field, the function that makes it and its own methods. -/
theorem areItems_controller (text : String) (controller field : Name) {type members : Code}
    (htype : IsType true type) (hmembers : IsPieces Member.ofImplementation members) :
    AreItems (documented text ++ (code "pub struct" ++ ([.ident controller.text] ++
      (braces (.ident field.text :: .punct ':' false :: (type ++ [comma])) ++ (code "impl" ++
        ([.ident controller.text] ++ braces (code "pub fn new" ++
          (parens (.ident field.text :: .punct ':' false :: type) ++ (code "-> Self" ++
            (braces (code "Self" ++ braces [.ident field.text]) ++ members)))))))))) := by
  have hfield : IsDeclaredField (.ident field.text :: .punct ':' false :: type) :=
    ⟨false, field, type, htype, rfl⟩
  have hdata : IsData (braces (.ident field.text :: .punct ':' false :: (type ++ [comma]))) :=
    .fields (.cons hfield .nil)
  exact (areItems_documented text (isBareItem_structure true controller hdata)).append
    (isBareItem_implementation controller none
      ((isPieces_new field htype).append hmembers)).areItems

end ServiceGen.Render
