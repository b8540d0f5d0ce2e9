import ServiceGen.Grammar.Item
import ServiceGen.Proofs.Grammar.SteadyStatement
import ServiceGen.Proofs.Source.Layout

/-!
The readers of signatures, members and items are steady if the entrances are that they lead to.
What is kept of them does not depend on layout, but for where it stands. The types of parameters
and results are the parts that have to be exact.
-/
namespace ServiceGen.Grammar

open Token Ahead

variable {g : Grammar}

namespace Steady

variable {α β : Type} {exact : Bool} {R : α → β → Prop} {reader : Reader α} {reader' : Reader β}

/-- What the answers of each reader are is known of them together. -/
theorem knowing {Q : α → Prop} {Q' : β → Prop} (hreader : Steady exact R reader reader')
    (hanswers : Answers Q reader) (hanswers' : Answers Q' reader') :
    Steady exact (fun a b => R a b ∧ Q a ∧ Q' b) reader reader' := by
  intro input input' halike
  obtain ⟨_, _, hrun, hrun'⟩
    | ⟨a, after, b, after', hrun, hrun', hanswer, hafter, hrest, hprinted⟩ :=
    hreader.run halike
  · rw [hrun, hrun']
    exact .error _ _
  · have ha := (hanswers input a after hrun).1
    have hb := (hanswers' input' b after' hrun').1
    rw [hrun, hrun']
    exact .ok ⟨hanswer, ha, hb⟩ hafter hrest hprinted

end Steady

namespace Signature

@[simp] theorem begins_bareAll (safe : Bool) (tokens : List Located) :
    begins safe (Located.bareAll tokens) = begins safe tokens := by
  simp only [begins, isWord_bareAll, isText_bareAll, Located.tail_bareAll,
    ← apply_ite Located.bareAll]

inductive ParamForm.Alike : ParamForm → ParamForm → Prop
  | receiver (receiver : Receiver) : Alike (.receiver receiver) (.receiver receiver)
  | typed {param param' : Param} (alike : param.Alike param') : Alike (.typed param) (.typed param')
  | dots : Alike .dots .dots

/-- That two signatures differ in layout only. -/
structure Form.Alike (form form' : Form) : Prop where
  name : form.name = form'.name
  receiver : form.receiver = form'.receiver
  isGeneric : form.isGeneric = form'.isGeneric
  isAsync : form.isAsync = form'.isAsync
  isSafe : form.isSafe = form'.isSafe
  params : form.params.Forall₂ Param.Alike form'.params
  results : form.results.Forall₂ Param.Alike form'.results

/-- The results of a type do not depend on layout. -/
theorem alike_resultsOf {form form' : TypeForm} {tokens tokens' : List Token}
    (hform : form.Alike true form') (htokens : Prints true tokens tokens') :
    (resultsOf form tokens).Forall₂ Param.Alike (resultsOf form' tokens') := by
  have hwhole : List.Forall₂ Param.Alike [⟨none, Token.text tokens⟩] [⟨none, Token.text tokens'⟩] :=
    .cons ⟨rfl, .of_prints htokens⟩ .nil
  cases hform with
  | unit => exact .nil
  | bound | copied | other => exact hwhole
  | @path form form' hform =>
    rw [resultsOf, resultsOf, ← hform.name]
    split
    · have harguments := hform.arguments
      generalize form.arguments = arguments, form'.arguments = arguments' at harguments ⊢
      cases harguments with
      | absent => exact hwhole
      | angled htypes empty =>
        -- One type is a value, whose error stands beside the name, and two are a value and an
        -- error.
        rcases htypes with _ | ⟨hvalue, _ | ⟨herror, _ | _⟩⟩
        · exact hwhole
        · have hbeside := hform.lead.append (.refl [.ident "Error"])
          exact .cons ⟨rfl, .of_prints hvalue⟩ (.cons ⟨rfl, .of_prints hbeside⟩ .nil)
        · exact .cons ⟨rfl, .of_prints hvalue⟩ (.cons ⟨rfl, .of_prints herror⟩ .nil)
        · exact hwhole
    · exact hwhole

/-- An arrow is no sign, whatever stands behind it. -/
theorem hasSign_arrow (type : List Token) :
    hasSign (.punct '-' true :: .punct '>' false :: type) = hasSign type := by
  rw [hasSign, hasSign]
  rcases type with _ | ⟨_ | _ | _ | _, rest⟩ <;> rfl

variable (hg : Robust g)

include hg

/-- The type of a result stands behind an arrow. -/
theorem arrow_result : Answers (fun answer => answer.1.isSome = true →
    ∃ type, answer.2 = .punct '-' true :: .punct '>' false :: type)
    (Reader.printing (Type.result g true)) := by
  rintro input ⟨form, tokens⟩ after hrun
  refine ⟨fun hform => ?_,
    ((Steady.printing (Type.steady_result hg true : Steady false _ _ _)).suffix hrun).1⟩
  rw [Reader.printing] at hrun
  split at hrun
  · next form' after' hrun' =>
    obtain ⟨hanswer, -⟩ := Prod.mk.inj (Except.ok.inj hrun)
    obtain ⟨rfl, rfl⟩ := Prod.mk.inj hanswer
    obtain ⟨arrow, between, harrow, hrun'⟩ := of_bind hrun'
    rcases of_op? harrow with ⟨rfl, hop⟩ | ⟨rfl, -⟩
    · obtain ⟨type, last, htype, hlast⟩ := of_bind hrun'
      obtain ⟨-, rfl⟩ := Prod.mk.inj (Except.ok.inj hlast)
      obtain ⟨more, hmore⟩ := ((hg.type false true).suffix htype).2
      rw [(of_op hop).2.2] at hmore
      exact ⟨more.reverse, by simp [← hmore, ofOperator]⟩
    · obtain ⟨rfl, -⟩ := Prod.mk.inj (Except.ok.inj hrun')
      exact absurd hform Bool.false_ne_true
  · exact absurd hrun (by simp)

theorem steady_result : Steady false
    (fun answer answer' => Option.Rel (TypeForm.Alike true) answer.1 answer'.1 ∧
      (answer.1.isSome = true → Prints true (answer.2.drop 2) (answer'.2.drop 2)) ∧
      Prints true answer.2 answer'.2)
    (Reader.printing (Type.result g true)) (Reader.printing (Type.result g true)) := by
  refine .mono (.knowing (.printingApart (Type.steady_result hg true : Steady true _ _ _))
    (arrow_result hg) (arrow_result hg)) ?_
  rintro ⟨form, tokens⟩ ⟨form', tokens'⟩ ⟨⟨hform, hprints⟩, harrow, harrow'⟩
  refine ⟨hform, fun hsome => ?_, hprints⟩
  obtain ⟨type, rfl⟩ : ∃ type, tokens = _ := harrow hsome
  obtain ⟨type', rfl⟩ : ∃ type, tokens' = _ := harrow' (by cases hform <;> simp_all)
  refine ⟨?_, fun hexact => (hprints.same hexact).imp ?_ ?_⟩
  · simpa [looseAll] using hprints.loose
  · simp
  · exact fun hsign => (hasSign_arrow type).symm.trans hsign

theorem steady_receiver : Steady false
    (fun answer answer' : Receiver × Position => answer.1 = answer'.1) (receiver g)
    (receiver g) := by
  refine .andThen (.op? (by decide)) fun _ => .ite ?_ ?_
  · refine .andThen .lifetime? fun _ => .andThen (.word? _) fun _ => .here fun _ _ => ?_
    refine .andThen (.word _) fun _ => .ahead (fun tokens => by simp +decide) fun _ => .ite ?_ ?_
    · exact .andThen .fail fun _ => .pure rfl
    · exact .pure rfl
  · refine .andThen (.word? _) fun _ => .here fun _ _ => .andThen (.word _) fun _ => ?_
    refine .andThen (.op? (by decide)) fun _ => .ite ?_ (.pure rfl)
    exact .andThen hg.anyType fun _ => .pure rfl

theorem steady_param (isFirst : Bool) :
    Steady false ParamForm.Alike (param g isFirst) (param g isFirst) := by
  refine .bind (.attempt (steady_receiver hg)) fun found found' hfound => ?_
  cases hfound with
  | @some receiver receiver' hreceiver =>
    obtain ⟨receiver, position⟩ := receiver
    obtain ⟨_, position'⟩ := receiver'
    obtain rfl : receiver = _ := hreceiver
    exact .ite (.pure (.receiver receiver)) (.failAt _ _)
  | none =>
    refine .ahead (fun tokens => by simp +decide) fun tokens => .ite ?_ ?_
    · refine .bind (.printingApart (hg.anyType : Steady true _ _ _)) ?_
      rintro ⟨_, type⟩ ⟨_, type'⟩ ⟨-, htype⟩
      refine .andThen (.emit ?_) fun _ => .pure (.typed ⟨rfl, .of_prints htype⟩)
      exact (Prints.refl [.ident "_", .punct ':' false]).append htype.inexact
    · refine .bind (hg.pattern false) fun pattern pattern' hpattern => ?_
      refine .andThen (.op (by decide)) fun _ => .andThen (.op? (by decide)) fun _ =>
        .ite (.pure .dots) ?_
      refine .bind (.printingApart (hg.anyType : Steady true _ _ _)) ?_
      rintro ⟨_, type⟩ ⟨_, type'⟩ ⟨-, htype⟩
      refine .andThen (.emit htype.inexact) fun _ => .pure (.typed ⟨?_, .of_prints htype⟩)
      cases hpattern <;> rfl

theorem steady_params :
    Steady false (List.Forall₂ ParamForm.Alike) (params g) (params g) := by
  refine .bind (R := List.Forall₂ ParamForm.Alike) (.repeating .nil fun forms forms' hforms => ?_)
    fun _ _ hforms => .pure (List.rel_reverse hforms)
  refine .andThen .atEnd fun _ => .ite (.pure (.done hforms)) ?_
  refine .andThen (Attribute.steady_outer hg) fun _ => .andThen (.op? (by decide)) fun dotted => ?_
  have hempty : forms.isEmpty = forms'.isEmpty := by cases hforms <;> rfl
  rw [← hempty]
  refine .ite (.bind (R := ParamForm.Alike) (.pure .dots) ?rest) (.bind (steady_param hg _) ?rest)
  refine fun form form' hform => .andThen .atEnd fun _ =>
    .ite (.pure (.done (.cons hform hforms))) ?_
  refine .andThen (.op (by decide)) fun _ => ?_
  cases hform with
  | dots => exact .pure (.done (.cons .dots hforms))
  | receiver receiver => exact .pure (.again (.cons (.receiver receiver) hforms))
  | typed hparam => exact .pure (.again (.cons (.typed hparam) hforms))

theorem steady_read (safe : Bool) : Steady false Form.Alike (read g safe) (read g safe) := by
  refine .andThen (.word? _) fun _ => .andThen (.word? _) fun isAsync =>
    .andThen (.word? _) fun _ => ?_
  refine .ite (.andThen (.word? _) ?rest) (.andThen (.pure rfl) ?rest)
  refine fun isSafe => .andThen Type.steady_binding? fun _ => .andThen (.word _) fun _ => ?_
  refine .here fun position position' => .andThen .ident fun name => ?_
  refine .andThen (Generics.steady_parameters hg) fun hasParameters => ?_
  refine .bind (.group _ (steady_params hg)) fun forms forms' hforms => ?_
  refine .bind (steady_result hg) ?_
  rintro ⟨form, tokens⟩ ⟨form', tokens'⟩ ⟨hform, hdropped, htokens⟩
  refine .andThen (.emit htokens.inexact) fun _ => ?_
  refine .andThen (Generics.steady_conditions? hg) fun hasConditions => .pure ?_
  refine ⟨rfl, ?_, rfl, rfl, rfl, ?_, ?_⟩
  · cases hforms with
    | nil => rfl
    | cons hfirst _ => cases hfirst <;> rfl
  · refine List.rel_filterMap (fun form form' hform => ?_) hforms
    cases hform with
    | typed hparam => exact .some hparam
    | receiver | dots => exact .none
  · cases hform with
    | none => exact .nil
    | some hform => exact alike_resultsOf hform (hdropped rfl)

end Signature

namespace Member

@[simp] theorem endsBounds_bareAll (tokens : List Located) :
    endsBounds (Located.bareAll tokens) = endsBounds tokens := by
  simp +decide [endsBounds]

theorem steady_call : Steady false Eq call call := by
  refine .andThen Path.steady_plain fun _ => .call fun delimiter => ?_
  cases delimiter
  case brace => exact .pure rfl
  all_goals exact .op (by decide)

theorem steady_nameOrUnderscore : Steady false Eq nameOrUnderscore nameOrUnderscore :=
  .ahead (fun tokens => by simp) fun _ => .ite (.andThen .anyIdent fun _ => .pure rfl) .fail

/-- That two declarations of types differ in where they stand only. -/
structure TypeDeclaration.Alike (type type' : TypeDeclaration) : Prop where
  name : type.name = type'.name
  bounded : type.bounded = type'.bounded
  defined : type.defined = type'.defined

/-- A member of no known kind is one wherever it stands. -/
theorem alike_settled (unknown : Bool) (place place' : Location) {member member' : Member}
    (hmember : member.Alike member') :
    let settle (place : Location) (member : Member) : Member × Bool :=
      if unknown then (.other "trait member" place, true) else (member, false)
    (settle place member).1.Alike (settle place' member').1 ∧
      (settle place member).2 = (settle place' member').2 := by
  cases unknown
  · exact ⟨hmember, rfl⟩
  · exact ⟨.other _ _ _, rfl⟩

variable (hg : Robust g)

include hg

theorem steady_constant : Steady false Eq (constant g) (constant g) := by
  refine .ahead (fun tokens => by simp +decide) fun _ =>
    .andThen (Generics.steady_parameters hg) fun _ => ?_
  refine .andThen (.op (by decide)) fun _ => .andThen hg.anyType fun _ => ?_
  refine .andThen (.op? (by decide)) fun valued => .ite (.andThen hg.expression ?rest) (?rest ())
  refine fun _ => .andThen (Generics.steady_conditions? hg) fun _ => ?_
  exact .andThen (.op (by decide)) fun _ => .pure rfl

theorem steady_typeDeclaration (before behind : Bool) :
    Steady false TypeDeclaration.Alike (typeDeclaration g before behind)
      (typeDeclaration g before behind) := by
  refine .andThen (.word _) fun _ => .here fun position position' => .andThen .ident fun name => ?_
  refine .andThen (Generics.steady_parameters hg) fun _ => ?_
  refine .andThen (.announced (by decide) (.separated endsBounds_bareAll (by decide) ?_))
    fun bounded => ?_
  · exact .discard (Bound.steady_one hg _)
  · refine .ite (.andThen (Generics.steady_conditions? hg) ?rest) (.andThen (.pure rfl) ?rest)
    refine fun conditional => .andThen (.op? (by decide)) fun defined => ?_
    refine .ite (.andThen hg.anyType ?defined) (?defined ())
    refine fun _ => .ite (.andThen (Generics.steady_conditions? hg) fun _ => ?_) ?_
    all_goals exact .andThen (.op (by decide)) fun _ => .pure ⟨rfl, rfl, rfl⟩

theorem steady_method (file : String) (docs : List String) :
    Steady false Method.Alike (method g file docs) (method g file docs) := by
  refine .bind (Signature.steady_read hg false) fun form form' hform => ?_
  have hanswer (inner : List String) (location location' : Location) : Method.Alike
      ⟨form.name, docs ++ inner, form.receiver, form.isGeneric, form.isAsync, form.params,
        form.results, location⟩
      ⟨form'.name, docs ++ inner, form'.receiver, form'.isGeneric, form'.isAsync, form'.params,
        form'.results, location'⟩ :=
    ⟨hform.name, rfl, hform.receiver, hform.isGeneric, hform.isAsync, hform.params, hform.results⟩
  refine .ahead (fun tokens => by simp) fun tokens => .ite ?_ ?_
  · exact .andThen (Attribute.steady_block hg) fun inner => .pure (hanswer inner _ _)
  · exact .andThen (.op (by decide)) fun _ => .andThen (.pure rfl) fun inner =>
      .pure (hanswer inner _ _)

theorem steady_declared (file : String) :
    Steady false (fun answer answer' => answer.1.Alike answer'.1 ∧ answer.2 = answer'.2)
      (declared g file) (declared g file) := by
  refine .here fun start start' => .andThen (Attribute.steady_outer hg) fun docs => ?_
  refine .andThen Generics.steady_visibility fun visible => .andThen (.word? _) fun marked => ?_
  refine .look fun tokens tokens' hsame => ?_
  have htail : Located.bareAll tokens.tail = Located.bareAll tokens'.tail := by
    rw [← Located.tail_bareAll, hsame, Located.tail_bareAll]
  simp only [← Located.seen_eq (isWord_bareAll · _) hsame,
    ← Located.seen_eq (Signature.begins_bareAll false) hsame,
    ← Located.seen_eq beginsCall_bareAll hsame, ← Located.seen_eq isIdent_bareAll htail,
    ← Located.seen_eq isUnderscore_bareAll htail, ← Located.seen_eq (isOneOf_bareAll · _) htail]
  refine .ite ?method
    (.ite (.ite ?constant (.ite ?method (.failBefore _ _))) (.ite ?type (.ite ?call .fail)))
  case method =>
    exact .bind (steady_method hg file docs) fun _ _ hmethod =>
      .pure (alike_settled _ _ _ (.method hmethod))
  case constant =>
    refine .andThen (.word _) fun _ => .here fun place place' => .andThen .anyIdent fun _ => ?_
    exact .andThen (steady_constant hg) fun _ => .pure (alike_settled _ _ _ (.other _ _ _))
  case type =>
    exact .bind (steady_typeDeclaration hg false true) fun _ _ _ =>
      .pure (alike_settled _ _ _ (.other _ _ _))
  case call => exact .andThen steady_call fun _ => .pure ⟨.other _ _ _, rfl⟩

theorem steady_ofTrait (file : String) :
    Steady false Member.Alike (ofTrait g file) (ofTrait g file) :=
  .bind (.copyingAny (steady_declared hg file) fun _ _ hanswer => hanswer.2) fun _ _ hanswer =>
    .pure hanswer.1

theorem steady_ofImplementation :
    Steady false Eq (ofImplementation g) (ofImplementation g) := by
  refine .discard (.copyingAny (R := Eq) ?_ fun _ _ heq => heq ▸ rfl)
  refine .andThen (Attribute.steady_outer hg) fun _ =>
    .andThen Generics.steady_visibility fun visible => ?_
  refine .ahead (fun tokens => by simp +decide only [isWord_bareAll, isOp_bareAll, skip_bareAll])
    fun tokens => ?_
  refine .ite (.andThen (.word _) ?rest) (?rest ())
  refine fun _ => .ahead (fun tokens => by simp +decide) fun tokens =>
    .ite ?_ (.ite ?_ (.ite ?_ (.ite ?_ .fail)))
  · refine .bind (Signature.steady_read hg false) fun _ _ _ =>
      .andThen (.op? (by decide)) fun _ => ?_
    exact .ite (.pure rfl) (.andThen (Attribute.steady_block hg) fun _ => .pure rfl)
  · refine .andThen (.word _) fun _ => .andThen steady_nameOrUnderscore fun _ => ?_
    exact .andThen (steady_constant hg) fun _ => .pure rfl
  · exact .bind (steady_typeDeclaration hg false true) fun _ _ htype =>
      .pure (by rw [htype.bounded, htype.defined])
  · exact .andThen steady_call fun _ => .pure rfl

theorem steady_foreignStorage : Steady false Eq (foreignStorage g) (foreignStorage g) := by
  refine .ahead (fun tokens => by simp) fun tokens => .ite (.andThen .anyIdent fun _ => ?_) ?_
  all_goals
    refine .andThen (.word _) fun _ => .andThen (.word? _) fun _ => .andThen .ident fun _ => ?_
    refine .andThen (.op (by decide)) fun _ => .andThen hg.anyType fun _ => ?_
    refine .andThen (.op? (by decide)) fun _ => .ite (.andThen hg.expression fun _ => ?_) ?_
    all_goals exact .andThen (.op (by decide)) fun _ => .pure rfl

theorem steady_ofForeign : Steady false Eq (ofForeign g) (ofForeign g) := by
  refine .discard (.copyingAny (R := Eq) ?_ fun _ _ heq => heq ▸ rfl)
  refine .andThen (Attribute.steady_outer hg) fun _ =>
    .andThen Generics.steady_visibility fun visible => ?_
  refine .ahead (fun tokens => by simp +decide) fun tokens =>
    .ite ?_ (.ite (steady_foreignStorage hg) (.ite ?_ (.ite ?_ .fail)))
  · refine .bind (Signature.steady_read hg true) fun form form' hform => ?_
    refine .ahead (fun tokens => by simp) fun tokens => .ite ?_ ?_
    · exact .andThen (Attribute.steady_block hg) fun _ => .pure rfl
    · exact .andThen (.op (by decide)) fun _ => .pure hform.isSafe
  · exact .bind (steady_typeDeclaration hg true true) fun _ _ htype =>
      .pure (by rw [htype.bounded, htype.defined])
  · exact .andThen steady_call fun _ => .pure rfl

end Member

namespace Item

/-- That two items differ in layout only, so far as they are known once they are read. -/
structure Form.Alike (form form' : Form) : Prop where
  name : form.name = form'.name
  kind : form.kind = form'.kind
  docs : form.docs = form'.docs
  members : form.members.Forall₂ Member.Alike form'.members

inductive Outcome.Alike : Outcome → Outcome → Prop
  | kept {form form' : Form} (alike : form.Alike form') : Alike (.kept form) (.kept form')
  | passed : Alike .passed .passed
  | copied : Alike .copied .copied

theorem alike_unkept (copied : Bool) : (Outcome.unkept copied).Alike (.unkept copied) := by
  cases copied
  · exact .passed
  · exact .copied

/-- An item without members. -/
theorem alike_kept (name : String) (position position' : Position) (kind : ItemKind)
    (docs : List String) :
    Outcome.Alike (.kept ⟨name, position, kind, docs, []⟩)
      (.kept ⟨name, position', kind, docs, []⟩) := .kept ⟨rfl, rfl, rfl, .nil⟩

@[simp] theorem endsSuper_bareAll (tokens : List Located) :
    endsSuper (Located.bareAll tokens) = endsSuper tokens := by
  simp [endsSuper]

theorem steady_named {name : Reader String} (hname : Steady false Eq name name) :
    Steady false (fun answer answer' : String × Position => answer.1 = answer'.1) (named name)
      (named name) :=
  .here fun _ _ => .andThen hname fun _ => .pure rfl

/-- Naming something in front of what is read next. -/
theorem steady_naming {γ : Type} {S : γ → γ → Prop} {name : Reader String}
    (hname : Steady false Eq name name) {next : String × Position → Reader γ}
    (hnext : ∀ name position position',
      Steady false S (next (name, position)) (next (name, position'))) :
    Steady false S (named name >>= next) (named name >>= next) := by
  refine .bind (steady_named hname) ?_
  rintro ⟨name, position⟩ ⟨_, position'⟩ rfl
  exact hnext name position position'

theorem steady_moduleName : Steady false Eq moduleName moduleName :=
  .ahead (fun tokens => by simp) fun _ => .ite .anyIdent .ident

theorem steady_package : Steady false Eq package package := by
  refine .andThen Generics.steady_visibility fun _ => .andThen (.word _) fun _ => ?_
  refine .andThen (.word _) fun _ => .ahead (fun tokens => by simp) fun _ => ?_
  refine .ite (.andThen .anyIdent ?rest) (.andThen .ident ?rest)
  refine fun _ => .andThen (.word? _) fun _ => .ite (.ahead (fun tokens => by simp) fun _ => ?_) ?_
  · refine .ite (.andThen .anyIdent ?last) (.andThen .ident ?last)
    exact fun _ => .op (by decide)
  · exact .op (by decide)

theorem steady_definition : Steady false Eq definition definition := by
  refine .andThen Generics.steady_visibility fun _ => .andThen (.word _) fun _ =>
    .andThen .ident fun _ => ?_
  refine .ahead (fun tokens => by simp) fun _ => .ite (.andThen .rawGroup fun _ => ?_) ?_
  all_goals
    exact .ahead (fun tokens => by simp) fun _ => .ite (.andThen .rawGroup fun _ => .pure rfl) .fail

theorem steady_call : Steady false Eq call call := by
  refine .andThen Path.steady_plain fun _ => .andThen (.op (by decide)) fun _ => ?_
  refine .ahead (fun tokens => by simp) fun _ => .ite (.andThen .anyIdent fun _ => ?_) ?_
  all_goals
    refine .andThen .rawGroup fun delimiter => ?_
    cases delimiter
    case brace => exact .pure rfl
    all_goals exact .op (by decide)

theorem steady_passed {reader reader' : Reader Unit} (hreader : Steady false Eq reader reader') :
    Steady false Outcome.Alike (passed reader) (passed reader') :=
  .andThen hreader fun _ => .pure .passed

/-- What an implementation has behind the types that it names. -/
def implementationBody (g : Grammar) (visible constant isOfTrait : Bool) (first : TypeForm) :
    Reader Outcome := do
  let _ ← Generics.conditions? g
  Reader.group .brace do
    let _ ← Attribute.inner g
    let _ ← Reader.untilEnd (Member.ofImplementation g)
  let named := match first with
    | .path form => !form.qualified
    | _ => false
  return .unkept (visible || constant || (isOfTrait && !named))

/-- An implementation from the types on that it names. -/
def implementationType (g : Grammar) (visible constant : Bool) : Reader Outcome := do
  let start ← Reader.here
  let tokens ← Reader.ahead
  let negative := isOp "!" tokens && !isGroup .brace (skip tokens)
  if negative then Reader.op "!"
  let first ← g.type true
  let isOfTrait ← Reader.word? "for"
  if isOfTrait then g.anyType else if negative then Reader.failAt start
  implementationBody g visible constant isOfTrait first

/-- An implementation behind its generic parameters. -/
def implementationOf (g : Grammar) (visible : Bool) : Reader Outcome := do
  let tokens ← Reader.ahead
  let constant := isWord "const" tokens || (isOp "?" tokens && isWord "const" (skip tokens))
  if constant then
    let _ ← Reader.op? "?"
    Reader.word "const"
  implementationType g visible constant

variable (hg : Robust g)

include hg

theorem steady_function : Steady false Outcome.Alike (function g) (function g) := by
  refine .andThen Generics.steady_visibility fun _ => .bind (Signature.steady_read hg false) ?_
  refine fun form form' hform => .andThen (.op? (by decide)) fun _ => .ite (.pure .copied) ?_
  refine .andThen (Attribute.steady_block hg) fun docs => .pure ?_
  exact hform.name ▸ alike_kept _ _ _ _ _

theorem steady_foreign : Steady false Eq (foreign g) (foreign g) := by
  refine .andThen (.word? _) fun _ => .andThen (.word _) fun _ =>
    .ahead (fun tokens => by simp) fun _ => ?_
  refine .ite (.andThen .literal ?rest) (?rest ())
  refine fun _ => .group _ (.andThen (Attribute.steady_inner hg) fun _ => ?_)
  exact .bind (.untilEnd (Member.steady_ofForeign hg)) fun _ _ _ => .pure rfl

theorem steady_external {tokens tokens' : List Located}
    (hsame : Located.bareAll tokens = Located.bareAll tokens') :
    Steady false Eq (external g tokens) (external g tokens') := by
  have htail : Located.bareAll tokens.tail = Located.bareAll tokens'.tail := by
    rw [← Located.tail_bareAll, hsame, Located.tail_bareAll]
  unfold external
  simp only [← Located.seen_eq (isWord_bareAll · _) hsame,
    ← Located.seen_eq (isGroup_bareAll · _) hsame, ← Located.seen_eq isText_bareAll hsame,
    ← Located.seen_eq (isGroup_bareAll · _) htail]
  exact .ite steady_package (.ite (steady_foreign hg) (.ite (.failBefore _ _)
    (.ite (steady_foreign hg) (.failBefore _ _))))

theorem steady_imported : Steady false Outcome.Alike (imported g) (imported g) :=
  .andThen Generics.steady_visibility fun _ => .andThen (Import.steady_read hg) fun copied =>
    .pure (alike_unkept copied)

theorem steady_storage : Steady false Outcome.Alike (storage g) (storage g) := by
  refine .andThen Generics.steady_visibility fun _ => .andThen (.word _) fun _ =>
    .andThen (.word? _) fun _ => ?_
  refine steady_naming .ident fun name position position' =>
    .andThen (.op? (by decide)) fun _ => .ite ?_ ?_
  · exact .andThen hg.expression fun _ => .andThen (.op (by decide)) fun _ => .pure .copied
  · refine .andThen (.op (by decide)) fun _ => .andThen hg.anyType fun _ => ?_
    refine .andThen (.op? (by decide)) fun _ => .ite (.pure .copied) ?_
    refine .andThen (.op (by decide)) fun _ => .andThen hg.expression fun _ => ?_
    exact .andThen (.op (by decide)) fun _ => .pure (alike_kept _ _ _ _ _)

theorem steady_constant : Steady false Outcome.Alike (constant g) (constant g) := by
  refine .andThen Generics.steady_visibility fun _ => .andThen (.word _) fun _ => ?_
  refine .ahead (fun tokens => by simp) fun tokens => ?_
  refine steady_naming (.ite .anyIdent .ident) fun name position position' => ?_
  refine .andThen (Member.steady_constant hg) fun answer => .pure ?_
  split
  · exact alike_kept _ _ _ _ _
  · exact .copied

theorem steady_module : Steady false Outcome.Alike (module g) (module g) := by
  refine .andThen Generics.steady_visibility fun _ => .andThen (.word? _) fun _ =>
    .andThen (.word _) fun _ => ?_
  refine steady_naming steady_moduleName fun name position position' => ?_
  refine .andThen (.op? (by decide)) fun _ => .ite (.pure (alike_kept _ _ _ _ _)) ?_
  refine .andThen (.group _ ?_) fun docs => .pure (alike_kept _ _ _ _ _)
  refine .andThen (Attribute.steady_inner hg) fun docs =>
    .bind (R := List.Forall₂ Eq) (.untilEnd ?_) fun _ _ _ => .pure rfl
  refine .copyingAny ?_ fun _ _ heq => heq ▸ rfl
  exact .andThen (Attribute.steady_outer hg) fun _ => hg.item

theorem steady_typeAlias : Steady false Outcome.Alike (typeAlias g) (typeAlias g) := by
  refine .andThen Generics.steady_visibility fun _ => ?_
  refine .bind (Member.steady_typeDeclaration hg true false) fun type type' htype => .pure ?_
  rw [← htype.defined, ← htype.bounded, ← htype.name]
  split
  · exact alike_kept _ _ _ _ _
  · exact .copied

theorem steady_data (keyword : String) (kind : ItemKind) {rest : Reader Unit}
    (hrest : Steady false Eq rest rest) :
    Steady false Outcome.Alike (data g keyword kind rest) (data g keyword kind rest) := by
  refine .andThen Generics.steady_visibility fun _ => .andThen (.word _) fun _ => ?_
  refine steady_naming .ident fun name position position' => ?_
  exact .andThen (Generics.steady_parameters hg) fun _ => .andThen hrest fun _ =>
    .pure (alike_kept _ _ _ _ _)

theorem steady_traitRest (file name : String) (position position' : Position) :
    Steady false Outcome.Alike (traitRest g file name position)
    (traitRest g file name position') := by
  refine .andThen (.announced (by decide) (.separated endsSuper_bareAll (by decide) ?_))
    fun _ => ?_
  · exact .discard (Bound.steady_one hg _)
  · refine .andThen (Generics.steady_conditions? hg) fun _ => ?_
    refine .bind (R := fun answer answer' => answer.1 = answer'.1 ∧
      answer.2.Forall₂ Member.Alike answer'.2)
      (.group _ (.andThen (Attribute.steady_inner hg) fun docs => ?_)) ?_
    · exact .bind (.untilEnd (Member.steady_ofTrait hg file)) fun _ _ hmembers =>
        .pure ⟨rfl, hmembers⟩
    · rintro ⟨docs, members⟩ ⟨_, members'⟩ ⟨rfl, hmembers⟩
      exact .pure (.kept ⟨rfl, rfl, rfl, hmembers⟩)

theorem steady_boundAlias : Steady false Outcome.Alike (boundAlias g) (boundAlias g) := by
  refine .andThen (.op (by decide)) fun _ =>
    .andThen (.separated (fun tokens => ?_) (by decide) ?_) fun _ => ?_
  · simp +decide
  · exact .discard (Bound.steady_one hg _)
  · exact .andThen (Generics.steady_conditions? hg) fun _ => .andThen (.op (by decide)) fun _ =>
      .pure .passed

theorem steady_trait (file : String) :
    Steady false Outcome.Alike (trait g file) (trait g file) := by
  refine .andThen Generics.steady_visibility fun _ => .andThen (.word? _) fun _ =>
    .andThen (.word? _) fun _ => ?_
  refine .andThen (.word _) fun _ => steady_naming .ident fun name position position' => ?_
  exact .andThen (Generics.steady_parameters hg) fun _ => steady_traitRest hg file name _ _

theorem steady_plainTrait (file : String) :
    Steady false Outcome.Alike (plainTrait g file) (plainTrait g file) := by
  refine .andThen Generics.steady_visibility fun _ => .andThen (.word _) fun _ => ?_
  refine steady_naming .ident fun name position position' => ?_
  refine .andThen (Generics.steady_parameters hg) fun _ =>
    .ahead (fun tokens => by simp +decide) fun _ => ?_
  exact .ite (steady_traitRest hg file name _ _) (steady_boundAlias hg)

theorem steady_implementationBody (visible constant isOfTrait : Bool) {first first' : TypeForm}
    (hfirst : first.Alike false first') :
    Steady false Outcome.Alike (implementationBody g visible constant isOfTrait first)
      (implementationBody g visible constant isOfTrait first') := by
  refine .andThen (Generics.steady_conditions? hg) fun _ => .andThen (.group _ ?_) fun _ => ?_
  · refine .andThen (Attribute.steady_inner hg) fun _ => ?_
    exact .bind (.untilEnd (Member.steady_ofImplementation hg)) fun _ _ _ => .pure rfl
  · cases hfirst with
    | path hform =>
      dsimp only
      rw [hform.qualified]
      exact .pure (alike_unkept _)
    | unit | bound | copied | other => exact .pure (alike_unkept _)

theorem steady_implementationType (visible constant : Bool) :
    Steady false Outcome.Alike (implementationType g visible constant)
      (implementationType g visible constant) := by
  refine .here fun start start' => .ahead (fun tokens => ?_) fun tokens => ?_
  · simp +decide only [isOp_bareAll, isGroup_bareAll, skip_bareAll]
  · refine .ite (.andThen (.op (by decide)) ?rest) (?rest ())
    refine fun _ => .bind (hg.type false true) fun first first' hfirst => ?_
    have hbody (isOfTrait : Bool) (_ : Unit) :=
      steady_implementationBody hg visible constant isOfTrait hfirst
    refine .andThen (.word? _) fun isOfTrait => .ite (.andThen hg.anyType (hbody isOfTrait)) ?_
    exact .ite (.andThen (.failAt _ _) (hbody isOfTrait)) (hbody isOfTrait ())

theorem steady_implementationOf (visible : Bool) :
    Steady false Outcome.Alike (implementationOf g visible) (implementationOf g visible) := by
  have htype (constant : Bool) := steady_implementationType hg visible constant
  refine .ahead (fun tokens => ?_) fun tokens => ?_
  · simp +decide only [isWord_bareAll, isOp_bareAll, skip_bareAll]
  · exact .ite (.andThen (.op? (by decide)) fun _ => .andThen (.word _) fun _ => htype _) (htype _)

theorem steady_implementation :
    Steady false Outcome.Alike (implementation g) (implementation g) := by
  have hof := steady_implementationOf hg
  refine .andThen Generics.steady_visibility fun visible => .andThen (.word? _) fun _ => ?_
  refine .andThen (.word? _) fun _ => .andThen (.word _) fun _ =>
    .ahead (fun tokens => ?_) fun _ => ?_
  · simp only [opensGenerics_bareAll]
  · exact .ite (.andThen (Generics.steady_parameters hg) fun _ => hof visible) (hof visible)

theorem steady_form (file : String) : Steady false Outcome.Alike (form g file) (form g file) := by
  refine .bind (.peeking Generics.steady_visibility) ?_
  rintro ⟨visible, tokens⟩ ⟨_, tokens'⟩ ⟨rfl, hsame⟩
  have hsecond : Located.bareAll (skip tokens) = Located.bareAll (skip tokens') := by
    rw [← skip_bareAll, hsame, skip_bareAll]
  have hthird : Located.bareAll (skip (skip tokens)) = Located.bareAll (skip (skip tokens')) := by
    rw [← skip_bareAll, hsecond, skip_bareAll]
  have htail : Located.bareAll tokens.tail = Located.bareAll tokens'.tail := by
    rw [← Located.tail_bareAll, hsame, Located.tail_bareAll]
  have hmark : isOp "!" (skip tokens) = isOp "!" (skip tokens') :=
    Located.seen_eq (fun tokens => isOp_bareAll tokens (by decide)) hsecond
  simp only [← Located.seen_eq (isWord_bareAll · _) hsame,
    ← Located.seen_eq (Signature.begins_bareAll false) hsame,
    ← Located.seen_eq beginsCall_bareAll hsame, ← Located.seen_eq (isWord_bareAll · _) hsecond,
    ← Located.seen_eq isIdent_bareAll hsecond, ← Located.seen_eq (isWord_bareAll · _) hthird,
    ← hmark]
  refine .ite (steady_function hg) <| .ite (steady_passed (steady_external hg htail)) <|
    .ite (steady_imported hg) <| .ite (steady_storage hg) <| .ite (steady_constant hg) <|
    .ite ?guarded <| .ite (steady_module hg) <| .ite (steady_typeAlias hg) <|
    .ite (steady_data hg _ _ (Data.steady_fields hg)) <|
    .ite (steady_data hg _ _ (Data.steady_enumeration hg)) <|
    .ite (steady_data hg _ _ (Data.steady_union hg)) <| .ite (steady_plainTrait hg file) <|
    .ite (steady_trait hg file) <| .ite (steady_implementation hg) <|
    .ite (.andThen steady_definition fun _ => .pure .copied) <|
    .ite (steady_passed steady_call) (.failBefore _ _)
  exact .ite (steady_trait hg file) <| .ite (steady_implementation hg) <|
    .ite (steady_passed (steady_foreign hg)) <| .ite (steady_module hg) (.failBefore _ _)

theorem steady_inner : Steady false Eq (inner g) (inner g) := by
  refine .bind (steady_form hg "") fun outcome outcome' houtcome => ?_
  cases houtcome <;> exact .pure rfl

theorem steady_read (file : String) :
    Steady false (Option.Rel ServiceGen.Item.Alike) (read g file) (read g file) := by
  refine .andThen (Attribute.steady_outer hg) fun docs => ?_
  refine .bind (steady_form hg file) fun outcome outcome' houtcome => ?_
  cases houtcome with
  | kept hform =>
    exact .pure (.some ⟨hform.name, hform.kind, congrArg (docs ++ ·) hform.docs, hform.members⟩)
  | passed | copied => exact .pure .none

end Item

end ServiceGen.Grammar
