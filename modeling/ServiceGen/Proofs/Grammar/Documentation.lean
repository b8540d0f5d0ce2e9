import ServiceGen.Proofs.Grammar.SteadyItem
import ServiceGen.Proofs.Text.Words
import ServiceGen.Source.Reading

/-!
Documentation lines as they are read. Whatever a text writes as documentation, it comes out of an
attribute line by line, and from there to an item or a method it is only put together. So no line
that is kept holds a line feed. This is followed through the readers by what is known of all
answers that a reader can give, wherever it begins.
-/
namespace ServiceGen

/-- Documentation that is divided into lines. -/
def Unbroken (lines : List String) : Prop := ∀ line ∈ lines, '\n' ∉ line.toList

theorem Unbroken.nil : Unbroken [] := fun _ hline => absurd hline List.not_mem_nil

theorem Unbroken.append {front behind : List String} (hfront : Unbroken front)
    (hbehind : Unbroken behind) : Unbroken (front ++ behind) :=
  List.forall_mem_append.mpr ⟨hfront, hbehind⟩

/-- A member whose documentation, if it has any, is divided into lines. -/
inductive Member.Lined : Member → Prop
  | method {method : Method} (docs : Unbroken method.docs) : Lined (.method method)
  | other (what : String) (location : Location) : Lined (.other what location)

/-- An item whose documentation is divided into lines, with that of its members. -/
structure Item.Lined (item : Item) : Prop where
  docs : Unbroken item.docs
  members : ∀ member ∈ item.members, member.Lined

namespace Grammar

/-- That all answers of a reader are of a kind. Unlike in `Answers` nothing is said of the tokens
that it takes, so of readers in front of the last one nothing has to be known. -/
def Yields {α : Type} (Q : α → Prop) (reader : Reader α) : Prop :=
  ∀ input a after, reader input = .ok (a, after) → Q a

namespace Yields

open Reader

variable {α γ σ : Type} {P Q : α → Prop} {T : γ → Prop} {reader : Reader α}

theorem pure {a : α} (ha : Q a) : Yields Q (Pure.pure a) := by
  rintro input b after hrun
  obtain ⟨rfl, -⟩ := Prod.mk.inj (Except.ok.inj hrun)
  exact ha

theorem bind {next : α → Reader γ} (hreader : Yields P reader)
    (hnext : ∀ a, P a → Yields T (next a)) : Yields T (reader >>= next) := by
  intro input c after hrun
  obtain ⟨a, between, hfirst, hsecond⟩ := of_bind hrun
  exact hnext a (hreader input a between hfirst) between c after hsecond

/-- Whatever comes first, the last reader answers. -/
theorem last {next : α → Reader γ} (hnext : ∀ a, Yields T (next a)) :
    Yields T (reader >>= next) :=
  bind (P := fun _ => True) (fun _ _ _ _ => trivial) fun a _ => hnext a

theorem ite {condition : Prop} [Decidable condition] {other : Reader α}
    (hreader : Yields Q reader) (hother : Yields Q other) :
    Yields Q (if condition then reader else other) := by
  split
  · exact hreader
  · exact hother

theorem fail : Yields Q Reader.fail := fun _ _ _ hrun => absurd hrun (by simp [Reader.fail])

theorem failBefore (tokens : List Located) : Yields Q (Reader.failBefore tokens) :=
  fun _ _ _ hrun => absurd hrun (by simp [Reader.failBefore])

theorem group (delimiter : Delimiter) (hreader : Yields Q reader) :
    Yields Q (Reader.group delimiter reader) := by
  intro input a after hrun
  obtain ⟨inner, _, _, within, -, hinner, -⟩ := of_group hrun
  exact hreader _ a within hinner

theorem copyingIf (asks : α → Bool) (hreader : Yields Q reader) :
    Yields Q (Reader.copyingIf asks reader) := by
  intro input a after hrun
  rw [Reader.copyingIf] at hrun
  split at hrun
  · exact absurd hrun (by simp)
  · next answer between hok =>
    refine hreader input a between ?_
    split at hrun <;>
      · obtain ⟨rfl, -⟩ := Prod.mk.inj (Except.ok.inj hrun)
        exact hok

theorem rounds {I : σ → Prop} {round : σ → Reader (Round σ)} (count : Nat) {state : σ}
    (hround : ∀ state, I state → Yields (Answers.Kept I) (round state)) (hstate : I state) :
    Yields I (Reader.rounds round count state) := by
  induction count generalizing state with
  | zero => exact pure hstate
  | succ count ih =>
    refine bind (hround state hstate) fun next hnext => ?_
    cases next with
    | again next => exact ih hnext
    | done next => exact pure hnext

/-- What every round keeps is kept by a repetition. -/
theorem repeating {I : σ → Prop} {round : σ → Reader (Round σ)} {state : σ}
    (hround : ∀ state, I state → Yields (Answers.Kept I) (round state)) (hstate : I state) :
    Yields I (Reader.repeating state round) :=
  fun input => rounds _ hround hstate input

theorem untilEnd (hreader : Yields Q reader) :
    Yields (fun items => ∀ a ∈ items, Q a) (Reader.untilEnd reader) := by
  refine bind (P := fun items => ∀ a ∈ items, Q a) (repeating (fun items hitems => ?_) ?_) ?_
  · refine .last fun _ => .ite (pure hitems) (.bind hreader fun a ha => pure ?_)
    exact List.forall_mem_cons.mpr ⟨ha, hitems⟩
  · exact fun _ hitem => absurd hitem List.not_mem_nil
  · exact fun items hitems => pure fun a ha => hitems a (List.mem_reverse.mp ha)

theorem of_readAll (hreader : Yields Q reader) {tokens : List Located} {a : α}
    {printed : List Token} (hread : Reader.readAll reader tokens = .ok (a, printed)) : Q a := by
  rw [Reader.readAll] at hread
  split at hread
  · exact absurd hread (by simp)
  · next answer after hrun =>
    split at hread
    · exact absurd hread (by simp)
    · obtain ⟨rfl, -⟩ := Prod.mk.inj (Except.ok.inj hread)
      exact hreader _ answer after hrun

/-- What is read from a text is of the kind that the reader answers in any grammar. -/
theorem of_readText {reader : Grammar → Reader α} (hreader : ∀ g, Yields Q (reader g))
    {text : List Char} {a : α} {printed : List Token}
    (hread : readText text reader = .ok (a, printed)) : Q a := by
  rw [readText] at hread
  cases htokens : Token.Lexer.read text with
  | error position => exact absurd hread (by simp [htokens, Bind.bind, Except.bind])
  | ok tokens =>
    rw [htokens] at hread
    exact of_readAll (hreader (ofTokens tokens)) hread

end Yields

variable (g : Grammar)

namespace Attribute

theorem unbroken_docLines (text : String) : Unbroken (docLines text) := by
  rw [docLines]
  split
  · exact List.forall_mem_singleton.mpr (by decide)
  · intro line hline
    obtain ⟨cs, hcs, rfl⟩ := List.mem_map.mp hline
    rw [String.toList_ofList]
    exact Text.notMem_of_mem_lines hcs

theorem yields_body : Yields Unbroken (body g) := by
  refine .last fun tokens => .ite (.last fun name => .last ?rest) (.last ?rest)
  refine fun path => .last fun tokens => .ite (.last fun _ => .pure .nil) ?_
  refine .ite (.last fun _ => .last fun tokens => ?_) (.pure .nil)
  split
  · next literal _ =>
    refine .last fun _ => .pure ?_
    split
    · cases Token.Quotation.value? literal with
      | none => exact .nil
      | some text => exact unbroken_docLines text
    · exact .nil
  · exact .ite .fail (.last fun _ => .pure .nil)

theorem yields_outerOne : Yields Unbroken (outerOne g) :=
  .last fun _ => .group .bracket (yields_body g)

theorem yields_innerOne : Yields Unbroken (innerOne g) :=
  .last fun _ => .last fun _ => .group .bracket (yields_body g)

theorem yields_outer : Yields Unbroken (outer g) := by
  refine .repeating (fun lines hlines => .last fun tokens => .ite ?_ (.pure hlines)) .nil
  exact .bind (yields_outerOne g) fun more hmore => .pure (hlines.append hmore)

theorem yields_inner : Yields Unbroken (inner g) := by
  refine .repeating (fun lines hlines => .last fun tokens => .ite ?_ (.pure hlines)) .nil
  exact .bind (yields_innerOne g) fun more hmore => .pure (hlines.append hmore)

theorem yields_block : Yields Unbroken (block g) :=
  .group .brace (.bind (yields_inner g) fun _ hlines => .last fun _ => .pure hlines)

end Attribute

namespace Member

theorem yields_method (file : String) {docs : List String} (hdocs : Unbroken docs) :
    Yields (fun method => Unbroken method.docs) (method g file docs) := by
  refine .last fun form => .last fun tokens => .ite ?_ ?_
  · exact .bind (Attribute.yields_block g) fun _ hinner => .pure (hdocs.append hinner)
  · exact .last fun _ => .bind (.pure .nil) fun _ hinner => .pure (hdocs.append hinner)

theorem yields_declared (file : String) :
    Yields (fun answer => answer.1.Lined) (declared g file) := by
  refine .last fun start => .bind (Attribute.yields_outer g) fun docs hdocs => ?_
  refine .last fun visible => .last fun marked => ?_
  -- A member that is settled to be of no known kind has no documentation.
  have hsettled (unknown : Bool) (place : Location) {member : Member} (hmember : member.Lined) :
      (if unknown then ((.other "trait member" place, true) : Member × Bool)
        else (member, false)).1.Lined := by
    split
    · exact .other _ _
    · exact hmember
  refine .last fun tokens =>
    .ite ?method <| .ite (.ite ?constant (.ite ?method (.failBefore _))) <|
      .ite ?type (.ite ?call .fail)
  case method =>
    exact .bind (yields_method g file hdocs) fun _ hmethod => .pure (hsettled _ _ (.method hmethod))
  case constant =>
    refine .last fun _ => .last fun place => .last fun _ => .last fun _ => .pure ?_
    exact hsettled _ _ (.other _ _)
  case type => exact .last fun _ => .pure (hsettled _ _ (.other _ _))
  case call => exact .last fun _ => .pure (.other _ _)

theorem yields_ofTrait (file : String) : Yields ServiceGen.Member.Lined (ofTrait g file) :=
  .bind (.copyingIf _ (yields_declared g file)) fun _ hanswer => .pure hanswer

end Member

namespace Item

/-- An outcome whose documentation is divided into lines. -/
inductive Outcome.Lined : Outcome → Prop
  | kept {form : Form} (docs : Unbroken form.docs)
    (members : ∀ member ∈ form.members, member.Lined) : Lined (.kept form)
  | passed : Lined .passed
  | copied : Lined .copied

theorem lined_unkept (copied : Bool) : (Outcome.unkept copied).Lined := by
  cases copied
  · exact .passed
  · exact .copied

/-- An item without members. -/
theorem lined_kept (name : String) (position : Position) (kind : ItemKind) {docs : List String}
    (hdocs : Unbroken docs) : Outcome.Lined (.kept ⟨name, position, kind, docs, []⟩) :=
  .kept hdocs fun _ hmember => absurd hmember List.not_mem_nil

theorem yields_passed (reader : Reader Unit) : Yields Outcome.Lined (passed reader) :=
  .last fun _ => .pure .passed

theorem yields_function : Yields Outcome.Lined (function g) := by
  refine .last fun _ => .last fun form => .last fun _ => .ite (.pure .copied) ?_
  exact .bind (Attribute.yields_block g) fun _ hdocs => .pure (lined_kept _ _ _ hdocs)

theorem yields_imported : Yields Outcome.Lined (imported g) :=
  .last fun _ => .last fun copied => .pure (lined_unkept copied)

theorem yields_storage : Yields Outcome.Lined (storage g) := by
  refine .last fun _ => .last fun _ => .last fun _ => .last fun ⟨name, position⟩ => ?_
  refine .last fun _ => .ite (.last fun _ => .last fun _ => .pure .copied) ?_
  refine .last fun _ => .last fun _ => .last fun _ => .ite (.pure .copied) ?_
  exact .last fun _ => .last fun _ => .last fun _ => .pure (lined_kept _ _ _ .nil)

theorem yields_constant : Yields Outcome.Lined (constant g) := by
  refine .last fun _ => .last fun _ => .last fun _ => .last fun ⟨name, position⟩ => ?_
  refine .last fun ⟨valued, generic⟩ => .pure ?_
  split
  · exact lined_kept _ _ _ .nil
  · exact .copied

theorem yields_module : Yields Outcome.Lined (module g) := by
  refine .last fun _ => .last fun _ => .last fun _ => .last fun ⟨name, position⟩ => ?_
  refine .last fun _ => .ite (.pure (lined_kept _ _ _ .nil)) ?_
  refine .bind (.group _ ?_) fun _ hdocs => .pure (lined_kept _ _ _ hdocs)
  exact .bind (Attribute.yields_inner g) fun _ hdocs => .last fun _ => .pure hdocs

theorem yields_typeAlias : Yields Outcome.Lined (typeAlias g) := by
  refine .last fun _ => .last fun type => .pure ?_
  split
  · exact lined_kept _ _ _ .nil
  · exact .copied

theorem yields_data (keyword : String) (kind : ItemKind) (rest : Reader Unit) :
    Yields Outcome.Lined (data g keyword kind rest) := by
  refine .last fun _ => .last fun _ => .last fun ⟨name, position⟩ => ?_
  exact .last fun _ => .last fun _ => .pure (lined_kept _ _ _ .nil)

theorem yields_traitRest (file name : String) (position : Position) :
    Yields Outcome.Lined (traitRest g file name position) := by
  refine .last fun _ => .last fun _ => ?_
  refine .bind (P := fun answer => Unbroken answer.1 ∧ ∀ member ∈ answer.2, member.Lined)
    (.group _ (.bind (Attribute.yields_inner g) fun docs hdocs => ?_)) ?_
  · exact .bind (.untilEnd (Member.yields_ofTrait g file)) fun _ hmembers =>
      .pure ⟨hdocs, hmembers⟩
  · exact fun _ ⟨hdocs, hmembers⟩ => .pure (.kept hdocs hmembers)

theorem yields_boundAlias : Yields Outcome.Lined (boundAlias g) :=
  .last fun _ => .last fun _ => .last fun _ => .last fun _ => .pure .passed

theorem yields_trait (file : String) : Yields Outcome.Lined (trait g file) := by
  refine .last fun _ => .last fun _ => .last fun _ => .last fun _ => ?_
  exact .last fun ⟨name, position⟩ => .last fun _ => yields_traitRest g file name position

theorem yields_plainTrait (file : String) : Yields Outcome.Lined (plainTrait g file) := by
  refine .last fun _ => .last fun _ => .last fun ⟨name, position⟩ => .last fun _ => ?_
  exact .last fun _ => .ite (yields_traitRest g file name position) (yields_boundAlias g)

theorem yields_implementationBody (visible constant isOfTrait : Bool) (first : TypeForm) :
    Yields Outcome.Lined (implementationBody g visible constant isOfTrait first) := by
  refine .last fun _ => .last fun _ => ?_
  split <;> exact .pure (lined_unkept _)

theorem yields_implementationType (visible constant : Bool) :
    Yields Outcome.Lined (implementationType g visible constant) := by
  refine .last fun start => .last fun tokens => .ite (.last ?rest) (?rest ())
  refine fun _ => .last fun first => .last fun isOfTrait => ?_
  have hbody (_ : Unit) := yields_implementationBody g visible constant isOfTrait first
  exact .ite (.last hbody) (.ite (.last hbody) (hbody ()))

theorem yields_implementation : Yields Outcome.Lined (implementation g) := by
  refine .last fun visible => .last fun _ => .last fun _ => .last fun _ => .last fun tokens => ?_
  have hof : Yields Outcome.Lined (implementationOf g visible) := by
    have htype (constant : Bool) := yields_implementationType g visible constant
    exact .last fun tokens => .ite (.last fun _ => .last fun _ => htype _) (htype _)
  exact .ite (.last fun _ => hof) hof

theorem yields_form (file : String) : Yields Outcome.Lined (form g file) := by
  refine .last fun ⟨visible, tokens⟩ => ?_
  refine .ite (yields_function g) <| .ite (yields_passed _) <| .ite (yields_imported g) <|
    .ite (yields_storage g) <| .ite (yields_constant g) <| .ite ?guarded <|
    .ite (yields_module g) <| .ite (yields_typeAlias g) <| .ite (yields_data g _ _ _) <|
    .ite (yields_data g _ _ _) <| .ite (yields_data g _ _ _) <| .ite (yields_plainTrait g file) <|
    .ite (yields_trait g file) <| .ite (yields_implementation g) <|
    .ite (.last fun _ => .pure .copied) <| .ite (yields_passed _) (.failBefore _)
  exact .ite (yields_trait g file) <| .ite (yields_implementation g) <| .ite (yields_passed _) <|
    .ite (yields_module g) (.failBefore _)

theorem yields_read (file : String) :
    Yields (fun item? => ∀ item ∈ item?, item.Lined) (read g file) := by
  refine .bind (Attribute.yields_outer g) fun docs hdocs => ?_
  refine .bind (yields_form g file) fun outcome houtcome => ?_
  cases houtcome with
  | kept hinner hmembers =>
    exact .pure fun item hitem => Option.mem_some.mp hitem ▸ ⟨hdocs.append hinner, hmembers⟩
  | passed | copied => exact .pure fun item hitem => absurd hitem (Option.not_mem_none item)

end Item

theorem yields_file (path : String) :
    Yields (fun items => ∀ item ∈ items, item.Lined) (g.file path) := by
  refine .last fun _ => .bind (.untilEnd (Item.yields_read g path)) fun items hitems => .pure ?_
  intro item hitem
  obtain ⟨item?, hmem, rfl⟩ := List.mem_filterMap.mp hitem
  exact hitems _ hmem item rfl

end Grammar

end ServiceGen
