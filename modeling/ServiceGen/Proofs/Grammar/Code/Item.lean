import ServiceGen.Proofs.Grammar.Code.Statement

/-!
The signatures of generated code, and the members of its interfaces, implementations and structures.
-/
namespace ServiceGen.Grammar

open Located Token Reader Ahead

variable {tokens params result rest : List Token} {depth : Nat}

/-! Parameters -/

/-- Tokens that are taken as a parameter, in front of all others or not. -/
structure IsParam (isFirst : Bool) (tokens : List Token) : Prop where
  readable : Readable tokens
  nonempty : tokens ≠ []
  unmarked : ∀ rest, isOp "#" (placedAll (tokens ++ rest)) = false
  undotted : ∀ rest, isOp "..." (placedAll (tokens ++ rest)) = false
  accepted : ∀ depth rest, extent tokens < depth → FollowsPiece [] rest →
    ∃ form, form ≠ .dots ∧ Parses (Signature.param (ofDepth depth) isFirst) tokens rest form

/-- A parameter for the value that a method is called on, as it is or shared. -/
theorem isParam_self (shared : Bool) :
    IsParam true ((if shared then [.punct '&' false] else []) ++ [.ident "self"]) where
  readable := by
    cases shared with
    | true => exact readable_mark (by decide) (readable_word rfl trivial)
    | false => exact readable_word rfl trivial
  nonempty := by simp
  unmarked _ := by cases shared <;> rfl
  undotted _ := by cases shared <;> rfl
  accepted depth rest _ hfollows := by
    have hreceiver : ∃ receiver position, Parses (Signature.receiver (ofDepth depth))
        ((if shared then [.punct '&' false] else []) ++ [.ident "self"]) rest
        (receiver, position) := by
      cases shared with
      | true =>
        have hcolons : isOp "::" (placedAll rest) = false := by
          obtain rfl | ⟨more, rfl⟩ := hfollows <;> rfl
        refine ⟨.shared, .start, .cons (parses_op? (parses_op rfl) rfl) (.yes rfl ?_)⟩
        refine .skip (.ahead (.no rfl .pure)) (.skip (passes_word? rfl) (.here ?_))
        exact .last parses_word (.ahead (.no hcolons .pure))
      | false =>
        have hcolon : isOp ":" (placedAll rest) = false := by
          obtain rfl | ⟨more, rfl⟩ := hfollows <;> rfl
        refine ⟨.value, .start, .skip (passes_op? rfl) (.no rfl (.skip (passes_word? rfl) ?_))⟩
        exact .here (.last parses_word (.skip (passes_op? hcolon) (.no rfl .pure)))
    obtain ⟨receiver, position, hreceiver⟩ := hreceiver
    exact ⟨.receiver receiver, nofun, hreceiver.attempt.last .pure⟩

/-- A parameter with a name and a type. -/
theorem IsType.isParam {isFirst : Bool} (name : Name) {type : List Token}
    (htype : IsType true type) :
    IsParam isFirst (.ident name.text :: .punct ':' false :: type) where
  readable := readable_word name.word (readable_mark (by decide) htype.readable)
  nonempty := List.cons_ne_nil _ _
  unmarked _ := rfl
  undotted _ := rfl
  accepted depth rest hdepth hfollows := by
    simp only [extent_ident, extent_punct] at hdepth
    obtain ⟨hbegins, form, printed, hread⟩ := htype.accepted depth rest (by omega) hfollows.endsType
    have hreceiver : Refuses (Signature.receiver (ofDepth depth))
        (.ident name.text :: .punct ':' false :: type ++ rest) :=
      .skip (passes_op? rfl) (.no rfl (.skip (passes_word? (name.isWord (by decide)))
        (.here fun _ => .bind (.word (name.isWord (by decide))))))
    have hpattern := parses_binding name (show 0 < depth by omega) (.colon (type ++ rest))
    refine ⟨.typed ⟨some name.text, Token.text printed⟩, nofun, .skip hreceiver.attempt ?_⟩
    refine .ahead (.no (Bool.and_false _) (.cons hpattern (.cons (parses_op rfl) ?_)))
    refine .skip (passes_op? hbegins.dots) (.no rfl (.last hread.unit.printing.parses ?_))
    exact (Parses.emit _).last .pure

/-- Parameters with commas between them. The flag tells whether the first of them stands in front of
all. -/
inductive IsParams : Bool → List Token → Prop where
  | nil {isFirst : Bool} : IsParams isFirst []
  | last {isFirst : Bool} {tokens : List Token} (hparam : IsParam isFirst tokens) :
    IsParams isFirst tokens
  | cons {isFirst : Bool} {tokens more : List Token} (hparam : IsParam isFirst tokens)
    (hmore : IsParams false more) : IsParams isFirst (tokens ++ comma :: more)

theorem IsParams.readable {isFirst : Bool} (hparams : IsParams isFirst tokens) :
    Readable tokens := by
  induction hparams with
  | nil => trivial
  | last hparam => exact hparam.readable
  | cons hparam _ ih => exact hparam.readable.append (readable_mark (by decide) ih)

/-- Parameters are taken one by one. A parameter is the first of all as long as none is read. -/
theorem IsParams.accepts (hparams : IsParams true tokens) (hdepth : extent tokens < depth) :
    Accepts (Signature.params (ofDepth depth)) tokens [] := by
  suffices hall : ∀ isFirst (forms : List _), IsParams isFirst tokens → forms.isEmpty = isFirst →
      ∃ forms', Loops _ forms tokens [] forms' from
    .last ((hall true [] hparams rfl).imp fun _ => Loops.repeating) fun _ => .pure
  clear hparams
  intro isFirst forms hparams
  have hend {tokens : List Token} (hnonempty : tokens ≠ []) (rest : List Token) :
      (placedAll (tokens ++ rest)).isEmpty = false := by
    obtain ⟨token, more, rfl⟩ := List.exists_cons_of_ne_nil hnonempty
    rfl
  induction hparams generalizing forms with
  | nil => exact fun _ => ⟨forms, .done (.atEnd (.yes rfl .pure))⟩
  | @last isFirst tokens hparam =>
    rintro rfl
    obtain ⟨form, hform, hread⟩ := hparam.accepted depth [] hdepth (.inl rfl)
    refine ⟨form :: forms, .done (.atEnd (.no (hend hparam.nonempty []) ?_))⟩
    refine .skip (skips_outer (hparam.unmarked [])).parses ?_
    exact .skip (passes_op? (hparam.undotted [])) (.no rfl (hread.last (.atEnd (.yes rfl .pure))))
  | @cons isFirst tokens more hparam hmore ih =>
    rintro rfl
    simp only [comma, extent_append, extent_punct] at hdepth
    obtain ⟨form, hform, hread⟩ := hparam.accepted depth (comma :: more) (by omega) (.inr ⟨_, rfl⟩)
    obtain ⟨forms', hloops⟩ := ih (by omega) (form :: forms) rfl
    have hmark := hparam.unmarked (comma :: more)
    have hdots := hparam.undotted (comma :: more)
    rw [List.append_cons] at hmark hdots
    rw [List.append_cons]
    refine ⟨forms', .again (by simp) (.atEnd (.no ?_ ?_)) hloops⟩
    · simpa using hend hparam.nonempty (comma :: more)
    · rw [List.append_nil]
      refine .skip (skips_outer hmark).parses (.skip (passes_op? hdots) (.no rfl (hread.bind ?_)))
      refine .atEnd (.no rfl ((parses_op rfl).last ?_))
      cases form <;> first | exact .pure | exact absurd rfl hform

/-! Signatures -/

/-- The signature of a function, perhaps with the type of its result. -/
def signature (name : Name) (params : List Token) (result : Option (List Token)) : List Token :=
  .ident "fn" :: .ident name.text :: .group .parenthesis params :: result.elim [] (arrow ++ ·)

/-- What stands behind a signature. -/
inductive FollowsSignature : List Token → Prop where
  | semicolon (rest : List Token) : FollowsSignature (semicolon :: rest)
  | body (inner rest : List Token) : FollowsSignature (.group .brace inner :: rest)

theorem FollowsSignature.ends (hfollows : FollowsSignature rest) : Type.Ends (placedAll rest) := by
  cases hfollows <;> exact ⟨⟨rfl, rfl, rfl⟩, rfl, rfl, rfl⟩

theorem readable_signature (name : Name) {result : Option (List Token)}
    (hparams : IsParams true params) (hresult : ∀ type ∈ result, IsType true type) :
    Readable (signature name params result) := by
  refine readable_word rfl (readable_word name.word ((readable_group hparams.readable).append ?_))
  cases result with
  | none => trivial
  | some type => exact readable_arrow (hresult type rfl).readable

theorem accepts_result? {result : Option (List Token)} (hresult : ∀ type ∈ result, IsType true type)
    (hdepth : extent (result.elim [] (arrow ++ ·)) < depth) (hfollows : FollowsSignature rest) :
    Accepts (Type.result (ofDepth depth) true) (result.elim [] (arrow ++ ·)) rest := by
  cases result with
  | none =>
    have harrow : isOp "->" (placedAll rest) = false := by cases hfollows <;> rfl
    exact .skip (passes_op? harrow) (.no rfl .pure)
  | some type =>
    simp only [Option.elim, arrow, extent_append, extent_punct] at hdepth
    refine .after (parses_op? (parses_op_pair rfl) rfl) (.yes rfl ?_)
    exact .last ((hresult type rfl).accepted depth rest (by omega) hfollows.ends).2 fun _ => .pure

theorem accepts_signature (name : Name) {result : Option (List Token)}
    (hparams : IsParams true params) (hresult : ∀ type ∈ result, IsType true type)
    (hdepth : extent (signature name params result) < depth) (hfollows : FollowsSignature rest) :
    Accepts (Signature.read (ofDepth depth) false) (signature name params result) rest := by
  simp only [signature, extent_ident, extent_group] at hdepth
  obtain ⟨forms, hforms⟩ := hparams.accepts (show _ < depth by omega)
  obtain ⟨answer, printed, hanswer⟩ := accepts_result? hresult (show _ < depth by omega) hfollows
  have hwhere : isWord "where" (placedAll rest) = false := by cases hfollows <;> rfl
  refine .skip (passes_word? rfl) (.skip (passes_word? rfl) (.skip (passes_word? rfl) ?_))
  refine .skip .pure (.skip (.skip (passes_word? rfl) (.no rfl .pure)) (.cons parses_word ?_))
  refine .here (.cons (parses_ident name) (.skip (.ahead (.yes rfl .pure)) ?_))
  refine .cons hforms.group (.last ⟨_, hanswer.printing.parses⟩ fun _ => ?_)
  exact .skip (.emit _) (.skip (.ahead (.yes (by simp [hwhere]) .pure)) .pure)

/-! Members -/

/-- A mark that something can be used from elsewhere, or nothing. -/
def mark (isPublic : Bool) : List Token := if isPublic then [.ident "pub"] else []

theorem readable_public (isPublic : Bool) : Readable (mark isPublic) := by
  cases isPublic with
  | true => exact readable_word rfl trivial
  | false => trivial

/-- A mark is taken in front of a word that is none. -/
theorem parses_visibility (isPublic : Bool) {word : String} (hword : word ≠ "pub") :
    Parses Generics.visibility (mark isPublic) (.ident word :: rest) isPublic := by
  cases isPublic with
  | true =>
    have hvisible : Parses (word? "pub") [.ident "pub"] (.ident word :: rest) true := parses_word?
    exact .last hvisible (.no rfl (.ahead .pure))
  | false =>
    have hplain : isWord "pub" (placedAll (.ident word :: rest)) = false :=
      beq_eq_false_iff_ne.mpr hword
    exact .skip (passes_word? hplain) (.yes rfl .pure)

/-- Tokens that a reader of members or of items takes, whatever stands behind them. -/
structure IsPiece {α : Type} (reader : Grammar → Reader α) (tokens : List Token) : Prop where
  readable : Readable tokens
  nonempty : tokens ≠ []
  outer : ∀ rest, beginsInner (placedAll (tokens ++ rest)) = false
  accepted : ∀ depth rest, 4 * extent tokens + 2 < depth →
    Accepts (reader (ofDepth depth)) tokens rest

/-- The pieces of a body, one behind the other. -/
def IsPieces {α : Type} (reader : Grammar → Reader α) (tokens : List Token) : Prop :=
  ∃ pieces : List (List Token), tokens = pieces.flatten ∧ ∀ piece ∈ pieces, IsPiece reader piece

theorem extent_le_flatten {pieces : List (List Token)} {piece : List Token}
    (hpiece : piece ∈ pieces) : extent piece ≤ extent pieces.flatten := by
  obtain ⟨before, behind, rfl⟩ := List.append_of_mem hpiece
  simp
  omega

namespace IsPieces

variable {α : Type} {reader : Grammar → Reader α}

theorem nil : IsPieces reader [] := ⟨[], rfl, nofun⟩

theorem append {more : List Token} (hfront : IsPieces reader tokens)
    (hmore : IsPieces reader more) :
    IsPieces reader (tokens ++ more) := by
  obtain ⟨pieces, rfl, hpieces⟩ := hfront
  obtain ⟨others, rfl, hothers⟩ := hmore
  refine ⟨pieces ++ others, by simp, fun piece hpiece => ?_⟩
  exact (List.mem_append.mp hpiece).elim (hpieces piece) (hothers piece)

theorem ofPiece (hpiece : IsPiece reader tokens) : IsPieces reader tokens :=
  ⟨[tokens], by simp, by simpa using hpiece⟩

theorem flatten {pieces : List (List Token)} (hpieces : ∀ piece ∈ pieces, IsPieces reader piece) :
    IsPieces reader pieces.flatten := by
  induction pieces with
  | nil => exact nil
  | cons piece pieces ih =>
    rw [List.flatten_cons]
    exact (hpieces piece List.mem_cons_self).append
      (ih fun other hother => hpieces other (List.mem_cons_of_mem _ hother))

theorem readable (hpieces : IsPieces reader tokens) : Readable tokens := by
  obtain ⟨pieces, rfl, hpieces⟩ := hpieces
  induction pieces with
  | nil => trivial
  | cons piece pieces ih =>
    exact (hpieces piece List.mem_cons_self).readable.append
      (ih fun other hother => hpieces other (List.mem_cons_of_mem _ hother))

theorem outer (hpieces : IsPieces reader tokens) : beginsInner (placedAll tokens) = false := by
  obtain ⟨pieces, rfl, hpieces⟩ := hpieces
  cases pieces with
  | nil => rfl
  | cons piece pieces => exact (hpieces piece List.mem_cons_self).outer _

theorem accepts (hpieces : IsPieces reader tokens) (hdepth : 4 * extent tokens + 2 < depth) :
    Accepts (untilEnd (reader (ofDepth depth))) tokens [] := by
  obtain ⟨pieces, rfl, hpieces⟩ := hpieces
  refine accepts_untilEnd fun piece hpiece => ⟨(hpieces piece hpiece).nonempty, fun rest => ?_⟩
  have hextent := extent_le_flatten hpiece
  exact (hpieces piece hpiece).accepted depth rest (by omega)

end IsPieces

/-- A method of an interface, without a body. -/
theorem isPiece_declared (file : String) (name : Name) {result : Option (List Token)}
    (hparams : IsParams true params) (hresult : ∀ type ∈ result, IsType true type) :
    IsPiece (Member.ofTrait · file) (signature name params result ++ [semicolon]) where
  readable := (readable_signature name hparams hresult).append (readable_mark (by decide) trivial)
  nonempty := List.cons_ne_nil _ _
  outer _ := rfl
  accepted depth rest hdepth := by
    rw [extent_append] at hdepth
    have hmethod : Accepts (Member.method (ofDepth depth) file [])
        (signature name params result ++ [semicolon]) rest := by
      refine .bind
        (accepts_signature name hparams hresult (by omega) (.semicolon rest)) fun form => ?_
      exact .ahead (.no rfl (.last (parses_op rfl).accepts fun _ => .skip .pure .pure))
    refine .last (.copyingIf (.here ?_)) fun _ => .pure
    refine .skip (skips_outer rfl).parses (.skip (parses_visibility false (by decide)) ?_)
    exact .skip (passes_word? rfl) (.ahead (.yes rfl (hmethod.last fun _ => .pure)))

/-- A function of an implementation, with its body. -/
theorem isPiece_method (isPublic : Bool) (name : Name) {result : Option (List Token)}
    {body : List Token} (hparams : IsParams true params)
    (hresult : ∀ type ∈ result, IsType true type) (hbody : IsBody body) :
    IsPiece Member.ofImplementation
      (mark isPublic ++ (signature name params result ++ [.group .brace body])) where
  readable := (readable_public isPublic).append
    ((readable_signature name hparams hresult).append (readable_group hbody.readable))
  nonempty := by simp [signature]
  outer _ := by cases isPublic <;> rfl
  accepted depth rest hdepth := by
    simp only [extent_append, extent_group, extent_nil] at hdepth
    obtain ⟨form, hsignature⟩ :=
      accepts_signature name hparams hresult (show _ < depth by omega) (.body body rest)
    refine (Parses.discard (a := false) (.copyingIf ?_)).accepts
    refine .skip (skips_outer (by cases isPublic <;> rfl)).parses ?_
    refine .bind (parses_visibility isPublic (by decide)) (.ahead (.no rfl (.ahead (.yes rfl ?_))))
    refine .bind hsignature (.skip (passes_op? rfl) (.no rfl ?_))
    exact .last (hbody.parses_block (by omega)) .pure

end ServiceGen.Grammar

/-!
The items of generated code: constants, functions, interfaces, structures, implementations and other
names for types, some of them with documentation in front.
-/
namespace ServiceGen.Grammar

open Located Token Reader Ahead

variable {tokens more params rest : List Token} {depth : Nat} {file : String}

/-- Tokens that are taken as an item behind its attributes. -/
structure IsBareItem (tokens : List Token) : Prop where
  unmarked : ∀ rest, isOp "#" (placedAll (tokens ++ rest)) = false
  piece : ∀ file, IsPiece (Item.form · file) tokens

theorem skips_parameters {g : Grammar} (hangle : isOp "<" (placedAll rest) = false) :
    Parses (Generics.parameters g) [] rest false :=
  .ahead (.yes (by rw [List.nil_append, hangle]; rfl) .pure)

theorem skips_conditions {g : Grammar} (hwhere : isWord "where" (placedAll rest) = false) :
    Parses (Generics.conditions? g) [] rest false :=
  .ahead (.yes (by rw [List.nil_append, hwhere]; rfl) .pure)

/-- The name of an item is taken with the place where it stands. -/
theorem parses_named (name : Name) :
    Parses (Item.named Reader.ident) [.ident name.text] rest (name.text, .start) :=
  .here ((parses_ident name).last .pure)

/-- An item that begins with a word, perhaps behind a mark. What it is, is told by what stands
behind the mark. -/
theorem isBareItem (isPublic : Bool) {word : String} (hfront : tokens = .ident word :: more)
    (hword : word ≠ "pub") (hreadable : Readable tokens)
    (haccepts : ∀ file depth rest, 4 * extent tokens + 2 < depth →
      ∃ next : Bool × List Located → Reader Item.Outcome,
        Item.form (ofDepth depth) file = peeking Generics.visibility >>= next ∧
        Accepts (next (isPublic, placedAll (tokens ++ rest))) (mark isPublic ++ tokens) rest) :
    IsBareItem (mark isPublic ++ tokens) := by
  have hunmarked rest : isOp "#" (placedAll (mark isPublic ++ tokens ++ rest)) = false := by
    rw [hfront]
    cases isPublic <;> rfl
  refine ⟨hunmarked, fun file => ?_⟩
  refine ⟨(readable_public isPublic).append hreadable, by simp [hfront], fun rest => ?_, ?_⟩
  · rw [beginsInner, hunmarked, Bool.false_and]
  · intro depth rest hdepth
    rw [extent_append] at hdepth
    obtain ⟨next, hform, answer, hnext⟩ := haccepts file depth rest (by omega)
    have hvisible : Parses Generics.visibility (mark isPublic) (tokens ++ rest) isPublic := by
      rw [hfront]
      exact parses_visibility isPublic hword
    rw [hform]
    exact ⟨answer, .peeking (List.append_assoc ..) hvisible hnext⟩

/-! Functions and constants -/

theorem isBareItem_function (isPublic : Bool) (name : Name) {result : Option (List Token)}
    {body : List Token} (hparams : IsParams true params)
    (hresult : ∀ type ∈ result, IsType true type) (hbody : IsBody body) :
    IsBareItem (mark isPublic ++ (signature name params result ++ [.group .brace body])) := by
  refine isBareItem isPublic rfl (by decide)
    ((readable_signature name hparams hresult).append (readable_group hbody.readable)) ?_
  intro file depth rest hdepth
  simp only [extent_append, extent_group, extent_nil] at hdepth
  have hsignature : Accepts (Signature.read (ofDepth depth) false) (signature name params result)
      (.group .brace body :: rest) :=
    accepts_signature name hparams hresult (by omega) (.body body rest)
  have hfunction : Accepts (Item.function (ofDepth depth))
      (mark isPublic ++ (signature name params result ++ [.group .brace body])) rest := by
    refine .after (parses_visibility isPublic (by decide)) (.bind hsignature fun form => ?_)
    refine .skip (passes_op? rfl) (.no rfl ?_)
    exact .last (hbody.parses_block (by omega)).accepts fun _ => .pure
  exact ⟨_, rfl, .yes rfl hfunction⟩

/-- The word of a constant does not begin the signature of a function. -/
theorem not_begins_constant (name : Name) (rest : List Located) :
    Signature.begins false (placedAll [.ident "const", .ident name.text] ++ rest) = false := by
  have hword {word : String} (hword : word ∈ reserved) :
      isWord word (.ident name.text .start :: rest) = false := name.isWord hword
  have hconst : isWord "const" (.ident "const" .start :: .ident name.text .start :: rest) = true :=
    rfl
  have hasync := hword (show "async" ∈ reserved by decide)
  have hunsafe := hword (show "unsafe" ∈ reserved by decide)
  have hextern := hword (show "extern" ∈ reserved by decide)
  have hfunction := hword (show "fn" ∈ reserved by decide)
  simp [Signature.begins, placedAll, placed, hconst, hasync, hunsafe, hextern, hfunction]

/-- A constant with its type and value. -/
theorem isBareItem_constant (isPublic : Bool) (name : Name) {type value : List Token}
    (htype : IsType true type) (hvalue : IsExpr value) :
    IsBareItem (mark isPublic ++ .ident "const" :: .ident name.text :: .punct ':' false ::
      (type ++ .punct '=' false :: (value ++ [semicolon]))) := by
  refine isBareItem isPublic rfl (by decide) (readable_word rfl (readable_word name.word
    (readable_mark (by decide) (htype.readable.append (readable_mark (by decide)
      (hvalue.readable.append (readable_mark (by decide) trivial))))))) ?_
  intro file depth rest hdepth
  simp only [semicolon, extent_append, extent_ident, extent_punct, extent_nil] at hdepth
  obtain ⟨-, hread⟩ := htype.accepted depth (.punct '=' false :: (value ++ [semicolon] ++ rest))
    (by omega) (.mark (by decide))
  have hexpression : Accepts (ofDepth depth).expression value (semicolon :: rest) :=
    hvalue.accepted depth _ (by omega) (.semicolon rest)
  have hconstant : Accepts (Member.constant (ofDepth depth)) (.punct ':' false ::
      (type ++ .punct '=' false :: (value ++ [semicolon]))) rest := by
    refine .ahead (.skip (skips_parameters rfl) (.cons (parses_op rfl) ?_))
    refine .bind (hread.last fun _ => .pure) fun _ => ?_
    refine .cons (parses_op? (parses_op rfl) rfl) (.yes rfl (.bind hexpression fun _ => ?_))
    exact .skip (skips_conditions rfl) (.last (parses_op rfl).accepts fun _ => .pure)
  have hitem : Accepts (Item.constant (ofDepth depth)) (mark isPublic ++ .ident "const" ::
      .ident name.text :: .punct ':' false :: (type ++ .punct '=' false :: (value ++ [semicolon])))
      rest := by
    refine .after (parses_visibility isPublic (by decide)) (.cons parses_word (.ahead ?_))
    have hunderscore : isUnderscore (placedAll (.ident name.text :: .punct ':' false ::
      (type ++ .punct '=' false :: (value ++ [semicolon])) ++ rest)) = false :=
      name.isWord (by decide)
    rw [hunderscore, if_neg Bool.false_ne_true]
    exact .cons (parses_named name) (hconstant.last fun _ => .pure)
  refine ⟨_, rfl, .no ?_ ?_⟩
  · exact not_begins_constant name _
  iterate 3 refine .no rfl ?_
  exact .yes rfl hitem

/-! Structures -/

/-- The field of a structure, with its type. -/
structure IsDeclaredField (tokens : List Token) : Prop where
  split : ∃ (isPublic : Bool) (name : Name) (type : List Token), IsType true type ∧
    tokens = mark isPublic ++ .ident name.text :: .punct ':' false :: type

theorem IsDeclaredField.readable (hfield : IsDeclaredField tokens) : Readable tokens := by
  obtain ⟨isPublic, name, type, htype, rfl⟩ := hfield.split
  exact (readable_public isPublic).append
    (readable_word name.word (readable_mark (by decide) htype.readable))

theorem IsDeclaredField.accepts (hfield : IsDeclaredField tokens) (hdepth : extent tokens < depth)
    (hfollows : FollowsPiece [] rest) : Accepts (Data.namedField (ofDepth depth)) tokens rest := by
  obtain ⟨isPublic, name, type, htype, rfl⟩ := hfield.split
  simp only [extent_append, extent_ident, extent_punct] at hdepth
  have hname : name.text ≠ "pub" := by
    intro heq
    exact absurd name.free (by rw [heq]; decide)
  have hunderscore : isUnderscore (placedAll (.ident name.text :: .punct ':' false :: type ++ rest))
      = false := name.isWord (by decide)
  refine .skip (skips_outer (by cases isPublic <;> rfl)).parses ?_
  refine .after (parses_visibility isPublic hname) (.ahead ?_)
  rw [hunderscore, if_neg Bool.false_ne_true]
  refine .cons (parses_ident name) (.cons (parses_op rfl) (.ahead (.no rfl ?_)))
  exact (htype.accepted depth rest (by omega) hfollows.endsType).2.last fun _ => .pure

/-- What a structure has behind its name: nothing, or fields. -/
inductive IsData : List Token → Prop where
  | nothing : IsData [semicolon]
  | fields {fields : List Token} (hfields : Commas IsDeclaredField fields) :
    IsData [.group .brace fields]

theorem IsData.readable (hdata : IsData tokens) : Readable tokens := by
  cases hdata with
  | nothing => exact readable_mark (by decide) trivial
  | fields hfields => exact readable_group (hfields.readable fun _ => IsDeclaredField.readable)

theorem IsData.accepts (hdata : IsData tokens) (hdepth : extent tokens < depth) :
    Accepts (Data.fields (ofDepth depth)) tokens rest := by
  cases hdata with
  | nothing =>
    exact .skip (skips_conditions rfl) (.ahead (.no rfl (.no rfl (parses_op rfl).accepts)))
  | @fields fields hfields =>
    rw [extent_group] at hdepth
    have hgroup : Parses (commaSeparated (Data.namedField (ofDepth depth))) fields [] () := by
      refine hfields.commaSeparated fun piece hpiece hextent => ⟨?_, fun rest hrest => ?_⟩
      · obtain ⟨isPublic, name, type, -, rfl⟩ := hpiece.split
        simp
      · exact hpiece.accepts (by omega) hrest
    exact .skip (skips_conditions rfl) (.ahead (.no rfl (.yes rfl hgroup.group.accepts)))

theorem isBareItem_structure (isPublic : Bool) (name : Name) (hdata : IsData tokens) :
    IsBareItem (mark isPublic ++ .ident "struct" :: .ident name.text :: tokens) := by
  refine isBareItem isPublic rfl (by decide)
    (readable_word rfl (readable_word name.word hdata.readable)) ?_
  intro file depth rest hdepth
  simp only [extent_ident] at hdepth
  have hstructure : Accepts
      (Item.data (ofDepth depth) "struct" .struct (Data.fields (ofDepth depth)))
      (mark isPublic ++ .ident "struct" :: .ident name.text :: tokens) rest := by
    refine .after (parses_visibility isPublic (by decide)) (.cons parses_word ?_)
    refine .cons (parses_named name) (.skip (skips_parameters ?_) ?_)
    · cases hdata <;> rfl
    · exact (hdata.accepts (by omega)).last fun _ => .pure
  refine ⟨_, rfl, ?_⟩
  iterate 8 refine .no rfl ?_
  exact .yes rfl hstructure

/-! Other names for types -/

theorem isBareItem_alias (isPublic : Bool) (name : Name) {type : List Token}
    (htype : IsType true type) :
    IsBareItem (mark isPublic ++ .ident "type" :: .ident name.text :: .punct '=' false ::
      (type ++ [semicolon])) := by
  refine isBareItem isPublic rfl (by decide) (readable_word rfl (readable_word name.word
    (readable_mark (by decide) (htype.readable.append (readable_mark (by decide) trivial))))) ?_
  intro file depth rest hdepth
  simp only [semicolon, extent_append, extent_ident, extent_punct, extent_nil] at hdepth
  obtain ⟨-, hread⟩ := htype.accepted depth (semicolon :: rest) (by omega) (.mark (by decide))
  have hannounced : Parses
      (announced ":"
        (separated Member.endsBounds "+" (discard (Bound.one (ofDepth depth) .parameter))))
      [] (.punct '=' false :: (type ++ [semicolon]) ++ rest) false := .ahead (.yes rfl .pure)
  have htype : Accepts (Member.typeDeclaration (ofDepth depth) true false) (.ident "type" ::
      .ident name.text :: .punct '=' false :: (type ++ [semicolon])) rest := by
    refine .cons parses_word (.here (.cons (parses_ident name) (.skip (skips_parameters rfl) ?_)))
    refine .skip hannounced (.skip (skips_conditions rfl) ?_)
    refine .cons (parses_op? (parses_op rfl) rfl) (.yes rfl ?_)
    refine .bind (hread.last fun _ => .pure) fun _ => ?_
    exact .last (parses_op rfl).accepts fun _ => .pure
  have hitem : Accepts (Item.typeAlias (ofDepth depth)) (mark isPublic ++ .ident "type" ::
      .ident name.text :: .punct '=' false :: (type ++ [semicolon])) rest :=
    .after (parses_visibility isPublic (by decide)) (htype.last fun _ => .pure)
  refine ⟨_, rfl, ?_⟩
  iterate 7 refine .no rfl ?_
  exact .yes rfl hitem

/-! Interfaces -/

/-- The traits that an interface asks for. -/
def supers (first : Name) (names : List Name) : List Token :=
  .punct ':' false :: .ident first.text :: markers names

theorem readable_supers (first : Name) (names : List Name) : Readable (supers first names) :=
  readable_mark (by decide) (readable_word first.word (readable_markers names))

theorem parses_supers {g : Grammar} (first : Name) (names : List Name) {inner : List Token} :
    Parses (separated Item.endsSuper "+" (discard (Bound.one g .parameter)))
      (.ident first.text :: markers names) (.group .brace inner :: rest) () := by
  have hname (name : Name) (rest : List Token) :
      Item.endsSuper (placedAll (.ident name.text :: rest)) = false := by
    have hwhere : isWord "where" (placedAll (.ident name.text :: rest)) = false :=
      name.isWord (by decide)
    rw [Item.endsSuper, hwhere]
    rfl
  refine Loops.repeating ?_
  induction names generalizing first with
  | nil =>
    have hbound : Parses (Bound.one g .parameter) [.ident first.text] (.group .brace inner :: rest)
        .trait := first.parses_bound ⟨rfl, rfl, rfl⟩
    exact .done (.ahead (.no (hname first _) (hbound.discard.last (.ahead (.yes rfl .pure)))))
  | cons name names ih =>
    have hbound : Parses (Bound.one g .parameter) [.ident first.text]
        ([.punct '+' false] ++ (.ident name.text :: markers names ++ .group .brace inner :: rest))
        .trait := first.parses_bound ⟨rfl, rfl, rfl⟩
    change Loops _ () ([.ident first.text, .punct '+' false] ++ (.ident name.text :: markers names))
      _ ()
    refine .again (List.cons_ne_nil _ _) (.ahead (.no (hname first _) ?_)) (ih name)
    refine .cons hbound.discard (.ahead (.no rfl ?_))
    exact (parses_op rfl).last .pure

theorem isBareItem_trait (isPublic : Bool) (name first : Name) (names : List Name)
    {members : List Token} (hmembers : ∀ file, IsPieces (Member.ofTrait · file) members) :
    IsBareItem (mark isPublic ++ .ident "trait" :: .ident name.text ::
      (supers first names ++ [.group .brace members])) := by
  refine isBareItem isPublic rfl (by decide) (readable_word rfl (readable_word name.word
    ((readable_supers first names).append (readable_group (hmembers "").readable)))) ?_
  intro file depth rest hdepth
  simp only [extent_append, extent_ident, extent_group, extent_nil] at hdepth
  have hbounds : Parses (announced ":"
      (separated Item.endsSuper "+" (discard (Bound.one (ofDepth depth) .parameter))))
      (supers first names) (.group .brace members :: rest) true := by
    have hcolon : Parses (op ":") [.punct ':' false]
        (.ident first.text :: markers names ++ .group .brace members :: rest) () := parses_op rfl
    refine .ahead (.no rfl (.printed hcolon fun mark => ?_))
    rw [← List.append_nil (_ :: _)]
    refine .printed (parses_supers first names) fun printed => ?_
    cases printed with
    | nil => exact .no rfl .pure
    | cons token printed => exact .yes rfl ((Parses.emit _).last .pure)
  have hbody : Accepts (group .brace do
      let docs ← Attribute.inner (ofDepth depth)
      let members ← untilEnd (Member.ofTrait (ofDepth depth) file)
      pure (docs, members)) [.group .brace members] rest := by
    refine .group (.skip (skips_inner ?_) ?_)
    · rw [List.append_nil, (hmembers file).outer]
    · exact ((hmembers file).accepts (by omega)).last fun _ => .pure
  have hitem : Accepts (Item.plainTrait (ofDepth depth) file) (mark isPublic ++ .ident "trait" ::
      .ident name.text :: (supers first names ++ [.group .brace members])) rest := by
    refine .after (parses_visibility isPublic (by decide)) (.cons parses_word ?_)
    refine .cons (parses_named name) (.skip (skips_parameters rfl) (.ahead (.yes rfl ?_)))
    exact .after hbounds (.skip (skips_conditions rfl) (hbody.last fun _ => .pure))
  refine ⟨_, rfl, ?_⟩
  iterate 11 refine .no rfl ?_
  exact .yes rfl hitem

/-! Implementations -/

/-- An implementation of a type by itself, or of an interface for a type. -/
def implementation (first : Name) (second : Option Name) (members : List Token) : List Token :=
  .ident "impl" :: .ident first.text ::
    (second.elim [] (fun name => [.ident "for", .ident name.text]) ++ [.group .brace members])

theorem Name.accepts_type (name : Name) {plus : Bool} (hdepth : 1 < depth)
    (hends : Type.Ends (placedAll rest)) :
    Accepts ((ofDepth depth).type plus) [.ident name.text] rest :=
  ((BarePath.single name).isType.accepted depth rest hdepth hends).2

theorem isBareItem_implementation (first : Name) (second : Option Name) {members : List Token}
    (hmembers : IsPieces Member.ofImplementation members) :
    IsBareItem (implementation first second members) := by
  have hreadable : Readable (implementation first second members) := by
    refine readable_word rfl (readable_word first.word (.append ?_ (readable_group
      hmembers.readable)))
    cases second with
    | none => trivial
    | some name => exact readable_word rfl (readable_word name.word trivial)
  have hfront : implementation first second members = .ident "impl" :: .ident first.text ::
      (second.elim [] (fun name => [.ident "for", .ident name.text]) ++
        [.group .brace members]) := rfl
  refine isBareItem false hfront (by decide) hreadable ?_
  intro file depth rest hdepth
  simp only [extent_ident, extent_append, extent_group, extent_nil] at hdepth
  have hbody : Accepts (group .brace do
      let _ ← Attribute.inner (ofDepth depth)
      let _ ← untilEnd (Member.ofImplementation (ofDepth depth))) [.group .brace members] rest := by
    refine .group (.skip (skips_inner ?_) ((hmembers.accepts (by omega)).last fun _ => .pure))
    rw [List.append_nil, hmembers.outer]
  have hopens : opensGenerics (placedAll (.ident first.text :: (second.elim []
      (fun name => [.ident "for", .ident name.text]) ++ [.group .brace members]) ++ rest)) =
      false := rfl
  have hconst : isWord "const" (placedAll (.ident first.text :: (second.elim []
      (fun name => [.ident "for", .ident name.text]) ++ [.group .brace members]) ++ rest)) =
      false := first.isWord (by decide)
  have hitem : Accepts (Item.implementation (ofDepth depth)) (implementation first second members)
      rest := by
    refine .skip (parses_visibility false (by decide)) (.skip (passes_word? rfl) ?_)
    refine .skip (passes_word? rfl) (.cons parses_word (.ahead (.no hopens (.ahead ?_))))
    rw [hconst]
    refine .no rfl (.here (.ahead (.no rfl ?_)))
    cases second with
    | none =>
      have hfirst : Accepts ((ofDepth depth).type true) [.ident first.text]
          (.group .brace members :: rest) :=
        first.accepts_type (by omega) ⟨⟨rfl, rfl, rfl⟩, rfl, rfl, rfl⟩
      refine .bindOne hfirst fun form => .skip (passes_word? rfl) ?_
      refine .no rfl (.no rfl (.skip (skips_conditions rfl) (hbody.last fun _ => .pure)))
    | some name =>
      have hfirst : Accepts ((ofDepth depth).type true) [.ident first.text]
          (.ident "for" :: .ident name.text :: .group .brace members :: rest) :=
        first.accepts_type (by omega) ⟨⟨rfl, rfl, rfl⟩, rfl, rfl, rfl⟩
      have hsecond : Accepts (ofDepth depth).anyType [.ident name.text]
          (.group .brace members :: rest) :=
        (name.accepts_type (by omega) ⟨⟨rfl, rfl, rfl⟩, rfl, rfl, rfl⟩).last fun _ => .pure
      refine .bindOne hfirst fun form => ?_
      refine .cons parses_word? (.yes rfl (.bindOne hsecond fun _ => ?_))
      exact .skip (skips_conditions rfl) (hbody.last fun _ => .pure)
  refine ⟨_, rfl, ?_⟩
  iterate 13 refine .no rfl ?_
  exact .yes rfl hitem

/-! Files -/

theorem IsBareItem.isPiece (hitem : IsBareItem tokens) (file : String) :
    IsPiece (Item.read · file) tokens where
  readable := (hitem.piece file).readable
  nonempty := (hitem.piece file).nonempty
  outer := (hitem.piece file).outer
  accepted depth rest hdepth := by
    refine .skip (skips_outer (hitem.unmarked rest)).parses ?_
    refine ((hitem.piece file).accepted depth rest hdepth).last fun outcome => ?_
    cases outcome <;> exact .pure

/-- The documentation of what follows. -/
def documentation (text : String) : List Token :=
  [.punct '#' false, .group .bracket [.ident "doc", .punct '=' false, .literal text]]

theorem accepts_documentation {text : String} {g : Grammar}
    (hrest : isOp "#" (placedAll rest) = false) :
    Accepts (Attribute.outer g) (documentation text) rest := by
  have hbody : Accepts (Attribute.body g) [.ident "doc", .punct '=' false, .literal text] [] := by
    have hpath : Accepts Path.plain [.ident "doc"] [.punct '=' false, .literal text] :=
      (BarePath.single ⟨"doc", rfl, rfl⟩).accepts_plain rfl
    have hliteral : Parses Reader.literal [.literal text] [] () :=
      ⟨[.literal text], fun _ _ _ => rfl⟩
    refine .ahead (.no rfl (.bindOne hpath fun path => .ahead (.no rfl (.yes rfl ?_))))
    exact .cons (parses_op rfl) (.ahead (.last hliteral.accepts fun _ => .pure))
  obtain ⟨lines, hbody⟩ := hbody
  have hone : Parses (Attribute.outerOne g) (documentation text) rest lines :=
    (parses_op rfl).cons hbody.group
  refine ⟨[] ++ lines, Loops.repeating ?_⟩
  rw [← List.append_nil (documentation text)]
  refine .again (List.cons_ne_nil _ _) (.ahead (.yes rfl (hone.last .pure))) ?_
  exact .done (.ahead (.no hrest .pure))

/-- An item with documentation in front. -/
theorem IsBareItem.isPiece_documented (hitem : IsBareItem tokens) {text : String}
    (htext : IsLiteral text) (file : String) :
    IsPiece (Item.read · file) (documentation text ++ tokens) where
  readable := by
    refine readable_mark (by decide) ((readable_group ?_).append (hitem.piece file).readable)
    exact readable_word rfl (readable_mark (by decide) ⟨htext, trivial, trivial⟩)
  nonempty := List.cons_ne_nil _ _
  outer _ := rfl
  accepted depth rest hdepth := by
    rw [extent_append] at hdepth
    refine .bind (accepts_documentation (hitem.unmarked rest)) fun docs => ?_
    refine ((hitem.piece file).accepted depth rest (by omega)).last fun outcome => ?_
    cases outcome <;> exact .pure

/-- Tokens that are items one after the other. -/
def AreItems (tokens : List Token) : Prop := ∀ file, IsPieces (Item.read · file) tokens

theorem areItems_nil : AreItems [] := fun _ => .nil

theorem AreItems.append (hfront : AreItems tokens) (hmore : AreItems more) :
    AreItems (tokens ++ more) := fun file => (hfront file).append (hmore file)

theorem areItems_flatten {pieces : List (List Token)} (hpieces : ∀ piece ∈ pieces, AreItems piece) :
    AreItems pieces.flatten := fun file => .flatten fun piece hpiece => hpieces piece hpiece file

theorem IsBareItem.areItems (hitem : IsBareItem tokens) : AreItems tokens :=
  fun file => .ofPiece (hitem.isPiece file)

theorem IsBareItem.areItems_documented (hitem : IsBareItem tokens) {text : String}
    (htext : IsLiteral text) : AreItems (documentation text ++ tokens) :=
  fun file => .ofPiece (hitem.isPiece_documented htext file)

end ServiceGen.Grammar
