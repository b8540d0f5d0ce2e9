import ServiceGen.Proofs.Grammar.Type

/-!
Plain types are read as they are printed, whatever stands behind them, if the grammar is deep enough
for the tokens that they have.
-/
namespace ServiceGen.Grammar

open Ahead

variable {plus : Bool} {tokens : List Token}

/-- That tokens are read as a type, and printed again as they are. -/
def ReadAsType (plus : Bool) (tokens : List Token) : Prop :=
  ∀ depth front rest, Located.tokens front = tokens → Located.sizes front < depth →
    Type.Ends rest → Type.Begins (front ++ rest) ∧
      ∃ form, Takes ((ofDepth depth).type plus) front rest form (Located.tokens front)

/-- That tokens are read as a path, and printed again as they are. -/
def ReadAsPath (tokens : List Token) : Prop :=
  ∀ depth front rest, Located.tokens front = tokens → Located.sizes front ≤ depth →
    Path.Ends rest → BeginsPath (front ++ rest) ∧
      (isOp "#" rest = false → isOp "#" (skip (front ++ rest)) = false) ∧
      ∃ form, Takes (Path.unqualified (ofDepth depth) false) front rest form [] ∧
        form.tokens = Located.tokens front

def ReadAsSegment (tokens : List Token) : Prop :=
  ∀ depth front rest, Located.tokens front = tokens → Located.sizes front ≤ depth →
    Path.EndsSegment rest → BeginsPath (front ++ rest) ∧ isOp "::" (front ++ rest) = false ∧
      (isOp "#" rest = false → isOp "#" (skip (front ++ rest)) = false) ∧
      ∃ name arguments, Takes (Path.segment (ofDepth depth) false) front rest (name, arguments)
        (Located.tokens front)

/-- That tokens are read as the segments behind a first one. -/
def ReadAsChain (tokens : List Token) : Prop :=
  ∀ depth front rest, Located.tokens front = tokens → Located.sizes front ≤ depth →
    Path.Ends rest → Path.EndsSegment (front ++ rest) ∧
      (isOp "#" rest = false → isOp "#" (front ++ rest) = false) ∧
      Path.Chained (ofDepth depth) false rest front (Located.tokens front)

/-- That tokens are read as an argument, which is a lifetime or not. -/
def ReadAsArgument (isLifetime : Bool) (tokens : List Token) : Prop :=
  ∀ depth front closing behind rest, Located.tokens front = tokens → Located.sizes front < depth →
    FollowsItem (.punct '>' false closing :: behind) rest → isOp ">" (front ++ rest) = false ∧
      ∃ form, (form == Path.ArgumentForm.lifetime) = isLifetime ∧
        Takes (Path.argument (ofDepth depth)) front rest form (Located.tokens front)

def ReadAsBound (tokens : List Token) : Prop :=
  ∀ place depth front rest, Located.tokens front = tokens → Located.sizes front ≤ depth →
    Path.Ends rest → Bound.begins place (front ++ rest) = true ∧
      ∃ form, Takes (Bound.one (ofDepth depth) place) front rest form (Located.tokens front)

/-- That tokens are read as the bounds behind a first one. -/
def ReadAsAdded (tokens : List Token) : Prop :=
  ∀ place depth front rest, Located.tokens front = tokens → Located.sizes front ≤ depth →
    Path.Ends rest → Path.Ends (front ++ rest) ∧ Bound.Added (ofDepth depth) place rest front

/-! Types -/

/-- A type is read by a form of the grammar that is one entrance less deep. -/
theorem ReadAsType.ofForm (hform : ∀ depth front rest, Located.tokens front = tokens →
    Located.sizes front ≤ depth → Type.Ends rest → Type.Begins (front ++ rest) ∧
      ∃ form, form.isCopied = false ∧
        Takes (Type.form (ofDepth depth) plus) front rest form (Located.tokens front)) :
    ReadAsType plus tokens := by
  intro depth front rest htokens hsize hends
  obtain ⟨depth, rfl⟩ := Nat.exists_eq_add_one_of_ne_zero (Nat.ne_zero_of_lt hsize)
  obtain ⟨hbegins, form, hcopied, htakes⟩ :=
    hform depth front rest htokens (Nat.le_of_lt_succ hsize) hends
  exact ⟨hbegins, form, htakes.copyingIf hcopied⟩

theorem readAsType_wildcard : ReadAsType plus [.ident "_"] := by
  refine .ofForm fun _ front rest htokens _ _ => ?_
  obtain ⟨position, more, rfl, hmore⟩ := Located.exists_ident htokens
  obtain rfl := Located.eq_nil_of_tokens hmore
  exact ⟨by constructor <;> rfl, .other, rfl, Type.takes_wildcard⟩

theorem readAsType_never : ReadAsType plus [.punct '!' false] := by
  refine .ofForm fun _ front rest htokens _ _ => ?_
  obtain ⟨position, more, rfl, hmore⟩ := Located.exists_punct htokens
  obtain rfl := Located.eq_nil_of_tokens hmore
  exact ⟨by constructor <;> rfl, .other, rfl, Type.takes_never⟩

theorem ReadAsType.slice (helement : ReadAsType true tokens) :
    ReadAsType plus [.group .bracket tokens] := by
  refine .ofForm fun depth front rest htokens hsize _ => ?_
  obtain ⟨inside, opening, closing, more, rfl, hinside, hmore⟩ := Located.exists_group htokens
  obtain rfl := Located.eq_nil_of_tokens hmore
  simp only [Located.sizes, Located.size] at hsize
  obtain ⟨-, form, htakes⟩ := helement depth inside [] hinside (by omega) .nil
  exact ⟨by constructor <;> rfl, .other, rfl, Type.takes_slice htakes.unit⟩

theorem ReadAsType.array (helement : ReadAsType true tokens) (length : Number) :
    ReadAsType plus [.group .bracket (tokens ++ [.punct ';' false, .literal length.text])] := by
  refine .ofForm fun depth front rest htokens hsize _ => ?_
  obtain ⟨inside, opening, closing, more, rfl, hinside, hmore⟩ := Located.exists_group htokens
  obtain rfl := Located.eq_nil_of_tokens hmore
  obtain ⟨element, behind, rfl, helementTokens, hbehind⟩ :=
    Located.exists_of_tokens_append hinside
  obtain ⟨second, number, rfl, hnumber⟩ := Located.exists_punct hbehind
  obtain ⟨third, nothing, rfl, hnothing⟩ := Located.exists_literal hnumber
  obtain rfl := Located.eq_nil_of_tokens hnothing
  simp only [Located.sizes, Located.size, Located.sizes_append] at hsize
  obtain ⟨depth, rfl⟩ : ∃ depth', depth = depth' + 1 := ⟨depth - 1, by omega⟩
  obtain ⟨-, form, htakes⟩ := helement (depth + 1) element
    [.punct ';' false second, .literal length.text third] helementTokens (by omega)
    (.mark (by decide))
  refine ⟨by constructor <;> rfl, .other, rfl, ?_⟩
  rw [htokens, ← helementTokens]
  exact Type.takes_array htakes.unit

theorem ReadAsType.pointer (changing : Bool) (htarget : ReadAsType false tokens) :
    ReadAsType plus
      (.punct '*' false :: .ident (if changing then "mut" else "const") :: tokens) := by
  refine .ofForm fun depth front rest htokens hsize hends => ?_
  obtain ⟨position, more, rfl, hword⟩ := Located.exists_punct htokens
  obtain ⟨other, inside, rfl, hinside⟩ := Located.exists_ident hword
  simp only [Located.sizes, Located.size] at hsize
  obtain ⟨-, form, htakes⟩ := htarget depth inside rest hinside (by omega) hends
  exact ⟨by constructor <;> rfl, .other, rfl, Type.takes_pointer htakes⟩

theorem ReadAsType.reference (lifetime : Option Lifetime) (changing : Bool)
    (htarget : ReadAsType false tokens) :
    ReadAsType plus (.punct '&' false :: (lifetime.elim [] Lifetime.tokens ++
      (if changing then [.ident "mut"] else []) ++ tokens)) := by
  refine .ofForm fun depth front rest htokens hsize hends => ?_
  obtain ⟨position, more, rfl, hmore⟩ := Located.exists_punct htokens
  obtain ⟨lead, inside, rfl, hlead, hinside⟩ := Located.exists_of_tokens_append hmore
  obtain ⟨first, second, rfl, hfirst, hsecond⟩ := Located.exists_of_tokens_append hlead
  simp only [Located.sizes, Located.size, Located.sizes_append] at hsize
  obtain ⟨hbegins, form, htakes⟩ := htarget depth inside rest hinside (by omega) hends
  have hlifetime : isLifetime (second ++ (inside ++ rest)) = false := by
    cases changing with
    | false =>
      obtain rfl := Located.eq_nil_of_tokens hsecond
      exact hbegins.lifetime
    | true =>
      obtain ⟨place, nothing, rfl, hnothing⟩ := Located.exists_ident hsecond
      rfl
  refine ⟨by constructor <;> rfl, .other, rfl, ?_⟩
  rw [htokens, ← hinside, List.append_assoc, List.append_assoc]
  exact Type.takes_reference hfirst hsecond hlifetime hbegins.changing htakes

theorem ReadAsType.tuple {pieces : List (List Token)} {trailing : Bool}
    (hpieces : ∀ piece ∈ pieces, ReadAsType true piece) :
    ReadAsType plus [.group .parenthesis (joined trailing pieces)] := by
  refine .ofForm fun depth front rest htokens hsize hends => ?_
  obtain ⟨inside, opening, closing, more, rfl, hinside, hmore⟩ := Located.exists_group htokens
  obtain rfl := Located.eq_nil_of_tokens hmore
  simp only [Located.sizes, Located.size] at hsize
  have hjoined : Located.tokens inside = joined trailing ((pieces.map (false, ·)).map (·.2)) := by
    simpa [Function.comp_def] using hinside
  have hitem : ∀ piece ∈ pieces.map (false, ·), ∀ first rest, Located.tokens first = piece.2 →
      Located.sizes first ≤ Located.sizes inside → FollowsItem [] rest →
      Type.Begins (first ++ rest) ∧ ∃ form, false = piece.1 ∧
        Takes ((ofDepth depth).type true) first rest form (Located.tokens first) := by
    simp only [List.forall_mem_map]
    intro piece hpiece first rest hfirst hbound hfollows
    obtain ⟨hbegins, form, htakes⟩ := hpieces piece hpiece depth first rest hfirst (by omega)
      (.follows .nil hfollows)
    exact ⟨hbegins, form, trivial, htakes⟩
  obtain ⟨items, hlisted, -⟩ := exists_listed (fun _ => false) hjoined (Nat.le_refl _) hitem
  obtain ⟨answer, hanswer, hwrapped⟩ := Type.takes_wrapped hlisted
  obtain ⟨form, htakes, hcopied⟩ : ∃ form,
      Takes (Type.form (ofDepth depth) plus) [.group .parenthesis inside opening closing] rest form
        [.group .parenthesis (Located.tokens inside)] ∧ form.isCopied = false :=
    Type.takes_parentheses hanswer hwrapped hends.plus
  exact ⟨by constructor <;> rfl, form, hcopied, htakes⟩

theorem ReadAsPath.type (hpath : ReadAsPath tokens) : ReadAsType plus tokens := by
  refine .ofForm fun depth front rest htokens hsize hends => ?_
  obtain ⟨hbegins, hhash, form, htakes, hform⟩ := hpath depth front rest htokens hsize hends.toEnds
  rw [← hform]
  exact ⟨.ofPath hbegins, .path form, rfl,
    Type.takes_named hbegins hends.bang hends.unadded (hhash hends.hash) htakes⟩

/-- Bounds behind the word for an opaque type or for an object. -/
theorem takes_bounded (isOpaque : Bool) {depth : Nat} {inside rest : List Located}
    {position : Position} (hstar : isOp "*" (inside ++ rest) = false)
    (hseveral : ∀ place, Takes (Bound.several (ofDepth depth) place plus) inside rest true
      (Located.tokens inside)) :
    Takes (Type.form (ofDepth depth) plus)
      (.ident (if isOpaque then "impl" else "dyn") position :: inside) rest .other
      (.ident (if isOpaque then "impl" else "dyn") :: Located.tokens inside) := by
  cases isOpaque with
  | true => exact Type.takes_known (hseveral .opaqueType)
  | false => exact Type.takes_object hstar (hseveral .object)

theorem ReadAsPath.several (isOpaque : Bool) {trait added : List Token}
    (htrait : ReadAsPath trait) (hadded : ReadAsAdded added) :
    ReadAsType true (.ident (if isOpaque then "impl" else "dyn") :: (trait ++ added)) := by
  refine .ofForm fun depth front rest htokens hsize hends => ?_
  obtain ⟨position, inside, rfl, hinside⟩ := Located.exists_ident htokens
  obtain ⟨first, second, rfl, hfirst, hsecond⟩ := Located.exists_of_tokens_append hinside
  simp only [Located.sizes, Located.size, Located.sizes_append] at hsize
  have hchain place := hadded place depth second rest hsecond (by omega) hends.toEnds
  have hpathEnds : Path.Ends (second ++ rest) := (hchain .object).1
  obtain ⟨hbegins, -, form, htakes, hform⟩ :=
    htrait depth first (second ++ rest) hfirst (by omega) hpathEnds
  have hone place : Takes (Bound.one (ofDepth depth) place) first (second ++ rest) .trait
      (Located.tokens first) := hform ▸ Bound.takes_one_trait hbegins hpathEnds htakes
  have hseveral place : Takes (Bound.several (ofDepth depth) place true) (first ++ second) rest true
      (Located.tokens (first ++ second)) :=
    Bound.takes_several (hone place) (hchain place).2 hends.plus
  have hstar : isOp "*" (first ++ second ++ rest) = false := by
    rw [List.append_assoc]
    exact hbegins.isOp rfl (by decide)
  refine ⟨?_, .other, rfl, takes_bounded isOpaque hstar hseveral⟩
  cases isOpaque <;> constructor <;> rfl

theorem readAsAdded_nil : ReadAsAdded [] := by
  intro place depth front rest htokens hsize hends
  obtain rfl := Located.eq_nil_of_tokens htokens
  exact ⟨hends, .nil⟩

/-- A single bound is one of several if there may be several. -/
theorem ReadAsPath.bounded (isOpaque : Bool) (hpath : ReadAsPath tokens) :
    ReadAsType plus (.ident (if isOpaque then "impl" else "dyn") :: tokens) := by
  cases plus with
  | true => simpa using hpath.several isOpaque readAsAdded_nil
  | false =>
    refine .ofForm fun depth front rest htokens hsize hends => ?_
    obtain ⟨position, inside, rfl, hinside⟩ := Located.exists_ident htokens
    simp only [Located.sizes, Located.size] at hsize
    obtain ⟨hbegins, -, form, htakes, hform⟩ :=
      hpath depth inside rest hinside (by omega) hends.toEnds
    have hseveral place : Takes (Bound.several (ofDepth depth) place false) inside rest true
        (Located.tokens inside) :=
      Bound.takes_single (hform ▸ Bound.takes_one_trait hbegins hends.toEnds htakes)
    have hstar : isOp "*" (inside ++ rest) = false := hbegins.isOp rfl (by decide)
    refine ⟨?_, .other, rfl, takes_bounded isOpaque hstar hseveral⟩
    cases isOpaque <;> constructor <;> rfl

/-! Bounds -/

theorem Lifetime.readAsBound (lifetime : Lifetime) : ReadAsBound lifetime.tokens := by
  intro place depth front rest htokens hsize hends
  obtain ⟨first, second, rfl⟩ := lifetime.exists_of_tokens htokens
  exact ⟨rfl, .lifetime, Bound.takes_one_lifetime⟩

theorem ReadAsPath.bound (hpath : ReadAsPath tokens) : ReadAsBound tokens := by
  intro place depth front rest htokens hsize hends
  obtain ⟨hbegins, -, form, htakes, hform⟩ := hpath depth front rest htokens hsize hends
  exact ⟨Bound.begins_of_path hbegins, .trait, hform ▸ Bound.takes_one_trait hbegins hends htakes⟩

theorem ReadAsBound.added {more : List Token} (hbound : ReadAsBound tokens)
    (hmore : ReadAsAdded more) : ReadAsAdded (.punct '+' false :: (tokens ++ more)) := by
  intro place depth front rest htokens hsize hends
  obtain ⟨position, behind, rfl, hbehind⟩ := Located.exists_punct htokens
  obtain ⟨first, second, rfl, hfirst, hsecond⟩ := Located.exists_of_tokens_append hbehind
  simp only [Located.sizes, Located.size, Located.sizes_append] at hsize
  obtain ⟨hsecondEnds, hadded⟩ := hmore place depth second rest hsecond (by omega) hends
  obtain ⟨hbegins, form, htakes⟩ :=
    hbound place depth first (second ++ rest) hfirst (by omega) hsecondEnds
  exact ⟨⟨rfl, rfl, rfl⟩, .cons hbegins htakes hadded⟩

/-! Paths -/

theorem readAsChain_nil : ReadAsChain [] := by
  intro depth front rest htokens hsize hends
  obtain rfl := Located.eq_nil_of_tokens htokens
  exact ⟨hends.segment, id, .nil⟩

theorem ReadAsSegment.chain {more : List Token} (hsegment : ReadAsSegment tokens)
    (hmore : ReadAsChain more) : ReadAsChain (separator ++ tokens ++ more) := by
  intro depth front rest htokens hsize hends
  obtain ⟨lead, behind, rfl, hlead, hbehind⟩ := Located.exists_of_tokens_append htokens
  obtain ⟨marks, inside, rfl, hmarks, hinside⟩ := Located.exists_of_tokens_append hlead
  obtain ⟨position, other, rfl⟩ := exists_separator hmarks
  simp only [Located.sizes, Located.size, Located.sizes_append] at hsize
  obtain ⟨hmoreEnds, -, hchained⟩ := hmore depth behind rest hbehind (by omega) hends
  obtain ⟨hbegins, -, -, name, arguments, htakes⟩ :=
    hsegment depth inside (behind ++ rest) hinside (by omega) hmoreEnds
  have hall : Located.tokens
      ([.punct ':' true position, .punct ':' false other] ++ inside ++ behind) =
        separator ++ Located.tokens inside ++ Located.tokens behind := by
    rw [Located.tokens_append, Located.tokens_append]
    rfl
  refine ⟨⟨rfl, ?_⟩, fun _ => rfl, hall ▸ .cons hbegins.isGroup htakes hchained⟩
  have hangle : isOp "<" (inside ++ (behind ++ rest)) = false := hbegins.isOp rfl (by decide)
  rw [List.append_assoc, List.append_assoc]
  exact Bool.and_eq_false_imp.mpr fun _ => hangle

theorem ReadAsSegment.path {more : List Token} (rooted : Bool) (hsegment : ReadAsSegment tokens)
    (hmore : ReadAsChain more) :
    ReadAsPath ((if rooted then separator else []) ++ tokens ++ more) := by
  intro depth front rest htokens hsize hends
  obtain ⟨first, behind, rfl, hfirst, hbehind⟩ := Located.exists_of_tokens_append htokens
  obtain ⟨lead, inside, rfl, hlead, hinside⟩ := Located.exists_of_tokens_append hfirst
  simp only [Located.sizes_append] at hsize
  obtain ⟨hmoreEnds, hmoreHash, hchained⟩ := hmore depth behind rest hbehind (by omega) hends
  obtain ⟨hbegins, hcolons, hhash, name, arguments, htakes⟩ :=
    hsegment depth inside (behind ++ rest) hinside (by omega) hmoreEnds
  have hall : Located.tokens (lead ++ (inside ++ behind)) =
      Located.tokens lead ++ Located.tokens inside ++ Located.tokens behind := by
    simp [Located.tokens_append]
  rw [List.append_assoc lead]
  cases rooted with
  | true =>
    obtain ⟨position, other, rfl⟩ := exists_separator hlead
    refine ⟨.rooted position other _, fun _ => rfl, hall ▸ ?_⟩
    exact Path.takes_unqualified (takes_op? Path.takes_separator rfl) htakes hchained hends.colons
  | false =>
    obtain rfl := Located.eq_nil_of_tokens hlead
    refine ⟨by simpa using hbegins, fun hrest => by simpa using hhash (hmoreHash hrest), hall ▸ ?_⟩
    exact Path.takes_unqualified (skips_op? (by simpa using hcolons)) htakes hchained hends.colons

theorem Keyword.readAsSegment (keyword : Keyword) : ReadAsSegment [.ident keyword.text] := by
  intro depth front rest htokens hsize hends
  obtain ⟨position, nothing, rfl, hnothing⟩ := Located.exists_ident htokens
  obtain rfl := Located.eq_nil_of_tokens hnothing
  exact ⟨.keyword keyword position rest, rfl, id, keyword.text, .absent,
    Path.takes_keyword keyword hends⟩

theorem Name.readAsSegment (name : Name) : ReadAsSegment [.ident name.text] := by
  intro depth front rest htokens hsize hends
  obtain ⟨position, nothing, rfl, hnothing⟩ := Located.exists_ident htokens
  obtain rfl := Located.eq_nil_of_tokens hnothing
  exact ⟨.name name position rest, rfl, id, name.text, .absent, Path.takes_plain name hends⟩

/-- Lifetimes and arguments behind them make a list of arguments in front of what closes it. -/
theorem exists_arguments {lifetimes arguments : List (List Token)} {depth : Nat}
    {inside rest : List Located} {closing : Position}
    (hlifetimes : ∀ piece ∈ lifetimes, ReadAsArgument true piece)
    (harguments : ∀ piece ∈ arguments, ReadAsArgument false piece)
    (hinside : Located.tokens inside = joined false (lifetimes ++ arguments))
    (hsize : Located.sizes inside < depth) :
    ∃ items, Path.Ordered items ∧ Listed (isOp ">" · = false) (Path.argument (ofDepth depth))
      (.punct '>' false closing :: rest) inside items := by
  have hjoined : Located.tokens inside = joined false
      ((lifetimes.map (true, ·) ++ arguments.map (false, ·)).map (·.2)) := by
    simpa [Function.comp_def] using hinside
  obtain ⟨items, hlisted, hkinds⟩ : ∃ items, Listed (isOp ">" · = false)
      (Path.argument (ofDepth depth)) (.punct '>' false closing :: rest) inside items ∧
      items.map (·.1 == .lifetime) =
        (lifetimes.map (true, ·) ++ arguments.map (false, ·)).map (·.1) := by
    refine exists_listed (· == Path.ArgumentForm.lifetime) hjoined (Nat.le_refl _) ?_
    simp only [List.mem_append, List.mem_map]
    rintro _ (⟨piece, hpiece, rfl⟩ | ⟨piece, hpiece, rfl⟩) first rest' hfirst hbound hfollows
    · exact hlifetimes piece hpiece depth first closing rest rest' hfirst (by omega) hfollows
    · exact harguments piece hpiece depth first closing rest rest' hfirst (by omega) hfollows
  simp only [List.map_append, List.map_map, Function.comp_def, List.map_const'] at hkinds
  obtain ⟨first, second, rfl, hfirst, hsecond⟩ := List.map_eq_append_iff.mp hkinds
  have hlifetime := List.forall_mem_map.mp (List.eq_replicate_iff.mp hfirst).2
  have hother := List.forall_mem_map.mp (List.eq_replicate_iff.mp hsecond).2
  exact ⟨_, ⟨first, second, rfl, fun item hitem => beq_iff_eq.mp (hlifetime item hitem),
    fun item hitem => beq_eq_false_iff_ne.mp (hother item hitem)⟩, hlisted⟩

theorem ReadAsSegment.generic (name : Name) {lifetimes arguments : List (List Token)}
    (hlifetimes : ∀ piece ∈ lifetimes, ReadAsArgument true piece)
    (harguments : ∀ piece ∈ arguments, ReadAsArgument false piece) :
    ReadAsSegment (.ident name.text :: .punct '<' false ::
      (joined false (lifetimes ++ arguments) ++ [.punct '>' false])) := by
  intro depth front rest htokens hsize hends
  obtain ⟨position, more, rfl, hmark⟩ := Located.exists_ident htokens
  obtain ⟨opening, behind, rfl, hbehind⟩ := Located.exists_punct hmark
  obtain ⟨inside, last, rfl, hinside, hlast⟩ := Located.exists_of_tokens_append hbehind
  obtain ⟨closing, nothing, rfl, hnothing⟩ := Located.exists_punct hlast
  obtain rfl := Located.eq_nil_of_tokens hnothing
  simp only [Located.sizes, Located.size, Located.sizes_append] at hsize
  obtain ⟨items, hordered, hlisted⟩ : ∃ items, Path.Ordered items ∧
      Listed (isOp ">" · = false) (Path.argument (ofDepth depth))
        (.punct '>' false closing :: rest) inside items :=
    exists_arguments hlifetimes harguments hinside (by omega)
  refine ⟨.name name position _, rfl, fun _ => rfl, name.text, Path.answered items, ?_⟩
  rw [htokens, ← hinside]
  exact Path.takes_generic name rfl ⟨rfl, rfl⟩ (Path.takes_angled hordered hlisted)

/-! Arguments -/

theorem FollowsItem.endsType {closing : Position} {behind rest : List Located}
    (hfollows : FollowsItem (.punct '>' false closing :: behind) rest) :
    Type.Ends rest ∧ isOp "=" rest = false ∧ isOp ":" rest = false := by
  obtain rfl | ⟨position, more, rfl⟩ := hfollows
  · exact ⟨.mark (by decide), rfl, rfl⟩
  · exact ⟨.mark (by decide), rfl, rfl⟩

theorem Lifetime.readAsArgument (lifetime : Lifetime) : ReadAsArgument true lifetime.tokens := by
  intro depth front closing behind rest htokens hsize hfollows
  obtain ⟨first, second, rfl⟩ := lifetime.exists_of_tokens htokens
  exact ⟨rfl, .lifetime, rfl, Path.takes_lifetime_argument hfollows.endsType.1.plus⟩

theorem Number.readAsArgument (number : Number) :
    ReadAsArgument false [.literal number.text] := by
  intro depth front closing behind rest htokens hsize hfollows
  obtain ⟨position, nothing, rfl, hnothing⟩ := Located.exists_literal htokens
  obtain rfl := Located.eq_nil_of_tokens hnothing
  exact ⟨rfl, .other, rfl, Path.takes_number_argument⟩

theorem ReadAsType.argument (htype : ReadAsType true tokens) : ReadAsArgument false tokens := by
  intro depth front closing behind rest htokens hsize hfollows
  obtain ⟨hends, hequal, hcolon⟩ := hfollows.endsType
  obtain ⟨hbegins, form, htakes⟩ := htype depth front rest htokens hsize hends
  exact ⟨hbegins.greater, .type, rfl, Path.takes_type_argument hbegins.lifetime hbegins.literal
    hbegins.brace hequal hcolon htakes⟩

theorem ReadAsType.associated (name : Name) (htype : ReadAsType true tokens) :
    ReadAsArgument false (.ident name.text :: .punct '=' false :: tokens) := by
  intro depth front closing behind rest htokens hsize hfollows
  obtain ⟨position, more, rfl, hequal⟩ := Located.exists_ident htokens
  obtain ⟨other, inside, rfl, hinside⟩ := Located.exists_punct hequal
  simp only [Located.sizes, Located.size] at hsize
  obtain ⟨hends, -, -⟩ := hfollows.endsType
  obtain ⟨hbegins, form, htakes⟩ := htype depth inside rest hinside (by omega) hends
  obtain ⟨depth, rfl⟩ : ∃ depth', depth = depth' + 1 := ⟨depth - 1, by omega⟩
  have hnameEnds : Type.Ends (.punct '=' false other :: inside ++ rest) := .mark (by decide)
  obtain ⟨path, hpath, hsingle, hpathTokens⟩ : ∃ path,
      Takes (Path.unqualified (ofDepth depth) false) [.ident name.text position]
        (.punct '=' false other :: inside ++ rest) path [] ∧
      path.isSingle = true ∧ path.tokens = [.ident name.text] :=
    Path.takes_name name hnameEnds.toEnds
  have hname : Takes ((ofDepth (depth + 1)).type true) [.ident name.text position]
      (.punct '=' false other :: inside ++ rest) (.path path) [.ident name.text] :=
    .copyingIf (hpathTokens ▸ Type.takes_named (.name name position _) hnameEnds.bang
      hnameEnds.unadded rfl hpath) rfl
  have hassociated :=
    Path.takes_associated_argument hsingle hname hbegins.literal hbegins.brace htakes
  have hgreater : isOp ">" (.ident name.text position :: .punct '=' false other :: inside ++ rest) =
      false := rfl
  exact ⟨hgreater, .other, rfl, hassociated⟩

/-! Plain types as a whole -/

mutual

theorem PlainType.readAsType {plus : Bool} (type : PlainType plus) :
    ReadAsType plus type.tokens := by
  match type with
  | .wildcard => exact readAsType_wildcard
  | .never => exact readAsType_never
  | .unit =>
    have hunit : ReadAsType plus [.group .parenthesis (joined false [])] := .tuple nofun
    exact hunit
  | .tuple first others trailing =>
    exact .tuple (List.forall_mem_cons.mpr ⟨first.readAsType, readAs_types others⟩)
  | .slice element => exact element.readAsType.slice
  | .array element length => exact element.readAsType.array length
  | .pointer changing target => exact target.readAsType.pointer changing
  | .reference lifetime changing target => exact target.readAsType.reference lifetime changing
  | .named path => exact path.readAsPath.type
  | .bounded isOpaque trait => exact trait.readAsPath.bounded isOpaque
  | .several isOpaque trait second others =>
    exact trait.readAsPath.several isOpaque (second.readAsBound.added (readAs_bounds others))

theorem PlainPath.readAsPath (path : PlainPath) : ReadAsPath path.tokens := by
  match path with
  | .mk rooted first others => exact first.readAsSegment.path rooted (readAs_segments others)

theorem PlainSegment.readAsSegment (segment : PlainSegment) : ReadAsSegment segment.tokens := by
  match segment with
  | .keyword keyword => exact keyword.readAsSegment
  | .plain name => exact name.readAsSegment
  | .generic name lifetimes arguments =>
    have hlifetimes : ∀ piece ∈ lifetimes.map Lifetime.tokens, ReadAsArgument true piece :=
      List.forall_mem_map.mpr fun lifetime _ => lifetime.readAsArgument
    exact .generic name hlifetimes (readAs_arguments arguments)

theorem PlainArgument.readAsArgument (argument : PlainArgument) :
    ReadAsArgument false argument.tokens := by
  match argument with
  | .type type => exact type.readAsType.argument
  | .number number => exact number.readAsArgument
  | .associated name type => exact type.readAsType.associated name

theorem PlainBound.readAsBound (bound : PlainBound) : ReadAsBound bound.tokens := by
  match bound with
  | .lifetime lifetime => exact lifetime.readAsBound
  | .trait trait => exact trait.readAsPath.bound

theorem readAs_types (types : List (PlainType true)) :
    ∀ piece ∈ typesTokens types, ReadAsType true piece := by
  match types with
  | [] => exact nofun
  | type :: rest => exact List.forall_mem_cons.mpr ⟨type.readAsType, readAs_types rest⟩

theorem readAs_arguments (arguments : List PlainArgument) :
    ∀ piece ∈ argumentsTokens arguments, ReadAsArgument false piece := by
  match arguments with
  | [] => exact nofun
  | argument :: rest =>
    exact List.forall_mem_cons.mpr ⟨argument.readAsArgument, readAs_arguments rest⟩

theorem readAs_segments (segments : List PlainSegment) : ReadAsChain (segmentsTokens segments) := by
  match segments with
  | [] => exact readAsChain_nil
  | segment :: rest => exact segment.readAsSegment.chain (readAs_segments rest)

theorem readAs_bounds (bounds : List PlainBound) : ReadAsAdded (boundsTokens bounds) := by
  match bounds with
  | [] => exact readAsAdded_nil
  | bound :: rest => exact bound.readAsBound.added (readAs_bounds rest)

end

/-- The text of a plain type is read as the type, and printed again as it stands. -/
theorem typeTokens?_text (type : PlainType true) :
    typeTokens? (Token.text type.tokens) = some type.tokens := by
  obtain ⟨trees, hread, htrees⟩ := Token.read_text type.readable
  have hdepth : Located.sizes trees < 4 * Located.sizes trees + 4 := by omega
  obtain ⟨-, form, htakes⟩ := type.readAsType _ trees [] htrees hdepth .nil
  have hall : Reader.readAll ((ofTokens trees).type true) trees = .ok (form, type.tokens) := by
    have hinput := htakes .start none []
    rw [List.append_nil] at hinput
    rw [Reader.readAll, ofTokens, hinput, htrees]
    simp
  rw [typeTokens?, readText, hread]
  simp only [bind, Except.bind, hall]

/-- The text of a plain path is read as the path, and printed again as it stands. -/
theorem pathTokens?_text (path : PlainPath) :
    pathTokens? (Token.text path.tokens) = some path.tokens := by
  have hreadable : Token.Readable path.tokens := (PlainType.named path : PlainType true).readable
  obtain ⟨trees, hread, htrees⟩ := Token.read_text hreadable
  obtain ⟨-, -, form, htakes, hform⟩ :=
    path.readAsPath (4 * Located.sizes trees + 4) trees [] htrees (by omega) Type.Ends.nil.toEnds
  have hall : Reader.readAll (Path.unqualified (ofTokens trees) false) trees = .ok (form, []) := by
    have hinput := htakes .start none []
    rw [List.append_nil] at hinput
    rw [Reader.readAll, ofTokens, hinput]
    rfl
  rw [pathTokens?, readText, hread]
  simp only [bind, Except.bind, hall, hform, htrees]

end ServiceGen.Grammar
