import ServiceGen.Grammar.Ahead
import ServiceGen.Proofs.Grammar.Reader
import ServiceGen.Proofs.Token.Printing

/-!
Plain types: those whose tokens tell no more than their structure. They are made of names, paths
with arguments, references, pointers, tuples, slices, arrays of a given length, objects and opaque
types, to any depth. What they leave out are functions and the traits of functions, paths behind a
qualifying type, calls of macros, and lengths that have to be computed.
-/
namespace ServiceGen.Grammar

open Token

/-- An identifier that is not reserved. -/
structure Name where
  text : String
  word : IsWord text.toList
  free : Ahead.reserved.contains text = false

/-- What stands behind the mark of a lifetime. -/
structure Lifetime where
  text : String
  word : IsWord text.toList

def Lifetime.tokens (lifetime : Lifetime) : List Token := [.punct '\'' true, .ident lifetime.text]

/-- A number that is given by its digits. -/
structure Number where
  text : String
  decimal : IsDecimal text.toList

/-- The words that may stand for a segment of a path. -/
inductive Keyword where
  | super
  | self
  | crate
  | selfType

def Keyword.text : Keyword → String
  | .super => "super"
  | .self => "self"
  | .crate => "crate"
  | .selfType => "Self"

mutual

/-- A type. The flag tells whether several bounds may stand in it without parentheses. -/
inductive PlainType : Bool → Type where
  | wildcard {plus : Bool} : PlainType plus
  | never {plus : Bool} : PlainType plus
  | unit {plus : Bool} : PlainType plus
  /-- A type in parentheses, or a tuple. -/
  | tuple {plus : Bool} (first : PlainType true) (others : List (PlainType true))
    (trailing : Bool) : PlainType plus
  | slice {plus : Bool} (element : PlainType true) : PlainType plus
  | array {plus : Bool} (element : PlainType true) (length : Number) : PlainType plus
  | pointer {plus : Bool} (changing : Bool) (target : PlainType false) : PlainType plus
  | reference {plus : Bool} (lifetime : Option Lifetime) (changing : Bool)
    (target : PlainType false) : PlainType plus
  | named {plus : Bool} (path : PlainPath) : PlainType plus
  /-- An object or an opaque type of a single trait. -/
  | bounded {plus : Bool} (isOpaque : Bool) (trait : PlainPath) : PlainType plus
  /-- An object or an opaque type of several bounds. -/
  | several (isOpaque : Bool) (trait : PlainPath) (second : PlainBound)
    (others : List PlainBound) : PlainType true

/-- A path, perhaps with `::` in front. -/
inductive PlainPath where
  | mk (rooted : Bool) (first : PlainSegment) (others : List PlainSegment)

inductive PlainSegment where
  | keyword (keyword : Keyword)
  | plain (name : Name)
  /-- A name with arguments, of which the lifetimes come first. -/
  | generic (name : Name) (lifetimes : List Lifetime) (arguments : List PlainArgument)

inductive PlainArgument where
  | type (type : PlainType true)
  | number (number : Number)
  /-- The type that a trait associates with a name. -/
  | associated (name : Name) (type : PlainType true)

inductive PlainBound where
  | lifetime (lifetime : Lifetime)
  | trait (trait : PlainPath)

end

def comma : Token := .punct ',' false

/-- The two joined characters between the segments of a path. -/
def separator : List Token := [.punct ':' true, .punct ':' false]

/-- Pieces with commas between them, and perhaps another one behind the last. -/
def joined (trailing : Bool) : List (List Token) → List Token
  | [] => []
  | piece :: rest =>
    piece ++ ((if rest.isEmpty && !trailing then [] else [comma]) ++ joined trailing rest)

mutual

def PlainType.tokens {plus : Bool} : PlainType plus → List Token
  | .wildcard => [.ident "_"]
  | .never => [.punct '!' false]
  | .unit => [.group .parenthesis []]
  | .tuple first others trailing =>
    [.group .parenthesis (joined trailing (first.tokens :: typesTokens others))]
  | .slice element => [.group .bracket element.tokens]
  | .array element length =>
    [.group .bracket (element.tokens ++ [.punct ';' false, .literal length.text])]
  | .pointer changing target =>
    .punct '*' false :: .ident (if changing then "mut" else "const") :: target.tokens
  | .reference lifetime changing target =>
    .punct '&' false :: (lifetime.elim [] Lifetime.tokens ++
      (if changing then [.ident "mut"] else []) ++ target.tokens)
  | .named path => path.tokens
  | .bounded isOpaque trait => .ident (if isOpaque then "impl" else "dyn") :: trait.tokens
  | .several isOpaque trait second others =>
    .ident (if isOpaque then "impl" else "dyn") ::
      (trait.tokens ++ .punct '+' false :: (second.tokens ++ boundsTokens others))

def PlainPath.tokens : PlainPath → List Token
  | .mk rooted first others =>
    (if rooted then separator else []) ++ first.tokens ++ segmentsTokens others

def PlainSegment.tokens : PlainSegment → List Token
  | .keyword keyword => [.ident keyword.text]
  | .plain name => [.ident name.text]
  | .generic name lifetimes arguments =>
    .ident name.text :: .punct '<' false ::
      (joined false (lifetimes.map Lifetime.tokens ++ argumentsTokens arguments) ++
        [.punct '>' false])

def PlainArgument.tokens : PlainArgument → List Token
  | .type type => type.tokens
  | .number number => [.literal number.text]
  | .associated name type => .ident name.text :: .punct '=' false :: type.tokens

def PlainBound.tokens : PlainBound → List Token
  | .lifetime lifetime => lifetime.tokens
  | .trait trait => trait.tokens

def typesTokens : List (PlainType true) → List (List Token)
  | [] => []
  | type :: rest => type.tokens :: typesTokens rest

def argumentsTokens : List PlainArgument → List (List Token)
  | [] => []
  | argument :: rest => argument.tokens :: argumentsTokens rest

/-- Segments behind a first one. -/
def segmentsTokens : List PlainSegment → List Token
  | [] => []
  | segment :: rest => separator ++ segment.tokens ++ segmentsTokens rest

/-- Bounds behind a first one. -/
def boundsTokens : List PlainBound → List Token
  | [] => []
  | bound :: rest => .punct '+' false :: (bound.tokens ++ boundsTokens rest)

end

/-! Plain types are readable -/

section readable

variable {rest : List Token}

theorem readable_mark {c : Char} (hc : c ∈ Token.operators) (hrest : Readable rest) :
    Readable (.punct c false :: rest) := ⟨trivial, hc, hrest⟩

theorem readable_word {name : String} (hname : IsWord name.toList) (hrest : Readable rest) :
    Readable (.ident name :: rest) := ⟨hname, trivial, hrest⟩

theorem readable_group {delimiter : Delimiter} {inner : List Token} (hinner : Readable inner) :
    Readable [.group delimiter inner] := ⟨hinner, trivial, trivial⟩

theorem readable_separator : Readable separator :=
  ⟨trivial, ⟨by decide, by decide, by decide⟩, readable_mark (by decide) trivial⟩

theorem Lifetime.readable (lifetime : Lifetime) : Readable lifetime.tokens :=
  ⟨trivial, rfl, lifetime.word, trivial, trivial⟩

theorem Number.readable (number : Number) : Readable [.literal number.text] :=
  ⟨isLiteral_decimal number.decimal, trivial, trivial⟩

theorem Keyword.readable (keyword : Keyword) : Readable [.ident keyword.text] := by
  cases keyword <;> exact readable_word rfl trivial

theorem readable_joined {trailing : Bool} {pieces : List (List Token)}
    (hpieces : ∀ piece ∈ pieces, Readable piece) : Readable (joined trailing pieces) := by
  induction pieces with
  | nil => trivial
  | cons piece rest ih =>
    have hrest := ih fun other hother => hpieces other (List.mem_cons_of_mem _ hother)
    refine (hpieces piece List.mem_cons_self).append ?_
    split
    · exact hrest
    · exact readable_mark (by decide) hrest

mutual

theorem PlainType.readable {plus : Bool} (type : PlainType plus) : Readable type.tokens := by
  match type with
  | .wildcard => exact readable_word rfl trivial
  | .never => exact readable_mark (by decide) trivial
  | .unit => exact readable_group trivial
  | .tuple first others trailing =>
    have htypes : ∀ piece ∈ first.tokens :: typesTokens others, Readable piece :=
      List.forall_mem_cons.mpr ⟨first.readable, readable_types others⟩
    exact readable_group (readable_joined htypes)
  | .slice element => exact readable_group element.readable
  | .array element length =>
    exact readable_group (element.readable.append (readable_mark (by decide) length.readable))
  | .pointer changing target =>
    exact readable_mark (by decide) (readable_word (by cases changing <;> rfl) target.readable)
  | .reference lifetime changing target =>
    have hlifetime : Readable (lifetime.elim [] Lifetime.tokens) := by
      cases lifetime with
      | none => trivial
      | some lifetime => exact lifetime.readable
    have hchanging : Readable (if changing then [.ident "mut"] else []) := by
      cases changing with
      | true => exact readable_word rfl trivial
      | false => trivial
    exact readable_mark (by decide) ((hlifetime.append hchanging).append target.readable)
  | .named path => exact path.readable
  | .bounded isOpaque trait => exact readable_word (by cases isOpaque <;> rfl) trait.readable
  | .several isOpaque trait second others =>
    have hbounds := second.readable.append (readable_bounds others)
    exact readable_word (by cases isOpaque <;> rfl)
      (trait.readable.append (readable_mark (by decide) hbounds))

theorem PlainPath.readable (path : PlainPath) : Readable path.tokens := by
  match path with
  | .mk rooted first others =>
    have hroot : Readable (if rooted then separator else []) := by
      cases rooted with
      | true => exact readable_separator
      | false => trivial
    exact (hroot.append first.readable).append (readable_segments others)

theorem PlainSegment.readable (segment : PlainSegment) : Readable segment.tokens := by
  match segment with
  | .keyword keyword => exact keyword.readable
  | .plain name => exact readable_word name.word trivial
  | .generic name lifetimes arguments =>
    have hpieces : ∀ piece ∈ lifetimes.map Lifetime.tokens ++ argumentsTokens arguments,
        Readable piece := by
      simp only [List.mem_append, List.mem_map]
      rintro piece (⟨lifetime, -, rfl⟩ | hpiece)
      · exact lifetime.readable
      · exact readable_arguments arguments piece hpiece
    exact readable_word name.word (readable_mark (by decide)
      ((readable_joined hpieces).append (readable_mark (by decide) trivial)))

theorem PlainArgument.readable (argument : PlainArgument) : Readable argument.tokens := by
  match argument with
  | .type type => exact type.readable
  | .number number => exact number.readable
  | .associated name type =>
    exact readable_word name.word (readable_mark (by decide) type.readable)

theorem PlainBound.readable (bound : PlainBound) : Readable bound.tokens := by
  match bound with
  | .lifetime lifetime => exact lifetime.readable
  | .trait trait => exact trait.readable

theorem readable_types (types : List (PlainType true)) :
    ∀ piece ∈ typesTokens types, Readable piece := by
  match types with
  | [] => simp [typesTokens]
  | type :: rest => simpa [typesTokens] using ⟨type.readable, readable_types rest⟩

theorem readable_arguments (arguments : List PlainArgument) :
    ∀ piece ∈ argumentsTokens arguments, Readable piece := by
  match arguments with
  | [] => simp [argumentsTokens]
  | argument :: rest =>
    simpa [argumentsTokens] using ⟨argument.readable, readable_arguments rest⟩

theorem readable_segments (segments : List PlainSegment) : Readable (segmentsTokens segments) := by
  match segments with
  | [] => trivial
  | segment :: rest =>
    exact (readable_separator.append segment.readable).append (readable_segments rest)

theorem readable_bounds (bounds : List PlainBound) : Readable (boundsTokens bounds) := by
  match bounds with
  | [] => trivial
  | bound :: rest => exact readable_mark (by decide) (bound.readable.append (readable_bounds rest))

end

end readable

end ServiceGen.Grammar

/-!
Lists with commas. Pieces with commas between them are a list of items if each piece is an item in
front of a comma and in front of the end.
-/
namespace ServiceGen.Grammar

variable {α : Type} {begins : List Located → Prop} {item : Reader α} {closing front : List Located}
  {items : List (α × List Token × Bool)}

/-! Tokens that belong together -/

theorem Lifetime.exists_of_tokens (lifetime : Lifetime)
    (htokens : Located.tokens front = lifetime.tokens) :
    ∃ first second, front = [.punct '\'' true first, .ident lifetime.text second] := by
  obtain ⟨first, more, rfl, hident⟩ := Located.exists_punct htokens
  obtain ⟨second, nothing, rfl, hnothing⟩ := Located.exists_ident hident
  obtain rfl := Located.eq_nil_of_tokens hnothing
  exact ⟨first, second, rfl⟩

theorem exists_separator (htokens : Located.tokens front = separator) :
    ∃ first second, front = [.punct ':' true first, .punct ':' false second] := by
  obtain ⟨first, more, rfl, hcolon⟩ := Located.exists_punct htokens
  obtain ⟨second, nothing, rfl, hnothing⟩ := Located.exists_punct hcolon
  obtain rfl := Located.eq_nil_of_tokens hnothing
  exact ⟨first, second, rfl⟩

/-! Lists -/

/-- Items with commas between them, in front of where their list stops, each with its answer, its
tokens and whether a comma follows. Every item begins as it has to, and prints its tokens as they
are. -/
inductive Listed (begins : List Located → Prop) (item : Reader α) (closing : List Located) :
    List Located → List (α × List Token × Bool) → Prop where
  | nil : Listed begins item closing [] []
  | last {front : List Located} {a : α} (hbegins : begins (front ++ closing))
    (hitem : Takes item front closing a (Located.tokens front)) :
    Listed begins item closing front [(a, Located.tokens front, false)]
  | cons {front back : List Located} {a : α} {position : Position}
    {items : List (α × List Token × Bool)}
    (hbegins : begins (front ++ .punct ',' false position :: back ++ closing))
    (hitem : Takes item front (.punct ',' false position :: back ++ closing) a
      (Located.tokens front))
    (hback : Listed begins item closing back items) :
    Listed begins item closing (front ++ .punct ',' false position :: back)
      ((a, Located.tokens front, true) :: items)

theorem tokens_comma {front back : List Located} {position : Position} :
    Located.tokens (front ++ .punct ',' false position :: back) =
      (Located.tokens front ++ [.punct ',' false]) ++ Located.tokens back := by
  simp [Located.tokens_append, Located.tokens, Located.token]

/-- What stands behind an item of a list: the end of the list, or a comma. -/
def FollowsItem (closing rest : List Located) : Prop :=
  rest = closing ∨ ∃ position more, rest = .punct ',' false position :: more

theorem Takes.unit {a : α} {printed : List Token} (hitem : Takes item front closing a printed) :
    Takes (do let _ ← item) front closing () printed := hitem.last .pure

theorem Listed.separated {stops : List Located → Bool}
    (hlisted : Listed begins item closing front items)
    (hbegins : ∀ tokens, begins tokens → stops tokens = false) (hclosing : stops closing = true)
    (hcomma : ∀ position more, stops (.punct ',' false position :: more) = false) :
    Takes (Reader.separated stops "," (do let _ ← item)) front closing ()
      (Located.tokens front) := by
  refine Repeats.repeating ?_
  induction hlisted with
  | nil => exact .done (.ahead (.yes hclosing .pure))
  | last hfront hitem =>
    exact .done (.ahead (.no (hbegins _ hfront) (hitem.unit.last (.ahead (.yes hclosing .pure)))))
  | @cons front back a position items hfront hitem hback ih =>
    rw [tokens_comma, List.append_cons]
    refine .again (by simp) (.ahead (.no (by simpa using hbegins _ hfront) ?_)) ih
    refine .bind (Takes.unit (by simpa using hitem)) (.ahead (.no (hcomma _ _) ?_))
    exact (takes_op rfl).last .pure

/-- Pieces with commas between them are a list of items if each of them is an item. -/
theorem exists_listed (kind : α → Bool) {pieces : List (Bool × List Token)} {trailing : Bool}
    {bound : Nat}
    (htokens : Located.tokens front = joined trailing (pieces.map (·.2)))
    (hbound : Located.sizes front ≤ bound)
    (hpieces : ∀ piece ∈ pieces, ∀ first rest, Located.tokens first = piece.2 →
      Located.sizes first ≤ bound → FollowsItem closing rest →
      begins (first ++ rest) ∧
        ∃ a, kind a = piece.1 ∧ Takes item first rest a (Located.tokens first)) :
    ∃ items, Listed begins item closing front items ∧
      items.map (kind ·.1) = pieces.map (·.1) := by
  induction pieces generalizing front with
  | nil =>
    obtain rfl := Located.eq_nil_of_tokens htokens
    exact ⟨[], .nil, rfl⟩
  | cons piece pieces ih =>
    rw [List.map_cons] at htokens
    obtain ⟨first, second, rfl, hfirst, hsecond⟩ := Located.exists_of_tokens_append htokens
    rw [Located.sizes_append] at hbound
    have hpiece := hpieces piece List.mem_cons_self first
    split at hsecond
    next hempty =>
      rw [Bool.and_eq_true, List.isEmpty_map, List.isEmpty_iff] at hempty
      obtain ⟨rfl, -⟩ := hempty
      obtain rfl := Located.eq_nil_of_tokens hsecond
      obtain ⟨hfirstBegins, a, hkind, htakes⟩ := hpiece closing hfirst (by omega) (.inl rfl)
      rw [List.append_nil]
      exact ⟨_, .last hfirstBegins htakes, by rw [List.map_singleton, List.map_singleton, hkind]⟩
    next =>
      obtain ⟨position, back, rfl, hback⟩ := Located.exists_punct hsecond
      rw [Located.sizes] at hbound
      obtain ⟨items, hlisted, hkinds⟩ := ih hback (by omega)
        fun other hother => hpieces other (List.mem_cons_of_mem _ hother)
      obtain ⟨hfirstBegins, a, hkind, htakes⟩ :=
        hpiece (.punct ',' false position :: back ++ closing) hfirst (by omega)
          (.inr ⟨position, back ++ closing, rfl⟩)
      refine ⟨_, .cons (by simpa using hfirstBegins) htakes hlisted, ?_⟩
      rw [List.map_cons, List.map_cons, hkind, hkinds]

end ServiceGen.Grammar
