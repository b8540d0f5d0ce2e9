import ServiceGen.Grammar.Ahead
import ServiceGen.Proofs.Token.Printing

/-!
What of a text is layout. The sequence of its tokens leaves out where they stand, and whether a mark
stands at the next one, unless the two can do so in an operator. Looking ahead sees nothing but the
sequence.

Printed tokens can tell more, since what is kept as written keeps its marks joined as they were. But
there is a sign of that wherever it happens.
-/
namespace ServiceGen

/-- The operators of more than one character. -/
def Token.longOperators : List String :=
  ["&&", "||", "<<", ">>", "+=", "-=", "*=", "/=", "%=", "^=", "&=", "|=", "<<=", ">>=", "==", "!=",
    "<=", ">=", "..", "...", "..=", "::", "->", "=>", "<-"]

/-- Whether two characters stand side by side in an operator. -/
def Token.adjoin (c d : Char) : Bool :=
  longOperators.any fun operator => (operator.toList.zip operator.toList.tail).contains (c, d)

namespace Located

/-- Whether a token and the one behind it stand side by side in an operator. -/
def adjoins : Located → List Located → Bool
  | .punct c _ _, .punct d _ _ :: _ => Token.adjoin c d
  | _, _ => false

mutual

/-- A token without its place. A mark that could be joined to nothing is not joined, except for the
apostrophe of a lifetime. -/
def bare (joinable : Bool) : Located → Located
  | .ident name _ => .ident name .start
  | .punct c joint _ => .punct c (joint && (c == '\'' || joinable)) .start
  | .literal text _ => .literal text .start
  | .group delimiter inner _ _ => .group delimiter (bareAll inner) .start .start

/-- Tokens without their layout: without places, and with marks joined in operators only. -/
def bareAll : List Located → List Located
  | [] => []
  | tree :: rest => bare (adjoins tree rest) tree :: bareAll rest

end

mutual

/-- Whether two tokens are the same and stand at the same place. -/
def same : Located → Located → Bool
  | .ident name position, .ident name' position' => name == name' && position == position'
  | .punct c joint position, .punct c' joint' position' =>
    c == c' && joint == joint' && position == position'
  | .literal text position, .literal text' position' => text == text' && position == position'
  | .group delimiter inner opening closing, .group delimiter' inner' opening' closing' =>
    delimiter == delimiter' && allSame inner inner' && opening == opening' && closing == closing'
  | _, _ => false

def allSame : List Located → List Located → Bool
  | [], [] => true
  | tree :: rest, tree' :: rest' => same tree tree' && allSame rest rest'
  | _, _ => false

end

mutual

theorem same_iff (tree tree' : Located) : same tree tree' = true ↔ tree = tree' := by
  cases tree <;> cases tree' <;> simp [same, allSame_iff, and_assoc]

theorem allSame_iff (trees trees' : List Located) :
    allSame trees trees' = true ↔ trees = trees' := by
  cases trees <;> cases trees' <;> simp [allSame, same_iff, allSame_iff]

end

instance : DecidableEq Located := fun tree tree' => decidable_of_iff _ (same_iff tree tree')

variable {trees trees' : List Located}

theorem tokens_eq_map (trees : List Located) : tokens trees = trees.map token := by
  induction trees with
  | nil => rfl
  | cons tree rest ih => rw [tokens, ih, List.map_cons]

@[simp] theorem isEmpty_bareAll (trees : List Located) :
    (bareAll trees).isEmpty = trees.isEmpty := by
  cases trees <;> rfl

@[simp] theorem length_bareAll (trees : List Located) :
    (bareAll trees).length = trees.length := by
  induction trees with
  | nil => rfl
  | cons tree rest ih => rw [bareAll, List.length_cons, List.length_cons, ih]

@[simp] theorem tail_bareAll (trees : List Located) :
    (bareAll trees).tail = bareAll trees.tail := by
  cases trees <;> rfl

@[simp] theorem drop_bareAll (count : Nat) (trees : List Located) :
    (bareAll trees).drop count = bareAll (trees.drop count) := by
  induction count generalizing trees with
  | zero => rfl
  | succ count ih =>
    cases trees with
    | nil => rfl
    | cons tree rest => exact ih rest

/-- What can be seen in the sequence of tokens does not depend on their layout. -/
theorem seen_eq {α : Type} {f : List Located → α} (hf : ∀ trees, f (bareAll trees) = f trees)
    (hsame : bareAll trees = bareAll trees') : f trees = f trees' := by
  rw [← hf, hsame, hf]

/-- Tokens of one sequence are of the same kinds. -/
theorem exists_of_bareAll_cons {tree : Located} {rest : List Located}
    (hsame : bareAll (tree :: rest) = bareAll trees') :
    ∃ tree' rest', trees' = tree' :: rest' ∧
      bare (adjoins tree rest) tree = bare (adjoins tree' rest') tree' ∧
      bareAll rest = bareAll rest' := by
  cases trees' with
  | nil => exact absurd hsame (by simp [bareAll])
  | cons tree' rest' =>
    obtain ⟨htree, hrest⟩ := List.cons.inj hsame
    exact ⟨tree', rest', rfl, htree, hrest⟩

theorem exists_of_bareAll_ident {name : String} {position : Position} {rest : List Located}
    (hsame : bareAll (.ident name position :: rest) = bareAll trees') :
    ∃ position' rest', trees' = .ident name position' :: rest' ∧
      bareAll rest = bareAll rest' := by
  obtain ⟨tree', rest', rfl, htree, hrest⟩ := exists_of_bareAll_cons hsame
  cases tree' <;> simp only [bare, ident.injEq, reduceCtorEq] at htree
  exact ⟨_, rest', by rw [htree.1], hrest⟩

theorem exists_of_bareAll_group {delimiter : Delimiter} {inner rest : List Located}
    {opening closing : Position}
    (hsame : bareAll (.group delimiter inner opening closing :: rest) = bareAll trees') :
    ∃ inner' opening' closing' rest', trees' = .group delimiter inner' opening' closing' :: rest' ∧
      bareAll inner = bareAll inner' ∧ bareAll rest = bareAll rest' := by
  obtain ⟨tree', rest', rfl, htree, hrest⟩ := exists_of_bareAll_cons hsame
  cases tree' <;> simp only [bare, group.injEq, reduceCtorEq] at htree
  exact ⟨_, _, _, rest', by rw [htree.1], htree.2.1, hrest⟩

mutual

theorem size_bare (joinable : Bool) (tree : Located) : (bare joinable tree).size = tree.size := by
  cases tree with
  | ident | punct | literal => rfl
  | group delimiter inner opening closing => rw [bare, size, size, sizes_bareAll inner]

theorem sizes_bareAll (trees : List Located) : sizes (bareAll trees) = sizes trees := by
  cases trees with
  | nil => rfl
  | cons tree rest => rw [bareAll, sizes, sizes, size_bare, sizes_bareAll rest]

end

end Located

namespace Token

mutual

/-- A token of which no mark is joined to the next one. -/
def loose : Token → Token
  | .ident name => .ident name
  | .punct c _ => .punct c false
  | .literal text => .literal text
  | .group delimiter inner => .group delimiter (looseAll inner)

def looseAll : List Token → List Token
  | [] => []
  | token :: rest => loose token :: looseAll rest

end

/-- Whether two tokens side by side are a sign of a part that is kept as written: a call of a macro,
an object type of a form of its own, or the receiver of a function type. -/
def opensKept : Token → List Token → Bool
  | .punct c _, .group .. :: _ => c == '!'
  | .ident name, .punct c _ :: _ => name == "dyn" && c == '*'
  | .ident name, .ident next :: _ => name == "mut" && next == "self"
  | _, _ => false

mutual

/-- Whether a token, or one inside of it, is a sign of a part that is kept as written: an attribute,
a block, or one of three words. -/
def isSign : Token → Bool
  | .ident name => ["const", "become", "box"].contains name
  | .punct c _ => c == '#'
  | .literal _ => false
  | .group .brace _ => true
  | .group _ inner => hasSign inner

/-- Whether there is a sign of a part that is kept as written. -/
def hasSign : List Token → Bool
  | [] => false
  | token :: rest => isSign token || opensKept token rest || hasSign rest

end

variable {front front' back back' : List Token}

theorem looseAll_append (front back : List Token) :
    looseAll (front ++ back) = looseAll front ++ looseAll back := by
  induction front with
  | nil => rfl
  | cons token front ih => rw [List.cons_append, looseAll, ih, looseAll, List.cons_append]

theorem looseAll_eq_map (tokens : List Token) : looseAll tokens = tokens.map loose := by
  induction tokens with
  | nil => rfl
  | cons token tokens ih => rw [looseAll, ih, List.map_cons]

theorem opensKept_append {token : Token} (hopens : opensKept token front = true)
    (back : List Token) : opensKept token (front ++ back) = true := by
  cases front with
  | nil => cases token <;> exact absurd hopens (by simp [opensKept])
  | cons next front => cases token <;> cases next <;> exact hopens

theorem hasSign_append_left (hfront : hasSign front = true) (back : List Token) :
    hasSign (front ++ back) = true := by
  induction front with
  | nil => exact absurd hfront (by simp [hasSign])
  | cons token front ih =>
    rw [hasSign, Bool.or_eq_true, Bool.or_eq_true] at hfront
    rw [List.cons_append, hasSign, Bool.or_eq_true, Bool.or_eq_true]
    exact hfront.imp (.imp_right fun hopens => opensKept_append hopens back) ih

theorem hasSign_append_right (front : List Token) (hback : hasSign back = true) :
    hasSign (front ++ back) = true := by
  induction front with
  | nil => exact hback
  | cons token front ih => rw [List.cons_append, hasSign, ih, Bool.or_true]

mutual

theorem loose_token_bare (joinable : Bool) (tree : Located) :
    loose (Located.bare joinable tree).token = loose tree.token := by
  cases tree with
  | ident | punct | literal => rfl
  | group delimiter inner opening closing =>
    simp only [Located.bare, Located.token, loose, looseAll_tokens_bareAll inner]

/-- Apart from which marks are joined, the sequence tells what the tokens are. -/
theorem looseAll_tokens_bareAll (trees : List Located) :
    looseAll (Located.tokens (Located.bareAll trees)) = looseAll (Located.tokens trees) := by
  cases trees with
  | nil => rfl
  | cons tree rest =>
    rw [Located.bareAll, Located.tokens, Located.tokens, looseAll, looseAll, loose_token_bare,
      looseAll_tokens_bareAll rest]

end

/-- That two lists of printed tokens differ in nothing but in which marks are joined. What is
printed exactly does not differ even in that unless there is a sign of a part kept as written. -/
structure Prints (exact : Bool) (tokens tokens' : List Token) : Prop where
  loose : looseAll tokens = looseAll tokens'
  same : exact = true → tokens = tokens' ∨ hasSign tokens = true

namespace Prints

variable {exact : Bool} {tokens tokens' : List Token}

@[refl] theorem refl (tokens : List Token) : Prints exact tokens tokens := ⟨rfl, fun _ => .inl rfl⟩

theorem append (hfront : Prints exact front front') (hback : Prints exact back back') :
    Prints exact (front ++ back) (front' ++ back') := by
  refine ⟨by rw [looseAll_append, looseAll_append, hfront.loose, hback.loose], fun hexact => ?_⟩
  rcases hfront.same hexact with rfl | hsign
  · exact (hback.same hexact).imp (congrArg _) (hasSign_append_right _)
  · exact .inr (hasSign_append_left hsign _)

/-- Where there is a sign, nothing has to be exact. -/
theorem of_sign (hprints : Prints false tokens tokens') (hsign : hasSign tokens = true) :
    Prints exact tokens tokens' := ⟨hprints.loose, fun _ => .inr hsign⟩

theorem inexact (hprints : Prints exact tokens tokens') : Prints false tokens tokens' :=
  ⟨hprints.loose, fun hexact => absurd hexact (by decide)⟩

theorem length_eq (hprints : Prints exact tokens tokens') : tokens.length = tokens'.length := by
  have hlength := congrArg List.length hprints.loose
  rwa [looseAll_eq_map, looseAll_eq_map, List.length_map, List.length_map] at hlength

theorem isEmpty_eq (hprints : Prints exact tokens tokens') : tokens.isEmpty = tokens'.isEmpty := by
  have hlength := hprints.length_eq
  cases tokens <;> cases tokens' <;> first | rfl | exact absurd hlength (by simp)

theorem group (delimiter : Delimiter) (hprints : Prints exact tokens tokens') :
    Prints exact [.group delimiter tokens] [.group delimiter tokens'] := by
  refine ⟨by simp only [looseAll, Token.loose, hprints.loose], fun hexact => ?_⟩
  rcases hprints.same hexact with rfl | hsign
  · exact .inl rfl
  · exact .inr (by cases delimiter <;> simp [hasSign, isSign, hsign])

/-- Braces are a sign by themselves. -/
theorem brace (hprints : Prints false tokens tokens') :
    Prints exact [.group .brace tokens] [.group .brace tokens'] :=
  (hprints.group .brace).of_sign (by simp [hasSign, isSign])

theorem take (hprints : Prints false tokens tokens') (count : Nat) :
    Prints false (tokens.take count) (tokens'.take count) := by
  refine ⟨?_, fun hexact => absurd hexact (by decide)⟩
  have hloose := hprints.loose
  simp only [looseAll_eq_map, List.map_take] at hloose ⊢
  rw [hloose]

/-- Tokens of one sequence are printed the same but for which marks are joined. -/
theorem of_bareAll {trees trees' : List Located}
    (hsame : Located.bareAll trees = Located.bareAll trees') :
    Prints false (Located.tokens trees) (Located.tokens trees') :=
  ⟨by rw [← looseAll_tokens_bareAll, hsame, looseAll_tokens_bareAll], fun hexact =>
    absurd hexact (by decide)⟩

end Prints

end Token

namespace Grammar.Ahead

open Located

variable {tokens : List Located}

/-- That the characters of an operator stand side by side in an operator. -/
def Adjoined : List Char → Prop
  | c :: d :: cs => Token.adjoin c d = true ∧ Adjoined (d :: cs)
  | _ => True

instance Adjoined.instDecidable : ∀ cs, Decidable (Adjoined cs)
  | [] => .isTrue trivial
  | [_] => .isTrue trivial
  | _ :: d :: cs => @instDecidableAnd _ _ _ (instDecidable (d :: cs))

theorem adjoins_of_beginsWith {c d : Char} {cs : List Char} {joint : Bool} {position : Position}
    (hadjoin : Token.adjoin c d = true) (hbegins : beginsWith (d :: cs) tokens = true) :
    adjoins (.punct c joint position) tokens = true := by
  cases tokens with
  | nil => cases cs <;> exact absurd hbegins (by simp [beginsWith])
  | cons tree rest =>
    cases tree with
    | ident | literal | group => cases cs <;> exact absurd hbegins (by simp [beginsWith])
    | punct e joint' position' =>
      have hsame : d = e := by
        cases cs with
        | nil => simpa [beginsWith] using hbegins
        | cons => cases joint' <;> simp [beginsWith] at hbegins; exact hbegins.1
      exact hsame ▸ hadjoin

theorem beginsWith_mark (c d e : Char) (cs : List Char) (position : Position) :
    beginsWith (c :: d :: cs) (.punct e true position :: tokens) =
      (c == e && beginsWith (d :: cs) tokens) := by
  simp [beginsWith]

/-- A layout does not tell operators from others. -/
theorem beginsWith_bareAll {cs : List Char} (hcs : Adjoined cs) (tokens : List Located) :
    beginsWith cs (bareAll tokens) = beginsWith cs tokens := by
  induction cs generalizing tokens with
  | nil => simp [beginsWith]
  | cons c cs ih =>
    cases tokens with
    | nil => rfl
    | cons tree rest =>
      cases tree with
      | ident | literal | group => cases cs <;> rfl
      | punct d joint position =>
        cases cs with
        | nil => rfl
        | cons e cs =>
          cases joint with
          | false => rfl
          | true =>
            rw [bareAll, bare, Bool.true_and, beginsWith_mark]
            cases hjoined : d == '\'' || adjoins (.punct d true position) rest with
            | true => rw [beginsWith_mark, ih hcs.2]
            | false =>
              -- The mark is followed by nothing that the operator goes on with.
              change false = _
              symm
              rw [Bool.and_eq_false_iff, Decidable.or_iff_not_imp_left, Bool.not_eq_false,
                beq_iff_eq]
              rintro rfl
              refine Bool.eq_false_iff.mpr fun hbegins => ?_
              rw [adjoins_of_beginsWith hcs.1 hbegins, Bool.or_true] at hjoined
              exact absurd hjoined (by decide)

section

variable (tokens : List Located)

@[simp] theorem isOp_bareAll {operator : String} (hoperator : Adjoined operator.toList) :
    isOp operator (bareAll tokens) = isOp operator tokens := beginsWith_bareAll hoperator tokens

@[simp] theorem isWord_bareAll (word : String) :
    isWord word (bareAll tokens) = isWord word tokens := by
  rcases tokens with _ | ⟨_ | _ | _ | _, rest⟩ <;> rfl

@[simp] theorem isIdent_bareAll : isIdent (bareAll tokens) = isIdent tokens := by
  rcases tokens with _ | ⟨_ | _ | _ | _, rest⟩ <;> rfl

@[simp] theorem isAnyIdent_bareAll : isAnyIdent (bareAll tokens) = isAnyIdent tokens := by
  rcases tokens with _ | ⟨_ | _ | _ | _, rest⟩ <;> rfl

@[simp] theorem isUnderscore_bareAll : isUnderscore (bareAll tokens) = isUnderscore tokens :=
  isWord_bareAll tokens "_"

@[simp] theorem isOneOf_bareAll (words : List String) :
    isOneOf words (bareAll tokens) = isOneOf words tokens := by
  simp [isOneOf]

@[simp] theorem isGroup_bareAll (delimiter : Delimiter) :
    isGroup delimiter (bareAll tokens) = isGroup delimiter tokens := by
  rcases tokens with _ | ⟨_ | _ | _ | _, rest⟩ <;> rfl

@[simp] theorem isText_bareAll : isText (bareAll tokens) = isText tokens := by
  rcases tokens with _ | ⟨_ | _ | _ | _, rest⟩ <;> rfl

@[simp] theorem isDecimal_bareAll : isDecimal (bareAll tokens) = isDecimal tokens := by
  rcases tokens with _ | ⟨_ | _ | _ | _, rest⟩ <;> rfl

theorem bareAll_apostrophe (joint : Bool) (position : Position) :
    bareAll (.punct '\'' joint position :: tokens) =
      .punct '\'' joint .start :: bareAll tokens := by
  simp [bareAll, bare]

@[simp] theorem isLifetime_bareAll : isLifetime (bareAll tokens) = isLifetime tokens := by
  rcases tokens with _ | ⟨_ | ⟨c, joint, position⟩ | _ | _, rest⟩
  · rfl
  · rfl
  · by_cases hc : c = '\''
    · subst hc
      rw [bareAll_apostrophe]
      cases joint
      · rfl
      · rcases rest with _ | ⟨_ | _ | _ | _, rest⟩ <;> rfl
    · rw [bareAll, bare]
      simp [isLifetime, hc]
  · rfl
  · rfl

@[simp] theorem skip_bareAll : skip (bareAll tokens) = bareAll (skip tokens) := by
  rcases tokens with _ | ⟨_ | ⟨c, joint, position⟩ | _ | _, rest⟩
  · rfl
  · rfl
  · by_cases hc : c = '\''
    · subst hc
      rw [bareAll_apostrophe]
      cases joint
      · rfl
      · rcases rest with _ | ⟨_ | _ | _ | _, rest⟩ <;> rfl
    · rw [bareAll, bare]
      simp [skip, hc]
  · rfl
  · rfl

@[simp] theorem isLiteral_bareAll : isLiteral (bareAll tokens) = isLiteral tokens := by
  rcases tokens with _ | ⟨_ | ⟨c, joint, position⟩ | _ | _, rest⟩
  · rfl
  · rfl
  · by_cases hc : c = '-'
    · subst hc
      rcases rest with _ | ⟨_ | _ | _ | _, rest⟩ <;> rfl
    · rw [bareAll, bare]
      simp [isLiteral, hc]
  · rfl
  · rfl

@[simp] theorem opensGenerics_bareAll :
    opensGenerics (bareAll tokens) = opensGenerics tokens := by
  simp +decide [opensGenerics]

@[simp] theorem beginsCall_bareAll : beginsCall (bareAll tokens) = beginsCall tokens := by
  simp +decide [beginsCall]

end

end Grammar.Ahead

end ServiceGen
