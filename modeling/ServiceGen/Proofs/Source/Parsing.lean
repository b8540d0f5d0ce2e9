import ServiceGen.Proofs.Grammar.SteadyItem
import ServiceGen.Source.Reading

/-!
Reading a text does not depend on layout. Two texts whose tokens have the same sequence both cannot
be read, or both are read, as units that differ in layout only.
-/
namespace ServiceGen

namespace Grammar

open Located

/-- A grammar does not depend on layout, however deep its entrances lead. -/
theorem robust_ofDepth (depth : Nat) : Robust (ofDepth depth) := by
  induction depth with
  | zero =>
    exact {
      type := fun _ _ => .fail
      bound := fun _ => .fail
      operand := fun _ _ => .fail
      operators := fun _ _ _ _ _ _ _ => .fail
      caseValue := .fail
      pattern := fun _ => .fail
      statements := .fail
      selection := fun _ => .fail
      fields := .fail
      item := .fail }
  | succ depth ih =>
    exact {
      type := fun _ plus => Type.steady_read ih plus
      bound := fun _ => .discard (Bound.steady_one ih _)
      operand := fun _ braces => Expression.steady_operand ih braces
      operators := fun _ braces form floor _ _ hprints =>
        Operation.steady_operators ih braces form floor hprints
      caseValue := Standalone.steady_caseValue ih
      pattern := fun _ => Pattern.steady_read ih
      statements := Statement.steady_all ih
      selection := fun rooted => Import.steady_selection ih rooted
      fields := Data.steady_namedFields ih
      item := Item.steady_inner ih }

variable {tokens tokens' : List Located}

/-- The depth of a grammar depends on the number of tokens only. -/
theorem ofTokens_eq (hsame : bareAll tokens = bareAll tokens') :
    ofTokens tokens = ofTokens tokens' := by
  rw [ofTokens, ofTokens, ← sizes_bareAll tokens, hsame, sizes_bareAll]

theorem steady_file {g : Grammar} (hg : Robust g) (path : String) :
    Steady false (List.Forall₂ Item.Alike) (g.file path) (g.file path) := by
  refine .andThen (Attribute.steady_inner hg) fun _ => ?_
  refine .bind (.untilEnd (Item.steady_read hg path)) fun items items' hitems => .pure ?_
  exact List.rel_filterMap (fun _ _ hitem => hitem) hitems

/-- Reading all tokens of a text fails for both of two layouts, or answers for both. -/
theorem readAll_agree {α β : Type} {R : α → β → Prop} {reader : Reader α} {reader' : Reader β}
    (hreader : Steady false R reader reader') (hsame : bareAll tokens = bareAll tokens') :
    (∃ position position', Reader.readAll reader tokens = .error position ∧
        Reader.readAll reader' tokens' = .error position') ∨
      ∃ a printed b printed', Reader.readAll reader tokens = .ok (a, printed) ∧
        Reader.readAll reader' tokens' = .ok (b, printed') ∧ R a b := by
  have hstart : Input.Alike false ⟨tokens, .start, none, []⟩ ⟨tokens', .start, none, []⟩ :=
    ⟨hsame, rfl, .refl _⟩
  obtain ⟨position, position', hrun, hrun'⟩
    | ⟨a, after, b, after', hrun, hrun', hanswer, hafter, -⟩ :=
    hreader.run hstart
  · exact .inl ⟨position, position', by rw [Reader.readAll, hrun], by rw [Reader.readAll, hrun']⟩
  · -- Both leave something over, or neither does.
    have hleft := hafter.isSome_left
    rw [Reader.readAll, Reader.readAll, hrun, hrun']
    dsimp only
    cases h : after.stray <|> after.rest.head?.map Located.position <;>
      cases h' : after'.stray <|> after'.rest.head?.map Located.position <;> rw [h, h'] at hleft
    case none.none => exact .inr ⟨a, _, b, _, rfl, rfl, hanswer⟩
    case some.some position position' => exact .inl ⟨position, position', rfl, rfl⟩
    all_goals exact absurd hleft (by simp)

end Grammar

namespace SourceUnit

/-- The tokens of a text, as they are read. -/
def tokens (text : String) : Except Position (List Located) :=
  Token.Lexer.read (withoutCommand (Text.withoutMark text.toList))

/-- The sequence of the tokens of a text, if the text holds tokens. -/
def sequence? (text : String) : Option (List Located) :=
  (tokens text).toOption.map Located.bareAll

/-- That two texts hold the same sequence of tokens, whatever their layout is. -/
def SameSequence (text text' : String) : Prop :=
  (sequence? text).isSome ∧ sequence? text = sequence? text'

instance (text text' : String) : Decidable (SameSequence text text') := instDecidableAnd

theorem SameSequence.exists_tokens {text text' : String} (hsame : SameSequence text text') :
    ∃ trees trees', tokens text = .ok trees ∧ tokens text' = .ok trees' ∧
      Located.bareAll trees = Located.bareAll trees' := by
  obtain ⟨hsome, hsame⟩ := hsame
  rw [sequence?, sequence?] at hsame
  rw [sequence?] at hsome
  cases htrees : tokens text with
  | error position => simp [htrees, Except.toOption] at hsome
  | ok trees =>
    cases htrees' : tokens text' with
    | error position => simp [htrees, htrees', Except.toOption] at hsame
    | ok trees' =>
      exact ⟨trees, trees', rfl, rfl, by simpa [htrees, htrees', Except.toOption] using hsame⟩

/-- Texts whose tokens have one sequence are read alike. -/
theorem ofText_agree {text text' : String} (hsame : SameSequence text text')
    (package path : String) :
    (∃ position position', ofText package path text = .error position ∧
        ofText package path text' = .error position') ∨
      ∃ unit unit', ofText package path text = .ok unit ∧ ofText package path text' = .ok unit' ∧
        unit.Alike unit' := by
  obtain ⟨trees, trees', htrees, htrees', hsame⟩ := hsame.exists_tokens
  have hread (text : String) (trees : List Located) (htrees : tokens text = .ok trees) :
      ofText package path text = (Grammar.Reader.readAll ((Grammar.ofTokens trees).file path)
        trees).map fun answer => ⟨package, path, answer.1⟩ := by
    rw [tokens] at htrees
    simp only [ofText, Grammar.readText, htrees]
    rfl
  have hfile := Grammar.steady_file (Grammar.robust_ofDepth (4 * Located.sizes trees + 4)) path
  rw [hread text trees htrees, hread text' trees' htrees', ← Grammar.ofTokens_eq hsame]
  obtain ⟨position, position', herror, herror'⟩ | ⟨items, _, items', _, hok, hok', hitems⟩ :=
    Grammar.readAll_agree hfile hsame
  · exact .inl ⟨position, position', congrArg _ herror, congrArg _ herror'⟩
  · exact .inr ⟨_, _, congrArg _ hok, congrArg _ hok', rfl, rfl, hitems⟩

end SourceUnit

end ServiceGen
