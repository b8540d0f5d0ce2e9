import ServiceGen.Proofs.Grammar.PlainType
import ServiceGen.Proofs.Token.Layout

/-!
Tokens that are read without regard to where they stand. Since reading does not depend on layout, it
is enough to read tokens that all stand at one place, and what is read can then be told by tokens
alone. Pieces that are read one after the other are read as a whole, behind one another or with
commas between them.
-/
namespace ServiceGen

namespace Located

mutual

/-- A token that stands at the beginning of a text, with all that it holds. -/
def placed : Token → Located
  | .ident name => .ident name .start
  | .punct c joint => .punct c joint .start
  | .literal text => .literal text .start
  | .group delimiter inner => .group delimiter (placedAll inner) .start .start

def placedAll : List Token → List Located
  | [] => []
  | token :: rest => placed token :: placedAll rest

end

@[simp] theorem placedAll_append (front back : List Token) :
    placedAll (front ++ back) = placedAll front ++ placedAll back := by
  induction front with
  | nil => rfl
  | cons token front ih => rw [List.cons_append, placedAll, placedAll, ih, List.cons_append]

mutual

theorem token_placed (token : Token) : (placed token).token = token := by
  cases token with
  | ident | punct | literal => rfl
  | group delimiter inner => rw [placed, Located.token, tokens_placedAll inner]

@[simp] theorem tokens_placedAll (list : List Token) : tokens (placedAll list) = list := by
  cases list with
  | nil => rfl
  | cons token rest => rw [placedAll, tokens, token_placed token, tokens_placedAll rest]

end

theorem adjoins_placedAll (tree : Located) (rest : List Located) :
    adjoins (placed tree.token) (placedAll (tokens rest)) = adjoins tree rest := by
  cases tree <;> cases rest with
  | nil => rfl
  | cons next rest => cases next <;> rfl

mutual

theorem bare_placed (joinable : Bool) (tree : Located) :
    bare joinable (placed tree.token) = bare joinable tree := by
  cases tree with
  | ident | punct | literal => rfl
  | group delimiter inner =>
    rw [Located.token, placed, bare, bare, bareAll_placedAll inner]

/-- Tokens have the same sequence wherever they stand. -/
theorem bareAll_placedAll (trees : List Located) :
    bareAll (placedAll (tokens trees)) = bareAll trees := by
  cases trees with
  | nil => rfl
  | cons tree rest =>
    rw [tokens, placedAll, bareAll, bareAll, adjoins_placedAll, bare_placed _ tree,
      bareAll_placedAll rest]

end

end Located

namespace Token

/-- The number of tokens, with those inside of groups. -/
def extent (tokens : List Token) : Nat := Located.sizes (Located.placedAll tokens)

variable {rest : List Token}

@[simp] theorem extent_nil : extent [] = 0 := rfl

@[simp] theorem extent_ident {name : String} :
    extent (.ident name :: rest) = extent rest + 1 := Nat.add_comm ..

@[simp] theorem extent_punct {c : Char} {joint : Bool} :
    extent (.punct c joint :: rest) = extent rest + 1 := Nat.add_comm ..

@[simp] theorem extent_literal {text : String} :
    extent (.literal text :: rest) = extent rest + 1 := Nat.add_comm ..

@[simp] theorem extent_group {delimiter : Delimiter} {inner : List Token} :
    extent (.group delimiter inner :: rest) = extent inner + extent rest + 1 := by
  simp only [extent, Located.placedAll, Located.placed, Located.sizes, Located.size]
  omega

@[simp] theorem extent_append (front back : List Token) :
    extent (front ++ back) = extent front + extent back := by
  simp only [extent, Located.placedAll_append, Located.sizes_append]

end Token

namespace Grammar

open Located Token

/-- That a reader takes tokens in front of others with an answer, wherever the tokens stand and
whatever it prints. -/
def Parses {α : Type} (reader : Reader α) (front rest : List Token) (a : α) : Prop :=
  ∃ printed, Takes reader (placedAll front) (placedAll rest) a printed

/-- That a reader takes tokens in front of others. -/
def Accepts {α : Type} (reader : Reader α) (front rest : List Token) : Prop :=
  ∃ a, Parses reader front rest a

theorem Takes.parses {α : Type} {reader : Reader α} {front rest printed : List Token} {a : α}
    (htakes : Takes reader (placedAll front) (placedAll rest) a printed) :
    Parses reader front rest a := ⟨printed, htakes⟩

namespace Parses

variable {α β : Type} {a : α} {b : β} {reader : Reader α} {next : α → Reader β}
  {front back rest : List Token}

theorem accepts (hreader : Parses reader front rest a) : Accepts reader front rest := ⟨a, hreader⟩

theorem pure : Parses (Pure.pure a) [] rest a := ⟨[], .pure⟩

theorem bind (hreader : Parses reader front (back ++ rest) a)
    (hnext : Parses (next a) back rest b) : Parses (reader >>= next) (front ++ back) rest b := by
  obtain ⟨printed, hreader⟩ := hreader
  obtain ⟨more, hnext⟩ := hnext
  rw [placedAll_append] at hreader
  exact ⟨printed ++ more, placedAll_append .. ▸ Takes.bind hreader hnext⟩

theorem cons {token : Token} (hreader : Parses reader [token] (back ++ rest) a)
    (hnext : Parses (next a) back rest b) : Parses (reader >>= next) (token :: back) rest b :=
  bind hreader hnext

/-- A reader behind which nothing more is taken. -/
theorem last (hreader : Parses reader front rest a) (hnext : Parses (next a) [] rest b) :
    Parses (reader >>= next) front rest b := by
  have hboth : Parses (reader >>= next) (front ++ []) rest b := bind hreader hnext
  rwa [List.append_nil] at hboth

/-- A reader that takes nothing, in front of another. -/
theorem skip (hreader : Parses reader [] (front ++ rest) a)
    (hnext : Parses (next a) front rest b) : Parses (reader >>= next) front rest b :=
  bind hreader hnext

theorem ahead {next : List Located → Reader β}
    (hnext : Parses (next (placedAll (front ++ rest))) front rest b) :
    Parses (Reader.ahead >>= next) front rest b := by
  obtain ⟨printed, hnext⟩ := hnext
  rw [placedAll_append] at hnext
  exact ⟨printed, .ahead hnext⟩

theorem atEnd {next : Bool → Reader β}
    (hnext : Parses (next (placedAll (front ++ rest)).isEmpty) front rest b) :
    Parses (Reader.atEnd >>= next) front rest b := by
  have hahead : Parses (Reader.ahead >>= fun tokens => next tokens.isEmpty) front rest b :=
    ahead hnext
  exact hahead

theorem yes {other : Reader α} {condition : Bool} (hcondition : condition = true)
    (hreader : Parses reader front rest a) :
    Parses (if condition = true then reader else other) front rest a := by
  rwa [if_pos hcondition]

theorem no {other : Reader α} {condition : Bool} (hcondition : condition = false)
    (hreader : Parses reader front rest a) :
    Parses (if condition = true then other else reader) front rest a := by
  rwa [hcondition, if_neg Bool.false_ne_true]

theorem emit (tokens : List Token) : Parses (Reader.emit tokens) [] rest () :=
  ⟨tokens, .emit tokens⟩

theorem here {token : Token} {next : Position → Reader β}
    (hnext : Parses (next .start) (token :: front) rest b) :
    Parses (Reader.here >>= next) (token :: front) rest b := by
  obtain ⟨printed, hnext⟩ := hnext
  refine ⟨printed, fun limit stray before => ?_⟩
  rw [← hnext limit stray before]
  cases token <;> rfl

/-- A reader whose answer comes with what it prints, in front of another. -/
theorem printed {next : α × List Token → Reader β} (hreader : Parses reader front (back ++ rest) a)
    (hnext : ∀ printed, Parses (next (a, printed)) back rest b) :
    Parses (Reader.printing reader >>= next) (front ++ back) rest b := by
  obtain ⟨printed, hreader⟩ := hreader
  exact bind hreader.printing.parses (hnext printed)

theorem copyingIf {asks : α → Bool} (hreader : Parses reader front rest a) :
    Parses (Reader.copyingIf asks reader) front rest a := by
  obtain ⟨printed, hreader⟩ := hreader
  cases hasks : asks a with
  | false => exact (hreader.copyingIf hasks).parses
  | true =>
    refine ⟨front, fun limit stray before => ?_⟩
    have hlength : (placedAll front ++ placedAll rest).length - (placedAll rest).length =
        (placedAll front).length := by
      rw [List.length_append]
      omega
    simp only [Reader.copyingIf, hreader limit stray before, hasks, if_true, hlength,
      List.take_left, tokens_placedAll]

/-- A look at what a reader would answer and leave. -/
theorem peeking {lead behind : List Token} {next : α × List Located → Reader β}
    (heq : front ++ rest = lead ++ behind) (hreader : Parses reader lead behind a)
    (hnext : Parses (next (a, placedAll behind)) front rest b) :
    Parses (Reader.peeking reader >>= next) front rest b := by
  obtain ⟨printed, hreader⟩ := hreader
  obtain ⟨more, hnext⟩ := hnext
  refine ⟨more, fun limit stray before => ?_⟩
  have hlook := hreader limit stray before
  rw [← placedAll_append, ← heq, placedAll_append] at hlook
  simp only [Reader.peeking, Bind.bind, StateT.bind, Except.bind, hlook]
  exact hnext limit stray before

theorem attempt (hreader : Parses reader front rest a) :
    Parses (Reader.attempt reader) front rest (some a) := by
  obtain ⟨printed, hreader⟩ := hreader
  refine ⟨printed, fun limit stray before => ?_⟩
  simp only [Reader.attempt, hreader limit stray before]

theorem group {delimiter : Delimiter} {inner : List Token} (hreader : Parses reader inner [] a) :
    Parses (Reader.group delimiter reader) [.group delimiter inner] rest a := by
  obtain ⟨printed, hreader⟩ := hreader
  exact hreader.group.parses

theorem discard (hreader : Parses reader front rest a) :
    Parses (Functor.discard reader) front rest () := by
  obtain ⟨printed, hreader⟩ := hreader
  refine ⟨printed, fun limit stray before => ?_⟩
  simp only [Functor.discard, Functor.mapConst, Function.comp_apply, StateT.map, Bind.bind,
    Except.bind, hreader limit stray before]
  rfl

theorem rawGroup {delimiter : Delimiter} {inner : List Token} :
    Parses Reader.rawGroup [.group delimiter inner] rest delimiter :=
  ⟨[.group delimiter (tokens (placedAll inner))], fun _ _ _ => rfl⟩

end Parses

/-- That a reader fails in front of tokens. -/
def Refuses {α : Type} (reader : Reader α) (tokens : List Token) : Prop :=
  ∀ limit stray before, ∃ position,
    reader ⟨placedAll tokens, limit, stray, before⟩ = .error position

namespace Refuses

variable {α β : Type} {a : α} {reader : Reader α} {next : α → Reader β} {rest : List Token}

theorem attempt (hreader : Refuses reader rest) :
    Parses (Reader.attempt reader) [] rest none := by
  refine ⟨[], fun limit stray before => ?_⟩
  obtain ⟨position, hreader⟩ := hreader limit stray before
  simp only [placedAll, List.nil_append, Reader.attempt, hreader, List.reverse_nil]

theorem bind (hreader : Refuses reader rest) : Refuses (reader >>= next) rest := by
  intro limit stray before
  obtain ⟨position, hreader⟩ := hreader limit stray before
  refine ⟨position, ?_⟩
  simp only [Bind.bind, StateT.bind, Except.bind, hreader]

/-- A reader that takes nothing, in front of one that fails. -/
theorem skip (hreader : Parses reader [] rest a) (hnext : Refuses (next a) rest) :
    Refuses (reader >>= next) rest := by
  obtain ⟨printed, hreader⟩ := hreader
  intro limit stray before
  obtain ⟨position, hnext⟩ := hnext limit stray (printed.reverse ++ before)
  have hread := hreader limit stray before
  rw [placedAll, List.nil_append] at hread
  exact ⟨position, by simp only [Bind.bind, StateT.bind, Except.bind, hread, hnext]⟩

theorem here {next : Position → Reader β} (hnext : ∀ position, Refuses (next position) rest) :
    Refuses (Reader.here >>= next) rest := fun limit stray before =>
  hnext (Input.place ⟨placedAll rest, limit, stray, before⟩) limit stray before

theorem no {other : Reader α} {condition : Bool} (hcondition : condition = false)
    (hreader : Refuses reader rest) :
    Refuses (if condition = true then other else reader) rest := by
  rwa [hcondition, if_neg Bool.false_ne_true]

theorem word {word : String} (his : Ahead.isWord word (placedAll rest) = false) :
    Refuses (Reader.word word) rest := by
  intro limit stray before
  refine ⟨Input.place ⟨placedAll rest, limit, stray, before⟩, ?_⟩
  simp only [Reader.word, Reader.ahead, Bind.bind, StateT.bind, Except.bind, his]
  rfl

end Refuses

namespace Accepts

variable {α β : Type} {a : α} {reader : Reader α} {next : α → Reader β}
  {front back rest : List Token}

/-- Readers of which the second one takes its tokens whatever the first one answers. -/
theorem bind (hreader : Accepts reader front (back ++ rest))
    (hnext : ∀ a, Accepts (next a) back rest) : Accepts (reader >>= next) (front ++ back) rest := by
  obtain ⟨a, hreader⟩ := hreader
  obtain ⟨b, hnext⟩ := hnext a
  exact ⟨b, hreader.bind hnext⟩

theorem bindOne {token : Token} (hreader : Accepts reader [token] (back ++ rest))
    (hnext : ∀ a, Accepts (next a) back rest) : Accepts (reader >>= next) (token :: back) rest :=
  bind hreader hnext

theorem last (hreader : Accepts reader front rest) (hnext : ∀ a, Accepts (next a) [] rest) :
    Accepts (reader >>= next) front rest := by
  have hboth : Accepts (reader >>= next) (front ++ []) rest := bind hreader hnext
  rwa [List.append_nil] at hboth

theorem after (hreader : Parses reader front (back ++ rest) a)
    (hnext : Accepts (next a) back rest) : Accepts (reader >>= next) (front ++ back) rest := by
  obtain ⟨b, hnext⟩ := hnext
  exact ⟨b, hreader.bind hnext⟩

theorem cons {token : Token} (hreader : Parses reader [token] (back ++ rest) a)
    (hnext : Accepts (next a) back rest) : Accepts (reader >>= next) (token :: back) rest :=
  after hreader hnext

/-- A reader that takes nothing, in front of another. -/
theorem skip (hreader : Parses reader [] (front ++ rest) a) (hnext : Accepts (next a) front rest) :
    Accepts (reader >>= next) front rest := after hreader hnext

theorem pure {a : α} : Accepts (Pure.pure a) [] rest := ⟨a, .pure⟩

theorem here {token : Token} {next : Position → Reader β}
    (hnext : Accepts (next .start) (token :: front) rest) :
    Accepts (Reader.here >>= next) (token :: front) rest := hnext.imp fun _ => .here

theorem ahead {next : List Located → Reader β}
    (hnext : Accepts (next (placedAll (front ++ rest))) front rest) :
    Accepts (Reader.ahead >>= next) front rest := hnext.imp fun _ => .ahead

theorem atEnd {next : Bool → Reader β}
    (hnext : Accepts (next (placedAll (front ++ rest)).isEmpty) front rest) :
    Accepts (Reader.atEnd >>= next) front rest := hnext.imp fun _ => .atEnd

theorem yes {other : Reader α} {condition : Bool} (hcondition : condition = true)
    (hreader : Accepts reader front rest) :
    Accepts (if condition = true then reader else other) front rest :=
  hreader.imp fun _ => .yes hcondition

theorem no {other : Reader α} {condition : Bool} (hcondition : condition = false)
    (hreader : Accepts reader front rest) :
    Accepts (if condition = true then other else reader) front rest :=
  hreader.imp fun _ => .no hcondition

theorem copyingIf {asks : α → Bool} (hreader : Accepts reader front rest) :
    Accepts (Reader.copyingIf asks reader) front rest :=
  hreader.imp fun _ => Parses.copyingIf

theorem group {delimiter : Delimiter} {inner : List Token} (hreader : Accepts reader inner []) :
    Accepts (Reader.group delimiter reader) [.group delimiter inner] rest :=
  hreader.imp fun _ => Parses.group

theorem printed {next : α × List Token → Reader β} (hreader : Accepts reader front (back ++ rest))
    (hnext : ∀ answer, Accepts (next answer) back rest) :
    Accepts (Reader.printing reader >>= next) (front ++ back) rest := by
  obtain ⟨a, printed, hreader⟩ := hreader
  exact .after hreader.printing.parses (hnext (a, printed))

/-- A reader of nothing but what it takes. -/
theorem unit {reader : Reader Unit} (hreader : Accepts reader front rest) :
    Parses reader front rest () := hreader.elim fun _ h => h

end Accepts

/-! Marks and words -/

section

variable {rest : List Token} {c d : Char} {joint : Bool} {operator word : String}

theorem parses_op (hoperator : operator.toList = [c]) :
    Parses (Reader.op operator) [.punct c joint] rest () := (takes_op hoperator).parses

theorem parses_op_pair (hoperator : operator.toList = [c, d]) :
    Parses (Reader.op operator) [.punct c true, .punct d joint] rest () :=
  (takes_op_pair hoperator).parses

theorem parses_op? {front : List Token} (hreader : Parses (Reader.op operator) front rest ())
    (his : Ahead.isOp operator (placedAll (front ++ rest)) = true) :
    Parses (Reader.op? operator) front rest true := by
  obtain ⟨printed, hreader⟩ := hreader
  rw [placedAll_append] at his
  exact (takes_op? hreader his).parses

theorem passes_op? (his : Ahead.isOp operator (placedAll rest) = false) :
    Parses (Reader.op? operator) [] rest false := (skips_op? his).parses

theorem parses_word : Parses (Reader.word word) [.ident word] rest () := takes_word.parses

theorem parses_word? : Parses (Reader.word? word) [.ident word] rest true := takes_word?.parses

theorem passes_word? (his : Ahead.isWord word (placedAll rest) = false) :
    Parses (Reader.word? word) [] rest false := (skips_word? his).parses

theorem parses_anyIdent {name : String} : Parses Reader.anyIdent [.ident name] rest name :=
  takes_anyIdent.parses

theorem parses_ident (name : Name) : Parses Reader.ident [.ident name.text] rest name.text :=
  (takes_ident name.free).parses

end

/-! Repetition -/

section

variable {σ α : Type} {round : σ → Reader (Reader.Round σ)} {state state' state'' : σ}
  {front back rest : List Token}

/-- That the rounds of a repetition take tokens in front of others. -/
def Loops (round : σ → Reader (Reader.Round σ)) (state : σ) (front rest : List Token)
    (state' : σ) : Prop :=
  ∃ printed, Repeats round state (placedAll front) (placedAll rest) state' printed

theorem Loops.done (hround : Parses (round state) front rest (.done state')) :
    Loops round state front rest state' :=
  hround.imp fun _ => Repeats.done

theorem Loops.again (hfront : front ≠ [])
    (hround : Parses (round state) front (back ++ rest) (.again state'))
    (hmore : Loops round state' back rest state'') :
    Loops round state (front ++ back) rest state'' := by
  obtain ⟨printed, hround⟩ := hround
  obtain ⟨more, hmore⟩ := hmore
  rw [placedAll_append] at hround
  have hplaced : placedAll front ≠ [] := by
    cases front with
    | nil => exact absurd rfl hfront
    | cons token front => exact List.cons_ne_nil _ _
  exact ⟨printed ++ more, placedAll_append .. ▸ Repeats.again hplaced hround hmore⟩

theorem Loops.repeating (hloops : Loops round state front rest state') :
    Parses (Reader.repeating state round) front rest state' :=
  hloops.imp fun _ => Repeats.repeating

variable {item : Reader α} {pieces : List (List Token)}

/-- Items up to the end, which are read whatever stands behind them. -/
theorem accepts_untilEnd
    (hpieces : ∀ piece ∈ pieces, piece ≠ [] ∧ ∀ rest, Accepts item piece rest) :
    Accepts (Reader.untilEnd item) pieces.flatten [] := by
  unfold Reader.untilEnd
  refine .last ((?_ : ∃ items', Loops _ [] _ _ items').imp fun _ => Loops.repeating) fun _ => .pure
  generalize ([] : List α) = items
  induction pieces generalizing items with
  | nil => exact ⟨items, .done (.atEnd (.yes rfl .pure))⟩
  | cons piece pieces ih =>
    obtain ⟨hnonempty, hitem⟩ := hpieces piece List.mem_cons_self
    obtain ⟨a, hitem⟩ := hitem (pieces.flatten ++ [])
    obtain ⟨items', hloops⟩ :=
      ih (fun other hother => hpieces other (List.mem_cons_of_mem _ hother)) (a :: items)
    obtain ⟨token, more, rfl⟩ := List.exists_cons_of_ne_nil hnonempty
    exact ⟨items', .again hnonempty (.atEnd (.no rfl (hitem.last .pure))) hloops⟩

/-- What stands behind an item of a list: the end of the list, or a comma. -/
def FollowsPiece (closing rest : List Token) : Prop :=
  rest = closing ∨ ∃ more, rest = comma :: more

/-- Items with commas between them, and perhaps another one behind the last. -/
inductive Commas (IsItem : List Token → Prop) : List Token → Prop where
  | nil : Commas IsItem []
  | last {piece : List Token} (hitem : IsItem piece) : Commas IsItem piece
  | cons {piece more : List Token} (hitem : IsItem piece) (hmore : Commas IsItem more) :
    Commas IsItem (piece ++ comma :: more)

namespace Commas

variable {IsItem : List Token → Prop} {item : Reader Unit}

theorem readable (hcommas : Commas IsItem front)
    (hitem : ∀ piece, IsItem piece → Readable piece) : Readable front := by
  induction hcommas with
  | nil => trivial
  | last hpiece => exact hitem _ hpiece
  | cons hpiece _ ih => exact (hitem _ hpiece).append (readable_mark (by decide) ih)

/-- Items with commas between them are taken up to where their list stops. -/
theorem separated {stops : List Located → Bool} {closing : List Token}
    (hcommas : Commas IsItem front)
    (hitem : ∀ piece, IsItem piece → extent piece ≤ extent front → piece ≠ [] ∧
      (∀ rest, stops (placedAll (piece ++ rest)) = false) ∧
      ∀ rest, FollowsPiece closing rest → Accepts item piece rest)
    (hclosing : stops (placedAll closing) = true)
    (hcomma : ∀ more, stops (placedAll (comma :: more)) = false) :
    Parses (Reader.separated stops "," item) front closing () := by
  refine Loops.repeating ?_
  induction hcommas with
  | nil => exact .done (.ahead (.yes hclosing .pure))
  | last hpiece =>
    obtain ⟨-, hfront, haccepts⟩ := hitem _ hpiece (Nat.le_refl _)
    refine .done (.ahead (.no (hfront closing) ?_))
    exact (haccepts closing (.inl rfl)).unit.last (.ahead (.yes hclosing .pure))
  | @cons piece more hpiece _ ih =>
    simp only [comma, extent_append, extent_punct] at hitem
    obtain ⟨hnonempty, hfront, haccepts⟩ := hitem piece hpiece (by omega)
    rw [List.append_cons]
    refine .again (by simp) (.ahead (.no ?_ ?_))
      (ih fun other hother hextent => hitem other hother (by omega))
    · rw [List.append_assoc]
      exact hfront _
    · refine .bind (haccepts _ (.inr ⟨_, rfl⟩)).unit (.ahead (.no (hcomma _) ?_))
      exact (parses_op rfl).last .pure

/-- Items with commas between them are taken up to the end. -/
theorem commaSeparated (hcommas : Commas IsItem front)
    (hitem : ∀ piece, IsItem piece → extent piece ≤ extent front → piece ≠ [] ∧
      ∀ rest, FollowsPiece [] rest → Accepts item piece rest) :
    Parses (Reader.commaSeparated item) front [] () := by
  refine hcommas.separated (fun piece hpiece hextent => ?_) rfl fun _ => rfl
  obtain ⟨hnonempty, haccepts⟩ := hitem piece hpiece hextent
  refine ⟨hnonempty, fun rest => ?_, haccepts⟩
  obtain ⟨token, more, rfl⟩ := List.exists_cons_of_ne_nil hnonempty
  rfl

end Commas

end

end Grammar

end ServiceGen
