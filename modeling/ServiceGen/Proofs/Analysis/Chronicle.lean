import Mathlib.Data.List.Perm.Basic
import ServiceGen.Proofs.Analysis.Results
import ServiceGen.Proofs.Analysis.Schedule

/-!
The turns of a walk, taken one after the other. In a chronicle each node has its turn after all that
stand before it, and sees what they recorded. Nodes that do not require one another have the same
turns when all of them see what was recorded before the first, and may record in any order: this is
why the batches of a walk can be read as a single chronicle.
-/
namespace ServiceGen.Analysis

variable {ι υ ε κ : Type} {ρ : κ → Type}

/-- The run of the analyzer of a node, with the results that it could see. -/
structure Turn (ι ε : Type) {κ : Type} (ρ : κ → Type) where
  node : Node ι κ
  seen : Results ρ
  run : Run ε (Entry ρ)

namespace Turn

def kind (turn : Turn ι ε ρ) : κ := turn.node.kind

/-- A turn gives no result but one of its kind. -/
def Own (turn : Turn ι ε ρ) : Prop :=
  ∀ entry, turn.run.ending = .value entry → entry.1 = turn.kind

def Gave (turn : Turn ι ε ρ) (kind : κ) (result : ρ kind) : Prop :=
  turn.run.ending = .value ⟨kind, result⟩

def Failed (turn : Turn ι ε ρ) : Prop := ∀ entry, turn.run.ending ≠ .value entry

instance (turn : Turn ι ε ρ) : Decidable turn.Failed :=
  match hending : turn.run.ending with
  | .value entry => isFalse fun hfailed => hfailed entry hending
  | .failure _ => isTrue fun entry => by simp [hending]
  | .panic _ => isTrue fun entry => by simp [hending]

theorem Gave.not_failed {turn : Turn ι ε ρ} {kind : κ} {result : ρ kind}
    (h : turn.Gave kind result) : ¬ turn.Failed := fun hfailed => hfailed _ h

end Turn

namespace Walk

theorem record_of_value {run : Run ε (Entry ρ)} {entry : Entry ρ} [DecidableEq κ]
    (hvalue : run.ending = .value entry) (results : Results ρ) :
    record results run = results.insert entry.1 entry.2 := by
  rw [record, hvalue]

theorem record_of_failed {turn : Turn ι ε ρ} [DecidableEq κ] (hfailed : turn.Failed)
    (results : Results ρ) : record results turn.run = results := by
  unfold record
  split
  · next entry hvalue => exact absurd hvalue (hfailed entry)
  · rfl

theorem gave_or_failed (turn : Turn ι ε ρ) :
    (∃ kind result, turn.Gave kind result) ∨ turn.Failed := by
  cases hending : turn.run.ending with
  | value entry => exact .inl ⟨entry.1, entry.2, hending⟩
  | failure cause => exact .inr fun entry => by simp [hending]
  | panic message => exact .inr fun entry => by simp [hending]

section

variable [DecidableEq κ]

theorem get?_record_of_ne {turn : Turn ι ε ρ} (hown : turn.Own) {kind : κ}
    (hne : kind ≠ turn.kind) (results : Results ρ) :
    (record results turn.run).get? kind = results.get? kind := by
  rcases gave_or_failed turn with ⟨other, result, hgave⟩ | hfailed
  · have hother : other = turn.kind := hown _ hgave
    rw [record_of_value hgave]
    exact Results.get?_insert_of_ne _ _ (hother ▸ hne)
  · rw [record_of_failed hfailed]

theorem get?_record_self {turn : Turn ι ε ρ} (hown : turn.Own) {results : Results ρ}
    (hnone : results.get? turn.kind = none) (result : ρ turn.kind) :
    (record results turn.run).get? turn.kind = some result ↔ turn.Gave turn.kind result := by
  rcases gave_or_failed turn with ⟨other, found, hgave⟩ | hfailed
  · have hother : other = turn.kind := hown _ hgave
    subst hother
    rw [record_of_value hgave, Results.get?_insert_self, Turn.Gave, hgave]
    simp
  · rw [record_of_failed hfailed, hnone]
    exact ⟨fun h => absurd h (by simp), fun h => absurd h (hfailed _)⟩

theorem same_record {first second : Results ρ} (h : first.Same second) (run : Run ε (Entry ρ)) :
    (record first run).Same (record second run) := by
  unfold record
  split
  · exact h.insert _ _
  · exact h

/-- Turns of different kinds can record in either order. -/
theorem same_record_comm {turn other : Turn ι ε ρ} (hown : turn.Own) (hown' : other.Own)
    (hne : turn.kind ≠ other.kind) (results : Results ρ) :
    (record (record results turn.run) other.run).Same
      (record (record results other.run) turn.run) := by
  rcases gave_or_failed turn with ⟨kind, result, hgave⟩ | hfailed
  · rcases gave_or_failed other with ⟨kind', found, hgave'⟩ | hfailed
    · have hkind : kind = turn.kind := hown _ hgave
      have hkind' : kind' = other.kind := hown' _ hgave'
      have hdiffer : kind ≠ kind' := by
        rw [hkind, hkind']
        exact hne
      rw [record_of_value hgave, record_of_value hgave', record_of_value hgave',
        record_of_value hgave]
      exact Results.same_insert_comm _ hdiffer _ _
    · rw [record_of_failed hfailed, record_of_failed hfailed]
      exact .refl _
  · rw [record_of_failed hfailed, record_of_failed hfailed]
    exact .refl _

def replay (results : Results ρ) (turns : List (Turn ι ε ρ)) : Results ρ :=
  turns.foldl (fun results turn => record results turn.run) results

theorem replay_cons (results : Results ρ) (turn : Turn ι ε ρ) (rest : List (Turn ι ε ρ)) :
    replay results (turn :: rest) = replay (record results turn.run) rest := rfl

theorem replay_append (results : Results ρ) (turns more : List (Turn ι ε ρ)) :
    replay results (turns ++ more) = replay (replay results turns) more :=
  List.foldl_append

theorem same_replay {first second : Results ρ} (h : first.Same second)
    (turns : List (Turn ι ε ρ)) : (replay first turns).Same (replay second turns) := by
  induction turns generalizing first second with
  | nil => exact h
  | cons turn rest ih => exact ih (same_record h turn.run)

theorem get?_replay_of_notMem {turns : List (Turn ι ε ρ)} (hown : ∀ turn ∈ turns, turn.Own)
    {kind : κ} (hkind : kind ∉ turns.map Turn.kind) (results : Results ρ) :
    (replay results turns).get? kind = results.get? kind := by
  induction turns generalizing results with
  | nil => rfl
  | cons turn rest ih =>
    rw [List.map_cons, List.mem_cons, not_or] at hkind
    have hrest := ih (fun other hother => hown other (List.mem_cons_of_mem _ hother)) hkind.2
    rw [replay_cons, hrest, get?_record_of_ne (hown turn (List.mem_cons_self ..)) hkind.1]

/-- Turns of different kinds record the same in any order. -/
theorem same_replay_of_perm {turns turns' : List (Turn ι ε ρ)} (hperm : turns.Perm turns')
    (hown : ∀ turn ∈ turns, turn.Own) (hdistinct : (turns.map Turn.kind).Nodup)
    (results : Results ρ) : (replay results turns).Same (replay results turns') := by
  induction hperm generalizing results with
  | nil => exact .refl _
  | cons turn _ ih =>
    exact ih (fun other hother => hown other (List.mem_cons_of_mem _ hother))
      (List.nodup_cons.mp hdistinct).2 _
  | swap first second rest =>
    rw [replay_cons, replay_cons, replay_cons, replay_cons]
    apply same_replay
    apply same_record_comm (hown _ (by simp)) (hown _ (by simp))
    intro hsame
    exact (List.nodup_cons.mp hdistinct).1 (by simp [hsame])
  | trans hfirst _ ih ih' =>
    apply (ih hown hdistinct results).trans
    apply ih' (fun turn hturn => hown turn (hfirst.mem_iff.mpr hturn))
    exact (hfirst.map Turn.kind).nodup_iff.mp hdistinct

theorem get?_record_rest {turn : Turn ι ε ρ} {rest : List (Turn ι ε ρ)} (hown : turn.Own)
    (hdistinct : turn.kind ∉ rest.map Turn.kind) {results : Results ρ}
    (hnone : ∀ other ∈ turn :: rest, results.get? other.kind = none) :
    ∀ other ∈ rest, (record results turn.run).get? other.kind = none := by
  intro other hother
  have hne : other.kind ≠ turn.kind := fun hsame =>
    hdistinct (hsame ▸ List.mem_map_of_mem hother)
  rw [get?_record_of_ne hown hne]
  exact hnone other (List.mem_cons_of_mem _ hother)

/-- What is found after turns of different kinds was given in one of them, or was there before. -/
theorem get?_replay_iff {turns : List (Turn ι ε ρ)} (hown : ∀ turn ∈ turns, turn.Own)
    (hdistinct : (turns.map Turn.kind).Nodup) {results : Results ρ}
    (hnone : ∀ turn ∈ turns, results.get? turn.kind = none) (kind : κ) (result : ρ kind) :
    (replay results turns).get? kind = some result ↔
      (∃ turn ∈ turns, turn.Gave kind result) ∨ results.get? kind = some result := by
  induction turns generalizing results with
  | nil => simp [replay]
  | cons turn rest ih =>
    rw [List.map_cons, List.nodup_cons] at hdistinct
    have hself := hown turn (List.mem_cons_self ..)
    have hrest := get?_record_rest hself hdistinct.1 hnone
    have htail := ih (fun other hother => hown other (List.mem_cons_of_mem _ hother))
      hdistinct.2 hrest
    rw [replay_cons, htail]
    have hhead : (record results turn.run).get? kind = some result ↔
        turn.Gave kind result ∨ results.get? kind = some result := by
      by_cases hkind : kind = turn.kind
      · subst hkind
        have hbefore := hnone turn (List.mem_cons_self ..)
        rw [get?_record_self hself hbefore, hbefore]
        simp
      · rw [get?_record_of_ne hself hkind]
        have hnot : ¬ turn.Gave kind result := fun hgave => hkind (hself _ hgave)
        simp [hnot]
    rw [hhead]
    simp only [List.mem_cons, exists_eq_or_imp]
    rw [or_left_comm, or_assoc]

/-- Each turn of another kind that gave a result adds one. -/
theorem size_replay {turns : List (Turn ι ε ρ)} (hown : ∀ turn ∈ turns, turn.Own)
    (hdistinct : (turns.map Turn.kind).Nodup) {results : Results ρ}
    (hnone : ∀ turn ∈ turns, results.get? turn.kind = none) :
    (replay results turns).size + (turns.filter (·.Failed)).length =
      results.size + turns.length := by
  induction turns generalizing results with
  | nil => rfl
  | cons turn rest ih =>
    rw [List.map_cons, List.nodup_cons] at hdistinct
    have hself := hown turn (List.mem_cons_self ..)
    have hrest := ih (fun other hother => hown other (List.mem_cons_of_mem _ hother))
      hdistinct.2 (get?_record_rest hself hdistinct.1 hnone)
    rw [replay_cons, List.length_cons]
    rcases gave_or_failed turn with ⟨kind, result, hgave⟩ | hfailed
    · have hkind : kind = turn.kind := hself _ hgave
      have hbefore : results.get? kind = none := by
        rw [hkind]
        exact hnone turn (List.mem_cons_self ..)
      rw [record_of_value hgave, Results.size_insert hbefore] at hrest
      rw [record_of_value hgave, List.filter_cons_of_neg (by simpa using hgave.not_failed), hrest]
      omega
    · rw [record_of_failed hfailed] at hrest ⊢
      rw [List.filter_cons_of_pos (by simpa using hfailed), List.length_cons]
      omega

/-- The turn of a node that sees what it requires of the recorded results. -/
def turn (catalog : Catalog ι υ ε ρ) (nodes : List (Node ι κ)) (unit : υ) (recorded : Results ρ)
    (node : Node ι κ) : Turn ι ε ρ :=
  ⟨node, view nodes recorded node, runOf catalog unit node (view nodes recorded node)⟩

/-- The turns of some nodes, each of which sees what was recorded by those before it. -/
def chronicle (catalog : Catalog ι υ ε ρ) (nodes : List (Node ι κ)) (unit : υ) :
    Results ρ → List (Node ι κ) → List (Turn ι ε ρ)
  | _, [] => []
  | recorded, node :: rest =>
    turn catalog nodes unit recorded node ::
      chronicle catalog nodes unit (record recorded (turn catalog nodes unit recorded node).run)
        rest

variable {catalog : Catalog ι υ ε ρ} {nodes : List (Node ι κ)} {unit : υ}

theorem own_turn {node : Node ι κ} (hfaithful : Discovery.Faithful catalog node)
    (recorded : Results ρ) : (turn catalog nodes unit recorded node).Own := by
  intro entry hvalue
  simp only [turn, runOf, Run.map] at hvalue
  split at hvalue
  · injection hvalue with hvalue
    rw [← hvalue]
    exact hfaithful.1.symm
  · exact absurd hvalue (by simp)
  · exact absurd hvalue (by simp)

/-- A turn depends on nothing but the results that its node requires. -/
theorem turn_congr {node : Node ι κ} {first second : Results ρ}
    (hsame : ∀ kind ∈ required nodes node, first.get? kind = second.get? kind) :
    turn catalog nodes unit first node = turn catalog nodes unit second node := by
  have hview : view nodes first node = view nodes second node := Results.restrict_congr hsame
  rw [turn, turn, hview]

theorem own_of_mem_chronicle {list : List (Node ι κ)}
    (hfaithful : ∀ node ∈ list, Discovery.Faithful catalog node) {recorded : Results ρ}
    {other : Turn ι ε ρ} (hother : other ∈ chronicle catalog nodes unit recorded list) :
    other.Own := by
  induction list generalizing recorded with
  | nil => simp [chronicle] at hother
  | cons node rest ih =>
    rcases List.mem_cons.mp hother with rfl | hother
    · exact own_turn (hfaithful node (List.mem_cons_self ..)) recorded
    · exact ih (fun node hnode => hfaithful node (List.mem_cons_of_mem _ hnode)) hother

theorem chronicle_append (recorded : Results ρ) (list more : List (Node ι κ)) :
    chronicle catalog nodes unit recorded (list ++ more) =
      chronicle catalog nodes unit recorded list ++
        chronicle catalog nodes unit
          (replay recorded (chronicle catalog nodes unit recorded list)) more := by
  induction list generalizing recorded with
  | nil => rfl
  | cons node rest ih =>
    rw [List.cons_append, chronicle, chronicle, ih, List.cons_append, replay_cons]

/-- Nodes of which none requires another all have the turns that they would have first. -/
theorem chronicle_of_free {list : List (Node ι κ)}
    (hfaithful : ∀ node ∈ list, Discovery.Faithful catalog node)
    (hfree : ∀ node ∈ list, ∀ kind ∈ required nodes node, kind ∉ list.map Node.kind)
    (recorded : Results ρ) :
    chronicle catalog nodes unit recorded list =
      list.map (turn catalog nodes unit recorded) := by
  induction list generalizing recorded with
  | nil => rfl
  | cons node rest ih =>
    rw [chronicle, List.map_cons, ih]
    · congr 1
      apply List.map_congr_left
      intro other hother
      apply turn_congr
      intro kind hkind
      have hne : kind ≠ node.kind := fun hsame =>
        hfree other (List.mem_cons_of_mem _ hother) kind hkind (by simp [hsame])
      exact get?_record_of_ne (own_turn (hfaithful node (List.mem_cons_self ..)) recorded) hne _
    · exact fun other hother => hfaithful other (List.mem_cons_of_mem _ hother)
    · intro other hother kind hkind hmem
      exact hfree other (List.mem_cons_of_mem _ hother) kind hkind (List.mem_cons_of_mem _ hmem)

end

section

variable [Explained ε]

/-- What some turns amount to, apart from their results. -/
def tally (options : WalkOptions) (account : Account ε) (turns : List (Turn ι ε ρ)) :
    Account ε :=
  turns.foldl (fun account turn => account.note options turn.node.name turn.run) account

theorem tally_append (options : WalkOptions) (account : Account ε)
    (turns more : List (Turn ι ε ρ)) :
    tally options account (turns ++ more) = tally options (tally options account turns) more :=
  List.foldl_append

theorem note_congr {first second : WalkOptions}
    (hmode : first.continueOnError = second.continueOnError) (account : Account ε) (name : String)
    {α : Type} (run : Run ε α) :
    account.note first name run = account.note second name run := by
  simp only [Account.note, Account.fail, hmode]

/-- How many analyzers may run at the same time has no part in the account. -/
theorem tally_congr {first second : WalkOptions}
    (hmode : first.continueOnError = second.continueOnError) (account : Account ε)
    (turns : List (Turn ι ε ρ)) : tally first account turns = tally second account turns := by
  apply List.foldl_ext
  intro account turn _
  exact note_congr hmode account turn.node.name turn.run

/-- The first failure that ends a walk stays the one that ended it. -/
theorem error_note (options : WalkOptions) {account : Account ε}
    {error : WalkError ε} (herror : account.error = some error) (name : String) {α : Type}
    (run : Run ε α) : (account.note options name run).error = some error := by
  unfold Account.note
  dsimp only
  split
  · exact herror
  · unfold Account.fail
    split
    · exact herror
    · simp [herror]

theorem error_tally (options : WalkOptions) {account : Account ε}
    {error : WalkError ε} (herror : account.error = some error) (turns : List (Turn ι ε ρ)) :
    (tally options account turns).error = some error := by
  induction turns generalizing account with
  | nil => exact herror
  | cons turn rest ih => exact ih (error_note options herror turn.node.name turn.run)

/-- A turn that does not end the walk leaves the name of its analyzer if it failed. -/
theorem failed_note (options : WalkOptions) {account : Account ε} {turn : Turn ι ε ρ}
    (hnone : (account.note options turn.node.name turn.run).error = none) :
    (account.note options turn.node.name turn.run).failed =
      account.failed ++ if turn.Failed then [turn.node.name] else [] := by
  unfold Account.note Account.errorOf? at hnone ⊢
  dsimp only at hnone ⊢
  rcases gave_or_failed turn with ⟨kind, result, hgave⟩ | hfailed
  · rw [if_neg hgave.not_failed]
    have hending : turn.run.ending = .value ⟨kind, result⟩ := hgave
    simp [hending]
  · rw [if_pos hfailed]
    cases hending : turn.run.ending with
    | value entry => exact absurd hending (hfailed entry)
    | failure cause =>
      simp only [hending, Account.fail] at hnone ⊢
      split at hnone
      · next hcontinue => simp [hcontinue, WalkError.analyzer]
      · exact absurd hnone (by simp)
    | panic message =>
      simp only [hending, Account.fail] at hnone ⊢
      split at hnone
      · next hcontinue => simp [hcontinue, WalkError.analyzer]
      · exact absurd hnone (by simp)

theorem failed_tally (options : WalkOptions) {account : Account ε} {turns : List (Turn ι ε ρ)}
    (hnone : (tally options account turns).error = none) :
    (tally options account turns).failed =
      account.failed ++ (turns.filter (·.Failed)).map (·.node.name) := by
  induction turns generalizing account with
  | nil => simp [tally]
  | cons turn rest ih =>
    have htail : (tally options (account.note options turn.node.name turn.run) rest).error = none :=
      hnone
    have hnote : (account.note options turn.node.name turn.run).error = none := by
      by_contra hsome
      obtain ⟨error, herror⟩ := Option.ne_none_iff_exists'.mp hsome
      rw [error_tally options herror] at htail
      exact absurd htail (by simp)
    change (tally options (account.note options turn.node.name turn.run) rest).failed = _
    rw [ih htail, failed_note options hnote]
    by_cases h : turn.Failed
    · simp [h]
    · simp [h]

end

end Walk

end ServiceGen.Analysis
