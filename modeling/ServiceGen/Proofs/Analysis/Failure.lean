import ServiceGen.Proofs.Analysis.Outcome

/-!
Walks that end with their first failure, and walks that go on. As long as nothing fails the two are
the same. The failure that ends the one is the first that the other takes note of, and what it says
of its analyzer is among the diagnostics of the other.
-/
namespace ServiceGen.Analysis

variable {ι υ ε κ : Type} {ρ : κ → Type} [Explained ε]

/-- The diagnostic that a failure becomes in a walk that goes on. -/
def WalkError.diagnostic (error : WalkError ε) : Diagnostic :=
  ⟨.error, none, error.explanation, error.analyzer⟩

namespace Account

variable {α : Type} {stopping going : Account ε}

/-- A run that did not fail adds its reports, whether or not the walk would go on. -/
theorem note_of_none (options : WalkOptions) (account : Account ε) {name : String} {run : Run ε α}
    (hnone : errorOf? name run = none) :
    account.note options name run =
      { account with diagnostics := account.diagnostics ++ diagnosticsOf name run } := by
  simp only [note, hnone]

/-- A failure ends a walk that is not to go on, unless an earlier one has ended it. -/
theorem note_stopping (parallelism : Nat) (account : Account ε) {name : String} {run : Run ε α}
    {error : WalkError ε} (herror : errorOf? name run = some error) :
    account.note ⟨parallelism, false⟩ name run =
      { account with
        diagnostics := account.diagnostics ++ diagnosticsOf name run
        error := account.error <|> some error } := by
  simp only [note, herror, fail, Bool.false_eq_true, if_false]

/-- What a run adds to a walk that goes on: its reports and, if it failed, one more diagnostic and
the name of its analyzer. -/
theorem note_going (parallelism : Nat) (account : Account ε) (name : String) (run : Run ε α) :
    account.note ⟨parallelism, true⟩ name run =
      { diagnostics := account.diagnostics ++ (diagnosticsOf name run ++
          ((errorOf? name run).map WalkError.diagnostic).toList)
        failed := account.failed ++ ((errorOf? name run).map WalkError.analyzer).toList
        error := account.error } := by
  cases herror : errorOf? name run with
  | none => simp [note_of_none _ account herror]
  | some error => simp [note, herror, fail, WalkError.diagnostic]

/-- The account of a walk that goes on, beside that of one that ends with its first failure. -/
structure Mirrors (stopping going : Account ε) : Prop where
  /-- Nothing ends the walk that goes on. -/
  goes : going.error = none
  same : stopping.error = none → going = stopping ∧ going.failed = []
  first : ∀ error, stopping.error = some error →
    going.failed.head? = some error.analyzer ∧ error.diagnostic ∈ going.diagnostics

namespace Mirrors

theorem start : Mirrors (.start : Account ε) .start where
  goes := rfl
  same _ := ⟨rfl, rfl⟩
  first _ herror := absurd herror (by simp [Account.start])

/-- After the failure that ended the one, nothing that the other takes note of comes first. -/
theorem note_of_some (h : Mirrors stopping going) {error : WalkError ε}
    (herror : stopping.error = some error) (parallelism : Nat) (name : String) (run : Run ε α) :
    Mirrors stopping (going.note ⟨parallelism, true⟩ name run) := by
  rw [note_going]
  refine ⟨h.goes, fun hnone => absurd hnone (by simp [herror]), ?_⟩
  intro error' herror'
  obtain ⟨hhead, hmem⟩ := h.first error' herror'
  refine ⟨?_, List.mem_append_left _ hmem⟩
  rw [List.head?_append, hhead, Option.some_or]

theorem note (h : Mirrors stopping going) (parallelism : Nat) (name : String) (run : Run ε α) :
    Mirrors (stopping.note ⟨parallelism, false⟩ name run)
      (going.note ⟨parallelism, true⟩ name run) := by
  cases hfailed : errorOf? name run with
  | none =>
    rw [note_of_none _ _ hfailed, note_of_none _ _ hfailed]
    refine ⟨h.goes, ?_, ?_⟩
    · intro hnone
      obtain ⟨hsame, hempty⟩ := h.same hnone
      exact ⟨by rw [hsame], hempty⟩
    · intro error herror
      obtain ⟨hhead, hmem⟩ := h.first error herror
      exact ⟨hhead, List.mem_append_left _ hmem⟩
  | some error =>
    rw [note_stopping parallelism stopping hfailed]
    cases hended : stopping.error with
    | some earlier =>
      have hmirrors := h.note_of_some hended parallelism name run
      refine ⟨hmirrors.goes, fun hnone => absurd hnone (by simp), ?_⟩
      intro error' herror'
      exact hmirrors.first error' (hended.trans herror')
    | none =>
      obtain ⟨-, hempty⟩ := h.same hended
      rw [note_going, hfailed, hempty]
      refine ⟨h.goes, fun hnone => absurd hnone (by simp), ?_⟩
      rintro error' herror'
      obtain rfl : error = error' := by simpa using herror'
      simp

end Mirrors

end Account

/-- The diagnostics that a turn adds to a walk that goes on: its reports, and its failure. -/
def Turn.diagnostics (turn : Turn ι ε ρ) : List Diagnostic :=
  Account.diagnosticsOf turn.node.name turn.run ++
    ((Account.errorOf? turn.node.name turn.run).map WalkError.diagnostic).toList

namespace Walk

variable {stopping going : Walk ε ρ}

/-- What some turns add to a walk that goes on. -/
theorem tally_going (parallelism : Nat) (account : Account ε) (turns : List (Turn ι ε ρ)) :
    (tally ⟨parallelism, true⟩ account turns).error = account.error ∧
      (tally ⟨parallelism, true⟩ account turns).diagnostics =
        account.diagnostics ++ turns.flatMap Turn.diagnostics := by
  induction turns generalizing account with
  | nil => simp [tally]
  | cons turn rest ih =>
    have hnote := Account.note_going parallelism account turn.node.name turn.run
    obtain ⟨herror, hdiagnostics⟩ :=
      ih (account.note ⟨parallelism, true⟩ turn.node.name turn.run)
    refine ⟨herror.trans (by rw [hnote]), hdiagnostics.trans ?_⟩
    rw [hnote, List.flatMap_cons, Turn.diagnostics]
    exact List.append_assoc _ _ _

theorem mirrors_tally_of_some {stopping going : Account ε} (h : stopping.Mirrors going)
    {error : WalkError ε} (herror : stopping.error = some error) (parallelism : Nat)
    (turns : List (Turn ι ε ρ)) :
    stopping.Mirrors (tally ⟨parallelism, true⟩ going turns) := by
  induction turns generalizing going with
  | nil => exact h
  | cons turn rest ih => exact ih (h.note_of_some herror parallelism turn.node.name turn.run)

theorem mirrors_tally {stopping going : Account ε} (h : stopping.Mirrors going) (parallelism : Nat)
    (turns : List (Turn ι ε ρ)) :
    (tally ⟨parallelism, false⟩ stopping turns).Mirrors
      (tally ⟨parallelism, true⟩ going turns) := by
  induction turns generalizing stopping going with
  | nil => exact h
  | cons turn rest ih => exact ih (h.note parallelism turn.node.name turn.run)

/-- A walk that goes on, beside one that ends with its first failure. -/
structure Mirrors (stopping going : Walk ε ρ) : Prop where
  account : stopping.account.Mirrors going.account
  same : stopping.account.error = none → going = stopping

section

variable [DecidableEq κ]

/-- What a batch comes to in a walk that was not ended. -/
theorem batch_of_none (catalog : Catalog ι υ ε ρ) (nodes : List (Node ι κ)) (unit : υ)
    (options : WalkOptions) {walk : Walk ε ρ} (hnone : walk.account.error = none)
    (batch : List (Node ι κ)) :
    Walk.batch catalog nodes unit options walk batch =
      { visits := walk.visits ++
          batch.map fun node => ⟨node.kind, view nodes walk.results node⟩
        results := replay walk.results (batch.map (turn catalog nodes unit walk.results))
        account := tally options walk.account
          (batch.map (turn catalog nodes unit walk.results)) } := by
  rw [Walk.batch, hnone, Option.isSome_none, if_neg Bool.false_ne_true, Moment.foldl_visit]

theorem Mirrors.batch (h : Mirrors stopping going) (catalog : Catalog ι υ ε ρ)
    (nodes : List (Node ι κ)) (unit : υ) (parallelism : Nat) (batch : List (Node ι κ)) :
    Mirrors (Walk.batch catalog nodes unit ⟨parallelism, false⟩ stopping batch)
      (Walk.batch catalog nodes unit ⟨parallelism, true⟩ going batch) := by
  rw [batch_of_none _ _ _ _ h.account.goes]
  cases herror : stopping.account.error with
  | some error =>
    rw [Walk.batch, if_pos (by simp [herror])]
    refine ⟨mirrors_tally_of_some h.account herror parallelism _, ?_⟩
    intro hnone
    exact absurd hnone (by simp [herror])
  | none =>
    obtain rfl : going = stopping := h.same herror
    rw [batch_of_none _ _ _ _ herror]
    have htally := mirrors_tally h.account parallelism
      (batch.map (turn catalog nodes unit going.results))
    refine ⟨htally, fun hnone => ?_⟩
    rw [(htally.same hnone).1]

theorem Mirrors.batches (h : Mirrors stopping going) (catalog : Catalog ι υ ε ρ)
    (nodes : List (Node ι κ)) (unit : υ) (parallelism : Nat) (batches : List (List (Node ι κ))) :
    Mirrors (batches.foldl (Walk.batch catalog nodes unit ⟨parallelism, false⟩) stopping)
      (batches.foldl (Walk.batch catalog nodes unit ⟨parallelism, true⟩) going) := by
  induction batches generalizing stopping going with
  | nil => exact h
  | cons batch rest ih => exact ih (h.batch catalog nodes unit parallelism batch)

end

end Walk

namespace Graph

variable [DecidableEq κ]

theorem mirrors_walk (graph : Graph ι κ) (catalog : Catalog ι υ ε ρ) (unit : υ)
    (parallelism : Nat) :
    (graph.walk catalog unit ⟨parallelism, false⟩).Mirrors
      (graph.walk catalog unit ⟨parallelism, true⟩) :=
  Walk.Mirrors.batches ⟨.start, fun _ => rfl⟩ catalog graph.nodes unit parallelism _

/-- A walk that goes on always leaves an outcome. It has no failures exactly if the walk that ends
with its first failure leaves an outcome as well, which is then the same. If that walk is ended by a
failure, the analyzer of this failure is the first of those that failed, and the chain of its
causes, or the text with which it was broken off, is among the diagnostics. -/
theorem modes_agree (graph : Graph ι κ) (catalog : Catalog ι υ ε ρ) (unit : υ)
    (parallelism : Nat) :
    ∃ outcome, graph.execute catalog unit ⟨parallelism, true⟩ = .ok outcome ∧
      (outcome.failed = [] ↔
        ∃ other, graph.execute catalog unit ⟨parallelism, false⟩ = .ok other) ∧
      (∀ other, graph.execute catalog unit ⟨parallelism, false⟩ = .ok other → outcome = other) ∧
      (∀ name cause,
        graph.execute catalog unit ⟨parallelism, false⟩ = .error (.failure name cause) →
        outcome.failed.head? = some name ∧
          ⟨.error, none, String.intercalate ": " (Explained.reasons cause), name⟩ ∈
            outcome.diagnostics) ∧
      ∀ name text,
        graph.execute catalog unit ⟨parallelism, false⟩ = .error (.panic name text) →
        outcome.failed.head? = some name ∧
          ⟨.error, none, "panicked: " ++ text, name⟩ ∈ outcome.diagnostics := by
  have h := graph.mirrors_walk catalog unit parallelism
  refine ⟨_, Walk.outcome_of_none h.account.goes, ?_⟩
  unfold execute
  cases herror : (graph.walk catalog unit ⟨parallelism, false⟩).account.error with
  | none =>
    have hnone := (h.account.same herror).2
    rw [Walk.outcome_of_none herror, h.same herror]
    rw [h.same herror] at hnone
    refine ⟨⟨fun _ => ⟨_, rfl⟩, fun _ => hnone⟩, ?_, ?_, ?_⟩
    · intro other hother
      exact Except.ok.inj hother
    · intro name cause hfailure
      exact absurd hfailure (by simp)
    · intro name text hpanic
      exact absurd hpanic (by simp)
  | some error =>
    obtain ⟨hhead, hmem⟩ := h.account.first error herror
    rw [Walk.outcome_of_error herror]
    refine ⟨⟨?_, ?_⟩, ?_, ?_, ?_⟩
    · intro hempty
      change (graph.walk catalog unit ⟨parallelism, true⟩).account.failed = [] at hempty
      rw [hempty] at hhead
      exact absurd hhead (by simp)
    · rintro ⟨other, hother⟩
      exact absurd hother (by simp)
    · intro other hother
      exact absurd hother (by simp)
    · rintro name cause hfailure
      obtain rfl := Except.error.inj hfailure
      exact ⟨hhead, hmem⟩
    · rintro name text hpanic
      obtain rfl := Except.error.inj hpanic
      exact ⟨hhead, hmem⟩

/-- Analyzers that count, double the count, and raise an alarm, which silence does in its place. -/
inductive Duty where
  | count
  | double
  | alarm
  | silence
  deriving DecidableEq

def duty : (duty : Duty) → Analyzer Duty Nat String fun _ : Duty => Nat
  | .count =>
    { kind := .count
      name := "count"
      requires := []
      run := fun pass =>
        if pass.unit = 0 then ⟨[], .failure "nothing to count"⟩ else ⟨[], .value pass.unit⟩ }
  | .double =>
    { kind := .double
      name := "double"
      requires := [.count]
      run := fun pass =>
        ⟨[⟨.warning, none, "doubling"⟩], match pass.resultOf .count with
          | some count => .value (2 * count)
          | none => .failure (pass.missing "count")⟩ }
  | .alarm =>
    { kind := .alarm
      name := "alarm"
      requires := []
      run := fun _ => ⟨[], .panic (some "fire")⟩ }
  | .silence =>
    { kind := .alarm
      name := "silence"
      requires := []
      run := fun pass => ⟨[], .value pass.unit⟩ }

def duties : Catalog Duty Nat String fun _ : Duty => Nat where
  analyzer := duty
  kinds := [.count, .double, .alarm]
  complete i := by cases i <;> decide

/-- The alarm and the count stand in one layer. -/
def alarmed : Graph Duty Duty :=
  ⟨[⟨.double, .double, "double", [2]⟩, ⟨.alarm, .alarm, "alarm", []⟩,
    ⟨.count, .count, "count", []⟩], [[1, 2], [0]]⟩

theorem build_alarmed : build duties [.double, .alarm] = .ok alarmed := by cbv

/-- The alarm and the count fail in one batch, and what requires the count fails after them. -/
theorem alarmed_modes_agree :
    alarmed.execute duties 0 ⟨2, false⟩ = .error (.panic "alarm" "fire") ∧
      ∃ outcome, alarmed.execute duties 0 ⟨2, true⟩ = .ok outcome ∧
        outcome.failed.head? = some "alarm" ∧
        ⟨.error, none, "panicked: " ++ "fire", "alarm"⟩ ∈ outcome.diagnostics := by
  have hended : alarmed.execute duties 0 ⟨2, false⟩ = .error (.panic "alarm" "fire") := by cbv
  obtain ⟨outcome, houtcome, -, -, -, hpanic⟩ := modes_agree alarmed duties 0 2
  obtain ⟨hhead, hmem⟩ := hpanic "alarm" "fire" hended
  exact ⟨hended, outcome, houtcome, hhead, hmem⟩

end Graph

end ServiceGen.Analysis
