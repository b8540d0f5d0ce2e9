import ServiceGen.Analysis.Graph

/-!
Walking a graph for one unit. The layers run one after the other, each in batches of as many
analyzers as may run at the same time. All analyzers of a batch see what was recorded before the
batch; since none of them requires another, this is all that they may see.

A failure ends the walk with its batch, unless the walk is to go on: then it becomes a diagnostic,
and those that require the analyzer find no result.
-/
namespace ServiceGen.Analysis

structure WalkOptions where
  /-- How many analyzers may run at the same time. None counts as one. -/
  parallelism : Nat
  /-- Whether the walk goes on after a failure. -/
  continueOnError : Bool
  deriving Repr, DecidableEq

inductive WalkError (ε : Type) where
  | failure (analyzer : String) (cause : ε)
  | panic (analyzer : String) (message : String)
  deriving Repr

namespace WalkError

variable {ε : Type} [Explained ε]

/-- The name of the analyzer that ended the walk. -/
def analyzer : WalkError ε → String
  | .failure analyzer _ => analyzer
  | .panic analyzer _ => analyzer

def message : WalkError ε → String
  | .failure analyzer _ => "analyzer `" ++ analyzer ++ "` failed"
  | .panic analyzer message => "analyzer `" ++ analyzer ++ "` panicked: " ++ message

/-- The texts of the error, from the walk to the innermost cause. -/
def reasons (error : WalkError ε) : List String :=
  error.message :: match error with
    | .failure _ cause => Explained.reasons cause
    | .panic .. => []

/-- What the error says of the analyzer alone. -/
def explanation : WalkError ε → String
  | .failure _ cause => String.intercalate ": " (Explained.reasons cause)
  | .panic _ message => "panicked: " ++ message

end WalkError

/-- The run of an analyzer in a walk. -/
structure Visit {κ : Type} (ρ : κ → Type) where
  kind : κ
  /-- The results that the analyzer could see. -/
  seen : Results ρ

/-- What the runs of a walk amount to, apart from their results. -/
structure Account (ε : Type) where
  diagnostics : List Diagnostic
  /-- The names of the analyzers that failed without ending the walk. -/
  failed : List String
  /-- The first failure that ended the walk. -/
  error : Option (WalkError ε)

structure Walk (ε : Type) {κ : Type} (ρ : κ → Type) where
  /-- The analyzers that ran, in order. -/
  visits : List (Visit ρ)
  results : Results ρ
  account : Account ε

/-- What a walk leaves that came to its end. -/
structure Outcome {κ : Type} (ρ : κ → Type) where
  results : Results ρ
  diagnostics : List Diagnostic
  failed : List String

namespace Account

variable {ε α : Type}

def start : Account ε := ⟨[], [], none⟩

def fail [Explained ε] (options : WalkOptions) (account : Account ε) (error : WalkError ε) :
    Account ε :=
  if options.continueOnError then
    { account with
      diagnostics := account.diagnostics ++ [⟨.error, none, error.explanation, error.analyzer⟩]
      failed := account.failed ++ [error.analyzer] }
  else { account with error := account.error <|> some error }

def panicText (message : Option String) : String := message.getD "non-string panic payload"

/-- The reports of a run that count, as diagnostics. Those of a run that was broken off are lost. -/
def diagnosticsOf (name : String) (run : Run ε α) : List Diagnostic :=
  match run.ending with
  | .panic _ => []
  | _ => run.reports.map (·.by name)

def errorOf? (name : String) (run : Run ε α) : Option (WalkError ε) :=
  match run.ending with
  | .value _ => none
  | .failure cause => some (.failure name cause)
  | .panic message => some (.panic name (panicText message))

def note [Explained ε] (options : WalkOptions) (account : Account ε) (name : String)
    (run : Run ε α) : Account ε :=
  let account := { account with diagnostics := account.diagnostics ++ diagnosticsOf name run }
  match errorOf? name run with
  | none => account
  | some error => fail options account error

end Account

namespace Walk

variable {ι υ ε κ : Type} {ρ : κ → Type}

def start : Walk ε ρ := ⟨[], .empty, .start⟩

section

variable [DecidableEq κ] [Explained ε]

def required (nodes : List (Node ι κ)) (node : Node ι κ) : List κ :=
  (node.deps.filterMap (nodes[·]?)).map Node.kind

def view (nodes : List (Node ι κ)) (recorded : Results ρ) (node : Node ι κ) : Results ρ :=
  recorded.restrict (required nodes node)

/-- The run of the analyzer of a node that sees the given results. A result comes with its kind. -/
def runOf (catalog : Catalog ι υ ε ρ) (unit : υ) (node : Node ι κ) (seen : Results ρ) :
    Run ε (Entry ρ) :=
  let analyzer := catalog.analyzer node.analyzer
  (analyzer.run ⟨unit, node.name, seen⟩).map fun result => ⟨analyzer.kind, result⟩

/-- The results after a run. A run that failed leaves them as they were. -/
def record (results : Results ρ) (run : Run ε (Entry ρ)) : Results ρ :=
  match run.ending with
  | .value entry => results.insert entry.1 entry.2
  | _ => results

/-- Runs an analyzer that sees the given results, and takes note of what comes of it. -/
def visit (catalog : Catalog ι υ ε ρ) (nodes : List (Node ι κ)) (unit : υ) (options : WalkOptions)
    (recorded : Results ρ) (walk : Walk ε ρ) (node : Node ι κ) : Walk ε ρ :=
  let seen := view nodes recorded node
  let run := runOf catalog unit node seen
  { visits := walk.visits ++ [⟨node.kind, seen⟩]
    results := record walk.results run
    account := walk.account.note options node.name run }

/-- Runs the analyzers of a batch, unless the walk has ended. -/
def batch (catalog : Catalog ι υ ε ρ) (nodes : List (Node ι κ)) (unit : υ) (options : WalkOptions)
    (walk : Walk ε ρ) (batch : List (Node ι κ)) : Walk ε ρ :=
  if walk.account.error.isSome then walk
  else batch.foldl (visit catalog nodes unit options walk.results) walk

end

/-- Cuts a list into pieces of the given length, the last of which may be shorter. -/
def pieces {α : Type} (length : Nat) (positive : 0 < length) : List α → List (List α)
  | [] => []
  | a :: rest =>
    (a :: rest).take length :: pieces length positive ((a :: rest).drop length)
termination_by list => list.length
decreasing_by simp only [List.length_drop, List.length_cons]; omega

def batches (graph : Graph ι κ) (options : WalkOptions) : List (List (Node ι κ)) :=
  (graph.layers.map (·.filterMap (graph.nodes[·]?))).flatMap
    (pieces (max 1 options.parallelism) (by omega))

/-- What came of a walk in the end. -/
def outcome (walk : Walk ε ρ) : Except (WalkError ε) (Outcome ρ) :=
  match walk.account.error with
  | some error => .error error
  | none => .ok ⟨walk.results, walk.account.diagnostics, walk.account.failed⟩

end Walk

namespace Graph

variable {ι υ ε κ : Type} {ρ : κ → Type} [DecidableEq κ] [Explained ε]

def walk (graph : Graph ι κ) (catalog : Catalog ι υ ε ρ) (unit : υ) (options : WalkOptions) :
    Walk ε ρ :=
  (Walk.batches graph options).foldl (Walk.batch catalog graph.nodes unit options) .start

/-- Runs every analyzer of a graph once for a unit. -/
def execute (graph : Graph ι κ) (catalog : Catalog ι υ ε ρ) (unit : υ) (options : WalkOptions) :
    Except (WalkError ε) (Outcome ρ) :=
  (graph.walk catalog unit options).outcome

end Graph

end ServiceGen.Analysis
