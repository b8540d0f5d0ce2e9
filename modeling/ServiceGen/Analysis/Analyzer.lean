import ServiceGen.Diagnostic

/-!
Analyzers. An analyzer looks at one unit, reads the results of the analyzers that it requires, and
gives a result of its own. Analyzers are told apart by their kind: several of one kind may be
named, with different behaviour, and of these only one takes part.
-/
namespace ServiceGen.Analysis

/-- A result with the kind of the analyzer that it comes from. -/
abbrev Entry {κ : Type} (ρ : κ → Type) : Type := (kind : κ) × ρ kind

/-- The results of analyzers, by kind. A kind has at most one. -/
structure Results {κ : Type} (ρ : κ → Type) where
  entries : List (Entry ρ)
  distinct : (entries.map Sigma.fst).Nodup

namespace Results

variable {κ : Type} {ρ : κ → Type}

def empty : Results ρ := ⟨[], List.nodup_nil⟩

variable [DecidableEq κ]

def lookup (kind : κ) : List (Entry ρ) → Option (ρ kind)
  | [] => none
  | ⟨other, result⟩ :: rest =>
    if same : other = kind then some (same ▸ result) else lookup kind rest

def get? (results : Results ρ) (kind : κ) : Option (ρ kind) := lookup kind results.entries

/-- The number of kinds that have a result. -/
def size (results : Results ρ) : Nat := results.entries.length

def others (results : Results ρ) (kind : κ) : List (Entry ρ) :=
  results.entries.filter fun entry => entry.1 ≠ kind

/-- No kind stands twice in an entry behind those of other kinds. -/
theorem distinct_insert (results : Results ρ) (kind : κ) (result : ρ kind) :
    ((results.others kind ++ [(⟨kind, result⟩ : Entry ρ)]).map Sigma.fst).Nodup := by
  have hothers : ((results.others kind).map Sigma.fst).Nodup :=
    results.distinct.sublist (List.filter_sublist.map Sigma.fst)
  rw [List.map_append, List.nodup_append]
  refine ⟨hothers, by simp, ?_⟩
  intro other hother last hlast
  obtain ⟨entry, hentry, rfl⟩ := List.mem_map.mp hother
  simp only [List.map_cons, List.map_nil, List.mem_singleton] at hlast
  subst hlast
  simpa using (List.mem_filter.mp hentry).2

/-- Records a result in place of an earlier one of its kind. -/
def insert (results : Results ρ) (kind : κ) (result : ρ kind) : Results ρ :=
  ⟨results.others kind ++ [⟨kind, result⟩], distinct_insert results kind result⟩

def collect (results collected : Results ρ) (kind : κ) : Results ρ :=
  match results.get? kind with
  | some result => collected.insert kind result
  | none => collected

/-- The results of the given kinds only, in the order of the kinds. -/
def restrict (results : Results ρ) (kinds : List κ) : Results ρ :=
  kinds.foldl results.collect empty

end Results

/-- What an analyzer sees while it runs: the unit, and the results of what it requires. -/
structure Pass (υ : Type) {κ : Type} (ρ : κ → Type) where
  unit : υ
  /-- The name of the analyzer. -/
  analyzer : String
  results : Results ρ

namespace Pass

variable {υ κ : Type} {ρ : κ → Type} [DecidableEq κ]

/-- The result of a kind, unless its analyzer failed or is not required. -/
def resultOf (pass : Pass υ ρ) (kind : κ) : Option (ρ kind) := pass.results.get? kind

def missing (pass : Pass υ ρ) (label : String) : String :=
  "analyzer `" ++ pass.analyzer ++ "` has no result from `" ++ label ++ "`"

end Pass

/-- A diagnostic that does not say yet which analyzer it comes from. -/
structure Report where
  severity : Severity
  location : Option Location
  message : String
  deriving Repr, DecidableEq

def Report.by (report : Report) (analyzer : String) : Diagnostic :=
  ⟨report.severity, report.location, report.message, analyzer⟩

/-- How the run of an analyzer ends. -/
inductive Ending (ε α : Type) where
  | value (result : α)
  | failure (cause : ε)
  /-- The run is broken off, with a text if there is one. -/
  | panic (message : Option String)

structure Run (ε α : Type) where
  reports : List Report
  ending : Ending ε α

/-- The run with another form of its result. -/
def Run.map {ε α β : Type} (run : Run ε α) (f : α → β) : Run ε β :=
  { reports := run.reports
    ending := match run.ending with
      | .value result => .value (f result)
      | .failure cause => .failure cause
      | .panic message => .panic message }

structure Analyzer (ι υ ε : Type) {κ : Type} (ρ : κ → Type) where
  kind : κ
  name : String
  requires : List ι
  run : Pass υ ρ → Run ε (ρ kind)

/-- The analyzers that can take part, by what they are referred to. Their kinds are finitely many,
so that those which a few of them require can be collected. -/
structure Catalog (ι υ ε : Type) {κ : Type} (ρ : κ → Type) where
  analyzer : ι → Analyzer ι υ ε ρ
  kinds : List κ
  complete : ∀ i, (analyzer i).kind ∈ kinds

/-- Failures that can be told in words. -/
class Explained (ε : Type) where
  /-- The texts of a failure, from what failed to the innermost cause. -/
  reasons : ε → List String

end ServiceGen.Analysis
