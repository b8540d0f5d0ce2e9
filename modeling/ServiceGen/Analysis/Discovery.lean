import ServiceGen.Analysis.Analyzer

/-!
Collecting the analyzers that take part: the given ones and, with each, those that it requires. Of
several analyzers of one kind the first that is met takes part, and its own requirements count.
Requirements are followed from the analyzer that was met last, and the positions of the analyzers
say in which order they were met.
-/
namespace ServiceGen.Analysis

structure Node (ι κ : Type) where
  analyzer : ι
  kind : κ
  name : String
  /-- The positions of what it requires, each once, in the order in which they are required. -/
  deps : List Nat
  deriving Repr

/-- The analyzers met so far, and the positions of those whose requirements were not followed
yet, the last first. -/
structure Discovery (ι κ : Type) where
  nodes : List (Node ι κ)
  pending : List Nat

namespace Discovery

variable {ι υ ε κ : Type} {ρ : κ → Type} [DecidableEq κ]

/-- Meets an analyzer. Answers its position, or that of the analyzer of its kind met before. -/
def meet (catalog : Catalog ι υ ε ρ) (discovery : Discovery ι κ) (i : ι) :
    Nat × Discovery ι κ :=
  let analyzer := catalog.analyzer i
  match discovery.nodes.findIdx? (·.kind = analyzer.kind) with
  | some position => (position, discovery)
  | none =>
    let position := discovery.nodes.length
    (position, {
      nodes := discovery.nodes ++ [⟨i, analyzer.kind, analyzer.name, []⟩]
      pending := position :: discovery.pending })

/-- Meets an analyzer after others with the given positions, each of which is listed once. -/
def meetNext (catalog : Catalog ι υ ε ρ) (met : List Nat × Discovery ι κ) (i : ι) :
    List Nat × Discovery ι κ :=
  let (position, discovery) := met.2.meet catalog i
  (if met.1.contains position then met.1 else met.1 ++ [position], discovery)

/-- Meets several analyzers in order. Answers their positions, each once. -/
def meetAll (catalog : Catalog ι υ ε ρ) (discovery : Discovery ι κ) (analyzers : List ι) :
    List Nat × Discovery ι κ :=
  analyzers.foldl (meetNext catalog) ([], discovery)

/-- Gives the node at a position the dependencies that were found for it. -/
def settle (nodes : List (Node ι κ)) (position : Nat) (deps : List Nat) : List (Node ι κ) :=
  nodes.modify position fun node => { node with deps }

/-- Follows the requirements of the analyzer met last whose requirements were not followed yet. -/
def step (catalog : Catalog ι υ ε ρ) (discovery : Discovery ι κ) : Discovery ι κ :=
  match discovery.pending with
  | [] => discovery
  | position :: rest =>
    match discovery.nodes[position]? with
    | none => { discovery with pending := rest }
    | some node =>
      let (deps, after) :=
        meetAll catalog { discovery with pending := rest } (catalog.analyzer node.analyzer).requires
      { after with nodes := settle after.nodes position deps }

def steps (catalog : Catalog ι υ ε ρ) : Nat → Discovery ι κ → Discovery ι κ
  | 0, discovery => discovery
  | count + 1, discovery => steps catalog count (discovery.step catalog)

/-- The analyzers that take part in an analysis with the given roots. Every step follows the
requirements of another kind, so that there is a step for each of them. -/
def collect (catalog : Catalog ι υ ε ρ) (roots : List ι) : List (Node ι κ) :=
  let met := (meetAll catalog ⟨[], []⟩ roots).2
  (steps catalog catalog.kinds.length met).nodes

end Discovery

end ServiceGen.Analysis
