import ServiceGen.Analysis.Layering

/-!
Graphs of analyzers: the analyzers that take part, without a cycle among their requirements, and
the layers in which they run.
-/
namespace ServiceGen.Analysis

inductive GraphError where
  /-- A cycle of requirements, by the names along it. -/
  | cycle (path : List String)
  /-- Nothing was to be analyzed. -/
  | empty
  deriving Repr, DecidableEq

def GraphError.message : GraphError → String
  | .cycle path => "analyzer dependency cycle: " ++ String.intercalate " -> " path
  | .empty => "no analyzers to run"

structure Graph (ι κ : Type) where
  /-- The nodes, in the order in which they were met. -/
  nodes : List (Node ι κ)
  /-- The positions of the nodes, layer by layer. -/
  layers : List (List Nat)
  deriving Repr

namespace Graph

variable {ι υ ε κ : Type} {ρ : κ → Type}

def nameAt (nodes : List (Node ι κ)) (position : Nat) : String :=
  (nodes[position]?.map Node.name).getD ""

/-- The graph of the given analyzers and of all that they require. -/
def build [DecidableEq κ] (catalog : Catalog ι υ ε ρ) (roots : List ι) :
    Except GraphError (Graph ι κ) :=
  if roots.isEmpty then .error .empty
  else
    let nodes := Discovery.collect catalog roots
    match Cycle.find? nodes with
    | some cycle => .error (.cycle (cycle.map (nameAt nodes)))
    | none => .ok ⟨nodes, Layering.layers nodes⟩

def size (graph : Graph ι κ) : Nat := graph.nodes.length

def names (graph : Graph ι κ) : List String := graph.nodes.map (·.name)

/-- The names of what an analyzer requires directly. -/
def dependenciesOf? (graph : Graph ι κ) (name : String) : Option (List String) :=
  (graph.nodes.find? (·.name == name)).map fun node => node.deps.map (nameAt graph.nodes)

def levels (graph : Graph ι κ) : List (List String) :=
  graph.layers.map (·.map (nameAt graph.nodes))

end Graph

end ServiceGen.Analysis
