import ServiceGen.Analysis.Cycle

/-!
Layers of nodes. A node is counted down each time one of its requirements was placed, and stands
in the layer behind the one that brought its count to zero. So every node comes after all that it
requires, and nodes of one layer do not require one another.
-/
namespace ServiceGen.Analysis.Layering

variable {ι κ : Type}

def dependents (nodes : List (Node ι κ)) (position : Nat) : List Nat :=
  (List.range nodes.length).filter fun other => (Cycle.depsOf nodes other).contains position

/-- Counts a node down. It joins the next layer when nothing is left. -/
def countDown : List Nat × List Nat → Nat → List Nat × List Nat
  | (counts, next), position =>
    let counts := counts.modify position (· - 1)
    (counts, if counts[position]? = some 0 then next ++ [position] else next)

/-- Counts down whatever requires a node of the layer. Answers the counts and the next layer. -/
def release (nodes : List (Node ι κ)) (counts layer : List Nat) : List Nat × List Nat :=
  let (counts, next) := (layer.flatMap (dependents nodes)).foldl countDown (counts, [])
  (counts, next.mergeSort)

/-- The layers from the given one on. Each holds a node, so that there are no more of them than
there are nodes. -/
def layersFrom (nodes : List (Node ι κ)) : Nat → List Nat → List Nat → List (List Nat)
  | 0, _, _ => []
  | fuel + 1, counts, layer =>
    if layer.isEmpty then []
    else
      let (counts, next) := release nodes counts layer
      layer :: layersFrom nodes fuel counts next

/-- The layers of nodes among which there is no cycle. -/
def layers (nodes : List (Node ι κ)) : List (List Nat) :=
  let counts := nodes.map (·.deps.length)
  let first := (List.range nodes.length).filter fun position => counts[position]? = some 0
  layersFrom nodes nodes.length counts first

end ServiceGen.Analysis.Layering
