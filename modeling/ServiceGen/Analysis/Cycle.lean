import ServiceGen.Analysis.Discovery

/-!
Searching for a cycle of requirements, depth first from every node in turn. The search remembers
the way it came, and a node on this way that is met again closes a cycle.
-/
namespace ServiceGen.Analysis.Cycle

variable {ι κ : Type}

def depsOf (nodes : List (Node ι κ)) (position : Nat) : List Nat :=
  (nodes[position]?.map Node.deps).getD []

/-- The cycle that a node closes which stands on the way. The way holds the last node first. -/
def closedBy (node : Nat) (way : List Nat) : List Nat :=
  node :: (way.takeWhile (· != node)).reverse ++ [node]

/-- Searches behind a node. Answers the nodes that are known to lead to no cycle, or a cycle. A way
holds no node twice, so that the fuel is the number of nodes that can still join it. -/
def search (nodes : List (Node ι κ)) : Nat → List Nat → List Nat → Nat →
    Except (List Nat) (List Nat)
  | fuel, way, safe, node =>
    if way.contains node then .error (closedBy node way)
    else if safe.contains node then .ok safe
    else
      match fuel with
      | 0 => .ok safe
      | fuel + 1 => do
        let safe ← (depsOf nodes node).foldlM (search nodes fuel (node :: way)) safe
        .ok (node :: safe)

/-- A cycle, which begins and ends with the same node, if there is one. -/
def find? (nodes : List (Node ι κ)) : Option (List Nat) :=
  match (List.range nodes.length).foldlM (search nodes (nodes.length + 1) []) [] with
  | .ok _ => none
  | .error cycle => some cycle

end ServiceGen.Analysis.Cycle
