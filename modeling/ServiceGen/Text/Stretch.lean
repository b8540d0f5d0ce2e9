/-!
Sets of characters written as stretches. A stretch `(first, last, step)` holds every code point
from `first` to `last` that lies a multiple of `step` above `first`, so that alternating letters
take one entry instead of dozens.
-/
namespace ServiceGen.Text.Stretch

def holds (table : List (Nat × Nat × Nat)) (point : Nat) : Bool :=
  table.any fun (first, last, step) =>
    first ≤ point && point ≤ last && (point - first) % step == 0

end ServiceGen.Text.Stretch
