/-!
# Choosing items from a list

The ways to choose some items of a list, in the order of the positions chosen:
`arrangements` are ordered choices, `choices` keep the order of the list.
-/

namespace FunctionSynthesis

variable {α : Type}

/-- Every item of a list with the other items in their order. -/
def eachWithRest : List α → List (α × List α)
  | [] => []
  | x :: xs => (x, xs) :: (eachWithRest xs).map fun (y, rest) => (y, x :: rest)

/-- The ordered choices of `n` items at different positions. -/
def arrangements : Nat → List α → List (List α)
  | 0, _ => [[]]
  | n + 1, items =>
      (eachWithRest items).flatMap fun (x, rest) =>
        (arrangements n rest).map (x :: ·)

/-- The choices of `n` items that keep their order. -/
def choices : Nat → List α → List (List α)
  | 0, _ => [[]]
  | _ + 1, [] => []
  | n + 1, x :: xs => (choices n xs).map (x :: ·) ++ choices (n + 1) xs

def orderedPairs (items : List α) : List (α × α) :=
  (eachWithRest items).flatMap fun (x, rest) => rest.map fun y => (x, y)

/-- The pairs of items that keep their order. -/
def pairs : List α → List (α × α)
  | [] => []
  | x :: xs => xs.map (fun y => (x, y)) ++ pairs xs

def orderedTriples (items : List α) : List (α × α × α) :=
  (eachWithRest items).flatMap fun (x, rest) =>
    (orderedPairs rest).map fun (y, z) => (x, y, z)

end FunctionSynthesis
