import BuildAdmission.Graph.Basic

namespace BuildAdmission

namespace Graph

/-- What a search has found: the units it is done with, and the cycles. -/
structure Search where
  finished : IdSet
  cycles : List (List UnitId)

def dependencies (g : Graph) (id : UnitId) : List UnitId :=
  (g.unit? id).elim [] (·.dependencies.toList)

/-- Goes through what can be reached from `id`. `path` leads to `id`, and a dependency on a unit of
the path closes a cycle. `fuel` bounds the length of the path. -/
def visit (g : Graph) : Nat → List UnitId → UnitId → Search → Search
  | 0, _, _, s => s
  | fuel + 1, path, id, s =>
    let path := path ++ [id]
    let s := (g.dependencies id).foldl (fun s dep =>
      if dep ∈ path then { s with cycles := s.cycles ++ [path.dropWhile (· ≠ dep) ++ [dep]] }
      else if dep ∈ s.finished || !g.live.contains dep then s
      else g.visit fuel path dep s) s
    { s with finished := s.finished.insert id }

/-- The cycles that a depth-first search meets, in order of name. Each is a path that ends where
it begins. There is none only if no unit depends on itself, directly or through others. -/
def detectCycles (g : Graph) : List (List UnitId) :=
  (g.live.keys.foldl (fun s id =>
    if id ∈ s.finished then s else g.visit (g.live.size + 1) [] id s) ⟨∅, []⟩).cycles

end Graph

end BuildAdmission
