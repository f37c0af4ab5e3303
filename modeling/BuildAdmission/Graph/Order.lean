import BuildAdmission.Graph.Cycles

namespace BuildAdmission

namespace WorkUnit

/-- The lower priority number goes first, then the lower name. -/
def before (u v : WorkUnit) : Bool :=
  u.priority < v.priority || (u.priority = v.priority && u.id < v.id)

def insertByPriority (u : WorkUnit) : List WorkUnit → List WorkUnit
  | [] => [u]
  | v :: rest => if u.before v then u :: v :: rest else v :: insertByPriority u rest

def sortByPriority (us : List WorkUnit) : List WorkUnit := us.foldr insertByPriority []

end WorkUnit

namespace Graph

/-- An order that is being made: for each unit the number of its dependencies that are not placed
yet, the units that wait for none but are not placed themselves, the first of them in front, and the
units that are placed. -/
structure Placement where
  indegrees : IdMap Nat
  ready : List WorkUnit
  placed : List UnitId

/-- How many dependencies of a unit are to be placed before it: those that are live units. -/
def indegree (g : Graph) (u : WorkUnit) : Nat :=
  (u.dependencies.toList.filter (g.live.contains ·)).length

def startPlacement (g : Graph) : Placement where
  indegrees := g.live.mapValues fun _ u => g.indegree u
  ready := WorkUnit.sortByPriority (g.live.values.filter (g.indegree · = 0))
  placed := []

/-- Takes note that a dependency of the unit has been placed. -/
def release (g : Graph) (s : Placement) (id : UnitId) : Placement :=
  let indegrees := s.indegrees.modify id (· - 1)
  let ready := if indegrees.find? id = some 0 then
      (g.unit? id).elim s.ready (WorkUnit.insertByPriority · s.ready)
    else s.ready
  { s with indegrees, ready }

/-- Places a unit, which releases its dependents. -/
def place (g : Graph) (s : Placement) (id : UnitId) : Placement :=
  (g.dependentsOf id).foldl g.release { s with placed := s.placed ++ [id] }

/-- Places the first of the units that are ready until there is none. Each turn places one unit, so
the number of units is fuel enough. -/
def placeReady (g : Graph) : Nat → Placement → List UnitId
  | 0, s => s.placed
  | fuel + 1, s =>
    match s.ready with
    | [] => s.placed
    | u :: ready => g.placeReady fuel (g.place { s with ready } u.id)

/-- An order in which every unit comes after its dependencies. There is none if some unit is left
that never gets ready. -/
def buildOrder (g : Graph) : Except Refusal (List UnitId) :=
  let order := g.placeReady g.live.size g.startPlacement
  if order.length < g.live.size then .error (.cycleDetected g.detectCycles) else .ok order

def violationsOf (g : Graph) (u : WorkUnit) : List LevelViolation :=
  u.dependencies.toList.filterMap fun target =>
    (g.unit? target).bind fun t =>
      if u.level < t.level then some ⟨u.id, u.level, target, t.level⟩ else none

def levelViolations (g : Graph) : List LevelViolation := g.live.values.flatMap g.violationsOf

/-- Cycles are reported before level violations. -/
def validate (g : Graph) : Except Refusal Unit :=
  match g.detectCycles with
  | [] => g.levelViolations.head?.elim (.ok ()) (.error <| .levelViolation ·)
  | cycles => .error (.cycleDetected cycles)

end Graph

end BuildAdmission
