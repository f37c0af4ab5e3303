import BuildAdmission.Error

namespace BuildAdmission

/-- The units at work, and those that were taken out. The names of both stay taken. -/
structure Graph where
  live : IdMap WorkUnit
  archived : IdMap WorkUnit
  deriving DecidableEq

namespace Graph

def empty : Graph := ⟨∅, ∅⟩

def unit? (g : Graph) (id : UnitId) : Option WorkUnit := g.live.find? id

def get (g : Graph) (id : UnitId) : Except Refusal WorkUnit :=
  (g.unit? id).elim (.error (.unknownUnit id)) .ok

def isTaken (g : Graph) (id : UnitId) : Bool := g.live.contains id || g.archived.contains id

def update (g : Graph) (id : UnitId) (f : WorkUnit → WorkUnit) : Graph :=
  { g with live := g.live.modify id f }

def setStatus (g : Graph) (id : UnitId) (status : Status) : Graph :=
  g.update id fun u => { u with status }

/-- The live units and then the archived ones, each in order of name. -/
def records (g : Graph) : List WorkUnit := g.live.values ++ g.archived.values

def insertRecord (g : Graph) (u : WorkUnit) : Except Refusal Graph :=
  if g.isTaken u.id then .error (.duplicateUnit u.id)
  else if u.archived then .ok { g with archived := g.archived.insert u.id u }
  else .ok { g with live := g.live.insert u.id u }

/-- The first dependency of a live unit, in order of name, that is not a live unit. -/
def dangling? (g : Graph) : Option UnitId :=
  g.live.values.findSome? fun u => u.dependencies.toList.find? (!g.live.contains ·)

/-- Cycles and level violations are let in; names that occur twice and dependencies on units that
are not there are not. -/
def ofRecords (us : List WorkUnit) : Except Refusal Graph := do
  let g ← us.foldlM insertRecord empty
  g.dangling?.elim (.ok g) (.error <| .unknownUnit ·)

/-- What a dependency of `u` on `target` would break. -/
def checkEdge (g : Graph) (u : WorkUnit) (target : UnitId) : Except Refusal Unit := do
  let t ← g.get target
  if u.level < t.level then .error (.levelViolation ⟨u.id, u.level, target, t.level⟩) else .ok ()

def addUnit (g : Graph) (u : WorkUnit) : Except Refusal Graph := do
  if g.isTaken u.id then .error (.duplicateUnit u.id)
  u.dependencies.toList.forM (g.checkEdge u)
  .ok { g with live := g.live.insert u.id { u with archived := false } }

/-- Makes `source` depend on `target`. -/
def addEdge (g : Graph) (source target : UnitId) : Except Refusal Graph := do
  let u ← g.get source
  g.checkEdge u target
  .ok (g.update source fun u => { u with dependencies := u.dependencies.insert target })

/-- The live units that depend on the name, itself among them if it does. -/
def dependentsOf (g : Graph) (id : UnitId) : List UnitId :=
  (g.live.values.filter (id ∈ ·.dependencies)).map (·.id)

def isComplete (g : Graph) (id : UnitId) : Bool :=
  (g.unit? id).any (·.status = .complete)

def unmetOf (g : Graph) (u : WorkUnit) : List UnitId :=
  u.dependencies.toList.filter (!g.isComplete ·)

def unmet (g : Graph) (id : UnitId) : Except Refusal (List UnitId) :=
  (g.get id).map g.unmetOf

/-- Takes a unit out that no unit depends on, and gives it back as archived. -/
def archive (g : Graph) (id : UnitId) : Except Refusal (WorkUnit × Graph) := do
  let u ← g.get id
  match g.dependentsOf id with
  | [] =>
    let u := { u with archived := true }
    .ok (u, ⟨g.live.erase id, g.archived.insert id u⟩)
  | ids => .error (.unitInUse id (.requiredBy ids))

end Graph

end BuildAdmission
