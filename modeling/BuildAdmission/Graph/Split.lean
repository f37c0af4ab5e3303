import BuildAdmission.Graph.Order

namespace BuildAdmission

/-- Replaces a unit, the whole, by its parts. `remap` tells for some dependents of the whole which
parts they depend on instead; the other dependents depend on all parts. -/
structure SplitPlan where
  whole : UnitId
  parts : List WorkUnit
  remap : IdMap IdSet
  deriving DecidableEq

namespace SplitPlan

def codec : Codec SplitPlan :=
  (Codec.record (.required "original" .text <| .required "units" (.list WorkUnit.codec) <|
    .optional "dependentRemap" (.idMap .idSet) ∅ .nil)).iso
    (fun (whole, parts, remap, _) => ⟨whole, parts, remap⟩)
    (fun p => (p.whole, p.parts, p.remap, ()))

def partIds (p : SplitPlan) : IdSet := .ofList (p.parts.map (·.id))

end SplitPlan

namespace Graph

variable (g : Graph) (p : SplitPlan)

/-- The first fault in the names that a plan brings along or refers to. -/
def splitNameFault? : Option SplitFault :=
  if p.parts.isEmpty then some (.noUnits p.whole)
  else if p.partIds.toList.length ≠ p.parts.length then some .repeatedIds
  else
    match p.partIds.toList.find? g.isTaken with
    | some id => some (.taken id)
    | none =>
      let dependents := g.dependentsOf p.whole
      p.remap.entries.findSome? fun (dependent, targets) =>
        if dependent ∈ dependents then
          (targets.toList.find? (· ∉ p.partIds)).map .outsideTarget
        else some (.notDependent dependent p.whole)

/-- A part starts afresh and takes on the dependencies of the whole. -/
def partOf (whole u : WorkUnit) : WorkUnit :=
  { u with
    status := .pending
    retryCount := 0
    archived := false
    dependencies := u.dependencies.union whole.dependencies }

/-- The graph with the whole archived and the parts in its place, without any dependent. -/
def withParts (whole : WorkUnit) : Graph where
  live := p.parts.foldl (fun m u => m.insert u.id (partOf whole u)) (g.live.erase p.whole)
  archived := g.archived.insert p.whole { whole with archived := true }

/-- What the dependents of the whole depend on instead. -/
def rewire (dependents : List UnitId) : Graph :=
  dependents.foldl (fun g id =>
    let targets := (p.remap.find? id).getD p.partIds
    g.update id fun u =>
      { u with dependencies := (u.dependencies.erase p.whole).union targets }) g

/-- The first dependency of a part that is not a live unit. -/
def unknownPartDependency? : Option SplitFault :=
  p.partIds.toList.findSome? fun id =>
    ((g.dependencies id).find? (!g.live.contains ·)).map (.unknownDependency id)

/-- The first cycle through a part, or else the first level violation at one. -/
def newTangle? : Option SplitFault :=
  match g.detectCycles.find? (·.any (· ∈ p.partIds)) with
  | some path => some (.cycle path)
  | none =>
    (g.levelViolations.find? fun v => v.source ∈ p.partIds || v.target ∈ p.partIds).map .level

/-- Carries out a plan: the names of the parts, and the graph with them. A plan that would
break the graph at a part is refused. -/
def split : Except Refusal (List UnitId × Graph) := do
  let whole ← g.get p.whole
  if let some fault := g.splitNameFault? p then .error (.invalidSplit fault)
  let parted := g.withParts p whole
  if let some fault := parted.unknownPartDependency? p then .error (.invalidSplit fault)
  let result := parted.rewire p (g.dependentsOf p.whole)
  if let some fault := result.newTangle? p then .error (.invalidSplit fault)
  .ok (p.partIds.toList, result)

end Graph

end BuildAdmission
