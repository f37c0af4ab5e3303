import BuildAdmission.Codec.Record
import BuildAdmission.Error
import BuildAdmission.Time.Duration
import BuildAdmission.Time.Timestamp

namespace BuildAdmission

structure TestStatus where
  passed : UInt32
  failed : UInt32
  deriving DecidableEq, Repr

namespace TestStatus

def codec : Codec TestStatus :=
  (Codec.record (.required "passed" .uint32 <| .required "failed" .uint32 .nil)).iso
    (fun (passed, failed, _) => ⟨passed, failed⟩)
    (fun t => (t.passed, t.failed, ()))

end TestStatus

/-- What a unit reports when it stops half way. -/
structure CheckpointData where
  completedTasks : List String
  remainingTasks : List String
  modifiedResources : List String
  timeSpent : Duration
  testStatus : TestStatus
  deriving DecidableEq, Repr

namespace CheckpointData

def codec : Codec CheckpointData :=
  (Codec.record (.required "completedTasks" (.list .text) <|
    .required "remainingTasks" (.list .text) <|
    .required "modifiedResources" (.list .text) <|
    .required "timeSpentSeconds" Duration.codec <|
    .required "testStatus" TestStatus.codec .nil)).iso
    (fun (completed, remaining, modified, time, tests, _) =>
      ⟨completed, remaining, modified, time, tests⟩)
    (fun d => (d.completedTasks, d.remainingTasks, d.modifiedResources, d.timeSpent, d.testStatus,
      ()))

end CheckpointData

/-- A saved state of a unit. Of a unit's checkpoints the one with the highest iteration counts. -/
structure Checkpoint where
  unitId : UnitId
  iteration : UInt32
  data : CheckpointData
  createdAt : Timestamp
  deriving DecidableEq, Repr

namespace Checkpoint

def codec : Codec Checkpoint :=
  (Codec.record (.required "unitId" .text <| .required "iteration" .uint32 <|
    .required "completedTasks" (.list .text) <|
    .required "remainingTasks" (.list .text) <|
    .required "modifiedResources" (.list .text) <|
    .required "timeSpentSeconds" Duration.codec <|
    .required "testStatus" TestStatus.codec <|
    .required "createdAt" Timestamp.codec .nil)).iso
    (fun (unit, iteration, completed, remaining, modified, time, tests, created, _) =>
      ⟨unit, iteration, ⟨completed, remaining, modified, time, tests⟩, created⟩)
    (fun c => (c.unitId, c.iteration, c.data.completedTasks, c.data.remainingTasks,
      c.data.modifiedResources, c.data.timeSpent, c.data.testStatus, c.createdAt, ()))

def iterationOf (latest : Option Checkpoint) : UInt32 := latest.elim 0 (·.iteration)

/-- A checkpoint must be newer than all before it. -/
def checkNewer (id : UnitId) (attempted latest : UInt32) : Except Refusal Unit :=
  if attempted ≤ latest then .error (.staleIteration id attempted latest) else .ok ()

end Checkpoint

/-- What a unit is told when it goes on from a checkpoint. -/
structure ResumeContext where
  unitId : UnitId
  iteration : UInt32
  completedTasks : List String
  remainingTasks : List String
  modifiedResources : List String
  testStatus : TestStatus
  deriving DecidableEq, Repr

namespace ResumeContext

def codec : Codec ResumeContext :=
  (Codec.record (.required "unitId" .text <| .required "iteration" .uint32 <|
    .required "completedTasks" (.list .text) <|
    .required "remainingTasks" (.list .text) <|
    .required "modifiedResources" (.list .text) <|
    .required "testStatus" TestStatus.codec .nil)).iso
    (fun (unit, iteration, completed, remaining, modified, tests, _) =>
      ⟨unit, iteration, completed, remaining, modified, tests⟩)
    (fun r => (r.unitId, r.iteration, r.completedTasks, r.remainingTasks, r.modifiedResources,
      r.testStatus, ()))

def nextTask? (r : ResumeContext) : Option String := r.remainingTasks.head?

end ResumeContext

def Checkpoint.resume (c : Checkpoint) : ResumeContext :=
  ⟨c.unitId, c.iteration, c.data.completedTasks, c.data.remainingTasks, c.data.modifiedResources,
    c.data.testStatus⟩

inductive Outcome where
  | completed
  | failed (reason : String)
  | suspended (checkpoint : CheckpointData)
  deriving DecidableEq, Repr

end BuildAdmission
