import BuildAdmission.Codec.Record
import BuildAdmission.WorkUnit.Level

namespace BuildAdmission

inductive Status where
  | pending
  | queued
  | running
  | checkpointed
  | complete
  | failed
  deriving DecidableEq, Repr

namespace Status

def name : Status → String
  | pending => "pending"
  | queued => "queued"
  | running => "running"
  | checkpointed => "checkpointed"
  | complete => "complete"
  | failed => "failed"

def all : List Status := [pending, queued, running, checkpointed, complete, failed]

/-- Waiting for a slot or holding one. -/
def isActive (s : Status) : Bool := s = queued || s = running

def codec : Codec Status := .names name all

end Status

structure WorkUnit where
  id : UnitId
  level : Level
  status : Status
  priority : Int32
  declaredSize : UInt64
  dependencies : IdSet
  retryCount : UInt32
  archived : Bool
  deriving DecidableEq

namespace WorkUnit

def fields :=
  Fields.required "id" .text <|
  .required "level" Level.codec <|
  .required "status" Status.codec <|
  .required "priority" .int32 <|
  .required "declaredSize" .uint64 <|
  .optional "dependencies" .idSet ∅ <|
  .optional "retryCount" .uint32 0 <|
  .sparse "archived" .bool false .nil

def codec : Codec WorkUnit :=
  (Codec.record fields).iso
    (fun (id, level, status, priority, size, deps, retries, archived, _) =>
      ⟨id, level, status, priority, size, deps, retries, archived⟩)
    (fun u => (u.id, u.level, u.status, u.priority, u.declaredSize, u.dependencies, u.retryCount,
      u.archived, ()))

end WorkUnit

/-- What a unit is asked to do, and what that is expected to add to its size. -/
structure LaunchTask where
  description : String
  estimatedCost : UInt64
  deriving DecidableEq, Repr

namespace LaunchTask

def codec : Codec LaunchTask :=
  (Codec.record (.required "description" .text <| .required "estimatedCost" .uint64 .nil)).iso
    (fun (description, cost, _) => ⟨description, cost⟩)
    (fun t => (t.description, t.estimatedCost, ()))

end LaunchTask

end BuildAdmission
