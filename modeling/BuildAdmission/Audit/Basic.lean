import BuildAdmission.WorkUnit.Basic

namespace BuildAdmission

inductive AuditAction where
  | register
  | admission
  | enqueue
  | block
  | splitRequired
  | promote
  | suspend
  | complete
  | retry
  | fail
  | expire
  | split
  | archive
  | reset
  deriving DecidableEq, Repr

namespace AuditAction

def name : AuditAction → String
  | register => "register"
  | admission => "admit"
  | enqueue => "enqueue"
  | block => "block"
  | splitRequired => "split_required"
  | promote => "promote"
  | suspend => "suspend"
  | complete => "complete"
  | retry => "retry"
  | fail => "fail"
  | expire => "expire"
  | split => "split"
  | archive => "archive"
  | reset => "reset"

def all : List AuditAction :=
  [register, admission, enqueue, block, splitRequired, promote, suspend, complete, retry, fail, expire,
    split, archive, reset]

def codec : Codec AuditAction := .names name all

end AuditAction

structure AuditEntry where
  unitId : UnitId
  action : AuditAction
  detail : Option String
  deriving DecidableEq, Repr

/-- The last entries of a trail, at most `capacity` of them. -/
structure AuditLog where
  capacity : Nat
  entries : List AuditEntry
  deriving DecidableEq, Repr

namespace AuditLog

def new (capacity : Nat) : AuditLog := ⟨capacity, []⟩

/-- A full log gives up its oldest entry; a log without room takes nothing. -/
def record (log : AuditLog) (e : AuditEntry) : AuditLog :=
  if log.capacity = 0 then log
  else if log.entries.length < log.capacity then { log with entries := log.entries ++ [e] }
  else { log with entries := log.entries.tail ++ [e] }

def recordAll (log : AuditLog) (es : List AuditEntry) : AuditLog := es.foldl record log

def actionsFor (entries : List AuditEntry) (id : UnitId) : List AuditAction :=
  (entries.filter (·.unitId = id)).map (·.action)

end AuditLog

/-- An entry with an identity and a time in milliseconds since 1970. -/
structure AuditEvent where
  eventId : String
  unitId : UnitId
  action : AuditAction
  createdAtMs : Fin Codec.wideSize
  detail : Option String
  deriving DecidableEq, Repr

namespace AuditEvent

def codec : Codec AuditEvent :=
  (Codec.record (.required "event_id" .text <| .required "unit_id" .text <|
    .required "action" AuditAction.codec <| .required "created_at_ms" .wide <|
    .nullable "detail" .text .nil)).iso
    (fun (event, unit, action, created, detail, _) => ⟨event, unit, action, created, detail⟩)
    (fun e => (e.eventId, e.unitId, e.action, e.createdAtMs, e.detail, ()))

end AuditEvent

end BuildAdmission
