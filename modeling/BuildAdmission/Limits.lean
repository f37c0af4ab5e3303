import BuildAdmission.Error

namespace BuildAdmission

/-- How many units run at once, how often a failed one is tried again, and how long a running one
may be silent. -/
structure Limits where
  concurrency : UInt64
  maxRetries : UInt32
  idleTimeout : Duration
  deriving DecidableEq, Repr

namespace Limits

def standard : Limits := ⟨3, 2, .ofSecs 1800⟩

def check (l : Limits) : Except Refusal Unit :=
  if l.concurrency = 0 then .error (.invalidConfig .noConcurrency)
  else if l.idleTimeout.nanos = 0 then .error (.invalidConfig .noIdleTimeout)
  else .ok ()

end Limits

end BuildAdmission
