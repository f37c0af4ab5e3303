import BuildAdmission.Queue.Heap
import BuildAdmission.WorkUnit.Basic

namespace BuildAdmission

/-- A launch that waits for a slot. `seq` numbers the launches in order of arrival. -/
structure QueuedLaunch where
  unitId : UnitId
  task : LaunchTask
  priority : Int32
  seq : Nat
  deriving DecidableEq

namespace QueuedLaunch

/-- The lower priority number goes first, then the earlier arrival. -/
def before (a b : QueuedLaunch) : Bool :=
  a.priority < b.priority || (a.priority = b.priority && a.seq < b.seq)

end QueuedLaunch

/-- The launches that wait, as a heap, and the number of the next arrival. The counter of 64 bits
that holds it is taken not to wrap. -/
structure AdmissionQueue where
  heap : Array QueuedLaunch
  nextSeq : Nat
  deriving DecidableEq

namespace AdmissionQueue

def empty : AdmissionQueue := ⟨#[], 0⟩

/-- The launches in the order in which they will be admitted. Launches with the same priority and
number keep the order of the heap. -/
def entries (q : AdmissionQueue) : List QueuedLaunch :=
  q.heap.toList.mergeSort fun a b => !b.before a

/-- Puts a launch back with the number it had. -/
def requeue (q : AdmissionQueue) (launch : QueuedLaunch) : AdmissionQueue :=
  { q with heap := Heap.push QueuedLaunch.before q.heap launch }

def enqueue (q : AdmissionQueue) (unitId : UnitId) (task : LaunchTask) (priority : Int32) :
    Nat × AdmissionQueue :=
  (q.nextSeq, { q with nextSeq := q.nextSeq + 1 }.requeue ⟨unitId, task, priority, q.nextSeq⟩)

def pop? (q : AdmissionQueue) : Option (QueuedLaunch × AdmissionQueue) :=
  (Heap.pop? QueuedLaunch.before q.heap).map fun (launch, heap) => (launch, { q with heap })

def remove? (q : AdmissionQueue) (id : UnitId) : Option (QueuedLaunch × AdmissionQueue) :=
  (Heap.remove? QueuedLaunch.before (·.unitId = id) q.heap).map fun (launch, heap) =>
    (launch, { q with heap })

/-- How many launches go before the unit's. -/
def position? (q : AdmissionQueue) (id : UnitId) : Option Nat :=
  q.entries.findIdx? (·.unitId = id)

def size (q : AdmissionQueue) : Nat := q.heap.size

end AdmissionQueue

end BuildAdmission
