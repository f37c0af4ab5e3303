import BuildAdmission.Scheduler.Basic

namespace BuildAdmission

/-- An executor that has yet to run. Nobody waits for a stray one, whose dispatcher is gone. -/
structure Pending where
  admission : Admission
  stray : Bool

/-- The executors that have yet to run: those that the event loop itself started (`near`) and those
that were started from outside (`far`). The loop counts how often it has looked for one. -/
structure Backlog where
  near : List Pending
  far : List Pending
  looks : Nat

namespace Backlog

def empty : Backlog := ⟨[], [], 0⟩

def size (b : Backlog) : Nat := b.near.length + b.far.length

def start (b : Backlog) (inside : Bool) (as : List Admission) : Backlog :=
  let started := as.map (⟨·, false⟩)
  if inside then { b with near := b.near ++ started } else { b with far := b.far ++ started }

def orphan (b : Backlog) : Backlog :=
  { b with
    near := b.near.map fun p => { p with stray := true }
    far := b.far.map fun p => { p with stray := true } }

/-- At one look in so many the far executors go first. -/
def farTurn : Nat := 31

/-- Looks for the executor whose turn it is. The near ones go first but at every `farTurn`th look,
so that none waits for ever. -/
def look (b : Backlog) : Option Pending × Backlog :=
  let b := { b with looks := b.looks + 1 }
  match b.near, b.far with
  | [], [] => (none, b)
  | p :: near, [] => (some p, { b with near })
  | [], q :: far => (some q, { b with far })
  | p :: near, q :: far =>
    if b.looks % farTurn = 0 then (some q, { b with far }) else (some p, { b with near })

end Backlog

end BuildAdmission
