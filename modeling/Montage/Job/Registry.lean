import Montage.Entries
import Montage.Job.Basic

/-! # Job registry

The registry finds the records of jobs by their ids. Records are numbered in the order in which they
were filed and never forgotten by number, since observers may outlive an entry; an entry that is
removed or replaced is only no longer found by its id.
-/

namespace Montage

/-- The records of jobs, with the numbers of those that can be found by id, in filing order. -/
structure Registry where
  retention : Binary64 := 3600
  records : List Job := []
  entries : List (String × Nat) := []

namespace Registry

/-- The number of jobs that can be found. -/
def size (registry : Registry) : Nat := registry.entries.length

/-- The record number of an id. -/
def number? (registry : Registry) (id : String) : Option Nat := registry.entries.lookup id

/-- The record of an id. -/
def get? (registry : Registry) (id : String) : Option Job :=
  (registry.number? id).bind fun number => registry.records[number]?

/-- Whether an id can be found. -/
def contains (registry : Registry) (id : String) : Bool := (registry.number? id).isSome

/-- Files a record; one with the same id is no longer found. -/
def add (registry : Registry) (job : Job) : Registry :=
  { registry with
    records := registry.records ++ [job]
    entries := Entries.set registry.entries job.id registry.records.length }

/-- Removes an id. -/
def remove (registry : Registry) (id : String) : Registry :=
  { registry with entries := registry.entries.filter fun entry => entry.1 != id }

/-- Changes the record of a number. -/
def update (registry : Registry) (number : Nat) (change : Job → Job) : Registry :=
  { registry with records := registry.records.modify number change }

/-- Adds an observer to the record of a number and answers its index. -/
def attach (registry : Registry) (number : Nat) : Registry × Nat :=
  (registry.update number fun job => { job with stream := job.stream.attach.1 },
    ((registry.records[number]?).map fun job => job.stream.attach.2).getD 0)

/-- Detaches an observer from the record of a number and answers whether it was attached. -/
def detach (registry : Registry) (number index : Nat) : Registry × Bool :=
  (registry.update number fun job => { job with stream := (job.stream.detach index).1 },
    ((registry.records[number]?).map fun job => job.stream.isAttached index).getD false)

/-- The ids and records that can be found, in filing order. -/
def found (registry : Registry) : List (String × Job) :=
  registry.entries.filterMap fun (id, number) => (registry.records[number]?).map fun job => (id, job)

/-- The records of the jobs that have not ended, in filing order. -/
def active (registry : Registry) : List Job :=
  (registry.found.map Prod.snd).filter fun job => !job.isTerminal

/-- The states of those ids that can be found. -/
def snapshot (registry : Registry) (ids : List String) : List (String × JobState) :=
  ids.foldl (fun states id =>
    match registry.get? id with
    | some job => Entries.set states id job.state
    | none => states) []

/-- Whether a record has outlived its use: the job ended long enough ago and nobody watches it. -/
def isExpired (retention now : Binary64) (job : Job) : Bool :=
  job.isTerminal && job.stream.observerCount == 0 &&
    match job.finishedAt with
    | some finished => retention.le (now - finished)
    | none => false

/-- Removes the ids of expired records and answers their number. -/
def reap (registry : Registry) (now : Binary64) : Registry × Nat :=
  let expired := (registry.found.filter fun entry => isExpired registry.retention now entry.2).map
    fun entry => entry.2.id
  (expired.foldl remove registry, expired.length)

/-- Removes the id of a job that has ended and that the last of its observers has left. -/
def releaseIfDone (registry : Registry) (job : Job) : Registry :=
  if job.isTerminal && job.stream.everObserved && job.stream.observerCount == 0 then
    registry.remove job.id
  else registry

end Registry

end Montage
