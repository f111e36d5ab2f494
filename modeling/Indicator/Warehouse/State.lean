/-!
# States of a statement

A statement that runs in the warehouse is in one of six states. Two of them pass; the other four
are final.
-/

namespace Indicator.Warehouse

inductive State
  | pending
  | running
  | succeeded
  | failed
  | canceled
  | closed
deriving DecidableEq, Repr

namespace State

def all : List State := [pending, running, succeeded, failed, canceled, closed]

def name : State → String
  | pending => "PENDING"
  | running => "RUNNING"
  | succeeded => "SUCCEEDED"
  | failed => "FAILED"
  | canceled => "CANCELED"
  | closed => "CLOSED"

/-- The state of a name, spelled exactly. -/
def ofName? (name : String) : Option State := all.find? (·.name = name)

/-- No further state follows. -/
def isTerminal : State → Bool
  | pending | running => false
  | succeeded | failed | canceled | closed => true

end State

/-- What a request to the warehouse is for. -/
inductive Phase
  | submit
  | poll
  | fetchChunk
deriving DecidableEq, Repr

def Phase.name : Phase → String
  | submit => "submit"
  | poll => "poll"
  | fetchChunk => "fetch_chunk"

end Indicator.Warehouse
