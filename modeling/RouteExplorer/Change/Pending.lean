import RouteExplorer.Change.Event

namespace RouteExplorer

/-- Collected events, and how many of them are kept before they are replaced by a rescan. -/
structure PendingBatch where
  limit : Nat
  events : List ChangeEvent
deriving Repr

namespace PendingBatch

/-- An empty batch that keeps at least one event. -/
def ofLimit (limit : Nat) : PendingBatch := ⟨max limit 1, []⟩

def holds (batch : PendingBatch) (event : ChangeEvent) : Bool := batch.events.any (·.same event)

/-- A batch in which a rescan stands for all events about files. -/
def collapse (batch : PendingBatch) : PendingBatch :=
  { batch with events := batch.events.filter ChangeEvent.isConfigured ++ [.rescan] }

/-- Add an event. An event that is held already adds nothing, and neither does one about a file where
a rescan is held. A rescan, or an event about a file over the limit, collapses the batch; a change of
the configuration is always kept. -/
def push (batch : PendingBatch) (event : ChangeEvent) : PendingBatch :=
  if batch.holds event then batch
  else if event.isConfigured then { batch with events := batch.events ++ [event] }
  else if batch.holds .rescan then batch
  else if event == .rescan || batch.limit ≤ batch.events.length then batch.collapse
  else { batch with events := batch.events ++ [event] }

def take (batch : PendingBatch) : List ChangeEvent × PendingBatch :=
  (batch.events, { batch with events := [] })

end PendingBatch

end RouteExplorer
