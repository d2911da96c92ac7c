import RouteExplorer.Index.FileIndex

/-!
The current controllers and routes of a workspace. Subscribers get the new routes whenever a refresh
changes the sequence of their identities; an order alone counts as a change.
-/
namespace RouteExplorer

/-- A subscriber with the lists of routes that it did not receive yet, the oldest first. -/
structure Subscriber where
  name : String
  events : List (List Route)
deriving Repr

/-- An index, the snapshot of its last scan and those who follow it. -/
structure Store where
  index : FileIndex
  snapshot : Snapshot
  subscribers : List Subscriber
deriving Repr

namespace Store

def ofIndex (index : FileIndex) : Store := ⟨index, .empty, []⟩

def unsubscribe (store : Store) (name : String) : Store :=
  { store with subscribers := store.subscribers.filter fun subscriber => subscriber.name != name }

/-- Add a subscriber, in place of any earlier one of its name. -/
def subscribe (store : Store) (name : String) : Store :=
  let others := store.unsubscribe name
  { others with subscribers := others.subscribers ++ [⟨name, []⟩] }

def waiting (store : Store) (name : String) : List (List Route) :=
  match store.subscribers.find? fun subscriber => subscriber.name == name with
  | some subscriber => subscriber.events
  | none => []

def receive (store : Store) (name : String) : List (List Route) × Store :=
  (store.waiting name,
    { store with
      subscribers := store.subscribers.map fun subscriber =>
        if subscriber.name = name then { subscriber with events := [] } else subscriber })

def publish (store : Store) (routes : List Route) : Store :=
  { store with
    subscribers := store.subscribers.map fun subscriber =>
      { subscriber with events := subscriber.events ++ [routes] } }

/-- Scan the workspace and keep the result. The answer is whether the identities of the routes
changed. -/
def refresh (store : Store) (disk : Disk) : Bool × Store :=
  let (snapshot, index) := store.index.scan disk
  let next := { store with index := index, snapshot := snapshot }
  if store.snapshot.identities = snapshot.identities then (false, next)
  else (true, next.publish snapshot.routes)

end Store

end RouteExplorer
