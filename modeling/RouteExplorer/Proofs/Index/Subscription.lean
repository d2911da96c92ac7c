import RouteExplorer.Index.Store

namespace RouteExplorer.Store

theorem refresh_index (store : Store) (disk : Disk) :
    (store.refresh disk).2.index = (store.index.scan disk).2 := by
  dsimp only [refresh]
  split <;> rfl

theorem refresh_snapshot (store : Store) (disk : Disk) :
    (store.refresh disk).2.snapshot = (store.index.scan disk).1 := by
  dsimp only [refresh]
  split <;> rfl

theorem refresh_fst (store : Store) (disk : Disk) :
    (store.refresh disk).1 =
      decide (store.snapshot.identities ≠ (store.refresh disk).2.snapshot.identities) := by
  rw [refresh_snapshot]
  dsimp only [refresh]
  split
  · next same => simp [same]
  · next different => simp [different]

/-- The routes of a store are those of its controllers, in their order. -/
def Whole (store : Store) : Prop :=
  store.snapshot.routes = store.snapshot.controllers.flatMap Controller.routes

theorem whole_ofIndex (index : FileIndex) : (ofIndex index).Whole := rfl

theorem whole_refresh (store : Store) (disk : Disk) : (store.refresh disk).2.Whole := by
  rw [Whole, refresh_snapshot]
  rfl

/-- Some events wait for a subscriber of a name. -/
def Follows (store : Store) (name : String) (events : List (List Route)) : Prop :=
  store.subscribers.find? (fun subscriber => subscriber.name == name) = some ⟨name, events⟩

variable {store : Store} {name : String} {events : List (List Route)}

theorem Follows.waiting (follows : store.Follows name events) : store.waiting name = events := by
  rw [Store.waiting, follows]

theorem follows_subscribe (store : Store) (name : String) : (store.subscribe name).Follows name [] := by
  have others : (store.unsubscribe name).subscribers.find? (fun subscriber => subscriber.name == name) = none := by
    simp [unsubscribe, List.find?_eq_none]
  simp [Follows, subscribe, List.find?_append, others]

theorem Follows.unsubscribe (follows : store.Follows name events) {other : String} (different : other ≠ name) :
    (store.unsubscribe other).Follows name events := by
  unfold Follows Store.unsubscribe
  rw [List.find?_filter, ← follows]
  congr 1
  funext subscriber
  by_cases same : subscriber.name = name
  · simp [same, different.symm]
  · simp [same]

theorem Follows.subscribe (follows : store.Follows name events) {other : String} (different : other ≠ name) :
    (store.subscribe other).Follows name events := by
  have stays : (store.unsubscribe other).subscribers.find? (fun subscriber => subscriber.name == name) = _ :=
    follows.unsubscribe different
  unfold Follows Store.subscribe
  rw [List.find?_append, stays]
  rfl

private theorem find?_map_subscribers (change : Subscriber → Subscriber)
    (same : ∀ one, (change one).name = one.name) (subscribers : List Subscriber) (name : String) :
    (subscribers.map change).find? (fun subscriber => subscriber.name == name) =
      (subscribers.find? fun subscriber => subscriber.name == name).map change := by
  rw [List.find?_map]
  congr 2
  funext subscriber
  simp [same]

theorem Follows.publish (follows : store.Follows name events) (routes : List Route) :
    (store.publish routes).Follows name (events ++ [routes]) := by
  have found := find?_map_subscribers (fun one => { one with events := one.events ++ [routes] })
    (fun _ => rfl) store.subscribers name
  rw [follows] at found
  exact found

/-- Behind a handing over nothing waits for who received, and for all others what waited before. -/
theorem Follows.receive (follows : store.Follows name events) (other : String) :
    (store.receive other).2.Follows name (if other = name then [] else events) := by
  unfold Follows Store.receive
  rw [find?_map_subscribers, follows]
  · by_cases same : other = name
    · simp [same]
    · simp [same, Ne.symm same]
  · intro one
    split <;> rfl

/-- One more event waits behind a refresh that tells of a change, and none otherwise. -/
theorem Follows.refresh (follows : store.Follows name events) (disk : Disk) :
    (store.refresh disk).2.Follows name (events ++
      if (store.refresh disk).1 then [(store.refresh disk).2.snapshot.routes] else []) := by
  have scanned : Follows ⟨(store.index.scan disk).2, (store.index.scan disk).1, store.subscribers⟩
      name events :=
    follows
  rw [refresh_snapshot]
  unfold Store.refresh
  dsimp only
  split
  · simpa using scanned
  · exact scanned.publish _

/-- Who subscribes right before a refresh gets the routes behind it if it tells of a change, and nothing otherwise. -/
theorem waiting_refresh (store : Store) (name : String) (disk : Disk) :
    ((store.subscribe name).refresh disk).2.waiting name =
      if ((store.subscribe name).refresh disk).1 then [(store.refresh disk).2.snapshot.routes] else [] := by
  have same : ((store.subscribe name).refresh disk).2.snapshot = (store.refresh disk).2.snapshot := by
    rw [refresh_snapshot, refresh_snapshot]
    rfl
  rw [((follows_subscribe store name).refresh disk).waiting, List.nil_append, same]

end RouteExplorer.Store
