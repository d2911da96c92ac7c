import RouteExplorer.Proofs.Session.Run

namespace RouteExplorer

structure Indexer where
  disk : Disk
  store : Store

namespace Indexer

/-- What can happen to a store and to the disk below it. The index can change in every way, as when a file
is invalidated. -/
inductive Action where
  | changeDisk (disk : Disk)
  | changeIndex (change : FileIndex → FileIndex)
  | refresh
  | subscribe (name : String)
  | unsubscribe (name : String)
  | receive (name : String)

def step (indexer : Indexer) : Action → Indexer
  | .changeDisk disk => { indexer with disk }
  | .changeIndex change =>
    { indexer with store := { indexer.store with index := change indexer.store.index } }
  | .refresh => { indexer with store := (indexer.store.refresh indexer.disk).2 }
  | .subscribe name => { indexer with store := indexer.store.subscribe name }
  | .unsubscribe name => { indexer with store := indexer.store.unsubscribe name }
  | .receive name => { indexer with store := (indexer.store.receive name).2 }

def run (indexer : Indexer) (actions : List Action) : Indexer := actions.foldl step indexer

def identities (indexer : Indexer) : List String := indexer.store.snapshot.identities

/-- Whether an action is a refresh that tells of a change. -/
def tellsChange (indexer : Indexer) : Action → Bool
  | .refresh => (indexer.store.refresh indexer.disk).1
  | _ => false

def changeCount : Indexer → List Action → Nat
  | _, [] => 0
  | indexer, action :: rest =>
    (if indexer.tellsChange action then 1 else 0) + (indexer.step action).changeCount rest

/-- What an action hands over to a subscriber. -/
def handed (indexer : Indexer) (name : String) : Action → List (List Route)
  | .receive other => if other = name then (indexer.store.receive name).1 else []
  | _ => []

/-- All events that a subscriber gets in a run, those that wait for it at the end included. -/
def delivered (name : String) : Indexer → List Action → List (List Route)
  | indexer, [] => indexer.store.waiting name
  | indexer, action :: rest => indexer.handed name action ++ delivered name (indexer.step action) rest

/-- The action neither drops the subscriber of a name nor puts another one in its place. -/
def Action.keeps (name : String) : Action → Bool
  | .subscribe other | .unsubscribe other => other != name
  | _ => true

/-- What the store gives to its subscribers in a run: the routes behind each change. -/
def published : Indexer → List Action → List (List Route)
  | _, [] => []
  | indexer, action :: rest =>
    (if indexer.tellsChange action then [(indexer.step action).store.snapshot.routes] else []) ++
      (indexer.step action).published rest

variable {indexer : Indexer} {name : String}

theorem tellsChange_iff (indexer : Indexer) (action : Action) :
    indexer.tellsChange action = true ↔ indexer.identities ≠ (indexer.step action).identities := by
  cases action with
  | refresh =>
    change (indexer.store.refresh indexer.disk).1 = true ↔ _
    rw [Store.refresh_fst, decide_eq_true_iff]
    rfl
  | _ => simp [tellsChange, identities, step, Store.subscribe, Store.unsubscribe, Store.receive]

/-- What was handed over and what waits behind an action are what waited before it and what it published. -/
theorem follows_step {waiting : List (List Route)} (follows : indexer.store.Follows name waiting)
    {action : Action} (alive : action.keeps name = true) :
    ∃ later, (indexer.step action).store.Follows name later ∧
      indexer.handed name action ++ later = waiting ++
        if indexer.tellsChange action then [(indexer.step action).store.snapshot.routes] else [] := by
  cases action with
  | changeDisk | changeIndex => exact ⟨waiting, follows, by simp [handed, tellsChange]⟩
  | refresh => exact ⟨_, follows.refresh indexer.disk, rfl⟩
  | subscribe other =>
    have different : other ≠ name := by simpa [Action.keeps] using alive
    exact ⟨waiting, follows.subscribe different, by simp [handed, tellsChange]⟩
  | unsubscribe other =>
    have different : other ≠ name := by simpa [Action.keeps] using alive
    exact ⟨waiting, follows.unsubscribe different, by simp [handed, tellsChange]⟩
  | receive other =>
    refine ⟨_, follows.receive other, ?_⟩
    by_cases same : other = name
    · subst same
      have received : (indexer.store.receive other).1 = waiting := follows.waiting
      simp [handed, tellsChange, received]
    · simp [handed, tellsChange, same]

/-- A subscriber gets what waited for it, and then what the store publishes. -/
theorem delivered_eq_published {waiting : List (List Route)} (follows : indexer.store.Follows name waiting)
    {actions : List Action} (alive : ∀ action ∈ actions, action.keeps name = true) :
    indexer.delivered name actions = waiting ++ indexer.published actions := by
  induction actions generalizing indexer waiting with
  | nil => simpa [delivered, published] using follows.waiting
  | cons action rest ih =>
    obtain ⟨later, follows_later, handing⟩ := follows_step follows (alive action (by simp))
    have others := ih follows_later fun other member => alive other (List.mem_cons_of_mem _ member)
    rw [delivered, others, ← List.append_assoc, handing, List.append_assoc]
    rfl

theorem length_published (indexer : Indexer) (actions : List Action) :
    (indexer.published actions).length = indexer.changeCount actions := by
  induction actions generalizing indexer with
  | nil => rfl
  | cons action rest ih =>
    rw [published, changeCount, List.length_append, ih]
    split <;> rfl

/-- The identities that a run publishes, one change after another, lead from the identities before the run to
those behind it. -/
theorem published_replays (indexer : Indexer) (actions : List Action) :
    (indexer.identities :: (indexer.published actions).map (List.map Route.identity)).IsChain (· ≠ ·) ∧
      ((indexer.published actions).map (List.map Route.identity)).getLast?.getD indexer.identities =
        (indexer.run actions).identities := by
  induction actions generalizing indexer with
  | nil => exact ⟨.singleton _, rfl⟩
  | cons action rest ih =>
    obtain ⟨chain, last⟩ := ih (indexer.step action)
    have told := indexer.tellsChange_iff action
    rw [published]
    by_cases changes : indexer.tellsChange action = true
    · have news : (indexer.step action).store.snapshot.routes.map Route.identity =
          (indexer.step action).identities :=
        rfl
      rw [if_pos changes, List.singleton_append, List.map_cons, news, List.getLast?_cons, Option.getD_some]
      exact ⟨.cons_cons (told.mp changes) chain, last⟩
    · have same : indexer.identities = (indexer.step action).identities := by
        simpa [changes] using told
      rw [if_neg changes, List.nil_append, same]
      exact ⟨chain, last⟩

/-- Since it came, a subscriber that stays got one event for each refresh that told of a change. Each event
brings other identities than the one before, the first one others than the store had when the subscriber
came, and the last one brings those that the store has now. -/
theorem delivered_replays (indexer : Indexer) (name : String) {actions : List Action}
    (alive : ∀ action ∈ actions, action.keeps name = true) :
    let start := indexer.step (.subscribe name)
    let brought := (start.delivered name actions).map (List.map Route.identity)
    brought.length = start.changeCount actions ∧
      (start.identities :: brought).IsChain (· ≠ ·) ∧
      brought.getLast?.getD start.identities = (start.run actions).identities := by
  have follows : (indexer.step (.subscribe name)).store.Follows name [] :=
    Store.follows_subscribe indexer.store name
  dsimp only
  rw [delivered_eq_published follows alive, List.nil_append, List.length_map, length_published]
  exact ⟨rfl, published_replays _ actions⟩

open Explorer (controllerText diskOf overDirectories)

def catsIndexer : Indexer :=
  let texts := [("w", controllerText "Cats" "@Get()a()\x7b\x7d")]
  ⟨diskOf texts, (overDirectories texts).session.store⟩

def catsActions : List Action :=
  [.subscribe "log", .refresh, .receive "client",
    .changeDisk (diskOf [("w", controllerText "Dogs" "@Get()a()\x7b\x7d")]),
    .changeIndex fun index => index.invalidate ⟨"/w/a.ts"⟩, .refresh, .unsubscribe "log",
    .changeDisk (diskOf [("w", controllerText "Dogs" "@Get()a()\x7b\x7d@Post()b()\x7b\x7d")]),
    .changeIndex FileIndex.dispose, .refresh]

theorem catsActions_replayed :
    (∀ action ∈ catsActions, action.keeps "client" = true) ∧
      let start := catsIndexer.step (.subscribe "client")
      let brought := (start.delivered "client" catsActions).map (List.map Route.identity)
      brought = [["GET /"], ["GET /", "POST /"]] ∧ brought.length = start.changeCount catsActions ∧
        (start.identities :: brought).IsChain (· ≠ ·) ∧
        brought.getLast?.getD start.identities = (start.run catsActions).identities := by
  have alive : ∀ action ∈ catsActions, action.keeps "client" = true := by
    simp [catsActions, Action.keeps]
  exact ⟨alive, by decide +kernel, delivered_replays catsIndexer "client" alive⟩

end Indexer

end RouteExplorer
