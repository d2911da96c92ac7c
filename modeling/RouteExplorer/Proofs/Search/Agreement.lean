import Mathlib.Data.List.Forall2
import RouteExplorer.Proofs.Index.Replay
import RouteExplorer.Proofs.Search.Endpoints

namespace RouteExplorer

open Search (MatchedRoute OwnerGroup)

/-- A group shows a controller with all of its routes. -/
structure Search.OwnerGroup.ShowsAll (group : OwnerGroup) (controller : Controller) : Prop where
  ownerName : group.ownerName = controller.name
  basePath : group.basePath = controller.basePath
  sourceFile : group.sourceFile = controller.sourceFile
  matchedRoutes : group.matchedRoutes = controller.routes.map MatchedRoute.plain
  totalRoutes : group.totalRoutes = controller.routes.length

namespace Session

variable {session : Session}

theorem aligned_ofStore {store : Store} (whole : store.Whole) : (ofStore store).Aligned :=
  ⟨whole, rfl, rfl⟩

/-- What a session searches behind a refresh if it takes over what each event in its queue brings, those it missed
before among them, and asks the store where the refresh tells of no change. -/
def takenOver (session : Session) (disk : Disk) (name : String) (missed : List (List Route)) : List Route :=
  let (changed, store) := (session.store.subscribe name).refresh disk
  let heard := (missed ++ store.waiting name).foldl (fun _ routes => routes) session.searched
  if changed then heard else store.snapshot.routes

/-- The queue need not be kept: the last event of a refresh that tells of a change brings what the store holds. -/
theorem searched_refresh (session : Session) (disk : Disk) (name : String) (missed : List (List Route)) :
    (session.refresh disk).2.searched = session.takenOver disk name missed := by
  have searched : (session.refresh disk).2.searched = (session.store.refresh disk).2.snapshot.routes :=
    (session.refresh_follows disk).1
  have waiting := session.store.waiting_refresh name disk
  unfold takenOver
  dsimp only
  split
  · next loud => rw [searched, waiting, if_pos loud, List.foldl_concat]
  · rw [searched, Store.refresh_snapshot, Store.refresh_snapshot]
    rfl

theorem Aligned.flat_eq_searchFlat (aligned : session.Aligned) (query : String) :
    (session.searchGrouped query).1.flat = (session.searchFlat query).1 := by
  rw [aligned.flat_searchGrouped, searchFlat, aligned.searched]

theorem Aligned.totalEndpoints_eq (aligned : session.Aligned) :
    session.grouping.totalEndpoints = session.store.snapshot.routes.length := by
  rw [Search.Grouping.totalEndpoints, aligned.grouped, aligned.whole, List.length_flatMap]
  rfl

theorem Aligned.totalEndpoints_searchGrouped (aligned : session.Aligned) (query : String) :
    (session.searchGrouped query).1.totalEndpoints = session.store.snapshot.routes.length := by
  rw [← aligned.totalEndpoints_eq]
  unfold searchGrouped
  dsimp only
  split <;> rfl

theorem Aligned.totalMatches_searchGrouped (aligned : session.Aligned) (query : String) :
    (session.searchGrouped query).1.totalMatches = (session.searchGrouped query).1.flat.length := by
  by_cases blank : Text.isAllBlank query = true
  · -- here the number is that of all endpoints, and the list is made of the controllers
    have total : (session.searchGrouped query).1.totalMatches = session.grouping.totalEndpoints := by
      rw [searchGrouped, if_pos blank]
      rfl
    rw [total, aligned.totalEndpoints_eq, aligned.flat_searchGrouped, Search.search, Search.searchWith,
      if_pos blank, List.length_map]
  · rw [searchGrouped, if_neg blank]
    rfl

theorem Aligned.flat_of_blank (aligned : session.Aligned) {query : String}
    (blank : Text.isAllBlank query = true) :
    (session.searchGrouped query).1.flat = session.store.snapshot.routes.map MatchedRoute.plain := by
  rw [aligned.flat_searchGrouped, Search.search, Search.searchWith, if_pos blank]

theorem Aligned.grouped_of_blank (aligned : session.Aligned) {query : String}
    (blank : Text.isAllBlank query = true) :
    List.Forall₂ OwnerGroup.ShowsAll (session.searchGrouped query).1.grouped
      session.store.snapshot.controllers := by
  rw [searchGrouped, if_pos blank, ← aligned.grouped]
  exact List.forall₂_map_left_iff.mpr <| List.forall₂_same.mpr fun controller _ => ⟨rfl, rfl, rfl, rfl, rfl⟩

end Session

theorem Indexer.whole_step {indexer : Indexer} (whole : indexer.store.Whole) (action : Indexer.Action) :
    (indexer.step action).store.Whole := by
  cases action with
  | refresh => exact indexer.store.whole_refresh indexer.disk
  | _ => exact whole

theorem Indexer.whole_run {indexer : Indexer} (whole : indexer.store.Whole) (actions : List Indexer.Action) :
    (indexer.run actions).store.Whole := by
  induction actions generalizing indexer with
  | nil => exact whole
  | cons action rest ih => exact ih (whole_step whole action)

namespace Explorer

theorem aligned_step {explorer : Explorer} (aligned : explorer.session.Aligned) (action : Action) :
    (explorer.step action).session.Aligned := by
  rcases explorer.step_cases action with ⟨session, _, _, steps⟩ | ⟨_, idle⟩
  · rw [steps]
    exact session.aligned_refresh explorer.disk
  · exact aligned.idle idle

/-- For a session over any store and after anything that happens to it, both searches find the same. The
counts are those of the matches and of the routes of the store, and a blank query shows the whole store. Behind
one more refresh the session searches the routes that the last event in its queue has brought. -/
theorem searches_agree (disk : Disk) (index : FileIndex) (earlier : List Indexer.Action)
    (actions : List Action) (query : String) :
    let opened := Indexer.run ⟨disk, .ofIndex index⟩ earlier
    let session := (run ⟨opened.disk, .ofStore opened.store⟩ actions).session
    let found := (session.searchGrouped query).1
    found.flat = (session.searchFlat query).1 ∧
      found.totalMatches = found.flat.length ∧
      found.totalEndpoints = session.store.snapshot.routes.length ∧
      (Text.isAllBlank query = true →
        found.flat = session.store.snapshot.routes.map MatchedRoute.plain ∧
          List.Forall₂ OwnerGroup.ShowsAll found.grouped session.store.snapshot.controllers) ∧
      ∀ later name missed,
        (session.refresh later).2.searched = session.takenOver later name missed := by
  intro opened session found
  have whole : opened.store.Whole := Indexer.whole_run (Store.whole_ofIndex index) earlier
  have aligned : session.Aligned :=
    run_induction Session.Aligned (Session.aligned_ofStore whole)
      (fun _ action aligned => aligned_step aligned action) actions
  exact ⟨aligned.flat_eq_searchFlat query, aligned.totalMatches_searchGrouped query,
    aligned.totalEndpoints_searchGrouped query,
    fun blank => ⟨aligned.flat_of_blank blank, aligned.grouped_of_blank blank⟩, session.searched_refresh⟩

def twoOwners : Explorer :=
  overDirectories [("v", controllerText "Cats" "@Get('one')a(){}"),
    ("w", controllerText "Dogs" "@Get('two')a(){}")]

def renameDogs : List Action :=
  [.toggleOwner "Cats", .openBuffer ⟨"/w/a.ts"⟩ (controllerText "Birds" "@Get('two')a(){}") 1,
    .searchFlat "two", .apply (.saved ⟨"/w/a.ts"⟩)]

theorem renameDogs_agrees :
    Text.isAllBlank " " = true ∧
      let opened := Indexer.run ⟨twoOwners.disk, .ofIndex twoOwners.session.index⟩ [.refresh]
      let session := (run ⟨opened.disk, .ofStore opened.store⟩ renameDogs).session
      let found := (session.searchGrouped " ").1
      found.grouped.map OwnerGroup.ownerName = ["Cats", "Birds"] ∧
        found.flat = session.store.snapshot.routes.map MatchedRoute.plain ∧
        List.Forall₂ OwnerGroup.ShowsAll found.grouped session.store.snapshot.controllers := by
  have blank : Text.isAllBlank " " = true := by decide
  have agrees := searches_agree twoOwners.disk twoOwners.session.index [.refresh] renameDogs " "
  exact ⟨blank, by decide +kernel, agrees.2.2.2.1 blank⟩

end Explorer

end RouteExplorer
