import RouteExplorer.Proofs.Route.Identity
import RouteExplorer.Proofs.Session.Consistency

namespace RouteExplorer

open Glob (PatternSet)

/-- A controller that a file is known by: it names the file, and its routes fit it. -/
structure Controller.FiledUnder (controller : Controller) (path : FilePath) : Prop where
  file : controller.sourceFile.same path = true
  coherent : controller.Coherent

/-- The routes are those of the controllers, which come from different files and are coherent. -/
structure Snapshot.WellFormed (snapshot : Snapshot) : Prop where
  whole : snapshot.routes = snapshot.controllers.flatMap Controller.routes
  distinct : snapshot.controllers.Pairwise fun left right => left.sourceFile.same right.sourceFile = false
  coherent : ∀ controller ∈ snapshot.controllers, controller.Coherent

theorem Snapshot.wellFormed_empty : Snapshot.empty.WellFormed := ⟨rfl, .nil, by simp [Snapshot.empty]⟩

theorem Snapshot.WellFormed.verb {snapshot : Snapshot} (formed : snapshot.WellFormed) {route : Route}
    (member : route ∈ snapshot.routes) : ∃ verb : Verb, route.httpMethod = verb.text := by
  rw [formed.whole] at member
  obtain ⟨controller, shown, owned⟩ := List.mem_flatMap.mp member
  exact (formed.coherent controller shown route owned).verb

theorem Controller.FiledUnder.congr {controller : Controller} {path other : FilePath}
    (filed : controller.FiledUnder path) (same : path.same other = true) : controller.FiledUnder other :=
  ⟨FilePath.same_trans filed.file same, filed.coherent⟩

namespace FileIndex

/-- What can happen to an index, over whatever disk: a file is loaded, from what is known or afresh, all files
are scanned, something is forgotten, or the patterns or the buffers change. -/
inductive Step : FileIndex → FileIndex → Prop where
  | load (index : FileIndex) (disk : Disk) (path : FilePath) (fresh : Bool) :
    Step index (index.controller? disk path fresh).2
  | scan (index : FileIndex) (disk : Disk) : Step index (index.scan disk).2
  | invalidate (index : FileIndex) (path : FilePath) : Step index (index.invalidate path)
  | dispose (index : FileIndex) : Step index index.dispose
  | configure (index : FileIndex) (patterns : PatternSet) : Step index { index with patterns := patterns }
  | edit (index : FileIndex) (overlay : Overlay) : Step index { index with overlay := overlay }

/-- Every file is known by a controller that names it. -/
def Filed (index : FileIndex) : Prop :=
  ∀ path known, index.cache.get? path = some known → known.FiledUnder path

variable {index next : FileIndex} {disk : Disk}

theorem filedUnder_of_parse? {path : FilePath} {found : Controller}
    (parsed : index.parse? disk path = some found) : found.FiledUnder path := by
  obtain ⟨text, _, parses⟩ := Option.bind_eq_some_iff.mp parsed
  obtain ⟨file, coherent⟩ := Controller.coherent_of_ofText? parses
  exact ⟨file ▸ FilePath.same_refl path, coherent⟩

theorem Filed.reload (filed : index.Filed) (disk : Disk) (path : FilePath) :
    (index.reload disk path).2.Filed := by
  intro other known found
  rw [reload_get?] at found
  split at found
  · next same => exact (filedUnder_of_parse? found).congr same
  · exact filed other known found

theorem Filed.load (filed : index.Filed) (disk : Disk) (path : FilePath) (fresh : Bool) :
    (index.controller? disk path fresh).2.Filed := by
  unfold controller?
  split
  · exact filed
  · exact filed.reload disk path

theorem Filed.scan (filed : index.Filed) (disk : Disk) : (index.scan disk).2.Filed := by
  intro path known found
  rw [scan_get?_eq_or] at found
  rcases Option.or_eq_some_iff.mp found with earlier | ⟨_, reads⟩
  · exact filed path known earlier
  · obtain ⟨other, first, parsed⟩ := Option.bind_eq_some_iff.mp reads
    have same : other.same path = true := by simpa using List.find?_some first
    exact (filedUnder_of_parse? parsed).congr same

theorem Filed.step (filed : index.Filed) (steps : index.Step next) : next.Filed := by
  cases steps with
  | load disk path fresh => exact filed.load disk path fresh
  | scan disk => exact filed.scan disk
  | invalidate path => exact fun other known found => filed other known (PathMap.get?_erase_eq_some.mp found).2
  | dispose =>
    intro path known found
    cases found
  | configure | edit => exact filed

/-- What a scan takes for a file names it, whether it was known or is read. -/
theorem Filed.filedUnder_of_taken? (filed : index.Filed) {path : FilePath} {found : Controller}
    (taken : index.taken? disk path = some found) : found.FiledUnder path := by
  rcases Option.or_eq_some_iff.mp taken with known | ⟨_, parsed⟩
  · exact filed path found known
  · exact filedUnder_of_parse? parsed

theorem Filed.listed_of_found (filed : index.Filed) {controller : Controller}
    (found : controller ∈ (index.scan disk).1.controllers) :
    ∃ file ∈ index.files disk, controller.sourceFile.same file = true := by
  obtain ⟨file, listed, taken⟩ := mem_controllers_scan.mp found
  exact ⟨file, listed, (filed.filedUnder_of_taken? taken).file⟩

theorem Filed.wellFormed_scan (filed : index.Filed) (disk : Disk) : (index.scan disk).1.WellFormed := by
  rw [scan_fst]
  refine ⟨rfl, ?_, ?_⟩
  · have distinct : (index.files disk).Pairwise fun left right => left.same right = false :=
      pairwise_distinctPaths _
    -- a controller names the file it was taken for, so two of one file would be two spellings of one path
    refine distinct.filterMap _ fun one other apart first taken second also => ?_
    have left := (filed.filedUnder_of_taken? taken).file
    have right := (filed.filedUnder_of_taken? also).file
    rw [Bool.eq_false_iff] at apart ⊢
    intro same
    rw [FilePath.same_comm] at left
    exact apart (FilePath.same_trans left (FilePath.same_trans same right))
  · intro controller member
    obtain ⟨path, _, taken⟩ := List.mem_filterMap.mp member
    exact (filed.filedUnder_of_taken? taken).coherent

end FileIndex

namespace Store

/-- A store that can be there: one over an index in which nothing is known yet, or one that is left by what
happens to a store or to its index. -/
inductive Reached : Store → Prop where
  | created (roots : List FilePath) (patterns : PatternSet) (overlay : Overlay) :
    Reached (.ofIndex ⟨roots, patterns, overlay, .empty⟩)
  | indexed {store : Store} {next : FileIndex} (reached : Reached store) (steps : store.index.Step next) :
    Reached { store with index := next }
  | refreshed {store : Store} (reached : Reached store) (disk : Disk) : Reached (store.refresh disk).2
  | subscribed {store : Store} (reached : Reached store) (name : String) : Reached (store.subscribe name)
  | unsubscribed {store : Store} (reached : Reached store) (name : String) : Reached (store.unsubscribe name)
  | received {store : Store} (reached : Reached store) (name : String) : Reached (store.receive name).2

variable {store : Store}

theorem Reached.filed (reached : store.Reached) : store.index.Filed := by
  induction reached with
  | created roots patterns overlay =>
    intro path known found
    cases found
  | indexed _ steps ih => exact ih.step steps
  | @refreshed store _ disk ih =>
    rw [refresh_index]
    exact ih.scan disk
  | subscribed _ _ ih | unsubscribed _ _ ih | received _ _ ih => exact ih

theorem Reached.wellFormed (reached : store.Reached) : store.snapshot.WellFormed := by
  induction reached with
  | created => exact Snapshot.wellFormed_empty
  | @refreshed store reached disk _ =>
    rw [refresh_snapshot]
    exact reached.filed.wellFormed_scan disk
  | indexed _ _ ih | subscribed _ _ ih | unsubscribed _ _ ih | received _ _ ih => exact ih

/-- Whatever is done to a store and to its index, the routes are those of the controllers in their order, the
controllers come from different files, and each route follows from its controller and its declared path. The
identities of routes, also of two stores, then tell their methods and full paths. -/
theorem snapshot_of_reached (reached : store.Reached) :
    store.snapshot.routes = store.snapshot.controllers.flatMap Controller.routes ∧
      (store.snapshot.controllers.Pairwise fun left right =>
        left.sourceFile.same right.sourceFile = false) ∧
      (∀ controller ∈ store.snapshot.controllers, ∀ route ∈ controller.routes,
        route.ownerName = controller.name ∧ route.sourceFile = controller.sourceFile ∧
          route.fullPath = Template.combine controller.basePath route.declaredPath ∧
          route.fullPath.toList.head? = some '/' ∧
          route.pathParameters = Template.parameters route.fullPath ∧
          ∃ verb : Verb, route.httpMethod = verb.text) ∧
      ∀ other : Store, other.Reached →
        ∀ left ∈ store.snapshot.routes, ∀ right ∈ other.snapshot.routes,
          (left.identity = right.identity ↔
            left.httpMethod = right.httpMethod ∧ left.fullPath = right.fullPath) := by
  have formed := reached.wellFormed
  refine ⟨formed.whole, formed.distinct, ?_, ?_⟩
  · intro controller shown route owned
    have fits := formed.coherent controller shown route owned
    exact ⟨fits.ownerName, fits.sourceFile, fits.fullPath, fits.rooted, fits.pathParameters, fits.verb⟩
  · intro other also left listed right present
    obtain ⟨_, left_method⟩ := formed.verb listed
    obtain ⟨_, right_method⟩ := also.wellFormed.verb present
    constructor
    · intro same
      exact Prod.mk.inj (Route.endpoint_eq_of_identity left_method right_method same)
    · rintro ⟨methods, paths⟩
      exact Route.identity_eq_of_endpoint (Prod.ext methods paths)

end Store

namespace Session

variable {session : Session}

theorem store_absorb (reached : session.store.Reached) (event : ChangeEvent) :
    (session.absorb event).store.Reached := by
  cases event with
  | created path =>
    rw [absorb_created]
    exact reached
  | deleted path =>
    rw [absorb_deleted]
    split
    · exact reached.indexed (.invalidate _ path)
    · exact reached
  | saved path =>
    rw [absorb_saved]
    split
    · exact reached.indexed (.invalidate _ path)
    · exact reached
  | configured config =>
    rw [absorb_configured]
    split
    · next patterns _ => exact (reached.indexed (.configure _ patterns)).indexed (.dispose _)
    · exact reached
  | rescan => exact reached.indexed (.dispose _)

theorem store_applyBatch (reached : session.store.Reached) (disk : Disk) (events : List ChangeEvent) :
    (session.applyBatch disk events).2.store.Reached := by
  have absorbed : (session.absorbed events).store.Reached := by
    induction events generalizing session with
    | nil => exact reached
    | cons event rest ih => exact ih (store_absorb reached event)
  rw [applyBatch_eq]
  split
  · exact absorbed.refreshed disk
  · exact absorbed

end Session

namespace Explorer

variable {explorer : Explorer}

theorem store_step (reached : explorer.session.store.Reached) (action : Action) :
    (explorer.step action).session.store.Reached := by
  cases action with
  | openBuffer | updateBuffer | closeBuffer => exact reached.indexed (.edit _ _)
  | apply event => exact Session.store_applyBatch reached explorer.disk [event]
  | applyBatch events => exact Session.store_applyBatch reached explorer.disk events
  | applyConfig config => exact Session.store_absorb reached (.configured config)
  | invalidate path => exact reached.indexed (.invalidate _ path)
  | dispose => exact reached.indexed (.dispose _)
  | refresh => exact reached.refreshed explorer.disk
  | _ => exact reached

theorem Reached.store (reached : explorer.Reached) : explorer.session.store.Reached := by
  obtain ⟨start, actions, fresh, rfl⟩ := reached
  refine run_induction (·.store.Reached) ?_ (fun _ action reached => store_step reached action) actions
  have unknown : start.session.index = { start.session.index with cache := .empty } := by
    rw [← fresh.unknown]
  rw [fresh.idle, unknown]
  exact .created _ _ _

end Explorer

namespace Store

open Explorer (controllerText diskOf overDirectories)

def catsText : String := controllerText "Cats" "@Get(':id')a()\x7b\x7d"

def overlappingStore : Store :=
  let index : FileIndex := { (overDirectories []).session.index with roots := [⟨"/"⟩, ⟨"/w"⟩] }
  let loaded := (index.controller? (diskOf [("w", catsText)]) ⟨"/w//a.ts"⟩ true).2
  (refresh { ofIndex index with index := loaded } (diskOf [("w", "")])).2

def catsSession : Explorer := (overDirectories [("v", catsText)]).step .refresh

theorem overlappingStore_formed :
    overlappingStore.Reached ∧ catsSession.session.store.Reached ∧
      overlappingStore.snapshot.controllers.map Controller.sourceFile = [⟨"/w//a.ts"⟩] ∧
      overlappingStore.snapshot.routes =
        overlappingStore.snapshot.controllers.flatMap Controller.routes ∧
      ∀ left ∈ overlappingStore.snapshot.routes, ∀ right ∈ catsSession.session.store.snapshot.routes,
        (left.identity = right.identity ↔
          left.httpMethod = right.httpMethod ∧ left.fullPath = right.fullPath) := by
  have reached : overlappingStore.Reached := .refreshed (.indexed (.created _ _ _) (.load _ _ _ _)) _
  have also : catsSession.Reached := ⟨_, [.refresh], Explorer.fresh_overDirectories (by decide), rfl⟩
  obtain ⟨whole, _, _, tell⟩ := snapshot_of_reached reached
  exact ⟨reached, also.store, by decide +kernel, whole, tell catsSession.session.store also.store⟩

end Store

end RouteExplorer
