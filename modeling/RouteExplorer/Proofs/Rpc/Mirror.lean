import RouteExplorer.Proofs.Json.Fields
import RouteExplorer.Proofs.Rpc.Transcript

/-!
What a client that reads search results has in view. As long as only searches set the query, the last
result that the client was sent shows what a search for that query would show now, through all changes
of which the client was not told.
-/
namespace RouteExplorer.Rpc

open Json (Value)
open Search (MatchedRoute SearchResult ViewState HighlightSpan)

def flatItems? (result : Value) : Option (List Value) :=
  match result.get "flat" with
  | .array items => some items
  | _ => none

/-- The flat list that a line brings: that of its result, or of the search result that it tells. -/
def flatOf? (line : Value) : Option (List Value) :=
  (flatItems? (line.get "result")).or (flatItems? ((line.get "params").get "searchResult"))

/-- The method, the full path and the highlights of an item of a flat list. -/
def entryOf (item : Value) : Value × Value × Value :=
  ((item.get "route").get "httpMethod", (item.get "route").get "fullPath", item.get "highlightSpans")

/-- The entries of the last flat list in some lines. -/
def mirror (lines : List Value) : Option (List (Value × Value × Value)) :=
  (lines.filterMap flatOf?).getLast?.map (·.map entryOf)

/-- Whether a message is a request that sets the query without groups. -/
def Message.searchesFlat : Message → Bool
  | .line text =>
    match Envelope.parse text with
    | .ok envelope =>
      match Request.decode envelope.method envelope.parameters with
      | .ok (.searchFlat _) => true
      | _ => false
    | .error _ => false
  | _ => false

theorem mirror_append (front back : List Value) : mirror (front ++ back) = (mirror back).or (mirror front) := by
  unfold mirror
  rw [List.filterMap_append, List.getLast?_append]
  cases (back.filterMap flatOf?).getLast? <;> rfl

def entryOfShown (shown : (String × String) × List HighlightSpan) : Value × Value × Value :=
  (.string shown.1.1, .string shown.1.2, (Value.array (shown.2.map HighlightSpan.encode)).ordered)

theorem entryOf_encode (matched : MatchedRoute) :
    entryOf matched.encode.ordered = entryOfShown matched.shown := by
  have route : matched.encode.ordered.get "route" = matched.route.encode.ordered := by
    simp [MatchedRoute.encode, Value.get_ordered, List.lookup_cons]
  have spans : matched.encode.ordered.get "highlightSpans" =
      (Value.array (matched.spans.map HighlightSpan.encode)).ordered := by
    simp [MatchedRoute.encode, Value.get_ordered]
  have httpMethod : matched.route.encode.ordered.get "httpMethod" = .string matched.route.httpMethod := by
    simp [Route.encode, Value.get_ordered, List.lookup_cons]
    rfl
  have fullPath : matched.route.encode.ordered.get "fullPath" = .string matched.route.fullPath := by
    simp [Route.encode, Value.get_ordered, List.lookup_cons]
    rfl
  rw [entryOf, route, spans, httpMethod, fullPath]
  rfl

theorem flatItems?_encode (result : SearchResult) :
    flatItems? result.encode.ordered = some (result.flat.map fun matched => matched.encode.ordered) := by
  have flat : result.encode.ordered.get "flat" =
      (Value.array (result.flat.map MatchedRoute.encode)).ordered := by
    simp [SearchResult.encode, Value.get_ordered, List.lookup_cons]
  rw [flatItems?, flat, Value.ordered, Value.orderedItems_eq, List.map_map]
  rfl

theorem flatItems?_array (items : List Value) : flatItems? (Value.array items).ordered = none := by
  rw [Value.ordered]
  rfl

theorem flatItems?_of_absent {fields : Json.Fields} (absent : "flat" ∉ fields.map Prod.fst) :
    flatItems? (Value.object fields).ordered = none := by
  have unknown : (fields.map fun field => (field.1, field.2.ordered)).reverse.lookup "flat" = none := by
    apply List.lookup_eq_none_iff.mpr
    simp only [List.mem_reverse, List.mem_map]
    rintro _ ⟨field, member, rfl⟩
    apply bne_iff_ne.mpr
    intro same
    exact absent (List.mem_map.mpr ⟨field, member, same.symm⟩)
  rw [flatItems?, Value.get_ordered, unknown]
  rfl

theorem flatItems?_viewState (view : ViewState) : flatItems? view.encode.ordered = none := by
  apply flatItems?_of_absent
  cases view.focusedOwner <;> simp

theorem flatItems?_answer {disk : Disk} {session next : Session} {request : Request} {value : Value}
    (answers : answer disk session request = .ok (value, next)) (other : request.query? = none) :
    flatItems? value.ordered = none := by
  cases request with
  | search query | searchFlat query => simp [Request.query?] at other
  | listMethods | routes | controllers =>
    cases answers
    exact flatItems?_array _
  | viewState | toggleOwner owner | toggleDisplayMode =>
    cases answers
    exact flatItems?_viewState _
  | refresh | bufferOpen given text version | bufferUpdate given text version | bufferClose given
  | fileEvent change given =>
    cases answers
    exact flatItems?_of_absent (by simp)
  | locateRoute httpMethod fullPath =>
    have performs := Handler.outcome_eq_ok.mp answers
    rw [perform_locateRoute] at performs
    split at performs
    · cases performs
    · split at performs
      · cases performs
        exact flatItems?_of_absent (by simp)
      · cases performs
  | locateFile given =>
    have performs := Handler.outcome_eq_ok.mp answers
    rw [perform_locateFile] at performs
    split at performs
    · cases performs
      exact flatItems?_of_absent (by simp)
    · cases performs

theorem flatOf?_result (id value : Value) : flatOf? (resultResponse id value) = flatItems? value := by
  have result : (resultResponse id value).get "result" = value := by
    simp [resultResponse, Value.get, List.lookup_cons]
  have parameters : (resultResponse id value).get "params" = .null := by
    simp [resultResponse, Value.get, List.lookup_cons]
  rw [flatOf?, result, parameters]
  exact Option.or_none

theorem flatOf?_error (id : Value) (message : String) : flatOf? (errorResponse id message) = none := by
  have result : (errorResponse id message).get "result" = .null := by
    simp [errorResponse, Value.get, List.lookup_cons]
  have parameters : (errorResponse id message).get "params" = .null := by
    simp [errorResponse, Value.get, List.lookup_cons]
  rw [flatOf?, result, parameters]
  rfl

theorem flatOf?_routesChanged (result : SearchResult) (view : ViewState) :
    flatOf? (Server.routesChanged result view) =
      some (result.flat.map fun matched => matched.encode.ordered) := by
  have nothing : (Server.routesChanged result view).get "result" = .null := by
    simp [Server.routesChanged, Value.get, List.lookup_cons]
  have parameters : (Server.routesChanged result view).get "params" =
      (Value.object [("searchResult", result.encode), ("viewState", view.encode)]).ordered := by
    simp [Server.routesChanged, Value.get, List.lookup_cons]
  have told : (Value.object [("searchResult", result.encode), ("viewState", view.encode)]).ordered.get
      "searchResult" = result.encode.ordered := by
    simp [Value.get_ordered, List.lookup_cons]
  rw [flatOf?, nothing, parameters, told, flatItems?_encode]
  rfl

theorem mirror_singleton (line : Value) : mirror [line] = (flatOf? line).map (·.map entryOf) := by
  cases found : flatOf? line <;> simp [mirror, found]

namespace Server

/-- What a client should have in view: the entries of the current query. -/
def entries (server : Server) : List (Value × Value × Value) :=
  (Search.searchEndpoints Search.fuzzyMatch server.endpoints server.session.query).map entryOfShown

/-- A line with the result of a search brings the entries of its query. -/
theorem mirror_of_search {session : Session} (consistent : session.Consistent) {query : String} {line : Value}
    (brings : flatOf? line =
      some ((session.searchGrouped query).1.flat.map fun matched => matched.encode.ordered)) :
    mirror [line] = some (Server.mk (session.searchGrouped query).2).entries := by
  have shown := consistent.shown_searchGrouped query
  rw [mirror_singleton, brings, Option.map_some]
  congr 1
  change _ = (Search.searchEndpoints _ session.store.snapshot.endpoints query).map entryOfShown
  rw [← shown, List.map_map, List.map_map]
  exact List.map_congr_left fun matched _ => entryOf_encode matched

variable {server : Server} {disk : Disk}

/-- A request brings the entries of its query, or no entries, and then the query stays. -/
theorem Ready.mirror_respondToLine (ready : server.Ready) (disk : Disk) {text : String}
    (grouped : (Message.line text).searchesFlat = false) :
    mirror [(server.respondToLine disk text).1] = some (server.respondToLine disk text).2.entries ∨
      (mirror [(server.respondToLine disk text).1] = none ∧
        (server.respondToLine disk text).2.session.query = server.session.query) := by
  unfold respondToLine
  cases read : Envelope.parse text with
  | error fault => exact .inr ⟨by rw [mirror_singleton, flatOf?_error]; rfl, rfl⟩
  | ok envelope =>
    dsimp only
    rcases server.respond_cases disk envelope with
      ⟨request, value, next, decodes, answers, responds⟩ | ⟨_, responds⟩
    · rw [responds]
      cases set : request.query? with
      | none =>
        refine .inr ⟨?_, ?_⟩
        · rw [mirror_singleton, flatOf?_result, flatItems?_answer answers set]
          rfl
        · have query := (answer_advances answers).2
          rwa [set] at query
      | some query =>
        left
        cases request with
        | search query =>
          cases answers
          exact mirror_of_search ready.consistent
            ((flatOf?_result _ _).trans (flatItems?_encode (server.session.searchGrouped query).1))
        | searchFlat query => simp [Message.searchesFlat, read, decodes] at grouped
        | _ => cases set
    · rw [responds]
      exact .inr ⟨by rw [mirror_singleton, flatOf?_error]; rfl, rfl⟩

theorem Ready.mirror_reply (ready : server.Ready) (disk : Disk) {message : Message}
    (grouped : message.searchesFlat = false) :
    mirror (server.reply disk message).1 = some (server.reply disk message).2.entries ∨
      (mirror (server.reply disk message).1 = none ∧
        (server.reply disk message).2.session.query = server.session.query) := by
  cases message with
  | line text =>
    rw [reply]
    split
    · exact .inr ⟨rfl, rfl⟩
    · exact ready.mirror_respondToLine disk grouped
  | changes events => exact .inr ⟨rfl, server.session.query_applyBatch disk events⟩
  | inputClosed => exact .inr ⟨rfl, rfl⟩

/-- What is written for a message brings the client up to date, or nothing of what the client should have in
view has changed. -/
theorem Ready.mirror_handleMessage (ready : server.Ready) (disk : Disk) {message : Message}
    (grouped : message.searchesFlat = false) :
    mirror (server.handleMessage disk message).1 = some (server.handleMessage disk message).2.entries ∨
      (mirror (server.handleMessage disk message).1 = none ∧
        (server.handleMessage disk message).2.entries = server.entries) := by
  by_cases opens : message = .inputClosed
  · subst opens
    exact .inr ⟨rfl, rfl⟩
  obtain ⟨consistent, _, events, follows, unchanged⟩ := ready.advance (server.reply_advances disk message)
  rw [ready.handleMessage_eq disk opens, mirror_append]
  by_cases waiting : events = []
  · -- a refresh may have replaced the snapshot, but entries are made of endpoints only
    have same := unchanged.mp waiting
    subst waiting
    rw [notify_of_nothing follows]
    refine (ready.mirror_reply disk grouped).imp id fun ⟨silent, query⟩ => ⟨silent, ?_⟩
    unfold entries
    rw [query, same]
    rfl
  · obtain ⟨told, idle, _, _, notifies⟩ := notify_of_waiting follows waiting
    have brings := mirror_of_search (consistent.idle idle) (flatOf?_routesChanged
      (told.searchGrouped told.query).1 (told.searchGrouped told.query).2.view)
    rw [notifies, brings]
    exact .inl rfl

theorem Ready.mirror_serve (ready : server.Ready) {turns : List Turn}
    (grouped : ∀ turn ∈ turns, turn.message.searchesFlat = false) :
    mirror (server.serve turns).1 = some (server.serve turns).2.entries ∨
      (mirror (server.serve turns).1 = none ∧ (server.serve turns).2.entries = server.entries) := by
  induction turns generalizing server with
  | nil => exact .inr ⟨rfl, rfl⟩
  | cons turn rest ih =>
    by_cases closed : turn.message = .inputClosed
    · rw [Server.serve, if_pos closed]
      exact .inr ⟨rfl, rfl⟩
    · rw [Server.serve, if_neg closed]
      have first := ready.mirror_handleMessage turn.disk (grouped turn (by simp))
      have later := ih (ready.handleMessage turn.disk turn.message) fun other member =>
        grouped other (List.mem_cons_of_mem _ member)
      dsimp only
      rw [mirror_append]
      rcases later with current | ⟨silent, same⟩
      · exact .inl (by rw [current]; rfl)
      · rw [silent, same]
        exact first

def currentSearch (server : Server) : Value := .object [("query", .string server.session.query)]

/-- As long as only searches set the query, a client that was sent a search result has in view what a search
for the current query would show now. -/
theorem mirror_serve_current {explorer : Explorer} (reached : explorer.Reached) {turns : List Turn}
    (grouped : ∀ turn ∈ turns, turn.message.searchesFlat = false)
    (told : mirror ((ofSession explorer.session).serve turns).1 ≠ none) (disk : Disk) (id : Value) :
    mirror ((ofSession explorer.session).serve turns).1 =
      mirror [(((ofSession explorer.session).serve turns).2.respond disk
        ⟨id, "search", ((ofSession explorer.session).serve turns).2.currentSearch⟩).1] := by
  have ready := ready_ofSession reached
  have current := (ready.mirror_serve grouped).resolve_right fun ⟨silent, _⟩ => told silent
  have behind := (ready.serve turns).consistent
  rw [current]
  exact (mirror_of_search behind ((flatOf?_result _ _).trans (flatItems?_encode
    (((ofSession explorer.session).serve turns).2.session.searchGrouped _).1))).symm

open Explorer (diskOf)

theorem catsTurns_mirrored :
    catsExplorer.Reached ∧ (∀ turn ∈ catsTurns, turn.message.searchesFlat = false) ∧
      mirror ((ofSession catsExplorer.session).serve catsTurns).1 ≠ none ∧
      mirror ((ofSession catsExplorer.session).serve catsTurns).1 =
        mirror [(((ofSession catsExplorer.session).serve catsTurns).2.respond (diskOf twoRoutes)
          ⟨.null, "search", ((ofSession catsExplorer.session).serve catsTurns).2.currentSearch⟩).1] := by
  have grouped : ∀ turn ∈ catsTurns, turn.message.searchesFlat = false := by decide +kernel
  have told : mirror ((ofSession catsExplorer.session).serve catsTurns).1 ≠ none := by
    have some : (mirror ((ofSession catsExplorer.session).serve catsTurns).1).isSome = true := by decide +kernel
    intro nothing
    rw [nothing] at some
    cases some
  exact ⟨reached_catsExplorer, grouped, told, mirror_serve_current reached_catsExplorer grouped told _ _⟩

end Server

end RouteExplorer.Rpc
