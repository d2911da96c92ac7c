import RouteExplorer.Proofs.Route.Ownership

namespace RouteExplorer

def Route.endpoint (route : Route) : String × String := (route.httpMethod, route.fullPath)

def Snapshot.endpoints (snapshot : Snapshot) : List (String × String) := snapshot.routes.map Route.endpoint

def Controller.HasVerbs (controller : Controller) : Prop :=
  ∀ route ∈ controller.routes, ∃ verb : Verb, route.httpMethod = verb.text

theorem Controller.hasVerbs_of_ofText? {file : FilePath} {text : String} {controller : Controller}
    (found : Controller.ofText? file text = some controller) : controller.HasVerbs :=
  fun route member => ((Controller.coherent_of_ofText? found).2 route member).verb

theorem Verb.noBlank (verb : Verb) : ∀ character ∈ verb.text.toList, (character != ' ') = true := by
  have all : verb.text.toList.all (· != ' ') = true := by cases verb <;> decide
  exact List.all_eq_true.mp all

/-- An identity begins with the method, up to the first blank. -/
private theorem takeWhile_identity {route : Route} {verb : Verb} (method : route.httpMethod = verb.text) :
    route.identity.toList.takeWhile (· != ' ') = verb.text.toList := by
  have blank : " ".toList = [' '] := rfl
  rw [Route.identity, method, String.toList_append, String.toList_append, blank, List.append_assoc,
    List.takeWhile_append_of_pos verb.noBlank]
  simp

theorem Route.endpoint_eq_of_identity {left right : Route} {first second : Verb}
    (left_method : left.httpMethod = first.text) (right_method : right.httpMethod = second.text)
    (same : left.identity = right.identity) : left.endpoint = right.endpoint := by
  have methods : left.httpMethod = right.httpMethod := by
    rw [left_method, right_method]
    apply String.toList_inj.mp
    rw [← takeWhile_identity left_method, ← takeWhile_identity right_method, same]
  have paths : left.fullPath = right.fullPath := by
    rw [Route.identity, Route.identity, methods] at same
    exact String.append_right_inj _ |>.mp same
  rw [Route.endpoint, Route.endpoint, methods, paths]

theorem Route.identity_eq_of_endpoint {left right : Route} (same : left.endpoint = right.endpoint) :
    left.identity = right.identity := by
  obtain ⟨methods, paths⟩ := Prod.mk.inj same
  rw [Route.identity, Route.identity, methods, paths]

private theorem map_eq_map_iff {α β γ : Type} {left : α → β} {right : α → γ} {first second : List α}
    (agree : ∀ one ∈ first, ∀ other ∈ second, left one = left other ↔ right one = right other) :
    first.map left = second.map left ↔ first.map right = second.map right := by
  induction first generalizing second with
  | nil => cases second <;> simp
  | cons one rest ih =>
    cases second with
    | nil => simp
    | cons other others =>
      have later := ih fun one member other present =>
        agree one (List.mem_cons_of_mem _ member) other (List.mem_cons_of_mem _ present)
      simp [agree one (by simp) other (by simp), later]

/-- Between snapshots of verbs the identities agree exactly when the endpoints do. -/
theorem Snapshot.identities_eq_iff {left right : Snapshot}
    (left_verbs : ∀ route ∈ left.routes, ∃ verb : Verb, route.httpMethod = verb.text)
    (right_verbs : ∀ route ∈ right.routes, ∃ verb : Verb, route.httpMethod = verb.text) :
    left.identities = right.identities ↔ left.endpoints = right.endpoints := by
  apply map_eq_map_iff
  intro one member other present
  obtain ⟨_, one_method⟩ := left_verbs one member
  obtain ⟨_, other_method⟩ := right_verbs other present
  exact ⟨Route.endpoint_eq_of_identity one_method other_method, Route.identity_eq_of_endpoint⟩

end RouteExplorer
