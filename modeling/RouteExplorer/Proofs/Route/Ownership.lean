import RouteExplorer.Route.Extraction

namespace RouteExplorer

/-- All routes of a controller carry its name and its file. -/
def Controller.OwnsRoutes (controller : Controller) : Prop :=
  ∀ route ∈ controller.routes,
    route.ownerName = controller.name ∧ route.sourceFile = controller.sourceFile

/-- How a route follows from the controller that it is extracted for and from its declared path. -/
structure Route.Fits (route : Route) (owner : Controller) : Prop where
  ownerName : route.ownerName = owner.name
  sourceFile : route.sourceFile = owner.sourceFile
  fullPath : route.fullPath = Template.combine owner.basePath route.declaredPath
  pathParameters : route.pathParameters = Template.parameters route.fullPath
  verb : ∃ verb : Verb, route.httpMethod = verb.text

def Controller.Coherent (controller : Controller) : Prop := ∀ route ∈ controller.routes, route.Fits controller

namespace Template

theorem head?_withLeadingSlash (characters : List Char) :
    (withLeadingSlash characters).head? = some '/' := by
  unfold withLeadingSlash
  split <;> rfl

theorem head?_combine (base route : String) : (combine base route).toList.head? = some '/' := by
  rw [combine, String.toList_ofList, combineChars]
  split
  · exact head?_withLeadingSlash _
  · split
    · exact head?_withLeadingSlash _
    · rw [List.head?_append, head?_withLeadingSlash, Option.some_or]

end Template

theorem Route.Fits.rooted {route : Route} {owner : Controller} (fits : route.Fits owner) :
    route.fullPath.toList.head? = some '/' := by
  rw [fits.fullPath]
  exact Template.head?_combine _ _

namespace Extraction

open Script (Source Syntax PlacedNode)

theorem exists_of_findIn {α : Type} {select : PlacedNode → Option α} {places : List PlacedNode}
    {result : α} (found : PlacedNode.findIn select places = some result) :
    ∃ place, select place = some result := by
  fun_induction PlacedNode.findIn select places with
  | case1 => simp at found
  | case2 place rest chosen selected => exact ⟨place, by rw [selected, found]⟩
  | case3 place rest rejected ih => exact ih found

theorem fits_of_route? {source : Source} {owner : Controller} {decorators : List Syntax}
    {method : Syntax} {route : Route} (found : route? source owner decorators method = some route) :
    route.Fits owner := by
  simp only [route?, Option.bind_eq_bind, Option.bind_eq_some_iff] at found
  obtain ⟨⟨verb, _⟩, _, _, _, shape⟩ := found
  cases shape
  exact ⟨rfl, rfl, rfl, rfl, verb, rfl⟩

theorem exists_of_mem_routesFrom {source : Source} {owner : Controller} {waiting members : List Syntax}
    {route : Route} (member : route ∈ routesFrom source owner waiting members) :
    ∃ decorators method, route? source owner decorators method = some route := by
  fun_induction routesFrom source owner waiting members with
  | case1 => simp at member
  | case2 _ _ _ _ ih | case3 _ _ _ _ ih | case5 _ _ _ _ _ _ ih => exact ih member
  | case4 waiting method rest _ ih =>
    rcases List.mem_append.mp member with own | later
    · exact ⟨_, _, Option.mem_toList.mp own⟩
    · exact ih later

end Extraction

/-- A controller read from a file is filed under it, and its routes fit it. -/
theorem Controller.coherent_of_ofText? {file : FilePath} {text : String} {controller : Controller}
    (found : Controller.ofText? file text = some controller) :
    controller.sourceFile = file ∧ controller.Coherent := by
  obtain ⟨place, selected⟩ := Extraction.exists_of_findIn found
  unfold Extraction.controllerOf? at selected
  split at selected
  · simp at selected
  · simp only [Option.bind_eq_bind, Option.bind_eq_some_iff] at selected
    obtain ⟨call, _, shape⟩ := selected
    cases shape
    refine ⟨rfl, fun route member => ?_⟩
    obtain ⟨_, _, extracted⟩ := Extraction.exists_of_mem_routesFrom member
    -- the routes are extracted for the controller before it has any
    have fits := Extraction.fits_of_route? extracted
    exact ⟨fits.ownerName, fits.sourceFile, fits.fullPath, fits.pathParameters, fits.verb⟩

theorem Controller.owned_of_ofText? {file : FilePath} {text : String} {controller : Controller}
    (found : Controller.ofText? file text = some controller) : controller.OwnsRoutes := by
  intro route member
  have fits := (Controller.coherent_of_ofText? found).2 route member
  exact ⟨fits.ownerName, fits.sourceFile⟩

end RouteExplorer
