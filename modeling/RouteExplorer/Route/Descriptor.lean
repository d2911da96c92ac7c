import RouteExplorer.FilePath
import RouteExplorer.Route.Marker

namespace RouteExplorer

structure RouteParameter where
  name : String
  source : ParameterSource
  declaredType : Option String
  isOptional : Bool
deriving DecidableEq, Repr

structure Route where
  httpMethod : String
  declaredPath : String
  fullPath : String
  sourceFile : FilePath
  /-- The line of the handler's name, counted from one. -/
  line : Nat
  /-- The bytes of that line before the handler's name. -/
  column : Nat
  ownerName : String
  handlerName : String
  parameters : List RouteParameter
  pathParameters : List String
deriving DecidableEq, Repr

structure Controller where
  name : String
  basePath : String
  sourceFile : FilePath
  routes : List Route
deriving DecidableEq, Repr

/-- What changes of a route set are detected by: the method and the full path. -/
def Route.identity (route : Route) : String := route.httpMethod ++ " " ++ route.fullPath

/-- The controllers of a workspace with all their routes, both in the order of their files. -/
structure Snapshot where
  controllers : List Controller
  routes : List Route
deriving DecidableEq, Repr

namespace Snapshot

def empty : Snapshot := ⟨[], []⟩

def ofControllers (controllers : List Controller) : Snapshot :=
  ⟨controllers, controllers.flatMap Controller.routes⟩

def identities (snapshot : Snapshot) : List String := snapshot.routes.map Route.identity

end Snapshot

end RouteExplorer
