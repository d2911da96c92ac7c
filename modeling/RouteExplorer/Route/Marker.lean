namespace RouteExplorer

/-- The request methods that a handler can be marked with; `all` stands for any of them. -/
inductive Verb where
  | get | post | put | delete | patch | head | options | all
deriving DecidableEq, Repr

def Verb.text : Verb → String
  | .get => "GET"
  | .post => "POST"
  | .put => "PUT"
  | .delete => "DELETE"
  | .patch => "PATCH"
  | .head => "HEAD"
  | .options => "OPTIONS"
  | .all => "ALL"

inductive ParameterSource where
  | path | query | body
deriving DecidableEq, Repr

def ParameterSource.text : ParameterSource → String
  | .path => "path"
  | .query => "query"
  | .body => "body"

def ParameterSource.ofText? : String → Option ParameterSource
  | "path" => some .path
  | "query" => some .query
  | "body" => some .body
  | _ => none

theorem ParameterSource.ofText?_text (source : ParameterSource) :
    ParameterSource.ofText? source.text = some source := by
  cases source <;> rfl

inductive Marker where
  | controller
  | verb (verb : Verb)
  | source (source : ParameterSource)
deriving DecidableEq, Repr

/-- The meaning of a decorator name; upper and lower case differ. -/
def Marker.ofName? : String → Option Marker
  | "Controller" => some .controller
  | "Get" => some (.verb .get)
  | "Post" => some (.verb .post)
  | "Put" => some (.verb .put)
  | "Delete" => some (.verb .delete)
  | "Patch" => some (.verb .patch)
  | "Head" => some (.verb .head)
  | "Options" => some (.verb .options)
  | "All" => some (.verb .all)
  | "Param" => some (.source .path)
  | "Query" => some (.source .query)
  | "Body" => some (.source .body)
  | _ => none

end RouteExplorer
