import Mathlib.Data.List.Forall2
import RouteExplorer.Proofs.Json.Reading
import RouteExplorer.Proofs.Json.Records
import RouteExplorer.Route.Encoding

namespace RouteExplorer

open Json (Value Fields Slots nestingLimit)

namespace Json.Value

def replacing (value : Value) (key : String) (new : Value) : Value :=
  match value with
  | .object fields => .object (fields.map fun field => if field.1 = key then (key, new) else field)
  | other => other

/-- An object that carries the fields of a written one. -/
def Carries (names : List String) (written value : Value) : Prop :=
  ∃ given fields, written = .object given ∧ value = .object fields ∧ Fields.Carry names given fields

theorem list?_eq_some {α : Type} {decode : Value → Option α} {results : List α} {items : List Value}
    (each : List.Forall₂ (fun result item => decode item = some result) results items) :
    list? decode (.array items) = some results := by
  induction each with
  | nil => rfl
  | cons head _ ih =>
    rw [list?] at ih ⊢
    rw [List.mapM_cons, head, ih]
    rfl

theorem strings?_strings (texts : List String) : strings? (strings texts) = some texts :=
  list?_eq_some (List.forall₂_map_right_iff.mpr (List.forall₂_same.mpr fun _ _ => rfl))

theorem natural?_natural {value : Nat} (fits : value < 2 ^ 64) : natural? (natural value) = some value := by
  have bound : (value : Int) < Nat.pow 2 64 := Int.ofNat_lt.mpr fits
  rw [natural, natural?, if_pos ⟨Int.natCast_nonneg _, bound⟩, Int.toNat_natCast]

@[simp] theorem ordered_natural (value : Nat) : (natural value).ordered = natural value := rfl

@[simp] theorem ordered_strings (texts : List String) : (strings texts).ordered = strings texts := by
  rw [strings, ordered, orderedItems_eq, List.map_map]
  rfl

theorem readable_natural {value : Nat} (fits : value < 2 ^ 64) (levels : Nat) : (natural value).Readable levels := by
  rw [natural, Readable]
  omega

@[simp] theorem readable_strings (texts : List String) (levels : Nat) : (strings texts).Readable (levels + 1) := by
  intro item member
  obtain ⟨text, -, rfl⟩ := List.mem_map.mp member
  cases levels <;> trivial

end Json.Value

theorem Json.Slots.bind_required {α β : Type} {slots : Slots} {index : Nat} {decode : Value → Option α}
    {next : α → Option β} {value : Value} {result : α} {final : β} (found : slots.at? index = some value)
    (read : decode value = some result) (rest : next result = some final) :
    (slots.required index decode >>= next) = some final :=
  Option.bind_eq_some_iff.mpr ⟨result, by rw [required, found, Option.bind_some, read], rest⟩

namespace RouteParameter

def names : List String := ["name", "kind", "declaredType", "optional"]

/-- What a parameter can arrive as: its written form, the fields in any order and unknown ones among them. -/
def WrittenAs (parameter : RouteParameter) (value : Value) : Prop := Value.Carries names parameter.encode value

variable {parameter : RouteParameter} {value : Value}

theorem declared_of_encode {given : Fields} (written : parameter.encode = .object given) :
    Fields.Declared names given := by
  obtain ⟨name, source, declaredType, isOptional⟩ := parameter
  cases declaredType with
  | none =>
    obtain rfl := Value.object.inj written
    exact ⟨by simp [names], by simp⟩
  | some text =>
    obtain rfl := Value.object.inj written
    exact ⟨by simp [names], by simp⟩

theorem WrittenAs.slots (written : parameter.WrittenAs value) :
    Slots.ofValue? [["name"], ["kind"], ["declaredType"], ["optional"]] value =
      some ⟨false, [some (.string parameter.name), some (.string parameter.source.text),
        parameter.declaredType.map Value.string, some (.bool parameter.isOptional)]⟩ := by
  obtain ⟨given, fields, encoded, rfl, carry⟩ := written
  refine (carry.ofValue? (declared_of_encode encoded)).trans ?_
  obtain ⟨name, source, declaredType, isOptional⟩ := parameter
  cases declaredType with
  | none =>
    obtain rfl := Value.object.inj encoded
    simp [names, List.lookup_cons]
  | some text =>
    obtain rfl := Value.object.inj encoded
    simp [names, List.lookup_cons]

theorem WrittenAs.decode?_eq (written : parameter.WrittenAs value) : decode? value = some parameter := by
  rw [decode?, written.slots]
  obtain ⟨name, source, declaredType, isOptional⟩ := parameter
  have kind : ((Value.string source.text).caseName?.bind ParameterSource.ofText?) = some source :=
    source.ofText?_text
  cases declaredType with
  | none => simp [Slots.required, Slots.optional, Slots.at?, Value.string?, Value.bool?, kind]
  | some text => simp [Slots.required, Slots.optional, Slots.at?, Value.string?, Value.bool?, kind]

theorem WrittenAs.ordered (written : parameter.WrittenAs value) : parameter.WrittenAs value.ordered := by
  obtain ⟨given, fields, encoded, rfl, carry⟩ := written
  have declared := declared_of_encode encoded
  have same : Value.orderedFields given = given := by
    obtain ⟨name, source, declaredType, isOptional⟩ := parameter
    cases declaredType <;> obtain rfl := Value.object.inj encoded <;> rfl
  have carried := carry.ordered declared
  rw [same] at carried
  exact ⟨given, _, encoded, rfl, carried⟩

theorem writtenAs_encode (parameter : RouteParameter) : parameter.WrittenAs parameter.encode :=
  ⟨_, _, rfl, rfl, .refl _ _⟩

theorem readable_encode (parameter : RouteParameter) (levels : Nat) : parameter.encode.Readable (levels + 1) := by
  obtain ⟨name, source, declaredType, isOptional⟩ := parameter
  cases declaredType <;> simp [encode, Value.Readable]

end RouteParameter

namespace Route

def names : List String := fieldNames.flatten

/-- What a route can arrive as: its written form with parameters that arrive in any of their ways, the fields in any
order and unknown ones among them. -/
def WrittenAs (route : Route) (value : Value) : Prop :=
  ∃ items, List.Forall₂ RouteParameter.WrittenAs route.parameters items ∧
    Value.Carries names (route.encode.replacing "parameters" (.array items)) value

/-- A route whose position has a number of 64 bits. -/
def InRange (route : Route) : Prop := route.line < 2 ^ 64 ∧ route.column < 2 ^ 64

variable {route : Route} {value : Value} {items : List Value} {given : Fields}

theorem declared_of_encode (written : route.encode.replacing "parameters" (.array items) = .object given) :
    Fields.Declared names given := by
  obtain rfl := Value.object.inj written
  exact ⟨by simp [names, fieldNames], by simp⟩

theorem WrittenAs.slots (written : route.WrittenAs value) :
    ∃ items, List.Forall₂ RouteParameter.WrittenAs route.parameters items ∧
      Slots.ofValue? fieldNames value = some ⟨false, [some (.string route.httpMethod),
        some (.string route.declaredPath), some (.string route.fullPath), some (.string route.sourceFile.text),
        some (.natural route.line), some (.natural route.column), some (.string route.ownerName),
        some (.string route.handlerName), some (.array items), some (.strings route.pathParameters)]⟩ := by
  obtain ⟨items, parameters, given, fields, encoded, rfl, carry⟩ := written
  refine ⟨items, parameters, (carry.ofValue? (declared_of_encode encoded)).trans ?_⟩
  obtain rfl := Value.object.inj encoded
  simp [names, fieldNames, List.lookup_cons]

theorem WrittenAs.decode?_eq (written : route.WrittenAs value) (range : route.InRange) :
    decode? value = some route := by
  obtain ⟨items, parameters, slots⟩ := written.slots
  have decoded : Value.list? RouteParameter.decode? (.array items) = some route.parameters :=
    Value.list?_eq_some (parameters.imp fun _ _ => RouteParameter.WrittenAs.decode?_eq)
  -- The fields are read one after another; to compute all of it at once would compute the bound of a number, too.
  refine Option.bind_eq_some_iff.mpr ⟨_, slots, ?_⟩
  refine Slots.bind_required rfl rfl (Slots.bind_required rfl rfl ?_)
  refine Slots.bind_required rfl rfl (Slots.bind_required rfl rfl ?_)
  refine Slots.bind_required rfl (Value.natural?_natural range.1) ?_
  refine Slots.bind_required rfl (Value.natural?_natural range.2) ?_
  refine Slots.bind_required rfl rfl (Slots.bind_required rfl rfl ?_)
  exact Slots.bind_required rfl decoded (Slots.bind_required rfl (Value.strings?_strings _) rfl)

theorem WrittenAs.ordered (written : route.WrittenAs value) : route.WrittenAs value.ordered := by
  obtain ⟨items, parameters, given, fields, encoded, rfl, carry⟩ := written
  have carried := carry.ordered (declared_of_encode encoded)
  obtain rfl := Value.object.inj encoded
  refine ⟨items.map Value.ordered, ?_, _, _, ?_, rfl, carried⟩
  · exact List.forall₂_map_right_iff.mpr (parameters.imp fun _ _ => RouteParameter.WrittenAs.ordered)
  · simp [encode, Value.replacing, Value.orderedFields_eq, Value.ordered, Value.orderedItems_eq]

theorem writtenAs_encode (route : Route) : route.WrittenAs route.encode := by
  refine ⟨route.parameters.map RouteParameter.encode, ?_, ?_⟩
  · refine List.forall₂_map_right_iff.mpr (List.forall₂_same.mpr fun parameter _ => ?_)
    exact parameter.writtenAs_encode
  · exact ⟨_, _, by simp [encode, Value.replacing], rfl, .refl _ _⟩

theorem readable_encode {route : Route} (range : route.InRange) (levels : Nat) :
    route.encode.Readable (levels + 3) := by
  have parameters : ∀ parameter ∈ route.parameters, parameter.encode.Readable (levels + 1) :=
    fun parameter _ => parameter.readable_encode levels
  simpa [encode, Value.Readable, Value.readable_natural range.1, Value.readable_natural range.2] using parameters

end Route

namespace Controller

def names : List String := ["name", "basePath", "sourceFile", "routes"]

/-- What a controller can arrive as: its written form with routes that arrive in any of their ways, the fields in any
order and unknown ones among them. -/
def WrittenAs (controller : Controller) (value : Value) : Prop :=
  ∃ items, List.Forall₂ Route.WrittenAs controller.routes items ∧
    Value.Carries names (controller.encode.replacing "routes" (.array items)) value

def InRange (controller : Controller) : Prop := ∀ route ∈ controller.routes, route.InRange

variable {controller : Controller} {value : Value} {items : List Value} {given : Fields}

theorem declared_of_encode (written : controller.encode.replacing "routes" (.array items) = .object given) :
    Fields.Declared names given := by
  obtain rfl := Value.object.inj written
  exact ⟨by simp [names], by simp⟩

theorem WrittenAs.slots (written : controller.WrittenAs value) :
    ∃ items, List.Forall₂ Route.WrittenAs controller.routes items ∧
      Slots.ofValue? [["name"], ["basePath"], ["sourceFile"], ["routes"]] value =
        some ⟨false, [some (.string controller.name), some (.string controller.basePath),
          some (.string controller.sourceFile.text), some (.array items)]⟩ := by
  obtain ⟨items, routes, given, fields, encoded, rfl, carry⟩ := written
  refine ⟨items, routes, (carry.ofValue? (declared_of_encode encoded)).trans ?_⟩
  obtain rfl := Value.object.inj encoded
  simp [names, List.lookup_cons]

theorem WrittenAs.decode?_eq (written : controller.WrittenAs value) (range : controller.InRange) :
    decode? value = some controller := by
  obtain ⟨items, routes, slots⟩ := written.slots
  have decoded : Value.list? Route.decode? (.array items) = some controller.routes := by
    have both := (List.forall₂_and_left ..).mpr ⟨range, routes⟩
    exact Value.list?_eq_some (both.imp fun _ _ found => found.2.decode?_eq found.1)
  refine Option.bind_eq_some_iff.mpr ⟨_, slots, ?_⟩
  refine Slots.bind_required rfl rfl (Slots.bind_required rfl rfl ?_)
  exact Slots.bind_required rfl rfl (Slots.bind_required rfl decoded rfl)

theorem WrittenAs.ordered (written : controller.WrittenAs value) : controller.WrittenAs value.ordered := by
  obtain ⟨items, routes, given, fields, encoded, rfl, carry⟩ := written
  have carried := carry.ordered (declared_of_encode encoded)
  obtain rfl := Value.object.inj encoded
  refine ⟨items.map Value.ordered, ?_, _, _, ?_, rfl, carried⟩
  · exact List.forall₂_map_right_iff.mpr (routes.imp fun _ _ => Route.WrittenAs.ordered)
  · simp [encode, Value.replacing, Value.orderedFields_eq, Value.ordered, Value.orderedItems_eq]

theorem writtenAs_encode (controller : Controller) : controller.WrittenAs controller.encode := by
  refine ⟨controller.routes.map Route.encode, ?_, ?_⟩
  · refine List.forall₂_map_right_iff.mpr (List.forall₂_same.mpr fun route _ => ?_)
    exact route.writtenAs_encode
  · exact ⟨_, _, by simp [encode, Value.replacing], rfl, .refl _ _⟩

theorem readable_encode {controller : Controller} (range : controller.InRange) (levels : Nat) :
    controller.encode.Readable (levels + 5) := by
  have routes : ∀ route ∈ controller.routes, route.encode.Readable (levels + 3) :=
    fun route member => Route.readable_encode (range route member) levels
  simpa [encode, Value.Readable] using routes

end Controller

/-- A value that stands for an item is read as the item, and so is its text if it has one that tells all. -/
def Arrives {α : Type} (decode? : Value → Option α) (item : α) (value : Value) : Prop :=
  decode? value = some item ∧
    (value.Readable (nestingLimit - 1) → ∃ read, Value.parse value.compact = .ok read ∧ decode? read = some item)

/-- Routes and controllers survive the wire. What they are written as is a text that is read back, and everything
they can arrive as, with fields in any order and unknown ones among them, is read as the same route or controller. -/
theorem wire_roundtrip :
    (∀ route : Route, route.InRange →
      route.encode.Readable (nestingLimit - 1) ∧ route.WrittenAs route.encode ∧
      ∀ value, route.WrittenAs value → Arrives Route.decode? route value ∧
        (Route.decode? value).map Route.identity = some route.identity) ∧
    ∀ controller : Controller, controller.InRange →
      controller.encode.Readable (nestingLimit - 1) ∧ controller.WrittenAs controller.encode ∧
      ∀ value, controller.WrittenAs value → Arrives Controller.decode? controller value ∧
        (Controller.decode? value).map (fun read => read.routes.map Route.identity) =
          some (controller.routes.map Route.identity) := by
  constructor
  · intro route range
    refine ⟨Route.readable_encode range 124, route.writtenAs_encode, fun value written => ?_⟩
    have decoded := written.decode?_eq range
    refine ⟨⟨decoded, fun readable => ?_⟩, by rw [decoded]; rfl⟩
    exact ⟨value.ordered, Value.parse_compact readable, written.ordered.decode?_eq range⟩
  · intro controller range
    refine ⟨Controller.readable_encode range 122, controller.writtenAs_encode, fun value written => ?_⟩
    have decoded := written.decode?_eq range
    refine ⟨⟨decoded, fun readable => ?_⟩, by rw [decoded]; rfl⟩
    exact ⟨value.ordered, Value.parse_compact readable, written.ordered.decode?_eq range⟩

def foodRoute : Route where
  httpMethod := "GET"
  declaredPath := ":id/food"
  fullPath := "/cats/:id/food"
  sourceFile := ⟨"/w/cats.ts"⟩
  line := 4
  column := 2
  ownerName := "CatsController"
  handlerName := "food"
  parameters := [⟨"id", .path, some "string", false⟩, ⟨"\"raw\"\n", .query, none, true⟩]
  pathParameters := ["id"]

/-- An object with its fields in the opposite order and others behind them. -/
def Json.Value.rearranged (unknown : Fields) : Value → Value
  | .object fields => .object (fields.reverse ++ unknown)
  | other => other

theorem Json.Value.carries_rearranged {names : List String} {unknown : Fields}
    (undeclared : ∀ field ∈ unknown, field.1 ∉ names) (given : Fields) :
    (Value.object given).Carries names ((Value.object given).rearranged unknown) :=
  ⟨given, _, rfl, rfl, unknown, (List.reverse_perm given).append_right unknown, undeclared⟩

def noteFields : Fields := [("note", .null), ("note", .array [.number (.integer (-3))])]

def foodValue : Value :=
  let parameters := foodRoute.parameters.map fun parameter => parameter.encode.rearranged noteFields
  (foodRoute.encode.replacing "parameters" (.array parameters)).rearranged noteFields

theorem foodValue_writtenAs : foodRoute.WrittenAs foodValue := by
  have unknown : ∀ field ∈ noteFields, field.1 ∉ RouteParameter.names := by decide
  refine ⟨foodRoute.parameters.map fun parameter => parameter.encode.rearranged noteFields, ?_, ?_⟩
  · exact List.forall₂_map_right_iff.mpr (List.forall₂_same.mpr fun _ _ => Value.carries_rearranged unknown _)
  · exact Value.carries_rearranged (by decide) _

theorem foodValue_roundtrip :
    (foodValue.Readable (nestingLimit - 1) ∧ foodRoute.InRange) ∧ Arrives Route.decode? foodRoute foodValue ∧
      ∃ read, Value.parse foodValue.compact = .ok read ∧ Route.decode? read = some foodRoute := by
  have readable : foodValue.Readable (nestingLimit - 1) := by
    simp [foodValue, foodRoute, noteFields, nestingLimit, Value.rearranged, Value.replacing, Route.encode,
      RouteParameter.encode, Value.Readable, Value.natural]
  have range : foodRoute.InRange := ⟨by decide, by decide⟩
  have arrives := ((wire_roundtrip.1 foodRoute range).2.2 foodValue foodValue_writtenAs).1
  exact ⟨⟨readable, range⟩, arrives, arrives.2 readable⟩

end RouteExplorer
