import RouteExplorer.Json.Value

namespace RouteExplorer

/-- Patterns of files to scan and of files to leave out, relative to each root, and the time in
milliseconds for which changes are collected before they are applied. -/
structure Config where
  filePatterns : List String
  excludePatterns : List String
  watchDebounceMs : Nat
deriving DecidableEq, Repr

namespace Config

def default : Config :=
  { filePatterns := ["**/*.controller.ts"]
    excludePatterns := ["**/node_modules/**", "**/dist/**", "**/out/**"]
    watchDebounceMs := 300 }

def encode (config : Config) : Json.Value :=
  .object [
    ("filePatterns", .strings config.filePatterns),
    ("excludePatterns", .strings config.excludePatterns),
    ("watchDebounceMs", .natural config.watchDebounceMs)]

end Config

end RouteExplorer
