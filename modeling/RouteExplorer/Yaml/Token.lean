namespace RouteExplorer.Yaml

inductive ScalarStyle where
  | plain
  | quoted
  | block
deriving DecidableEq, Repr

/-- A part of a text. Indentation opens and closes block collections like brackets do. -/
inductive Token where
  | version
  /-- A declared handle of tags. -/
  | handle (name : String)
  | documentStart
  | documentEnd
  | blockSequenceStart
  | blockMappingStart
  | blockEnd
  | flowSequenceStart
  | flowSequenceEnd
  | flowMappingStart
  | flowMappingEnd
  | blockEntry
  | flowEntry
  | key
  | value
  | alias (name : String)
  | anchor (name : String)
  /-- A tag and the handle that it needs, if it needs one. -/
  | tag (handle : Option String)
  | scalar (style : ScalarStyle) (text : String)
deriving DecidableEq, Repr

end RouteExplorer.Yaml
