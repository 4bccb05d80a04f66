/-!
# Tokens of YAML

The indentation of a text is told by tokens of its own: a block collection begins with the
token for its kind and ends with `blockEnd`. What a text says beyond the last token that can be
made out is not told: a text that breaks off, or that is no YAML from some place on, has no
`streamEnd` among its tokens.
-/

namespace StarPlan.Yaml

/-- A token. The text of a scalar is given as it is read, with escapes and folds resolved. -/
inductive Token where
  | version (major minor : Nat)
  | handle (name content : String)
  | documentStart
  | documentEnd
  | streamEnd
  | blockSequence
  | blockMapping
  | blockEnd
  | flowSequence
  | flowSequenceEnd
  | flowMapping
  | flowMappingEnd
  | blockEntry
  | flowEntry
  | key
  | value
  | reference (name : String)
  | anchor (name : String)
  | tag (handle suffix : String)
  | scalar (text : String) (isPlain : Bool)
deriving DecidableEq, Repr

end StarPlan.Yaml
