/-!
# Tokens of a YAML text

Indentation shows as tokens of its own: a block collection has a start and an end like one in
brackets.
-/

namespace TopicShell.Yaml

inductive Directive where
  | version (major : Nat)
  | handle (name uri : String)
  | other
  deriving DecidableEq

inductive Token where
  | directive (d : Directive)
  | documentStart
  | documentEnd
  | blockSequence
  | blockMapping
  | blockEnd
  | flowSequence
  | flowSequenceEnd
  | flowMapping
  | flowMappingEnd
  | blockEntry
  | flowEntry
  | key
  | value
  | anchor (name : String)
  | alias (name : String)
  | tag (handle : Option String) (suffix : String)
  | scalar (isPlain : Bool) (text : String)
  deriving DecidableEq

end TopicShell.Yaml
