import StepRecorder.Yaml.Tag

/-!
Tokens: the pieces a YAML stream consists of, once its layout is understood. Indentation has become
starts and ends of blocks, and the keys of mappings are marked.
-/

namespace StepRecorder.Yaml

/-- How a scalar is written. -/
inductive Style where
  | plain
  | quoted
  | literal
  | folded
  deriving Repr, DecidableEq

/-- A piece of a stream. -/
inductive Token where
  | version (major minor : Nat)
  | tagDirective (handle : Text) (lead : Bytes)
  | documentStart
  | documentEnd
  | blockSequence
  | blockMapping
  | blockEnd
  | flowSequence
  | flowSequenceEnd
  | flowMapping
  | flowMappingEnd
  | entry
  | comma
  | key
  | value
  | alias (name : Text)
  | anchor (name : Text)
  | tag (tag : Tag)
  | scalar (style : Style) (text : Text)
  deriving Repr, DecidableEq

end StepRecorder.Yaml
