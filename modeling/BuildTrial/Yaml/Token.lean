/-!
# Tokens of YAML

Block collections have tokens of their own for their start and end, which indentation decides. The
end of a stream is the end of its tokens.
-/

namespace BuildTrial.Yaml

/-- How a scalar was written. -/
inductive Style where
  | plain
  | quoted
  /-- After a bar. -/
  | literal
  /-- After a greater-than sign. -/
  | folded
deriving DecidableEq, Repr

/-- The text of a tag or of a part of one; nothing if its bytes are no text. -/
abbrev TagText : Type := Option String

inductive Token where
  | version (major minor : Nat)
  | tagHandle (handle : String) (expansion : TagText)
  | documentStart
  | documentEnd
  | blockSequenceStart
  | blockMappingStart
  | blockEnd
  | flowSequenceStart
  | flowSequenceEnd
  | flowMappingStart
  | flowMappingEnd
  | blockEntry
  | flowEntry
  | key
  | value
  /-- The name of an anchor that is meant here. -/
  | reference (name : String)
  | anchor (name : String)
  /-- A tag; without a handle the suffix is all of it. -/
  | tag (handle : String) (suffix : TagText)
  | scalar (style : Style) (text : String)
deriving DecidableEq, Repr

end BuildTrial.Yaml
