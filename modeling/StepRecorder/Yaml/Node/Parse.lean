import StepRecorder.Ordered
import StepRecorder.Yaml.Node
import StepRecorder.Yaml.Token.Scan

/-!
The document of a stream. A stream holds one document at most, which may be empty; directives can
come before it only if it begins with its mark. Nodes are read from the tokens from left to right,
and an alias can stand only for an anchor to its left.
-/

namespace StepRecorder.Yaml

/-- What is left of the tokens, and what is known of tags and anchors. -/
structure Parsing where
  tokens : List Token
  /-- What the handles of tags stand for. -/
  handles : List (Text × Bytes) := []
  /-- The numbers of the anchors. -/
  numbers : List (Text × Nat) := []
  /-- How many anchors were met. -/
  places : Nat := 0
  anchored : List Anchored := []

/-- A part of the reading of a document. -/
abbrev Parse := StateT Parsing Option

namespace Parse

/-- The next token. -/
def next? : Parse (Option Token) := return (← get).tokens.head?

/-- Past the next token. -/
def skip : Parse Unit := modify fun p => { p with tokens := p.tokens.drop 1 }

/-- Whether the next token is one of some tokens. -/
def isNext (tokens : List Token) : Parse Bool :=
  return ((← next?).map fun token => decide (token ∈ tokens)).getD false

/-- Past the next token, if it is a given one. -/
def skip? (token : Token) : Parse Bool := do
  if ← isNext [token] then
    skip
    return true
  else return false

/-- What handles stand for unless a directive says otherwise. -/
def defaultHandles : List (Text × Bytes) :=
  [("!".toList, Tag.mark), ("!!".toList, Tag.common)]

/-- A tag in full. A handle that stands for nothing is an error. -/
def tagInFull (tag : Tag) : Parse Bytes := do
  if tag.handle.isEmpty then return tag.suffix
  else
    match ((← get).handles ++ defaultHandles).lookup tag.handle with
    | some lead => return lead ++ tag.suffix
    | none => failure

/-- Past a tag, if it is next. -/
def tag? : Parse (Option Bytes) := do
  match ← next? with
  | some (.tag tag) =>
    let tag ← tagInFull tag
    skip
    return some tag
  | _ => return none

/-- Past an anchor, if it is next. -/
def anchor? : Parse (Option Text) := do
  match ← next? with
  | some (.anchor name) =>
    skip
    return some name
  | _ => return none

/-- Past the anchor and the tag before a node, in any order. -/
def properties : Parse (Option Text × Option Bytes) := do
  match ← anchor? with
  | some name => return (some name, ← tag?)
  | none =>
    let tag ← tag?
    return (← anchor?, tag)

/-- The number and the place of an anchor that begins. -/
def beginAnchor (name : Text) : Parse (Nat × Nat) := do
  let p ← get
  let number := p.numbers.length
  set { p with numbers := Ordered.put name number p.numbers, places := p.places + 1 }
  return (number, p.places)

/-- A node whose anchor, if it has one, is known from here on. -/
def anchoredAs (name : Option Text) (content : Parse Node) : Parse Node := do
  match name with
  | none => content
  | some name =>
    let (number, place) ← beginAnchor name
    let node ← content
    modify fun p => { p with anchored := ⟨number, place, node⟩ :: p.anchored }
    return node

/-- An alias of a name. -/
def aliasOf (name : Text) : Parse Node := do
  match (← get).numbers.lookup name with
  | some number => return .alias number
  | none => failure

/-- The empty node before some tokens, and else a node. -/
def orEmpty (stops : List Token) (node : Parse Node) : Parse Node := do
  if ← isNext stops then return .empty else node

/-- The tag of a scalar that is written; a lone exclamation mark says nothing. -/
def scalarTag (tag : Option Bytes) : Option Bytes := if tag = some Tag.mark then none else tag

mutual

/-- Past a node. Blocks can start only outside brackets, and sequences that are not indented only
in a mapping. -/
def node : Nat → Bool → Bool → Parse Node
  | 0, _, _ => failure
  | bound + 1, inBlock, isIndentless => do
    match ← next? with
    | some (.alias name) =>
      skip
      aliasOf name
    | _ =>
      let (anchor, tag) ← properties
      let hasProperties := anchor.isSome || tag.isSome
      anchoredAs anchor (content bound inBlock isIndentless hasProperties tag)

/-- Past a node without its anchor and its tag. -/
def content : Nat → Bool → Bool → Bool → Option Bytes → Parse Node
  | 0, _, _, _, _ => failure
  | bound + 1, inBlock, isIndentless, hasProperties, tag => do
    match ← next? with
    | some (.scalar style text) =>
      skip
      return .scalar style (scalarTag tag) text
    | some .flowSequence =>
      skip
      return .sequence (← flowItems bound true)
    | some .flowMapping =>
      skip
      return .mapping (← flowEntries bound true)
    | token =>
      if isIndentless && token = some .entry then
        return .sequence (← indentlessItems bound)
      else if inBlock && token = some .blockSequence then
        skip
        return .sequence (← blockItems bound)
      else if inBlock && token = some .blockMapping then
        skip
        return .mapping (← blockEntries bound)
      else if hasProperties then return .scalar .plain tag []
      else failure

/-- Past the items of a sequence that is indented. -/
def blockItems : Nat → Parse (List Node)
  | 0 => failure
  | bound + 1 => do
    if ← skip? .entry then
      let item ← orEmpty [.entry, .blockEnd] (node bound true false)
      return item :: (← blockItems bound)
    else if ← skip? .blockEnd then return []
    else failure

/-- Past the items of a sequence that is not indented. -/
def indentlessItems : Nat → Parse (List Node)
  | 0 => failure
  | bound + 1 => do
    if ← skip? .entry then
      let item ← orEmpty [.entry, .key, .value, .blockEnd] (node bound true false)
      return item :: (← indentlessItems bound)
    else return []

/-- Past the entries of a mapping that is indented. -/
def blockEntries : Nat → Parse (List (Node × Node))
  | 0 => failure
  | bound + 1 => do
    if ← skip? .key then
      let stops := [.key, .value, .blockEnd]
      let key ← orEmpty stops (node bound true true)
      let value ← if ← skip? .value then orEmpty stops (node bound true true) else pure .empty
      return (key, value) :: (← blockEntries bound)
    else if ← skip? .blockEnd then return []
    else failure

/-- Past the items of a sequence in brackets. -/
def flowItems : Nat → Bool → Parse (List Node)
  | 0, _ => failure
  | bound + 1, isFirst => do
    if ← skip? .flowSequenceEnd then return []
    else if !isFirst && !(← skip? .comma) then failure
    else if ← skip? .flowSequenceEnd then return []
    else if ← skip? .key then
      let entry ← pair bound
      return .mapping [entry] :: (← flowItems bound false)
    else
      let item ← node bound false false
      return item :: (← flowItems bound false)

/-- Past the one entry of a mapping that is an item in brackets. What stands in place of its key is
passed over. -/
def pair : Nat → Parse (Node × Node)
  | 0 => failure
  | bound + 1 => do
    let key ←
      if ← isNext [.value, .comma, .flowSequenceEnd] then do
        skip
        pure Node.empty
      else node bound false false
    let value ←
      if ← skip? .value then orEmpty [.comma, .flowSequenceEnd] (node bound false false)
      else pure .empty
    return (key, value)

/-- Past the entries of a mapping in brackets. -/
def flowEntries : Nat → Bool → Parse (List (Node × Node))
  | 0, _ => failure
  | bound + 1, isFirst => do
    if ← skip? .flowMappingEnd then return []
    else if !isFirst && !(← skip? .comma) then failure
    else if ← skip? .flowMappingEnd then return []
    else if ← skip? .key then
      let key ← orEmpty [.value, .comma, .flowMappingEnd] (node bound false false)
      let value ←
        if ← skip? .value then orEmpty [.comma, .flowMappingEnd] (node bound false false)
        else pure .empty
      return (key, value) :: (← flowEntries bound false)
    else
      let key ← node bound false false
      return (key, .empty) :: (← flowEntries bound false)

end

/-- Past the directives. One of them can give the version, and a handle gets one meaning only. -/
def directives : Nat → Bool → Parse Unit
  | 0, _ => failure
  | bound + 1, hasVersion => do
    match ← next? with
    | some (.version major minor) =>
      if hasVersion || major ≠ 1 || (minor ≠ 1 && minor ≠ 2) then failure
      else
        skip
        directives bound true
    | some (.tagDirective handle lead) =>
      let p ← get
      if (p.handles.lookup handle).isSome then failure
      else
        set { p with handles := p.handles ++ [(handle, lead)] }
        skip
        directives bound hasVersion
    | _ => return ()

/-- Past the document. -/
def root (bound : Nat) : Parse Node := do
  match ← next? with
  | some (.version _ _) | some (.tagDirective _ _) | some .documentStart =>
    directives bound false
    if ← skip? .documentStart then
      match ← next? with
      | none | some (.version _ _) | some (.tagDirective _ _) | some .documentStart
      | some .documentEnd => return .empty
      | _ => node bound true false
    else failure
  | _ => node bound true false

/-- Past the marks that end a document, up to the end of the stream. -/
def ending : Parse Unit := do
  if (← get).tokens.all (· = .documentEnd) then return () else failure

end Parse

namespace Document

/-- How deep the reading of a number of tokens can go. -/
def depthFor (tokens : Nat) : Nat := 4 * tokens + 8

/-- The document of a stream. -/
def ofText? (stream : Text) : Option Document := do
  let tokens ← Token.scan? stream
  if tokens.isEmpty then some {}
  else
    let (root, p) ← (Parse.root (depthFor tokens.length)).run { tokens }
    let ((), _) ← Parse.ending.run p
    some { root, anchored := p.anchored }

end Document
end StepRecorder.Yaml
