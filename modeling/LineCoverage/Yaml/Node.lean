import LineCoverage.Yaml.Token.Scan

/-!
# YAML nodes

The first document of a text as a tree of scalars, sequences and mappings. An alias keeps its name and
stands for the node that its anchor marks. Standard tags are kept in their short form.
-/

namespace LineCoverage

namespace Yaml

inductive Node where
  | scalar (tag : Option Bytes) (text : Bytes) (isPlain : Bool)
  | sequence (items : List Node)
  | mapping (entries : List (Node × Node))
  | alias (name : Bytes) (target : Node)
  | unfinished

def Node.empty : Node := .scalar none [] true

structure NodeReader where
  scanner : Scanner
  /-- The anchors, latest first. A node that is not finished yet has no value. -/
  anchors : List (Bytes × Option Node)
  handles : List (Bytes × Bytes)

/-- A step of reading nodes: it fails where the text is malformed. -/
abbrev ReadNode := StateT NodeReader Option

namespace ReadNode

def next : ReadNode Token := fun r => do
  let (t, s) ← peek r.scanner
  pure (t, { r with scanner := s })

def drop : ReadNode Unit := fun r => do
  let (_, s) ← take r.scanner
  pure ((), { r with scanner := s })

def dropThenNext : ReadNode Token := do
  drop
  next

/-! ## Properties -/

structure Properties where
  anchor : Option Bytes := none
  tag : Option Bytes := none

def tagOf (handle suffix : Bytes) : ReadNode Bytes := do
  if handle.isEmpty then pure suffix
  else
    match (← get).handles.lookup handle with
    | some start => if (start ++ suffix).isEmpty then failure else pure (start ++ suffix)
    | none => failure

def properties : ReadNode Properties := do
  match ← next with
  | .anchor name =>
    match ← dropThenNext with
    | .tag handle suffix =>
      drop
      pure { anchor := some name, tag := some (← tagOf handle suffix) }
    | _ => pure { anchor := some name }
  | .tag handle suffix =>
    match ← dropThenNext with
    | .anchor name =>
      drop
      pure { anchor := some name, tag := some (← tagOf handle suffix) }
    | _ => pure { tag := some (← tagOf handle suffix) }
  | _ => pure {}

def openAnchor (name : Bytes) : ReadNode Unit :=
  modify fun r => { r with anchors := (name, none) :: r.anchors }

/-- Gives an anchor its node, unless a node inside took the name over. -/
def closeAnchor (name : Bytes) (n : Node) : ReadNode Unit :=
  modify fun r =>
    match r.anchors.lookup name with
    | some none => { r with anchors := (name, some n) :: r.anchors }
    | _ => r

def target (name : Bytes) : ReadNode Node := do
  match (← get).anchors.lookup name with
  | some n => pure (.alias name (n.getD .unfinished))
  | none => failure

def standardTags : Bytes := utf8 "tag:yaml.org,2002:"

def shortTag (tag : Bytes) : Bytes :=
  if Bytes.startsWith tag standardTags then utf8 "!!" ++ tag.drop standardTags.length else tag

/-- The tag that counts: an empty one and the lone sign say nothing. -/
def effectiveTag (tag : Option Bytes) : Option Bytes :=
  (tag.filter fun t => t ≠ [] ∧ t ≠ utf8 "!").map shortTag

/-! ## Nodes -/

def endsBlockItem : Token → Bool
  | .blockEntry | .blockEnd => true
  | _ => false

def endsBlockEntry : Token → Bool
  | .key | .value | .blockEnd => true
  | _ => false

def endsFlowEntry (stop t : Token) : Bool := t = .flowEntry || t = stop

def flowSeparator (first : Bool) (stop t : Token) : ReadNode Token := do
  if first || t = stop then pure t
  else if t = .flowEntry then dropThenNext
  else failure

mutual

/-- A node. In a block, a sequence that is the value of a key need not be indented. -/
def node (inBlock indentless : Bool) : (fuel : Nat) → ReadNode Node
  | 0 => failure
  | fuel + 1 => do
    match ← next with
    | .alias name =>
      drop
      target name
    | _ =>
      let p ← properties
      p.anchor.forM openAnchor
      let n ← content inBlock indentless p fuel
      p.anchor.forM (closeAnchor · n)
      pure n

def content (inBlock indentless : Bool) (p : Properties) : (fuel : Nat) → ReadNode Node
  | 0 => failure
  | fuel + 1 => do
    let nothing : ReadNode Node :=
      if p.anchor.isSome || p.tag.any (· ≠ []) then pure (.scalar (effectiveTag p.tag) [] true) else failure
    match ← next with
    | .blockEntry => if indentless then .sequence <$> indentlessItems fuel else nothing
    | .scalar text isPlain =>
      drop
      pure (.scalar (effectiveTag p.tag) text isPlain)
    | .flowSequenceStart =>
      drop
      .sequence <$> flowItems true fuel
    | .flowMappingStart =>
      drop
      .mapping <$> flowEntries true fuel
    | .sequenceStart =>
      if inBlock then
        drop
        .sequence <$> blockItems fuel
      else nothing
    | .mappingStart =>
      if inBlock then
        drop
        .mapping <$> blockEntries fuel
      else nothing
    | _ => nothing

def blockItems : (fuel : Nat) → ReadNode (List Node)
  | 0 => failure
  | fuel + 1 => do
    match ← next with
    | .blockEntry =>
      let item ← if endsBlockItem (← dropThenNext) then pure Node.empty else node true false fuel
      pure (item :: (← blockItems fuel))
    | .blockEnd =>
      drop
      pure []
    | _ => failure

def indentlessItems : (fuel : Nat) → ReadNode (List Node)
  | 0 => failure
  | fuel + 1 => do
    match ← next with
    | .blockEntry =>
      let t ← dropThenNext
      let item ← if endsBlockItem t || endsBlockEntry t then pure Node.empty else node true false fuel
      pure (item :: (← indentlessItems fuel))
    | _ => pure []

def blockEntries : (fuel : Nat) → ReadNode (List (Node × Node))
  | 0 => failure
  | fuel + 1 => do
    match ← next with
    | .key =>
      let key ← if endsBlockEntry (← dropThenNext) then pure Node.empty else node true true fuel
      let value ← blockValue fuel
      pure ((key, value) :: (← blockEntries fuel))
    | .blockEnd =>
      drop
      pure []
    | _ => failure

def blockValue : (fuel : Nat) → ReadNode Node
  | 0 => failure
  | fuel + 1 => do
    if (← next) = .value then
      if endsBlockEntry (← dropThenNext) then pure Node.empty else node true true fuel
    else pure Node.empty

/-- The items of a sequence in brackets. A key makes a mapping of one entry. -/
def flowItems (first : Bool) : (fuel : Nat) → ReadNode (List Node)
  | 0 => failure
  | fuel + 1 => do
    match ← flowSeparator first .flowSequenceEnd (← next) with
    | .flowSequenceEnd =>
      drop
      pure []
    | .key =>
      let t ← dropThenNext
      let key ← if t = .value || endsFlowEntry .flowSequenceEnd t then
          drop
          pure Node.empty
        else node false false fuel
      let value ← flowValue .flowSequenceEnd fuel
      pure (.mapping [(key, value)] :: (← flowItems false fuel))
    | _ =>
      let item ← node false false fuel
      pure (item :: (← flowItems false fuel))

/-- The entries of a mapping in braces. An entry without a key sign has no value. -/
def flowEntries (first : Bool) : (fuel : Nat) → ReadNode (List (Node × Node))
  | 0 => failure
  | fuel + 1 => do
    match ← flowSeparator first .flowMappingEnd (← next) with
    | .flowMappingEnd =>
      drop
      pure []
    | .key =>
      let t ← dropThenNext
      let key ← if t = .value || endsFlowEntry .flowMappingEnd t then pure Node.empty
        else node false false fuel
      let value ← flowValue .flowMappingEnd fuel
      pure ((key, value) :: (← flowEntries false fuel))
    | _ =>
      let key ← node false false fuel
      pure ((key, Node.empty) :: (← flowEntries false fuel))

def flowValue (stop : Token) : (fuel : Nat) → ReadNode Node
  | 0 => failure
  | fuel + 1 => do
    if (← next) = .value then
      if endsFlowEntry stop (← dropThenNext) then pure Node.empty else node false false fuel
    else pure Node.empty

end

/-! ## Documents -/

def knownHandles : List (Bytes × Bytes) := [(utf8 "!", utf8 "!"), (utf8 "!!", standardTags)]

/-- Reads the directives in front of a document. A version is given once, and so is each handle. -/
def directives (versioned : Bool) : (fuel : Nat) → ReadNode Unit
  | 0 => failure
  | fuel + 1 => do
    match ← next with
    | .version major minor =>
      if versioned || major ≠ 1 || minor ≠ 1 then failure
      else
        drop
        directives true fuel
    | .tagHandle handle text =>
      if ((← get).handles.lookup handle).isSome then failure
      else
        modify fun r => { r with handles := (handle, text) :: r.handles }
        drop
        directives versioned fuel
    | _ => modify fun r => { r with handles := r.handles ++ knownHandles }

def endsDocument : Token → Bool
  | .version .. | .tagHandle .. | .documentStart | .documentEnd | .streamEnd => true
  | _ => false

def document (fuel : Nat) : ReadNode (Option Node) := do
  let t ← next
  directives false fuel
  match t with
  | .streamEnd => pure none
  | .version .. | .tagHandle .. | .documentStart =>
    if (← next) ≠ .documentStart then failure
    let root ← if endsDocument (← dropThenNext) then pure Node.empty else node true false fuel
    let _ ← next
    pure (some root)
  | _ =>
    let root ← node true false fuel
    let _ ← next
    pure (some root)

end ReadNode

/-- The first document of a text: nothing if it is malformed, and an empty node if there is none. -/
def parse? (text : Bytes) : Option Node := do
  let source := Source.ofBytes text
  let (root, _) ← ReadNode.document (8 * source.codes.size + 16) ⟨.start source, [], []⟩
  pure (root.getD .empty)

end Yaml

end LineCoverage
