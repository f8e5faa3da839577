import LineCoverage.Yaml.Node
import LineCoverage.Yaml.Scalar

/-!
# Values in nodes

Texts, numbers, truth values, lists of texts and named entries as a node holds them. A reader fails if
the node does not fit, and gives `none` if it is null. All nodes that are read are counted, since only
so many of them may be read through aliases.
-/

namespace LineCoverage

namespace Yaml

/-! ## Counting -/

/-- How many nodes were read, and how many of them through an alias. -/
structure Tally where
  nodes : Nat := 0
  aliased : Nat := 0

/-- Whether too many nodes are read through aliases. Up to 400000 nodes, 99 of 100 may be; from 4000000
on it is one in ten, and the share falls evenly in between. -/
def Tally.isExcessive (t : Tally) : Bool :=
  let share : Nat :=
    if t.nodes ≤ 400000 then 99 * 36000
    else if 4000000 ≤ t.nodes then 10 * 36000
    else 99 * 36000 - 89 * (t.nodes - 400000) / 100
  100 < t.aliased && 1000 < t.nodes && share * t.nodes < t.aliased * 3600000

/-- A step of reading values: it fails where a node does not fit. -/
abbrev Decode := StateT Tally Option

def countNode (aliased : Bool) : Decode Unit := do
  let t ← get
  let t : Tally := ⟨t.nodes + 1, if aliased then t.aliased + 1 else t.aliased⟩
  if t.isExcessive then failure else set t

structure Place where
  node : Node
  aliased : Bool

namespace Node

def enter (n : Node) (aliased : Bool) : Decode Place := do
  countNode aliased
  match n with
  | .alias _ target => target.enter true
  | n => pure ⟨n, aliased⟩

end Node

namespace Place

def enter (p : Place) : Decode Place := p.node.enter p.aliased

/-! ## Scalars -/

def scalar (p : Place) : Decode (Scalar × Bytes) := do
  match (← p.enter).node with
  | .scalar tag text isPlain => StateT.lift ((Scalar.resolve tag text isPlain).map (·, text))
  | _ => failure

def text (p : Place) : Decode (Option Bytes) := do
  match ← p.scalar with
  | (.null, _) => pure none
  | (.text t, _) => pure (some t)
  | (_, written) => pure (some written)

/-- A signed 64-bit number. Of a fraction its whole part is taken. -/
def int (p : Place) : Decode (Option Int64) := do
  match (← p.scalar).1 with
  | .null => pure none
  | .int i => if i < signedLimit then pure (some (Int64.ofInt i)) else failure
  | .float (.infinite negative) => if negative then pure (some Int64.minValue) else failure
  | .float (.finite negative x) =>
    if negative || x.num ≤ signedLimit * x.den then pure (some (FloatText.Value.finite negative x).toInt64)
    else failure
  | _ => failure

def trueWords : List Bytes := ["y", "Y", "yes", "Yes", "YES", "on", "On", "ON"].map utf8

def falseWords : List Bytes := ["n", "N", "no", "No", "NO", "off", "Off", "OFF"].map utf8

def bool (p : Place) : Decode (Option Bool) := do
  match (← p.scalar).1 with
  | .null => pure none
  | .bool b => pure (some b)
  | .text t =>
    if trueWords.contains t then pure (some true)
    else if falseWords.contains t then pure (some false)
    else failure
  | _ => failure

def nullOnly {α : Type} (tag : Option Bytes) (text : Bytes) (isPlain : Bool) : Decode (Option α) :=
  match Scalar.resolve tag text isPlain with
  | some .null => pure none
  | _ => failure

def texts (p : Place) : Decode (Option (List Bytes)) := do
  let ⟨node, aliased⟩ ← p.enter
  match node with
  | .sequence items =>
    let read ← items.mapM fun item => text ⟨item, aliased⟩
    pure (some (read.filterMap id))
  | .scalar tag text isPlain => nullOnly tag text isPlain
  | _ => failure

end Place

/-! ## Entries -/

namespace Node

def mergeTag : Bytes := utf8 "!!merge"

def isMerge : Node → Bool
  | .scalar tag text isPlain =>
    text = utf8 "<<" && match tag with
      | none => isPlain
      | some t => t = mergeTag
  | _ => false

def alike : Node → Node → Bool
  | .scalar _ s _, .scalar _ t _ => s = t
  | .alias a _, .alias b _ => a = b
  | .sequence _, .sequence _ => true
  | .mapping _, .mapping _ => true
  | _, _ => false

def distinct : List (Node × Node) → Bool
  | [] => true
  | (key, _) :: rest => !rest.any (alike key ·.1) && distinct rest

def behindAlias : Node → Node
  | .alias _ target => target.behindAlias
  | n => n

theorem sizeOf_behindAlias_le (n : Node) : sizeOf n.behindAlias ≤ sizeOf n := by
  fun_induction behindAlias n with
  | case1 _ target ih => simp only [Node.alias.sizeOf_spec]; omega
  | case2 => exact Nat.le_refl _

theorem sizeOf_value_lt {entries : List (Node × Node)} {e : Node × Node} (h : e ∈ entries) :
    sizeOf e.2 < sizeOf (Node.mapping entries) := by
  have h1 := List.sizeOf_lt_of_mem h
  have h2 : sizeOf e = 1 + sizeOf e.1 + sizeOf e.2 := by cases e; simp
  simp only [Node.mapping.sizeOf_spec]
  omega

def mergeSources : Node → List Node
  | .sequence items => items
  | n => [n]

theorem sizeOf_mergeSource_le {n m : Node} (h : m ∈ n.mergeSources) : sizeOf m ≤ sizeOf n := by
  unfold mergeSources at h
  split at h
  · have := List.sizeOf_lt_of_mem h
    simp only [Node.sequence.sizeOf_spec]
    omega
  · exact Nat.le_of_eq (congrArg sizeOf (List.mem_singleton.1 h))

end Node

/-- The names of entries: which were met, and whether a name may be met again. -/
structure Names where
  met : List Bytes := []
  repeatable : Bool := false

/-- What reading entries leads to: a value and the names that were met. -/
structure Entries (α : Type) where
  value : α
  names : Names

namespace Entries

variable {α : Type}

/-- Reads one entry. An entry with a null for its key does not count, and one that may be repeated only
the first time. -/
def readEntry (set : α → Bytes → Place → Decode α) (aliased : Bool) (e : Entries α) (entry : Node × Node) :
    Decode (Entries α) := do
  if entry.1.isMerge then pure e
  else
    match ← Place.text ⟨entry.1, aliased⟩ with
    | none => pure e
    | some name =>
      if e.names.met.contains name then if e.names.repeatable then pure e else failure
      else
        let value ← set e.value name ⟨entry.2, aliased⟩
        pure { value, names := { e.names with met := name :: e.names.met } }

def readKeysAgain (entries : List (Node × Node)) (aliased : Bool) (e : Entries α) : Decode (Entries α) := do
  if e.names.repeatable then pure e
  else
    entries.forM fun entry => do let _ ← Place.scalar ⟨entry.1, aliased⟩
    pure { e with names := { e.names with repeatable := true } }

/-- Reads the entries of a mapping and then those of the mappings it merges in. An entry of those whose
name was met already does not count, so that earlier entries win. -/
def read (set : α → Bytes → Place → Decode α) (e : Entries α) (n : Node) (aliased : Bool) : Decode (Entries α) := do
  let place ← n.enter aliased
  match _hn : n.behindAlias with
  | .mapping entries =>
    if !Node.distinct entries then failure
    else
      let e ← entries.foldlM (readEntry set place.aliased) e
      match _hm : entries.find? (·.1.isMerge) with
      | none => pure e
      | some m =>
        let e ← readKeysAgain entries place.aliased e
        m.2.mergeSources.attach.foldlM (fun e ⟨source, _hs⟩ => read set e source place.aliased) e
  | _ => failure
termination_by sizeOf n
decreasing_by
  have h1 := Node.sizeOf_value_lt (List.mem_of_find?_eq_some _hm)
  have h2 := Node.sizeOf_behindAlias_le n
  have h3 := Node.sizeOf_mergeSource_le _hs
  rw [_hn] at h2
  omega

end Entries

/-- Changes a value by the entries of a mapping. A mapping must not name an entry twice. -/
def Place.entries {α : Type} (p : Place) (set : α → Bytes → Place → Decode α) (value : α) : Decode α := do
  match p.node.behindAlias with
  | .scalar tag text isPlain =>
    let _ ← p.enter
    return (← nullOnly tag text isPlain).getD value
  | _ => return (← Entries.read set ⟨value, {}⟩ p.node p.aliased).value

end Yaml

end LineCoverage
