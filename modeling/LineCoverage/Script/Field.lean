import LineCoverage.Script.Session

/-!
# Fields

A word that was expanded is a list of items. It is split into fields where a substitution outside of
quotes brought separators, and a field that is a pattern becomes the paths it matches on the disk.
-/

namespace LineCoverage

namespace Script

inductive Item where
  | byte (m : Mark) (splits : Bool)
  | solid
  /-- Behind a parameter. Between quotes the field ends there; otherwise it does if there is one. -/
  | cut (hard : Bool)
  deriving DecidableEq, Repr

namespace Item

def ofText (quoted splits : Bool) (t : Bytes) : List Item := t.map fun b => .byte ⟨b, quoted⟩ splits

def marks (items : List Item) : List Mark :=
  items.filterMap fun
    | .byte m _ => some m
    | _ => none

def text (items : List Item) : Bytes := (marks items).map (·.byte)

end Item

/-! ## Splitting -/

structure Splitter where
  fields : List (List Mark) := []
  current : List Mark := []
  isThere : Bool := false
  afterSpace : Bool := false

namespace Splitter

def add (s : Splitter) (m : Mark) : Splitter :=
  { s with current := m :: s.current, isThere := true, afterSpace := false }

def close (s : Splitter) : Splitter := { s with fields := s.current.reverse :: s.fields, current := [], isThere := false }

def space (s : Splitter) : Splitter := if s.isThere then { s.close with afterSpace := true } else s

def separator (s : Splitter) : Splitter := if s.afterSpace then { s with afterSpace := false } else s.close

def step (separators : Bytes) (s : Splitter) : Item → Splitter
  | .solid => { s with isThere := true, afterSpace := false }
  | .cut hard => if hard then s.close else s.space
  | .byte m splits =>
    if !splits || !separators.contains m.byte then s.add m
    else if isBlank m.byte || m.byte = newline then s.space
    else s.separator

end Splitter

def fieldsOf (separators : Bytes) (items : List Item) : List (List Mark) :=
  let s := items.foldl (Splitter.step separators) {}
  (if s.isThere then s.close else s).fields.reverse

/-! ## Paths that match -/

def patternElements (ms : List Mark) : List (List Mark) :=
  (ms.foldr (fun m acc =>
    if m.byte = Path.slash then [] :: acc
    else match acc with
      | [] => [[m]]
      | e :: rest => (m :: e) :: rest) [[]])

/-- The names that an element matches in a directory. A dot in front is only matched by a dot. -/
def matchingNames (d : Disk) (dir : Bytes) (element : List Mark) : List Bytes :=
  let pattern := Pattern.ofMarks element
  match Files.node? d true (if dir.isEmpty then Path.dot else dir) with
  | .ok (place, .directory) =>
    let hidden := element.head?.any (·.byte = ch '.')
    let names := (if hidden then [Path.dot, Path.dotDot] else []) ++ d.namesIn place
    names.filter fun n => (n.head? = some (ch '.') → hidden) && Pattern.fits pattern n
  | _ => []

def matchingPaths (d : Disk) (dir : Bytes) : List (List Mark) → List Bytes
  | [] => []
  | [last] =>
    if Pattern.isOpen (Pattern.ofMarks last) then (matchingNames d dir last).map (dir ++ ·)
    else
      let path := dir ++ last.map (·.byte)
      match Files.node? d false path with
      | .ok _ => [path]
      | .error _ => []
  | element :: rest =>
    if Pattern.isOpen (Pattern.ofMarks element) then
      (matchingNames d dir element).flatMap fun n =>
        let path := dir ++ n
        if Files.isDirectory d path then matchingPaths d (path ++ [Path.slash]) rest else []
    else matchingPaths d (dir ++ element.map (·.byte) ++ [Path.slash]) rest

/-- The texts that a field stands for: the paths it matches, or itself. -/
def textsOf (d : Disk) (asPattern : Bool) (field : List Mark) : List Bytes :=
  let itself := field.map (·.byte)
  if !asPattern || !Pattern.isOpen (Pattern.ofMarks field) then [itself]
  else
    match matchingPaths d [] (patternElements field) with
    | [] => [itself]
    | found => found.mergeSort (fun a b => compare a b ≠ .gt)

/-! ## Home directories -/

def homeOf? (s : Session) (person : Bytes) : Option Bytes :=
  if person.isEmpty then s.value? (utf8 "HOME")
  else if person = utf8 "root" then some (utf8 "/root")
  else none

/-- A text with its tilde replaced. A word may go on behind the text. -/
def replaceTilde (s : Session) (goesOn : Bool) (t : Bytes) : Bytes × Bytes :=
  match t with
  | b :: rest =>
    let person := rest.takeWhile (· ≠ Path.slash)
    let after := rest.drop person.length
    if b ≠ ch '~' || (after.isEmpty && goesOn) then ([], t)
    else
      match homeOf? s person with
      | some home => (home, after)
      | none => ([], t)
  | [] => ([], [])

/-! ## Parameters -/

def processNumber : Nat := 4242

def Session.separators (s : Session) : Bytes := (s.value? (utf8 "IFS")).getD (utf8 " \t\n")

def Session.joiner (s : Session) : Bytes :=
  match s.value? (utf8 "IFS") with
  | some t => t.take 1
  | none => [0x20]

def Session.parameter? (s : Session) (name : Bytes) : Option Bytes :=
  if name = utf8 "#" then some (Decimal.ofNat s.args.length)
  else if name = utf8 "?" then some (Decimal.ofNat s.code)
  else if name = utf8 "$" then some (Decimal.ofNat processNumber)
  else if name = utf8 "!" then s.job.map fun _ => Decimal.ofNat (processNumber + 1)
  else if name = utf8 "-" then some (s.options.map ch)
  else if name = utf8 "0" then some s.name
  else if name.all isDigit then
    let n := name.foldl (fun n b => n * 10 + (b.toNat - 48)) 0
    if n = 0 then some s.name else s.args[n - 1]?
  else s.value? name

end Script

end LineCoverage
