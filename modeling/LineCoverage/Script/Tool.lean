import LineCoverage.Script.Word
import LineCoverage.Store.Disk
import LineCoverage.Text.Decimal

/-!
# Installed programs

How a program that is installed is called, what it leaves behind, how it reads its options, and how it
words its complaints.
-/

namespace LineCoverage

namespace Script

inductive Dialect where
  | plain
  | extended
  deriving DecidableEq, Repr

structure Call where
  name : Bytes
  args : List Bytes
  input : Bytes
  env : List (Bytes × Bytes)
  disk : Disk

inductive Chunk where
  | output (t : Bytes)
  | complaint (t : Bytes)
  deriving DecidableEq, Repr

structure Effect where
  disk : Disk
  code : Nat := 0
  chunks : List Chunk := []
  hasRead : Bool := false

abbrev Tool := Call → Effect

def line (t : Bytes) : Bytes := t ++ [newline]

namespace Effect

def start (c : Call) : Effect := { disk := c.disk }

def write (e : Effect) (t : Bytes) : Effect := if t.isEmpty then e else { e with chunks := e.chunks ++ [.output t] }

def writeLine (e : Effect) (t : Bytes) : Effect := e.write (line t)

def complain (e : Effect) (name : Bytes) (code : Nat) (t : Bytes) : Effect :=
  { e with chunks := e.chunks ++ [.complaint (line (name ++ utf8 ": " ++ t))], code := max e.code code }

def misused (e : Effect) (name : Bytes) (code : Nat) (t : Bytes) : Effect :=
  let e := e.complain name code t
  { e with chunks := e.chunks ++ [.complaint (line (utf8 "Try '" ++ name ++ utf8 " --help' for more information."))] }

def output (e : Effect) : Bytes := e.chunks.flatMap fun | .output t => t | .complaint _ => []

def complaints (e : Effect) : Bytes := e.chunks.flatMap fun | .complaint t => t | .output _ => []

end Effect

/-! ## Names in complaints -/

def reason : SystemCause → Bytes
  | .noEntry => utf8 "No such file or directory"
  | .notDirectory => utf8 "Not a directory"
  | .isDirectory => utf8 "Is a directory"
  | .exists => utf8 "File exists"
  | .tooManyLinks => utf8 "Too many levels of symbolic links"
  | .notPermitted => utf8 "Permission denied"
  | .notExecutable => utf8 "Exec format error"
  | .nameTooLong => utf8 "File name too long"
  | .invalid => utf8 "Invalid argument"
  | .endless => utf8 "File system loop detected"

def isPrintable (b : UInt8) : Bool := 0x20 ≤ b && b ≤ 0x7E

def escaped (b : UInt8) : Bytes :=
  let octal := [48 + b / 64, 48 + b / 8 % 8, 48 + b % 8]
  let letter := [(7, 'a'), (8, 'b'), (9, 't'), (10, 'n'), (11, 'v'), (12, 'f'), (13, 'r')].lookup b.toNat
  ch '\\' :: match letter with
    | some c => [ch c]
    | none => octal

/-- The inside of a name between single quotes; unprintable bytes stand outside of them. -/
def quotedBytes (inEscape : Bool) : Bytes → Bytes
  | [] => []
  | b :: rest =>
    if b = ch '\'' then (if inEscape then utf8 "''" else []) ++ utf8 "'\\''" ++ quotedBytes false rest
    else if isPrintable b then (if inEscape then utf8 "''" else []) ++ b :: quotedBytes false rest
    else (if inEscape then [] else utf8 "'$'") ++ escaped b ++ quotedBytes true rest

def quote (t : Bytes) : Bytes :=
  if t.contains (ch '\'') && t.all fun b => isPrintable b && !isOneOf b "\"$\\\x60!" then
    ch '"' :: t ++ [ch '"']
  else ch '\'' :: quotedBytes false t ++ [ch '\'']

def needsQuotes (t : Bytes) : Bool :=
  t.isEmpty || t.any (fun b => !isPrintable b || isOneOf b " !\"$&'()*;<=>?[\\]^\x60|\x7b\x7d~#")

def quoteIfNeeded (t : Bytes) : Bytes := if needsQuotes t then quote t else t

/-! ## Options -/

structure OptionSet where
  flags : String
  valued : String := ""
  long : List (String × Char) := []
  inOrder : Bool := false

structure Choices where
  found : List (Char × Bytes)
  operands : List Bytes

def Choices.has (o : Choices) (c : Char) : Bool := o.found.any (·.1 = c)

def Choices.value? (o : Choices) (c : Char) : Option Bytes := (o.found.filter (·.1 = c)).getLast?.map (·.2)

namespace OptionSet

def takesValue (o : OptionSet) (c : Char) : Bool := o.valued.toList.contains c

def longName? (o : OptionSet) (name : Bytes) : Option (String × Char) :=
  match o.long.find? fun (n, _) => utf8 n = name with
  | some found => some found
  | none =>
    match o.long.filter fun (n, _) => Bytes.startsWith (utf8 n) name with
    | [found] => some found
    | _ => none

/-- The options in a cluster of letters; the last may have its value in the next word. -/
def readLetters (o : OptionSet) : Bytes → List Bytes → Except Bytes (List (Char × Bytes) × List Bytes)
  | [], rest => .ok ([], rest)
  | b :: letters, rest =>
    let c := Char.ofNat b.toNat
    let inQuotes := ch '\'' :: b :: [ch '\'']
    if o.takesValue c then
      if !letters.isEmpty then .ok ([(c, letters)], rest)
      else
        match rest with
        | value :: rest => .ok ([(c, value)], rest)
        | [] => .error (utf8 "option requires an argument -- " ++ inQuotes)
    else if o.flags.toList.contains c then
      (readLetters o letters rest).map fun (more, rest) => ((c, []) :: more, rest)
    else .error (utf8 "invalid option -- " ++ inQuotes)

def readLong (o : OptionSet) (word : Bytes) (rest : List Bytes) : Except Bytes ((Char × Bytes) × List Bytes) :=
  let (name, value) := match Bytes.cut (ch '=') word with
    | some (name, value) => (name, some value)
    | none => (word, none)
  match o.longName? name, value with
  | none, _ => .error (utf8 "unrecognized option '--" ++ word ++ utf8 "'")
  | some (full, c), some value =>
    if o.takesValue c then .ok ((c, value), rest)
    else .error (utf8 "option '--" ++ utf8 full ++ utf8 "' doesn't allow an argument")
  | some (full, c), none =>
    if !o.takesValue c then .ok ((c, []), rest)
    else
      match rest with
      | value :: rest => .ok ((c, value), rest)
      | [] => .error (utf8 "option '--" ++ utf8 full ++ utf8 "' requires an argument")

def read (o : OptionSet) : (fuel : Nat) → List Bytes → Except Bytes Choices
  | 0, words => .ok ⟨[], words⟩
  | _, [] => .ok ⟨[], []⟩
  | fuel + 1, word :: rest =>
    if word = utf8 "--" then .ok ⟨[], rest⟩
    else if Bytes.startsWith word (utf8 "--") then do
      let (found, rest) ← o.readLong (word.drop 2) rest
      let more ← read o fuel rest
      pure { more with found := found :: more.found }
    else if word.head? = some (ch '-') && word ≠ utf8 "-" then do
      let (found, rest) ← o.readLetters (word.drop 1) rest
      let more ← read o fuel rest
      pure { more with found := found ++ more.found }
    else if o.inOrder then .ok ⟨[], word :: rest⟩
    else do
      let more ← read o fuel rest
      pure { more with operands := word :: more.operands }

end OptionSet

def withOptions (o : OptionSet) (code : Nat) (run : Choices → Tool) : Tool := fun c =>
  match o.read (c.args.length + 1) c.args with
  | .ok options => run options c
  | .error text => (Effect.start c).misused c.name code text

end Script

end LineCoverage
