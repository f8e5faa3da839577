import LineCoverage.CommandLine.Token
import LineCoverage.Text.NumberError

/-!
# Reading command lines

A command line names a command, flags of the program and of the command, and arguments. The command
may be left out: then what comes belongs to the default command.
-/

namespace LineCoverage

namespace CommandLine

inductive UsageError where
  | unknownLong (flag : Bytes)
  | unknownShort (flag : Bytes)
  | missingValue (flag : Bytes)
  | unexpected (text : Bytes)
  | words (e : WordsError)
  | repeated (name : String)
  | badNumber (e : NumberError)
  | missingFile (path : Bytes)
  | directory (name : Bytes)
  | file (e : FileError)
  | missingArgument (name : String)
  deriving DecidableEq, Repr

namespace UsageError

def quoted (s : Bytes) : Bytes := utf8 "'" ++ s ++ utf8 "'"

def message : UsageError → Bytes
  | .unknownLong flag => utf8 "unknown long flag " ++ quoted flag
  | .unknownShort flag => utf8 "unknown short flag " ++ quoted flag
  | .missingValue flag => utf8 "expected argument for flag " ++ quoted flag
  | .unexpected text => utf8 "unexpected " ++ text
  | .words e => e.message
  | .repeated name => utf8 "flag " ++ quoted (utf8 name) ++ utf8 " cannot be repeated"
  | .badNumber e => e.message
  | .missingFile path => utf8 "path " ++ quoted path ++ utf8 " does not exist"
  | .directory name => quoted name ++ utf8 " is a directory"
  | .file e => e.message
  | .missingArgument name => utf8 "required argument " ++ quoted (utf8 name) ++ utf8 " not provided"

end UsageError

structure Command where
  name : String
  flags : List Flag
  /-- The name of its arguments, if it takes any. There has to be at least one then. -/
  argument : Option String
  deriving DecidableEq, Repr

def standardFlags : List Flag :=
  ["help", "help-long", "help-man", "completion-bash", "completion-script-bash", "completion-script-zsh"].map
    ({ name := ·, isSwitch := true })

structure Interface where
  flags : List Flag
  commands : List Command
  default : Command

inductive Element where
  | flag (f : Flag) (value : Bytes)
  | argument (text : Bytes)
  deriving DecidableEq, Repr

def trueText : Bytes := utf8 "true"

def falseText : Bytes := utf8 "false"

def longFlag? (flags : List Flag) (name : Bytes) : Option (Flag × Bool) :=
  let named (n : Bytes) : Option Flag := flags.find? fun f => utf8 f.name = n
  let off := utf8 "no-"
  match named name with
  | some f => some (f, false)
  | none => if Bytes.startsWith name off then (named (name.drop off.length)).map (·, true) else none

def flagOf (flags : List Flag) (t : Token) : Except UsageError (Flag × Bool) :=
  match t with
  | .long name =>
    match longFlag? flags name with
    | some (f, off) => if off && !f.isSwitch then .error (.unknownLong t.text) else .ok (f, off)
    | none => .error (.unknownLong t.text)
  | .short name =>
    match Words.shortFlag? flags name with
    | some f => .ok (f, false)
    | none => .error (.unknownShort t.text)
  | _ => .error (.unexpected t.text)

def readFlag (flags : List Flag) (w : Words) : Except UsageError (Element × Words) := do
  let (t, w) := w.next flags
  let (f, off) ← flagOf flags t
  if f.isSwitch then pure (.flag f (if off then falseText else trueText), w)
  else
    match w.next flags with
    | (.argument value, w) => pure (.flag f value, w)
    | _ => .error (.missingValue t.text)

structure Progress where
  words : Words
  command : Option Command
  found : List Element

namespace Progress

/-- The flags that are known: those of the program, and of the command once it is chosen. -/
def flags (i : Interface) (p : Progress) : List Flag :=
  standardFlags ++ i.flags ++ (p.command.map (·.flags)).getD []

def finish (i : Interface) (p : Progress) : Except UsageError (Command × List Element) :=
  match (p.words.peek (p.flags i)).1 with
  | .done => .ok (p.command.getD i.default, p.found.reverse)
  | .fault e => .error (.words e)
  | t => .error (.unexpected t.text)

/-- Reads on. A flag or a word that fits nothing before a command was chosen chooses the default. -/
def go (i : Interface) : (fuel : Nat) → Progress → Except UsageError (Command × List Element)
  | 0, p => p.finish i
  | fuel + 1, p =>
    let flags := p.flags i
    let (t, words) := p.words.peek flags
    let p := { p with words }
    let found (e : Element) (words : Words) : Progress := { p with words, found := e :: p.found }
    match t with
    | .done | .fault _ => p.finish i
    | .long _ | .short _ =>
      match readFlag flags words, p.command with
      | .ok (e, words), _ => go i fuel (found e words)
      | .error _, none => go i fuel { p with command := some i.default }
      | .error e, some _ => .error e
    | .argument text =>
      match p.command with
      | none =>
        match i.commands.find? fun c => utf8 c.name = text with
        | some c => go i fuel { p with words := (words.next flags).2, command := some c }
        | none => go i fuel { p with command := some i.default }
      | some c =>
        if c.argument.isSome then go i fuel (found (.argument text) (words.next flags).2)
        else p.finish i

end Progress

def read (i : Interface) (s : Store) (words : List Bytes) : Except UsageError (Command × List Element) :=
  let e := expandFiles s fileDepth words
  let fuel := e.words.foldl (fun n w => n + w.length + 2) 2
  Progress.go i fuel ⟨.start e.words e.fault, none, []⟩

end CommandLine

end LineCoverage
