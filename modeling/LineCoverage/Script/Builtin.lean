import LineCoverage.Script.Condition
import LineCoverage.Script.Field
import LineCoverage.Script.Format
import LineCoverage.Script.Grammar

/-!
# Built-in commands

The commands that change the script itself: its variables, options, arguments and working directory, and
those that are answered without starting a program.
-/

namespace LineCoverage

namespace Script

abbrev Builtin := List Bytes → Session → Session

namespace Builtin

/-! ## Failing -/

def isSpecial (name : Bytes) : Bool := Reader.specialNames.contains name || name = utf8 "local"

def refuse (s : Session) (text : Bytes) : Session :=
  if s.speaker.any isSpecial then s.fail text else (s.complain text).withCode 2

def number? (t : Bytes) : Option Nat :=
  if t.isEmpty || !t.all isDigit then none
  else
    let n := t.foldl (fun n b => n * 10 + (b.toNat - 48)) 0
    if n ≤ 2147483647 then some n else none

def illegalNumber (s : Session) (t : Bytes) : Session := refuse s (utf8 "Illegal number: " ++ t)

def illegalOption (s : Session) (letter : UInt8) : Session := refuse s (utf8 "Illegal option -" ++ [letter])

def letters (allowed : String) : List Bytes → Except UInt8 (Bytes × List Bytes)
  | [] => .ok ([], [])
  | w :: rest =>
    if w.head? ≠ some (ch '-') || w = utf8 "-" then .ok ([], w :: rest)
    else if w = utf8 "--" then .ok ([], rest)
    else
      match (w.drop 1).find? fun b => !isOneOf b allowed with
      | some b => .error b
      | none => do
        let (more, rest) ← letters allowed rest
        pure (w.drop 1 ++ more, rest)

def withLetters (allowed : String) (use : Bytes → Builtin) : Builtin := fun args s =>
  match letters allowed args with
  | .ok (found, rest) => use found rest s
  | .error b => illegalOption s b

/-! ## Printing -/

def echo : Builtin := fun args s =>
  let (silent, args) := match args with
    | w :: rest => if w = utf8 "-n" then (true, rest) else (false, args)
    | [] => (false, args)
  let text := Bytes.join [0x20] args
  match s.dialect with
  | .plain =>
    let (text, ended) := Format.unescape (text.length + 1) text
    (s.write 1 (if silent || ended then text else line text)).withCode 0
  | .extended => (s.write 1 (if silent then text else line text)).withCode 0

def printf : Builtin := withLetters "" fun _ args s =>
  match args with
  | [] => refuse s (utf8 "usage: printf format [arg ...]")
  | format :: args =>
    let (printed, _) := Format.print format args
    let s := s.write 1 printed.output
    let s := printed.complaints.foldl (fun s t => (s.complain t).withCode 1) (s.withCode 0)
    match printed.fault with
    | some (.invalid t) => refuse s (t ++ utf8 ": invalid directive")
    | some _ => refuse s (utf8 "missing format character")
    | none => s

def quoted (t : Bytes) : Bytes :=
  ch '\'' :: t.flatMap (fun b => if b = ch '\'' then utf8 "'\"'\"'" else [b]) ++ [ch '\'']

def sortedVariables (s : Session) : List (Bytes × Variable) :=
  s.vars.mergeSort fun a b => compare a.1 b.1 ≠ .gt

/-! ## Conditions -/

def condition (args : List Bytes) (s : Session) : Session :=
  match Condition.eval s.disk (args.length + 2) args with
  | .ok holds => s.withCode (if holds then 0 else 1)
  | .error text => refuse s text

def bracket : Builtin := fun args s =>
  if args.getLast? = some (utf8 "]") then condition args.dropLast s else refuse s (utf8 "missing ]")

/-! ## Variables -/

def badName (s : Session) (name : Bytes) : Session := refuse s (name ++ utf8 ": bad variable name")

def assign (s : Session) (name value : Bytes) : Session :=
  if s.isFixed name then s.fail (name ++ utf8 ": is read only") else s.assign name value

def markAll (mark : Variable → Variable) (args : List Bytes) (s : Session) : Session :=
  args.foldl (fun s arg =>
    if s.isHalted then s
    else
      let (name, value) := match Bytes.cut (ch '=') arg with
        | some (name, value) => (name, some value)
        | none => (arg, none)
      if !isName name then badName s name
      else
        let s := match value with
          | some value => assign s name value
          | none => s
        if s.isHalted then s
        else s.putVariable name (mark ((s.entry? name).getD { value := none }))) (s.withCode 0)

def showMarked (word : String) (has : Variable → Bool) (s : Session) : Session :=
  (sortedVariables s).foldl (fun s (name, v) =>
    if !has v then s
    else
      let value := match v.value with
        | some t => ch '=' :: quoted t
        | none => []
      s.write 1 (line (utf8 word ++ ch ' ' :: name ++ value))) (s.withCode 0)

def share : Builtin := withLetters "p" fun _ args s =>
  if args.isEmpty then showMarked "export" (·.exported) s else markAll (fun v => { v with exported := true }) args s

def readonly : Builtin := withLetters "p" fun _ args s =>
  if args.isEmpty then showMarked "readonly" (·.fixed) s else markAll (fun v => { v with fixed := true }) args s

def unset : Builtin := withLetters "vf" fun found args s =>
  args.foldl (fun s name =>
    if s.isHalted then s
    else if found.contains (ch 'f') then { s with functions := s.functions.filter (·.1 ≠ name) }
    else if !isName name then badName s name
    else if s.isFixed name then refuse s (name ++ utf8 ": is read only")
    else s.unset name) (s.withCode 0)

def keepLocal : Builtin := fun args s =>
  match s.locals with
  | [] => refuse s (utf8 "not in a function")
  | _ =>
    args.foldl (fun s arg =>
      if s.isHalted then s
      else
        let name := arg.takeWhile (· ≠ ch '=')
        if !isName name then badName s name
        else
          let s := match s.locals with
            | frame :: outer =>
              if frame.any (·.1 = name) then s else { s with locals := ((name, s.entry? name) :: frame) :: outer }
            | [] => s
          match Bytes.cut (ch '=') arg with
          | some (_, value) => assign s name value
          | none => s) (s.withCode 0)

def shift : Builtin := fun args s =>
  match args with
  | [] => if s.args.isEmpty then refuse s (utf8 "can't shift that many") else { s with args := s.args.drop 1, code := 0 }
  | t :: _ =>
    match number? t with
    | none => illegalNumber s t
    | some n =>
      if s.args.length < n then refuse s (utf8 "can't shift that many") else { s with args := s.args.drop n, code := 0 }

/-! ## Options -/

def optionNames : List (Char × String) :=
  [('e', "errexit"), ('f', "noglob"), ('I', "ignoreeof"), ('i', "interactive"), ('m', "monitor"), ('n', "noexec"),
    ('s', "stdin"), ('x', "xtrace"), ('v', "verbose"), ('V', "vi"), ('E', "emacs"), ('C', "noclobber"),
    ('a', "allexport"), ('b', "notify"), ('u', "nounset")]

def setOption (s : Session) (on : Bool) (c : Char) : Session :=
  let chosen := (s.options.filter (· ≠ c)) ++ (if on then [c] else [])
  { s with options := (optionNames.map (·.1)).reverse.filter chosen.contains }

def showOptions (asCommands : Bool) (s : Session) : Session :=
  if asCommands then
    optionNames.foldl (fun s (c, name) =>
      s.write 1 (line (utf8 (if s.has c then "set -o " else "set +o ") ++ utf8 name))) s
  else
    optionNames.foldl (fun s (c, name) =>
      let blanks := List.replicate (16 - name.length) 0x20
      s.write 1 (line (utf8 name ++ blanks ++ utf8 (if s.has c then "on" else "off"))))
      (s.write 1 (utf8 "Current option settings\n"))

/-- Sets options from words. Gives the operands behind them, and whether they are to be taken. -/
def readOptions : (fuel : Nat) → List Bytes → Session → Except Bytes (List Bytes × Bool × Session)
  | 0, args, s => .ok (args, false, s)
  | _, [], s => .ok ([], false, s)
  | fuel + 1, w :: rest, s =>
    let on := w.head? = some (ch '-')
    if w = utf8 "--" then .ok (rest, true, s)
    else if w = utf8 "-" then .ok (rest, !rest.isEmpty, setOption (setOption s false 'x') false 'v')
    else if !on && w.head? ≠ some (ch '+') then .ok (w :: rest, true, s)
    else do
      let (rest, s) ← (w.drop 1).foldlM (fun (rest, s) b =>
        let c := Char.ofNat b.toNat
        if c = 'o' then
          match rest with
          | [] => .ok ([], showOptions (!on) s)
          | name :: rest =>
            match optionNames.find? fun (_, n) => utf8 n = name with
            | some (c, _) => .ok (rest, setOption s on c)
            | none => .error (utf8 "Illegal option " ++ w.take 1 ++ utf8 "o " ++ name)
        else if optionNames.any (·.1 = c) then .ok (rest, setOption s on c)
        else .error (utf8 "Illegal option " ++ w.take 1 ++ [b])) (rest, s)
      readOptions fuel rest s

def set : Builtin := fun args s =>
  if args.isEmpty then
    (sortedVariables s).foldl (fun s (name, v) =>
      match v.value with
      | some value => s.write 1 (line (name ++ ch '=' :: quoted value))
      | none => s) (s.withCode 0)
  else
    match readOptions (args.length + 1) args s with
    | .error text => refuse s text
    | .ok (operands, taken, s) => { s with args := if taken then operands else s.args, code := 0 }

/-! ## Going on elsewhere -/

def leap (make : Nat → Leap) : Builtin := fun args s =>
  match args with
  | [] => if s.loops = 0 then s.withCode 0 else { s with leap := some (make 1), code := 0 }
  | t :: _ =>
    match number? t with
    | none => illegalNumber s t
    | some 0 => illegalNumber s t
    | some n => if s.loops = 0 then s.withCode 0 else { s with leap := some (make (min n s.loops)), code := 0 }

def ending (finish : Session → Nat → Session) : Builtin := fun args s =>
  match args with
  | [] => finish s s.code
  | t :: _ =>
    match number? t with
    | none => illegalNumber s t
    | some n => finish s (n % 256)

def leave : Builtin := ending fun s n => { s with leap := some .leave, code := n }

def exit : Builtin := ending Session.exit

/-! ## The working directory -/

def cd : Builtin := withLetters "LP" fun _ args s =>
  let home := (s.value? (utf8 "HOME")).getD []
  let back := (s.value? (utf8 "OLDPWD")).getD []
  let (target, shows) := match args with
    | [] => (home, false)
    | t :: _ => if t = utf8 "-" then (back, true) else (t, false)
  let old := Files.workPath s.disk
  if target.isEmpty then (if shows then s.write 1 (line old) else s).withCode 0
  else
    match Files.node? s.disk true target with
    | .ok (place, .directory) =>
      let s := { s with disk := { s.disk with workDir := place } }
      let now := Files.workPath s.disk
      let s := (s.assign (utf8 "OLDPWD") old).assign (utf8 "PWD") now
      (if shows then s.write 1 (line now) else s).withCode 0
    | _ => refuse s (utf8 "can't cd to " ++ target)

def pwd : Builtin := withLetters "LP" fun _ _ s => (s.write 1 (line (Files.workPath s.disk))).withCode 0

/-! ## Reading -/

/-- The first line of a text with its backslashes resolved, how many bytes it took, and whether it was
ended. A byte behind a backslash is marked as quoted. -/
def readLine (raw : Bool) : Bytes → List Mark × Nat × Bool
  | [] => ([], 0, false)
  | b :: rest =>
    if b = newline then ([], 1, true)
    else if b = ch '\\' && !raw then
      match rest with
      | [] => ([], 1, false)
      | c :: after =>
        let (more, taken, ended) := readLine raw after
        (if c = newline then more else ⟨c, true⟩ :: more, taken + 2, ended)
    else
      let (more, taken, ended) := readLine raw rest
      (if b = 0 then more else ⟨b, false⟩ :: more, taken + 1, ended)

/-- Splits a line into as many values as there are variables; the last takes what is left. -/
def splitLine (separators : Bytes) : (count : Nat) → List Mark → List Bytes
  | 0, _ => []
  | count + 1, line =>
    let separates (m : Mark) : Bool := !m.quoted && separators.contains m.byte
    let isSpace (m : Mark) : Bool := separates m && (isBlank m.byte || m.byte = newline)
    let line := line.dropWhile isSpace
    let trimmed (line : List Mark) : List Mark := (line.reverse.dropWhile isSpace).reverse
    let first := line.takeWhile fun m => !separates m
    let rest := (line.drop first.length).dropWhile isSpace
    let rest := match rest with
      | m :: after =>
        if separates m && !(isSpace m) then after.dropWhile isSpace else rest
      | [] => []
    if count = 0 then
      -- One separator at the end belongs to the last value only if another value is in front of it.
      let whole := if rest.isEmpty then first else trimmed line
      [whole.map (·.byte)]
    else first.map (·.byte) :: splitLine separators count rest

def read : Builtin := withLetters "r" fun found names s =>
  match names with
  | [] => refuse s (utf8 "arg count")
  | _ =>
    let (line, taken, ended) := readLine (found.contains (ch 'r')) (s.available 0)
    let s := (s.consume 0 taken).withCode (if ended then 0 else 1)
    let values := splitLine s.separators names.length line
    (names.zip values).foldl (fun s (name, value) =>
      if s.isHalted then s
      else if !isName name then badName s name
      else assign s name value) s

/-! ## Signals -/

/-- A signal: its number, its name, and what is said of a program that it ended. Some end none. -/
structure Signal where
  number : Nat
  name : String
  effect : Option String

def signals : List Signal :=
  [⟨1, "HUP", some "hangup"⟩, ⟨2, "INT", some "interrupt"⟩, ⟨3, "QUIT", some "quit"⟩,
    ⟨4, "ILL", some "illegal instruction"⟩, ⟨5, "TRAP", some "trace/breakpoint trap"⟩, ⟨6, "ABRT", some "aborted"⟩,
    ⟨7, "BUS", some "bus error"⟩, ⟨8, "FPE", some "floating point exception"⟩, ⟨9, "KILL", some "killed"⟩,
    ⟨10, "USR1", some "user defined signal 1"⟩, ⟨11, "SEGV", some "segmentation fault"⟩,
    ⟨12, "USR2", some "user defined signal 2"⟩, ⟨13, "PIPE", some "broken pipe"⟩, ⟨14, "ALRM", some "alarm clock"⟩,
    ⟨15, "TERM", some "terminated"⟩, ⟨16, "STKFLT", some "stack fault"⟩, ⟨17, "CHLD", none⟩, ⟨18, "CONT", none⟩,
    ⟨19, "STOP", none⟩, ⟨20, "TSTP", none⟩, ⟨21, "TTIN", none⟩, ⟨22, "TTOU", none⟩, ⟨23, "URG", none⟩,
    ⟨24, "XCPU", some "CPU time limit exceeded"⟩, ⟨25, "XFSZ", some "file size limit exceeded"⟩,
    ⟨26, "VTALRM", some "virtual timer expired"⟩, ⟨27, "PROF", some "profiling timer expired"⟩, ⟨28, "WINCH", none⟩,
    ⟨29, "IO", some "I/O possible"⟩, ⟨30, "PWR", some "power failure"⟩, ⟨31, "SYS", some "bad system call"⟩]

/-- The number of a signal, given by number or name. Zero stands for none. -/
def signalNumber? (t : Bytes) : Option Nat :=
  let upper := t.map fun b => if ch 'a' ≤ b && b ≤ ch 'z' then b - 32 else b
  match number? t with
  | some n => if n ≤ 64 then some n else none
  | none =>
    if upper = utf8 "EXIT" then some 0 else (signals.find? fun x => utf8 x.name = upper).map (·.number)

def signalName (n : Nat) : Bytes :=
  if n = 0 then utf8 "EXIT" else ((signals.find? (·.number = n)).map fun x => utf8 x.name).getD (Decimal.ofNat n)

def receive (s : Session) (n : Nat) : Session :=
  match (s.traps.lookup n).filter fun _ => n ≠ 9 with
  | some action => if action.isEmpty then s else { s with pending := s.pending ++ [action] }
  | none =>
    match (signals.find? (·.number = n)).bind (·.effect) with
    | some effect => { s with ended := some (.signal effect), code := 128 + n, traps := [] }
    | none => s

def killUsage : Bytes :=
  utf8 "Usage: kill [-s sigspec | -signum | -sigspec] [pid | job]... or\nkill -l [exitstatus]"

def kill : Builtin := fun args s =>
  let send (n : Nat) (targets : List Bytes) : Session :=
    if targets.isEmpty then refuse s killUsage
    else
      targets.foldl (fun s t =>
        if s.isHalted then s
        else
          match number? t with
          | none => illegalNumber s t
          | some p =>
            if p = processNumber || p = 0 then if n = 0 then s else receive s n
            else (s.complain (utf8 "No such process")).withCode 1) (s.withCode 0)
  match args with
  | [] => refuse s killUsage
  | w :: rest =>
    if w = utf8 "-l" then
      match rest with
      | [] => (signals.foldl (fun s x => s.write 1 (line (utf8 x.name))) s).withCode 0
      | t :: _ =>
        match number? t with
        | some n => (s.write 1 (line (signalName (n % 128)))).withCode 0
        | none => refuse s (utf8 "invalid signal number or exit status: " ++ t)
    else if w = utf8 "--" then send 15 rest
    else if w = utf8 "-s" || w = utf8 "-n" then
      match rest with
      | [] => refuse s (utf8 "No arg for -s option")
      | t :: rest =>
        match signalNumber? t with
        | some n => send n rest
        | none => refuse s (utf8 "invalid signal number or name: " ++ t)
    else if w.head? = some (ch '-') && w.length > 1 then
      match signalNumber? (w.drop 1) with
      | some n => send n rest
      | none => illegalOption s ((w.drop 1).headD 0)
    else send 15 args

def trap : Builtin := withLetters "" fun _ args s =>
  let s := s.withCode 0
  let change (action : Option Bytes) (names : List Bytes) : Session :=
    names.foldl (fun s name =>
      if s.code ≠ 0 then s
      else
        match signalNumber? name with
        | none => (s.write 2 (line (utf8 "trap: " ++ name ++ utf8 ": bad trap"))).withCode 1
        | some n => { s with traps := (s.traps.filter (·.1 ≠ n)) ++ (action.map (n, ·)).toList }) s
  match args with
  | [] =>
    (s.traps.mergeSort fun a b => a.1 ≤ b.1).foldl (fun s (n, action) =>
      s.write 1 (line (utf8 "trap -- " ++ quoted action ++ ch ' ' :: signalName n))) s
  | [name] => change none [name]
  | action :: names =>
    if action = utf8 "-" then change none names
    else if (number? action).isSome then change none args
    else change (some action) names

/-! ## Options of scripts -/

def getopts : Builtin := fun args s =>
  match args with
  | spec :: name :: given =>
    let words := if given.isEmpty then s.args else given
    let index := (number? ((s.value? (utf8 "OPTIND")).getD [])).getD 1
    -- How far the word at hand has been read stands behind the index.
    let offset := if s.optionOffset.1 = index then s.optionOffset.2 else 0
    let quiet := spec.head? = some (ch ':')
    let done (s : Session) (index : Nat) : Session :=
      { (s.assign name (utf8 "?")).assign (utf8 "OPTIND") (Decimal.ofNat index) with code := 1, optionOffset := (0, 0) }
    match words[index - 1]? with
    | none => done s index
    | some w =>
      if offset = 0 && (w.head? ≠ some (ch '-') || w = utf8 "-") then done s index
      else if offset = 0 && w = utf8 "--" then done s (index + 1)
      else
        let position := max offset 1
        let letter := w[position]?.getD 0
        let isLast := position + 1 = w.length
        let next (s : Session) (index offset : Nat) : Session :=
          { s.assign (utf8 "OPTIND") (Decimal.ofNat index) with optionOffset := (index, offset) }
        let onward (s : Session) : Session := if isLast then next s (index + 1) 0 else next s index (position + 1)
        let known := letter ≠ ch ':' && spec.contains letter
        let takes := (spec[(spec.idxOf letter) + 1]?) = some (ch ':')
        if !known then
          let s := if quiet then s.assign (utf8 "OPTARG") [letter]
            else (s.write 2 (line (utf8 "Illegal option -" ++ [letter]))).unset (utf8 "OPTARG")
          (onward (s.assign name (utf8 "?"))).withCode 0
        else if !takes then (onward ((s.unset (utf8 "OPTARG")).assign name [letter])).withCode 0
        else if !isLast then
          (next ((s.assign (utf8 "OPTARG") (w.drop (position + 1))).assign name [letter]) (index + 1) 0).withCode 0
        else
          match words[index]? with
          | some value => (next ((s.assign (utf8 "OPTARG") value).assign name [letter]) (index + 2) 0).withCode 0
          | none =>
            let s := if quiet then (s.assign (utf8 "OPTARG") [letter]).assign name (utf8 ":")
              else ((s.write 2 (line (utf8 "No arg for -" ++ letter :: utf8 " option"))).unset (utf8 "OPTARG")).assign name
                (utf8 "?")
            (next s (index + 1) 0).withCode 0
  | _ => refuse s (utf8 "Usage: getopts optstring var [arg]")

/-! ## The rest -/

/-- The bits that new files are not given, which nothing here depends on. -/
def umask : Builtin := withLetters "S" fun found args s =>
  match args with
  | [] => (s.write 1 (if found.isEmpty then utf8 "0022\n" else utf8 "u=rwx,g=rx,o=rx\n")).withCode 0
  | t :: _ => if t.any fun b => isDigit b && !Format.isOctal b then illegalNumber s t else s.withCode 0

def wait : Builtin := fun args s =>
  match args with
  | [] => s.withCode 0
  | t :: _ =>
    match number? t, s.job with
    | none, _ => illegalNumber s t
    | some n, some code => s.withCode (if n = processNumber + 1 then code else 127)
    | some _, none => s.withCode 127

def times : Builtin := fun _ s =>
  (s.write 1 (utf8 "0m0.000000s 0m0.000000s\n0m0.000000s 0m0.000000s\n")).withCode 0

def noJob : Builtin := fun _ s => refuse s (utf8 "No current job")

def done (code : Nat) : Builtin := fun _ s => s.withCode code

def table : List (String × Builtin) :=
  [(":", done 0), ("[", bracket), ("alias", done 0), ("bg", noJob), ("break", leap .breakOut), ("cd", cd),
    ("chdir", cd), ("continue", leap .goOn), ("echo", echo), ("exit", exit), ("export", share), ("false", done 1),
    ("fg", noJob), ("getopts", getopts), ("jobs", done 0), ("kill", kill), ("local", keepLocal), ("printf", printf),
    ("pwd", pwd), ("read", read), ("readonly", readonly), ("return", leave), ("set", set), ("shift", shift),
    ("test", condition), ("times", times), ("trap", trap), ("true", done 0), ("ulimit", done 0), ("umask", umask),
    ("unalias", done 0), ("unset", unset), ("wait", wait)]

def runners : List String := [".", "command", "eval", "exec", "hash", "type"]

def find? (name : Bytes) : Option Builtin := (table.find? fun (n, _) => utf8 n = name).map (·.2)

def isKnown (name : Bytes) : Bool := (find? name).isSome || runners.any fun n => utf8 n = name

end Builtin

end Script

end LineCoverage
