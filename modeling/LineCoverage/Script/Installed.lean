import LineCoverage.Script.Condition
import LineCoverage.Script.Format
import LineCoverage.Script.Tool.Edit
import LineCoverage.Script.Tool.Search

/-!
# What is installed

The programs that every script finds, where they are found, and the directories around them.
-/

namespace LineCoverage

namespace Script

namespace Installed

/-! ## Small programs -/

def isEchoOption (w : Bytes) : Bool := w.length > 1 && w.head? = some (ch '-') && (w.drop 1).all (isOneOf · "neE")

/-- Prints its arguments; escapes are only resolved if that is asked for. -/
def echo : Tool := fun c =>
  let options := (c.args.takeWhile isEchoOption).flatMap (·.drop 1)
  let text := Bytes.join [0x20] (c.args.dropWhile isEchoOption)
  let escapes := (options.filter fun b => b ≠ ch 'n').getLast? = some (ch 'e')
  let (text, ended) := if escapes then Format.unescape (text.length + 1) text else (text, false)
  (Effect.start c).write (if ended || options.contains (ch 'n') then text else line text)

def printf : Tool := fun c =>
  let args := if c.args.head? = some (utf8 "--") then c.args.drop 1 else c.args
  let e := Effect.start c
  match args with
  | [] => e.misused c.name 1 (utf8 "missing operand")
  | format :: args =>
    let (printed, left) := Format.print format args
    let e := e.write printed.output
    let e := printed.complaints.foldl (fun e t => e.complain c.name 1 t) e
    let e := match printed.fault with
      | some (.invalid t) => e.complain c.name 1 (t ++ utf8 ": invalid conversion specification")
      | some _ => e.complain c.name 1 (utf8 "%: invalid conversion specification")
      | none => e
    match left with
    | first :: _ =>
      if printed.ended then e
      else { e.complain c.name 0 (utf8 "warning: ignoring excess arguments, starting with " ++ quote first) with code := e.code }
    | [] => e

def condition (c : Call) (args : List Bytes) : Effect :=
  let e := Effect.start c
  match args with
  | [a, op, b] =>
    if Condition.operator? op ≠ some .binary && a ≠ utf8 "!" && (a ≠ utf8 "(" || b ≠ utf8 ")") then
      e.complain c.name 2 (quote op ++ utf8 ": binary operator expected")
    else judge e
  | _ => judge e
where
  judge (e : Effect) : Effect :=
    match Condition.eval c.disk (args.length + 2) args with
    | .ok holds => { e with code := if holds then 0 else 1 }
    | .error text => e.complain c.name 2 text

def test : Tool := fun c => condition c c.args

def bracket : Tool := fun c =>
  if c.args.getLast? = some (utf8 "]") then condition c c.args.dropLast
  else (Effect.start c).complain c.name 2 (utf8 "missing ']'")

def succeed : Tool := Effect.start

def fail : Tool := fun c => { (Effect.start c) with code := 1 }

def printenv : Tool := withOptions { flags := "0", inOrder := true, long := [("null", '0')] } 2 fun o c =>
  if o.operands.isEmpty then c.env.foldl (fun e (n, v) => e.writeLine (n ++ ch '=' :: v)) (Effect.start c)
  else
    o.operands.foldl (fun e name =>
      match c.env.lookup name with
      | some value => e.writeLine value
      | none => { e with code := 1 }) (Effect.start c)

def sleep : Tool := withOptions { flags := "" } 1 fun o c =>
  let e := Effect.start c
  if o.operands.isEmpty then e.misused c.name 1 (utf8 "missing operand")
  else
    let isInterval (t : Bytes) : Bool :=
      let body := if t.getLast?.any (isOneOf · "smhd") then t.dropLast else t
      !body.isEmpty && body.all fun b => isDigit b || b = ch '.'
    match o.operands.filter fun t => !isInterval t with
    | [] => e
    | bad =>
      let e := bad.dropLast.foldl (fun e t => e.complain c.name 1 (utf8 "invalid time interval " ++ quote t)) e
      e.misused c.name 1 (utf8 "invalid time interval " ++ quote (bad.getLast?.getD []))

def pwd : Tool := withOptions { flags := "LP", long := [("logical", 'L'), ("physical", 'P')] } 1 fun _ c =>
  (Effect.start c).writeLine (Files.workPath c.disk)

/-- How often a line is repeated that would be repeated without end. -/
def repetitions : Nat := 20000

def yes : Tool := withOptions { flags := "" } 1 fun o c =>
  let text := if o.operands.isEmpty then utf8 "y" else Bytes.join [0x20] o.operands
  (Effect.start c).write ((List.replicate repetitions (line text)).flatten)

def saying (text : String) : Tool := withOptions { flags := "" } 1 fun o c =>
  match o.operands with
  | extra :: _ => (Effect.start c).misused c.name 1 (utf8 "extra operand " ++ quote extra)
  | [] => (Effect.start c).writeLine (utf8 text)

def readlinkOptions : OptionSet where
  flags := "femnqsvz"
  long := [("canonicalize", 'f'), ("canonicalize-existing", 'e'), ("canonicalize-missing", 'm'), ("no-newline", 'n'),
    ("quiet", 'q'), ("silent", 's'), ("verbose", 'v'), ("zero", 'z')]

def placePath (p : Place) : Bytes := if p.isEmpty then [Path.slash] else p.flatMap (Path.slash :: ·)

def readlink : Tool := withOptions readlinkOptions 1 fun o c =>
  let e := Effect.start c
  if o.operands.isEmpty then e.misused c.name 1 (utf8 "missing operand")
  else
    o.operands.foldl (fun e path =>
      if o.has 'f' || o.has 'e' || o.has 'm' then
        match e.disk.resolve true path with
        | .ok (.found place _) => e.writeLine (placePath place)
        | .ok (.free place) => if o.has 'e' then { e with code := 1 } else e.writeLine (placePath place)
        | .error _ => { e with code := 1 }
      else
        match Files.node? e.disk false path with
        | .ok (_, .link target) => if o.has 'n' then e.write target else e.writeLine target
        | _ => { e with code := 1 }) e

def lacking (code : Nat) : Tool := withOptions { flags := "" } code fun _ c => Effect.start c

def badInterval : Tool := withOptions { flags := "v", valued := "ks", inOrder := true } 125 fun o c =>
  match o.operands with
  | t :: _ => (Effect.start c).misused c.name 125 (utf8 "invalid time interval " ++ quote t)
  | [] => (Effect.start c).misused c.name 125 (utf8 "missing operand")

def pathOf? (c : Call) (name : Bytes) : Option Bytes :=
  let dirs := ((c.env.lookup (utf8 "PATH")).getD []).splitOn (ch ':')
  let isProgram (path : Bytes) : Bool :=
    match Files.node? c.disk true path with
    | .ok (_, .file _ true) => true
    | _ => false
  if name.contains Path.slash then if isProgram name then some name else none
  else (dirs.map fun dir => (if dir.isEmpty then Path.dot else dir) ++ Path.slash :: name).find? isProgram

def which : Tool := withOptions { flags := "as" } 2 fun o c =>
  o.operands.foldl (fun e name =>
    match pathOf? c name with
    | some path => e.writeLine path
    | none => { e with code := 1 }) (Effect.start c)

/-! ## All of them -/

def tools : List (String × Tool) :=
  [("[", bracket), ("basename", Files.basename), ("cat", Files.cat), ("chmod", Files.chmod), ("cp", Files.cp),
    ("cut", Lines.cut), ("dirname", Files.dirname), ("echo", echo), ("false", fail), ("head", Lines.head),
    ("ln", Files.ln), ("ls", Files.ls), ("mkdir", Files.mkdir), ("mv", Files.mv), ("printenv", printenv),
    ("printf", printf), ("pwd", pwd), ("readlink", readlink), ("rm", Files.rm), ("rmdir", Files.rmdir),
    ("seq", Lines.seq), ("sleep", sleep), ("sort", Lines.sort), ("sync", succeed), ("tac", Lines.tac),
    ("tail", Lines.tail), ("tee", Lines.tee), ("test", test), ("timeout", badInterval), ("touch", Files.touch),
    ("tr", Lines.tr), ("true", succeed), ("uniq", Lines.uniq), ("wc", Lines.wc), ("which", which),
    ("expr", Search.expr), ("grep", Search.grep),
    ("egrep", Search.grepWith "-E"), ("fgrep", Search.grepWith "-F"), ("sed", Edit.sed), ("arch", saying "x86_64"), ("uname", saying "Linux"), ("whoami", saying "root"), ("yes", yes)] ++
  (["b2sum", "base32", "base64", "basenc", "chcon", "chgrp", "chown", "cksum", "comm", "csplit", "date", "dd", "df",
    "dircolors", "du", "expand", "factor", "fmt", "fold", "groups", "hostid", "id", "install", "join", "link",
    "logname", "md5sum", "mkfifo", "mknod", "mktemp", "nl", "nproc", "numfmt", "od", "paste", "pinky", "pr", "ptx",
    "realpath", "rev", "sha1sum", "sha224sum", "sha256sum", "sha384sum", "sha512sum", "shred", "shuf", "split", "stat",
    "sum", "truncate", "tsort", "unexpand", "unlink", "users", "who"].map fun n => (n, lacking 1)) ++
  (["dir", "tty", "vdir"].map fun n => (n, lacking 2))

inductive Machine where
  | tool (run : Tool)
  | shell (d : Dialect)
  | env
  | runner (text : String)
  | xargs

def machines : List (String × Machine) :=
  (tools.map fun (n, t) => (n, .tool t)) ++
  [("sh", .shell .plain), ("dash", .shell .plain), ("bash", .shell .extended), ("rbash", .shell .extended), ("env", .env),
    ("nice", .runner ""), ("nohup", .runner "failed to run command "), ("xargs", .xargs)]

def machineCode : Bytes := 0x7F :: utf8 "ELF"

def binPlace : Place := [utf8 "usr", utf8 "bin"]

def directories : List Place :=
  (["usr", "usr/bin", "usr/sbin", "usr/lib", "usr/share", "usr/local", "usr/local/bin", "tmp", "dev", "etc", "home", "root",
    "var", "var/tmp", "opt", "proc", "run", "srv", "mnt", "media", "sys", "boot"]).map
      fun p => (utf8 p).splitOn Path.slash

def nodes : List (Place × DiskNode) :=
  (directories.map fun p => (p, .directory)) ++
  (["bin", "sbin", "lib"].map fun n => ([utf8 n], .link (utf8 "usr/" ++ utf8 n))) ++
  (["null", "stdin", "stdout", "stderr", "zero", "tty", "full", "random", "urandom"].map fun n =>
    ([utf8 "dev", utf8 n], .file [] false)) ++
  (machines.map fun (n, _) => (binPlace ++ [utf8 n], .file machineCode true))

def addTo (d : Disk) : Disk := nodes.foldl (fun d (p, node) => if (d.nodeAt? p).isSome then d else d.put p node) d

def removeFrom (before d : Disk) : Disk :=
  { (nodes.foldl (fun d (p, _) => if (before.nodeAt? p).isSome then d else d.forget p) d) with workDir := before.workDir }

def machineAt? (p : Place) (content : Bytes) : Option Machine :=
  if content = machineCode && p.dropLast = binPlace then
    (machines.find? fun (n, _) => some (utf8 n) = p.getLast?).map (·.2)
  else none

/-! ## Starting -/

def headerSize : Nat := 256

def interpreter? (content : Bytes) : Option (Bytes × Option Bytes) :=
  if !Bytes.startsWith content (utf8 "#!") then none
  else
    let first := ((content.take headerSize).drop 2).takeWhile (· ≠ newline)
    let body := (first.reverse.dropWhile isBlank).reverse.dropWhile isBlank
    let isEnd (b : UInt8) : Bool := isBlank b || b = 0
    let path := body.takeWhile fun b => !isEnd b
    let arg := ((body.drop path.length).dropWhile isBlank).takeWhile (· ≠ 0)
    if path.isEmpty then none else some (path, if arg.isEmpty then none else some arg)

inductive Started where
  | machine (m : Machine) (argv : List Bytes)
  | unknown

def resolve (d : Disk) : (levels : Nat) → Bytes → List Bytes → Except SystemCause Started
  | 0, _, _ => .error .tooManyLinks
  | levels + 1, path, argv =>
    match Files.node? d true path with
    | .error cause => .error cause
    | .ok (place, .file content true) =>
      match machineAt? place content with
      | some m => .ok (.machine m argv)
      | none =>
        match interpreter? content with
        | some (program, arg) => resolve d levels program (program :: arg.toList ++ path :: argv.drop 1)
        | none => .ok .unknown
    | .ok _ => .error .notPermitted

def levelLimit : Nat := 5

end Installed

end Script

end LineCoverage
