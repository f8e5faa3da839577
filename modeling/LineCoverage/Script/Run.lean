import LineCoverage.Script.Builtin
import LineCoverage.Script.Installed

/-!
# Running commands

How words are expanded and commands are run. Everything that a command changes is in the session: a
command in a subshell works on a session of its own, of which only what it did to the disk and what it
wrote are kept.
-/

namespace LineCoverage

namespace Script

namespace Session

/-! ## Subshells -/

def fork (s : Session) : Session :=
  { s with traps := s.traps.filter (·.2.isEmpty), pending := [], isSubshell := true }

def lastCode (s : Session) : Nat :=
  match s.ended with
  | some (.code n) => n
  | _ => s.code

def rejoin (s inner : Session) : Session :=
  { s with
    disk := { inner.disk with workDir := s.disk.workDir }
    files := inner.files
    inputs := inner.inputs
    captures := inner.captures
    written := inner.written
    code := inner.lastCode
    ended := match inner.ended with
      | some (.signal name) => some (.signal name)
      | _ => s.ended }

def resume (s : Session) : Session :=
  match s.ended with
  | some (.signal name) =>
    let shown := (utf8 name).mapIdx fun i b => if i = 0 && ch 'a' ≤ b && b ≤ ch 'z' then b - 32 else b
    let s := { s with ended := none }
    if name = "interrupt" || name = "broken pipe" then s else s.write 2 (Script.line shown)
  | _ => s

def restore (s : Session) (old : List (Bytes × Option Variable)) : Session :=
  old.foldl (fun s (name, v) =>
    match v with
    | some v => s.putVariable name v
    | none => s.unset name) s

def collect (s : Session) : Session :=
  let n := s.captures.size
  { s.setStream 1 (some (.capture n)) with captures := s.captures.push [] }

def collected (s : Session) : Bytes × Session :=
  ((s.captures.back?.getD []).reverse.flatten, { s with captures := s.captures.pop })

/-! ## Loops -/

/-- What becomes of a leap at the end of a round: whether the loop goes on, and the session. -/
def endRound (s : Session) : Bool × Session :=
  match s.leap with
  | none => (s.ended.isNone, s)
  | some (.breakOut n) => (false, { s with leap := if n ≤ 1 then none else some (.breakOut (n - 1)) })
  | some (.goOn n) => if n ≤ 1 then (true, { s with leap := none }) else (false, { s with leap := some (.goOn (n - 1)) })
  | some .leave => (false, s)

/-! ## Finding programs -/

def searchPath (s : Session) : List Bytes :=
  match s.value? (utf8 "PATH") with
  | some t => t.splitOn (ch ':')
  | none => []

def candidates (s : Session) (name : Bytes) : List Bytes :=
  if name.contains Path.slash then [name]
  else s.searchPath.map fun dir => if dir.isEmpty then name else dir ++ Path.slash :: name

def isExecutable (s : Session) (path : Bytes) : Bool :=
  match Files.node? s.disk true path with
  | .ok (_, .file _ executable) => executable
  | _ => false

def program? (s : Session) (name : Bytes) : Option Bytes := (s.candidates name).find? s.isExecutable

def describe? (s : Session) (name : Bytes) (short : Bool) : Option Bytes :=
  let told (what : String) : Bytes := if short then name else name ++ utf8 what
  if Reader.keywords.contains name then some (told " is a shell keyword")
  else if Reader.specialNames.contains name then some (told " is a special shell builtin")
  else if (s.functions.lookup name).isSome then some (told " is a shell function")
  else if Builtin.isKnown name then some (told " is a shell builtin")
  else (s.program? name).map fun path => if short then path else name ++ utf8 " is " ++ path

def describeAll (s : Session) (short : Bool) (names : List Bytes) : Session :=
  names.foldl (fun s name =>
    match s.describe? name short with
    | some text => s.write 1 (Script.line text)
    | none => (if short then s else s.write 1 (Script.line (name ++ utf8 ": not found"))).withCode 127) (s.withCode 0)

end Session

/-! ## Scripts -/

def Session.begin (d : Dialect) (env : List (Bytes × Bytes)) (base : Session) : Session :=
  let given := env.filter fun (name, _) => isName name
  let s : Session :=
    { dialect := d, name := utf8 "sh", args := [], disk := base.disk, streams := base.streams, files := base.files
      inputs := base.inputs, captures := base.captures, written := base.written }
  let own := [("PS1", "# "), ("PS2", "> "), ("PS4", "+ "), ("OPTIND", "1"), ("PPID", "4241")]
  let s := own.foldl (fun s (n, v) => s.assign (utf8 n) (utf8 v)) s
  let s := given.foldl (fun s (name, value) => s.putVariable name { value := some value, exported := true }) s
  let s := s.putVariable (utf8 "PWD") { value := some (Files.workPath s.disk), exported := true }
  let s := s.assign (utf8 "IFS") (utf8 " \t\n")
  if (s.value? (utf8 "PATH")).isSome then s
  else s.assign (utf8 "PATH") (utf8 "/usr/local/sbin:/usr/local/bin:/usr/sbin:/usr/bin:/sbin:/bin")

/-- What a shell is told to run: the text, or that nothing can be run. -/
def Session.beginWith (s : Session) (argv : List Bytes) : Session × Bytes :=
  let called := argv.headD (utf8 "sh")
  let s := { s with name := called }
  let args := argv.drop 1
  -- One option says that the next word is the text.
  let isText (w : Bytes) : Bool := w.head? = some (ch '-') && !(Bytes.startsWith w (utf8 "--")) && w.contains (ch 'c')
  let options := args.takeWhile fun w => w.head?.any (isOneOf · "-+") && w ≠ utf8 "-" && w ≠ utf8 "--"
  let asText := options.any isText
  let cleaned := args.map fun w => if options.contains w && isText w then w.filter (· ≠ ch 'c') else w
  match Builtin.readOptions (cleaned.length + 1) (cleaned.filter (· ≠ utf8 "-")) s with
  | .error text => (s.fail text, [])
  | .ok (operands, _, s) =>
    if asText then
      match operands with
      | [] => (s.fail (utf8 "-c requires an argument"), [])
      | text :: rest =>
        let s := { s with name := rest.headD called, args := rest.drop 1 }
        (s, text)
    else
      let text := s.available 0
      match if s.has 's' then [] else operands with
      | [] => ({ s.consume 0 text.length with args := operands }, text)
      | path :: rest =>
        match Files.content? s.disk path with
        | .ok content => ({ s with name := path, args := rest }, content)
        | .error cause =>
          (s.fail (utf8 "cannot open " ++ path ++ utf8 ": " ++ Session.openReason s.dialect false cause), [])

/-! ## Everything that runs -/

def isAll : Part → Bool
  | .parameter name .plain => name = utf8 "@"
  | _ => false

def listItems (s : Session) (full quoted : Bool) (name : Bytes) : List Item :=
  if full && (!quoted || name = utf8 "@") then
    [.cut quoted].intercalate (s.args.map (Item.ofText quoted (!quoted)))
  else Item.ofText quoted false (Bytes.join s.joiner s.args)

def withTilde (s : Session) : Word → Word
  | .text t :: rest =>
    let (home, after) := replaceTilde s (!rest.isEmpty) t
    if home.isEmpty then .text t :: rest else .literal home :: .text after :: rest
  | w => w

def withTildes (s : Session) : Word → Word
  | .text t :: rest =>
    let pieces := t.splitOn (ch ':')
    let last := pieces.length - 1
    let replaced := pieces.mapIdx fun i piece =>
      let (home, after) := replaceTilde s (i = last && !rest.isEmpty) piece
      home ++ after
    .text (Bytes.join [ch ':'] replaced) :: rest
  | w => w

def streamOf (s : Session) (n : Nat) (text : Bytes) : Except Bytes Session :=
  if text = utf8 "-" then .ok (s.setStream n none)
  else if text.length = 1 && text.all isDigit then
    match s.stream? ((text.headD 0).toNat - 48) with
    | some target => .ok (s.setStream n (some target))
    | none => .error (text ++ utf8 ": Bad file descriptor")
  else .ok (s.fail (utf8 "Syntax error: Bad fd number"))

def runTool (t : Tool) (argv : List Bytes) (s : Session) : Session :=
  let e := t ⟨argv.headD [], argv.drop 1, s.available 0, s.environment, s.disk⟩
  let s := if e.hasRead then s.consume 0 (s.available 0).length else s
  ({ s with disk := e.disk }.writeChunks e.chunks).withCode e.code

mutual

/-- The items of a word. Its plain text may be split if it is `loose`. -/
def expand (full quoted loose : Bool) : (fuel : Nat) → Word → Session → List Item × Session
  | 0, _, s => ([], s)
  | _, [], s => ([], s)
  | fuel + 1, p :: rest, s =>
    let (items, s) := expandPart full quoted loose fuel p s
    if s.isHalted then (items, s)
    else
      let (more, s) := expand full quoted loose fuel rest s
      (items ++ more, s)

def expandPart (full quoted loose : Bool) : (fuel : Nat) → Part → Session → List Item × Session
  | 0, _, s => ([], s)
  | fuel + 1, p, s =>
    match p with
    | .text t => (Item.ofText quoted (full && loose && !quoted) t, s)
    | .literal t => (.solid :: Item.ofText true false t, s)
    | .quoted w =>
      let (items, s) := expand full true false fuel w s
      if items.isEmpty && full && s.args.isEmpty && w.any isAll then ([], s) else (.solid :: items, s)
    | .parameter name form => expandParameter full quoted fuel name form s
    | .output body =>
      let (t, s) := outputOf fuel body s
      (Item.ofText quoted (full && !quoted) t, s)
    | .number w =>
      let (items, s) := expand false true false fuel w s
      if s.isHalted then ([], s)
      else
        let text := Item.text items
        let result := do
          let e ← Arithmetic.parse text
          Arithmetic.eval e { lookup := fun name => (s.parameter? name).getD [] }
        match result with
        | .error fault => ([], s.fail (fault.message text))
        | .ok (value, scope) =>
          let s := scope.changed.reverse.foldl (fun s (name, t) => if s.isHalted then s else Builtin.assign s name t) s
          (Item.ofText quoted (full && !quoted) (Decimal.ofInt64 value), s)

def expandParameter (full quoted : Bool) : (fuel : Nat) → Bytes → Form → Session → List Item × Session
  | 0, _, _, s => ([], s)
  | fuel + 1, name, form, s =>
    let isList := name = utf8 "@" || name = utf8 "*"
    let value := if isList then (if s.args.isEmpty then none else some (Bytes.join s.joiner s.args)) else s.parameter? name
    let ofText (t : Bytes) : List Item := Item.ofText quoted (full && !quoted) t
    let plain : List Item := if isList then listItems s full quoted name else ofText (value.getD [])
    let unset (more : Bytes) : List Item × Session := ([], s.fail (name ++ utf8 ": parameter not set" ++ more))
    let isMissing := value.isNone && !isList && s.has 'u'
    match form with
    | .malformed => ([], s.fail (utf8 "Bad substitution"))
    | .plain => if isMissing then unset [] else (plain, s)
    | .length => if isMissing then unset [] else (ofText (Decimal.ofNat (value.getD []).length), s)
    | .trim atEnd longest pattern =>
      if isMissing then unset []
      else
        let (items, s) := expand false false false fuel (withTilde s pattern) s
        (ofText (Pattern.trim (Pattern.ofMarks (Item.marks items)) atEnd longest (value.getD [])), s)
    | .fallback kind orEmpty w =>
      let isThere := match value with
        | some t => !(orEmpty && t.isEmpty)
        | none => false
      match kind with
      | .stand => if isThere then (plain, s) else expand full quoted true fuel (if quoted then w else withTilde s w) s
      | .instead => if isThere then expand full quoted true fuel (if quoted then w else withTilde s w) s else ([], s)
      | .assign =>
        if isThere then (plain, s)
        else
          let (items, s) := expand false quoted false fuel (if quoted then w else withTilde s w) s
          if s.isHalted then ([], s)
          else if !isName name then ([], s.fail (name ++ utf8 ": bad variable name"))
          else (ofText (Item.text items), Builtin.assign s name (Item.text items))
      | .fail =>
        if isThere then (plain, s)
        else if w.isEmpty then unset (if orEmpty then utf8 " or null" else [])
        else
          let (items, s) := expand false quoted false fuel w s
          if s.isHalted then ([], s) else ([], s.fail (name ++ utf8 ": " ++ Item.text items))

def outputOf : (fuel : Nat) → Option Command → Session → Bytes × Session
  | 0, _, s => ([], s)
  | fuel + 1, body, s =>
    let inner := s.fork.collect
    let inner := match body with
      | none => inner.withCode 0
      | some c => atEnd fuel (run false fuel c inner)
    let (t, inner) := inner.collected
    let joined := s.rejoin inner
    let text := ((t.filter (· ≠ 0)).reverse.dropWhile (· = newline)).reverse
    (text, { joined with code := s.code, substituted := inner.lastCode })

def expandAll : (fuel : Nat) → List Word → Session → List Bytes × Session
  | 0, _, s => ([], s)
  | _, [], s => ([], s)
  | fuel + 1, w :: rest, s =>
    let (items, s) := expand true false false fuel (withTilde s w) s
    if s.isHalted then ([], s)
    else
      let texts := (fieldsOf s.separators items).flatMap (textsOf s.disk (!s.has 'f'))
      let (more, s) := expandAll fuel rest s
      (texts ++ more, s)

def expandText : (fuel : Nat) → Word → Session → Bytes × Session
  | 0, _, s => ([], s)
  | fuel + 1, w, s =>
    let (items, s) := expand false false false fuel w s
    (Item.text items, s)

/-- Sends streams elsewhere. Gives what is wrong, if something is. -/
def redirect : (fuel : Nat) → List Redirect → Session → Option Bytes × Session
  | 0, _, s => (none, s)
  | _, [], s => (none, s)
  | fuel + 1, r :: rest, s =>
    let (sent, s) : Except Bytes Session × Session := match r with
      | .file n mode w =>
        let (path, s) := expandText fuel (withTilde s w) s
        if s.isHalted then (.ok s, s)
        else
          match s.openFile mode path with
          | .error text => (.error text, s)
          | .ok (target, s) => (.ok (s.setStream n (some target)), s)
      | .stream n w =>
        let (text, s) := expandText fuel w s
        if s.isHalted then (.ok s, s) else (streamOf s n text, s)
      | .document n number =>
        let (items, s) := expand false true false fuel ((s.documents.lookup number).getD []) s
        let (from_, s) := s.openText (Item.text items)
        (.ok (s.setStream n (some from_)), s)
    match sent with
    | .error text => (some text, s)
    | .ok s => if s.isHalted then (none, s) else redirect fuel rest s

def assignAll (exported : Bool) : (fuel : Nat) → List (Bytes × Word) → Session →
    List (Bytes × Option Variable) × List (Bytes × Bytes) × Session
  | 0, _, s => ([], [], s)
  | _, [], s => ([], [], s)
  | fuel + 1, (name, w) :: rest, s =>
    let (value, s) := expandText fuel (withTildes s w) s
    if s.isHalted then ([], [], s)
    else
      let old := s.entry? name
      let s := Builtin.assign s name value
      if s.isHalted then ([], [], s)
      else
        let s := if !exported then s
          else match s.entry? name with
            | some v => s.putVariable name { v with exported := true }
            | none => s
        let (more, values, s) := assignAll exported fuel rest s
        ((name, old) :: more, (name, value) :: values, s)

/-- Runs a command. A failure in a `tested` one does not end the script. -/
def run (tested : Bool) : (fuel : Nat) → Command → Session → Session
  | 0, _, s => s
  | fuel + 1, c, s =>
    if s.isHalted then s
    else
      let check (s : Session) : Session :=
        if !tested && s.has 'e' && s.code ≠ 0 && !s.isHalted then s.exit s.code else s
      match c with
      | .simple line assignments words redirects =>
        check (settle fuel (runSimple tested fuel line assignments words redirects s))
      | .redirected line body redirects =>
        let s := { s with line }
        let before := s.streams
        match redirect fuel redirects s with
        | (some text, s) => { (s.complain text).withCode 2 with streams := before }
        | (none, s) => { run tested fuel body s with streams := before }
      | .pipeline stages => check (runStages tested fuel stages s)
      | .negated c =>
        let s := run true fuel c s
        if s.isHalted then s else s.withCode (if s.code = 0 then 1 else 0)
      | .both first second =>
        let s := run true fuel first s
        if s.isHalted || s.code ≠ 0 then s else run tested fuel second s
      | .either first second =>
        let s := run true fuel first s
        if s.isHalted || s.code = 0 then s else run tested fuel second s
      | .sequence first second =>
        let s := run tested fuel first s
        if s.isHalted then s else run tested fuel second s
      | .background c =>
        let inner := atEnd fuel (run tested fuel c (s.fork.setStream 0 (some .nowhere)))
        { s.rejoin inner with code := 0, job := some inner.lastCode }
      | .subshell c => check (s.rejoin (atEnd fuel (run tested fuel c s.fork)))
      | .branch test body otherwise =>
        let s := run true fuel test s
        if s.isHalted then s
        else if s.code = 0 then run tested fuel body s
        else
          match otherwise with
          | some c => run tested fuel c s
          | none => s.withCode 0
      | .loop isUntil test body =>
        let s := runLoop tested isUntil test body 0 fuel { s with loops := s.loops + 1 }
        { s with loops := s.loops - 1 }
      | .each line name words body =>
        let (values, s) := expandAll fuel words { s with line }
        if s.isHalted then s
        else
          let s := runEach tested name body fuel values { s with loops := s.loops + 1, code := 0 }
          { s with loops := s.loops - 1 }
      | .select line subject cases =>
        let (text, s) := expandText fuel (withTilde { s with line } subject) { s with line }
        if s.isHalted then s else runCases tested text fuel cases s
      | .define name body =>
        { s with functions := (name, body) :: s.functions.filter (·.1 ≠ name), code := 0 }

def settle : (fuel : Nat) → Session → Session
  | 0, s => s
  | fuel + 1, s =>
    match s.pending with
    | [] => s
    | action :: rest =>
      let code := s.code
      let s := runText fuel { rest := action, next := s.documents.length } { s with pending := rest }
      settle fuel (if s.ended.isSome then s else s.withCode code)

def atEnd : (fuel : Nat) → Session → Session
  | 0, s => s
  | fuel + 1, s =>
    match s.traps.lookup 0, s.ended with
    | none, _ => s
    | some _, some (.signal _) => s
    | some action, ended =>
      let code := s.lastCode
      let inner := { s with ended := none, leap := none, traps := s.traps.filter (·.1 ≠ 0), code, failed := false }
      let inner := runText fuel { rest := action, next := s.documents.length } inner
      if inner.ended.isSome then inner else { inner with ended := ended, code }

def runLoop (tested isUntil : Bool) (test body : Command) (code : Nat) : (fuel : Nat) → Session → Session
  | 0, s => s
  | fuel + 1, s =>
    let s := run true fuel test s
    if s.isHalted then
      let (goesOn, s) := s.endRound
      if goesOn then runLoop tested isUntil test body code fuel s else s
    else if (s.code = 0) = isUntil then s.withCode code
    else
      let s := run tested fuel body s
      let (goesOn, s) := s.endRound
      if goesOn then runLoop tested isUntil test body s.code fuel s else s

def runEach (tested : Bool) (name : Bytes) (body : Command) : (fuel : Nat) → List Bytes → Session → Session
  | 0, _, s => s
  | _, [], s => s
  | fuel + 1, value :: rest, s =>
    let s := Builtin.assign s name value
    if s.isHalted then s
    else
      let s := run tested fuel body s
      let (goesOn, s) := s.endRound
      if goesOn then runEach tested name body fuel rest s else s

def runCases (tested : Bool) (subject : Bytes) : (fuel : Nat) → List (List Word × Option Command) → Session → Session
  | 0, _, s => s
  | _, [], s => s.withCode 0
  | fuel + 1, (patterns, body) :: rest, s =>
    let (fits, s) := anyFits subject fuel patterns s
    if s.isHalted then s
    else if !fits then runCases tested subject fuel rest s
    else
      match body with
      | some c => run tested fuel c s
      | none => s.withCode 0

def anyFits (subject : Bytes) : (fuel : Nat) → List Word → Session → Bool × Session
  | 0, _, s => (false, s)
  | _, [], s => (false, s)
  | fuel + 1, w :: rest, s =>
    let (items, s) := expand false false false fuel (withTilde s w) s
    if s.isHalted then (false, s)
    else if Pattern.fits (Pattern.ofMarks (Item.marks items)) subject then (true, s)
    else anyFits subject fuel rest s

def runStages (tested : Bool) : (fuel : Nat) → List Command → Session → Session
  | 0, _, s => s
  | _, [], s => s
  | fuel + 1, [c], s => s.rejoin (atEnd fuel (run tested fuel c s.fork))
  | fuel + 1, c :: rest, s =>
    let inner := atEnd fuel (run tested fuel c s.fork.collect)
    let (text, inner) := inner.collected
    let joined := s.rejoin inner
    if joined.ended.isSome then joined
    else
      let (from_, joined) := joined.openText text
      let after := runStages tested fuel rest (joined.setStream 0 (some from_))
      { after with streams := s.streams }

def runSimple (tested : Bool) : (fuel : Nat) → Nat → List (Bytes × Word) → List Word → List Redirect → Session → Session
  | 0, _, _, _, _, s => s
  | fuel + 1, line, assignments, words, redirects, s =>
    let (fields, s) := expandAll fuel words { s with line, substituted := 0 }
    if s.isHalted then s
    else
      let before := s.streams
      let (problem, s) := redirect fuel redirects s
      let isSpecial := fields.head?.any Builtin.isSpecial
      if s.isHalted then { s with streams := before }
      else
        match problem with
        | some text =>
          let s := { s.complain text with streams := before }
          if isSpecial then { s.exit 2 with failed := true } else s.withCode 2
        | none =>
          let lasts := fields.isEmpty || isSpecial
          let (old, values, s) := assignAll (!fields.isEmpty) fuel assignments s
          if s.isHalted then { s with streams := before }
          else
            let s := if !s.has 'x' then s
              else
                let shown := (values.map fun (n, v) => n ++ ch '=' :: v) ++ fields
                match before.lookup 2 with
                | some target => s.writeTo target (Script.line ((s.value? (utf8 "PS4")).getD [] ++ Bytes.join [0x20] shown))
                | none => s
            match fields with
            | [] => { s with streams := before, code := s.substituted }
            | name :: args =>
              let keeps := name = utf8 "exec" && args.isEmpty
              let s := invoke tested fuel name args s
              let s := if lasts then s else s.restore old
              if keeps then s else { s with streams := before }

def invoke (tested : Bool) : (fuel : Nat) → Bytes → List Bytes → Session → Session
  | 0, _, _, s => s
  | fuel + 1, name, args, s =>
    let function := if Reader.specialNames.contains name then none else s.functions.lookup name
    match function with
    | some body =>
      let inner := { s with args, depth := s.depth + 1, loops := 0, locals := [] :: s.locals }
      let inner := run tested fuel body inner
      let inner := { inner.restore (inner.locals.headD []) with locals := s.locals }
      { inner with
        args := s.args
        depth := s.depth
        loops := s.loops
        leap := if inner.leap = some .leave then none else inner.leap }
    | none => if Builtin.isKnown name then builtin tested fuel name args s else (runProgram fuel name args s).resume

def builtin (tested : Bool) : (fuel : Nat) → Bytes → List Bytes → Session → Session
  | 0, _, _, s => s
  | fuel + 1, name, args, s =>
    let speaker := s.speaker
    let s := { s with speaker := some name }
    let after : Session :=
      match Builtin.find? name with
      | some f => f args s
      | none =>
        if name = utf8 "eval" then
          let text := Bytes.join [0x20] args
          runText fuel { rest := text, next := s.documents.length } (s.withCode 0)
        else if name = utf8 "." then
          match args with
          | [] => s.withCode 0
          | path :: _ =>
            let paths := if path.contains Path.slash then [path] else s.candidates path
            let isThere (p : Bytes) : Bool := (Files.content? s.disk p).toOption.isSome
            match paths.find? isThere with
            | some found =>
              let text := (Files.content? s.disk found).toOption.getD []
              let s := runText fuel { rest := text, next := s.documents.length } { s.withCode 0 with speaker := some found }
              { s with leap := if s.leap = some .leave then none else s.leap }
            | none =>
              if path.contains Path.slash then
                let cause := match Files.content? s.disk path with
                  | .error cause => cause
                  | .ok _ => .noEntry
                s.fail (utf8 "cannot open " ++ path ++ utf8 ": " ++ Session.openReason s.dialect false cause)
              else s.fail (path ++ utf8 ": not found")
        else if name = utf8 "command" then
          match Builtin.letters "pvV" args with
          | .error b => Builtin.illegalOption s b
          | .ok (found, rest) =>
            if found.contains (ch 'V') then s.describeAll false (rest.take 1)
            else if found.contains (ch 'v') then s.describeAll true (rest.take 1)
            else
              match rest with
              | [] => s.withCode 0
              | inner :: args =>
                let functions := s.functions
                let s := invoke tested fuel inner args { s with functions := [], speaker }
                -- What would end the script as a command of its own does not.
                let s := if s.failed then { s with ended := none, failed := false } else s
                { s with functions := functions ++ s.functions }
        else if name = utf8 "exec" then
          match args with
          | [] => s.withCode 0
          | program :: rest =>
            let s := runProgram fuel program rest s
            { s with ended := some (s.ended.getD (.code s.code)), traps := [] }
        else if name = utf8 "type" then s.describeAll false args
        else
          -- Remembers where programs are found.
          args.foldl (fun s arg =>
            if arg.head? = some (ch '-') || Builtin.isKnown arg || (s.program? arg).isSome then s
            else (s.complain (arg ++ utf8 ": not found")).withCode 1) (s.withCode 0)
    { after with speaker }

def runProgram : (fuel : Nat) → Bytes → List Bytes → Session → Session
  | 0, _, _, s => s
  | fuel + 1, name, args, s =>
    let refuse (code : Nat) (why : Bytes) : Session :=
      match s.dialect with
      | .plain => (s.complain (name ++ utf8 ": " ++ why)).withCode code
      | .extended =>
        let why := if code = 127 && !name.contains Path.slash then utf8 "command not found"
          else if code = 127 then reason .noEntry else why
        (s.complain (name ++ utf8 ": " ++ why)).withCode code
    if name.isEmpty then refuse 127 (reason .notPermitted)
    else
      let path := if name.contains Path.slash then some name else s.program? name
      match path with
      | none => refuse 127 (utf8 "not found")
      | some path =>
        match Installed.resolve s.disk Installed.levelLimit path (name :: args) with
        | .error .noEntry => refuse 127 (utf8 "not found")
        | .error .notDirectory => refuse 127 (utf8 "not found")
        | .error .tooManyLinks => refuse 127 (reason .tooManyLinks)
        | .error .nameTooLong => refuse 127 (reason .nameTooLong)
        | .error cause => refuse 126 (reason cause)
        | .ok .unknown => runShell fuel s.dialect (path :: path :: args) s
        | .ok (.machine m argv) => runMachine fuel m argv s

def runMachine : (fuel : Nat) → Installed.Machine → List Bytes → Session → Session
  | 0, _, _, s => s
  | fuel + 1, m, argv, s =>
    match m with
    | .tool t => runTool t argv s
    | .shell d => runShell fuel d argv s
    | .env => runEnv fuel argv s
    | .runner text =>
      let name := argv.headD []
      let operands := match argv.drop 1 with
        | w :: rest => if w = utf8 "-n" then rest.drop 1 else if w.head? = some (ch '-') then rest else w :: rest
        | [] => []
      match operands with
      | [] => s.withCode 0
      | program :: _ => start (fun cause code => s.write 2
          (line (name ++ utf8 ": " ++ utf8 text ++ quote program ++ utf8 ": " ++ reason cause)) |>.withCode code)
          fuel operands s
    | .xargs =>
      let name := argv.headD []
      match ({ flags := "0rtx", valued := "nILPsda", inOrder := true } : OptionSet).read argv.length (argv.drop 1) with
      | .error text => (s.write 2 (line (name ++ utf8 ": " ++ text))).withCode 1
      | .ok o =>
        let input := s.available 0
        let s := s.consume 0 input.length
        let words := ((input.map fun b => if b = newline || b = 0x09 then 0x20 else b).splitOn 0x20).filter (· ≠ [])
        let command := if o.operands.isEmpty then [utf8 "echo"] else o.operands
        let many := (o.value? 'n').bind Builtin.number?
        let groups := match many with
          | some n => (List.range ((words.length + n - 1) / max n 1)).map fun i => (words.drop (i * n)).take n
          | none => [words]
        let groups := if words.isEmpty then (if o.has 'r' then [] else [[]]) else groups
        runGroups (fun cause code => s.write 2
          (line (name ++ utf8 ": " ++ command.headD [] ++ utf8 ": " ++ reason cause)) |>.withCode code)
          command fuel groups (s.withCode 0)

def runGroups (refuse : SystemCause → Nat → Session) (command : List Bytes) : (fuel : Nat) → List (List Bytes) → Session → Session
  | 0, _, s => s
  | _, [], s => s
  | fuel + 1, group :: rest, s =>
    let code := s.code
    let s := start refuse fuel (command ++ group) s
    if s.code ≥ 126 then s
    else runGroups refuse command fuel rest (s.withCode (if s.code ≠ 0 then 123 else code))

def start (refuse : SystemCause → Nat → Session) : (fuel : Nat) → List Bytes → Session → Session
  | 0, _, s => s
  | fuel + 1, argv, s =>
    let name := argv.headD []
    -- Without variables the usual places are searched.
    let usual := [utf8 "/bin", utf8 "/usr/bin"].map (· ++ Path.slash :: name)
    let found := if (s.value? (utf8 "PATH")).isSome then s.program? name else usual.find? s.isExecutable
    match if name.contains Path.slash then some name else found with
    | none => refuse .noEntry 127
    | some path =>
      match Installed.resolve s.disk Installed.levelLimit path argv with
      | .error .noEntry => refuse .noEntry 127
      | .error cause => refuse cause 126
      | .ok .unknown => runShell fuel .plain (path :: path :: argv.drop 1) s
      | .ok (.machine m argv) => runMachine fuel m argv s

def runEnv : (fuel : Nat) → List Bytes → Session → Session
  | 0, _, s => s
  | fuel + 1, argv, s =>
    let name := argv.headD []
    let options : OptionSet :=
      { flags := "i0v", valued := "uCS", inOrder := true
        long := [("ignore-environment", 'i'), ("null", '0'), ("unset", 'u'), ("chdir", 'C'), ("split-string", 'S')] }
    match options.read argv.length (argv.drop 1) with
    | .error text =>
      let e := Effect.misused { disk := s.disk } name 125 text
      (s.writeChunks e.chunks).withCode 125
    | .ok o =>
      let given := o.operands.takeWhile fun w => w.contains (ch '=')
      let command := match o.value? 'S' with
        | some text => (text.splitOn 0x20).filter (· ≠ []) ++ o.operands
        | none => o.operands.drop given.length
      let kept := (if o.has 'i' then [] else s.environment).filter fun (n, _) =>
        !(o.found.any fun (c, v) => c = 'u' && v = n)
      let pairs := given.map fun w => (w.takeWhile (· ≠ ch '='), (w.dropWhile (· ≠ ch '=')).drop 1)
      let env := (kept.filter fun (n, _) => !pairs.any (·.1 = n)) ++ pairs
      match command with
      | [] => (env.foldl (fun s (n, v) => s.write 1 (line (n ++ ch '=' :: v))) s).withCode 0
      | program :: _ =>
        let inner := { s with vars := env.map fun (n, v) => (n, { value := some v, exported := true }) }
        let refuse (cause : SystemCause) (code : Nat) : Session :=
          (inner.write 2 (line (name ++ utf8 ": " ++ quote program ++ utf8 ": " ++ reason cause))).withCode code
        { start refuse fuel command inner with vars := s.vars }

def runShell : (fuel : Nat) → Dialect → List Bytes → Session → Session
  | 0, _, _, s => s
  | fuel + 1, d, argv, s =>
    let (inner, text) := (Session.begin d s.environment s).beginWith argv
    s.rejoin (atEnd fuel (runText fuel { rest := text } inner))

def runText : (fuel : Nat) → Reader → Session → Session
  | 0, _, s => s
  | fuel + 1, r, s =>
    if s.isHalted then s
    else
      match Reader.next?.run r with
      | .error m => { s with line := m.line }.fail m.text
      | .ok (none, _) => s
      | .ok (some c, r) =>
        let s := { s with documents := r.documents ++ s.documents }
        let s := match c with
          | some c => if s.has 'n' then s else run false fuel c s
          | none => s
        runText fuel { r with documents := [] } s

end

end Script

end LineCoverage
