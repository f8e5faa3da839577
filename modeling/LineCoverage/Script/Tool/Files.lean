import LineCoverage.Script.Tool

/-!
# Programs for files

The installed programs that show, make, copy, move and remove files and directories.
-/

namespace LineCoverage

namespace Script

namespace Files

/-! ## Nodes -/

def node? (d : Disk) (follow : Bool) (path : Bytes) : Except SystemCause (Place × DiskNode) :=
  match d.resolve follow path with
  | .ok (.found place node) => .ok (place, node)
  | .ok (.free _) => .error .noEntry
  | .error cause => .error cause

def isDirectory (d : Disk) (path : Bytes) : Bool :=
  match node? d true path with
  | .ok (_, .directory) => true
  | _ => false

def content? (d : Disk) (path : Bytes) : Except SystemCause Bytes := do
  match ← node? d true path with
  | (_, .file content _) => .ok content
  | _ => .error .isDirectory

def unslashed (path : Bytes) : Bytes :=
  let t := Path.stripSlashes path
  if t.isEmpty then path.take 1 else t

def baseName (path : Bytes) : Bytes := (unslashed path).drop (Path.upToLastSlash (unslashed path)).length

def inside (dir name : Bytes) : Bytes :=
  if dir.getLast? = some Path.slash then dir ++ name else dir ++ Path.slash :: name

/-! ## Showing -/

def visible (b : UInt8) : Bytes :=
  let (mark, b) := if 128 ≤ b then (utf8 "M-", b - 128) else ([], b)
  mark ++ if b < 32 then [ch '^', b + 64] else if b = 127 then utf8 "^?" else [b]

def numbered (n : Nat) : Bytes :=
  let digits := Decimal.ofNat n
  List.replicate (6 - digits.length) 0x20 ++ digits ++ [0x09]

structure CatState where
  next : Nat := 1
  atStart : Bool := true
  blanks : Nat := 0

def decorate (o : Choices) (s : CatState) : Bytes → CatState × Bytes
  | [] => (s, [])
  | b :: rest =>
    let all := o.has 'A'
    let isBlank := s.atStart && b = newline
    if o.has 's' && isBlank && 0 < s.blanks then decorate o { s with blanks := s.blanks + 1 } rest
    else
      let number := s.atStart && (if o.has 'b' then !isBlank else o.has 'n')
      let ends := all || o.has 'e' || o.has 'E'
      let shown :=
        if b = newline then (if ends then [ch '$'] else []) ++ [b]
        else if b = 0x09 then if all || o.has 't' || o.has 'T' then utf8 "^I" else [b]
        else if all || o.has 'v' || o.has 'e' || o.has 't' then visible b
        else [b]
      let s' : CatState :=
        { next := if number then s.next + 1 else s.next
          atStart := b = newline
          blanks := if isBlank then s.blanks + 1 else 0 }
      let (last, more) := decorate o s' rest
      (last, (if number then numbered s.next else []) ++ shown ++ more)

def catOptions : OptionSet where
  flags := "AbeEnstTuv"
  long := [("show-all", 'A'), ("number-nonblank", 'b'), ("show-ends", 'E'), ("number", 'n'), ("squeeze-blank", 's'),
    ("show-tabs", 'T'), ("show-nonprinting", 'v')]

def cat : Tool := withOptions catOptions 1 fun o c =>
  let plain := o.found.all (·.1 = 'u')
  let (e, _) := (if o.operands.isEmpty then [utf8 "-"] else o.operands).foldl (fun (e, s) path =>
    let use (e : Effect) (t : Bytes) : Effect × CatState :=
      if plain then (e.write t, s)
      else
        let (s, t) := decorate o s t
        (e.write t, s)
    if path = utf8 "-" then use { e with hasRead := true } (if e.hasRead then [] else c.input)
    else
      match content? e.disk path with
      | .ok t => use e t
      | .error cause => (e.complain c.name 1 (quoteIfNeeded path ++ utf8 ": " ++ reason cause), s))
    (Effect.start c, ({} : CatState))
  e

def listed (o : Choices) (d : Disk) (place : Place) : List Bytes :=
  let names := d.namesIn place
  let names := if o.has 'a' || o.has 'A' then names else names.filter (·.head? ≠ some (ch '.'))
  let names := if o.has 'a' then Path.dot :: Path.dotDot :: names else names
  if o.has 'r' then names.reverse else names

def lsOptions : OptionSet where
  flags := "1aAbBcCdDfFgGhHiklLmnNopqQrRsStuUvxXZ"
  long := [("all", 'a'), ("almost-all", 'A'), ("directory", 'd'), ("reverse", 'r')]

def ls : Tool := withOptions lsOptions 2 fun o c =>
  let operands := if o.operands.isEmpty then [Path.dot] else o.operands.mergeSort (· ≤ ·)
  let (e, found) := operands.foldl (fun (e, found) path =>
    match node? e.disk true path with
    | .ok (place, node) => (e, found ++ [(path, place, node)])
    | .error cause => (e.complain c.name 2 (utf8 "cannot access " ++ quote path ++ utf8 ": " ++ reason cause), found))
    (Effect.start c, ([] : List (Bytes × Place × DiskNode)))
  let isListed (x : Bytes × Place × DiskNode) : Bool := x.2.2 = .directory && !o.has 'd'
  let files := found.filter (!isListed ·)
  let dirs := found.filter isListed
  let e := files.foldl (fun e x => e.writeLine x.1) e
  let headed := 1 < operands.length
  let (e, _) := dirs.foldl (fun (e, isFirst) (path, place, _) =>
    let e := if isFirst then e else e.write [newline]
    let e := if headed then e.writeLine (path ++ utf8 ":") else e
    ((listed o e.disk place).foldl (fun e name => e.writeLine name) e, false)) (e, files.isEmpty)
  e

/-! ## Making -/

def pathSteps (path : Bytes) : List Bytes :=
  let names := (path.splitOn Path.slash).filter (· ≠ [])
  let root := if Path.isAbsolute path then [Path.slash] else []
  (List.range names.length).map fun n => root ++ Bytes.join [Path.slash] (names.take (n + 1))

def makeSteps (c : Call) (verbose : Bool) (e : Effect) : List Bytes → Effect
  | [] => e
  | step :: rest =>
    let refuse (cause : SystemCause) : Effect :=
      e.complain c.name 1 (utf8 "cannot create directory " ++ quote step ++ utf8 ": " ++ reason cause)
    match e.disk.resolve true step with
    | .ok (.found _ .directory) => makeSteps c verbose e rest
    | .ok (.found ..) => refuse (if rest.isEmpty then .exists else .notDirectory)
    | .ok (.free place) =>
      let e := { e with disk := e.disk.put place .directory }
      makeSteps c verbose (if verbose then e.writeLine (c.name ++ utf8 ": created directory " ++ quote step) else e) rest
    | .error cause => refuse cause

def mkdirOptions : OptionSet where
  flags := "pvZ"
  valued := "m"
  long := [("parents", 'p'), ("verbose", 'v'), ("mode", 'm')]

def mkdir : Tool := withOptions mkdirOptions 1 fun o c =>
  let e := Effect.start c
  if o.operands.isEmpty then e.misused c.name 1 (utf8 "missing operand")
  else
    o.operands.foldl (fun e path =>
      if o.has 'p' then makeSteps c (o.has 'v') e (pathSteps path)
      else
        let refuse (cause : SystemCause) : Effect :=
          e.complain c.name 1 (utf8 "cannot create directory " ++ quote path ++ utf8 ": " ++ reason cause)
        match e.disk.resolve false (unslashed path) with
        | .ok (.free place) =>
          let e := { e with disk := e.disk.put place .directory }
          if o.has 'v' then e.writeLine (c.name ++ utf8 ": created directory " ++ quote path) else e
        | .ok (.found ..) => refuse .exists
        | .error cause => refuse cause) e

def touchOptions : OptionSet where
  flags := "acfhm"
  valued := "drt"
  long := [("no-create", 'c'), ("date", 'd'), ("reference", 'r'), ("time", 't')]

def touch : Tool := withOptions touchOptions 1 fun o c =>
  let e := Effect.start c
  if o.operands.isEmpty then e.misused c.name 1 (utf8 "missing file operand")
  else
    o.operands.foldl (fun e path =>
      let refuse (cause : SystemCause) : Effect :=
        e.complain c.name 1 (utf8 "cannot touch " ++ quote path ++ utf8 ": " ++ reason cause)
      match e.disk.resolve true path with
      | .ok (.found ..) => e
      | .ok (.free place) =>
        if o.has 'c' then e
        else if path.getLast? = some Path.slash then refuse .noEntry
        else { e with disk := e.disk.put place (.file [] false) }
      | .error cause => if o.has 'c' && cause = .noEntry then e else refuse cause) e

def lnOptions : OptionSet where
  flags := "bdfFinLPrsTv"
  valued := "St"
  long := [("symbolic", 's'), ("force", 'f'), ("no-dereference", 'n'), ("no-target-directory", 'T')]

def ln : Tool := withOptions lnOptions 1 fun o c =>
  let e := Effect.start c
  let make (e : Effect) (target link : Bytes) : Effect :=
    let kind := if o.has 's' then utf8 "symbolic link" else utf8 "hard link"
    let fail (cause : SystemCause) : Effect :=
      let what := if o.has 's' then quote link else quote link ++ utf8 " => " ++ quote target
      e.complain c.name 1 (utf8 "failed to create " ++ kind ++ utf8 " " ++ what ++ utf8 ": " ++ reason cause)
    let put (place : Place) : Effect :=
      if o.has 's' then { e with disk := e.disk.put place (.link target) }
      else
        match node? e.disk false target with
        | .ok (_, .directory) => e.complain c.name 1 (quote target ++ utf8 ": hard link not allowed for directory")
        | .ok (_, node) => { e with disk := e.disk.put place node }
        | .error cause => e.complain c.name 1 (utf8 "failed to access " ++ quote target ++ utf8 ": " ++ reason cause)
    match e.disk.resolve false link with
    | .ok (.free place) => put place
    | .ok (.found place node) => if o.has 'f' && node ≠ .directory then put place else fail .exists
    | .error cause => fail cause
  match o.operands with
  | [] => e.misused c.name 1 (utf8 "missing file operand")
  | [target] => make e target (baseName target)
  | [target, link] =>
    if isDirectory e.disk link && !o.has 'T' && !o.has 'n' then make e target (inside link (baseName target))
    else make e target link
  | operands =>
    let dir := operands.getLastD []
    if isDirectory e.disk dir then
      operands.dropLast.foldl (fun e target => make e target (inside dir (baseName target))) e
    else e.complain c.name 1 (utf8 "target " ++ quote dir ++ utf8 ": No such file or directory")

def execution? (mode : Bytes) : Option (Option Bool) :=
  if mode.all isDigit && !mode.isEmpty then
    some (some (mode.any fun b => (b - 48) % 2 = 1))
  else
    let rest := mode.dropWhile (isOneOf · "ugoa")
    match rest with
    | sign :: letters =>
      if isOneOf sign "+-=" && letters.all (isOneOf · "rwxXst") then
        let has := letters.contains (ch 'x')
        some (if sign = ch '=' then some has else if has then some (sign = ch '+') else none)
      else none
    | [] => none

def chmod : Tool := fun c =>
  let words := c.args.filter fun w => !(w.head? = some (ch '-') && !(execution? w).isSome)
  let e := Effect.start c
  match words with
  | [] => e.misused c.name 1 (utf8 "missing operand")
  | [mode] => e.misused c.name 1 (utf8 "missing operand after " ++ quote mode)
  | mode :: paths =>
    match execution? mode with
    | none => e.misused c.name 1 (utf8 "invalid mode: " ++ quote mode)
    | some change =>
      paths.foldl (fun e path =>
        match node? e.disk true path with
        | .ok (place, .file content executable) =>
          { e with disk := e.disk.put place (.file content (change.getD executable)) }
        | .ok _ => e
        | .error cause => e.complain c.name 1 (utf8 "cannot access " ++ quote path ++ utf8 ": " ++ reason cause)) e

/-! ## Removing -/

def rmOptions : OptionSet where
  flags := "dfiIrRv"
  long := [("force", 'f'), ("recursive", 'r'), ("dir", 'd'), ("verbose", 'v')]

def rm : Tool := withOptions rmOptions 1 fun o c =>
  let e := Effect.start c
  let deep := o.has 'r' || o.has 'R'
  if o.operands.isEmpty then if o.has 'f' then e else e.misused c.name 1 (utf8 "missing operand")
  else
    o.operands.foldl (fun e path =>
      let refuse (cause : Bytes) : Effect :=
        e.complain c.name 1 (utf8 "cannot remove " ++ quote path ++ utf8 ": " ++ cause)
      let base := baseName path
      match node? e.disk false path with
      | .error cause => if o.has 'f' && (cause = .noEntry || cause = .notDirectory) then e else refuse (reason cause)
      | .ok (place, .directory) =>
        if base = Path.dot || base = Path.dotDot then
          if deep then
            e.complain c.name 1 (utf8 "refusing to remove '.' or '..' directory: skipping " ++ quote path)
          else refuse (reason .isDirectory)
        else if deep then { e with disk := e.disk.remove place }
        else if o.has 'd' then
          if (e.disk.namesIn place).isEmpty then { e with disk := e.disk.remove place }
          else refuse (utf8 "Directory not empty")
        else refuse (reason .isDirectory)
      | .ok (place, _) =>
        let e := { e with disk := e.disk.remove place }
        if o.has 'v' then e.writeLine (utf8 "removed " ++ quote path) else e) e

def rmdirOptions : OptionSet where
  flags := "pv"
  long := [("parents", 'p'), ("verbose", 'v'), ("ignore-fail-on-non-empty", 'i')]

def rmdir : Tool := withOptions rmdirOptions 1 fun o c =>
  let e := Effect.start c
  if o.operands.isEmpty then e.misused c.name 1 (utf8 "missing operand")
  else
    let targets := o.operands.flatMap fun path => if o.has 'p' then (pathSteps path).reverse else [path]
    targets.foldl (fun e path =>
      let refuse (cause : Bytes) : Effect :=
        e.complain c.name 1 (utf8 "failed to remove " ++ quote path ++ utf8 ": " ++ cause)
      match node? e.disk false path with
      | .ok (place, .directory) =>
        if (e.disk.namesIn place).isEmpty then { e with disk := e.disk.remove place }
        else refuse (utf8 "Directory not empty")
      | .ok _ => refuse (reason .notDirectory)
      | .error cause => refuse (reason cause)) e

/-! ## Copying and moving -/

def copyTo (c : Call) (o : Choices) (e : Effect) (source target : Bytes) : Effect :=
  let deep := o.has 'r' || o.has 'R' || o.has 'a'
  let told (e : Effect) : Effect :=
    if o.has 'v' then e.writeLine (quote source ++ utf8 " -> " ++ quote target) else e
  match node? e.disk (!deep) source with
  | .error cause => e.complain c.name 1 (utf8 "cannot stat " ++ quote source ++ utf8 ": " ++ reason cause)
  | .ok (place, .directory) =>
    if !deep then e.complain c.name 1 (utf8 "-r not specified; omitting directory " ++ quote source)
    else
      let refuse (cause : SystemCause) : Effect :=
        e.complain c.name 1 (utf8 "cannot create directory " ++ quote target ++ utf8 ": " ++ reason cause)
      match e.disk.resolve true (unslashed target) with
      | .ok (.free dest) => told { e with disk := e.disk.graft dest (([], .directory) :: e.disk.subtree place) }
      | .ok (.found dest .directory) => told { e with disk := e.disk.graft dest (e.disk.subtree place) }
      | .ok (.found ..) =>
        e.complain c.name 1 (utf8 "cannot overwrite non-directory " ++ quote target ++ utf8 " with directory " ++
          quote source)
      | .error cause => refuse cause
  | .ok (place, node) =>
    let refuse (cause : SystemCause) : Effect :=
      e.complain c.name 1 (utf8 "cannot create regular file " ++ quote target ++ utf8 ": " ++ reason cause)
    match e.disk.resolve true target with
    | .ok (.free dest) =>
      if target.getLast? = some Path.slash then refuse .notDirectory
      else told { e with disk := e.disk.put dest node }
    | .ok (.found dest .directory) =>
      if dest = place then e
      else e.complain c.name 1 (utf8 "cannot overwrite directory " ++ quote target ++ utf8 " with non-directory " ++
        quote source)
    | .ok (.found dest old) =>
      if o.has 'n' then e
      else if dest = place then e.complain c.name 1 (quote source ++ utf8 " and " ++ quote target ++ utf8 " are the same file")
      else
        match node, old with
        | .file content _, .file _ executable => told { e with disk := e.disk.put dest (.file content executable) }
        | _, _ => told { e with disk := e.disk.put dest node }
    | .error cause => refuse cause

def moveTo (c : Call) (o : Choices) (e : Effect) (source target : Bytes) : Effect :=
  let told (e : Effect) : Effect :=
    if o.has 'v' then e.writeLine (utf8 "renamed " ++ quote source ++ utf8 " -> " ++ quote target) else e
  let refuse (cause : SystemCause) : Effect :=
    e.complain c.name 1 (utf8 "cannot move " ++ quote source ++ utf8 " to " ++ quote target ++ utf8 ": " ++ reason cause)
  match node? e.disk false source with
  | .error cause => e.complain c.name 1 (utf8 "cannot stat " ++ quote source ++ utf8 ": " ++ reason cause)
  | .ok (place, node) =>
    match e.disk.resolve false (if node = .directory then unslashed target else target) with
    | .error cause => refuse cause
    | .ok (.free dest) =>
      if target.getLast? = some Path.slash && node ≠ .directory then refuse .notDirectory
      else if node = .directory && place.isPrefixOf dest then
        e.complain c.name 1 (utf8 "cannot move " ++ quote source ++ utf8 " to a subdirectory of itself, " ++ quote target)
      else told { e with disk := e.disk.move place dest }
    | .ok (.found dest old) =>
      if o.has 'n' then e
      else if dest = place then e.complain c.name 1 (quote source ++ utf8 " and " ++ quote target ++ utf8 " are the same file")
      else if old = .directory && node ≠ .directory then
        e.complain c.name 1 (utf8 "cannot overwrite directory " ++ quote target ++ utf8 " with non-directory " ++ quote source)
      else if old ≠ .directory && node = .directory then
        e.complain c.name 1 (utf8 "cannot overwrite non-directory " ++ quote target ++ utf8 " with directory " ++ quote source)
      else if old = .directory && !(e.disk.namesIn dest).isEmpty then
        e.complain c.name 1 (utf8 "cannot overwrite " ++ quote target ++ utf8 ": Directory not empty")
      else told { e with disk := e.disk.move place dest }

def sendTo (c : Call) (o : Choices) (send : Effect → Bytes → Bytes → Effect) : Effect :=
  let e := Effect.start c
  let into (e : Effect) (dir : Bytes) (sources : List Bytes) : Effect :=
    sources.foldl (fun e source => send e source (inside dir (baseName source))) e
  match o.value? 't', o.operands with
  | some dir, sources => into e dir sources
  | none, [] => e.misused c.name 1 (utf8 "missing file operand")
  | none, [source] => e.misused c.name 1 (utf8 "missing destination file operand after " ++ quote source)
  | none, [source, target] =>
    if isDirectory e.disk target && !o.has 'T' then into e target [source] else send e source target
  | none, operands =>
    let dir := operands.getLastD []
    match node? e.disk true dir with
    | .ok (_, .directory) => into e dir operands.dropLast
    | .ok _ => e.complain c.name 1 (utf8 "target " ++ quote dir ++ utf8 ": Not a directory")
    | .error cause => e.complain c.name 1 (utf8 "target " ++ quote dir ++ utf8 ": " ++ reason cause)

def cpOptions : OptionSet where
  flags := "abdfHilLnpPrRsTuvx"
  valued := "St"
  long := [("archive", 'a'), ("force", 'f'), ("no-clobber", 'n'), ("recursive", 'r'), ("verbose", 'v'),
    ("target-directory", 't'), ("no-target-directory", 'T')]

def cp : Tool := withOptions cpOptions 1 fun o c => sendTo c o (copyTo c o)

def mvOptions : OptionSet where
  flags := "bfinTuv"
  valued := "St"
  long := [("force", 'f'), ("no-clobber", 'n'), ("verbose", 'v'), ("target-directory", 't'),
    ("no-target-directory", 'T')]

def mv : Tool := withOptions mvOptions 1 fun o c => sendTo c o (moveTo c o)

/-! ## Names -/

def basenameOptions : OptionSet where
  flags := "az"
  valued := "s"
  long := [("multiple", 'a'), ("suffix", 's'), ("zero", 'z')]
  inOrder := true

def withoutSuffix (suffix name : Bytes) : Bytes :=
  if suffix ≠ [] && suffix ≠ name && suffix.isSuffixOf name then name.take (name.length - suffix.length) else name

def basename : Tool := withOptions basenameOptions 1 fun o c =>
  let e := Effect.start c
  let strip (suffix path : Bytes) : Bytes :=
    let name := baseName path
    withoutSuffix suffix (if name.isEmpty then path.take 1 else name)
  if o.has 'a' || o.has 's' then
    if o.operands.isEmpty then e.misused c.name 1 (utf8 "missing operand")
    else o.operands.foldl (fun e path => e.writeLine (strip ((o.value? 's').getD []) path)) e
  else
    match o.operands with
    | [] => e.misused c.name 1 (utf8 "missing operand")
    | [path] => e.writeLine (strip [] path)
    | [path, suffix] => e.writeLine (strip suffix path)
    | _ :: _ :: extra :: _ => e.misused c.name 1 (utf8 "extra operand " ++ quote extra)

def dirName (path : Bytes) : Bytes :=
  let head := Path.stripSlashes (Path.upToLastSlash (unslashed path))
  if !head.isEmpty then head else if Path.isAbsolute path then [Path.slash] else Path.dot

def dirnameOptions : OptionSet where
  flags := "z"
  long := [("zero", 'z')]

def dirname : Tool := withOptions dirnameOptions 1 fun o c =>
  let e := Effect.start c
  if o.operands.isEmpty then e.misused c.name 1 (utf8 "missing operand")
  else o.operands.foldl (fun e path => e.writeLine (dirName path)) e

def workPath (d : Disk) : Bytes :=
  if d.workDir.isEmpty then [Path.slash] else d.workDir.flatMap (Path.slash :: ·)

end Files

end Script

end LineCoverage
