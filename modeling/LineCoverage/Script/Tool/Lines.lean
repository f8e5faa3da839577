import LineCoverage.Script.Tool.Files

/-!
# Programs for lines

The installed programs that count, choose, order and change lines of text.
-/

namespace LineCoverage

namespace Script

namespace Lines

def split (t : Bytes) : List Bytes :=
  t.foldr (fun b lines =>
    if b = newline then [b] :: lines
    else match lines with
      | first :: rest => (b :: first) :: rest
      | [] => [[b]]) []

def bare (l : Bytes) : Bytes := if l.getLast? = some newline then l.dropLast else l

def isGap (b : UInt8) : Bool := b = 0x20 || (0x09 ≤ b && b ≤ 0x0D)

def count? (t : Bytes) : Option Nat :=
  if t.isEmpty || !t.all isDigit then none else some (t.foldl (fun n b => n * 10 + (b.toNat - 48)) 0)

/-! ## Counting and choosing -/

structure Totals where
  lines : Nat := 0
  words : Nat := 0
  bytes : Nat := 0

def Totals.add (a b : Totals) : Totals := ⟨a.lines + b.lines, a.words + b.words, a.bytes + b.bytes⟩

def totals (t : Bytes) : Totals where
  lines := t.countP (· = newline)
  words := (t.foldl (fun (n, inside) b => if isGap b then (n, false) else (if inside then n else n + 1, true)) (0, false)).1
  bytes := t.length

def wcOptions : OptionSet where
  flags := "clLmw"
  long := [("bytes", 'c'), ("chars", 'm'), ("lines", 'l'), ("words", 'w')]

def columns (o : Choices) (t : Totals) : List Nat :=
  let all := o.found.isEmpty
  (if all || o.has 'l' then [t.lines] else []) ++ (if all || o.has 'w' then [t.words] else []) ++
    (if all || o.has 'c' || o.has 'm' then [t.bytes] else [])

def wc : Tool := withOptions wcOptions 1 fun o c =>
  let operands := o.operands
  let row (width : Nat) (t : Totals) (name : Bytes) : Bytes :=
    let cells := (columns o t).map fun n =>
      let digits := Decimal.ofNat n
      List.replicate (width - digits.length) 0x20 ++ digits
    line (Bytes.join [0x20] cells ++ if name.isEmpty then [] else 0x20 :: name)
  -- The width follows from the sizes of the files that are there.
  let sizes := operands.filterMap fun p => (Files.content? c.disk p).toOption.map List.length
  let single := operands.length ≤ 1 && (columns o {}).length = 1
  let width := if single then 1
    else if operands.isEmpty || operands.contains (utf8 "-") then 7
    else (Decimal.ofNat (sizes.foldl (· + ·) 0)).length
  if operands.isEmpty then { (Effect.start c).write (row width (totals c.input) []) with hasRead := true }
  else
    let (e, all) := operands.foldl (fun (e, all) path =>
      match if path = utf8 "-" then .ok c.input else Files.content? c.disk path with
      | .ok t => ((e : Effect).write (row width (totals t) path), Totals.add all (totals t))
      | .error .isDirectory =>
        ((e.complain c.name 1 (quoteIfNeeded path ++ utf8 ": Is a directory")).write (row width {} path), all)
      | .error cause => (e.complain c.name 1 (quoteIfNeeded path ++ utf8 ": " ++ reason cause), all))
      (Effect.start c, ({} : Totals))
    if 1 < operands.length then e.write (row width all (utf8 "total")) else e

def showParts (c : Call) (operands : List Bytes) (choose : Bytes → Bytes) : Effect :=
  let many := 1 < operands.length
  let (e, _) := (if operands.isEmpty then [utf8 "-"] else operands).foldl (fun (e, isFirst) path =>
    let title := if path = utf8 "-" then utf8 "standard input" else path
    let head := if many then (if isFirst then [] else [newline]) ++ line (utf8 "==> " ++ title ++ utf8 " <==") else []
    match if path = utf8 "-" then .ok c.input else Files.content? c.disk path with
    | .ok t => ((({ e with hasRead := e.hasRead || path = utf8 "-" } : Effect).write head).write (choose t), false)
    | .error .isDirectory =>
      ((e.write head).complain c.name 1 (utf8 "error reading " ++ quote path ++ utf8 ": Is a directory"), false)
    | .error cause =>
      (e.complain c.name 1 (utf8 "cannot open " ++ quote path ++ utf8 " for reading: " ++ reason cause), isFirst))
    (Effect.start c, true)
  e

def modernCount (args : List Bytes) : List Bytes :=
  match args with
  | w :: rest =>
    if w.head? = some (ch '-') && (count? (w.drop 1)).isSome then utf8 "-n" :: w.drop 1 :: rest else args
  | [] => []

def headOptions : OptionSet where
  flags := "qvz"
  valued := "cn"
  long := [("lines", 'n'), ("bytes", 'c'), ("quiet", 'q'), ("silent", 'q'), ("verbose", 'v')]

def head : Tool := fun c =>
  withOptions headOptions 1 (fun o c =>
    let amount := ((o.value? 'c').orElse fun _ => o.value? 'n').getD (utf8 "10")
    let allBut := amount.head? = some (ch '-')
    match count? (if allBut then amount.drop 1 else amount) with
    | none =>
      (Effect.start c).complain c.name 1
        (utf8 "invalid number of " ++ (if o.has 'c' then utf8 "bytes" else utf8 "lines") ++ utf8 ": " ++ quote amount)
    | some n =>
      showParts c o.operands fun t =>
        if o.has 'c' then if allBut then t.take (t.length - n) else t.take n
        else
          let lines := split t
          (if allBut then lines.take (lines.length - n) else lines.take n).flatten)
    { c with args := modernCount c.args }

def tailOptions : OptionSet where
  flags := "fFqvz"
  valued := "cns"
  long := [("lines", 'n'), ("bytes", 'c'), ("quiet", 'q'), ("silent", 'q'), ("verbose", 'v')]

def tail : Tool := fun c =>
  withOptions tailOptions 1 (fun o c =>
    let amount := ((o.value? 'c').orElse fun _ => o.value? 'n').getD (utf8 "10")
    let fromStart := amount.head? = some (ch '+')
    let digits := if fromStart || amount.head? = some (ch '-') then amount.drop 1 else amount
    match count? digits with
    | none =>
      (Effect.start c).complain c.name 1
        (utf8 "invalid number of " ++ (if o.has 'c' then utf8 "bytes" else utf8 "lines") ++ utf8 ": " ++ quote amount)
    | some n =>
      showParts c o.operands fun t =>
        if o.has 'c' then if fromStart then t.drop (n - 1) else t.drop (t.length - n)
        else
          let lines := split t
          (if fromStart then lines.drop (n - 1) else lines.drop (lines.length - n)).flatten)
    { c with args := modernCount c.args }

def gather (c : Call) (operands : List Bytes) (complaint : Bytes → SystemCause → Bytes) (code : Nat) : Effect × Bytes :=
  (if operands.isEmpty then [utf8 "-"] else operands).foldl (fun (e, all) path =>
    if path = utf8 "-" then ({ e with hasRead := true }, all ++ c.input)
    else
      match Files.content? c.disk path with
      | .ok t => (e, all ++ t)
      | .error cause => ((e : Effect).complain c.name code (complaint path cause), all)) (Effect.start c, [])

def tac : Tool := withOptions { flags := "br", valued := "s" } 1 fun o c =>
  let (e, t) := gather c o.operands
    (fun path cause => utf8 "failed to open " ++ quote path ++ utf8 " for reading: " ++ reason cause) 1
  e.write (split t).reverse.flatten

/-! ## Ordering -/

def sortOptions : OptionSet where
  flags := "bcdfghiMmnrRsuVz"
  valued := "kotST"
  long := [("numeric-sort", 'n'), ("reverse", 'r'), ("unique", 'u'), ("output", 'o'), ("key", 'k'),
    ("field-separator", 't'), ("stable", 's')]

def leading (l : Bytes) : Int :=
  let body := l.dropWhile isGap
  let negative := body.head? = some (ch '-')
  let digits := (if negative then body.drop 1 else body).takeWhile isDigit
  let n : Nat := digits.foldl (fun n b => n * 10 + (b.toNat - 48)) 0
  if negative then -(n : Int) else n

def sort : Tool := withOptions sortOptions 2 fun o c =>
  let (e, t) := gather c o.operands (fun path cause => utf8 "cannot read: " ++ quoteIfNeeded path ++ utf8 ": " ++ reason cause) 2
  if e.code ≠ 0 then e
  else
    let lines := (split t).map bare
    let least (a b : Bytes) : Bool := if a = b then true else a < b
    let before (a b : Bytes) : Bool :=
      if o.has 'n' then if leading a = leading b then least a b else leading a < leading b else least a b
    let sorted := lines.mergeSort before
    let sorted := if o.has 'r' then sorted.reverse else sorted
    let same (a b : Bytes) : Bool := if o.has 'n' then leading a = leading b else a = b
    let sorted := if o.has 'u' then
        sorted.foldr (fun l rest => match rest with | m :: more => if same l m then l :: more else l :: rest | [] => [l]) []
      else sorted
    let text := sorted.flatMap line
    match o.value? 'o' with
    | some path =>
      match e.disk.create path with
      | .ok d => { e with disk := d.append path text }
      | .error _ => e.complain c.name 2 (utf8 "open failed: " ++ quoteIfNeeded path)
    | none => e.write text

def uniqOptions : OptionSet where
  flags := "cDdiuz"
  valued := "fsw"
  long := [("count", 'c'), ("repeated", 'd'), ("unique", 'u'), ("ignore-case", 'i')]

def runs (lines : List Bytes) : List (Bytes × Nat) :=
  lines.foldr (fun l rest => match rest with
    | (m, n) :: more => if l = m then (l, n + 1) :: more else (l, 1) :: rest
    | [] => [(l, 1)]) []

def uniq : Tool := withOptions uniqOptions 1 fun o c =>
  let (e, t) := gather c (o.operands.take 1) (fun path cause => quoteIfNeeded path ++ utf8 ": " ++ reason cause) 1
  let kept := (runs ((split t).map bare)).filter fun (_, n) => !(o.has 'd' && n = 1) && !(o.has 'u' && 1 < n)
  let text := kept.flatMap fun (l, n) =>
    let digits := Decimal.ofNat n
    line ((if o.has 'c' then List.replicate (7 - digits.length) 0x20 ++ digits ++ [0x20] else []) ++ l)
  match o.operands with
  | [_, path] =>
    match e.disk.create path with
    | .ok d => { e with disk := d.append path text }
    | .error _ => e
  | _ => e.write text

/-! ## Changing -/

def byteSet : (fuel : Nat) → Bytes → Bytes
  | 0, _ => []
  | fuel + 1, s =>
    match s with
    | a :: b :: c :: rest =>
      if a = ch '\\' then
        let x := if b = ch 'n' then newline else if b = ch 't' then 9 else if b = ch 'r' then 13 else b
        x :: byteSet fuel (c :: rest)
      else if a = ch '[' && b = ch ':' then
        let name := (c :: rest).takeWhile (· ≠ ch ':')
        let after := (c :: rest).drop (name.length + 2)
        let range (low high : Char) : Bytes := (List.range (high.toNat + 1 - low.toNat)).map fun i => ch low + UInt8.ofNat i
        let found :=
          if name = utf8 "lower" then range 'a' 'z'
          else if name = utf8 "upper" then range 'A' 'Z'
          else if name = utf8 "digit" then range '0' '9'
          else if name = utf8 "alpha" then range 'A' 'Z' ++ range 'a' 'z'
          else if name = utf8 "alnum" then range '0' '9' ++ range 'A' 'Z' ++ range 'a' 'z'
          else if name = utf8 "space" then [9, 10, 11, 12, 13, 32]
          else if name = utf8 "blank" then [9, 32]
          else if name = utf8 "punct" then range '!' '/' ++ range ':' '@' ++ range '[' '\x60' ++ range '\x7b' '~'
          else []
        found ++ byteSet fuel after
      else if b = ch '-' && a ≤ c then
        (List.range (c.toNat + 1 - a.toNat)).map (fun i => a + UInt8.ofNat i) ++ byteSet fuel rest
      else a :: byteSet fuel (b :: c :: rest)
    | [a, b] =>
      if a = ch '\\' then [if b = ch 'n' then newline else if b = ch 't' then 9 else if b = ch 'r' then 13 else b]
      else [a, b]
    | s => s

def trOptions : OptionSet where
  flags := "cCdst"
  long := [("complement", 'c'), ("delete", 'd'), ("squeeze-repeats", 's'), ("truncate-set1", 't')]
  inOrder := true

def squeeze (p : UInt8 → Bool) (t : Bytes) : Bytes :=
  t.foldr (fun b rest => if p b && rest.head? = some b then rest else b :: rest) []

def tr : Tool := withOptions trOptions 1 fun o c =>
  let e := { Effect.start c with hasRead := true }
  let complement := o.has 'c' || o.has 'C'
  let sets := o.operands.map fun s => byteSet (s.length + 1) s
  let member (s : Bytes) (b : UInt8) : Bool := s.contains b ≠ complement
  match sets with
  | [] => e.misused c.name 1 (utf8 "missing operand")
  | [a] =>
    if o.has 'd' then e.write (c.input.filter (!member a ·))
    else if o.has 's' then e.write (squeeze (member a) c.input)
    else
      let first := o.operands.headD []
      let e := e.complain c.name 1 (utf8 "missing operand after " ++ quote first)
      { e with chunks := e.chunks ++
        [.complaint (line (utf8 "Two strings must be given when translating.")),
          .complaint (line (utf8 "Try '" ++ c.name ++ utf8 " --help' for more information."))] }
  | a :: b :: _ =>
    let last := b.getLastD 0
    let change (x : UInt8) : UInt8 :=
      if complement then if a.contains x then x else last
      else
        match (a.zipIdx.reverse.find? (·.1 = x)) with
        | some (_, i) => (b[i]?).getD last
        | none => x
    if o.has 'd' then e.write (squeeze b.contains (c.input.filter (!member a ·)))
    else
      let t := c.input.map change
      e.write (if o.has 's' then squeeze b.contains t else t)

def cutOptions : OptionSet where
  flags := "nsz"
  valued := "bcdf"
  long := [("bytes", 'b'), ("characters", 'c'), ("delimiter", 'd'), ("fields", 'f'), ("only-delimited", 's')]

def ranges (t : Bytes) : List (Nat × Option Nat) :=
  (t.splitOn (ch ',')).map fun r =>
    match Bytes.cut (ch '-') r with
    | some (low, high) => ((count? low).getD 1, if high.isEmpty then none else count? high)
    | none => ((count? r).getD 0, count? r)

def inRanges (rs : List (Nat × Option Nat)) (n : Nat) : Bool :=
  rs.any fun (low, high) => low ≤ n && high.all (n ≤ ·)

def chooseAt {α : Type} (rs : List (Nat × Option Nat)) (xs : List α) : List α :=
  (xs.zipIdx.filter fun (_, i) => inRanges rs (i + 1)).map (·.1)

def cut : Tool := withOptions cutOptions 1 fun o c =>
  match (o.value? 'f'), (o.value? 'b').orElse fun _ => o.value? 'c' with
  | none, none => (Effect.start c).misused c.name 1 (utf8 "you must specify a list of bytes, characters, or fields")
  | fields, bytes =>
    let (e, t) := gather c o.operands (fun path cause => quoteIfNeeded path ++ utf8 ": " ++ reason cause) 1
    let sep := (((o.value? 'd').getD [9]).head?).getD 9
    (split t).foldl (fun e l =>
      let l := bare l
      match fields, bytes with
      | some list, _ =>
        if l.contains sep then e.writeLine (Bytes.join [sep] (chooseAt (ranges list) (l.splitOn sep)))
        else if o.has 's' then e
        else e.writeLine l
      | none, some list => e.writeLine (chooseAt (ranges list) l)
      | none, none => e) e

def teeOptions : OptionSet where
  flags := "aip"
  long := [("append", 'a'), ("ignore-interrupts", 'i')]

def tee : Tool := withOptions teeOptions 1 fun o c =>
  let e := { (Effect.start c) with hasRead := true }
  let e := o.operands.foldl (fun e path =>
    let keep := o.has 'a' && (Files.content? e.disk path).toOption.isSome
    match if keep then .ok e.disk else e.disk.create path with
    | .ok d => { e with disk := d.append path c.input }
    | .error (.system _ _ cause) => e.complain c.name 1 (quoteIfNeeded path ++ utf8 ": " ++ reason cause)
    | .error _ => e) e
  e.write c.input

/-! ## Making -/

def seqOptions : OptionSet where
  flags := "w"
  valued := "fs"
  long := [("equal-width", 'w'), ("format", 'f'), ("separator", 's')]
  inOrder := true

def whole? (t : Bytes) : Option Int :=
  let (negative, digits) := Decimal.splitSign t
  (count? digits).map fun n => if negative then -(n : Int) else n

def series (step last : Int) : (fuel : Nat) → Int → List Int
  | 0, _ => []
  | fuel + 1, n => if (0 ≤ step && n ≤ last) || (step < 0 && last ≤ n) then n :: series step last fuel (n + step) else []

def seriesLimit : Nat := 1000000

def seq : Tool := fun c =>
  -- A number with a sign is no option.
  let guarded := if c.args.any fun w => w.head? = some (ch '-') && (whole? w).isSome then utf8 "--" :: c.args else c.args
  withOptions seqOptions 1 (fun o c =>
    let e := Effect.start c
    match o.operands.find? fun w => (whole? w).isNone with
    | some bad => e.misused c.name 1 (utf8 "invalid floating point argument: " ++ quote bad)
    | none =>
      let show_ (first step last : Int) : Effect :=
        if step = 0 then e.misused c.name 1 (utf8 "invalid Zero increment value: '0'")
        else
          let numbers := (series step last (min seriesLimit ((last - first).natAbs + 1)) first).map Decimal.ofInt
          if numbers.isEmpty then e else e.writeLine (Bytes.join ((o.value? 's').getD [newline]) numbers)
      match o.operands.filterMap whole? with
      | [] => e.misused c.name 1 (utf8 "missing operand")
      | [last] => show_ 1 1 last
      | [first, last] => show_ first 1 last
      | [first, step, last] => show_ first step last
      | _ => e.misused c.name 1 (utf8 "extra operand " ++ quote ((o.operands[3]?).getD [])))
    { c with args := guarded }

end Lines

end Script

end LineCoverage
