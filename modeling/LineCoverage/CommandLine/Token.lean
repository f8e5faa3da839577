import LineCoverage.Store
import LineCoverage.Text.Quoted

/-!
# Command line tokens

The words of a command line are flags with one or two dashes, and arguments. What a word with one dash
holds depends on the flags that are known when it is read.
-/

namespace LineCoverage

namespace CommandLine

structure Flag where
  name : String
  short : Option Char := none
  isSwitch : Bool := false
  repeatable : Bool := false
  deriving DecidableEq, Repr

inductive WordsError where
  | unnamed
  | unopened (path : Bytes) (e : FileError)
  | unread (path : Bytes) (e : FileError)
  | lineTooLong (path : Bytes)
  deriving DecidableEq, Repr

namespace WordsError

def message : WordsError → Bytes
  | .unnamed => utf8 "expected @ file to expand arguments from"
  | .unopened path e => utf8 "failed to open arguments file " ++ Quoted.quote path ++ utf8 ": " ++ e.message
  | .unread path e => reading path ++ e.message
  | .lineTooLong path => reading path ++ utf8 "bufio.Scanner: token too long"
where
  reading (path : Bytes) : Bytes := utf8 "failed to read arguments from " ++ Quoted.quote path ++ utf8 ": "

end WordsError

inductive Token where
  | short (name : Bytes)
  | long (name : Bytes)
  | argument (text : Bytes)
  | fault (e : WordsError)
  | done
  deriving DecidableEq, Repr

def Token.text : Token → Bytes
  | .short name => utf8 "-" ++ name
  | .long name => utf8 "--" ++ name
  | .argument text => text
  | .fault e => e.message
  | .done => []

structure Words where
  rest : List Bytes
  plain : Bool
  pending : List Token
  fault : Option WordsError

def separator : Bytes := utf8 "--"

namespace Words

def start (words : List Bytes) (fault : Option WordsError) : Words := ⟨words, false, [], fault⟩

def shortFlag? (flags : List Flag) (name : Bytes) : Option Flag :=
  flags.find? fun f => f.short.map String.utf8EncodeChar = some name

/-- A word with two dashes: a name, and perhaps a value behind an equals sign. -/
def longToken (w : Words) (body : Bytes) : Token × Words :=
  match body.cut (ch '=') with
  | some (name, value) => (.long name, { w with pending := .argument value :: w.pending })
  | none => (.long body, w)

/-- A word with one dash. Behind a flag that takes a value stands the value; behind any other stand
further flags. -/
def shortToken (w : Words) (flags : List Flag) (b : UInt8) (rest : Bytes) : Token × Words :=
  let (name, others) := match Utf8.firstUnit b rest with
    | .char _ bytes => (bytes, (b :: rest).drop bytes.length)
    | .stray _ => (Utf8.encode 0xFFFD, rest)
  if others.isEmpty then (.short name, w)
  else if (shortFlag? flags name).any (!·.isSwitch) then
    (.short name, { w with pending := .argument others :: w.pending })
  else (.short name, { w with rest := (ch '-' :: others) :: w.rest })

def read (w : Words) (flags : List Flag) : Token × Words :=
  match _h : w.rest with
  | [] => ((w.fault.map .fault).getD .done, w)
  | word :: rest =>
    let w' := { w with rest }
    if w.plain then (.argument word, w')
    else if word = separator then read { w' with plain := true } flags
    else
      match word with
      | a :: b :: body =>
        if a ≠ ch '-' then (.argument word, w')
        else if b = ch '-' then w'.longToken body
        else w'.shortToken flags b body
      | [a] => if a = ch '-' then (.short [], w') else (.argument word, w')
      | [] => (.argument word, w')
termination_by w.rest.length
decreasing_by
  simp only [_h, List.length_cons]
  omega

def next (w : Words) (flags : List Flag) : Token × Words :=
  match w.pending with
  | t :: pending => (t, { w with pending })
  | [] => w.read flags

def peek (w : Words) (flags : List Flag) : Token × Words :=
  let (t, w) := w.next flags
  (t, { w with pending := t :: w.pending })

end Words

/-! ## Files of words -/

def lineLimit : Nat := 0x10000

/-- The lines of a text. A line break at its end ends the last line, and a carriage return in front of a
line break belongs to it. -/
def linesOf (content : Bytes) : List Bytes :=
  let lines := match (content.splitOn newline).reverse with
    | [] :: rest => rest.reverse
    | lines => lines.reverse
  lines.map fun l => if l.getLast? = some 13 then l.dropLast else l

/-- The words of a file: its lines but those that begin with a number sign. -/
def fileWords (s : Store) (path : Bytes) : Except WordsError (List Bytes) := do
  if path.isEmpty then .error .unnamed
  else
    let file ← (s.openFile path).mapError (.unopened path)
    let content ← file.content.mapError (.unread path)
    if (content.splitOn newline).any (lineLimit ≤ ·.length) then .error (.lineTooLong path)
    else pure ((linesOf content).filter (·.head? ≠ some (ch '#')))

def fileDepth : Nat := 64

structure Expansion where
  words : List Bytes
  stopped : Bool
  fault : Option WordsError

/-- Puts the words of a file in the place of a word that names it with an at sign, up to the
separator. Words behind a file that cannot be read are left out. -/
def expandFiles (s : Store) (depth : Nat) (words : List Bytes) : Expansion :=
  match words with
  | [] => ⟨[], false, none⟩
  | word :: rest =>
    if word = separator then ⟨word :: rest, true, none⟩
    else if word.head? ≠ some (ch '@') then
      let more := expandFiles s depth rest
      { more with words := word :: more.words }
    else
      match depth, fileWords s (word.drop 1) with
      | 0, _ => ⟨word :: rest, true, none⟩
      | _, .error e => ⟨[], true, some e⟩
      | depth + 1, .ok inside =>
        let inner := expandFiles s depth inside
        if inner.fault.isSome then inner
        else if inner.stopped then { inner with words := inner.words ++ rest }
        else
          let more := expandFiles s (depth + 1) rest
          { more with words := inner.words ++ more.words }
termination_by (depth, words.length)

end CommandLine

end LineCoverage
