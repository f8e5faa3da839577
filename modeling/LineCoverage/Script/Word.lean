import LineCoverage.Bytes

/-!
# Commands of scripts

What a script is made of: words with the substitutions in them, and commands, which are simple or made
of others.
-/

namespace LineCoverage

namespace Script

inductive Fallback where
  | stand
  | assign
  | fail
  | instead
  deriving DecidableEq, Repr

inductive OpenMode where
  | input
  | output
  | overwrite
  | append
  | both
  deriving DecidableEq, Repr

mutual

inductive Part where
  | text (t : Bytes)
  | literal (t : Bytes)
  | quoted (w : List Part)
  | parameter (name : Bytes) (form : Form)
  | output (body : Option Command)
  | number (w : List Part)

inductive Form where
  | plain
  | length
  | malformed
  | fallback (kind : Fallback) (orEmpty : Bool) (w : List Part)
  | trim (atEnd longest : Bool) (pattern : List Part)

inductive Redirect where
  | file (stream : Nat) (mode : OpenMode) (name : List Part)
  | stream (stream : Nat) (other : List Part)
  | document (stream number : Nat)

inductive Command where
  | simple (line : Nat) (assignments : List (Bytes × List Part)) (words : List (List Part))
      (redirects : List Redirect)
  | redirected (line : Nat) (body : Command) (redirects : List Redirect)
  | pipeline (stages : List Command)
  | negated (c : Command)
  | both (first second : Command)
  | either (first second : Command)
  | sequence (first second : Command)
  | background (c : Command)
  | subshell (c : Command)
  | branch (test body : Command) (otherwise : Option Command)
  | loop (isUntil : Bool) (test body : Command)
  | each (line : Nat) (name : Bytes) (words : List (List Part)) (body : Command)
  | select (line : Nat) (subject : List Part) (cases : List (List (List Part) × Option Command))
  | define (name : Bytes) (body : Command)

end

abbrev Word := List Part

def plainText? : Word → Option Bytes
  | [.text t] => some t
  | _ => none

def joinTexts : Word → Word
  | .text a :: rest =>
    match joinTexts rest with
    | .text b :: more => .text (a ++ b) :: more
    | more => .text a :: more
  | p :: rest => p :: joinTexts rest
  | [] => []

def isBlank (b : UInt8) : Bool := b = 0x20 || b = 0x09

def isNameStart (b : UInt8) : Bool :=
  (ch 'a' ≤ b && b ≤ ch 'z') || (ch 'A' ≤ b && b ≤ ch 'Z') || b = ch '_'

def isDigit (b : UInt8) : Bool := ch '0' ≤ b && b ≤ ch '9'

def isNameByte (b : UInt8) : Bool := isNameStart b || isDigit b

def isOneOf (b : UInt8) (text : String) : Bool := (utf8 text).contains b

def isName (t : Bytes) : Bool := (t.head?.any isNameStart) && t.all isNameByte

def isSign (b : UInt8) : Bool := isOneOf b "!$*@?-#"

end Script

end LineCoverage
