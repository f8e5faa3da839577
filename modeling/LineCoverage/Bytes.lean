import LineCoverage.Word

/-!
# Byte strings

Paths, module names and file contents are byte strings: nothing promises that they are UTF-8.
Their order is the order of their bytes.
-/

namespace LineCoverage

abbrev Bytes := List UInt8

def utf8 (s : String) : Bytes := s.toList.flatMap String.utf8EncodeChar

instance : Coe String Bytes := ⟨utf8⟩

def ch (c : Char) : UInt8 := UInt8.ofNat c.toNat

def newline : UInt8 := 10

namespace Bytes

/-- The pieces between the separators. There is always one piece more than separators. -/
def splitOn (sep : UInt8) (s : Bytes) : List Bytes :=
  s.foldr (fun b pieces =>
    if b = sep then [] :: pieces
    else match pieces with
      | [] => [[b]]
      | piece :: rest => (b :: piece) :: rest) [[]]

def cut (sep : UInt8) (s : Bytes) : Option (Bytes × Bytes) :=
  match s.dropWhile (· ≠ sep) with
  | [] => none
  | _ :: after => some (s.takeWhile (· ≠ sep), after)

def join (sep : Bytes) (pieces : List Bytes) : Bytes := (pieces.intersperse sep).flatten

def endsWith (s tail : Bytes) : Bool := tail.isSuffixOf s

def startsWith (s head : Bytes) : Bool := head.isPrefixOf s

end Bytes

end LineCoverage
