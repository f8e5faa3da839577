import LineCoverage.Text.Decimal
import Std.Data.ExtTreeMap

/-!
# Metrics

Counts of what reports did. A registry keeps them over several reports; they are written as families
of samples in the order of their names. Of the time that a stage takes only the number of
observations is kept.
-/

namespace LineCoverage

/-- Counts under labels. A label that was never counted has no count. -/
abbrev LabelCount := Std.ExtTreeMap Bytes Nat

def LabelCount.bump (c : LabelCount) (label : String) (n : Nat) : LabelCount :=
  c.alter (utf8 label) fun old => some (old.getD 0 + n)

structure Metrics where
  modules : LabelCount
  runDirectories : Nat
  addresses : Nat
  lines : LabelCount
  stages : LabelCount

namespace Metrics

def empty : Metrics := ⟨∅, 0, 0, ∅, ∅⟩

def observe (m : Metrics) (stage : String) : Metrics := { m with stages := m.stages.bump stage 1 }

end Metrics

inductive MetricKind where
  | counter
  | gauge
  | histogram
  deriving DecidableEq, Repr

def MetricKind.name : MetricKind → String
  | .counter => "counter"
  | .gauge => "gauge"
  | .histogram => "histogram"

structure MetricFamily where
  name : String
  help : String
  kind : MetricKind
  label : Option String
  samples : List (Bytes × Nat)

namespace Metrics

def families (m : Metrics) : List MetricFamily :=
  [ ⟨"s2e_lcov_aggregated_addresses", "Number of distinct covered addresses over all modules",
      .gauge, none, [([], m.addresses)]⟩,
    ⟨"s2e_lcov_lines_total", "Total number of source lines written to tracefiles, found or hit",
      .counter, some "kind", m.lines.toList⟩,
    ⟨"s2e_lcov_modules_total", "Total number of modules processed by status",
      .counter, some "status", m.modules.toList⟩,
    ⟨"s2e_lcov_run_directories", "Number of S2E output directories aggregated by the last report",
      .gauge, none, [([], m.runDirectories)]⟩,
    ⟨"s2e_lcov_stage_duration_seconds", "Time spent in each stage of the report",
      .histogram, some "stage", m.stages.toList⟩ ].filter (!·.samples.isEmpty)

end Metrics

/-- A count as a sample value: from a million on as digits with an exponent. -/
def sampleText (n : Nat) : Bytes :=
  let digits := Decimal.ofNat n
  if digits.length ≤ 6 then digits
  else
    let exponent := digits.length - 1
    let kept := (digits.reverse.dropWhile (· = ch '0')).reverse
    let mantissa := match kept with
      | d :: e :: rest => d :: ch '.' :: e :: rest
      | short => short
    mantissa ++ utf8 (if exponent < 10 then "e+0" else "e+") ++ Decimal.ofNat exponent

namespace MetricFamily

def labelText (f : MetricFamily) (mark value : Bytes) : Bytes :=
  match f.label with
  | some label => [ch '\x7b'] ++ utf8 label ++ [ch '='] ++ mark ++ value ++ mark ++ [ch '\x7d']
  | none => []

def brief (f : MetricFamily) : List Bytes :=
  f.samples.map fun (value, n) => utf8 f.name ++ f.labelText [] value ++ ch ' ' :: Decimal.ofNat n

def fileLines (f : MetricFamily) : List Bytes :=
  let sampleName := utf8 f.name ++ utf8 (if f.kind = .histogram then "_count" else "")
  (utf8 "# HELP " ++ utf8 f.name ++ utf8 " " ++ utf8 f.help) ::
    (utf8 "# TYPE " ++ utf8 f.name ++ utf8 " " ++ utf8 f.kind.name) ::
    f.samples.map fun (value, n) => sampleName ++ f.labelText [ch '"'] value ++ ch ' ' :: sampleText n

end MetricFamily

namespace Metrics

def brief (m : Metrics) : List Bytes := m.families.flatMap (·.brief)

def fileText (m : Metrics) : Bytes := (m.families.flatMap (·.fileLines)).flatMap (· ++ [newline])

end Metrics

end LineCoverage
