import LineCoverage.Extraction
import LineCoverage.Proofs.Content
import LineCoverage.Proofs.Trace

/-!
# Compressed trace files

No trace document begins like compressed data. So a run reads the same whichever of its trace files are compressed.
-/

namespace LineCoverage

namespace Trace

open Content (Stores Unpacks)

/-! ## One file -/

theorem detect_of_readRaw {text : Bytes} {raw : RawModules} (h : readRaw text = some raw) :
    Format.detect text = .plain := by
  cases text with
  | nil => rfl
  | cons b rest =>
    have hfirst : ∀ c, stepByte (.between, .start) c = none → b ≠ c := by
      rintro c hrefused rfl
      unfold readRaw at h
      rw [List.foldlM_cons, hrefused] at h
      cases h
    apply Format.detect_cons rest
    · exact hfirst 0x1F rfl
    · exact hfirst 0x28 rfl

theorem detect_of_parse {text : Bytes} {blocks : BlockMap} (h : parse text = .ok blocks) :
    Format.detect text = .plain := by
  unfold parse parseIn at h
  cases hraw : readRaw text with
  | none =>
    rw [hraw] at h
    cases h
  | some raw => exact detect_of_readRaw hraw

section File

variable {s s' : Store} {path path' text : Bytes} {blocks : BlockMap}

theorem readFile_of_stores (h : Stores .standard s path text) : readFile s path = (parse text).mapError (.document path) := by
  unfold readFile
  rw [h.read]
  rfl

theorem readFile_of_parse (h : Stores .standard s path text) (hparse : parse text = .ok blocks) :
    readFile s path = .ok blocks := by
  rw [readFile_of_stores h, hparse]
  rfl

theorem readFile_of_openFile (h : s'.openFile path = s.openFile path) : readFile s' path = readFile s path := by
  unfold readFile Content.read Content.readWith Content.openFileWith
  rw [h]

/-- A trace file in a store and what has become of it in another. Its name may change only if it is a document, since
what is said of any other file has its name in it. -/
inductive Repacked (s s' : Store) : Bytes → Bytes → Prop where
  | kept {path : Bytes} (hopen : s'.openFile path = s.openFile path) : Repacked s s' path path
  | inPlace {path text : Bytes} (hbefore : Stores .standard s path text) (hafter : Stores .standard s' path text) :
      Repacked s s' path path
  | renamed {path path' text : Bytes} {blocks : BlockMap} (hparse : parse text = .ok blocks)
      (hbefore : Stores .standard s path text) (hafter : Stores .standard s' path' text) : Repacked s s' path path'

theorem Repacked.readFile (h : Repacked s s' path path') : readFile s' path' = readFile s path := by
  cases h with
  | kept hopen => exact readFile_of_openFile hopen
  | inPlace hbefore hafter => rw [readFile_of_stores hbefore, readFile_of_stores hafter]
  | renamed hparse hbefore hafter => rw [readFile_of_parse hbefore hparse, readFile_of_parse hafter hparse]

end File

/-! ## All files -/

theorem aggregateFrom_of_repacked {s s' : Store} {files files' : List Bytes}
    (h : List.Forall₂ (Repacked s s') files files') (all : BlockMap) :
    aggregateFrom s' all files' = aggregateFrom s all files := by
  induction h generalizing all with
  | nil => rfl
  | @cons path path' rest rest' hfile _ ih =>
    rw [aggregateFrom, aggregateFrom, hfile.readFile]
    cases Trace.readFile s path with
    | error e => rfl
    | ok blocks => exact ih (append all blocks)

/-- Trace files are read alike whether they are compressed or not. Every file shows its format in the bytes that are
looked at, one that is shorter too. A document that can be read is plain data, and a file gives its blocks that has
it as it is, and also one from which a decoder makes it. So any of the trace files of a run can be compressed: the run
has the same blocks as long as the files come in the same order. -/
theorem compression_is_transparent :
    (∀ content : Bytes, Format.detect (content.take Content.headerSize) = Format.detect content ∧
      (Format.detect content = .plain → ∀ path, Content.decode path content = .ok (.ok content))) ∧
    (∀ (text : Bytes) (blocks : BlockMap), parse text = .ok blocks → Format.detect text = .plain ∧
      ∀ (s : Store) (path stored : Bytes), s.fileContent path = .ok stored → stored = text ∨ Unpacks .standard stored text →
        readFile s path = .ok blocks) ∧
    ∀ (s s' : Store) (files files' : List Bytes), List.Forall₂ (Repacked s s') files files' →
      aggregate s' files' = aggregate s files ∧
        ∀ dir, list s dir = .ok files → list s' dir = .ok files' →
          Extraction.runBlocks s' dir = Extraction.runBlocks s dir := by
  refine ⟨fun content => ⟨Format.detect_take content, fun hplain path => Content.decode_of_plain path hplain⟩, ?_, ?_⟩
  · intro text blocks hparse
    have hplain := detect_of_parse hparse
    refine ⟨hplain, fun s path stored hcontent hform => ?_⟩
    rcases hform with rfl | hunpacks
    · exact readFile_of_parse (.plain hcontent hplain) hparse
    · exact readFile_of_parse (.packed hcontent hunpacks) hparse
  · intro s s' files files' hfiles
    have haggregate : aggregate s' files' = aggregate s files := aggregateFrom_of_repacked hfiles ∅
    refine ⟨haggregate, fun dir hbefore hafter => ?_⟩
    unfold Extraction.runBlocks
    rw [hbefore, hafter]
    change (aggregate s' files').mapError _ = (aggregate s files).mapError _
    rw [haggregate]

/-! ## A run with compressed files -/

def documentA : Bytes := utf8 "\x7b\"a\":[[16,17,2]]\x7d"

def documentB : Bytes := utf8 "\x7b\"b\":[[32,33,2]]\x7d"

def gzipA : Bytes :=
  [31, 139, 8, 0, 0, 0, 0, 0, 0, 255, 1, 17, 0, 238, 255] ++ documentA ++ [63, 167, 175, 12, 17, 0, 0, 0]

def zstdB : Bytes := [40, 181, 47, 253, 32, 17, 137, 0, 0] ++ documentB

def plainRun : Memory :=
  (Memory.empty.putFile (utf8 "/run/tbcoverage-0.json") documentA).putFile (utf8 "/run/tbcoverage-1.json") documentB

/-- A run with its first file compressed in place, and its second one under another name. -/
def packedRun : Memory :=
  (Memory.empty.putFile (utf8 "/run/tbcoverage-0.json") gzipA).putFile (utf8 "/run/tbcoverage-1.json.zst") zstdB

theorem unpacks_gzipA : Unpacks .standard gzipA documentA := by
  have hformat : Format.detect gzipA = .gzip := by decide
  have hdata : (Compression.gunzip (Content.toArray gzipA)).toOption = some (Content.toArray documentA) := by
    decide +kernel
  unfold Unpacks
  rw [hformat]
  cases hresult : Compression.gunzip (Content.toArray gzipA) with
  | error e =>
    rw [hresult] at hdata
    cases hdata
  | ok data =>
    rw [hresult] at hdata
    rwa [Option.some.inj hdata] at hresult

theorem unpacks_zstdB : Unpacks .standard zstdB documentB := by
  have hformat : Format.detect zstdB = .zstd := by decide
  unfold Unpacks
  rw [hformat]
  decide +kernel

theorem compression_is_transparent_packedRun :
    (∃ blocks, parse documentB = .ok blocks ∧
      readFile (.memory packedRun) (utf8 "/run/tbcoverage-1.json.zst") = .ok blocks) ∧
    (Extraction.runBlocks (.memory plainRun) (utf8 "/run")).map (·.toList) =
      .ok [(utf8 "a", [⟨16, 17, 2⟩]), (utf8 "b", [⟨32, 33, 2⟩])] ∧
    Extraction.runBlocks (.memory packedRun) (utf8 "/run") = Extraction.runBlocks (.memory plainRun) (utf8 "/run") := by
  obtain ⟨_, hdocument, hrun⟩ := compression_is_transparent
  have hlist : list (.memory plainRun) (utf8 "/run") =
      .ok [utf8 "/run/tbcoverage-0.json", utf8 "/run/tbcoverage-1.json"] := by cbv
  have hlist' : list (.memory packedRun) (utf8 "/run") =
      .ok [utf8 "/run/tbcoverage-0.json", utf8 "/run/tbcoverage-1.json.zst"] := by cbv
  have hparse : ∃ blocks, parse documentB = .ok blocks := ⟨_, by rfl⟩
  obtain ⟨blocks, hparse⟩ := hparse
  have hcontent : (Store.memory packedRun).fileContent (utf8 "/run/tbcoverage-1.json.zst") = .ok zstdB := by
    decide +kernel
  have hfiles : List.Forall₂ (Repacked (.memory plainRun) (.memory packedRun))
      [utf8 "/run/tbcoverage-0.json", utf8 "/run/tbcoverage-1.json"]
      [utf8 "/run/tbcoverage-0.json", utf8 "/run/tbcoverage-1.json.zst"] := by
    apply List.Forall₂.cons
    · exact .inPlace (.plain (by decide +kernel) (by decide)) (.packed (by decide +kernel) unpacks_gzipA)
    · apply List.Forall₂.cons
      · exact .renamed hparse (.plain (by decide +kernel) (by decide)) (.packed hcontent unpacks_zstdB)
      · exact .nil
  refine ⟨⟨blocks, hparse, ?_⟩, ?_, ?_⟩
  · exact (hdocument _ _ hparse).2 _ _ _ hcontent (.inr unpacks_zstdB)
  · unfold Extraction.runBlocks
    rw [hlist]
    decide +kernel
  · exact (hrun _ _ _ _ hfiles).2 _ hlist hlist'

end Trace

end LineCoverage
