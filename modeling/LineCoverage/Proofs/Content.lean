import LineCoverage.Compression.Content
import Mathlib

/-!
# What a file is read as

The format of a file shows in the few bytes that are looked at, however short the file is. Its content is what the
decoder of that format gives.
-/

namespace LineCoverage

namespace Format

theorem startsWith_take {head : Bytes} {n : Nat} (content : Bytes) (h : head.length ≤ n) :
    Bytes.startsWith (content.take n) head = Bytes.startsWith content head := by
  unfold Bytes.startsWith
  rw [Bool.eq_iff_iff, List.isPrefixOf_iff_prefix, List.isPrefixOf_iff_prefix, List.prefix_take_iff]
  exact and_iff_left h

theorem detect_take (content : Bytes) : detect (content.take Content.headerSize) = detect content := by
  have hgzip : gzipMagic.length ≤ Content.headerSize := by decide
  have hzstd : zstdMagic.length ≤ Content.headerSize := by decide
  unfold detect
  rw [startsWith_take content hgzip, startsWith_take content hzstd]

theorem detect_cons {b : UInt8} (rest : Bytes) (hgzip : b ≠ 0x1F) (hzstd : b ≠ 0x28) : detect (b :: rest) = .plain := by
  simp [detect, Bytes.startsWith, gzipMagic, zstdMagic, hgzip.symm, hzstd.symm]

theorem detect_eq_plain_iff (content : Bytes) :
    detect content = .plain ↔ ¬ gzipMagic <+: content ∧ ¬ zstdMagic <+: content := by
  unfold detect Bytes.startsWith
  simp only [List.isPrefixOf_iff_prefix]
  split
  · simp [*]
  · split <;> simp [*]

end Format

namespace Content

theorem ofArray_eq_iff {data : ByteArray} {text : Bytes} : ofArray data = text ↔ data = toArray text := by
  constructor
  · rintro rfl
    rfl
  · rintro rfl
    exact List.toList_toArray

/-! ## Any decoders -/

section Decoders

variable (d : Decoders)

/-- Compressed data of which the decoder of its format makes the text. -/
def Unpacks (packed text : Bytes) : Prop :=
  match Format.detect packed with
  | .plain => False
  | .gzip => d.gunzip (toArray packed) = .ok (toArray text)
  | .zstd => d.unzstd? (toArray packed) = some (toArray text)

/-- What data stands for: itself if it begins like no compressed data, and else what its decoder makes of it. -/
def StandsFor (stored text : Bytes) : Prop :=
  ¬ Format.gzipMagic <+: stored ∧ ¬ Format.zstdMagic <+: stored ∧ text = stored ∨ Unpacks d stored text

/-- A file that has the text as its content, as it is or compressed. -/
inductive Stores (s : Store) (path text : Bytes) : Prop where
  | plain (hcontent : s.fileContent path = .ok text) (hformat : Format.detect text = .plain)
  | packed {packed : Bytes} (hcontent : s.fileContent path = .ok packed) (hunpacks : Unpacks d packed text)

variable {d} {s : Store} {path stored text : Bytes}

theorem decodeWith_eq_ok_iff : decodeWith d path stored = .ok (.ok text) ↔ StandsFor d stored text := by
  unfold decodeWith StandsFor Unpacks
  rw [Format.detect_take, ← and_assoc, ← Format.detect_eq_plain_iff]
  cases Format.detect stored with
  | plain => simp [eq_comm]
  | gzip =>
    cases d.gunzip (toArray stored) with
    | ok data => simp [ofArray_eq_iff]
    | error e => cases e <;> simp
  | zstd => cases d.unzstd? (toArray stored) <;> simp [ofArray_eq_iff]

theorem readWith_eq_ok_iff :
    readWith d s path = .ok text ↔ ∃ stored, s.fileContent path = .ok stored ∧ StandsFor d stored text := by
  unfold readWith openFileWith Store.fileContent
  simp only [← @decodeWith_eq_ok_iff d path]
  cases s.openFile path with
  | error e => simp [Except.mapError, bind, Except.bind]
  | ok file =>
    cases hcontent : file.content with
    | error e => simp [Except.mapError, bind, Except.bind, hcontent]
    | ok stored =>
      cases hdecode : decodeWith d path stored <;>
        simp [Except.mapError, bind, Except.bind, pure, Except.pure, hcontent, hdecode]

theorem Stores.readWith (h : Stores d s path text) : Content.readWith d s path = .ok text := by
  rw [readWith_eq_ok_iff]
  cases h with
  | plain hcontent hformat =>
    obtain ⟨hgzip, hzstd⟩ := (Format.detect_eq_plain_iff text).1 hformat
    exact ⟨text, hcontent, .inl ⟨hgzip, hzstd, rfl⟩⟩
  | packed hcontent hunpacks => exact ⟨_, hcontent, .inr hunpacks⟩

end Decoders

/-! ## The decoders of the program -/

theorem decode_of_plain (path : Bytes) {content : Bytes} (h : Format.detect content = .plain) :
    decode path content = .ok (.ok content) := by
  obtain ⟨hgzip, hzstd⟩ := (Format.detect_eq_plain_iff content).1 h
  exact decodeWith_eq_ok_iff.2 (.inl ⟨hgzip, hzstd, rfl⟩)

theorem Stores.read {s : Store} {path text : Bytes} (h : Stores .standard s path text) :
    Content.read s path = .ok text := h.readWith

end Content

end LineCoverage
