import Mathlib.Algebra.Group.Nat.Defs
import TermSession.Proofs.Text.Utf8
import TermSession.Proofs.Toml.Documents

/-!
# Saved configurations

A configuration is saved as a document that says each setting once, so that it is loaded again as it
was, whatever its texts are.  Only numbers can be beyond what the format holds, and then nothing is
written.

* `Config.document`: what is written for a configuration; `wellFormed_document`;
* `Config.read?_write`: a configuration is read from its text;
* `Config.load_save`: saving and loading a configuration.
-/

namespace TermSession

open Toml (AreKeys Assignment Document Value WellKeyed)

/-! ### Sections -/

theorem PlatformSetting.ofToml?_name (s : PlatformSetting) :
    ofToml? (.str s.name.toList) = some s := by
  cases s <;> decide

namespace InputSettings

/-- The settings as keys with values. -/
def assignments (s : InputSettings) : List Assignment :=
  [("filter_enabled", .truth s.filter.enabled),
    ("dedup_short_window_ms", .number s.filter.shortWindow),
    ("dedup_alnum_window_ms", .number s.filter.alnumWindow),
    ("dedup_horizon_ms", .number s.filter.horizon),
    ("paste_window_ms", .number s.pasteWindow)]

theorem areKeys_assignments (s : InputSettings) : AreKeys (s.assignments.map Prod.fst) := by
  simp only [assignments, List.map_cons, List.map_nil]
  decide

theorem ofToml?_values (s : InputSettings) :
    ofToml? (.table (Document.values s.assignments)) = some s := by
  have hfields := Document.fields?_values s.areKeys_assignments
  simp only [assignments, List.map_cons, List.map_nil] at hfields ⊢
  simp [ofToml?, hfields, Toml.Scalar.value, settingOr, Value.bool?, Value.nat?]

end InputSettings

namespace SnapshotSettings

/-- The settings as keys with values. -/
def assignments (s : SnapshotSettings) : List Assignment :=
  [("cache_min_bytes", .number s.minBytes), ("cache_idle_interval_ms", .number s.interval),
    ("cache_kind", .text s.kind)]

theorem areKeys_assignments (s : SnapshotSettings) : AreKeys (s.assignments.map Prod.fst) := by
  simp only [assignments, List.map_cons, List.map_nil]
  decide

theorem ofToml?_values (s : SnapshotSettings) :
    ofToml? (.table (Document.values s.assignments)) = some s := by
  have hfields := Document.fields?_values s.areKeys_assignments
  simp only [assignments, List.map_cons, List.map_nil] at hfields ⊢
  simp [ofToml?, hfields, Toml.Scalar.value, settingOr, Value.nat?, Value.text?]

end SnapshotSettings

namespace ResizeSettings

/-- The settings as keys with values. -/
def assignments (s : ResizeSettings) : List Assignment := [("debounce_ms", .number s.debounce)]

theorem areKeys_assignments (s : ResizeSettings) : AreKeys (s.assignments.map Prod.fst) := by
  simp only [assignments, List.map_cons, List.map_nil]
  decide

theorem ofToml?_values (s : ResizeSettings) :
    ofToml? (.table (Document.values s.assignments)) = some s := by
  have hfields := Document.fields?_values s.areKeys_assignments
  simp only [assignments, List.map_cons, List.map_nil] at hfields ⊢
  simp [ofToml?, hfields, Toml.Scalar.value, settingOr, Value.nat?]

end ResizeSettings

/-! ### The text of a configuration -/

namespace Config

/-- A configuration as a document of sections. -/
def document (c : Config) : Document where
  top := [("platform", .text c.platform.name.toList)]
  sections := [("input", c.input.assignments), ("output", c.snapshots.assignments),
    ("resize", c.resize.assignments)]

theorem write_document (c : Config) : c.document.write = c.write := by
  simp [document, Document.write, Document.writeLines, Document.writeSections, write,
    InputSettings.assignments, SnapshotSettings.assignments, ResizeSettings.assignments,
    Toml.Scalar.write]

theorem areKeys_document (c : Config) :
    AreKeys (c.document.top.map Prod.fst ++ c.document.sections.map Prod.fst) := by
  have hkeys : AreKeys ["platform", "input", "output", "resize"] := by decide
  exact hkeys

/-- All that a configuration says can be written, if its numbers are in range. -/
theorem wellFormed_document {c : Config} (h : ∀ n ∈ c.numbers, n ≤ Toml.maxInt) :
    c.document.WellFormed where
  areKeys := c.areKeys_document
  fits := by simp [document, Toml.Scalar.Fits]
  sections := by
    have hinput : WellKeyed c.input.assignments :=
      ⟨c.input.areKeys_assignments, by
        simp_all [InputSettings.assignments, Toml.Scalar.Fits, numbers]⟩
    have hsnapshots : WellKeyed c.snapshots.assignments :=
      ⟨c.snapshots.areKeys_assignments, by
        simp_all [SnapshotSettings.assignments, Toml.Scalar.Fits, numbers]⟩
    have hresize : WellKeyed c.resize.assignments :=
      ⟨c.resize.areKeys_assignments, by
        simp_all [ResizeSettings.assignments, Toml.Scalar.Fits, numbers]⟩
    simpa [document] using ⟨hinput, hsnapshots, hresize⟩

theorem ofEntries?_document (c : Config) : ofEntries? c.document.entries = some c := by
  have hkeys := c.areKeys_document
  have hplatform : Value.find? c.document.entries "platform" =
      some (.str c.platform.name.toList) :=
    Document.find?_top hkeys (List.mem_singleton_self _)
  have hsections : ∀ s ∈ c.document.sections, Value.find? c.document.entries s.1 =
      some (.table (Document.values s.2)) :=
    fun s => Document.find?_section hkeys
  obtain ⟨hinput, hsnapshots, hresize⟩ : Value.find? c.document.entries "input" =
        some (.table (Document.values c.input.assignments)) ∧
      Value.find? c.document.entries "output" =
        some (.table (Document.values c.snapshots.assignments)) ∧
      Value.find? c.document.entries "resize" =
        some (.table (Document.values c.resize.assignments)) := by
    simpa [document] using hsections
  simp [ofEntries?, hplatform, hinput, hsnapshots, hresize, settingOr,
    PlatformSetting.ofToml?_name, InputSettings.ofToml?_values, SnapshotSettings.ofToml?_values,
    ResizeSettings.ofToml?_values]

/-- A configuration is read from its text. -/
theorem read?_write {c : Config} (h : ∀ n ∈ c.numbers, n ≤ Toml.maxInt) :
    read? c.write = some c := by
  rw [read?, ← write_document, Toml.readDocument_write (wellFormed_document h), Option.bind_some,
    ofEntries?_document]

theorem write?_eq_none_iff {c : Config} : c.write? = none ↔ ∃ n ∈ c.numbers, Toml.maxInt < n := by
  simp [write?]

/-! ### The file -/

/-- The file can be replaced, whatever it holds or if there is none.  If every number of the
configuration is at most 2^63 - 1, it is saved, and what is loaded then is the configuration; else
it is not saved, because it cannot be written as text, and the file keeps its content. -/
theorem load_save (c : Config) {file : ConfigFile} (hfile : file ≠ .directory) :
    ((∀ n ∈ c.numbers, n ≤ 2 ^ 63 - 1) →
      ∃ home, c.save (.directory file) = (.ok (), home) ∧ load home = c) ∧
    ((∃ n ∈ c.numbers, 2 ^ 63 - 1 < n) →
      c.save (.directory file) = (.error .serialize, .directory file)) := by
  have hmax : 2 ^ 63 - 1 = Toml.maxInt := by decide
  rw [hmax]
  constructor
  · intro hnumbers
    have hwrite : c.write? = some c.write := by
      rw [write?, if_pos (by simpa using hnumbers)]
    refine ⟨.directory (.bytes (Utf8.encode c.write)), ?_, ?_⟩
    · simp only [save, hwrite, if_neg hfile]
    · rw [load, Utf8.read?_encode, Option.bind_some, read?_write hnumbers, Option.getD_some]
  · intro hnumbers
    have hwrite : c.write? = none := write?_eq_none_iff.2 hnumbers
    simp only [save, hwrite]

/-- The largest number and a text with either quote three times, a backslash, an end of line and a
control are saved; a number that is larger by one is not. -/
theorem load_save_quotes :
    let c : Config :=
      { snapshots :=
          { minBytes := 2 ^ 63 - 1
            kind := ['"', '"', '"', '\'', '\'', '\'', '\\', '\r', '\n', '\x00', '"'] } }
    let larger : Config := { c with resize := { debounce := 2 ^ 63 } }
    let file : ConfigFile := .bytes [0x23]
    file ≠ .directory ∧ (∀ n ∈ c.numbers, n ≤ 2 ^ 63 - 1) ∧
      (∃ home, c.save (.directory file) = (.ok (), home) ∧ load home = c) ∧
      (∃ n ∈ larger.numbers, 2 ^ 63 - 1 < n) ∧
      larger.save (.directory file) = (.error .serialize, .directory file) := by
  intro c larger file
  have hfile : file ≠ .directory := by decide
  have hnumbers : ∀ n ∈ c.numbers, n ≤ 2 ^ 63 - 1 := by decide
  have hlarger : ∃ n ∈ larger.numbers, 2 ^ 63 - 1 < n := by decide
  exact ⟨hfile, hnumbers, (load_save c hfile).1 hnumbers, hlarger,
    (load_save larger hfile).2 hlarger⟩

end Config

end TermSession
