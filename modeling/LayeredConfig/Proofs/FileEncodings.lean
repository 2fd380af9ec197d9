import LayeredConfig.Proofs.CodeEscapes
import LayeredConfig.Proofs.TextBytes
import LayeredConfig.Source.Loading

/-!
A properties file is read as the text that its bytes hold, whichever of the two encodings they
are in. Nothing about the bytes themselves can make the reading fail: what is left to fail is a
malformed escape in the text.
-/

namespace LayeredConfig.Source

open Text

/-- The file at a path is loaded as a text. It gives the properties of the text, and fails where
the strict reading of the text does. -/
structure LoadsAs (files : FileSystem) (path text : String) : Prop where
  loaded : ∀ source, loadProperties files path = .ok source ↔
    ∃ properties, Properties.parse text = .ok properties ∧
      source = .propertiesFile path properties
  failed : ∀ failure, loadProperties files path = .error failure ↔
    ∃ malformed, Properties.parse text = .error malformed ∧
      failure = .parse (path ++ ": " ++ malformed.message)

section Loading

variable {files : FileSystem} {path : String} {bytes : ByteArray}

theorem loadProperties_of_read
    (held : files.read path = .ok bytes) :
    loadProperties files path =
      ((Properties.parse (decode bytes)).mapError fun malformed =>
        Failure.parse (path ++ ": " ++ malformed.message)).map (.propertiesFile path) := by
  rw [loadProperties, held]
  simp only [Except.mapError, bind, Except.bind]
  cases Properties.parse (decode bytes) with
  | error malformed =>
      rfl
  | ok properties =>
      rfl

theorem loadsAs_decode
    (held : files.read path = .ok bytes) :
    LoadsAs files path (decode bytes) := by
  have loading := loadProperties_of_read held
  constructor
  · intro source
    rw [loading]
    cases Properties.parse (decode bytes) with
    | error malformed =>
        simp [Except.mapError, Except.map]
    | ok properties =>
        simp [Except.mapError, Except.map, eq_comm]
  · intro failure
    rw [loading]
    cases Properties.parse (decode bytes) with
    | error malformed =>
        simp [Except.mapError, Except.map, eq_comm]
    | ok properties =>
        simp [Except.mapError, Except.map]

theorem loadsAs_of_toUTF8
    {text : String} (held : files.read path = .ok text.toUTF8) :
    LoadsAs files path text := by
  have loads := loadsAs_decode held
  rwa [decode_toUTF8] at loads

/-- Files that are loaded as one text are loaded alike. -/
theorem LoadsAs.same
    {other : FileSystem} {text : String}
    (loads : LoadsAs files path text) (otherLoads : LoadsAs other path text) :
    loadProperties files path = loadProperties other path := by
  cases parsed : Properties.parse text with
  | error malformed =>
      rw [(loads.failed _).mpr ⟨malformed, parsed, rfl⟩,
        (otherLoads.failed _).mpr ⟨malformed, parsed, rfl⟩]
  | ok properties =>
      rw [(loads.loaded _).mpr ⟨properties, parsed, rfl⟩,
        (otherLoads.loaded _).mpr ⟨properties, parsed, rfl⟩]

end Loading

/-- A properties file is loaded as the text it holds. In UTF-8 that can be any text. In
ISO-8859-1 it is one that is ASCII or whose bytes are no well-formed UTF-8; the file is then
loaded as it would be in UTF-8, while any other text is taken for another one. There are no
bytes without a text, so that a file that can be read fails with a malformed escape or not at
all. -/
theorem load_reads_either_encoding
    {files : FileSystem} {path : String} {bytes : ByteArray}
    (held : files.read path = .ok bytes) :
    (∀ text : String, bytes = text.toUTF8 → LoadsAs files path text) ∧
      (∀ text : String, IsLatin1 text → bytes = toLatin1 text →
        (decode bytes = text ↔ IsAscii text ∨ ¬ bytes.IsValidUTF8) ∧
          (IsAscii text ∨ ¬ bytes.IsValidUTF8 →
            LoadsAs files path text ∧
              ∀ other : FileSystem, other.read path = .ok text.toUTF8 →
                loadProperties files path = loadProperties other path)) ∧
      ∃ text : String,
        (bytes = text.toUTF8 ∨
            (¬ bytes.IsValidUTF8 ∧ IsLatin1 text ∧ bytes = toLatin1 text)) ∧
          LoadsAs files path text ∧
            ∀ failure, loadProperties files path = .error failure →
              ∃ malformed, failure = .parse (path ++ ": " ++ malformed.message) ∧
                ∃ raw ∈ Properties.rawTexts text, Properties.FirstMalformed raw malformed := by
  refine ⟨?_, ?_, ?_⟩
  · intro text encoded
    rw [encoded] at held
    exact loadsAs_of_toUTF8 held
  · intro text latin1 encoded
    subst encoded
    have reading := decode_toLatin1_eq_iff latin1
    refine ⟨reading, ?_⟩
    intro told
    have loads := loadsAs_decode held
    rw [reading.mpr told] at loads
    exact ⟨loads, fun other otherHeld => loads.same (loadsAs_of_toUTF8 otherHeld)⟩
  · have loads := loadsAs_decode held
    refine ⟨decode bytes, decode_eq_iff.mp rfl, loads, ?_⟩
    intro failure failed
    obtain ⟨malformed, parsed, message⟩ := (loads.failed failure).mp failed
    obtain ⟨earlier, raw, later, split, -, first⟩ := Properties.parse_eq_error_iff.mp parsed
    refine ⟨malformed, message, raw, ?_, first⟩
    rw [split]
    exact List.mem_append_right earlier List.mem_cons_self

/-- A file in ISO-8859-1 whose accented letter is no UTF-8. -/
theorem load_reads_either_encoding_accented :
    let bytes := toLatin1 "name=caf\u00e9\nplain=ok\n"
    let files : FileSystem := ⟨"<cwd>", [(["a"], .file bytes)]⟩
    files.read "a" = .ok bytes ∧
      IsLatin1 "name=caf\u00e9\nplain=ok\n" ∧ ¬ bytes.IsValidUTF8 ∧
        loadProperties files "a" =
          .ok (.propertiesFile "a" (NameMap.ofList [("name", "caf\u00e9"), ("plain", "ok")])) := by
  intro bytes files
  have held : files.read "a" = .ok bytes := by rfl
  have latin1 : IsLatin1 "name=caf\u00e9\nplain=ok\n" := by decide
  have invalid : ¬ bytes.IsValidUTF8 := by decide +kernel
  have parsed : Properties.parse "name=caf\u00e9\nplain=ok\n" =
      .ok (NameMap.ofList [("name", "caf\u00e9"), ("plain", "ok")]) := by
    rfl
  obtain ⟨-, inLatin1, -⟩ := load_reads_either_encoding held
  obtain ⟨loads, -⟩ := (inLatin1 _ latin1 rfl).2 (Or.inr invalid)
  exact ⟨held, latin1, invalid, (loads.loaded _).mpr ⟨_, parsed, rfl⟩⟩

end LayeredConfig.Source
