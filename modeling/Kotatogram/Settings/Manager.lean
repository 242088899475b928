/-
# Settings.Manager — the two settings files of `KotatoSettings::Manager`

`fill()` runs at start: it writes the default file unless `DefaultFileIsValid()` accepts the
one there, and copies the bundled custom file unless `readCustomFile()` finds one.
`writeCurrentSettings()` writes the custom file from the current font settings. The files
are modelled by the documents they hold (`Settings.Json`). A file that does not open for
writing is left as it was; which opens succeed during a start is given (`Opens`), and `fill`
records the files it wrote.

* `readCustomFile_writeCurrentSettings`: reading back a custom file the manager wrote
  restores every non-empty font name and the bold flag.
* `default_file_never_valid`: the default file stores its version as a string, which
  `toInt()` reads as 0; for every version but 0, `DefaultFileIsValid()` rejects the file
  `writeDefaultFile()` wrote, and each start writes it again when it opens.
* `fill_twice`: from any files, a second start copies the bundled custom file exactly when
  there was none and the first copy failed, and writes the default file exactly when the
  first start found it invalid and either could not write it or wrote it for a version other
  than 0; each time only if its files open.
-/
import Kotatogram.Settings.Json

namespace Kotatogram.KotatoSettings

set_option autoImplicit false

open Kotatogram.Ui (QString)

/-- The settings behind `cMainFont()`, `cSemiboldFont()`, `cSemiboldFontIsBold()` and
`cMonospaceFont()`. -/
structure FontSettings where
  mainFont : QString
  semiboldFont : QString
  semiboldFontIsBold : Bool
  monospaceFont : QString
  deriving DecidableEq, Repr

/-- A settings file as the manager finds it: absent, present but not readable, or read and
parsed by `fromJson` after `stripComments` (none: a parse error). -/
inductive SettingsFile where
  | missing
  | unreadable
  | text (document : Option JsonValue)
  deriving Repr

/-- The file `file.write(header); file.write(document.toJson(...))` leaves: the header is a
comment, which reading strips. -/
def SettingsFile.written (document : JsonObject) : SettingsFile := .text (some (.object document))

/-- `DefaultFilePath()` and `CustomFilePath()`. -/
inductive SettingsPath where
  | defaultFile
  | customFile
  deriving DecidableEq, Repr

/-- The two files under `tdata/`. -/
structure Files where
  defaultFile : SettingsFile
  customFile : SettingsFile

/-! ## The default file -/

/-- `DefaultFileIsValid()`: the file parses to an object whose `version` reads back, by
`toInt()`, as `AppKotatoVersion`. -/
def defaultFileIsValid (appKotatoVersion : Int) : SettingsFile → Bool
  | .text (some (.object settings)) =>
      match constFind (qsl "version") settings with
      | some version => version.toInt == appKotatoVersion
      | none => false
  | _ => false

/-- The document `writeDefaultFile()` writes. -/
def defaultDocument (appKotatoVersion : Int) : JsonObject :=
  let settings := insert (qsl "version") (.string (QString.number appKotatoVersion)) []
  let settingsFonts := insert (qsl "main") (.string (qsl "Open Sans")) []
  let settingsFonts := insert (qsl "semibold") (.string (qsl "Open Sans Semibold")) settingsFonts
  let settingsFonts := insert (qsl "semibold_is_bold") (.bool false) settingsFonts
  let settingsFonts := insert (qsl "monospaced") (.string (qsl "Consolas")) settingsFonts
  insert (qsl "fonts") (.object settingsFonts) settings

/-- The default file `writeDefaultFile()` leaves when the file opens for writing. -/
def writtenDefaultFile (appKotatoVersion : Int) : SettingsFile :=
  .written (defaultDocument appKotatoVersion)

/-- `writeDefaultFile()`: the files after it, and the file it wrote. When the default file
does not open for writing it returns at once. -/
def writeDefaultFile (appKotatoVersion : Int) (opens : Bool) (files : Files) :
    Files × List SettingsPath :=
  if opens then ({ files with defaultFile := writtenDefaultFile appKotatoVersion }, [.defaultFile])
  else (files, [])

/-- `DefaultFileIsValid()` accepts the file `writeDefaultFile()` leaves only for version 0: the
`version` member is a string, and `toInt()` of a string is 0. -/
theorem defaultFileIsValid_writtenDefaultFile (appKotatoVersion : Int) :
    defaultFileIsValid appKotatoVersion (writtenDefaultFile appKotatoVersion) =
      (0 == appKotatoVersion) := by
  have keys : qsl "fonts" ≠ qsl "version" := by decide
  simp [defaultFileIsValid, writtenDefaultFile, SettingsFile.written, defaultDocument,
    constFind_insert_ne _ keys, JsonValue.toInt]

/-! ## The custom file -/

/-- One `if (!value.isEmpty()) settingsFonts.insert(key, value)` of `writeCurrentSettings()`. -/
def insertNonEmpty (key : String) (value : QString) (object : JsonObject) : JsonObject :=
  if !value.isEmpty then insert (qsl key) (.string value) object else object

/-- The document `writeCurrentSettings()` writes. -/
def currentDocument (s : FontSettings) : JsonObject :=
  let settingsFonts := insertNonEmpty "main" s.mainFont []
  let settingsFonts := insertNonEmpty "semibold" s.semiboldFont settingsFonts
  let settingsFonts := insertNonEmpty "monospaced" s.monospaceFont settingsFonts
  let settingsFonts := insert (qsl "semibold_is_bold") (.bool s.semiboldFontIsBold) settingsFonts
  insert (qsl "fonts") (.object settingsFonts) []

/-- `writeCurrentSettings()`: the custom file it leaves. -/
def writeCurrentSettings (s : FontSettings) : SettingsFile := .written (currentDocument s)

/-- One font name of `readCustomFile()`: the member `key` if it is a string, else the
current name. -/
def readString (settingsFonts : JsonObject) (key : String) (current : QString) : QString :=
  match constFind (qsl key) settingsFonts with
  | some value => if value.isString then value.toString else current
  | none => current

/-- The bold flag of `readCustomFile()`: the member `semibold_is_bold` if it is a boolean. -/
def readBool (settingsFonts : JsonObject) (key : String) (current : Bool) : Bool :=
  match constFind (qsl key) settingsFonts with
  | some value => if value.isBool then value.toBool else current
  | none => current

@[simp] theorem readString_nil (key : String) (current : QString) :
    readString [] key current = current := rfl

theorem readString_insert_ne {key other : String} (ne : qsl key ≠ qsl other) (value : JsonValue)
    (object : JsonObject) (current : QString) :
    readString (insert (qsl key) value object) other current = readString object other current := by
  simp [readString, constFind_insert_ne _ ne]

theorem readString_insertNonEmpty_self (key : String) (value : QString) (object : JsonObject)
    (current : QString) :
    readString (insertNonEmpty key value object) key current =
      if value.isEmpty then readString object key current else value := by
  unfold insertNonEmpty
  cases value.isEmpty <;> simp [readString, JsonValue.isString, JsonValue.toString]

theorem readString_insertNonEmpty_ne {key other : String} (ne : qsl key ≠ qsl other)
    (value : QString) (object : JsonObject) (current : QString) :
    readString (insertNonEmpty key value object) other current = readString object other current := by
  unfold insertNonEmpty
  cases value.isEmpty <;> simp [readString_insert_ne ne]

theorem readBool_insert_self (key : String) (b : Bool) (object : JsonObject) (current : Bool) :
    readBool (insert (qsl key) (.bool b) object) key current = b := by
  simp [readBool, JsonValue.isBool, JsonValue.toBool]

/-- The `fonts` part of `readCustomFile()`. -/
def readFonts (s : FontSettings) (settingsFonts : JsonObject) : FontSettings :=
  { mainFont := readString settingsFonts "main" s.mainFont,
    semiboldFont := readString settingsFonts "semibold" s.semiboldFont,
    semiboldFontIsBold := readBool settingsFonts "semibold_is_bold" s.semiboldFontIsBold,
    monospaceFont := readString settingsFonts "monospaced" s.monospaceFont }

/-- `readCustomFile()`: whether a custom file exists, and the settings after reading it. -/
def readCustomFile (s : FontSettings) : SettingsFile → Bool × FontSettings
  | .missing => (false, s)
  | .text (some (.object settings)) =>
      if settings.isEmpty then (true, s)
      else match constFind (qsl "fonts") settings with
        | some fonts => (true, if fonts.isObject then readFonts s fonts.toObject else s)
        | none => (true, s)
  | _ => (true, s)

/-- **The custom file reads back.** Reading a custom file `writeCurrentSettings()` wrote finds
it, restores every font name that was not empty (an empty one was not written, so the
current name stays), and restores the bold flag. -/
theorem readCustomFile_writeCurrentSettings (current s : FontSettings) :
    readCustomFile current (writeCurrentSettings s) =
      (true, { mainFont := if s.mainFont.isEmpty then current.mainFont else s.mainFont,
               semiboldFont :=
                 if s.semiboldFont.isEmpty then current.semiboldFont else s.semiboldFont,
               semiboldFontIsBold := s.semiboldFontIsBold,
               monospaceFont :=
                 if s.monospaceFont.isEmpty then current.monospaceFont else s.monospaceFont }) := by
  simp (disch := decide) only [readCustomFile, writeCurrentSettings, SettingsFile.written,
    currentDocument, insert, List.isEmpty_cons, constFind, if_true, JsonValue.isObject,
    JsonValue.toObject, readFonts, readString_insert_ne, readString_insertNonEmpty_ne,
    readString_insertNonEmpty_self, readBool_insert_self, readString_nil, Bool.false_eq_true,
    if_false]

/-! ## Start -/

/-- Which opens succeed during a start: the default file for writing, the bundled resource for
reading, and the custom file for writing. A file that does not open for reading is
`SettingsFile.unreadable`. -/
structure Opens where
  defaultFile : Bool
  resource : Bool
  customFile : Bool
  deriving DecidableEq, Repr

/-- `WriteDefaultCustomFile()`: the files after it, and the file it wrote. It copies the
bundled `defaultCustom` only when the resource opens for reading and then the custom file for
writing. -/
def writeDefaultCustomFile (defaultCustom : SettingsFile) (resourceOpens customOpens : Bool)
    (files : Files) : Files × List SettingsPath :=
  if resourceOpens && customOpens then ({ files with customFile := defaultCustom }, [.customFile])
  else (files, [])

/-- `fill()`, with `defaultCustom` the bundled file `WriteDefaultCustomFile()` copies: the
settings, the files, and the files it wrote. -/
def fill (appKotatoVersion : Int) (defaultCustom : SettingsFile) (opens : Opens)
    (s : FontSettings) (files : Files) : FontSettings × Files × List SettingsPath :=
  let (files, written) :=
    if !defaultFileIsValid appKotatoVersion files.defaultFile then
      writeDefaultFile appKotatoVersion opens.defaultFile files
    else (files, [])
  let (found, s) := readCustomFile s files.customFile
  if !found then
    let (files, copied) := writeDefaultCustomFile defaultCustom opens.resource opens.customFile files
    (s, files, written ++ copied)
  else (s, files, written)

/-- `readCustomFile()` reports no custom file only when there is none. -/
theorem readCustomFile_not_found (s : FontSettings) (file : SettingsFile) :
    (readCustomFile s file).1 = false ↔ file = .missing := by
  unfold readCustomFile
  split
  · simp
  · split
    · simp
    · split <;> simp
  · next notMissing _ => simpa using fun h => notMissing h

section Fill

variable (appKotatoVersion : Int) (defaultCustom : SettingsFile) (opens : Opens) (s : FontSettings)
  (files : Files)

/-- The default file after a start: a start writes it exactly when `DefaultFileIsValid()`
rejects it and it opens; the file is then the one `writeDefaultFile()` writes, and the one
found otherwise. -/
theorem fill_defaultFile :
    (SettingsPath.defaultFile ∈ (fill appKotatoVersion defaultCustom opens s files).2.2 ↔
        defaultFileIsValid appKotatoVersion files.defaultFile = false ∧ opens.defaultFile = true) ∧
      (fill appKotatoVersion defaultCustom opens s files).2.1.defaultFile =
        if SettingsPath.defaultFile ∈ (fill appKotatoVersion defaultCustom opens s files).2.2 then
          writtenDefaultFile appKotatoVersion
        else files.defaultFile := by
  unfold fill writeDefaultFile writeDefaultCustomFile
  cases defaultFileIsValid appKotatoVersion files.defaultFile <;> cases opens.defaultFile <;>
    simp <;> split <;> simp <;> split <;> simp

/-- The custom file after a start: a start copies the bundled file exactly when there is none
and both opens succeed; the file is then the bundled copy, and the one found otherwise. -/
theorem fill_customFile :
    (SettingsPath.customFile ∈ (fill appKotatoVersion defaultCustom opens s files).2.2 ↔
        files.customFile = .missing ∧ opens.resource = true ∧ opens.customFile = true) ∧
      (fill appKotatoVersion defaultCustom opens s files).2.1.customFile =
        if SettingsPath.customFile ∈ (fill appKotatoVersion defaultCustom opens s files).2.2 then
          defaultCustom
        else files.customFile := by
  unfold fill writeDefaultFile writeDefaultCustomFile
  have found := readCustomFile_not_found s files.customFile
  cases defaultFileIsValid appKotatoVersion files.defaultFile <;> cases opens.defaultFile <;>
    simp <;> split <;> simp_all <;> split <;> simp_all

end Fill

/-- `DefaultFileIsValid()` rejects the file `writeDefaultFile()` wrote for every version but
0, so each start tries to write the default file again, writes it whenever it opens, and
leaves the same file. -/
theorem default_file_never_valid (appKotatoVersion : Int) (nonzero : appKotatoVersion ≠ 0) :
    defaultFileIsValid appKotatoVersion (writtenDefaultFile appKotatoVersion) = false ∧
      ∀ defaultCustom opens s files, files.defaultFile = writtenDefaultFile appKotatoVersion →
        (SettingsPath.defaultFile ∈ (fill appKotatoVersion defaultCustom opens s files).2.2 ↔
          opens.defaultFile = true) ∧
        (fill appKotatoVersion defaultCustom opens s files).2.1.defaultFile =
          writtenDefaultFile appKotatoVersion := by
  have invalid : defaultFileIsValid appKotatoVersion (writtenDefaultFile appKotatoVersion) = false := by
    rw [defaultFileIsValid_writtenDefaultFile]
    simpa using Ne.symm nonzero
  refine ⟨invalid, fun defaultCustom opens s files written => ?_⟩
  obtain ⟨wrote, file⟩ := fill_defaultFile appKotatoVersion defaultCustom opens s files
  rw [written, invalid] at wrote
  rw [file, written, ite_self]
  exact ⟨⟨fun mem => (wrote.mp mem).2, fun opened => wrote.mpr ⟨rfl, opened⟩⟩, rfl⟩

theorem default_file_never_valid_one :
    (1 : Int) ≠ 0 ∧ defaultFileIsValid 1 (writtenDefaultFile 1) = false :=
  ⟨by decide, (default_file_never_valid 1 (by decide)).1⟩

/-- **Two starts.** From any files, and with a bundled custom file, a second start copies the
bundled file exactly when there was no custom file and the first start did not copy it, and
writes the default file exactly when the first start found it invalid and either did not
write it or wrote it for a version other than 0; each only when its files open. -/
theorem fill_twice (appKotatoVersion : Int) (defaultCustom : SettingsFile) (s : FontSettings)
    (files : Files) (opens₁ opens₂ : Opens) (bundled : defaultCustom ≠ .missing)
    {first : FontSettings × Files × List SettingsPath}
    (started : fill appKotatoVersion defaultCustom opens₁ s files = first) :
    (SettingsPath.customFile ∈ (fill appKotatoVersion defaultCustom opens₂ first.1 first.2.1).2.2 ↔
        files.customFile = .missing ∧ SettingsPath.customFile ∉ first.2.2 ∧
        opens₂.resource = true ∧ opens₂.customFile = true) ∧
      (SettingsPath.defaultFile ∈ (fill appKotatoVersion defaultCustom opens₂ first.1 first.2.1).2.2 ↔
        defaultFileIsValid appKotatoVersion files.defaultFile = false ∧
        (SettingsPath.defaultFile ∉ first.2.2 ∨ appKotatoVersion ≠ 0) ∧ opens₂.defaultFile = true) := by
  subst started
  obtain ⟨copied₁, custom₁⟩ := fill_customFile appKotatoVersion defaultCustom opens₁ s files
  obtain ⟨written₁, default₁⟩ := fill_defaultFile appKotatoVersion defaultCustom opens₁ s files
  constructor
  · rw [(fill_customFile appKotatoVersion defaultCustom opens₂ _ _).1, custom₁]
    by_cases copied : SettingsPath.customFile ∈ (fill appKotatoVersion defaultCustom opens₁ s files).2.2
    · rw [if_pos copied]
      exact ⟨fun h => absurd h.1 bundled, fun h => absurd copied h.2.1⟩
    · rw [if_neg copied]
      exact ⟨fun ⟨missing, o⟩ => ⟨missing, copied, o⟩, fun ⟨missing, _, o⟩ => ⟨missing, o⟩⟩
  · rw [(fill_defaultFile appKotatoVersion defaultCustom opens₂ _ _).1, default₁]
    by_cases wrote : SettingsPath.defaultFile ∈ (fill appKotatoVersion defaultCustom opens₁ s files).2.2
    · rw [if_pos wrote, defaultFileIsValid_writtenDefaultFile, (written₁.mp wrote).1,
        beq_eq_false_iff_ne, ne_comm]
      exact ⟨fun ⟨ne, o⟩ => ⟨rfl, .inr ne, o⟩, fun ⟨_, ne, o⟩ => ⟨ne.resolve_left (· wrote), o⟩⟩
    · rw [if_neg wrote]
      exact ⟨fun ⟨invalid, o⟩ => ⟨invalid, .inl wrote, o⟩, fun ⟨invalid, _, o⟩ => ⟨invalid, o⟩⟩

/-- A first start whose copy fails, with no files: the second start copies the bundled file. -/
theorem fill_twice_after_failed_copy :
    SettingsFile.written [] ≠ .missing ∧
      SettingsPath.customFile ∈ (fill 1 (.written []) ⟨true, true, true⟩
        (fill 1 (.written []) ⟨true, true, false⟩ ⟨[], [], false, []⟩ ⟨.missing, .missing⟩).1
        (fill 1 (.written []) ⟨true, true, false⟩ ⟨[], [], false, []⟩ ⟨.missing, .missing⟩).2.1).2.2 :=
  ⟨nofun, (fill_twice 1 (.written []) ⟨[], [], false, []⟩ ⟨.missing, .missing⟩ ⟨true, true, false⟩
    ⟨true, true, true⟩ nofun rfl).1.mpr ⟨rfl, by decide, rfl, rfl⟩⟩

end Kotatogram.KotatoSettings
