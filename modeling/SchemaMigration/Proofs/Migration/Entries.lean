import SchemaMigration.Proofs.Migration.Load

/-!
# Entries that are migration files

* `Entry.FileOf e m` : the entry is the file of the migration;
* `Entry.Readable e`, `Entry.Refused e f` : a migration can be read of the entry, or none can for a fault of its own;
* `Entry.has_iff_fileOf`, `Entry.refused_iff` : what reading the entry gives, and when it fails.
-/

namespace SchemaMigration

set_option autoImplicit false

/-- A regular file whose name ends in `.sql`. -/
def Entry.isMigrationFile (e : Entry) : Bool := e.content.isSome && ".sql".toList.isSuffixOf e.name.toList

/-- The entry is the file of the migration: its name spells version and name, and its bytes are the SQL. -/
structure Entry.FileOf (e : Entry) (m : Migration) : Prop where
  file : e.isMigrationFile = true
  fileName : m.fileName = e.name
  spells : Migration.parseFileName e.name = .ok (m.version, m.name)
  text : e.content = some m.sql.toUTF8
  checksum : m.checksum = Digest.hexDigest m.sql.toUTF8.toList

/-- The name of the entry spells a version and a name, and its bytes are a text. -/
structure Entry.Readable (e : Entry) : Prop where
  named : ∃ parsed, Migration.parseFileName e.name = .ok parsed
  text : ∃ text : String, e.content = some text.toUTF8

/-- The entry is a migration file, and its name spells nothing or its bytes are no text. -/
inductive Entry.Refused (e : Entry) : Fault → Prop
  | name {f : Fault} (file : e.isMigrationFile = true) (misspelt : Migration.parseFileName e.name = .error f) : Refused e f
  | text {parsed : Version × String} (file : e.isMigrationFile = true)
      (spells : Migration.parseFileName e.name = .ok parsed) (noText : ∀ text : String, e.content ≠ some text.toUTF8) :
      Refused e notText

/-- The version in the name of a migration file. -/
def Entry.version? (e : Entry) : Option Version :=
  if e.isMigrationFile then (Migration.parseFileName e.name).toOption.map (·.1) else none

/-! ## What is read of an entry -/

theorem fromUTF8?_eq_some {bytes : ByteArray} {text : String} :
    String.fromUTF8? bytes = some text ↔ text.toUTF8 = bytes := by
  unfold String.fromUTF8?
  constructor
  · intro h
    split at h
    · cases h
      rfl
    · cases h
  · rintro rfl
    rw [String.toUTF8_eq_toByteArray, dif_pos text.isValidUTF8]
    rfl

theorem readText_eq_ok {bytes : ByteArray} {text : String} : readText bytes = .ok text ↔ text.toUTF8 = bytes := by
  rw [← fromUTF8?_eq_some]
  unfold readText
  cases String.fromUTF8? bytes <;> simp

theorem readText_eq_error {bytes : ByteArray} {f : Fault} :
    readText bytes = .error f ↔ f = notText ∧ ∀ text : String, text.toUTF8 ≠ bytes := by
  simp only [← readText_eq_ok, ne_eq]
  unfold readText
  cases String.fromUTF8? bytes <;> simp [eq_comm]

/-- A migration is read of a file if the name spells its version and name and the bytes are its SQL. -/
theorem Migration.ofFile_eq_ok {name : String} {bytes : ByteArray} {m : Migration} :
    Migration.ofFile name bytes = .ok m ↔
      parseFileName name = .ok (m.version, m.name) ∧ m.fileName = name ∧ m.sql.toUTF8 = bytes := by
  rw [← readText_eq_ok]
  unfold Migration.ofFile
  constructor
  · intro h
    cases hspells : parseFileName name with
    | error f =>
      rw [hspells] at h
      cases h
    | ok parsed =>
      cases htext : readText bytes with
      | error f =>
        rw [hspells, htext] at h
        cases h
      | ok text =>
        rw [hspells, htext] at h
        cases h
        exact ⟨rfl, rfl, rfl⟩
  · rintro ⟨hspells, hname, htext⟩
    rw [hspells, htext, ← hname]
    rfl

theorem Migration.ofFile_eq_error {name : String} {bytes : ByteArray} {f : Fault} :
    Migration.ofFile name bytes = .error f ↔ parseFileName name = .error f ∨
      (∃ parsed, parseFileName name = .ok parsed) ∧ f = notText ∧ ∀ text : String, text.toUTF8 ≠ bytes := by
  rw [← readText_eq_error]
  unfold Migration.ofFile
  cases parseFileName name with
  | error g =>
    show Except.error g = _ ↔ _
    simp
  | ok parsed =>
    cases readText bytes with
    | error g =>
      show Except.error g = _ ↔ _
      simp
    | ok text =>
      show Except.ok _ = _ ↔ _
      simp

theorem Entry.sqlFile?_eq_some {e : Entry} {bytes : ByteArray} :
    e.sqlFile? = some bytes ↔ e.isMigrationFile = true ∧ e.content = some bytes := by
  unfold sqlFile? isMigrationFile
  show (if ".sql".toList.isSuffixOf e.name.toList = true then e.content else none) = some bytes ↔ _
  cases ".sql".toList.isSuffixOf e.name.toList with
  | false => simp
  | true =>
    rw [if_pos rfl, Bool.and_true]
    constructor
    · intro hbytes
      exact ⟨by rw [hbytes]; rfl, hbytes⟩
    · exact fun hbytes => hbytes.2

theorem Entry.sqlFile?_eq_none {e : Entry} : e.sqlFile? = none ↔ e.isMigrationFile = false := by
  unfold sqlFile? isMigrationFile
  show (if ".sql".toList.isSuffixOf e.name.toList = true then e.content else none) = none ↔ _
  cases ".sql".toList.isSuffixOf e.name.toList with
  | false => simp
  | true => rw [if_pos rfl, Bool.and_true, Option.isSome_eq_false_iff, Option.isNone_iff_eq_none]

/-- A migration is read of its file. -/
theorem Entry.has_iff_fileOf {e : Entry} {m : Migration} : e.Has m ↔ e.FileOf m := by
  unfold Entry.Has
  simp only [sqlFile?_eq_some, Migration.ofFile_eq_ok]
  constructor
  · rintro ⟨bytes, ⟨hfile, hcontent⟩, hspells, hname, rfl⟩
    exact ⟨hfile, hname, hspells, hcontent, rfl⟩
  · intro h
    exact ⟨m.sql.toUTF8, ⟨h.file, h.text⟩, h.spells, h.fileName, rfl⟩

theorem Entry.exists_has_iff {e : Entry} (h : e.isMigrationFile = true) : (∃ m, e.Has m) ↔ e.Readable := by
  constructor
  · rintro ⟨m, hm⟩
    have hfile := has_iff_fileOf.1 hm
    exact ⟨⟨_, hfile.spells⟩, ⟨m.sql, hfile.text⟩⟩
  · rintro ⟨⟨parsed, hspells⟩, ⟨text, htext⟩⟩
    exact ⟨⟨parsed.1, parsed.2, e.name, text⟩, has_iff_fileOf.2 ⟨h, rfl, hspells, htext, rfl⟩⟩

theorem Entry.Has.isMigrationFile {e : Entry} {m : Migration} (h : e.Has m) : e.isMigrationFile = true :=
  (has_iff_fileOf.1 h).file

theorem Entry.Has.version? {e : Entry} {m : Migration} (h : e.Has m) : e.version? = some m.version := by
  have hfile := has_iff_fileOf.1 h
  rw [Entry.version?, if_pos hfile.file, hfile.spells]
  rfl

theorem Entry.Refused.file {e : Entry} {f : Fault} (h : e.Refused f) : e.isMigrationFile = true := by
  cases h <;> assumption

theorem Entry.refused_iff {e : Entry} {f : Fault} :
    e.Refused f ↔ ∃ bytes, e.sqlFile? = some bytes ∧ Migration.ofFile e.name bytes = .error f := by
  simp only [sqlFile?_eq_some, Migration.ofFile_eq_error]
  constructor
  · intro h
    have hfile : e.isMigrationFile = true := h.file
    rcases Option.isSome_iff_exists.1 (Bool.and_eq_true_iff.1 hfile).1 with ⟨bytes, hbytes⟩
    refine ⟨bytes, ⟨hfile, hbytes⟩, ?_⟩
    cases h with
    | name _ misspelt => exact .inl misspelt
    | text _ spells noText =>
      refine .inr ⟨⟨_, spells⟩, rfl, fun text h => noText text ?_⟩
      rw [hbytes, h]
  · rintro ⟨bytes, ⟨hfile, hbytes⟩, hmisspelt | ⟨⟨parsed, hspells⟩, rfl, hnone⟩⟩
    · exact .name hfile hmisspelt
    · refine .text hfile hspells fun text h => hnone text ?_
      rw [hbytes] at h
      exact (Option.some.inj h).symm

theorem Entry.Refused.not_readable {e : Entry} {f : Fault} (h : e.Refused f) : ¬e.Readable := by
  rintro ⟨⟨parsed, hparsed⟩, ⟨text, htext⟩⟩
  cases h with
  | name _ misspelt =>
    rw [hparsed] at misspelt
    cases misspelt
  | text _ _ noText => exact noText text htext

end SchemaMigration
