import Mathlib.Data.List.Forall2
import SchemaMigration.Proofs.History.Comparison
import SchemaMigration.Proofs.Migration.Entries

/-!
# Folders whose changed files are rewritten

`Migration.Drifts`, `Migration.Matches` : the last record has another checksum, or the same.
`Folder.Retouched`  : a folder is as another, but for the texts of the files that were changed after they were applied.
`load_retouched`    : such a folder loads as well, and its set has the same versions.
`diff_retouched`    : the comparison differs only in the drifted migrations.
-/

namespace SchemaMigration

set_option autoImplicit false

/-! ## Vocabulary -/

/-- The version of the migration is recorded last with another checksum. -/
def Migration.Drifts (records : List Record) (m : Migration) : Prop :=
  ∃ r, IsLastRecord records m.version r ∧ m.checksum ≠ r.checksum

/-- The version of the migration is recorded last with its checksum. -/
def Migration.Matches (records : List Record) (m : Migration) : Prop :=
  ∃ r, IsLastRecord records m.version r ∧ m.checksum = r.checksum

/-- The second entry is the first; or the first is the file of a drifted version, and the second a file of the same name
with a text of its own. -/
inductive Entry.Retouched (records : List Record) (suits : Migration → Prop) : Entry → Entry → Prop
  | kept {e : Entry} (h : ∀ m, e.Has m → ¬m.Drifts records) : Retouched records suits e e
  | rewritten {e e' : Entry} {m m' : Migration} (name : e'.name = e.name) (old : e.Has m) (drifts : m.Drifts records)
      (new : e'.Has m') (suited : suits m') : Retouched records suits e e'

/-- The second folder is as the first but for the texts of the files of all drifted versions, which are such that the
migrations suit. -/
def Folder.Retouched (records : List Record) (suits : Migration → Prop) (f g : Folder) : Prop :=
  ∃ es es', f.entries = some es ∧ g.entries = some es' ∧ List.Forall₂ (Entry.Retouched records suits) es es'

/-- The second migration is the first; or the first drifts, and the second has its version and suits. -/
inductive Migration.Retouched (records : List Record) (suits : Migration → Prop) : Migration → Migration → Prop
  | kept {m : Migration} (h : ¬m.Drifts records) : Retouched records suits m m
  | rewritten {m m' : Migration} (version : m'.version = m.version) (drifts : m.Drifts records) (suited : suits m') :
      Retouched records suits m m'

section

variable {records : List Record} {suits : Migration → Prop}

theorem Migration.Retouched.version {m m' : Migration} (h : m.Retouched records suits m') : m'.version = m.version := by
  cases h with
  | kept => rfl
  | rewritten hversion => exact hversion

/-- Nothing but the drifted migrations is rewritten, and these are recorded. -/
theorem Migration.Retouched.isPending {m m' : Migration} (h : m.Retouched records suits m') :
    m'.isPending records = m.isPending records ∧ (m.isPending records = true → m' = m) := by
  cases h with
  | kept => exact ⟨rfl, fun _ => rfl⟩
  | rewritten hversion hdrifts =>
    refine ⟨by rw [Migration.isPending, hversion, ← Migration.isPending], fun hpending => ?_⟩
    obtain ⟨r, hr, -⟩ := hdrifts
    exact absurd ⟨r, hr⟩ (isPending_iff.1 hpending)

/-! ## Sets of rewritten migrations -/

/-- The migrations of one set are those of the other, rewritten. -/
abbrev MigrationSet.Retouched (records : List Record) (suits : Migration → Prop) (s t : MigrationSet) : Prop :=
  List.Forall₂ (Migration.Retouched records suits) s.toList t.toList

namespace MigrationSet

variable {s s' : MigrationSet} {m m' : Migration}

theorem map_version_of_retouched {ms ms' : List Migration}
    (h : List.Forall₂ (Migration.Retouched records suits) ms ms') :
    ms'.map (·.version) = ms.map (·.version) := by
  induction h with
  | nil => rfl
  | cons hm _ ih => rw [List.map_cons, List.map_cons, hm.version, ih]

theorem Retouched.isNone_get? (h : Retouched records suits s s') (v : Version) :
    (s'.get? v).isNone = (s.get? v).isNone := by
  rw [MigrationSet.isNone_get?, MigrationSet.isNone_get?, map_version_of_retouched h]

theorem retouched_insertSorted {ms ms' : List Migration} (hm : m.Retouched records suits m')
    (h : List.Forall₂ (Migration.Retouched records suits) ms ms') :
    List.Forall₂ (Migration.Retouched records suits) (insertSorted m ms) (insertSorted m' ms') := by
  induction h with
  | nil => exact .cons hm .nil
  | cons hx hxs ih =>
    unfold insertSorted
    rw [hm.version, hx.version]
    split
    · exact .cons hm (.cons hx hxs)
    · exact .cons hx ih

theorem Retouched.insert {t : MigrationSet} (h : Retouched records suits s s') (hm : m.Retouched records suits m')
    (ht : s.insert m = .ok t) : ∃ t', s'.insert m' = .ok t' ∧ Retouched records suits t t' := by
  obtain ⟨hfree, hlist⟩ := insert_eq_ok.1 ht
  have hfree' : (s'.get? m'.version).isNone = true := by rw [h.isNone_get?, hm.version, hfree]
  have hversion (x : Migration) (hx : x ∈ s'.toList) : x.version ≠ m'.version := by
    simpa using List.find?_eq_none.1 (Option.isNone_iff_eq_none.1 hfree') x hx
  refine ⟨⟨insertSorted m' s'.toList, ascending_insertSorted s'.ascending hversion⟩, insert_eq_ok.2 ⟨hfree', rfl⟩, ?_⟩
  rw [Retouched, hlist]
  exact retouched_insertSorted hm h

end MigrationSet

/-! ## Folders that load -/

/-- The version is in the name of the file. -/
theorem Entry.Has.version {e e' : Entry} {m m' : Migration} (h : e.Has m) (h' : e'.Has m') (hname : e'.name = e.name) :
    m'.version = m.version := by
  have hspells := (Entry.has_iff_fileOf.1 h).spells
  have hspells' := (Entry.has_iff_fileOf.1 h').spells
  rw [hname, hspells] at hspells'
  exact (Prod.mk.inj (Except.ok.inj hspells')).1.symm

namespace MigrationSet

variable {s s' t : MigrationSet}

theorem Retouched.addEntry {e e' : Entry} (h : Retouched records suits s s') (he : e.Retouched records suits e')
    (ht : s.addEntry e = .ok t) : ∃ t', s'.addEntry e' = .ok t' ∧ Retouched records suits t t' := by
  cases he with
  | kept hkept =>
    obtain ⟨m, hm, hinsert⟩ | ⟨hfile, rfl⟩ := addEntry_eq_ok ht
    · rw [addEntry_of_has hm]
      exact h.insert (.kept (hkept m hm)) hinsert
    · refine ⟨s', ?_, h⟩
      simp only [MigrationSet.addEntry, hfile]
  | rewritten hname hold hdrifts hnew hsuited =>
    obtain ⟨m, hm, hinsert⟩ | ⟨hfile, rfl⟩ := addEntry_eq_ok ht
    · obtain rfl := hold.unique hm
      rw [addEntry_of_has hnew]
      exact h.insert (.rewritten (hold.version hnew hname) hdrifts hsuited) hinsert
    · obtain ⟨bytes, hbytes, -⟩ := hold
      simp [hfile] at hbytes

theorem Retouched.foldlM_addEntry {es es' : List Entry} (h : Retouched records suits s s')
    (hes : List.Forall₂ (Entry.Retouched records suits) es es') (ht : es.foldlM MigrationSet.addEntry s = .ok t) :
    ∃ t', es'.foldlM MigrationSet.addEntry s' = .ok t' ∧ Retouched records suits t t' := by
  induction hes generalizing s s' with
  | nil =>
    obtain rfl := Except.ok.inj ht
    exact ⟨s', rfl, h⟩
  | @cons e e' es es' he _ ih =>
    rw [List.foldlM_cons] at ht
    cases hadd : s.addEntry e with
    | error f => simp [hadd, bind, Except.bind] at ht
    | ok u =>
      rw [hadd] at ht
      obtain ⟨u', hadd', hu⟩ := h.addEntry he hadd
      rw [List.foldlM_cons, hadd']
      exact ih hu ht

/-- A folder loads if it does with other texts for its drifted versions. -/
theorem load_retouched {f g : Folder} {set : MigrationSet} (h : f.Retouched records suits g)
    (hload : load f = .ok set) : ∃ set', load g = .ok set' ∧ Retouched records suits set set' := by
  obtain ⟨es, es', hf, hg, hes⟩ := h
  simp only [load, hf] at hload
  simp only [load, hg]
  have hempty : Retouched records suits empty empty := .nil
  exact hempty.foldlM_addEntry hes hload

end MigrationSet

/-! ## The comparison -/

variable {set set' : MigrationSet}

theorem filter_isPending_retouched {ms ms' : List Migration}
    (h : List.Forall₂ (Migration.Retouched records suits) ms ms') :
    ms'.filter (·.isPending records) = ms.filter (·.isPending records) := by
  induction h with
  | nil => rfl
  | @cons m m' ms ms' hm _ ih =>
    obtain ⟨hsame, hkept⟩ := hm.isPending
    cases hpending : m.isPending records with
    | true =>
      obtain rfl := hkept hpending
      rw [List.filter_cons_of_pos hpending, List.filter_cons_of_pos hpending, ih]
    | false => rw [List.filter_cons_of_neg (by simp [hsame, hpending]), List.filter_cons_of_neg (by simp [hpending]), ih]

/-- The texts of drifted versions are not seen, but for whether they drift. -/
theorem diff_retouched (h : MigrationSet.Retouched records suits set set') :
    Diff.of set' records = { Diff.of set records with drifted := (Diff.of set' records).drifted } := by
  have hpending : (Diff.of set' records).pending = (Diff.of set records).pending := filter_isPending_retouched h
  have hskipped : (Diff.of set' records).skipped = (Diff.of set records).skipped := by
    have hlength : set'.size = set.size := h.length_eq.symm
    have hold := length_pending_add_skipped set records
    have hnew := length_pending_add_skipped set' records
    rw [hpending] at hnew
    omega
  have hmissing : (Diff.of set' records).missing = (Diff.of set records).missing := by
    simp only [Diff.of, h.isNone_get?]
  have houtOfOrder : (Diff.of set' records).outOfOrder = (Diff.of set records).outOfOrder := by
    change ((Diff.of set' records).pending.map (·.version)).filter (isOutOfOrder records) = _
    rw [hpending]
    rfl
  generalize Diff.of set records = d at *
  generalize Diff.of set' records = d' at *
  cases d
  cases d'
  simp_all

/-- A migration whose checksum is restored does not drift. -/
theorem Migration.Retouched.not_isDrifted {m m' : Migration} (h : m.Retouched records (Migration.Matches records) m') :
    m'.isDrifted records = false := by
  rw [← Bool.not_eq_true, isDrifted_iff]
  rintro ⟨r, hlast, hne⟩
  cases h with
  | kept hkept => exact hkept ⟨r, hlast, hne⟩
  | rewritten _ _ hmatches =>
    obtain ⟨x, hx, hsame⟩ := hmatches
    obtain rfl : r = x := Option.some.inj ((lastRecord?_iff.2 hlast).symm.trans (lastRecord?_iff.2 hx))
    exact hne hsame

theorem filter_isDrifted_retouched {ms ms' : List Migration}
    (h : List.Forall₂ (Migration.Retouched records (Migration.Matches records)) ms ms') :
    ms'.filter (·.isDrifted records) = [] := by
  induction h with
  | nil => rfl
  | cons hm _ ih => rw [List.filter_cons_of_neg (by simp [hm.not_isDrifted]), ih]

end

end SchemaMigration
