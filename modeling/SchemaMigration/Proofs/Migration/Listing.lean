import Mathlib.Data.List.Forall2
import Mathlib.Data.List.Perm.Basic
import Mathlib.Data.List.Permutation
import SchemaMigration.Proofs.Migration.Entries
import SchemaMigration.Proofs.Migration.Sets

/-!
# Listings of folders

* `OneClash es v lo hi` : of all files of the listing just `lo` and `hi` share a version, which is `v`;
* `ofEntries_eq_ok_iff` : what a listing loads to;
* `foldlM_addEntry_eq_error_iff` : for which entry a listing is refused;
* `load_listing` : all that loading does with a listing, in whatever order it is read.

Loading stops at the first entry that cannot be added. So a shared version is found where its second file is read, if no
file before it is refused by itself.
-/

namespace SchemaMigration

set_option autoImplicit false

/-! ## Versions of the files -/

/-- The names of the files of a version, in the order they are read. -/
def namesOf (es : List Entry) (v : Version) : List String := (es.filter (·.version? == some v)).map (·.name)

/-- Two files have the version `v`, their names in order are `lo` and `hi`, and no two files share another version. -/
structure OneClash (es : List Entry) (v : Version) (lo hi : String) : Prop where
  two : (namesOf es v).Perm [lo, hi]
  ordered : lo ≤ hi
  others (w : Version) (h : w ≠ v) : (namesOf es w).length ≤ 1

variable {es : List Entry} {ms : List Migration}

theorem exists_forall₂_has {fs : List Entry} : (∃ ms, List.Forall₂ Entry.Has fs ms) ↔ ∀ e ∈ fs, ∃ m, e.Has m := by
  induction fs with
  | nil => exact ⟨fun _ _ h => (List.not_mem_nil h).elim, fun _ => ⟨[], .nil⟩⟩
  | cons e fs ih =>
    rw [List.forall_mem_cons, ← ih]
    constructor
    · rintro ⟨_, h⟩
      cases h with
      | cons hm hms => exact ⟨⟨_, hm⟩, ⟨_, hms⟩⟩
    · rintro ⟨⟨m, hm⟩, ⟨ms, hms⟩⟩
      exact ⟨m :: ms, .cons hm hms⟩

theorem filterMap_version?_filter (es : List Entry) :
    (es.filter Entry.isMigrationFile).filterMap Entry.version? = es.filterMap Entry.version? := by
  rw [List.filterMap_filter]
  refine List.filterMap_congr fun e _ => ?_
  unfold Entry.version?
  cases e.isMigrationFile <;> rfl

/-- The migrations of the files have the versions in the names. -/
theorem map_version_of_forall₂ (h : List.Forall₂ Entry.Has (es.filter Entry.isMigrationFile) ms) :
    ms.map (·.version) = es.filterMap Entry.version? := by
  rw [← filterMap_version?_filter]
  generalize es.filter Entry.isMigrationFile = fs at h
  induction h with
  | nil => rfl
  | cons hm _ ih => rw [List.filterMap_cons, hm.version?, List.map_cons, ih]

theorem length_namesOf (es : List Entry) (v : Version) :
    (namesOf es v).length = (es.filterMap Entry.version?).count v := by
  rw [namesOf, List.length_map, ← List.countP_eq_length_filter, List.count, List.countP_filterMap]
  refine List.countP_congr fun e _ => ?_
  cases e.version? <;> simp

theorem namesOf_append (xs ys : List Entry) (v : Version) : namesOf (xs ++ ys) v = namesOf xs v ++ namesOf ys v := by
  rw [namesOf, List.filter_append, List.map_append]
  rfl

theorem pair_sublist_namesOf {ps : List Entry} {d e : Entry} {v : Version} (hd : d ∈ ps) (hdv : d.version? = some v)
    (hev : e.version? = some v) (qs : List Entry) : [d.name, e.name].Sublist (namesOf (ps ++ e :: qs) v) := by
  have hfirst : [d].Sublist ps := List.singleton_sublist.2 hd
  have hpair : [d, e].Sublist (ps ++ e :: qs) := hfirst.append ((List.nil_sublist qs).cons_cons e)
  have hsame : [d, e].filter (·.version? == some v) = [d, e] := by simp [hdv, hev]
  have hnames := (hpair.filter (·.version? == some v)).map (·.name)
  rwa [hsame] at hnames

theorem oneClash_of_nodup {v : Version} {lo hi : String} (two : (namesOf es v).Perm [lo, hi]) (ordered : lo ≤ hi)
    (others : ((es.filterMap Entry.version?).filter (· != v)).Nodup) : OneClash es v lo hi where
  two := two
  ordered := ordered
  others w hw := by
    have hcount := List.nodup_iff_count_le_one.1 others w
    rw [List.count_filter (by simpa using hw)] at hcount
    rwa [length_namesOf]

namespace MigrationSet

variable {s t : MigrationSet} {m : Migration}

/-! ## Listings that load -/

/-- The set that an entry was added to has its migration as well, or the entry is no migration file. -/
theorem addEntry_eq_ok_iff {e : Entry} : s.addEntry e = .ok t ↔
    (∃ m, e.Has m ∧ t.toList.Perm (m :: s.toList)) ∨ e.isMigrationFile = false ∧ t = s := by
  constructor
  · intro h
    rcases addEntry_eq_ok h with ⟨m, hm, hinsert⟩ | ⟨hfile, rfl⟩
    · exact .inl ⟨m, hm, insert_eq_ok_iff.1 hinsert⟩
    · exact .inr ⟨Entry.sqlFile?_eq_none.1 hfile, rfl⟩
  · rintro (⟨m, hm, hperm⟩ | ⟨hfile, rfl⟩)
    · rw [addEntry_of_has hm]
      exact insert_eq_ok_iff.2 hperm
    · unfold addEntry
      rw [Entry.sqlFile?_eq_none.2 hfile]

theorem foldlM_cons_eq_ok_iff {e : Entry} {es : List Entry} :
    (e :: es).foldlM addEntry s = .ok t ↔ ∃ u, s.addEntry e = .ok u ∧ es.foldlM addEntry u = .ok t := by
  rw [List.foldlM_cons]
  cases s.addEntry e with
  | error f =>
    constructor
    · intro h
      cases h
    · rintro ⟨u, hu, -⟩
      cases hu
  | ok u =>
    constructor
    · exact fun h => ⟨u, rfl, h⟩
    · rintro ⟨_, ⟨rfl⟩, h⟩
      exact h

/-- The set that a listing was added to has the migrations of the files as well. -/
theorem foldlM_addEntry_eq_ok_iff {es : List Entry} : es.foldlM addEntry s = .ok t ↔
    ∃ ms, List.Forall₂ Entry.Has (es.filter Entry.isMigrationFile) ms ∧ t.toList.Perm (ms ++ s.toList) := by
  induction es generalizing s with
  | nil =>
    constructor
    · rintro ⟨rfl⟩
      exact ⟨[], .nil, .refl _⟩
    · rintro ⟨_, ⟨⟩, hperm⟩
      exact congrArg Except.ok (eq_of_perm hperm.symm)
  | cons e es ih =>
    simp only [foldlM_cons_eq_ok_iff, addEntry_eq_ok_iff, ih]
    constructor
    · rintro ⟨u, ⟨m, hm, hu⟩ | ⟨hfile, rfl⟩, ms, hms, hperm⟩
      · rw [List.filter_cons_of_pos hm.isMigrationFile]
        exact ⟨m :: ms, .cons hm hms, hperm.trans ((hu.append_left ms).trans List.perm_middle)⟩
      · rw [List.filter_cons_of_neg (by simp [hfile])]
        exact ⟨ms, hms, hperm⟩
    · rintro ⟨ms, hms, hperm⟩
      cases hfile : e.isMigrationFile with
      | false =>
        rw [List.filter_cons_of_neg (by simp [hfile])] at hms
        exact ⟨s, .inr ⟨rfl, rfl⟩, ms, hms, hperm⟩
      | true =>
        rw [List.filter_cons_of_pos hfile] at hms
        rcases hms with _ | @⟨_, m, _, ms, hm, hms⟩
        -- no version comes twice in the last set, so none does in the one with just this migration more
        have hnodup : ((m :: (ms ++ s.toList)).map (·.version)).Nodup := (hperm.map _).nodup_iff.1 t.ascending.nodup
        have hsub : (m :: s.toList).Sublist (m :: (ms ++ s.toList)) := (List.sublist_append_right ms _).cons_cons m
        rcases exists_perm_iff.2 ((hsub.map _).nodup hnodup) with ⟨u, hu⟩
        exact ⟨u, .inl ⟨m, hm, hu⟩, ms, hms, hperm.trans (((hu.append_left ms).trans List.perm_middle).symm)⟩

/-- The set of a listing has the migrations of its files. -/
theorem ofEntries_eq_ok_iff : ofEntries es = .ok s ↔
    ∃ ms, List.Forall₂ Entry.Has (es.filter Entry.isMigrationFile) ms ∧ s.toList.Perm ms := by
  unfold ofEntries
  simp only [foldlM_addEntry_eq_ok_iff, empty, List.append_nil]

/-- A listing loads if its files can be read and no two of them share a version. -/
theorem exists_ofEntries_eq_ok_iff : (∃ s, ofEntries es = .ok s) ↔
    (∀ e ∈ es, e.isMigrationFile = true → e.Readable) ∧ (es.filterMap Entry.version?).Nodup := by
  have hreadable : (∀ e ∈ es, e.isMigrationFile = true → e.Readable) ↔
      ∃ ms, List.Forall₂ Entry.Has (es.filter Entry.isMigrationFile) ms := by
    rw [exists_forall₂_has]
    constructor
    · intro h e he
      rcases List.mem_filter.1 he with ⟨hmem, hfile⟩
      exact (Entry.exists_has_iff hfile).2 (h e hmem hfile)
    · intro h e hmem hfile
      exact (Entry.exists_has_iff hfile).1 (h e (List.mem_filter.2 ⟨hmem, hfile⟩))
  simp only [ofEntries_eq_ok_iff]
  rw [hreadable]
  constructor
  · rintro ⟨s, ms, hms, hperm⟩
    rw [← map_version_of_forall₂ hms]
    exact ⟨⟨ms, hms⟩, exists_perm_iff.1 ⟨s, hperm⟩⟩
  · rintro ⟨⟨ms, hms⟩, hnodup⟩
    rw [← map_version_of_forall₂ hms] at hnodup
    rcases exists_perm_iff.2 hnodup with ⟨s, hperm⟩
    exact ⟨s, ms, hms, hperm⟩

/-- Neither the order of the files nor any other entry matters to what a listing loads to. -/
theorem ofEntries_of_perm {es' : List Entry}
    (h : (es'.filter Entry.isMigrationFile).Perm (es.filter Entry.isMigrationFile)) (hs : ofEntries es = .ok s) :
    ofEntries es' = .ok s := by
  rcases ofEntries_eq_ok_iff.1 hs with ⟨ms, hms, hperm⟩
  rcases List.perm_comp_forall₂ h hms with ⟨ms', hms', hsame⟩
  exact ofEntries_eq_ok_iff.2 ⟨ms', hms', hperm.trans hsame.symm⟩

/-! ## Listings that are refused -/

/-- An entry is refused for a migration that has its version, or by itself. -/
theorem addEntry_eq_error_iff {e : Entry} {f : Fault} : s.addEntry e = .error f ↔
    (∃ m, e.Has m ∧ ∃ x ∈ s.toList, x.version = m.version ∧ f = clash x m) ∨ e.Refused f := by
  rw [Entry.refused_iff]
  by_cases hhas : ∃ m, e.Has m
  · rcases hhas with ⟨m, hm⟩
    rw [addEntry_of_has hm, insert_eq_error_iff]
    constructor
    · exact fun h => .inl ⟨m, hm, h⟩
    · rintro (⟨m', hm', h⟩ | ⟨bytes, hfile, hrefused⟩)
      · rwa [hm.unique hm'] at h
      · rcases hm with ⟨bytes', hfile', hread⟩
        rw [hfile] at hfile'
        cases hfile'
        rw [hrefused] at hread
        cases hread
  · unfold addEntry
    cases hfile : e.sqlFile? with
    | none =>
      constructor
      · intro h
        cases h
      · rintro (⟨m, hm, -⟩ | ⟨_, ⟨⟩, -⟩)
        exact absurd ⟨m, hm⟩ hhas
    | some bytes =>
      cases hread : Migration.ofFile e.name bytes with
      | ok m => exact absurd ⟨m, bytes, hfile, hread⟩ hhas
      | error g =>
        show (Migration.ofFile e.name bytes >>= s.insert) = Except.error f ↔ _
        rw [hread]
        constructor
        · rintro ⟨rfl⟩
          exact .inr ⟨bytes, rfl, hread⟩
        · rintro (⟨m, hm, -⟩ | ⟨_, ⟨rfl⟩, hrefused⟩)
          · exact absurd ⟨m, hm⟩ hhas
          · rw [hread] at hrefused
            cases hrefused
            rfl

/-- A listing is refused for the first entry that cannot be added. -/
theorem foldlM_addEntry_eq_error_iff {es : List Entry} {f : Fault} : es.foldlM addEntry s = .error f ↔
    ∃ xs e zs, es = xs ++ e :: zs ∧ ∃ u, xs.foldlM addEntry s = .ok u ∧ u.addEntry e = .error f := by
  induction es generalizing s with
  | nil =>
    constructor
    · intro h
      cases h
    · rintro ⟨xs, e, zs, h, -⟩
      exact absurd h.symm (List.append_ne_nil_of_right_ne_nil xs (List.cons_ne_nil e zs))
  | cons x es ih =>
    rw [List.foldlM_cons]
    constructor
    · intro h
      cases hx : s.addEntry x with
      | error g =>
        rw [hx] at h
        exact ⟨[], x, es, rfl, s, rfl, hx.trans h⟩
      | ok u =>
        rw [hx] at h
        rcases ih.1 h with ⟨xs, e, zs, rfl, w, hw, he⟩
        exact ⟨x :: xs, e, zs, rfl, w, foldlM_cons_eq_ok_iff.2 ⟨u, hx, hw⟩, he⟩
    · rintro ⟨xs, e, zs, hes, w, hw, he⟩
      cases xs with
      | nil =>
        cases hes
        cases hw
        rw [he]
        rfl
      | cons y xs =>
        cases hes
        rcases foldlM_cons_eq_ok_iff.1 hw with ⟨u, hu, hw⟩
        rw [hu]
        exact ih.2 ⟨xs, e, zs, rfl, w, hw, he⟩

theorem clash_eq {x m : Migration} {lo hi : String} (h : [x.fileName, m.fileName].Perm [lo, hi]) (ordered : lo ≤ hi) :
    clash x m = .duplicateVersion x.version lo hi := by
  have hpair : x.fileName = lo ∧ m.fileName = hi ∨ x.fileName = hi ∧ m.fileName = lo := by
    simpa using List.perm_pair.1 h
  unfold clash
  rcases hpair with ⟨hx, hm⟩ | ⟨hx, hm⟩
  · rw [hx, hm]
    split
    · rfl
    · next hlt => rw [String.le_antisymm ordered (String.not_lt.1 hlt)]
  · rw [hx, hm, if_neg (String.not_lt.2 ordered)]

theorem mem_ofEntries {x : Migration} (h : ofEntries es = .ok s) (hx : x ∈ s.toList) : ∃ e ∈ es, e.Has x := by
  rcases (mem_foldlM_addEntry h).1 hx with ⟨e, he, bytes, hfile, hread⟩ | hnone
  · exact ⟨e, he, bytes, hfile, hread⟩
  · cases hnone

theorem ofEntries_append_of_error {xs : List Entry} {f : Fault} (h : ofEntries xs = .error f) (zs : List Entry) :
    ofEntries (xs ++ zs) = .error f := by
  unfold ofEntries at h ⊢
  rw [List.foldlM_append, h]
  rfl

/-- Where the two files of a version are read and no file is refused by itself, the version is refused. -/
theorem ofEntries_of_oneClash {xs zs : List Entry} {v : Version} {lo hi : String} (h : OneClash (xs ++ zs) v lo hi)
    (hboth : (namesOf xs v).length = 2) (hreadable : ∀ e ∈ xs, e.isMigrationFile = true → e.Readable) :
    ofEntries (xs ++ zs) = .error (.duplicateVersion v lo hi) := by
  have hnames : (namesOf xs v).Perm [lo, hi] := by
    have hlength := h.two.length_eq
    rw [namesOf_append, List.length_append, hboth] at hlength
    have hnone : namesOf zs v = [] := List.eq_nil_of_length_eq_zero (by simpa using hlength)
    have htwo := h.two
    rwa [namesOf_append, hnone, List.append_nil] at htwo
  refine ofEntries_append_of_error ?_ zs
  cases hxs : ofEntries xs with
  | ok s =>
    have hnodup := (exists_ofEntries_eq_ok_iff.1 ⟨s, hxs⟩).2
    have hcount := List.nodup_iff_count_le_one.1 hnodup v
    rw [← length_namesOf, hboth] at hcount
    omega
  | error f =>
    rcases foldlM_addEntry_eq_error_iff.1 hxs with ⟨ps, e, qs, rfl, s, hs, he⟩
    rcases addEntry_eq_error_iff.1 he with ⟨m, hm, x, hx, hversion, rfl⟩ | hrefused
    · rcases mem_ofEntries hs hx with ⟨d, hd, hdx⟩
      have hpair := pair_sublist_namesOf hd (hversion ▸ hdx.version?) hm.version? qs
      have hv : m.version = v := by
        by_contra hother
        have hfew := h.others m.version hother
        rw [namesOf_append, List.length_append] at hfew
        exact absurd hpair.length_le (by rw [List.length_cons, List.length_singleton]; omega)
      rw [hv] at hpair hversion
      rw [← hpair.eq_of_length hboth.symm, ← (Entry.has_iff_fileOf.1 hdx).fileName,
        ← (Entry.has_iff_fileOf.1 hm).fileName] at hnames
      rw [clash_eq hnames h.ordered, hversion]
    · exact absurd (hreadable e (by simp) hrefused.file) hrefused.not_readable

/-- Before the two files of a version are read, a file that is refused by itself is what the listing is refused for. -/
theorem ofEntries_of_refused {xs zs : List Entry} {e : Entry} {v : Version} {lo hi : String} {f : Fault}
    (h : OneClash (xs ++ e :: zs) v lo hi) (hfew : (namesOf xs v).length ≤ 1)
    (hreadable : ∀ d ∈ xs, d.isMigrationFile = true → d.Readable) (he : e.Refused f) :
    ofEntries (xs ++ e :: zs) = .error f := by
  have hnodup : (xs.filterMap Entry.version?).Nodup := by
    refine List.nodup_iff_count_le_one.2 fun w => ?_
    rw [← length_namesOf]
    by_cases hw : w = v
    · rwa [hw]
    · have hothers := h.others w hw
      rw [namesOf_append, List.length_append] at hothers
      omega
  rcases exists_ofEntries_eq_ok_iff.2 ⟨hreadable, hnodup⟩ with ⟨s, hs⟩
  exact foldlM_addEntry_eq_error_iff.2 ⟨xs, e, zs, rfl, s, hs, addEntry_eq_error_iff.2 (.inr he)⟩

/-! ## Loading a listing -/

/-- A listing loads if its files can be read and share no version. Its set has the migration of each file in ascending
order, and neither the order of the listing nor another entry changes it; it is the set of its migrations as a list, which
is refused only for a shared version. In every set a version finds its migration. A version of two files is reported with
their names in order, if no file up to the second of them is refused by itself, and else the first such file is. -/
theorem load_listing (path : String) (es : List Entry) :
    ((∃ set, load ⟨path, some es⟩ = .ok set) ↔
      (∀ e ∈ es, e.isMigrationFile = true → e.Readable) ∧ (es.filterMap Entry.version?).Nodup) ∧
    (∀ set, load ⟨path, some es⟩ = .ok set →
      Ascending set.toList ∧
      (∃ ms, List.Forall₂ Entry.FileOf (es.filter Entry.isMigrationFile) ms ∧ set.toList.Perm ms) ∧
      (∀ path' es', (es'.filter Entry.isMigrationFile).Perm (es.filter Entry.isMigrationFile) →
        load ⟨path', some es'⟩ = .ok set) ∧
      ∀ ms : List Migration, ms.Perm set.toList → ofList ms = .ok set) ∧
    (∀ ms : List Migration,
      (∀ set, ofList ms = .ok set ↔ ms.Perm set.toList) ∧
      ((∃ f, ofList ms = .error f) ↔ ¬(ms.map (·.version)).Nodup)) ∧
    (∀ (set : MigrationSet) (v : Version),
      (∀ m, set.get? v = some m ↔ m ∈ set.toList ∧ m.version = v) ∧
      (set.get? v = none ↔ ∀ m ∈ set.toList, m.version ≠ v) ∧
      bisect? v set.toList = set.get? v) ∧
    ∀ v lo hi, OneClash es v lo hi →
      (∀ xs zs, es = xs ++ zs → (namesOf xs v).length = 2 → (∀ e ∈ xs, e.isMigrationFile = true → e.Readable) →
        load ⟨path, some es⟩ = .error (.duplicateVersion v lo hi)) ∧
      ∀ xs e zs f, es = xs ++ e :: zs → (namesOf xs v).length ≤ 1 →
        (∀ d ∈ xs, d.isMigrationFile = true → d.Readable) → e.Refused f → load ⟨path, some es⟩ = .error f := by
  have hload (p : String) (xs : List Entry) : load ⟨p, some xs⟩ = ofEntries xs := rfl
  simp only [hload]
  refine ⟨exists_ofEntries_eq_ok_iff, fun set hset => ⟨set.ascending, ?_, fun _ es' h => ofEntries_of_perm h hset,
    fun ms h => ofList_eq_ok_iff.2 h⟩, fun ms => ⟨fun set => ofList_eq_ok_iff, exists_ofList_eq_error_iff⟩,
    fun set v => ⟨fun m => get?_eq_some, get?_eq_none, bisect?_eq_find? set.ascending⟩, fun v lo hi h => ⟨?_, ?_⟩⟩
  · rcases ofEntries_eq_ok_iff.1 hset with ⟨ms, hms, hperm⟩
    exact ⟨ms, hms.imp fun e m => Entry.has_iff_fileOf.1, hperm⟩
  · rintro xs zs rfl hboth hreadable
    exact ofEntries_of_oneClash h hboth hreadable
  · rintro xs e zs f rfl hfew hreadable he
    exact ofEntries_of_refused h hfew hreadable he

/-- Two versions in another order than their names, with a folder beside them; and two spellings of one version, with a
file after them that is no text. -/
theorem load_listing_spellings :
    (∃ set, load ⟨"m", some [⟨"10_b.sql", some "b".toUTF8⟩, ⟨"9.sql", none⟩, ⟨"9_a.sql", some "a".toUTF8⟩]⟩ = .ok set) ∧
      load ⟨"m", some [⟨"2_b.sql", some "b".toUTF8⟩, ⟨"002_a.sql", some "a".toUTF8⟩, ⟨"3_c.sql", some ⟨#[255]⟩⟩]⟩ =
        .error (.duplicateVersion 2 "002_a.sql" "2_b.sql") := by
  have hreadable {n s : String} {parsed : Version × String} (h : Migration.parseFileName n = .ok parsed) :
      (⟨n, some s.toUTF8⟩ : Entry).Readable := ⟨⟨parsed, h⟩, ⟨s, rfl⟩⟩
  constructor
  · refine (load_listing "m" _).1.2 ⟨?_, by decide +kernel⟩
    simp only [List.forall_mem_cons]
    exact ⟨fun _ => hreadable rfl, fun hfile => absurd hfile (by decide), fun _ => hreadable rfl, by simp⟩
  · refine ((load_listing "m" _).2.2.2.2 2 "002_a.sql" "2_b.sql" ?_).1 [⟨"2_b.sql", some "b".toUTF8⟩,
      ⟨"002_a.sql", some "a".toUTF8⟩] [⟨"3_c.sql", some ⟨#[255]⟩⟩] rfl (by decide +kernel) ?_
    · exact oneClash_of_nodup (by decide +kernel) (by decide +kernel) (by decide +kernel)
    · simp only [List.forall_mem_cons]
      exact ⟨fun _ => hreadable rfl, fun _ => hreadable rfl, by simp⟩

/-- Two files have one version, and another fault is reported: one of the two is no text, or a file before them is none. -/
theorem load_unreadable_clash :
    OneClash [⟨"1_a.sql", some "x".toUTF8⟩, ⟨"1_b.sql", some ⟨#[255]⟩⟩] 1 "1_a.sql" "1_b.sql" ∧
      load ⟨"m", some [⟨"1_a.sql", some "x".toUTF8⟩, ⟨"1_b.sql", some ⟨#[255]⟩⟩]⟩ = .error notText ∧
      load ⟨"m", some [⟨"1_b.sql", some ⟨#[255]⟩⟩, ⟨"1_a.sql", some "x".toUTF8⟩]⟩ = .error notText ∧
      OneClash [⟨"2_c.sql", some ⟨#[255]⟩⟩, ⟨"1_a.sql", some "x".toUTF8⟩, ⟨"1_b.sql", some "y".toUTF8⟩] 1 "1_a.sql"
        "1_b.sql" ∧
      load ⟨"m", some [⟨"2_c.sql", some ⟨#[255]⟩⟩, ⟨"1_a.sql", some "x".toUTF8⟩, ⟨"1_b.sql", some "y".toUTF8⟩]⟩ =
        .error notText := by
  refine ⟨?_, rfl, rfl, ?_, rfl⟩
  · exact oneClash_of_nodup (by decide +kernel) (by decide +kernel) (by decide +kernel)
  · exact oneClash_of_nodup (by decide +kernel) (by decide +kernel) (by decide +kernel)

end MigrationSet

end SchemaMigration
