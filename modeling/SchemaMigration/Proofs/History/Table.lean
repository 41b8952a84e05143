import Mathlib.Data.List.Forall2
import SchemaMigration.History.Report
import SchemaMigration.Proofs.Time.TableText

/-!
# The table of the state

`linesOf`               : the lines of a text.
`StatusEntry.Alike`     : entries that differ in fractions of seconds at most.
`linesOf_statusTable`   : after the heading the table has one line for each entry.
`line_eq_iff`           : the line of an entry shows all of the entry but fractions of seconds.
`statusTable_eq_iff`    : so does the table.

The columns have a least width only, so they may be shifted against each other: by a long version, or by a year of more
than five digits. A line is read from the left: the digits of the version end before a blank, the names of the states are
all of one length, and no time begins another one.
-/

namespace SchemaMigration

set_option autoImplicit false

open Time (inTable_append_inj inTable_eq_iff isDigit_of_mem_zeroPadded not_mem_inTable wholeSecond_wholeSecond
  zeroPadded zeroPadded_append_inj)

/-! ## Vocabulary -/

/-- The lines of a text; each ends with a line feed. -/
def linesOf (s : String) : List (List Char) := (s.toList.splitOn '\n').dropLast

/-- The state without fractions of seconds. -/
def State.toSecond : State → State
  | applied t => applied t.wholeSecond
  | pending => pending
  | drifted t => drifted t.wholeSecond
  | missing t => missing t.wholeSecond

/-- The same version, name and state, since the same time but for fractions of seconds. -/
structure StatusEntry.Alike (e f : StatusEntry) : Prop where
  version : e.version = f.version
  name : e.name = f.name
  state : e.state.toSecond = f.state.toSecond

/-- What stands in the column of times. -/
def State.sinceText (s : State) : String :=
  match s.since? with
  | some t => t.inTable
  | none => "-"

/-- What stands before the name of an entry. -/
def StatusEntry.columns (e : StatusEntry) : List Char :=
  (padStart 8 (toString e.version)).toList ++ (' ' :: ' ' :: ((padEnd 8 e.state.name).toList ++
    (' ' :: ' ' :: ((padEnd 25 e.state.sinceText).toList ++ [' ', ' ']))))

/-- The line of an entry. -/
def StatusEntry.line (e : StatusEntry) : List Char := e.columns ++ e.name.toList

/-- The names of the states. -/
def stateNames : List String := ["applied", "pending", "drifted", "missing"]

theorem name_mem_stateNames (s : State) : s.name ∈ stateNames := by cases s <;> simp [State.name, stateNames]

theorem name_toSecond (s : State) : s.toSecond.name = s.name := by cases s <;> rfl

theorem sinceText_toSecond (s : State) : s.toSecond.sinceText = s.sinceText := by
  rcases s with t | _ | t | t
  case pending => rfl
  all_goals exact inTable_eq_iff.2 (wholeSecond_wholeSecond t)

def tableHeading : List Char := " VERSION  STATE     APPLIED                    NAME".toList

theorem toList_row (e : StatusEntry) : e.row.toList = e.line ++ ['\n'] := by
  have hrow : e.row = tableRow (toString e.version) e.state.name e.state.sinceText e.name := rfl
  simp [hrow, tableRow, StatusEntry.line, StatusEntry.columns]

theorem toList_statusTable {es : List StatusEntry} (h : es ≠ []) :
    (statusTable es).toList = (tableHeading :: es.map (·.line)).flatMap (· ++ ['\n']) := by
  have hheading : (tableRow "VERSION" "STATE" "APPLIED" "NAME").toList = tableHeading ++ ['\n'] := by
    decide
  have hempty : es.isEmpty = false := by simpa using h
  have hrows : (es.map (·.row)).flatMap String.toList = (es.map (·.line)).flatMap (· ++ ['\n']) := by
    rw [List.flatMap_map, List.flatMap_map]
    exact congrArg (es.flatMap ·) (funext toList_row)
  rw [statusTable, hempty, if_neg Bool.false_ne_true, String.toList_append, hheading, String.toList_join, hrows,
    List.flatMap_cons]

/-! ## Columns -/

theorem toList_toString_version (v : Version) : (toString v).toList = zeroPadded 0 v.toNat := by
  have htext : toString v = toString v.toNat := rfl
  rw [htext, Nat.toString_eq_ofList_toDigits, String.toList_ofList, zeroPadded, Nat.zero_sub, List.replicate_zero,
    List.nil_append]

/-- A version is read from the first digit to the blank after the last. -/
theorem padStart_version_append_inj {v w : Version} {x y : List Char}
    (h : (padStart 8 (toString v)).toList ++ ' ' :: x = (padStart 8 (toString w)).toList ++ ' ' :: y) :
    v = w ∧ x = y := by
  have hread : ∀ (u : Version) (z : List Char),
      ((padStart 8 (toString u)).toList ++ ' ' :: z).dropWhile (· == ' ') = zeroPadded 0 u.toNat ++ ' ' :: z := by
    intro u z
    have hblanks : ∀ c ∈ List.replicate (8 - (toString u).length) ' ', (c == ' ') = true := by
      intro c hc
      rw [List.eq_of_mem_replicate hc]
      rfl
    rw [padStart, String.toList_append, String.toList_ofList, toList_toString_version, List.append_assoc,
      List.dropWhile_append_of_pos hblanks]
    cases hdigits : zeroPadded 0 u.toNat with
    | nil => exact absurd hdigits (by simp [zeroPadded, Nat.toDigits_ne_nil])
    | cons d ds =>
      have hd : d.isDigit = true := isDigit_of_mem_zeroPadded (hdigits ▸ List.mem_cons_self)
      have hblank : (d == ' ') = false := by
        rw [beq_eq_false_iff_ne]
        rintro rfl
        cases hd
      rw [List.cons_append, List.dropWhile_cons_of_neg (by simp [hblank])]
  have hdigits := congrArg (List.dropWhile (· == ' ')) h
  rw [hread, hread] at hdigits
  obtain ⟨hvalue, hrest⟩ := zeroPadded_append_inj rfl hdigits
  exact ⟨UInt64.toNat_inj.1 hvalue, hrest⟩

/-- The names of the states take up the same room. -/
theorem padEnd_name_append_inj {s s' : State} {x y : List Char}
    (h : (padEnd 8 s.name).toList ++ x = (padEnd 8 s'.name).toList ++ y) : s.name = s'.name ∧ x = y := by
  have hlength : ∀ s : State, s.name.length = 7 := fun s =>
    (by decide : ∀ n ∈ stateNames, n.length = 7) _ (name_mem_stateNames s)
  have hpadded : ∀ s : State, (padEnd 8 s.name).toList = s.name.toList ++ [' '] := by
    intro s
    rw [padEnd, hlength, String.toList_append, String.toList_ofList]
    rfl
  rw [hpadded, hpadded] at h
  obtain ⟨hname, hrest⟩ := List.append_inj h (by simp only [List.length_append, String.length_toList, hlength])
  exact ⟨String.toList_inj.1 (List.append_cancel_right hname), hrest⟩

/-- Times are read to their end, and then the blanks after them are known. -/
theorem padEnd_inTable_append_inj {t u : Time.Instant} {x y : List Char}
    (h : (padEnd 25 t.inTable).toList ++ x = (padEnd 25 u.inTable).toList ++ y) :
    t.wholeSecond = u.wholeSecond ∧ x = y := by
  simp only [padEnd, String.toList_append, List.append_assoc] at h
  obtain ⟨htext, hrest⟩ := inTable_append_inj h
  rw [htext] at hrest
  exact ⟨inTable_eq_iff.1 htext, List.append_cancel_left hrest⟩

/-- A state is told by its name and, if it has one, by its time. -/
theorem since_append_inj {s s' : State} {x y : List Char} (hname : s.name = s'.name)
    (h : (padEnd 25 s.sinceText).toList ++ x = (padEnd 25 s'.sinceText).toList ++ y) :
    s.toSecond = s'.toSecond ∧ x = y := by
  rcases s with t | _ | t | t <;> rcases s' with u | _ | u | u <;> simp only [State.name, String.reduceEq] at hname
  case pending.pending => exact ⟨rfl, List.append_cancel_left h⟩
  all_goals
    obtain ⟨hsecond, hrest⟩ := padEnd_inTable_append_inj (t := t) (u := u) h
    exact ⟨by rw [State.toSecond, State.toSecond, hsecond], hrest⟩

/-- The line of an entry shows all of the entry but fractions of seconds. -/
theorem line_eq_iff {e f : StatusEntry} : e.line = f.line ↔ e.Alike f := by
  constructor
  · intro h
    simp only [StatusEntry.line, StatusEntry.columns, List.append_assoc, List.cons_append, List.nil_append] at h
    obtain ⟨hversion, hstate⟩ := padStart_version_append_inj h
    obtain ⟨hkind, hsince⟩ := padEnd_name_append_inj (List.cons.inj hstate).2
    obtain ⟨hsecond, hname⟩ := since_append_inj hkind (List.cons.inj (List.cons.inj hsince).2).2
    exact ⟨hversion, String.toList_inj.1 (List.cons.inj (List.cons.inj hname).2).2, hsecond⟩
  · rintro ⟨hversion, hname, hstate⟩
    have hkind : e.state.name = f.state.name := by rw [← name_toSecond e.state, hstate, name_toSecond]
    have hsince : e.state.sinceText = f.state.sinceText := by
      rw [← sinceText_toSecond e.state, hstate, sinceText_toSecond]
    rw [StatusEntry.line, StatusEntry.line, StatusEntry.columns, StatusEntry.columns, hversion, hname, hkind, hsince]

/-! ## Lines -/

/-- Lines without line feeds are found again. -/
theorem splitOn_flatMap {xs : List (List Char)} (h : ∀ x ∈ xs, '\n' ∉ x) :
    (xs.flatMap (· ++ ['\n'])).splitOn '\n' = xs ++ [[]] := by
  induction xs with
  | nil => rfl
  | cons x xs ih =>
    rw [List.forall_mem_cons] at h
    have hx : ∀ c ∈ x, (c == '\n') = false := by
      intro c hc
      rw [beq_eq_false_iff_ne]
      rintro rfl
      exact h.1 hc
    rw [List.flatMap_cons, List.append_assoc, List.splitOn, List.singleton_append,
      List.splitOnP_append_cons_of_forall_mem hx '\n' (by decide), ← List.splitOn, ih h.2, List.cons_append]

theorem not_mem_columns (e : StatusEntry) : '\n' ∉ e.columns := by
  have hversion : '\n' ∉ (toString e.version).toList := by
    intro h
    exact absurd (isDigit_of_mem_zeroPadded (toList_toString_version e.version ▸ h)) (by decide)
  have hname : '\n' ∉ e.state.name.toList :=
    (by decide : ∀ n ∈ stateNames, '\n' ∉ n.toList) _ (name_mem_stateNames e.state)
  have hsince : '\n' ∉ e.state.sinceText.toList := by
    rw [State.sinceText]
    split
    · exact not_mem_inTable _
    · decide
  simp [StatusEntry.columns, padStart, padEnd, hversion, hname, hsince]

theorem not_mem_line {e : StatusEntry} (h : '\n' ∉ e.name.toList) : '\n' ∉ e.line := by
  rw [StatusEntry.line, List.mem_append, not_or]
  exact ⟨not_mem_columns e, h⟩

/-- After the heading the table has one line for each entry. -/
theorem linesOf_statusTable {es : List StatusEntry} (hes : es ≠ []) (hnames : ∀ e ∈ es, '\n' ∉ e.name.toList) :
    linesOf (statusTable es) = tableHeading :: es.map (·.line) := by
  have hlines : ∀ x ∈ tableHeading :: es.map (·.line), '\n' ∉ x := by
    rw [List.forall_mem_cons, List.forall_mem_map]
    exact ⟨by decide, fun e he => not_mem_line (hnames e he)⟩
  rw [linesOf, toList_statusTable hes, splitOn_flatMap hlines, List.dropLast_concat]

/-- Entries have the same lines, one by one, exactly if they are alike one by one. -/
theorem map_line_eq_iff {es fs : List StatusEntry} :
    es.map (·.line) = fs.map (·.line) ↔ List.Forall₂ StatusEntry.Alike es fs := by
  rw [← List.forall₂_eq_eq_eq, List.forall₂_map_left_iff, List.forall₂_map_right_iff]
  exact Iff.of_eq (congrArg (List.Forall₂ · es fs) (funext₂ fun _ _ => propext line_eq_iff))

/-- A table with entries begins with a blank. -/
theorem statusTable_ne_nil {es : List StatusEntry} (hes : es ≠ []) : statusTable es ≠ statusTable [] := by
  intro h
  have hfirst : (statusTable es).toList.head? = some ' ' := by rw [toList_statusTable hes]; rfl
  rw [h] at hfirst
  exact absurd hfirst (by decide)

/-- A table shows all of its entries but fractions of seconds, and has one line for each of them after the heading. -/
theorem statusTable_eq_iff {es fs : List StatusEntry} (hes : ∀ e ∈ es, '\n' ∉ e.name.toList)
    (hfs : ∀ f ∈ fs, '\n' ∉ f.name.toList) :
    (statusTable es = statusTable fs ↔ List.Forall₂ StatusEntry.Alike es fs) ∧
      (es ≠ [] → linesOf (statusTable es) = tableHeading :: es.map (·.line)) := by
  refine ⟨⟨?_, ?_⟩, fun hne => linesOf_statusTable hne hes⟩
  · intro h
    rcases eq_or_ne es [] with rfl | hne <;> rcases eq_or_ne fs [] with rfl | hnf
    · exact .nil
    · exact absurd h.symm (statusTable_ne_nil hnf)
    · exact absurd h (statusTable_ne_nil hne)
    · have hlines := congrArg linesOf h
      rw [linesOf_statusTable hne hes, linesOf_statusTable hnf hfs] at hlines
      exact map_line_eq_iff.1 (List.cons.inj hlines).2
  · intro h
    rcases eq_or_ne es [] with rfl | hne
    · rw [List.forall₂_nil_left_iff.1 h]
    · have hnf : fs ≠ [] := by
        rintro rfl
        exact hne (List.forall₂_nil_right_iff.1 h)
      rw [← String.toList_inj, toList_statusTable hne, toList_statusTable hnf, map_line_eq_iff.2 h]

/-- In a row with a version of nine digits and a year of six, a blank for a name is told from an empty name, and two
times from each other only if they are in different seconds. -/
theorem statusTable_wide :
    statusTable [⟨123456789, "", .applied ⟨3833727840000, 5⟩⟩] =
        statusTable [⟨123456789, "", .applied ⟨3833727840000, 999999999⟩⟩] ∧
      statusTable [⟨123456789, "", .applied ⟨3833727840000, 5⟩⟩] ≠
        statusTable [⟨123456789, " ", .applied ⟨3833727840000, 5⟩⟩] ∧
      linesOf (statusTable [⟨123456789, "", .applied ⟨3833727840000, 5⟩⟩]) =
        [tableHeading, "123456789  applied   +123456-01-01 00:00:00 UTC  ".toList] := by
  have hempty : ∀ n : Nat, ∀ e ∈ [(⟨123456789, "", .applied ⟨3833727840000, n⟩⟩ : StatusEntry)],
      '\n' ∉ e.name.toList := by simp
  have hblank : ∀ e ∈ [(⟨123456789, " ", .applied ⟨3833727840000, 5⟩⟩ : StatusEntry)], '\n' ∉ e.name.toList := by simp
  refine ⟨(statusTable_eq_iff (hempty 5) (hempty 999999999)).1.2 (.cons ⟨rfl, rfl, by decide⟩ .nil), ?_, ?_⟩
  · intro h
    cases (statusTable_eq_iff (hempty 5) hblank).1.1 h with
    | cons halike _ => exact absurd halike.name (by decide)
  · rw [(statusTable_eq_iff (hempty 5) (hempty 5)).2 (List.cons_ne_nil _ _)]
    decide

end SchemaMigration
