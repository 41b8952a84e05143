import SchemaMigration.Proofs.Script.Statements

/-!
# What stands between statements

`Gap`        : blanks, whole comments and terminators, which are counted.
`Laid`       : a script as statements with gaps around them, at least one terminator between two of them.
`split_laid` : the statements of a script are laid out in it.

A comment before the first word of a statement or after its last one is part of the statement, so gaps hold the comments
of fragments without a statement.
-/

namespace SchemaMigration.Script

set_option autoImplicit false

open Text (isBlank allBlank trim)

/-! ## Gaps -/

/-- Blanks, comments and `n` terminators. A line comment goes on to a line break, or to the end of the gap if this is the
`last` one of its script. -/
inductive Gap (last : Bool) : Nat → List Char → Prop
  | nil : Gap last 0 []
  | blank {n : Nat} {c : Char} {g : List Char} (h : isBlank c = true) (rest : Gap last n g) : Gap last n (c :: g)
  | terminator {n : Nat} {g : List Char} (rest : Gap last n g) : Gap last (n + 1) (';' :: g)
  | blockComment {n : Nat} {content g : List Char} (h : ¬['*', '/'] <:+: content) (rest : Gap last n g) :
      Gap last n ('/' :: '*' :: (content ++ '*' :: '/' :: g))
  | lineComment {n : Nat} {content g : List Char} (h : '\n' ∉ content) (rest : Gap last n ('\n' :: g)) :
      Gap last n ('-' :: '-' :: (content ++ '\n' :: g))
  | lastComment {content : List Char} (h : '\n' ∉ content) (isLast : last = true) : Gap last 0 ('-' :: '-' :: content)

theorem Gap.append {last : Bool} {m n : Nat} {g g' : List Char} (h : Gap false m g) (h' : Gap last n g') :
    Gap last (m + n) (g ++ g') := by
  induction h with
  | nil => rwa [Nat.zero_add]
  | blank hc _ ih => exact .blank hc ih
  | @terminator m g _ ih =>
    rw [Nat.add_right_comm]
    exact .terminator ih
  | @blockComment m content g hcontent _ ih =>
    have htext : '/' :: '*' :: (content ++ '*' :: '/' :: g) ++ g' =
        '/' :: '*' :: (content ++ '*' :: '/' :: (g ++ g')) := by simp
    rw [htext]
    exact .blockComment hcontent ih
  | @lineComment m content g hcontent _ ih =>
    have htext : '-' :: '-' :: (content ++ '\n' :: g) ++ g' = '-' :: '-' :: (content ++ '\n' :: (g ++ g')) := by simp
    rw [htext]
    exact .lineComment hcontent ih
  | lastComment _ isLast => cases isLast

theorem gap_of_allBlank {last : Bool} {g : List Char} (h : allBlank g = true) : Gap last 0 g := by
  induction g with
  | nil => exact .nil
  | cons c g ih =>
    rw [allBlank, List.all_cons, Bool.and_eq_true] at h
    exact .blank h.1 (ih h.2)

/-- Pieces without a statement are a gap, unless a comment at their end is still open. -/
theorem gap_of_reads (last : Bool) {ps : List Piece} {rest : List Char} (h : Reads ps rest)
    (hsolid : ps.any Piece.isSolid = false) (hrest : rest.head? ≠ some '\n') (hlast : rest = [] → last = true) :
    ∃ n, Gap last n (ps.flatMap Piece.text) := by
  induction ps with
  | nil => exact ⟨0, .nil⟩
  | cons p ps ih =>
    obtain ⟨hp, hstop, hps⟩ := h
    rw [List.any_cons, Bool.or_eq_false_iff] at hsolid
    obtain ⟨n, hg⟩ := ih hps hsolid.2
    cases p with
    | code c => exact ⟨n, .blank (by simpa [Piece.isSolid] using hsolid.1) hg⟩
    | quoted q content => cases hsolid.1
    | blockComment content =>
      have htext : (Piece.blockComment content :: ps).flatMap Piece.text =
          '/' :: '*' :: (content ++ '*' :: '/' :: ps.flatMap Piece.text) := by simp [Piece.text]
      rw [htext]
      exact ⟨n, .blockComment hp hg⟩
    | lineComment content =>
      have hcontent : '\n' ∉ content := Region.holds_line.1 hp
      rw [List.flatMap_cons]
      cases hnext : ps.flatMap Piece.text with
      | nil =>
        rw [hnext, List.nil_append] at hstop
        have hend : rest = [] := by
          cases rest with
          | nil => rfl
          | cons d rest =>
            obtain rfl : d = '\n' := hstop d rfl
            exact absurd rfl hrest
        rw [List.append_nil]
        exact ⟨0, .lastComment hcontent (hlast hend)⟩
      | cons d g =>
        rw [hnext] at hstop hg
        obtain rfl : d = '\n' := hstop d rfl
        exact ⟨n, .lineComment hcontent hg⟩

/-! ## Statements laid out in a script -/

/-- The statements `xs` in order with a gap before each of them and one after the last. The gap before the first has at
least `least` terminators, and every other gap between two statements has one. -/
inductive Laid : Nat → List (List Char) → List Char → Prop
  | last {least n : Nat} {g : List Char} (gap : Gap true n g) : Laid least [] g
  | statement {least n : Nat} {g x l : List Char} {xs : List (List Char)} (gap : Gap false n g) (enough : least ≤ n)
      (rest : Laid 1 xs l) : Laid least (x :: xs) (g ++ (x ++ l))

theorem Laid.mono {least more : Nat} {xs : List (List Char)} {l : List Char} (h : Laid more xs l) (hle : least ≤ more) :
    Laid least xs l := by
  cases h with
  | last gap => exact .last gap
  | statement gap enough rest => exact .statement gap (Nat.le_trans hle enough) rest

theorem Laid.prepend {least n : Nat} {xs : List (List Char)} {g l : List Char} (hg : Gap false n g)
    (h : Laid least xs l) : Laid (n + least) xs (g ++ l) := by
  cases h with
  | last gap => exact .last (hg.append gap)
  | statement gap enough rest =>
    rw [← List.append_assoc]
    exact .statement (hg.append gap) (Nat.add_le_add_left enough n) rest

theorem Laid.terminator {least : Nat} {xs : List (List Char)} {l : List Char} (h : Laid least xs l) :
    Laid (least + 1) xs (';' :: l) := by
  rw [Nat.add_comm]
  exact h.prepend (.terminator .nil)

/-- A fragment that makes a statement is the statement between blanks. -/
theorem exists_blanks {f : List Piece} {x : List Char} (h : statementOf? f = some x) :
    ∃ u v, allBlank u = true ∧ allBlank v = true ∧ textOf f = u ++ (x ++ v) := by
  obtain ⟨-, rfl⟩ := statementOf?_eq_some h
  obtain ⟨u, v, hu, hv, htext⟩ := Text.exists_eq_trim (textOf f)
  exact ⟨u, v, hu, hv, by rw [← List.append_assoc]; exact htext⟩

theorem any_isSolid_of_none {f : List Piece} (h : statementOf? f = none) : f.any Piece.isSolid = false := by
  rw [statementOf?] at h
  split at h
  · cases h
  · next hsolid => exact Bool.eq_false_iff.2 hsolid

theorem Makes.laid {ps : List Piece} {xs : List (List Char)} (h : Makes ps xs) (hreads : Reads ps []) :
    Laid 0 xs (ps.flatMap Piece.text) := by
  induction h with
  | @last read hread hclosed =>
    cases hst : statementOf? read.reverse with
    | none =>
      have hsolid : read.any Piece.isSolid = false := by simpa using any_isSolid_of_none hst
      obtain ⟨n, hgap⟩ := gap_of_reads true hreads hsolid (by simp) fun _ => rfl
      exact .last hgap
    | some x =>
      obtain ⟨u, v, hu, hv, htext⟩ := exists_blanks hst
      rw [textOf, List.reverse_reverse] at htext
      rw [htext]
      exact .statement (gap_of_allBlank hu) (Nat.le_refl 0) (.last (gap_of_allBlank hv))
  | @next read ps xs hread hclosed _ ih =>
    obtain ⟨hfirst, -, -, hrest⟩ := reads_append.1 hreads
    have hnext : Laid 1 xs (';' :: ps.flatMap Piece.text) := (ih hrest).terminator
    have htext : (read ++ .code ';' :: ps).flatMap Piece.text =
        read.flatMap Piece.text ++ ';' :: ps.flatMap Piece.text := by simp [Piece.text]
    rw [htext]
    cases hst : statementOf? read.reverse with
    | none =>
      have hsolid : read.any Piece.isSolid = false := by simpa using any_isSolid_of_none hst
      obtain ⟨n, hgap⟩ := gap_of_reads false hfirst hsolid (by simp [Piece.text]) (by simp [Piece.text])
      exact (hnext.prepend hgap).mono (Nat.zero_le _)
    | some x =>
      obtain ⟨u, v, hu, hv, hread⟩ := exists_blanks hst
      rw [textOf, List.reverse_reverse] at hread
      rw [hread, List.append_assoc, List.append_assoc]
      exact .statement (gap_of_allBlank hu) (Nat.le_refl 0) (hnext.prepend (gap_of_allBlank hv))

/-- A script is its statements in order with gaps around them. -/
theorem split_laid {s : String} {xs : List String} (h : split s = .ok xs) :
    Laid 0 (xs.map String.toList) s.toList := by
  obtain ⟨ps, hs, hreads, hmakes⟩ := readStatements_eq_ok_iff.1 (split_eq_ok_iff.1 h)
  rw [hs]
  exact hmakes.laid hreads

/-- A comment of its own fragment and a fragment with nothing in it are in the gaps. -/
theorem split_laid_notes :
    split "SELECT 1;; -- none\n; /* also */ SELECT 2; -- end" = .ok ["SELECT 1", "/* also */ SELECT 2"] ∧
      Laid 0 ["SELECT 1".toList, "/* also */ SELECT 2".toList]
        "SELECT 1;; -- none\n; /* also */ SELECT 2; -- end".toList := by
  have h : split "SELECT 1;; -- none\n; /* also */ SELECT 2; -- end" = .ok ["SELECT 1", "/* also */ SELECT 2"] := by
    decide +kernel
  exact ⟨h, split_laid h⟩

end SchemaMigration.Script
