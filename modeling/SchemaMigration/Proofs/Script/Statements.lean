import SchemaMigration.Proofs.Script.Extent

/-!
# Scripts put together and statements by themselves

`readStatements_trim` : blanks at the two ends of a script make no difference, not even to why it is refused.
`split_join`          : a script, a terminator on a line of its own and another script.
`split_alone`         : a statement of a script, split by itself.
-/

namespace SchemaMigration.Script

set_option autoImplicit false

open Text (isBlank trim trimStart trimEnd)

/-! ## One pass and its pieces -/

theorem mapError_splitChars (l : List Char) : (splitChars l).mapError Unclosed.message = readStatements l := by
  have h := outcome_eq follows_empty [] l
  rw [← readStatements] at h
  rw [splitChars, Scan.start, ← Scan.outcome, h]
  cases readStatements l <;> rfl

theorem Unclosed.message_inj {u v : Unclosed} (h : u.message = v.message) : u = v := by
  cases u <;> cases v <;> first | rfl | exact absurd h (by decide)

/-- Outcomes with the same words are the same. -/
theorem mapError_message_inj {α : Type} {r t : Except Unclosed α}
    (h : r.mapError Unclosed.message = t.mapError Unclosed.message) : r = t := by
  cases r with
  | ok x =>
    cases t with
    | ok y => rw [Except.ok.inj h]
    | error v => cases h
  | error u =>
    cases t with
    | ok y => cases h
    | error v => rw [Unclosed.message_inj (Except.error.inj h)]

theorem splitChars_eq_ok_iff {l : List Char} {xs : List (List Char)} :
    splitChars l = .ok xs ↔ readStatements l = .ok xs := by
  rw [← mapError_splitChars]
  constructor
  · intro h
    rw [h]
    rfl
  · exact fun h => mapError_message_inj h

theorem split_eq_ok_iff {s : String} {xs : List String} :
    split s = .ok xs ↔ readStatements s.toList = .ok (xs.map String.toList) := by
  rw [← splitChars_eq_ok_iff, split]
  constructor
  · intro h
    cases hs : splitChars s.toList with
    | error u =>
      rw [hs] at h
      cases h
    | ok ys =>
      rw [hs] at h
      rw [← Except.ok.inj h, List.map_map]
      simp [Function.comp_def]
  · intro h
    rw [h]
    simp [Except.map, Function.comp_def]

theorem readStatements_eq_ok_iff {l : List Char} {xs : List (List Char)} :
    readStatements l = .ok xs ↔ ∃ ps, l = ps.flatMap Piece.text ∧ Reads ps [] ∧ Makes ps xs := by
  constructor
  · intro h
    rw [readStatements] at h
    cases hps : pieces l with
    | error reason =>
      rw [hps] at h
      cases h
    | ok ps =>
      rw [hps] at h
      obtain ⟨hl, hreads⟩ := pieces_eq_ok_iff.1 hps
      exact ⟨ps, hl, hreads, makes_of_statementsOf h⟩
  · rintro ⟨ps, rfl, hreads, hmakes⟩
    rw [readStatements, hreads.pieces_eq]
    exact makes_iff.2 hmakes

/-! ## Scripts that are joined -/

theorem reads_terminator (l : List Char) : Reads [.code '\n', .code ';'] l := by
  refine ⟨rfl, fun d hd => ?_, rfl, fun d _ => rfl, trivial⟩
  obtain rfl := Option.some.inj hd
  rfl

theorem statementsOf_lineBreak_terminator {before : List Piece} (h : openBlocks before = 0) (ps : List Piece) :
    statementsOf before (.code '\n' :: .code ';' :: ps) =
      (statementsOf [] ps).map ((statementOf? before).toList ++ ·) := by
  have hblank : isBlank '\n' = true := by decide
  have hopen : openBlocks (.code '\n' :: before) = 0 :=
    (openBlocks_cons_of_not_inWord (inWord_of_isBlank hblank) before).trans h
  rw [statementsOf_cons_of_not_ends rfl, statementsOf_terminator hopen, statementOf?_cons_blank hblank]

/-- Nothing of pieces that make statements is left over for the pieces after a terminator. -/
theorem Makes.statementsOf_join {ps : List Piece} {xs : List (List Char)} (h : Makes ps xs) (qs : List Piece) :
    statementsOf [] (ps ++ .code '\n' :: .code ';' :: qs) = (statementsOf [] qs).map (xs ++ ·) := by
  induction h with
  | last hread hclosed =>
    rw [hread.statementsOf_append, List.append_nil, statementsOf_lineBreak_terminator hclosed]
  | next hread hclosed _ ih =>
    rw [List.append_assoc, List.cons_append, hread.statementsOf_next hclosed, ih]
    cases statementsOf [] qs with
    | error reason => rfl
    | ok ys => simp [Except.map]

theorem readStatements_join {a : List Char} {xs : List (List Char)} (h : readStatements a = .ok xs) (b : List Char) :
    readStatements (a ++ '\n' :: ';' :: b) = (readStatements b).map (xs ++ ·) := by
  obtain ⟨ps, rfl, hreads, hmakes⟩ := readStatements_eq_ok_iff.1 h
  have hjoined : Reads (ps ++ [.code '\n', .code ';']) b :=
    reads_append.2 ⟨hreads.mono fun d hd => .inr (Option.some.inj hd).symm, reads_terminator b⟩
  have htext : ps.flatMap Piece.text ++ '\n' :: ';' :: b =
      (ps ++ [Piece.code '\n', Piece.code ';']).flatMap Piece.text ++ b := by
    simp [Piece.text]
  rw [readStatements, readStatements, htext, pieces_of_reads hjoined]
  cases pieces b with
  | error reason => rfl
  | ok qs =>
    change statementsOf [] (ps ++ [.code '\n', .code ';'] ++ qs) = (statementsOf [] qs).map (xs ++ ·)
    rw [List.append_assoc]
    exact hmakes.statementsOf_join qs

/-- After a script that was split, a terminator on a line of its own and another script add the statements of the
other, or the reason that it has none. -/
theorem split_join {a : String} {xs : List String} (h : split a = .ok xs) (b : String) :
    split (a ++ "\n;" ++ b) = (split b).map (xs ++ ·) := by
  have hjoin := readStatements_join (split_eq_ok_iff.1 h) b.toList
  have htext : (a ++ "\n;" ++ b).toList = a.toList ++ '\n' :: ';' :: b.toList := by simp
  have hchars : splitChars (a ++ "\n;" ++ b).toList =
      (splitChars b.toList).map (xs.map String.toList ++ ·) := by
    apply mapError_message_inj
    rw [mapError_splitChars, htext, hjoin, ← mapError_splitChars]
    cases splitChars b.toList <;> rfl
  rw [split, split, hchars]
  cases splitChars b.toList with
  | error u => rfl
  | ok ys => simp [Except.map, Function.comp_def]

/-- A trigger, its last word and a comment without a line break mean nothing to the script after them. -/
theorem split_join_trigger :
    split "CREATE TRIGGER t BEGIN DELETE FROM a; END -- both" =
        .ok ["CREATE TRIGGER t BEGIN DELETE FROM a; END -- both"] ∧
      split ("CREATE TRIGGER t BEGIN DELETE FROM a; END -- both" ++ "\n;" ++ "BEGIN; SELECT 1") =
        .ok ["CREATE TRIGGER t BEGIN DELETE FROM a; END -- both", "BEGIN", "SELECT 1"] := by
  have h : split "CREATE TRIGGER t BEGIN DELETE FROM a; END -- both" =
      .ok ["CREATE TRIGGER t BEGIN DELETE FROM a; END -- both"] := by decide +kernel
  have hother : split "BEGIN; SELECT 1" = .ok ["BEGIN", "SELECT 1"] := by decide +kernel
  refine ⟨h, ?_⟩
  rw [split_join h, hother]
  rfl

/-! ## Blanks at the ends of a script -/

theorem reads_blank {c : Char} (h : isBlank c = true) (l : List Char) : Reads [.code c] l := by
  refine reads_singleton.2 ⟨?_, fun d _ => ?_⟩
  · cases hq : Quote.ofOpener? c with
    | none => exact hq
    | some q =>
      have hd : isDelimiter q.opener = true := by cases q <;> decide
      rw [Quote.opener_of_ofOpener? hq] at hd
      exact absurd h (by simp [isBlank_delimiter hd])
  · change Mode.pair? .code c d = none
    unfold Mode.pair?
    split <;> first | rfl | exact absurd h (by decide)

theorem readStatements_blank {c : Char} (h : isBlank c = true) (l : List Char) :
    readStatements (c :: l) = readStatements l := by
  have hpieces : pieces (c :: l) = (pieces l).map ([.code c] ++ ·) := pieces_of_reads (reads_blank h l)
  rw [readStatements, readStatements, hpieces]
  cases pieces l with
  | error reason => rfl
  | ok ps => exact (statementsOf_cons_of_not_ends (endsFragment_blank h []) ps).trans (statementsOf_append_blank h [] ps)

theorem Piece.stopsAt_blank {p : Piece} (hp : ∀ content, p ≠ .lineComment content) {c : Char} (h : isBlank c = true) :
    p.StopsAt c := by
  cases p with
  | code x =>
    change Mode.pair? .code x c = none
    unfold Mode.pair?
    split <;> first | rfl | exact absurd h (by decide)
  | lineComment content => exact absurd rfl (hp content)
  | quoted | blockComment => trivial

/-- A blank at the end of a script is a piece of its own, or the end of the comment that stands there. -/
theorem Reads.concat_blank {ps : List Piece} (hps : Reads ps []) {c : Char} (h : isBlank c = true) :
    Reads (ps ++ [.code c]) [] ∨
      ∃ qs content, ps = qs ++ [.lineComment content] ∧ Reads (qs ++ [.lineComment (content ++ [c])]) [] := by
  obtain rfl | ⟨qs, p, rfl⟩ := List.eq_nil_or_concat ps
  · exact .inl (reads_blank h [])
  · rw [List.concat_eq_append] at hps ⊢
    obtain ⟨hqs, hp⟩ := reads_append.1 hps
    -- only a line comment goes on over a blank
    by_cases hstop : p.StopsAt c
    · refine .inl (reads_append.2 ⟨reads_append.2 ⟨?_, ?_⟩, reads_blank h []⟩)
      · exact hqs.mono fun d hd => .inl (by simpa [p.text_ne_nil] using hd)
      · exact reads_singleton.2 ⟨hp.1, fun d hd => Option.some.inj hd ▸ hstop⟩
    · cases p with
      | lineComment content =>
        have hc : c ≠ '\n' := hstop
        refine .inr ⟨qs, content, rfl, reads_append.2 ⟨hqs.mono fun d hd => .inl ?_, reads_singleton.2 ⟨?_, ?_⟩⟩⟩
        · exact hd
        · exact Region.Holds.concat (k := .line) hp.1 (by simpa [Region.closing] using hc)
        · exact fun d hd => by cases hd
      | code | quoted | blockComment => exact absurd (Piece.stopsAt_blank (fun _ => by simp) h) hstop

theorem LeftOpen.concat_blank {l : List Char} {reason : String} (hl : LeftOpen l reason) {c : Char}
    (h : isBlank c = true) : LeftOpen (l ++ [c]) reason := by
  obtain @⟨ps, k, content, reason, reads, holds, refused⟩ := hl
  rw [List.append_assoc, List.append_assoc]
  refine .intro (reads.mono fun d hd => .inl ?_) (holds.concat ?_) refused
  · rw [List.head?_append_of_ne_nil _ k.opening_ne_nil] at hd ⊢
    exact hd
  · intro hc
    cases k with
    | line => cases refused
    | quotes q =>
      obtain rfl := List.mem_singleton.1 hc
      exact absurd h (by cases q <;> decide)
    | block =>
      simp only [Region.closing, List.mem_cons, List.not_mem_nil, or_false] at hc
      obtain rfl | rfl := hc <;> exact absurd h (by decide)

theorem readStatements_concat_blank {c : Char} (h : isBlank c = true) (l : List Char) :
    readStatements (l ++ [c]) = readStatements l := by
  obtain ⟨ps, rfl, hps⟩ | ⟨reason, hopen⟩ := exists_reads l
  · rw [readStatements, readStatements, hps.pieces_eq]
    obtain hread | ⟨qs, content, rfl, hread⟩ := hps.concat_blank h
    · have htext : ps.flatMap Piece.text ++ [c] = (ps ++ [Piece.code c]).flatMap Piece.text := by simp [Piece.text]
      rw [htext, hread.pieces_eq]
      have hsame := statementsOf_append_congr (statementsOf_blank h) [] ps
      rwa [List.append_nil] at hsame
    · have htext : (qs ++ [Piece.lineComment content]).flatMap Piece.text ++ [c] =
          (qs ++ [Piece.lineComment (content ++ [c])]).flatMap Piece.text := by simp [Piece.text]
      rw [htext, hread.pieces_eq]
      exact statementsOf_append_congr (statementsOf_lineComment h content) [] qs
  · rw [readStatements, readStatements, hopen.pieces_eq, (hopen.concat_blank h).pieces_eq]

theorem readStatements_trimStart (l : List Char) : readStatements (trimStart l) = readStatements l := by
  induction l with
  | nil => rfl
  | cons c l ih =>
    cases hc : isBlank c with
    | true => rw [Text.trimStart_of_blank hc, ih, readStatements_blank hc]
    | false => rw [Text.trimStart_of_not_blank hc]

theorem readStatements_trimEnd (l : List Char) : readStatements (trimEnd l) = readStatements l := by
  induction l using List.reverseRecOn with
  | nil => rfl
  | append_singleton l c ih =>
    cases hc : isBlank c with
    | true => rw [Text.trimEnd_concat_of_blank hc, ih, readStatements_concat_blank hc]
    | false => rw [Text.trimEnd_concat_of_not_blank hc]

/-- Blanks at the two ends of a script make no difference, not even to why it is refused. -/
theorem readStatements_trim (l : List Char) : readStatements (trim l) = readStatements l := by
  rw [trim, readStatements_trimEnd, readStatements_trimStart]

/-! ## Statements by themselves -/

theorem statementOf?_eq_some {f : List Piece} {x : List Char} (h : statementOf? f = some x) :
    f.any Piece.isSolid = true ∧ x = trim (textOf f) := by
  rw [statementOf?] at h
  split at h
  · next hsolid => exact ⟨hsolid, (Option.some.inj h).symm⟩
  · cases h

/-- Each statement is all of a fragment. -/
theorem Makes.exists_fragment {ps : List Piece} {xs : List (List Char)} (h : Makes ps xs) {rest : List Char}
    (hreads : Reads ps rest) {x : List Char} (hx : x ∈ xs) :
    ∃ read, Reads read [] ∧ Continues [] read ∧ openBlocks read.reverse = 0 ∧ statementOf? read.reverse = some x := by
  induction h with
  | last hread hclosed => exact ⟨_, hreads.alone, hread, hclosed, Option.mem_toList.1 hx⟩
  | next hread hclosed _ ih =>
    obtain ⟨hfirst, hrest⟩ := reads_append.1 hreads
    obtain hx | hx := List.mem_append.1 hx
    · exact ⟨_, hfirst.alone, hread, hclosed, Option.mem_toList.1 hx⟩
    · exact ih hrest.2.2 hx

theorem allBlank_textOf {f : List Piece} (h : f.any Piece.isSolid = true) : Text.allBlank (textOf f) = false := by
  obtain ⟨p, hp, hsolid⟩ := List.any_eq_true.1 h
  obtain ⟨c, hc, hblank⟩ : ∃ c ∈ p.text, isBlank c = false := by
    cases p with
    | code c => exact ⟨c, List.mem_singleton_self c, by simpa [Piece.isSolid] using hsolid⟩
    | quoted q content => exact ⟨q.opener, List.mem_cons_self, isBlank_delimiter (by cases q <;> decide)⟩
    | lineComment | blockComment => cases hsolid
  have hmem : c ∈ textOf f := List.mem_flatMap.2 ⟨p, List.mem_reverse.2 hp, hc⟩
  rw [Text.allBlank, List.all_eq_false]
  exact ⟨c, hmem, by simp [hblank]⟩

/-- Each statement of a script is a script of this one statement, is not empty, and has no blanks at its ends. -/
theorem split_alone {s : String} {xs : List String} (h : split s = .ok xs) :
    ∀ x ∈ xs, split x = .ok [x] ∧ x ≠ "" ∧ (∀ c ∈ x.toList.head?, isBlank c = false) ∧
      (∀ c ∈ x.toList.getLast?, isBlank c = false) := by
  intro x hx
  obtain ⟨ps, -, hreads, hmakes⟩ := readStatements_eq_ok_iff.1 (split_eq_ok_iff.1 h)
  obtain ⟨read, hread, hcontinues, hclosed, hstatement⟩ := hmakes.exists_fragment hreads (List.mem_map_of_mem hx)
  obtain ⟨hsolid, htrim⟩ := statementOf?_eq_some hstatement
  have halone : readStatements (textOf read.reverse) = .ok [x.toList] := by
    have hall := Makes.last hcontinues hclosed
    rw [hstatement] at hall
    exact readStatements_eq_ok_iff.2 ⟨read, by rw [textOf, List.reverse_reverse], hread, hall⟩
  refine ⟨?_, ?_, ?_, ?_⟩
  · rw [split_eq_ok_iff, htrim, readStatements_trim, halone]
    rfl
  · rintro rfl
    exact Text.trim_ne_nil (allBlank_textOf hsolid) htrim.symm
  · rw [htrim]
    exact Text.not_blank_head_trim _
  · rw [htrim]
    exact Text.not_blank_last_trim _

/-- A trigger with a `CASE` and a comment at its end is a script of one statement where it stands after another. -/
theorem split_alone_trigger :
    split "BEGIN; CREATE TRIGGER t BEGIN SELECT CASE WHEN 1 THEN 2 END; END -- ok \t" =
        .ok ["BEGIN", "CREATE TRIGGER t BEGIN SELECT CASE WHEN 1 THEN 2 END; END -- ok"] ∧
      split "CREATE TRIGGER t BEGIN SELECT CASE WHEN 1 THEN 2 END; END -- ok" =
        .ok ["CREATE TRIGGER t BEGIN SELECT CASE WHEN 1 THEN 2 END; END -- ok"] := by
  have h : split "BEGIN; CREATE TRIGGER t BEGIN SELECT CASE WHEN 1 THEN 2 END; END -- ok \t" =
      .ok ["BEGIN", "CREATE TRIGGER t BEGIN SELECT CASE WHEN 1 THEN 2 END; END -- ok"] := by decide +kernel
  exact ⟨h, (split_alone h _ (.tail _ (.head _))).1⟩

end SchemaMigration.Script
