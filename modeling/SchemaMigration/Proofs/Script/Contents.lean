import SchemaMigration.Proofs.Script.Statements

/-!
# The content of regions

`Scan.Reaches` : how far a pass has come.
`HasRegion`    : a region that the pass over a script comes to, closed or not.
`split_region` : another content of a region changes at most the statement that it stands in, and only there.

The pass is in code where a region opens, so everything before the region is made of whole pieces (`Scan.Reaches.leadsTo`).
A region ends words and is never a semicolon, and for the head of a trigger it counts as a blank or as its opening
quote. So two fragments that differ in the content of one region are alike.
-/

namespace SchemaMigration.Script

set_option autoImplicit false

open Text (isBlank trim trimStart trimEnd)

/-! ## The way of a pass -/

/-- The pass that is in the first state with the first text ahead comes to the second state with the second ahead. -/
inductive Scan.Reaches : Scan → List Char → Scan → List Char → Prop
  | here (s : Scan) (l : List Char) : Reaches s l s l
  | one {s t : Scan} {c : Char} {r rest : List Char} (single : ∀ d ∈ r.head?, s.mode.pair? c d = none)
      (next : Reaches (s.readOne c) r t rest) : Reaches s (c :: r) t rest
  | pair {s t : Scan} {mode : Mode} {c d : Char} {r rest : List Char} (mark : s.mode.pair? c d = some mode)
      (next : Reaches (s.readPair mode c d) r t rest) : Reaches s (c :: d :: r) t rest

/-- The text is that of whole pieces up to `rest`. -/
def ReadsTo (rest l : List Char) : Prop := ∃ ps, l = ps.flatMap Piece.text ++ rest ∧ Reads ps rest

/-- The text closes a region of this kind, and what follows is whole pieces up to `rest`. -/
def ClosesTo (rest : List Char) (k : Region) (l : List Char) : Prop :=
  ∃ content l', k.Holds content ∧ l = content ++ (k.closing ++ l') ∧ ReadsTo rest l'

def Mode.region? : Mode → Option Region
  | code => none
  | quoted q => some (.quotes q)
  | lineComment => some .line
  | blockComment => some .block

/-- What is ahead of a pass in this mode if it comes to `rest` outside regions. -/
def Mode.LeadsTo (rest : List Char) (m : Mode) (l : List Char) : Prop :=
  match m.region? with
  | none => ReadsTo rest l
  | some k => ClosesTo rest k l

theorem ReadsTo.piece {rest l : List Char} (h : ReadsTo rest l) {p : Piece} (hp : p.IsProper)
    (hstop : ∀ d ∈ l.head?, p.StopsAt d) : ReadsTo rest (p.text ++ l) := by
  obtain ⟨ps, rfl, hps⟩ := h
  exact ⟨p :: ps, by simp, hp, hstop, hps⟩

/-- A region that is closed is a piece. -/
theorem ClosesTo.readsTo {rest l : List Char} {k : Region} (h : ClosesTo rest k l) : ReadsTo rest (k.opening ++ l) := by
  obtain ⟨content, l', hcontent, rfl, hl⟩ := h
  cases k with
  | quotes q =>
    have := hl.piece (p := .quoted q content) hcontent fun _ _ => trivial
    simpa [Piece.text, Region.opening, Region.closing] using this
  | line =>
    have hbreak := hl.piece (p := .code '\n') rfl fun d _ => rfl
    have := hbreak.piece (p := .lineComment content) hcontent fun d hd => (Option.some.inj hd).symm
    simpa [Piece.text, Region.opening, Region.closing] using this
  | block =>
    have := hl.piece (p := .blockComment content) hcontent fun _ _ => trivial
    simpa [Piece.text, Region.opening, Region.closing] using this

theorem ReadsTo.closesTo {rest l : List Char} (h : ReadsTo rest l) (k : Region) : ClosesTo rest k (k.closing ++ l) :=
  ⟨[], l, k.holds_nil, rfl, h⟩

/-- Whether a region goes on over `c` with `r` ahead. -/
def Region.GoesOn : Region → Char → List Char → Prop
  | quotes q, c, _ => c ≠ q.closer
  | line, c, _ => c ≠ '\n'
  | block, c, r => ¬(c = '*' ∧ r.head? = some '/')

theorem ClosesTo.cons {rest r : List Char} {k : Region} {c : Char} (h : ClosesTo rest k r) (hc : k.GoesOn c r) :
    ClosesTo rest k (c :: r) := by
  obtain ⟨content, l', hcontent, rfl, hl⟩ := h
  refine ⟨c :: content, l', ?_, rfl, hl⟩
  cases k with
  | quotes q =>
    rw [Region.holds_quotes] at hcontent ⊢
    exact List.not_mem_cons_of_ne_of_not_mem (Ne.symm hc) hcontent
  | line =>
    rw [Region.holds_line] at hcontent ⊢
    exact List.not_mem_cons_of_ne_of_not_mem (Ne.symm hc) hcontent
  | block =>
    refine Region.holds_block_cons.2 ⟨?_, hcontent⟩
    cases content with
    | nil => simp
    | cons d content => exact hc

theorem mode_readCode (st : List (List Char)) (f : Fragment) (c : Char) :
    (Scan.readCode ⟨.code, st, f⟩ c).mode = ((Quote.ofOpener? c).map Mode.quoted).getD .code := by
  rw [Scan.readCode]
  split
  · next hc =>
    simp only [Bool.and_eq_true, beq_iff_eq] at hc
    rw [hc.1]
    rfl
  · cases Quote.ofOpener? c <;> rfl

theorem mode_readPair (s : Scan) (mode : Mode) (c d : Char) : (s.readPair mode c d).mode = mode := rfl

theorem Scan.Reaches.leadsTo {s t : Scan} {l rest : List Char} (h : Reaches s l t rest) (ht : t.mode = .code) :
    s.mode.LeadsTo rest l := by
  -- from the last step back: a step in code is a piece or opens a region, a step in a region goes on with it or closes it
  induction h with
  | here s l =>
    rw [ht]
    exact ⟨[], rfl, trivial⟩
  | @one s t c r rest single _ ih =>
    have hr := ih ht
    obtain ⟨mode, st, f⟩ := s
    cases mode with
    | code =>
      rw [Scan.readOne, mode_readCode] at hr
      cases hq : Quote.ofOpener? c with
      | none =>
        rw [hq] at hr
        exact hr.piece (p := .code c) hq single
      | some q =>
        rw [hq] at hr
        rw [← Quote.opener_of_ofOpener? hq]
        exact hr.readsTo
    | quoted q =>
      by_cases hc : c = q.closer
      · rw [hc, readOne_closer] at hr
        rw [hc]
        exact hr.closesTo (.quotes q)
      · rw [readOne_quoted (by simpa using hc)] at hr
        exact hr.cons hc
    | lineComment =>
      by_cases hc : c = '\n'
      · subst hc
        exact ReadsTo.closesTo hr .line
      · rw [readOne_lineComment hc] at hr
        exact hr.cons hc
    | blockComment =>
      refine ClosesTo.cons (k := .block) hr ?_
      rintro ⟨rfl, hd⟩
      cases single '/' hd
  | @pair s t mode c d r rest mark _ ih =>
    have hr := ih ht
    rw [mode_readPair] at hr
    generalize s.mode = m at mark ⊢
    unfold Mode.pair? at mark
    split at mark
    · obtain rfl := Option.some.inj mark
      exact hr.readsTo
    · obtain rfl := Option.some.inj mark
      exact hr.readsTo
    · obtain rfl := Option.some.inj mark
      exact hr.closesTo .block
    · cases mark

/-! ## Fragments with a region -/

theorem Region.inWord_piece (k : Region) (content : List Char) : (k.piece content).inWord = false := by
  cases k <;> rfl

theorem Region.endsFragment_piece (k : Region) (content : List Char) (before : List Piece) :
    endsFragment before (k.piece content) = false := by
  cases k <;> rfl

theorem Region.isTriggerHead_piece (k : Region) (content content' u v : List Char) :
    isTriggerHead (u ++ ((k.piece content).inHead ++ v)) = isTriggerHead (u ++ ((k.piece content').inHead ++ v)) := by
  cases k with
  | quotes q =>
    have hd : isDelimiter q.opener = true := by cases q <;> decide
    have hquoted (x : List Char) :
        isTriggerHead (u ++ ((Piece.quoted q x).inHead ++ v)) = isTriggerHead u :=
      isTriggerHead_append_delimiter hd u _
    exact (hquoted content).trans (hquoted content').symm
  | line | block => rfl

/-- The content of a region is no matter for the pieces that follow it. -/
theorem alike_piece (k : Region) (content content' : List Char) (f : List Piece) :
    Alike (k.piece content :: f) (k.piece content' :: f) where
  left := List.takeWhile_cons_of_neg (by simp [k.inWord_piece])
  right := List.takeWhile_cons_of_neg (by simp [k.inWord_piece])
  blocks := by rw [openBlocks_cons_of_not_inWord (k.inWord_piece _), openBlocks_cons_of_not_inWord (k.inWord_piece _)]
  head u := by
    have hhead (x : List Char) : headOf (k.piece x :: f) ++ u = headOf f ++ ((k.piece x).inHead ++ u) := by
      simp [headOf]
    rw [hhead, hhead, k.isTriggerHead_piece]

theorem Region.exists_piece_text (k : Region) (content : List Char) :
    ∃ d r, (k.piece content).text = d :: r ∧ isBlank d = false := by
  cases k with
  | quotes q => exact ⟨_, _, rfl, isBlank_delimiter (by cases q <;> decide)⟩
  | line | block => exact ⟨_, _, rfl, by decide⟩

/-- The statement that a fragment with a region is, if it is one, has the content of the region and is else the same. -/
theorem statementOf?_region (k : Region) (f more : List Piece) :
    (∀ content, statementOf? (more.reverse ++ k.piece content :: f) = none) ∨
      ∀ content, statementOf? (more.reverse ++ k.piece content :: f) =
        some (trimEnd (trimStart (textOf f) ++ ((k.piece content).text ++ more.flatMap Piece.text))) := by
  have hsolid (content : List Char) : (more.reverse ++ k.piece content :: f).any Piece.isSolid =
      (more.reverse ++ k.piece [] :: f).any Piece.isSolid := by
    cases k <;> simp [Region.piece, Piece.isSolid]
  have htrim (content : List Char) : trim (textOf (more.reverse ++ k.piece content :: f)) =
      trimEnd (trimStart (textOf f) ++ ((k.piece content).text ++ more.flatMap Piece.text)) := by
    have htext : textOf (more.reverse ++ k.piece content :: f) =
        textOf f ++ ((k.piece content).text ++ more.flatMap Piece.text) := by simp [textOf]
    obtain ⟨d, r, hpiece, hd⟩ := k.exists_piece_text content
    rw [trim, htext, hpiece, List.cons_append, Text.trimStart_append_of_not_blank hd]
  cases hany : (more.reverse ++ k.piece [] :: f).any Piece.isSolid with
  | false => exact .inl fun content => by rw [statementOf?, hsolid, hany, if_neg Bool.false_ne_true]
  | true => exact .inr fun content => by rw [statementOf?, hsolid, hany, if_pos rfl, htrim]

/-! ## Statements after a region -/

/-- The pieces after a region make the same outcome whatever its content is, but for the statement that it stands in. -/
theorem statementsOf_cons_region (k : Region) (f qs : List Piece) :
    (∃ r, ∀ content, statementsOf (k.piece content :: f) qs = r) ∨
      ∃ ys v, v <+: qs.flatMap Piece.text ∧ ∀ content, statementsOf (k.piece content :: f) qs =
        .ok (trimEnd (trimStart (textOf f) ++ ((k.piece content).text ++ v)) :: ys) := by
  obtain ⟨more, hmore, hqs⟩ := exists_continues (k.piece [] :: f) qs
  have hgoes (content : List Char) : Continues (k.piece content :: f) more :=
    (alike_piece k [] content f).continues_append [] hmore
  have hblocks (content : List Char) : openBlocks (more.reverse ++ k.piece content :: f) =
      openBlocks (more.reverse ++ k.piece [] :: f) := (alike_piece k content [] f).openBlocks_append _
  obtain rfl | ⟨qs, rfl, hclosed⟩ := hqs
  · have hlast (content : List Char) : statementsOf (k.piece content :: f) qs =
        if 0 < openBlocks (qs.reverse ++ k.piece [] :: f) then .error "BEGIN or CASE block is missing its END"
        else .ok (statementOf? (qs.reverse ++ k.piece content :: f)).toList := by
      rw [← hblocks, ← statementsOf_nil, ← (hgoes content).statementsOf_append, List.append_nil]
    split at hlast
    · exact .inl ⟨_, hlast⟩
    · obtain hnone | hsome := statementOf?_region k f qs
      · exact .inl ⟨.ok [], fun content => by rw [hlast, hnone]; rfl⟩
      · exact .inr ⟨[], _, List.prefix_rfl, fun content => by rw [hlast, hsome]; rfl⟩
  · have hnext (content : List Char) : statementsOf (k.piece content :: f) (more ++ .code ';' :: qs) =
        (statementsOf [] qs).map ((statementOf? (more.reverse ++ k.piece content :: f)).toList ++ ·) := by
      rw [(hgoes content).statementsOf_append, statementsOf_terminator ((hblocks content).trans hclosed)]
    cases hrest : statementsOf [] qs with
    | error reason => exact .inl ⟨.error reason, fun content => by rw [hnext, hrest]; rfl⟩
    | ok ys =>
      obtain hnone | hsome := statementOf?_region k f more
      · exact .inl ⟨.ok ys, fun content => by rw [hnext, hrest, hnone]; rfl⟩
      · refine .inr ⟨ys, more.flatMap Piece.text, ?_, fun content => by rw [hnext, hrest, hsome]; rfl⟩
        rw [List.flatMap_append]
        exact List.prefix_append _ _

/-- The same for pieces with a region among them: fragments that end before the region are the same for every content. -/
theorem statementsOf_region (k : Region) (ps qs : List Piece) :
    (∃ r, ∀ content, statementsOf [] (ps ++ k.piece content :: qs) = r) ∨
      ∃ xs ys u v, u <:+ ps.flatMap Piece.text ∧ v <+: qs.flatMap Piece.text ∧
        ∀ content, statementsOf [] (ps ++ k.piece content :: qs) =
          .ok (xs ++ trimEnd (u ++ ((k.piece content).text ++ v)) :: ys) := by
  obtain ⟨read, hread, hps | ⟨ps', hps, hclosed⟩⟩ := exists_continues [] ps
  · have hhere (content : List Char) : statementsOf [] (ps ++ k.piece content :: qs) =
        statementsOf (k.piece content :: read.reverse) qs := by
      rw [hps, hread.statementsOf_append, List.append_nil,
        statementsOf_cons_of_not_ends (k.endsFragment_piece content _)]
    obtain ⟨r, hr⟩ | ⟨ys, v, hv, hr⟩ := statementsOf_cons_region k read.reverse qs
    · exact .inl ⟨r, fun content => (hhere content).trans (hr content)⟩
    · refine .inr ⟨[], ys, trimStart (textOf read.reverse), v, ?_, hv, fun content => (hhere content).trans (hr content)⟩
      have htext : textOf read.reverse = ps.flatMap Piece.text := by rw [textOf, List.reverse_reverse, hps]
      rw [← htext]
      exact Text.trimStart_suffix _
  · rw [List.append_nil] at hclosed
    have hnext (content : List Char) : statementsOf [] (ps ++ k.piece content :: qs) =
        (statementsOf [] (ps' ++ k.piece content :: qs)).map ((statementOf? read.reverse).toList ++ ·) := by
      rw [hps, List.append_assoc, List.cons_append, hread.statementsOf_next hclosed]
    obtain ⟨r, hr⟩ | ⟨xs, ys, u, v, hu, hv, hr⟩ := statementsOf_region k ps' qs
    · exact .inl ⟨_, fun content => by rw [hnext, hr]⟩
    · refine .inr ⟨(statementOf? read.reverse).toList ++ xs, ys, u, v, ?_, hv, fun content => ?_⟩
      · refine hu.trans ?_
        rw [hps, List.flatMap_append, List.flatMap_cons, ← List.append_assoc]
        exact List.suffix_append _ _
      · rw [hnext, hr, List.append_assoc]
        rfl
termination_by ps.length
decreasing_by
  rw [hps, List.length_append, List.length_cons]
  omega

/-! ## A region of a script -/

/-- A text with a region of this kind in it, without the mark that closes it, which may be the beginning of `after`. -/
def Region.between (k : Region) (before content after : List Char) : List Char :=
  before ++ (k.opening ++ (content ++ after))

/-- A region of a script that its pass comes to: it opens in code, holds `content`, and goes on to the mark that closes
it or to the end of the script. -/
structure HasRegion (k : Region) (before content after : List Char) : Prop where
  opens : ∃ s : Scan, s.mode = .code ∧
    Scan.Reaches .start (k.between before content after) s (k.opening ++ (content ++ after))
  holds : k.Holds content
  ends : after = [] ∨ k.closing <+: after

/-- Where a region goes on to the end of the script it is refused, or else it is a piece. -/
theorem Region.ends_cases {k : Region} {after : List Char} (h : after = [] ∨ k.closing <+: after) :
    (after = [] ∧ ∃ reason, k.openReason? = some reason) ∨
      ∃ tail rest, after = tail ++ rest ∧ ∀ content, k.Holds content →
        (k.piece content).text = k.opening ++ (content ++ tail) ∧ Reads [k.piece content] rest := by
  cases k with
  | quotes q =>
    obtain rfl | ⟨rest, rfl⟩ := h
    · exact .inl ⟨rfl, _, rfl⟩
    · exact .inr ⟨[q.closer], rest, rfl, fun content hc => ⟨rfl, reads_singleton.2 ⟨hc, fun _ _ => trivial⟩⟩⟩
  | line =>
    refine .inr ⟨[], after, rfl, fun content hc => ⟨by simp [Region.piece, Piece.text, Region.opening], ?_⟩⟩
    refine reads_singleton.2 ⟨hc, fun d hd => ?_⟩
    obtain rfl | ⟨rest, rfl⟩ := h
    · cases hd
    · exact (Option.some.inj hd).symm
  | block =>
    obtain rfl | ⟨rest, rfl⟩ := h
    · exact .inl ⟨rfl, _, rfl⟩
    · exact .inr ⟨['*', '/'], rest, rfl, fun content hc => ⟨rfl, reads_singleton.2 ⟨hc, fun _ _ => trivial⟩⟩⟩

theorem HasRegion.exists_reads {k : Region} {before content after : List Char} (h : HasRegion k before content after) :
    ∃ ps, before = ps.flatMap Piece.text ∧ ∀ rest, Reads ps (k.opening ++ rest) := by
  obtain ⟨s, hs, hreaches⟩ := h.opens
  obtain ⟨ps, htext, hps⟩ : ReadsTo _ _ := hreaches.leadsTo hs
  refine ⟨ps, List.append_cancel_right htext, fun rest => hps.mono fun d hd => .inl ?_⟩
  rw [List.head?_append_of_ne_nil _ k.opening_ne_nil] at hd ⊢
  exact hd

/-- A script with a region that is a piece is read as the pieces before it, the region and what follows. -/
theorem pieces_between {k : Region} {ps : List Piece} (hps : ∀ l, Reads ps (k.opening ++ l)) {x tail rest : List Char}
    (htext : (k.piece x).text = k.opening ++ (x ++ tail)) (hx : Reads [k.piece x] rest) :
    pieces (k.between (ps.flatMap Piece.text) x (tail ++ rest)) = (pieces rest).map (ps ++ [k.piece x] ++ ·) := by
  have hopening : [k.piece x].flatMap Piece.text ++ rest = k.opening ++ (x ++ tail ++ rest) := by simp [htext]
  have hall : Reads (ps ++ [k.piece x]) rest := by
    refine reads_append.2 ⟨?_, hx⟩
    rw [hopening]
    exact hps _
  rw [← pieces_of_reads hall]
  simp [Region.between, htext]

theorem readStatements_region {k : Region} {before content after : List Char} (h : HasRegion k before content after) :
    (∃ r, ∀ x, k.Holds x → readStatements (k.between before x after) = r) ∨
      ∃ xs ys u v, u <:+ before ∧ v <+: after ∧ ∀ x, k.Holds x →
        readStatements (k.between before x after) = .ok (xs ++ trimEnd (k.between u x v) :: ys) := by
  obtain ⟨ps, rfl, hps⟩ := h.exists_reads
  obtain ⟨rfl, reason, hreason⟩ | ⟨tail, rest, rfl, hpiece⟩ := Region.ends_cases h.ends
  · refine .inl ⟨.error reason, fun x hx => ?_⟩
    rw [readStatements, Region.between, List.append_nil, (LeftOpen.intro (hps x) hx hreason).pieces_eq]
    rfl
  · have hread (x : List Char) (hx : k.Holds x) := pieces_between hps (hpiece x hx).1 (hpiece x hx).2
    cases hrest : pieces rest with
    | error reason =>
      refine .inl ⟨.error reason, fun x hx => ?_⟩
      rw [readStatements, hread x hx, hrest]
      rfl
    | ok qs =>
      have hstatements (x : List Char) (hx : k.Holds x) :
          readStatements (k.between (ps.flatMap Piece.text) x (tail ++ rest)) =
            statementsOf [] (ps ++ k.piece x :: qs) := by
        rw [readStatements, hread x hx, hrest]
        change statementsOf [] (ps ++ [k.piece x] ++ qs) = _
        rw [List.append_assoc]
        rfl
      obtain ⟨r, hr⟩ | ⟨xs, ys, u, v, hu, hv, hr⟩ := statementsOf_region k ps qs
      · exact .inl ⟨r, fun x hx => (hstatements x hx).trans (hr x)⟩
      · refine .inr ⟨xs, ys, u, tail ++ v, hu, ?_, fun x hx => ?_⟩
        · rw [(pieces_eq_ok_iff.1 hrest).1]
          exact (List.prefix_append_right_inj tail).2 hv
        · rw [hstatements x hx, hr, (hpiece x hx).1]
          simp [Region.between]

/-- The outcome of a script does not depend on the content of a region, but for the statement that the region stands in,
which has the content there and is else the same up to blanks at its end. -/
theorem split_region {k : Region} {before content after : List Char} (h : HasRegion k before content after) :
    (∃ outcome, ∀ x, k.Holds x → split (String.ofList (k.between before x after)) = outcome) ∨
      ∃ xs ys u v, u <:+ before ∧ v <+: after ∧ ∀ x, k.Holds x →
        split (String.ofList (k.between before x after)) =
          .ok (xs ++ String.ofList (trimEnd (k.between u x v)) :: ys) := by
  obtain ⟨r, hr⟩ | ⟨xs, ys, u, v, hu, hv, hr⟩ := readStatements_region h
  · refine .inl ⟨split (String.ofList (k.between before [] after)), fun x hx => ?_⟩
    have hsame : splitChars (k.between before x after) = splitChars (k.between before [] after) := by
      apply mapError_message_inj
      rw [mapError_splitChars, mapError_splitChars, hr x hx, hr [] k.holds_nil]
    rw [split, split, String.toList_ofList, String.toList_ofList, hsame]
  · refine .inr ⟨xs.map String.ofList, ys.map String.ofList, u, v, hu, hv, fun x hx => ?_⟩
    rw [split_eq_ok_iff, String.toList_ofList, hr x hx]
    simp [Function.comp_def]

/-- Whatever a string literal holds, there is one statement that has it, and the statements around it are the same. -/
theorem split_region_literal :
    HasRegion (.quotes .single) "A; B ".toList "x".toList "'; C".toList ∧
      ∃ xs ys u v, u <:+ "A; B ".toList ∧ v <+: "'; C".toList ∧ ∀ x, (Region.quotes .single).Holds x →
        split (String.ofList ((Region.quotes .single).between "A; B ".toList x "'; C".toList)) =
          .ok (xs ++ String.ofList (trimEnd ((Region.quotes .single).between u x v)) :: ys) := by
  have h : HasRegion (.quotes .single) "A; B ".toList "x".toList "'; C".toList := by
    refine ⟨⟨"A; B ".toList.foldl Scan.readOne .start, rfl, ?_⟩, Region.holds_quotes.2 (by decide), .inr (by decide)⟩
    refine .one ?_ <| .one ?_ <| .one ?_ <| .one ?_ <| .one ?_ <| .here _ _
    all_goals
      rintro _ ⟨⟩
      rfl
  refine ⟨h, ?_⟩
  obtain ⟨outcome, hsame⟩ | hone := split_region h
  · have hx := (hsame ['x'] (Region.holds_quotes.2 (by decide))).trans (hsame [] (Region.holds_nil _)).symm
    exact absurd hx (by decide +kernel)
  · exact hone

end SchemaMigration.Script
