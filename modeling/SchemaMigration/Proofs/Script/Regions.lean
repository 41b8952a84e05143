import Mathlib.Data.List.Infix
import SchemaMigration.Proofs.Script.Pieces

/-!
# Pieces and the text they are read from

`Region`           : the kinds of regions, with the marks that open and close them.
`Region.Holds`     : what a region can hold, which is all that does not close it.
`Reads`            : a script that is the text of some pieces and then more is read as these pieces first.
`LeftOpen`         : a script whose last region has no end.
`pieces_eq_ok_iff` : when a script has these pieces.

Whether pieces are read back from their text is a matter of each piece and of the character after it. So what is read
of a script stays as it is when other text follows, or when the content of a region is another one.
-/

namespace SchemaMigration.Script

set_option autoImplicit false

/-! ## Kinds of regions -/

inductive Region
  | quotes (q : Quote)
  | line
  | block
  deriving DecidableEq, Repr

namespace Region

def opening : Region → List Char
  | quotes q => [q.opener]
  | line => ['-', '-']
  | block => ['/', '*']

/-- The mark that a region goes on to. The line break after a comment is code again. -/
def closing : Region → List Char
  | quotes q => [q.closer]
  | line => ['\n']
  | block => ['*', '/']

/-- Whether a region can have this content. -/
def Holds (k : Region) (content : List Char) : Prop := ¬k.closing <:+: content

def piece : Region → List Char → Piece
  | quotes q => .quoted q
  | line => .lineComment
  | block => .blockComment

/-- Why a region without an end is refused. A line comment may go on to the end of the script. -/
def openReason? : Region → Option String
  | quotes q => some q.openReason
  | line => none
  | block => some "unterminated block comment"

theorem holds_nil (k : Region) : k.Holds [] := by
  cases k <;> simp [Holds, closing]

theorem holds_quotes {q : Quote} {content : List Char} : (quotes q).Holds content ↔ q.closer ∉ content :=
  not_congr (List.singleton_infix_iff _ _)

theorem holds_line {content : List Char} : line.Holds content ↔ '\n' ∉ content :=
  not_congr (List.singleton_infix_iff _ _)

theorem holds_block_cons {c : Char} {content : List Char} :
    block.Holds (c :: content) ↔ ¬(c = '*' ∧ content.head? = some '/') ∧ block.Holds content := by
  rw [Holds, Holds, closing, List.infix_cons_iff, not_or, List.cons_prefix_cons]
  refine and_congr_left fun _ => not_congr (and_congr eq_comm ?_)
  cases content with
  | nil => simp
  | cons d content => simp [eq_comm]

/-- The content goes on by a character that is no part of the mark that closes the region. -/
theorem Holds.concat {k : Region} {content : List Char} (h : k.Holds content) {c : Char} (hc : c ∉ k.closing) :
    k.Holds (content ++ [c]) := by
  rw [Holds, List.infix_concat_iff, not_or]
  refine ⟨fun hs => hc ?_, h⟩
  obtain ⟨u, hu⟩ := hs
  have hlast : k.closing.getLast? = some c := by
    have hne : k.closing ≠ [] := by cases k <;> simp [closing]
    rw [← List.getLast?_append_of_ne_nil u hne, hu, List.getLast?_concat]
  exact List.mem_of_getLast? hlast

end Region

/-! ## Where a region ends -/

theorem upTo?_of_not_mem {close : Char} {l : List Char} (h : close ∉ l) : upTo? close l = none := by
  induction l with
  | nil => rfl
  | cons c r ih =>
    obtain ⟨hc, hr⟩ := not_or.1 (mt List.mem_cons.2 h)
    rw [upTo?, if_neg (by simpa using Ne.symm hc), ih hr]
    rfl

theorem upTo?_append {close : Char} {content : List Char} (h : close ∉ content) (rest : List Char) :
    upTo? close (content ++ close :: rest) = some (content, rest) := by
  induction content with
  | nil => simp [upTo?]
  | cons c content ih =>
    obtain ⟨hc, hr⟩ := not_or.1 (mt List.mem_cons.2 h)
    rw [List.cons_append, upTo?, if_neg (by simpa using Ne.symm hc), ih hr]
    rfl

theorem upTo?_cases (close : Char) (l : List Char) :
    (close ∉ l ∧ upTo? close l = none) ∨
      ∃ content rest, l = content ++ close :: rest ∧ close ∉ content ∧ upTo? close l = some (content, rest) := by
  by_cases h : close ∈ l
  · obtain ⟨content, rest, rfl, hc⟩ := List.eq_append_cons_of_mem h
    exact .inr ⟨content, rest, rfl, hc, upTo?_append hc rest⟩
  · exact .inl ⟨h, upTo?_of_not_mem h⟩

theorem upToCommentEnd?_cons {c : Char} {r : List Char} (h : ¬(c = '*' ∧ r.head? = some '/')) :
    upToCommentEnd? (c :: r) = (upToCommentEnd? r).map fun p => (c :: p.1, p.2) := by
  cases r with
  | nil => rfl
  | cons d r => rw [upToCommentEnd?, if_neg (by simpa using h)]

theorem upToCommentEnd?_of_holds {l : List Char} (h : Region.block.Holds l) : upToCommentEnd? l = none := by
  induction l with
  | nil => rfl
  | cons c r ih =>
    obtain ⟨hc, hr⟩ := Region.holds_block_cons.1 h
    rw [upToCommentEnd?_cons hc, ih hr]
    rfl

theorem upToCommentEnd?_append {content : List Char} (h : Region.block.Holds content) (rest : List Char) :
    upToCommentEnd? (content ++ '*' :: '/' :: rest) = some (content, rest) := by
  induction content with
  | nil => simp [upToCommentEnd?]
  | cons c content ih =>
    obtain ⟨hc, hr⟩ := Region.holds_block_cons.1 h
    have hc' : ¬(c = '*' ∧ (content ++ '*' :: '/' :: rest).head? = some '/') := by
      cases content with
      | nil => simp
      | cons d content => simpa using hc
    rw [List.cons_append, upToCommentEnd?_cons hc', ih hr]
    rfl

theorem upToCommentEnd?_cases (l : List Char) :
    (Region.block.Holds l ∧ upToCommentEnd? l = none) ∨
      ∃ content rest, l = content ++ '*' :: '/' :: rest ∧ Region.block.Holds content ∧
        upToCommentEnd? l = some (content, rest) := by
  by_cases h : Region.block.Holds l
  · exact .inl ⟨h, upToCommentEnd?_of_holds h⟩
  · refine .inr ?_
    induction l with
    | nil => exact absurd (Region.holds_nil .block) h
    | cons c r ih =>
      by_cases hc : c = '*' ∧ r.head? = some '/'
      · obtain ⟨rest, rfl⟩ := List.head?_eq_some_iff.1 hc.2
        rw [hc.1]
        exact ⟨[], rest, rfl, Region.holds_nil .block, upToCommentEnd?_append (Region.holds_nil .block) rest⟩
      · obtain ⟨content, rest, hl, hcontent, hup⟩ := ih fun hr => h (Region.holds_block_cons.2 ⟨hc, hr⟩)
        refine ⟨c :: content, rest, by rw [hl]; rfl, Region.holds_block_cons.2 ⟨?_, hcontent⟩, ?_⟩
        · -- what stands after `c` begins as the content does, unless the content is `c` alone
          cases content with
          | nil => simp
          | cons d content => simpa [hl] using hc
        · rw [upToCommentEnd?_cons hc, hup]
          rfl

/-! ## One piece -/

/-- Whether the piece can be read at all: no code opens a region, and no content closes one. -/
def Piece.IsProper : Piece → Prop
  | code c => Quote.ofOpener? c = none
  | quoted q content => (Region.quotes q).Holds content
  | lineComment content => Region.line.Holds content
  | blockComment content => Region.block.Holds content

/-- Whether the piece ends where `d` follows it. -/
def Piece.StopsAt : Piece → Char → Prop
  | code c, d => Mode.pair? .code c d = none
  | lineComment _, d => d = '\n'
  | quoted .., _ | blockComment _, _ => True

theorem ofOpener?_opener (q : Quote) : Quote.ofOpener? q.opener = some q := by
  cases q <;> rfl

theorem firstPiece_opener (q : Quote) (r : List Char) :
    firstPiece q.opener r =
      match upTo? q.closer r with
      | some (content, rest) => .ok (.quoted q content, rest)
      | none => .error q.openReason := by
  cases hend : upTo? q.closer r <;> simp [firstPiece, ofOpener?_opener, hend]

theorem firstPiece_lineMark (r : List Char) :
    firstPiece '-' ('-' :: r) = .ok (.lineComment (r.takeWhile (· != '\n')), r.dropWhile (· != '\n')) := rfl

theorem firstPiece_commentMark (r : List Char) :
    firstPiece '/' ('*' :: r) =
      match upToCommentEnd? r with
      | some (content, rest) => .ok (.blockComment content, rest)
      | none => .error "unterminated block comment" := rfl

theorem firstPiece_code {c : Char} {r : List Char} (opens : Quote.ofOpener? c = none)
    (pair : ∀ d ∈ r.head?, Mode.pair? .code c d = none) : firstPiece c r = .ok (.code c, r) := by
  have hline : ¬(c == '-' && r.head? == some '-') = true := by
    simp only [Bool.and_eq_true, beq_iff_eq]
    rintro ⟨rfl, hd⟩
    cases pair '-' hd
  have hblock : ¬(c == '/' && r.head? == some '*') = true := by
    simp only [Bool.and_eq_true, beq_iff_eq]
    rintro ⟨rfl, hd⟩
    cases pair '*' hd
  rw [firstPiece, opens]
  simp only [if_neg hline, if_neg hblock]

theorem firstPiece_of_stops {p : Piece} (hp : p.IsProper) {c : Char} {r rest : List Char}
    (h : p.text ++ rest = c :: r) (hstop : ∀ d ∈ rest.head?, p.StopsAt d) : firstPiece c r = .ok (p, rest) := by
  cases p with
  | code x =>
    obtain ⟨rfl, rfl⟩ := List.cons.inj h
    exact firstPiece_code hp hstop
  | quoted q content =>
    obtain ⟨rfl, hr⟩ := List.cons.inj h
    have hr' : content ++ q.closer :: rest = r := by simpa using hr
    rw [← hr', firstPiece_opener, upTo?_append (Region.holds_quotes.1 hp)]
  | lineComment content =>
    obtain ⟨rfl, rfl⟩ := List.cons.inj h
    have hcontent : ∀ d ∈ content, (d != '\n') = true := by
      rintro d hd
      rw [bne_iff_ne]
      rintro rfl
      exact Region.holds_line.1 hp hd
    have hrest : rest.takeWhile (· != '\n') = [] ∧ rest.dropWhile (· != '\n') = rest := by
      cases rest with
      | nil => exact ⟨rfl, rfl⟩
      | cons d rest =>
        obtain rfl : d = '\n' := hstop d rfl
        exact ⟨rfl, rfl⟩
    change firstPiece '-' ('-' :: (content ++ rest)) = _
    rw [firstPiece_lineMark, List.takeWhile_append_of_pos hcontent, List.dropWhile_append_of_pos hcontent, hrest.1,
      hrest.2, List.append_nil]
  | blockComment content =>
    obtain ⟨rfl, hr⟩ := List.cons.inj h
    have hr' : '*' :: (content ++ '*' :: '/' :: rest) = r := by simpa using hr
    rw [← hr', firstPiece_commentMark, upToCommentEnd?_append hp]

theorem firstPiece_of_open {k : Region} {reason : String} (hk : k.openReason? = some reason) {content : List Char}
    (hcontent : k.Holds content) {c : Char} {r : List Char} (h : k.opening ++ content = c :: r) :
    firstPiece c r = .error reason := by
  cases k with
  | quotes q =>
    obtain ⟨rfl, rfl⟩ := List.cons.inj h
    change firstPiece q.opener content = _
    rw [firstPiece_opener, upTo?_of_not_mem (Region.holds_quotes.1 hcontent), ← Option.some.inj hk]
  | line => cases hk
  | block =>
    obtain ⟨rfl, rfl⟩ := List.cons.inj h
    change firstPiece '/' ('*' :: content) = _
    rw [firstPiece_commentMark, upToCommentEnd?_of_holds hcontent, ← Option.some.inj hk]

/-- A script begins with a piece that ends where it ends, or with a region that goes on to the end of the script. -/
theorem firstPiece_cases (c : Char) (r : List Char) :
    (∃ (p : Piece) (rest : List Char), p.IsProper ∧ (∀ d ∈ rest.head?, p.StopsAt d) ∧ p.text ++ rest = c :: r) ∨
      ∃ (k : Region) (content : List Char) (reason : String), k.openReason? = some reason ∧ k.Holds content ∧
        k.opening ++ content = c :: r := by
  have hb := begins_firstPiece c r
  generalize firstPiece c r = first at hb
  cases hb with
  | @quoted c q r content rest opens closes | @openQuotes c q r opens closes =>
    rw [← Quote.opener_of_ofOpener? opens]
    obtain ⟨hr, -⟩ | ⟨content, rest, rfl, hcontent, -⟩ := upTo?_cases q.closer r
    · exact .inr ⟨.quotes q, r, _, rfl, Region.holds_quotes.2 hr, rfl⟩
    · exact .inl ⟨.quoted q content, rest, Region.holds_quotes.2 hcontent, fun _ _ => trivial, by simp [Piece.text]⟩
  | lineComment r =>
    refine .inl ⟨.lineComment (r.takeWhile (· != '\n')), r.dropWhile (· != '\n'), ?_, ?_, ?_⟩
    · refine Region.holds_line.2 fun hmem => ?_
      simpa using List.all_eq_true.1 List.all_takeWhile _ hmem
    · intro d hd
      have hdrop := List.head?_dropWhile_not (· != '\n') r
      rw [Option.mem_def.1 hd] at hdrop
      change d = '\n'
      simpa using hdrop
    · simp [Piece.text]
  | @blockComment r _ _ closes | @openComment r closes =>
    obtain ⟨hr, -⟩ | ⟨content, rest, rfl, hcontent, -⟩ := upToCommentEnd?_cases r
    · exact .inr ⟨.block, r, _, rfl, hr, rfl⟩
    · exact .inl ⟨.blockComment content, rest, hcontent, fun _ _ => trivial, by simp [Piece.text]⟩
  | code opens pair => exact .inl ⟨.code c, r, opens, pair, rfl⟩

/-! ## Pieces in a row -/

/-- Whether a script that is the text of the pieces and then `rest` is read as these pieces first. -/
def Reads : List Piece → List Char → Prop
  | [], _ => True
  | p :: ps, rest => p.IsProper ∧ (∀ d ∈ (ps.flatMap Piece.text ++ rest).head?, p.StopsAt d) ∧ Reads ps rest

theorem reads_singleton {p : Piece} {rest : List Char} :
    Reads [p] rest ↔ p.IsProper ∧ ∀ d ∈ rest.head?, p.StopsAt d := by
  simp [Reads]

theorem reads_append {ps qs : List Piece} {rest : List Char} :
    Reads (ps ++ qs) rest ↔ Reads ps (qs.flatMap Piece.text ++ rest) ∧ Reads qs rest := by
  induction ps with
  | nil => simp [Reads]
  | cons p ps ih => simp [Reads, ih, and_assoc]

theorem Piece.stopsAt_lineBreak (p : Piece) : p.StopsAt '\n' := by
  cases p with
  | code c =>
    change Mode.pair? .code c '\n' = none
    unfold Mode.pair?
    split <;> simp_all
  | lineComment => rfl
  | quoted | blockComment => trivial

theorem Reads.mono {ps : List Piece} {rest rest' : List Char} (h : Reads ps rest)
    (hhead : ∀ d ∈ rest'.head?, d ∈ rest.head? ∨ d = '\n') : Reads ps rest' := by
  induction ps with
  | nil => trivial
  | cons p ps ih =>
    obtain ⟨hp, hstop, hps⟩ := h
    refine ⟨hp, fun d hd => ?_, ih hps⟩
    cases ps with
    | nil =>
      obtain hd | rfl := hhead d hd
      · exact hstop d hd
      · exact p.stopsAt_lineBreak
    | cons q ps =>
      have hne : (q :: ps).flatMap Piece.text ≠ [] := List.append_ne_nil_of_left_ne_nil q.text_ne_nil _
      rw [List.head?_append_of_ne_nil _ hne] at hd hstop
      exact hstop d hd

theorem Reads.alone {ps : List Piece} {rest : List Char} (h : Reads ps rest) : Reads ps [] :=
  h.mono fun _ hd => by cases hd

theorem pieces_of_reads {ps : List Piece} {rest : List Char} (h : Reads ps rest) :
    pieces (ps.flatMap Piece.text ++ rest) = (pieces rest).map (ps ++ ·) := by
  induction ps with
  | nil => cases hrest : pieces rest <;> simp [hrest, Except.map]
  | cons p ps ih =>
    obtain ⟨hp, hstop, hps⟩ := h
    obtain ⟨c, r, htext⟩ := List.exists_cons_of_ne_nil p.text_ne_nil
    have hfirst : firstPiece c (r ++ (ps.flatMap Piece.text ++ rest)) = .ok (p, ps.flatMap Piece.text ++ rest) :=
      firstPiece_of_stops hp (by rw [htext, List.cons_append]) hstop
    rw [List.flatMap_cons, List.append_assoc, htext, List.cons_append, pieces_of_ok hfirst, ih hps]
    cases pieces rest <;> rfl

/-- A script that ends in a region without an end, which is refused with this reason. -/
inductive LeftOpen : List Char → String → Prop
  | intro {ps : List Piece} {k : Region} {content : List Char} {reason : String}
      (reads : Reads ps (k.opening ++ content)) (holds : k.Holds content) (refused : k.openReason? = some reason) :
      LeftOpen (ps.flatMap Piece.text ++ (k.opening ++ content)) reason

theorem LeftOpen.cons {p : Piece} {rest : List Char} {reason : String} (hp : p.IsProper)
    (hstop : ∀ d ∈ rest.head?, p.StopsAt d) (h : LeftOpen rest reason) : LeftOpen (p.text ++ rest) reason := by
  obtain ⟨reads, holds, refused⟩ := h
  rw [← List.append_assoc]
  exact @LeftOpen.intro (p :: _) _ _ _ ⟨hp, hstop, reads⟩ holds refused

/-- Every script is the text of pieces that are read off it, or is left open. -/
theorem exists_reads (l : List Char) :
    (∃ ps, l = ps.flatMap Piece.text ∧ Reads ps []) ∨ ∃ reason, LeftOpen l reason := by
  match l with
  | [] => exact .inl ⟨[], rfl, trivial⟩
  | c :: r =>
    obtain ⟨p, rest, hp, hstop, htext⟩ | ⟨k, content, reason, hk, hcontent, htext⟩ := firstPiece_cases c r
    · have hlt : rest.length < (c :: r).length := by
        have := List.length_pos_iff.2 p.text_ne_nil
        rw [← htext, List.length_append]
        omega
      obtain ⟨ps, rfl, hps⟩ | ⟨reason, hopen⟩ := exists_reads rest
      · exact .inl ⟨p :: ps, htext.symm, hp, by simpa using hstop, hps⟩
      · exact .inr ⟨reason, htext ▸ hopen.cons hp hstop⟩
    · exact .inr ⟨reason, htext ▸ @LeftOpen.intro [] _ _ _ trivial hcontent hk⟩
termination_by l.length
decreasing_by exact hlt

theorem Region.opening_ne_nil (k : Region) : k.opening ≠ [] := by
  cases k <;> simp [Region.opening]

theorem LeftOpen.pieces_eq {l : List Char} {reason : String} (h : LeftOpen l reason) : pieces l = .error reason := by
  obtain @⟨ps, k, content, reason, reads, holds, refused⟩ := h
  obtain ⟨c, r, htext⟩ :=
    List.exists_cons_of_ne_nil (List.append_ne_nil_of_left_ne_nil k.opening_ne_nil content)
  rw [pieces_of_reads reads, htext, pieces_of_error (firstPiece_of_open refused holds htext)]
  rfl

theorem Reads.pieces_eq {ps : List Piece} (h : Reads ps []) : pieces (ps.flatMap Piece.text) = .ok ps := by
  have hpieces := pieces_of_reads h
  rw [List.append_nil, pieces_nil] at hpieces
  rw [hpieces]
  simp [Except.map]

theorem pieces_eq_ok_iff {l : List Char} {ps : List Piece} :
    pieces l = .ok ps ↔ l = ps.flatMap Piece.text ∧ Reads ps [] := by
  constructor
  · intro h
    obtain ⟨qs, rfl, hqs⟩ | ⟨reason, hopen⟩ := exists_reads l
    · obtain rfl := Except.ok.inj (h.symm.trans hqs.pieces_eq)
      exact ⟨rfl, hqs⟩
    · cases h.symm.trans hopen.pieces_eq
  · rintro ⟨rfl, hps⟩
    exact hps.pieces_eq

end SchemaMigration.Script
