import SchemaMigration.Proofs.Script.Fragments
import SchemaMigration.Proofs.Script.Head

/-!
# One pass against pieces

`Fragment.Follows` : what the fragment of a pass knows about the pieces it was read from.
`outcome_cons`     : a pass outside regions takes one piece at a time.
`split_eq_readStatements` : one pass finds the statements that the pieces of the script make.
-/

namespace SchemaMigration.Script

set_option autoImplicit false

open Text (isBlank sameIgnoringCase allBlank trim)

/-! ## Regions in a pass -/

/-- The fragment with more text and more code. -/
def Fragment.add (f : Fragment) (text code : List Char) : Fragment :=
  { f with text := text.reverse ++ f.text, code := code.reverse ++ f.code }

theorem Fragment.add_add (f : Fragment) (a b c d : List Char) : (f.add a b).add c d = f.add (a ++ c) (b ++ d) := by
  simp [Fragment.add]

theorem scan_cons {s : Scan} {c : Char} {r : List Char} (h : ∀ d ∈ r.head?, s.mode.pair? c d = none) :
    scan s (c :: r) = scan (s.readOne c) r := by
  cases r with
  | nil => rfl
  | cons d r => rw [scan, h d rfl]

theorem scan_cons_cons {s : Scan} (mode : Mode) {c d : Char} {r : List Char} (h : s.mode.pair? c d = some mode) :
    scan s (c :: d :: r) = scan (s.readPair mode c d) r := by
  rw [scan, h]

theorem readOne_closer (q : Quote) (st : List (List Char)) (f : Fragment) :
    Scan.readOne ⟨.quoted q, st, f⟩ q.closer = ⟨.code, st, f.add [q.closer] [q.closer]⟩ := by
  simp only [Scan.readOne, beq_self_eq_true, if_true]
  rfl

theorem readOne_quoted {q : Quote} {c : Char} (hc : ¬(c == q.closer) = true) (st : List (List Char)) (f : Fragment) :
    Scan.readOne ⟨.quoted q, st, f⟩ c = ⟨.quoted q, st, f.add [c] [mask c]⟩ := by
  simp only [Scan.readOne, if_neg hc]
  rfl

theorem readOne_lineComment {c : Char} (hc : c ≠ '\n') (st : List (List Char)) (f : Fragment) :
    Scan.readOne ⟨.lineComment, st, f⟩ c = ⟨.lineComment, st, f.add [c] []⟩ := by
  simp only [Scan.readOne, beq_iff_eq, if_neg hc]
  rfl

theorem readOne_blockComment (c : Char) (st : List (List Char)) (f : Fragment) :
    Scan.readOne ⟨.blockComment, st, f⟩ c = ⟨.blockComment, st, f.add [c] []⟩ := rfl

theorem pair?_blockComment {c d : Char} (h : ¬(c == '*' && d == '/') = true) : Mode.pair? .blockComment c d = none := by
  unfold Mode.pair?
  split <;> simp_all

theorem scan_quoted {q : Quote} {st : List (List Char)} {f : Fragment} {l content rest : List Char}
    (h : upTo? q.closer l = some (content, rest)) :
    scan ⟨.quoted q, st, f⟩ l =
      scan ⟨.code, st, f.add (content ++ [q.closer]) (content.map mask ++ [q.closer])⟩ rest := by
  induction l generalizing f content with
  | nil => simp [upTo?] at h
  | cons c r ih =>
    rw [scan_cons (fun _ _ => rfl)]
    rw [upTo?] at h
    split at h
    · next hc =>
      obtain ⟨rfl, rfl⟩ := Prod.mk.inj (Option.some.inj h)
      rw [beq_iff_eq.1 hc, readOne_closer]
      rfl
    · next hc =>
      obtain ⟨⟨x, y⟩, hp, he⟩ := Option.map_eq_some_iff.1 h
      obtain ⟨rfl, rfl⟩ := Prod.mk.inj he
      rw [readOne_quoted hc, ih hp, Fragment.add_add]
      rfl

theorem mode_scan_quoted {q : Quote} {st : List (List Char)} {f : Fragment} {l : List Char}
    (h : upTo? q.closer l = none) : (scan ⟨.quoted q, st, f⟩ l).mode = .quoted q := by
  induction l generalizing f with
  | nil => rfl
  | cons c r ih =>
    rw [upTo?] at h
    split at h
    · simp at h
    · next hc =>
      rw [scan_cons (fun _ _ => rfl), readOne_quoted hc]
      exact ih (by simpa using h)

theorem scan_blockComment {st : List (List Char)} {f : Fragment} {l content rest : List Char}
    (h : upToCommentEnd? l = some (content, rest)) :
    scan ⟨.blockComment, st, f⟩ l = scan ⟨.code, st, f.add (content ++ ['*', '/']) []⟩ rest := by
  induction l generalizing f content with
  | nil => simp [upToCommentEnd?] at h
  | cons c r ih =>
    cases r with
    | nil => simp [upToCommentEnd?] at h
    | cons d r =>
      rw [upToCommentEnd?] at h
      split at h
      · next hc =>
        simp only [Bool.and_eq_true, beq_iff_eq] at hc
        obtain ⟨rfl, rfl⟩ := Prod.mk.inj (Option.some.inj h)
        rw [hc.1, hc.2, scan_cons_cons .code rfl]
        rfl
      · next hc =>
        obtain ⟨⟨x, y⟩, hp, he⟩ := Option.map_eq_some_iff.1 h
        obtain ⟨rfl, rfl⟩ := Prod.mk.inj he
        have hpair : ∀ e ∈ (d :: r).head?, Mode.pair? .blockComment c e = none := by
          rintro e ⟨⟩
          exact pair?_blockComment hc
        rw [scan_cons hpair, readOne_blockComment, ih hp, Fragment.add_add]
        rfl

theorem mode_scan_blockComment {st : List (List Char)} {f : Fragment} {l : List Char}
    (h : upToCommentEnd? l = none) : (scan ⟨.blockComment, st, f⟩ l).mode = .blockComment := by
  induction l generalizing f with
  | nil => rfl
  | cons c r ih =>
    cases r with
    | nil => rfl
    | cons d r =>
      rw [upToCommentEnd?] at h
      split at h
      · simp at h
      · next hc =>
        have hpair : ∀ e ∈ (d :: r).head?, Mode.pair? .blockComment c e = none := by
          rintro e ⟨⟩
          exact pair?_blockComment hc
        rw [scan_cons hpair, readOne_blockComment]
        exact ih (by simpa using h)

/-! ## The outcome of a pass -/

/-- What a pass over the rest of a script comes to, with the reason in words. -/
def Scan.outcome (s : Scan) (l : List Char) : Except String (List (List Char)) :=
  (scan s l).finish.mapError Unclosed.message

theorem outcome_of_mode {s : Scan} {l : List Char} {u : Unclosed} (h : (scan s l).mode.unclosed? = some u) :
    s.outcome l = .error u.message := by
  rw [Scan.outcome, Scan.finish, h]
  rfl

/-- A line comment is read up to the line break, which is code again, or to the end. -/
theorem outcome_lineComment {st : List (List Char)} {f : Fragment} (hf : f.word = []) (l : List Char) :
    Scan.outcome ⟨.lineComment, st, f⟩ l =
      Scan.outcome ⟨.code, st, f.add (l.takeWhile (· != '\n')) []⟩ (l.dropWhile (· != '\n')) := by
  induction l generalizing f with
  | nil => rfl
  | cons c r ih =>
    by_cases hc : c = '\n'
    · subst hc
      have hpair : ∀ d ∈ r.head?, Mode.pair? .code '\n' d = none := fun _ _ => rfl
      have hend : f.endWord = f := by
        rw [Fragment.endWord, hf]
        rfl
      have hread : Scan.readOne ⟨.code, st, f.add [] []⟩ '\n' = Scan.readOne ⟨.lineComment, st, f⟩ '\n' := by
        change Scan.mk .code st ((f.endWord.addText '\n').addCode '\n') = _
        rw [hend]
        rfl
      rw [List.takeWhile_cons_of_neg (by simp), List.dropWhile_cons_of_neg (by simp), Scan.outcome, Scan.outcome,
        scan_cons (fun _ _ => rfl), scan_cons hpair, hread]
    · have htail : (f.add [c] []).word = [] := hf
      rw [List.takeWhile_cons_of_pos (by simpa using hc), List.dropWhile_cons_of_pos (by simpa using hc), Scan.outcome,
        scan_cons (fun _ _ => rfl), readOne_lineComment hc, ← Scan.outcome, ih htail, Fragment.add_add]
      rfl

/-! ## One piece at a time -/

/-- The piece as it counts for the code of a fragment: a comment is a blank and quoted characters are masked. -/
def Piece.masked : Piece → List Char
  | code c => [c]
  | quoted q content => q.opener :: (content.map mask ++ [q.closer])
  | lineComment _ | blockComment _ => [' ']

/-- The fragment after a piece that does not end it. -/
def Fragment.read (f : Fragment) : Piece → Fragment
  | .code c => (f.readWord c).add [c] [c]
  | p => f.endWord.add p.text p.masked

/-- The state of a pass outside regions after a piece. -/
def Scan.readPiece (s : Scan) (p : Piece) : Scan :=
  if p == .code ';' && s.fragment.endWord.depth == 0 then { s with fragment := s.fragment.endWord }.flush
  else { s with fragment := s.fragment.read p }

theorem endWord_word (f : Fragment) : f.endWord.word = [] := by
  unfold Fragment.endWord
  split
  · next h => exact List.isEmpty_iff.1 h
  · rfl

theorem readPiece_region {st : List (List Char)} {f : Fragment} {p : Piece} (h : ∀ c, p ≠ .code c) :
    Scan.readPiece ⟨.code, st, f⟩ p = ⟨.code, st, f.endWord.add p.text p.masked⟩ := by
  rw [Scan.readPiece, if_neg (by simp [h])]
  cases p with
  | code c => exact absurd rfl (h c)
  | quoted | lineComment | blockComment => rfl

theorem readPiece_code {st : List (List Char)} {f : Fragment} {c : Char} (h : Quote.ofOpener? c = none) :
    Scan.readPiece ⟨.code, st, f⟩ (.code c) = Scan.readCode ⟨.code, st, f⟩ c := by
  rw [Scan.readPiece, Scan.readCode, h]
  by_cases hc : c = ';'
  · subst hc
    have hread : f.readWord ';' = f.endWord := rfl
    simp only [hread, beq_self_eq_true, Bool.true_and]
    rfl
  · rw [if_neg (by simp [hc]), if_neg (by simp [hc])]
    rfl

theorem isWordPart_opener {c : Char} {q : Quote} (h : Quote.ofOpener? c = some q) : isWordPart c = false := by
  rw [← Quote.opener_of_ofOpener? h]
  cases q <;> decide

theorem readCode_opener {st : List (List Char)} {f : Fragment} {c : Char} {q : Quote}
    (h : Quote.ofOpener? c = some q) :
    Scan.readCode ⟨.code, st, f⟩ c = ⟨.quoted q, st, f.endWord.add [c] [c]⟩ := by
  have hread : f.readWord c = f.endWord := by
    rw [Fragment.readWord, ← isWordPart, isWordPart_opener h, if_neg Bool.false_ne_true]
  have hc : c ≠ ';' := by
    rintro rfl
    simp [Quote.ofOpener?] at h
  rw [Scan.readCode, h, hread, if_neg (by simp [hc])]
  rfl

theorem pair?_opener {c d : Char} {q : Quote} (h : Quote.ofOpener? c = some q) : Mode.pair? .code c d = none := by
  unfold Mode.pair?
  split
  · simp [Quote.ofOpener?] at h
  · simp [Quote.ofOpener?] at h
  · simp_all
  · rfl

theorem scan_opener {st : List (List Char)} {f : Fragment} {c : Char} {r : List Char} {q : Quote}
    (h : Quote.ofOpener? c = some q) :
    scan ⟨.code, st, f⟩ (c :: r) = scan ⟨.quoted q, st, f.endWord.add [c] [c]⟩ r := by
  rw [scan_cons (fun _ _ => pair?_opener h), ← readCode_opener h]
  rfl

theorem scan_lineMark (st : List (List Char)) (f : Fragment) (r : List Char) :
    scan ⟨.code, st, f⟩ ('-' :: '-' :: r) = scan ⟨.lineComment, st, f.endWord.add ['-', '-'] [' ']⟩ r := by
  rw [scan_cons_cons .lineComment rfl]
  rfl

theorem scan_commentMark (st : List (List Char)) (f : Fragment) (r : List Char) :
    scan ⟨.code, st, f⟩ ('/' :: '*' :: r) = scan ⟨.blockComment, st, f.endWord.add ['/', '*'] [' ']⟩ r := by
  rw [scan_cons_cons .blockComment rfl]
  rfl

/-- A pass outside regions takes one piece at a time. -/
theorem outcome_cons (st : List (List Char)) (f : Fragment) (c : Char) (r : List Char) :
    Scan.outcome ⟨.code, st, f⟩ (c :: r) =
      match firstPiece c r with
      | .error reason => .error reason
      | .ok (p, rest) => (Scan.readPiece ⟨.code, st, f⟩ p).outcome rest := by
  have hb := begins_firstPiece c r
  generalize firstPiece c r = first at hb ⊢
  cases hb with
  | @quoted c q r content rest opens closes =>
    dsimp only
    rw [Scan.outcome, scan_opener opens, scan_quoted closes, Fragment.add_add, ← Scan.outcome,
      readPiece_region (p := .quoted q content) (by simp), ← Quote.opener_of_ofOpener? opens]
    rfl
  | @openQuotes c q r opens closes =>
    have hmode : (scan ⟨.code, st, f⟩ (c :: r)).mode = .quoted q := by
      rw [scan_opener opens]
      exact mode_scan_quoted closes
    cases q <;> exact outcome_of_mode (congrArg Mode.unclosed? hmode)
  | lineComment r =>
    dsimp only
    have hword : (f.endWord.add ['-', '-'] [' ']).word = [] := endWord_word f
    rw [Scan.outcome, scan_lineMark, ← Scan.outcome, outcome_lineComment hword, Fragment.add_add,
      readPiece_region (p := .lineComment _) (by simp)]
    rfl
  | @blockComment r content rest closes =>
    dsimp only
    rw [Scan.outcome, scan_commentMark, scan_blockComment closes, Fragment.add_add, ← Scan.outcome,
      readPiece_region (p := .blockComment content) (by simp)]
    rfl
  | openComment closes =>
    have hmode := scan_commentMark st f _ ▸ mode_scan_blockComment closes
    exact outcome_of_mode (congrArg Mode.unclosed? hmode)
  | code opens pair =>
    dsimp only
    rw [Scan.outcome, scan_cons pair, ← Scan.outcome, readPiece_code opens]
    rfl

/-! ## What the code of a fragment decides -/

/-- Masked and unmasked quotes are the same for the head of a trigger. -/
theorem isTriggerHead_masked (u : List Char) (ps : List Piece) :
    isTriggerHead (u ++ ps.flatMap Piece.masked) = isTriggerHead (u ++ ps.flatMap Piece.inHead) := by
  induction ps generalizing u with
  | nil => rfl
  | cons p ps ih =>
    rw [List.flatMap_cons, List.flatMap_cons, ← List.append_assoc, ← List.append_assoc]
    cases p with
    | code | lineComment | blockComment => exact ih _
    | quoted q content =>
      have hd : isDelimiter q.opener = true := by cases q <;> decide
      simp only [Piece.masked, Piece.inHead, Piece.text, List.append_assoc, List.cons_append]
      rw [isTriggerHead_append_delimiter hd, isTriggerHead_append_delimiter hd]

theorem all_isBlank_masked (p : Piece) : p.masked.all isBlank = !p.isSolid := by
  cases p with
  | code c => simp [Piece.masked, Piece.isSolid]
  | quoted q content =>
    have hq : isBlank q.opener = false := isBlank_delimiter (by cases q <;> decide)
    simp [Piece.masked, Piece.isSolid, hq]
  | lineComment | blockComment => rfl

theorem depthAfter_eq (f : Fragment) (word : List Char) :
    f.depthAfter word = blocksAfter word f.code.reverse f.depth := by
  unfold Fragment.depthAfter blocksAfter
  split
  · rfl
  · cases hb : sameIgnoringCase word "BEGIN".toList with
    | true =>
      have he : sameIgnoringCase word "END".toList = false := by
        rw [sameIgnoringCase, beq_iff_eq] at hb
        rw [sameIgnoringCase, hb]
        decide
      simp only [Bool.true_and, if_true, he]
      rfl
    | false => simp only [Bool.false_and, Bool.false_eq_true, if_false]

/-! ## The fragment of a pass -/

/-- The fragment of a pass knows the pieces it was read from: their characters, their code, the word at their end, and
the blocks that were open before that word. -/
structure Fragment.Follows (f : Fragment) (before : List Piece) : Prop where
  text : f.text.reverse = textOf before
  code : f.code.reverse = before.reverse.flatMap Piece.masked
  word : f.word.reverse = lastWord before
  depth : f.depth = openBlocks (beforeLastWord before)

theorem follows_empty : Fragment.empty.Follows [] :=
  ⟨rfl, rfl, rfl, openBlocks_nil.symm⟩

theorem blocksAfter_head (word : List Char) {f : Fragment} {before : List Piece} (h : f.Follows before) (n : Nat) :
    blocksAfter word f.code.reverse n = blocksAfter word (headOf before) n := by
  have hhead := isTriggerHead_masked [] before.reverse
  rw [List.nil_append, List.nil_append, ← h.code] at hhead
  unfold blocksAfter headOf
  rw [hhead]

theorem lastWord_cons_of_inWord {p : Piece} (h : p.inWord = true) (before : List Piece) :
    lastWord (p :: before) = lastWord before ++ p.text := by
  simp [lastWord, textOf, List.takeWhile_cons_of_pos h]

theorem lastWord_cons_of_not_inWord {p : Piece} (h : p.inWord = false) (before : List Piece) :
    lastWord (p :: before) = [] := by
  rw [lastWord, List.takeWhile_cons_of_neg (by simp [h])]
  rfl

theorem lastWord_ne_nil {p : Piece} (h : p.inWord = true) (before : List Piece) : lastWord (p :: before) ≠ [] := by
  rw [lastWord_cons_of_inWord h]
  exact List.append_ne_nil_of_right_ne_nil _ p.text_ne_nil

/-- Once its last word has ended, the fragment of a pass knows how many blocks are open. -/
theorem Fragment.Follows.depth_endWord {f : Fragment} {before : List Piece} (h : f.Follows before) :
    f.endWord.depth = openBlocks before := by
  cases before with
  | nil =>
    have hw : f.word = [] := by simpa [lastWord, textOf] using h.word
    rw [Fragment.endWord, hw, if_pos List.isEmpty_nil, h.depth]
    rfl
  | cons p before =>
    cases hp : p.inWord with
    | true =>
      have hw : f.word.isEmpty = false := by
        rw [List.isEmpty_eq_false_iff, ← List.reverse_ne_nil_iff, h.word]
        exact lastWord_ne_nil hp before
      rw [Fragment.endWord, hw, if_neg Bool.false_ne_true, openBlocks_cons_of_inWord hp]
      dsimp only
      rw [depthAfter_eq, h.word, blocksAfter_head _ h, h.depth, beforeLastWord, beforeLastWord,
        List.dropWhile_cons_of_pos hp]
    | false =>
      have hw : f.word = [] := by simpa [lastWord_cons_of_not_inWord hp] using h.word
      rw [Fragment.endWord, hw, if_pos List.isEmpty_nil, h.depth, beforeLastWord,
        List.dropWhile_cons_of_neg (by simp [hp])]

theorem endWord_text (f : Fragment) : f.endWord.text = f.text := by
  unfold Fragment.endWord
  split <;> rfl

theorem endWord_code (f : Fragment) : f.endWord.code = f.code := by
  unfold Fragment.endWord
  split <;> rfl

theorem Fragment.Follows.add {f : Fragment} {before : List Piece} (h : f.Follows before) {p : Piece}
    (hp : p.inWord = false) : (f.endWord.add p.text p.masked).Follows (p :: before) where
  text := by simp [Fragment.add, endWord_text, h.text, textOf]
  code := by simp [Fragment.add, endWord_code, h.code]
  word := by
    rw [lastWord_cons_of_not_inWord hp, Fragment.add, endWord_word]
    rfl
  depth := by
    rw [beforeLastWord, List.dropWhile_cons_of_neg (by simp [hp]), openBlocks_cons_of_not_inWord hp, ← h.depth_endWord]
    rfl

theorem Fragment.Follows.read {f : Fragment} {before : List Piece} (h : f.Follows before) (p : Piece) :
    (f.read p).Follows (p :: before) := by
  cases p with
  | quoted | lineComment | blockComment => exact h.add rfl
  | code c =>
    cases hc : isWordPart c with
    | false =>
      have hread : f.readWord c = f.endWord := by
        rw [Fragment.readWord, ← isWordPart, hc, if_neg Bool.false_ne_true]
      have hadd := h.add (p := .code c) hc
      rw [Fragment.read, hread]
      exact hadd
    | true =>
      have hp : (Piece.code c).inWord = true := hc
      have hread : f.readWord c = { f with word := c :: f.word } := by
        rw [Fragment.readWord, ← isWordPart, hc, if_pos rfl]
      rw [Fragment.read, hread]
      refine ⟨?_, ?_, ?_, ?_⟩
      · simp [Fragment.add, h.text, textOf, Piece.text]
      · simp [Fragment.add, h.code, Piece.masked]
      · rw [lastWord_cons_of_inWord hp, ← h.word]
        exact List.reverse_cons
      · rw [beforeLastWord, List.dropWhile_cons_of_pos hp, ← beforeLastWord, ← h.depth]
        rfl

theorem Fragment.Follows.statement? {f : Fragment} {before : List Piece} (h : f.Follows before) :
    f.endWord.statement? = statementOf? before := by
  have hblank : allBlank f.endWord.code = !before.any Piece.isSolid := by
    rw [allBlank, endWord_code, ← List.all_reverse, h.code, List.all_flatMap]
    simp [all_isBlank_masked, List.not_any_eq_all_not]
  rw [Fragment.statement?, statementOf?, hblank, endWord_text, h.text]
  cases before.any Piece.isSolid <;> rfl

/-! ## A whole pass -/

theorem statementsOf_cons_of_ends {before : List Piece} {p : Piece} (h : endsFragment before p = true)
    (ps : List Piece) :
    statementsOf before (p :: ps) = (statementsOf [] ps).map ((statementOf? before).toList ++ ·) := by
  simp only [statementsOf, cutFragments, if_pos h]
  split
  · rfl
  · cases hs : statementOf? before <;> simp [Except.map, hs]

theorem statementsOf_cons_of_not_ends {before : List Piece} {p : Piece} (h : endsFragment before p = false)
    (ps : List Piece) : statementsOf before (p :: ps) = statementsOf (p :: before) ps := by
  simp only [statementsOf, cutFragments, h, Bool.false_eq_true, if_false]

theorem outcome_nil {f : Fragment} {before : List Piece} (h : f.Follows before) (st : List (List Char)) :
    Scan.outcome ⟨.code, st, f⟩ [] = (statementsOf before []).map (st.reverse ++ ·) := by
  change Except.mapError Unclosed.message
      (if f.endWord.depth > 0 then .error .block else .ok (f.endWord.statement?.toList ++ st).reverse) =
    Except.map (st.reverse ++ ·)
      (if 0 < openBlocks before then .error "BEGIN or CASE block is missing its END"
      else .ok (([] ++ [before]).filterMap statementOf?))
  rw [h.depth_endWord, h.statement?]
  split
  · rfl
  · change Except.ok ((statementOf? before).toList ++ st).reverse =
      Except.ok (st.reverse ++ ([] ++ [before]).filterMap statementOf?)
    cases hs : statementOf? before <;> simp [hs]

/-- A pass outside regions comes to its statements so far and those that the pieces ahead make. -/
theorem outcome_eq {f : Fragment} {before : List Piece} (h : f.Follows before) (st : List (List Char)) (l : List Char) :
    Scan.outcome ⟨.code, st, f⟩ l = (pieces l >>= statementsOf before).map (st.reverse ++ ·) := by
  -- The fragment under way changes with each piece, and one that is ended starts the next from nothing.
  induction l using pieces.induct generalizing st f before with
  | case1 =>
    rw [pieces_nil]
    exact outcome_nil h st
  | case2 c r reason hfirst =>
    rw [outcome_cons, hfirst, pieces_of_error hfirst]
    rfl
  | case3 c r p rest hfirst ih =>
    have hends : (p == .code ';' && f.endWord.depth == 0) = endsFragment before p := by
      rw [h.depth_endWord, endsFragment]
    rw [outcome_cons, hfirst, pieces_of_ok hfirst]
    dsimp only
    rw [Scan.readPiece, hends]
    cases he : endsFragment before p with
    | true =>
      have hflush : Scan.flush ⟨.code, st, f.endWord⟩ = ⟨.code, (statementOf? before).toList ++ st, .empty⟩ := by
        rw [Scan.flush, h.statement?]
      rw [if_pos rfl, hflush, ih follows_empty]
      cases pieces rest with
      | error reason => rfl
      | ok ps =>
        change (statementsOf [] ps).map _ = (statementsOf before (p :: ps)).map _
        rw [statementsOf_cons_of_ends he]
        cases statementOf? before <;> cases statementsOf [] ps <;> simp [Except.map]
    | false =>
      rw [if_neg Bool.false_ne_true, ih (h.read p)]
      cases pieces rest with
      | error reason => rfl
      | ok ps =>
        change (statementsOf (p :: before) ps).map _ = (statementsOf before (p :: ps)).map _
        rw [statementsOf_cons_of_not_ends he]

/-- One pass finds the statements that the pieces of the script make, or the first reason that there are none. -/
theorem split_eq_readStatements (sql : String) :
    (split sql).mapError Unclosed.message = (readStatements sql.toList).map (·.map String.ofList) := by
  have h := outcome_eq follows_empty [] sql.toList
  have hid : (readStatements sql.toList).map (([] : List (List Char)).reverse ++ ·) = readStatements sql.toList := by
    cases readStatements sql.toList <;> rfl
  rw [← readStatements, hid] at h
  rw [← h, split, splitChars, Scan.outcome, Scan.start]
  cases (scan ⟨.code, [], .empty⟩ sql.toList).finish <;> rfl

end SchemaMigration.Script
