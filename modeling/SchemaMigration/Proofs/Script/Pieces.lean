import SchemaMigration.Script.Splitter

/-!
# Scripts cut into pieces

`Piece`      : a character of code, or a whole region of quotes or of a comment.
`firstPiece` : the piece that a script begins with and the script after it, or why its region has no end.
`Begins`     : the cases of `firstPiece`.
`pieces`     : all the pieces of a script, or why its last region has no end.

A region goes on to the first place where it can end: quotes to the next closing character, a line comment to the next
line break or the end of the script, a block comment to the first `*/` after its `/*`. All else is code.
-/

namespace SchemaMigration.Script

set_option autoImplicit false

/-! ## Regions -/

/-- A character of code, or a region without its marks. -/
inductive Piece
  | code (c : Char)
  | quoted (q : Quote) (content : List Char)
  | lineComment (content : List Char)
  | blockComment (content : List Char)
  deriving DecidableEq, Repr

def Piece.text : Piece → List Char
  | code c => [c]
  | quoted q content => q.opener :: (content ++ [q.closer])
  | lineComment content => '-' :: '-' :: content
  | blockComment content => '/' :: '*' :: (content ++ ['*', '/'])

/-- What stands before the first `close` and what stands after it. -/
def upTo? (close : Char) : List Char → Option (List Char × List Char)
  | [] => none
  | c :: r => if c == close then some ([], r) else (upTo? close r).map fun p => (c :: p.1, p.2)

/-- What stands before the first `*/` and what stands after it. -/
def upToCommentEnd? : List Char → Option (List Char × List Char)
  | [] => none
  | [_] => none
  | c :: d :: r =>
    if c == '*' && d == '/' then some ([], r) else (upToCommentEnd? (d :: r)).map fun p => (c :: p.1, p.2)

/-- Why quotes that are never closed are refused. -/
def Quote.openReason : Quote → String
  | single => "unterminated string literal"
  | double | backquote | bracket => "unterminated quoted identifier"

/-- The piece that a script begins with and the script after it, or why its region has no end. -/
def firstPiece (c : Char) (r : List Char) : Except String (Piece × List Char) :=
  match Quote.ofOpener? c with
  | some q =>
    match upTo? q.closer r with
    | some (content, rest) => .ok (.quoted q content, rest)
    | none => .error q.openReason
  | none =>
    if c == '-' && r.head? == some '-' then
      .ok (.lineComment (r.tail.takeWhile (· != '\n')), r.tail.dropWhile (· != '\n'))
    else if c == '/' && r.head? == some '*' then
      match upToCommentEnd? r.tail with
      | some (content, rest) => .ok (.blockComment content, rest)
      | none => .error "unterminated block comment"
    else .ok (.code c, r)

/-! ## Nothing is lost -/

theorem upTo?_eq_some {close : Char} {l content rest : List Char} (h : upTo? close l = some (content, rest)) :
    l = content ++ close :: rest := by
  induction l generalizing content with
  | nil => simp [upTo?] at h
  | cons c r ih =>
    rw [upTo?] at h
    split at h
    · next hc =>
      obtain ⟨rfl, rfl⟩ := Prod.mk.inj (Option.some.inj h)
      rw [beq_iff_eq.1 hc, List.nil_append]
    · obtain ⟨⟨x, y⟩, hp, he⟩ := Option.map_eq_some_iff.1 h
      obtain ⟨rfl, rfl⟩ := Prod.mk.inj he
      rw [ih hp, List.cons_append]

theorem upToCommentEnd?_eq_some {l content rest : List Char} (h : upToCommentEnd? l = some (content, rest)) :
    l = content ++ '*' :: '/' :: rest := by
  induction l generalizing content with
  | nil => simp [upToCommentEnd?] at h
  | cons c r ih =>
    cases r with
    | nil => simp [upToCommentEnd?] at h
    | cons d r =>
      rw [upToCommentEnd?] at h
      split at h
      · next hc =>
        obtain ⟨rfl, rfl⟩ := Prod.mk.inj (Option.some.inj h)
        simp only [Bool.and_eq_true, beq_iff_eq] at hc
        rw [hc.1, hc.2, List.nil_append]
      · obtain ⟨⟨x, y⟩, hp, he⟩ := Option.map_eq_some_iff.1 h
        obtain ⟨rfl, rfl⟩ := Prod.mk.inj he
        rw [ih hp, List.cons_append]

theorem Quote.opener_of_ofOpener? {c : Char} {q : Quote} (h : Quote.ofOpener? c = some q) : q.opener = c := by
  unfold Quote.ofOpener? at h
  split at h
  · next hc => rw [← Option.some.inj h, beq_iff_eq.1 hc]; rfl
  split at h
  · next hc => rw [← Option.some.inj h, beq_iff_eq.1 hc]; rfl
  split at h
  · next hc => rw [← Option.some.inj h, beq_iff_eq.1 hc]; rfl
  split at h
  · next hc => rw [← Option.some.inj h, beq_iff_eq.1 hc]; rfl
  · simp at h

/-! ## The first piece, case by case -/

/-- The cases in which a script begins with a piece, or with a region that has no end. -/
inductive Begins : Char → List Char → Except String (Piece × List Char) → Prop
  | quoted {c : Char} {q : Quote} {r content rest : List Char} (opens : Quote.ofOpener? c = some q)
      (closes : upTo? q.closer r = some (content, rest)) : Begins c r (.ok (.quoted q content, rest))
  | openQuotes {c : Char} {q : Quote} {r : List Char} (opens : Quote.ofOpener? c = some q)
      (closes : upTo? q.closer r = none) : Begins c r (.error q.openReason)
  | lineComment (r : List Char) :
      Begins '-' ('-' :: r) (.ok (.lineComment (r.takeWhile (· != '\n')), r.dropWhile (· != '\n')))
  | blockComment {r content rest : List Char} (closes : upToCommentEnd? r = some (content, rest)) :
      Begins '/' ('*' :: r) (.ok (.blockComment content, rest))
  | openComment {r : List Char} (closes : upToCommentEnd? r = none) :
      Begins '/' ('*' :: r) (.error "unterminated block comment")
  | code {c : Char} {r : List Char} (opens : Quote.ofOpener? c = none)
      (pair : ∀ d ∈ r.head?, Mode.pair? .code c d = none) : Begins c r (.ok (.code c, r))

theorem begins_firstPiece (c : Char) (r : List Char) : Begins c r (firstPiece c r) := by
  unfold firstPiece
  cases hq : Quote.ofOpener? c with
  | some q =>
    dsimp only
    split
    · next hr => exact .quoted hq hr
    · next hr => exact .openQuotes hq hr
  | none =>
    dsimp only
    split
    · next hc =>
      simp only [Bool.and_eq_true, beq_iff_eq] at hc
      obtain ⟨t, rfl⟩ := List.head?_eq_some_iff.1 hc.2
      rw [hc.1]
      exact .lineComment t
    · next hline =>
      split
      · next hc =>
        simp only [Bool.and_eq_true, beq_iff_eq] at hc
        obtain ⟨t, rfl⟩ := List.head?_eq_some_iff.1 hc.2
        rw [hc.1, List.tail_cons]
        split
        · next hr => exact .blockComment hr
        · next hr => exact .openComment hr
      · next hblock =>
        refine .code hq fun d hd => ?_
        unfold Mode.pair?
        split <;> simp_all

/-- The first piece and what is left make up the script. -/
theorem firstPiece_text {c : Char} {r rest : List Char} {p : Piece} (h : firstPiece c r = .ok (p, rest)) :
    p.text ++ rest = c :: r := by
  have hb := h ▸ begins_firstPiece c r
  cases hb with
  | quoted opens closes =>
    rw [upTo?_eq_some closes, ← Quote.opener_of_ofOpener? opens]
    simp [Piece.text]
  | lineComment r => simp [Piece.text, List.takeWhile_append_dropWhile]
  | blockComment closes => simp [Piece.text, upToCommentEnd?_eq_some closes]
  | code opens pair => rfl

theorem Piece.text_ne_nil (p : Piece) : p.text ≠ [] := by
  cases p <;> simp [Piece.text]

theorem length_lt_of_firstPiece {c : Char} {r rest : List Char} {p : Piece} (h : firstPiece c r = .ok (p, rest)) :
    rest.length < (c :: r).length := by
  have hp := List.length_pos_iff.2 p.text_ne_nil
  rw [← firstPiece_text h, List.length_append]
  omega

/-! ## All pieces -/

/-- The pieces of a script in order, or why its last region has no end. -/
def pieces (s : List Char) : Except String (List Piece) :=
  match s with
  | [] => .ok []
  | c :: r =>
    match _h : firstPiece c r with
    | .error reason => .error reason
    | .ok (p, rest) => (pieces rest).map (p :: ·)
termination_by s.length
decreasing_by exact length_lt_of_firstPiece _h

theorem pieces_nil : pieces [] = .ok [] := by
  rw [pieces]

theorem pieces_of_error {c : Char} {r : List Char} {reason : String} (h : firstPiece c r = .error reason) :
    pieces (c :: r) = .error reason := by
  rw [pieces]
  split <;> simp_all

theorem pieces_of_ok {c : Char} {r rest : List Char} {p : Piece} (h : firstPiece c r = .ok (p, rest)) :
    pieces (c :: r) = (pieces rest).map (p :: ·) := by
  rw [pieces]
  split <;> simp_all

end SchemaMigration.Script
