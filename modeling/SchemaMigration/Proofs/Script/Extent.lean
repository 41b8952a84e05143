import SchemaMigration.Proofs.Script.Regions
import SchemaMigration.Proofs.Script.Split
import SchemaMigration.Proofs.Text.Trim

/-!
# One fragment at a time

`Continues` : pieces that go on a fragment and do not end it.
`Makes`     : the statements that pieces make, one fragment after another; `makes_iff` says that they are all of them.
`Alike`     : two fragments that cannot be told apart by whether blocks are open, now or after more pieces.

Blanks at the start of a fragment, blanks at its end and the content of its regions leave it alike.
-/

namespace SchemaMigration.Script

set_option autoImplicit false

open Text (isBlank trim isAlphanumeric)

/-! ## Fragments that go on -/

/-- Whether none of the pieces ends the fragment that `before` begins. -/
def Continues : List Piece → List Piece → Prop
  | _, [] => True
  | before, p :: ps => endsFragment before p = false ∧ Continues (p :: before) ps

theorem Continues.statementsOf_append {before ps : List Piece} (h : Continues before ps) (qs : List Piece) :
    statementsOf before (ps ++ qs) = statementsOf (ps.reverse ++ before) qs := by
  induction ps generalizing before with
  | nil => rfl
  | cons p ps ih =>
    rw [List.cons_append, statementsOf_cons_of_not_ends h.1, ih h.2, List.reverse_cons, List.append_assoc]
    rfl

theorem statementsOf_nil (before : List Piece) :
    statementsOf before [] =
      if 0 < openBlocks before then .error "BEGIN or CASE block is missing its END"
      else .ok (statementOf? before).toList := by
  have hlast : [before].filterMap statementOf? = (statementOf? before).toList := by
    cases h : statementOf? before <;> simp [h]
  simp only [statementsOf, cutFragments, List.nil_append, hlast]

theorem statementsOf_terminator {before : List Piece} (h : openBlocks before = 0) (ps : List Piece) :
    statementsOf before (.code ';' :: ps) = (statementsOf [] ps).map ((statementOf? before).toList ++ ·) :=
  statementsOf_cons_of_ends (by simp [endsFragment, h]) ps

/-- A fragment goes on to the last piece or to a semicolon outside blocks. -/
theorem exists_continues (before ps : List Piece) :
    ∃ read, Continues before read ∧
      (ps = read ∨ ∃ qs, ps = read ++ .code ';' :: qs ∧ openBlocks (read.reverse ++ before) = 0) := by
  induction ps generalizing before with
  | nil => exact ⟨[], trivial, .inl rfl⟩
  | cons p ps ih =>
    cases hp : endsFragment before p with
    | true =>
      simp only [endsFragment, Bool.and_eq_true, beq_iff_eq] at hp
      exact ⟨[], trivial, .inr ⟨ps, by rw [hp.1]; rfl, hp.2⟩⟩
    | false =>
      obtain ⟨read, hread, rfl | ⟨qs, rfl, hopen⟩⟩ := ih (p :: before)
      · exact ⟨p :: ps, ⟨hp, hread⟩, .inl rfl⟩
      · exact ⟨p :: read, ⟨hp, hread⟩, .inr ⟨qs, rfl, by simpa using hopen⟩⟩

/-! ## Statements fragment by fragment -/

/-- The statements that pieces make: those of their fragments, in order. -/
inductive Makes : List Piece → List (List Char) → Prop
  | last {read : List Piece} (continues : Continues [] read) (closed : openBlocks read.reverse = 0) :
      Makes read (statementOf? read.reverse).toList
  | next {read ps : List Piece} {xs : List (List Char)} (continues : Continues [] read)
      (closed : openBlocks read.reverse = 0) (rest : Makes ps xs) :
      Makes (read ++ .code ';' :: ps) ((statementOf? read.reverse).toList ++ xs)

theorem Continues.statementsOf_nil {read : List Piece} (h : Continues [] read) :
    statementsOf [] read =
      if 0 < openBlocks read.reverse then .error "BEGIN or CASE block is missing its END"
      else .ok (statementOf? read.reverse).toList := by
  have hall := h.statementsOf_append []
  rwa [List.append_nil, List.append_nil, Script.statementsOf_nil] at hall

theorem Continues.statementsOf_next {read : List Piece} (h : Continues [] read) (hclosed : openBlocks read.reverse = 0)
    (ps : List Piece) :
    statementsOf [] (read ++ .code ';' :: ps) =
      (statementsOf [] ps).map ((statementOf? read.reverse).toList ++ ·) := by
  rw [h.statementsOf_append, List.append_nil, statementsOf_terminator hclosed]

theorem makes_of_statementsOf {ps : List Piece} {xs : List (List Char)} (h : statementsOf [] ps = .ok xs) :
    Makes ps xs := by
  obtain ⟨read, hread, hps | ⟨qs, hps, hclosed⟩⟩ := exists_continues [] ps
  · rw [hps, hread.statementsOf_nil] at h
    split at h
    · cases h
    · next hclosed =>
      rw [hps, ← Except.ok.inj h]
      exact .last hread (Nat.eq_zero_of_not_pos hclosed)
  · rw [List.append_nil] at hclosed
    rw [hps, hread.statementsOf_next hclosed] at h
    cases hrest : statementsOf [] qs with
    | error reason =>
      rw [hrest] at h
      cases h
    | ok ys =>
      rw [hrest] at h
      rw [hps, ← Except.ok.inj h]
      exact .next hread hclosed (makes_of_statementsOf hrest)
termination_by ps.length
decreasing_by
  rw [hps, List.length_append, List.length_cons]
  omega

theorem makes_iff {ps : List Piece} {xs : List (List Char)} : statementsOf [] ps = .ok xs ↔ Makes ps xs := by
  refine ⟨makes_of_statementsOf, fun h => ?_⟩
  induction h with
  | last hread hclosed => rw [hread.statementsOf_nil, hclosed, if_neg (Nat.lt_irrefl 0)]
  | next hread hclosed _ ih =>
    rw [hread.statementsOf_next hclosed, ih]
    rfl

/-! ## Fragments that are alike -/

/-- Fragments with the same open blocks and the same head of a trigger, in which no word is under way. -/
structure Alike (f g : List Piece) : Prop where
  left : f.takeWhile Piece.inWord = []
  right : g.takeWhile Piece.inWord = []
  blocks : openBlocks f = openBlocks g
  head (u : List Char) : isTriggerHead (headOf f ++ u) = isTriggerHead (headOf g ++ u)

theorem textOf_append (zs f : List Piece) : textOf (zs ++ f) = textOf f ++ textOf zs := by
  simp [textOf]

theorem headOf_append (zs f : List Piece) : headOf (zs ++ f) = headOf f ++ headOf zs := by
  simp [headOf]

theorem lastWord_append {f : List Piece} (h : f.takeWhile Piece.inWord = []) (zs : List Piece) :
    lastWord (zs ++ f) = lastWord zs := by
  rw [lastWord, lastWord, List.takeWhile_append, h]
  split
  · next hall => rw [List.append_nil, (List.takeWhile_prefix _).eq_of_length hall]
  · rfl

theorem beforeLastWord_append {f : List Piece} (h : f.takeWhile Piece.inWord = []) (zs : List Piece) :
    beforeLastWord (zs ++ f) = beforeLastWord zs ++ f := by
  have hf : f.dropWhile Piece.inWord = f := by
    have := List.takeWhile_append_dropWhile (p := Piece.inWord) (l := f)
    rwa [h, List.nil_append] at this
  rw [beforeLastWord, beforeLastWord, List.dropWhile_append, hf]
  split
  · next hempty => rw [List.isEmpty_iff.1 hempty, List.nil_append]
  · rfl

/-- Blocks stay the same in number however the two fragments go on. -/
theorem Alike.openBlocks_append {f g : List Piece} (h : Alike f g) (zs : List Piece) :
    openBlocks (zs ++ f) = openBlocks (zs ++ g) := by
  -- a word is left out at once, so the shorter pieces are those before the last word and not only those before `p`
  match zs with
  | [] => exact h.blocks
  | p :: zs =>
    cases hp : p.inWord with
    | false =>
      rw [List.cons_append, List.cons_append, openBlocks_cons_of_not_inWord hp, openBlocks_cons_of_not_inWord hp,
        h.openBlocks_append zs]
    | true =>
      have hword : lastWord (p :: zs ++ f) = lastWord (p :: zs ++ g) := by
        rw [lastWord_append h.left, lastWord_append h.right]
      have hbefore : openBlocks (beforeLastWord (zs ++ f)) = openBlocks (beforeLastWord (zs ++ g)) := by
        rw [beforeLastWord_append h.left, beforeLastWord_append h.right]
        exact h.openBlocks_append _
      have hhead : isTriggerHead (headOf (p :: zs ++ f)) = isTriggerHead (headOf (p :: zs ++ g)) := by
        rw [headOf_append, headOf_append, h.head]
      rw [List.cons_append, List.cons_append] at hword hhead ⊢
      rw [openBlocks_cons_of_inWord hp, openBlocks_cons_of_inWord hp, hword, hbefore, blocksAfter, blocksAfter, hhead]
termination_by zs.length
decreasing_by
  all_goals simp only [beforeLastWord, List.length_cons]
  · exact Nat.lt_succ_self _
  · exact Nat.lt_succ_of_le (List.dropWhile_suffix _).length_le

theorem Alike.continues_append {f g : List Piece} (h : Alike f g) (zs : List Piece) {ps : List Piece}
    (hps : Continues (zs ++ f) ps) : Continues (zs ++ g) ps := by
  induction ps generalizing zs with
  | nil => trivial
  | cons p ps ih =>
    refine ⟨?_, ih (p :: zs) hps.2⟩
    have hp := hps.1
    rwa [endsFragment, h.openBlocks_append] at hp

/-! ## Blanks -/

/-- The code points of the blanks. -/
def blankCodes : List Nat :=
  List.range' 0x9 5 ++ [0x20, 0x85, 0xA0, 0x1680] ++ List.range' 0x2000 11 ++ [0x2028, 0x2029, 0x202F, 0x205F, 0x3000]

theorem isWordPart_ofNat_blankCodes : ∀ n ∈ blankCodes, isWordPart (Char.ofNat n) = false := by decide +kernel

theorem toNat_mem_blankCodes {c : Char} (h : isBlank c = true) : c.toNat ∈ blankCodes := by
  simp only [isBlank, Bool.or_eq_true, Bool.and_eq_true, decide_eq_true_eq, beq_iff_eq] at h
  simp only [blankCodes, List.mem_append, List.mem_range'_1, List.mem_cons, List.not_mem_nil, or_false]
  omega

theorem isWordPart_of_isBlank {c : Char} (h : isBlank c = true) : isWordPart c = false := by
  rw [← Char.ofNat_toNat c]
  exact isWordPart_ofNat_blankCodes _ (toNat_mem_blankCodes h)

theorem inWord_of_isBlank {c : Char} (h : isBlank c = true) : (Piece.code c).inWord = false := isWordPart_of_isBlank h

theorem isTriggerHead_of_blank {c : Char} (h : isBlank c = true) (u : List Char) :
    isTriggerHead (c :: u) = isTriggerHead u := by
  rw [isTriggerHead, isTriggerHead, Text.trimStart_of_blank h]

theorem alike_blank {c : Char} (h : isBlank c = true) : Alike [.code c] [] where
  left := List.takeWhile_cons_of_neg (by simp [inWord_of_isBlank h])
  right := rfl
  blocks := openBlocks_cons_of_not_inWord (inWord_of_isBlank h) []
  head := isTriggerHead_of_blank h

theorem statementOf?_congr {f g : List Piece} (hsolid : f.any Piece.isSolid = g.any Piece.isSolid)
    (htext : trim (textOf f) = trim (textOf g)) : statementOf? f = statementOf? g := by
  rw [statementOf?, statementOf?, hsolid, htext]

theorem statementOf?_append_blank {c : Char} (h : isBlank c = true) (f : List Piece) :
    statementOf? (f ++ [.code c]) = statementOf? f := by
  apply statementOf?_congr
  · simp [Piece.isSolid, h]
  · rw [textOf_append]
    exact Text.trim_of_blank h _

theorem statementOf?_cons_blank {c : Char} (h : isBlank c = true) (f : List Piece) :
    statementOf? (.code c :: f) = statementOf? f := by
  apply statementOf?_congr
  · simp [Piece.isSolid, h]
  · rw [← List.singleton_append, textOf_append]
    exact Text.trim_concat_of_blank h _

theorem statementOf?_cons_lineComment {c : Char} (h : isBlank c = true) (content : List Char) (f : List Piece) :
    statementOf? (.lineComment (content ++ [c]) :: f) = statementOf? (.lineComment content :: f) := by
  apply statementOf?_congr
  · rfl
  · have htext : textOf (.lineComment (content ++ [c]) :: f) = textOf (.lineComment content :: f) ++ [c] := by
      simp [textOf, Piece.text]
    rw [htext, Text.trim_concat_of_blank h]

/-- A blank before all pieces makes no difference. -/
theorem statementsOf_append_blank {c : Char} (h : isBlank c = true) (before ps : List Piece) :
    statementsOf (before ++ [.code c]) ps = statementsOf before ps := by
  have hblocks (zs : List Piece) : openBlocks (zs ++ [.code c]) = openBlocks zs := by
    rw [(alike_blank h).openBlocks_append, List.append_nil]
  induction ps generalizing before with
  | nil => rw [statementsOf_nil, statementsOf_nil, hblocks, statementOf?_append_blank h]
  | cons p ps ih =>
    have hends : endsFragment (before ++ [.code c]) p = endsFragment before p := by
      rw [endsFragment, hblocks, ← endsFragment]
    cases hp : endsFragment before p with
    | true =>
      rw [statementsOf_cons_of_ends (hends.trans hp), statementsOf_cons_of_ends hp, statementOf?_append_blank h]
    | false =>
      rw [statementsOf_cons_of_not_ends (hends.trans hp), statementsOf_cons_of_not_ends hp]
      exact ih (p :: before)

theorem endsFragment_blank {c : Char} (h : isBlank c = true) (before : List Piece) :
    endsFragment before (.code c) = false := by
  have hc : c ≠ ';' := by
    rintro rfl
    exact absurd h (by decide)
  simp [endsFragment, hc]

theorem statementsOf_blank {c : Char} (h : isBlank c = true) (before : List Piece) :
    statementsOf before [.code c] = statementsOf before [] := by
  rw [statementsOf_cons_of_not_ends (endsFragment_blank h before), statementsOf_nil, statementsOf_nil,
    openBlocks_cons_of_not_inWord (inWord_of_isBlank h), statementOf?_cons_blank h]

theorem statementsOf_lineComment {c : Char} (h : isBlank c = true) (content : List Char) (before : List Piece) :
    statementsOf before [.lineComment (content ++ [c])] = statementsOf before [.lineComment content] := by
  have hends (x : List Char) : endsFragment before (.lineComment x) = false := rfl
  rw [statementsOf_cons_of_not_ends (hends _), statementsOf_cons_of_not_ends (hends _), statementsOf_nil,
    statementsOf_nil, openBlocks_cons_of_not_inWord rfl, openBlocks_cons_of_not_inWord rfl,
    statementOf?_cons_lineComment h]

/-- What stands at the end of a script may be exchanged for what makes the same statements after any fragment. -/
theorem statementsOf_append_congr {qs rs : List Piece}
    (h : ∀ before, statementsOf before qs = statementsOf before rs) (before ps : List Piece) :
    statementsOf before (ps ++ qs) = statementsOf before (ps ++ rs) := by
  induction ps generalizing before with
  | nil => exact h before
  | cons p ps ih =>
    rw [List.cons_append, List.cons_append]
    cases hp : endsFragment before p with
    | true => rw [statementsOf_cons_of_ends hp, statementsOf_cons_of_ends hp, ih]
    | false => rw [statementsOf_cons_of_not_ends hp, statementsOf_cons_of_not_ends hp, ih]

end SchemaMigration.Script
