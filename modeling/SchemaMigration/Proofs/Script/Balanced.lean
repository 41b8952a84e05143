import Mathlib.Data.List.TakeWhile
import SchemaMigration.Proofs.Script.Gaps

/-!
# Text that closes the blocks it opens

* `IsWord w`, `Spaced t` : a whole word, and a text that can stand between two words;
* `Balanced semicolons t` : the text `t` closes every region and every `CASE` that it opens;
* `Neutral semicolons t ps` : the pieces `ps` of `t` leave the blocks of a fragment as they are and do not end it;
* `Balanced.exists_neutral` : a balanced text has such pieces.

A fragment counts its blocks by words, and a word is known when it has ended. So what a text does to the blocks before it
is asked of fragments whose last word the text does not go on with.
-/

namespace SchemaMigration.Script

set_option autoImplicit false

open Text (isBlank sameIgnoringCase lowerAscii allBlank)

/-! ## Words -/

/-- A text that is all one word. -/
structure IsWord (w : List Char) : Prop where
  filled : w ≠ []
  parts : ∀ c ∈ w, isWordPart c = true

/-- A text that touches neither a word before it nor a word after it, and keeps the two apart. -/
structure Spaced (t : List Char) : Prop where
  filled : t ≠ []
  start : ∀ c ∈ t.head?, isWordPart c = false
  stop : ∀ c ∈ t.getLast?, isWordPart c = false

/-- The words by which blocks are counted. -/
def blockWords : List (List Char) := ["CASE".toList, "BEGIN".toList, "END".toList]

theorem isUpper_iff {c : Char} : c.isUpper = true ↔ 65 ≤ c.toNat ∧ c.toNat ≤ 90 := by
  show decide ('A'.val ≤ c.val ∧ c.val ≤ 'Z'.val) = true ↔ _
  rw [decide_eq_true_eq, UInt32.le_iff_toNat_le, UInt32.le_iff_toNat_le]
  rfl

theorem isLower_iff {c : Char} : c.isLower = true ↔ 97 ≤ c.toNat ∧ c.toNat ≤ 122 := by
  show (decide ('a'.val ≤ c.val) && decide (c.val ≤ 'z'.val)) = true ↔ _
  rw [Bool.and_eq_true, decide_eq_true_eq, decide_eq_true_eq, UInt32.le_iff_toNat_le, UInt32.le_iff_toNat_le]
  rfl

theorem toNat_toLower {c : Char} (h : c.isUpper = true) : c.toLower.toNat = c.toNat + 32 := by
  have hbounds := isUpper_iff.1 h
  unfold Char.toLower
  rw [dif_pos (of_decide_eq_true h)]
  show (c.val + ('a'.val - 'A'.val)).toNat = c.val.toNat + 32
  rw [UInt32.toNat_add, show ('a'.val - 'A'.val).toNat = 32 from rfl, Char.toNat_val]
  omega

theorem toLower_of_not_isUpper {c : Char} (h : c.isUpper = false) : c.toLower = c := by
  unfold Char.toLower
  rw [dif_neg (of_decide_eq_false h)]

/-- A letter is part of a word in either case. -/
theorem isWordPart_toLower (c : Char) : isWordPart c.toLower = isWordPart c := by
  cases hc : c.isUpper with
  | false => rw [toLower_of_not_isUpper hc]
  | true =>
    have hbounds := isUpper_iff.1 hc
    have hlower := toNat_toLower hc
    have hsmall : c.toLower.isLower = true := isLower_iff.2 (by omega)
    have hafter : c.toLower.isAlphanum = true := by
      show (c.toLower.isUpper || c.toLower.isLower || c.toLower.isDigit) = true
      rw [hsmall, Bool.or_true, Bool.true_or]
    have hbefore : c.isAlphanum = true := by
      show (c.isUpper || c.isLower || c.isDigit) = true
      rw [hc, Bool.true_or, Bool.true_or]
    unfold isWordPart Text.isAlphanumeric
    rw [if_pos (by omega), if_pos (by omega), hafter, hbefore, Bool.true_or, Bool.true_or]

theorem sameIgnoringCase_iff {w k : List Char} : sameIgnoringCase w k = true ↔ lowerAscii w = lowerAscii k := by
  rw [sameIgnoringCase, beq_iff_eq]

/-- What spells a word in any case is a word. -/
theorem isWord_of_same {w k : List Char} (hk : IsWord k) (h : sameIgnoringCase w k = true) : IsWord w := by
  have hsame := sameIgnoringCase_iff.1 h
  constructor
  · intro hw
    rw [hw] at hsame
    exact hk.filled (List.map_eq_nil_iff.1 hsame.symm)
  · intro c hc
    have hmem : c.toLower ∈ lowerAscii k := hsame ▸ List.mem_map_of_mem hc
    rcases List.mem_map.1 hmem with ⟨d, hd, hcd⟩
    rw [← isWordPart_toLower, ← hcd, isWordPart_toLower]
    exact hk.parts d hd

theorem isWord_of_all {k : List Char} (hfilled : k ≠ []) (hparts : k.all isWordPart = true) : IsWord k :=
  ⟨hfilled, List.all_eq_true.1 hparts⟩

theorem IsWord.head {w : List Char} (h : IsWord w) (r : List Char) : ∀ c ∈ (w ++ r).head?, isWordPart c = true := by
  intro c hc
  rw [List.head?_append_of_ne_nil _ h.filled] at hc
  exact h.parts c (List.mem_of_mem_head? hc)

theorem IsWord.not_blank_head {w : List Char} (h : IsWord w) (r : List Char) :
    ∀ c ∈ (w ++ r).head?, isBlank c = false := by
  intro c hc
  have hpart := h.head r c hc
  cases hblank : isBlank c with
  | false => rfl
  | true =>
    rw [isWordPart_of_isBlank hblank] at hpart
    cases hpart

/-! ## Balanced text -/

/-- Text that closes what it opens: regions with their ends, words that do not count blocks, other characters that open no
region, and blocks from `CASE` to `END` around balanced text. Semicolons in its code are a matter of `semicolons`. -/
inductive Balanced (semicolons : Bool) : List Char → Prop
  | nil : Balanced semicolons []
  | region (k : Region) {content r : List Char} (holds : k.Holds content) (rest : Balanced semicolons r) :
      Balanced semicolons (k.opening ++ (content ++ (k.closing ++ r)))
  | code {c : Char} {r : List Char} (separates : isWordPart c = false) (opens : Quote.ofOpener? c = none)
      (mark : ∀ d ∈ r.head?, Mode.pair? .code c d = none) (allowed : c = ';' → semicolons = true)
      (rest : Balanced semicolons r) : Balanced semicolons (c :: r)
  | word {w r : List Char} (whole : IsWord w) (plain : ∀ k ∈ blockWords, sameIgnoringCase w k = false)
      (ends : ∀ d ∈ r.head?, isWordPart d = false) (rest : Balanced semicolons r) : Balanced semicolons (w ++ r)
  | block {w inner v r : List Char} (begins : sameIgnoringCase w "CASE".toList = true) (spaced : Spaced inner)
      (inside : Balanced semicolons inner) (closes : sameIgnoringCase v "END".toList = true)
      (ends : ∀ d ∈ r.head?, isWordPart d = false) (rest : Balanced semicolons r) :
      Balanced semicolons (w ++ (inner ++ (v ++ r)))

/-! ## Words in a fragment -/

/-- No word is under way at the end of the fragment. -/
def Rests (f : List Piece) : Prop := f.takeWhile Piece.inWord = []

theorem rests_nil : Rests [] := rfl

theorem rests_cons {p : Piece} (h : p.inWord = false) (f : List Piece) : Rests (p :: f) :=
  List.takeWhile_cons_of_neg (by simp [h])

/-- The text that goes on the fragment does not go on with its last word. -/
def Apart (f : List Piece) (t : List Char) : Prop := Rests f ∨ ∀ c ∈ t.head?, isWordPart c = false

theorem Apart.rests {f : List Piece} {w r : List Char} (h : Apart f (w ++ r)) (hw : IsWord w) : Rests f := by
  rcases h with h | h
  · exact h
  · rcases List.exists_cons_of_ne_nil hw.filled with ⟨c, u, rfl⟩
    have hc := h c rfl
    rw [hw.parts c List.mem_cons_self] at hc
    cases hc

def codes (w : List Char) : List Piece := w.map .code

@[simp] theorem flatMap_text_codes (w : List Char) : (codes w).flatMap Piece.text = w := by
  simp [codes, List.flatMap_map, Piece.text]

@[simp] theorem flatMap_inHead_codes (w : List Char) : (codes w).flatMap Piece.inHead = w := by
  simp [codes, List.flatMap_map, Piece.inHead, Piece.text]

theorem IsWord.inWord {w : List Char} (h : IsWord w) : ∀ p ∈ codes w, p.inWord = true := by
  intro p hp
  rcases List.mem_map.1 hp with ⟨c, hc, rfl⟩
  exact h.parts c hc

theorem pair?_of_isWordPart {c : Char} (h : isWordPart c = true) (d : Char) : Mode.pair? .code c d = none := by
  unfold Mode.pair?
  split <;> first | rfl | exact absurd h (by decide)

theorem pair?_isWordPart (c : Char) {d : Char} (h : isWordPart d = true) : Mode.pair? .code c d = none := by
  unfold Mode.pair?
  split <;> first | rfl | exact absurd h (by decide)

theorem ofOpener?_of_isWordPart {c : Char} (h : isWordPart c = true) : Quote.ofOpener? c = none := by
  cases hq : Quote.ofOpener? c with
  | none => rfl
  | some q =>
    rw [isWordPart_opener hq] at h
    cases h

theorem IsWord.reads {w : List Char} (h : IsWord w) (rest : List Char) : Reads (codes w) rest := by
  have hparts := h.parts
  clear h
  induction w with
  | nil => trivial
  | cons c w ih =>
    have hc := hparts c List.mem_cons_self
    exact ⟨ofOpener?_of_isWordPart hc, fun d _ => pair?_of_isWordPart hc d,
      ih fun x hx => hparts x (List.mem_cons_of_mem c hx)⟩

/-- A word changes the blocks of a fragment that rests before it by what it means there. -/
theorem openBlocks_word {w : List Char} (hw : IsWord w) {f : List Piece} (hf : Rests f) :
    openBlocks ((codes w).reverse ++ f) = blocksAfter w (headOf f ++ w) (openBlocks f) := by
  have hlast : lastWord (codes w).reverse = w := by
    have hall : (codes w).reverse.takeWhile Piece.inWord = (codes w).reverse :=
      List.takeWhile_eq_self_iff.2 fun p hp => hw.inWord p (List.mem_reverse.1 hp)
    rw [lastWord, hall, textOf, List.reverse_reverse, flatMap_text_codes]
  have hhead : headOf ((codes w).reverse ++ f) = headOf f ++ w := by
    rw [headOf_append, headOf, headOf, List.reverse_reverse, flatMap_inHead_codes]
  have hwhole := lastWord_append hf (codes w).reverse
  have hmem : ∀ p ∈ (codes w).reverse, p.inWord = true := fun p hp => hw.inWord p (List.mem_reverse.1 hp)
  have hfilled : (codes w).reverse ≠ [] := by
    simpa [codes] using hw.filled
  rw [hlast] at hwhole
  generalize (codes w).reverse = zs at *
  cases zs with
  | nil => exact absurd rfl hfilled
  | cons p qs =>
    have hbefore : beforeLastWord (qs ++ f) = f := by
      have hqs : beforeLastWord qs = [] :=
        List.dropWhile_eq_nil_iff.2 fun q hq => hmem q (List.mem_cons_of_mem p hq)
      rw [beforeLastWord_append hf, hqs, List.nil_append]
    rw [List.cons_append] at hwhole hhead ⊢
    rw [openBlocks_cons_of_inWord (hmem p List.mem_cons_self), hwhole, hhead, hbefore]

theorem blocksAfter_case {w : List Char} (h : sameIgnoringCase w "CASE".toList = true) (head : List Char) (n : Nat) :
    blocksAfter w head n = n + 1 := by
  rw [blocksAfter, if_pos h]

theorem blocksAfter_begin {w : List Char} (h : sameIgnoringCase w "BEGIN".toList = true) {head : List Char}
    (hhead : isTriggerHead head = true) (n : Nat) : blocksAfter w head n = n + 1 := by
  have hcase : ¬sameIgnoringCase w "CASE".toList = true := by
    rw [sameIgnoringCase_iff] at h ⊢
    rw [h]
    decide
  rw [blocksAfter, if_neg hcase, if_pos h, if_pos hhead]

theorem blocksAfter_end {w : List Char} (h : sameIgnoringCase w "END".toList = true) (head : List Char) (n : Nat) :
    blocksAfter w head n = n - 1 := by
  have hother (k : List Char) (hk : lowerAscii "END".toList ≠ lowerAscii k) : ¬sameIgnoringCase w k = true := by
    rw [sameIgnoringCase_iff] at h ⊢
    rwa [h]
  rw [blocksAfter, if_neg (hother _ (by decide)), if_neg (hother _ (by decide)), if_pos h]

theorem blocksAfter_plain {w : List Char} (h : ∀ k ∈ blockWords, sameIgnoringCase w k = false) (head : List Char)
    (n : Nat) : blocksAfter w head n = n := by
  have hplain (k : List Char) (hk : k ∈ blockWords) : ¬sameIgnoringCase w k = true := by simp [h k hk]
  rw [blocksAfter, if_neg (hplain _ (by decide)), if_neg (hplain _ (by decide)), if_neg (hplain _ (by decide))]

/-! ## Pieces that leave a fragment as it is -/

theorem continues_append {f ps qs : List Piece} :
    Continues f (ps ++ qs) ↔ Continues f ps ∧ Continues (ps.reverse ++ f) qs := by
  induction ps generalizing f with
  | nil => simp [Continues]
  | cons p ps ih => simp [Continues, ih, and_assoc]

/-- Pieces outside words, none of which is a semicolon, go on any fragment and change no blocks. -/
theorem silent_continues {ps : List Piece} (h : ∀ p ∈ ps, p.inWord = false ∧ p ≠ .code ';') (f : List Piece) :
    Continues f ps ∧ openBlocks (ps.reverse ++ f) = openBlocks f := by
  induction ps generalizing f with
  | nil => exact ⟨trivial, rfl⟩
  | cons p ps ih =>
    rcases h p List.mem_cons_self with ⟨hword, hsemicolon⟩
    rcases ih (fun q hq => h q (List.mem_cons_of_mem p hq)) (p :: f) with ⟨hgoes, hblocks⟩
    refine ⟨⟨by simp [endsFragment, hsemicolon], hgoes⟩, ?_⟩
    rw [List.reverse_cons, List.append_assoc]
    exact hblocks.trans (openBlocks_cons_of_not_inWord hword f)

theorem silent_rests {ps : List Piece} (h : ∀ p ∈ ps, p.inWord = false) (hfilled : ps ≠ []) (f : List Piece) :
    Rests (ps.reverse ++ f) := by
  rcases List.exists_cons_of_ne_nil (List.reverse_ne_nil_iff.2 hfilled) with ⟨p, qs, hps⟩
  have hp : p ∈ ps := List.mem_reverse.1 (hps ▸ List.mem_cons_self)
  rw [hps]
  exact rests_cons (h p hp) _

theorem IsWord.continues {w : List Char} (h : IsWord w) (f : List Piece) : Continues f (codes w) := by
  have hparts := h.parts
  clear h
  induction w generalizing f with
  | nil => trivial
  | cons c w ih =>
    have hc : c ≠ ';' := by
      rintro rfl
      exact absurd (hparts _ List.mem_cons_self) (by decide)
    exact ⟨by simp [endsFragment, hc], ih _ fun x hx => hparts x (List.mem_cons_of_mem c hx)⟩

/-- The pieces are those of the text, wherever a word or nothing follows it. After a fragment from whose last word the text
is apart they end nothing, and the same blocks are open after them as before. With semicolons among them this is so inside
blocks. -/
structure Neutral (semicolons : Bool) (t : List Char) (ps : List Piece) : Prop where
  text : ps.flatMap Piece.text = t
  reads (rest : List Char) (h : ∀ d ∈ rest.head?, isWordPart d = true) : Reads ps rest
  keeps (f : List Piece) (apart : Apart f t) (inside : semicolons = true → 0 < openBlocks f) :
    Continues f ps ∧ openBlocks (ps.reverse ++ f) = openBlocks f

/-- After a text that stops outside a word no word is under way. -/
theorem rests_of_stop {t : List Char} (hfilled : t ≠ []) (hstop : ∀ c ∈ t.getLast?, isWordPart c = false)
    {ps : List Piece} (hps : ps.flatMap Piece.text = t) (f : List Piece) : Rests (ps.reverse ++ f) := by
  rcases List.eq_nil_or_concat ps with rfl | ⟨qs, p, rfl⟩
  · exact absurd hps.symm hfilled
  · rw [List.concat_eq_append, List.reverse_concat, List.cons_append]
    refine rests_cons ?_ _
    cases p with
    | code c =>
      refine hstop c ?_
      rw [← hps]
      simp [Piece.text]
    | quoted | lineComment | blockComment => rfl

/-! ## Regions -/

/-- A region that is closed, as pieces: the line break after a comment is one of its own. -/
def Region.pieces (k : Region) (content : List Char) : List Piece :=
  match k with
  | quotes q => [.quoted q content]
  | line => [.lineComment content, .code '\n']
  | block => [.blockComment content]

theorem Region.flatMap_text_pieces (k : Region) (content : List Char) :
    (k.pieces content).flatMap Piece.text = k.opening ++ (content ++ k.closing) := by
  cases k <;> simp [pieces, Piece.text, opening, closing]

theorem Region.reads_pieces {k : Region} {content : List Char} (h : k.Holds content) (rest : List Char) :
    Reads (k.pieces content) rest := by
  cases k with
  | quotes q => exact reads_singleton.2 ⟨h, fun _ _ => trivial⟩
  | line => exact ⟨h, fun d hd => (Option.some.inj hd).symm, rfl, fun _ _ => rfl, trivial⟩
  | block => exact reads_singleton.2 ⟨h, fun _ _ => trivial⟩

theorem Region.silent_pieces (k : Region) (content : List Char) :
    ∀ p ∈ k.pieces content, p.inWord = false ∧ p ≠ .code ';' := by
  cases k <;> simp [pieces, Piece.inWord]
  decide

theorem Region.pieces_ne_nil (k : Region) (content : List Char) : k.pieces content ≠ [] := by
  cases k <;> simp [pieces]

/-! ## Balanced text in a fragment -/

variable {semicolons : Bool}

theorem neutral_nil : Neutral semicolons [] [] where
  text := rfl
  reads _ _ := trivial
  keeps _ _ _ := ⟨trivial, rfl⟩

theorem Neutral.region {k : Region} {content r : List Char} {ps : List Piece} (hk : k.Holds content)
    (h : Neutral semicolons r ps) :
    Neutral semicolons (k.opening ++ (content ++ (k.closing ++ r))) (k.pieces content ++ ps) where
  text := by simp [k.flatMap_text_pieces, h.text]
  reads rest hrest := reads_append.2 ⟨Region.reads_pieces hk _, h.reads rest hrest⟩
  keeps f _ inside := by
    rcases silent_continues (k.silent_pieces content) f with ⟨hgoes, hblocks⟩
    have hrests : Rests ((k.pieces content).reverse ++ f) :=
      silent_rests (fun p hp => (k.silent_pieces content p hp).1) (k.pieces_ne_nil content) f
    rcases h.keeps _ (.inl hrests) (by rwa [hblocks]) with ⟨hmore, hsame⟩
    refine ⟨continues_append.2 ⟨hgoes, hmore⟩, ?_⟩
    rw [List.reverse_append, List.append_assoc, hsame, hblocks]

theorem Neutral.code {c : Char} {r : List Char} {ps : List Piece} (separates : isWordPart c = false)
    (opens : Quote.ofOpener? c = none) (mark : ∀ d ∈ r.head?, Mode.pair? .code c d = none)
    (allowed : c = ';' → semicolons = true) (h : Neutral semicolons r ps) :
    Neutral semicolons (c :: r) (.code c :: ps) where
  text := by simp [Piece.text, h.text]
  reads rest hrest := by
    refine ⟨opens, fun d hd => ?_, h.reads rest hrest⟩
    rw [h.text] at hd
    cases r with
    | nil => exact pair?_isWordPart c (hrest d hd)
    | cons x r => exact mark d hd
  keeps f _ inside := by
    have hword : (Piece.code c).inWord = false := separates
    have hends : endsFragment f (.code c) = false := by
      by_cases hc : c = ';'
      · have hopen := inside (allowed hc)
        simp [endsFragment]
        omega
      · simp [endsFragment, hc]
    have hblocks := openBlocks_cons_of_not_inWord hword f
    rcases h.keeps (.code c :: f) (.inl (rests_cons hword f)) (by rwa [hblocks]) with ⟨hmore, hsame⟩
    refine ⟨⟨hends, hmore⟩, ?_⟩
    rw [List.reverse_cons, List.append_assoc]
    exact hsame.trans hblocks

theorem Neutral.word {w r : List Char} {ps : List Piece} (whole : IsWord w)
    (plain : ∀ k ∈ blockWords, sameIgnoringCase w k = false) (ends : ∀ d ∈ r.head?, isWordPart d = false)
    (h : Neutral semicolons r ps) : Neutral semicolons (w ++ r) (codes w ++ ps) where
  text := by rw [List.flatMap_append, flatMap_text_codes, h.text]
  reads rest hrest := reads_append.2 ⟨whole.reads _, h.reads rest hrest⟩
  keeps f apart inside := by
    have hblocks : openBlocks ((codes w).reverse ++ f) = openBlocks f := by
      rw [openBlocks_word whole (apart.rests whole), blocksAfter_plain plain]
    rcases h.keeps _ (.inr ends) (by rwa [hblocks]) with ⟨hmore, hsame⟩
    refine ⟨continues_append.2 ⟨whole.continues f, hmore⟩, ?_⟩
    rw [List.reverse_append, List.append_assoc, hsame, hblocks]

/-- A block is closed by its own `END`: one more block is open inside it, and the text inside leaves it so. -/
theorem Neutral.block {w inner v r : List Char} {ps qs : List Piece} (begins : sameIgnoringCase w "CASE".toList = true)
    (spaced : Spaced inner) (hinner : Neutral semicolons inner ps) (closes : sameIgnoringCase v "END".toList = true)
    (ends : ∀ d ∈ r.head?, isWordPart d = false) (h : Neutral semicolons r qs) :
    Neutral semicolons (w ++ (inner ++ (v ++ r))) (codes w ++ (ps ++ (codes v ++ qs))) := by
  have hw : IsWord w := isWord_of_same (isWord_of_all (by decide) (by decide)) begins
  have hv : IsWord v := isWord_of_same (isWord_of_all (by decide) (by decide)) closes
  refine ⟨?_, fun rest hrest => ?_, fun f apart inside => ?_⟩
  · simp only [List.flatMap_append, flatMap_text_codes, hinner.text, h.text]
  · refine reads_append.2 ⟨hw.reads _, reads_append.2 ⟨hinner.reads _ ?_, reads_append.2 ⟨hv.reads _, h.reads rest hrest⟩⟩⟩
    rw [List.flatMap_append, flatMap_text_codes, List.append_assoc]
    exact hv.head _
  · have hopened : openBlocks ((codes w).reverse ++ f) = openBlocks f + 1 := by
      rw [openBlocks_word hw (apart.rests hw), blocksAfter_case begins]
    rcases hinner.keeps _ (.inr spaced.start) (by rw [hopened]; omega) with ⟨hgoes, hsame⟩
    have hrests : Rests (ps.reverse ++ ((codes w).reverse ++ f)) := rests_of_stop spaced.filled spaced.stop hinner.text _
    have hclosed : openBlocks ((codes v).reverse ++ (ps.reverse ++ ((codes w).reverse ++ f))) = openBlocks f := by
      rw [openBlocks_word hv hrests, blocksAfter_end closes, hsame, hopened, Nat.add_sub_cancel]
    rcases h.keeps _ (.inr ends) (by rwa [hclosed]) with ⟨hmore, hend⟩
    refine ⟨?_, ?_⟩
    · exact continues_append.2 ⟨hw.continues f, continues_append.2 ⟨hgoes, continues_append.2 ⟨hv.continues _, hmore⟩⟩⟩
    · simp only [List.reverse_append, List.append_assoc]
      rw [hend, hclosed]

/-- Balanced text leaves the blocks of a fragment as they are. -/
theorem Balanced.exists_neutral {t : List Char} (h : Balanced semicolons t) : ∃ ps, Neutral semicolons t ps := by
  induction h with
  | nil => exact ⟨[], neutral_nil⟩
  | region k holds _ ih =>
    rcases ih with ⟨ps, hps⟩
    exact ⟨_, hps.region holds⟩
  | code separates opens mark allowed _ ih =>
    rcases ih with ⟨ps, hps⟩
    exact ⟨_, hps.code separates opens mark allowed⟩
  | word whole plain ends _ ih =>
    rcases ih with ⟨ps, hps⟩
    exact ⟨_, hps.word whole plain ends⟩
  | block begins spaced _ closes ends _ ihinner ih =>
    rcases ihinner with ⟨ps, hps⟩
    rcases ih with ⟨qs, hqs⟩
    exact ⟨_, hps.block begins spaced closes ends hqs⟩

end SchemaMigration.Script
