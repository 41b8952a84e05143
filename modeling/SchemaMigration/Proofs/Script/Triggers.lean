import SchemaMigration.Proofs.Script.Balanced

/-!
# Definitions of triggers

* `Phrase gap ks t` : the text `t` is the keywords `ks` in any case, each with a `gap` after it;
* `TriggerHeader h` : the text `h` is what stands in the definition of a trigger before its body;
* `isTriggerHead_of_phrase` : the code of such a phrase is the head of a trigger, whatever comes after it;
* `split_trigger` : a definition is one statement, with all the semicolons of its body, and is refused without its `END`.

The header keeps the blocks of its fragment as they are and makes the next `BEGIN` count. From there on one block is open
until the `END` of the body, since the body closes what it opens.
-/

namespace SchemaMigration.Script

set_option autoImplicit false

open Text (isBlank isWordChar sameIgnoringCase lowerAscii trimStart allBlank trim)

/-! ## Headers -/

/-- The keywords in any case, each with a text after it for which `gap` holds. -/
inductive Phrase (gap : List Char → Prop) : List (List Char) → List Char → Prop
  | nil : Phrase gap [] []
  | cons {k w g t : List Char} {ks : List (List Char)} (spells : sameIgnoringCase w k = true) (separate : gap g)
      (filled : g ≠ []) (rest : Phrase gap ks t) : Phrase gap (k :: ks) (w ++ (g ++ t))

/-- The keywords that the definition of a trigger can begin with. -/
def triggerKeywords : List (List (List Char)) :=
  [["CREATE".toList, "TRIGGER".toList], ["CREATE".toList, "TEMP".toList, "TRIGGER".toList],
    ["CREATE".toList, "TEMPORARY".toList, "TRIGGER".toList]]

/-- The keywords of a trigger with blanks and comments before, between and after them, and then balanced text that has no
semicolon in its code and touches no word after it. -/
inductive TriggerHeader : List Char → Prop
  | intro {ahead phrase rest : List Char} {ks : List (List Char)} (gap : Gap false 0 ahead) (known : ks ∈ triggerKeywords)
      (keywords : Phrase (Gap false 0) ks phrase) (goesOn : Balanced false rest)
      (stop : ∀ c ∈ rest.getLast?, isWordPart c = false) : TriggerHeader (ahead ++ (phrase ++ rest))

/-! ## The head of a trigger in its code -/

theorem isWordChar_ofNat_blankCodes : ∀ n ∈ blankCodes, isWordChar (Char.ofNat n) = false := by decide +kernel

theorem isWordChar_of_isBlank {c : Char} (h : isBlank c = true) : isWordChar c = false := by
  rw [← Char.ofNat_toNat c]
  exact isWordChar_ofNat_blankCodes _ (toNat_mem_blankCodes h)

theorem trimStart_append_of_allBlank {g r : List Char} (hg : allBlank g = true)
    (hr : ∀ c ∈ r.head?, isBlank c = false) : trimStart (g ++ r) = r := by
  induction g with
  | nil =>
    cases r with
    | nil => rfl
    | cons c r => exact Text.trimStart_of_not_blank (hr c rfl) r
  | cons c g ih =>
    rw [allBlank, List.all_cons, Bool.and_eq_true] at hg
    rw [List.cons_append, Text.trimStart_of_blank hg.1]
    exact ih hg.2

theorem afterKeyword?_of_same {w k : List Char} (h : sameIgnoringCase w k = true) (r : List Char) :
    afterKeyword? k (w ++ r) = some r := by
  have hlength : w.length = k.length := by
    have hsame := congrArg List.length (sameIgnoringCase_iff.1 h)
    simpa [lowerAscii] using hsame
  unfold afterKeyword?
  rw [List.take_left' hlength, List.drop_left' hlength, if_pos h]

theorem afterBlanks?_append {g r : List Char} (hg : allBlank g = true) (hfilled : g ≠ [])
    (hr : ∀ c ∈ r.head?, isBlank c = false) : afterBlanks? (g ++ r) = some r := by
  have htrim := trimStart_append_of_allBlank hg hr
  cases g with
  | nil => exact absurd rfl hfilled
  | cons c g =>
    rw [allBlank, List.all_cons, Bool.and_eq_true] at hg
    rw [List.cons_append] at htrim ⊢
    rw [afterBlanks?, if_pos hg.1, htrim]

theorem Phrase.not_blank_head {gap : List Char → Prop} {k t : List Char} {ks : List (List Char)}
    (h : Phrase gap (k :: ks) t) (hk : IsWord k) (u : List Char) : ∀ c ∈ (t ++ u).head?, isBlank c = false := by
  rcases h with _ | @⟨_, w, g, t, _, hw, _, _, _⟩
  rw [List.append_assoc]
  exact (isWord_of_same hk hw).not_blank_head _

/-- The first keyword of a phrase and the blanks after it are read off. -/
theorem Phrase.exists_rest {k k' t : List Char} {ks : List (List Char)} (h : Phrase (allBlank · = true) (k :: k' :: ks) t)
    (hk' : IsWord k') :
    ∃ t', Phrase (allBlank · = true) (k' :: ks) t' ∧
      ∀ u, (afterKeyword? k (t ++ u) >>= afterBlanks?) = some (t' ++ u) := by
  rcases h with _ | @⟨_, w, g, t, _, hw, hg, hfilled, ht⟩
  refine ⟨t, ht, fun u => ?_⟩
  rw [List.append_assoc, List.append_assoc, afterKeyword?_of_same hw]
  exact afterBlanks?_append hg hfilled (ht.not_blank_head hk' u)

theorem Phrase.isTriggerWord {t : List Char} (h : Phrase (allBlank · = true) ["TRIGGER".toList] t) (u : List Char) :
    isTriggerWord (t ++ u) = true := by
  rcases h with _ | @⟨_, w, g, t, _, hw, hg, hfilled, _⟩
  unfold Script.isTriggerWord
  rw [List.append_assoc, List.append_assoc, afterKeyword?_of_same hw]
  cases g with
  | nil => exact absurd rfl hfilled
  | cons c g =>
    rw [allBlank, List.all_cons, Bool.and_eq_true] at hg
    simp [isWordChar_of_isBlank hg.1]

theorem isWord_trigger : IsWord "TRIGGER".toList := isWord_of_all (by decide) (by decide)

theorem Phrase.isQualifiedTrigger {k t : List Char} (h : Phrase (allBlank · = true) [k, "TRIGGER".toList] t)
    (u : List Char) : isQualifiedTrigger k (t ++ u) = true := by
  rcases h.exists_rest isWord_trigger with ⟨t', ht', hrest⟩
  unfold Script.isQualifiedTrigger
  rw [hrest]
  exact ht'.isTriggerWord u

/-- The code of the keywords of a trigger, with blanks around them, decides that a trigger is defined. -/
theorem isTriggerHead_of_phrase {ahead t : List Char} {ks : List (List Char)} (hahead : allBlank ahead = true)
    (hks : ks ∈ triggerKeywords) (h : Phrase (allBlank · = true) ks t) (u : List Char) :
    isTriggerHead (ahead ++ (t ++ u)) = true := by
  have htrim {k : List Char} {ks : List (List Char)} (h : Phrase (allBlank · = true) (k :: ks) t) (hk : IsWord k) :
      trimStart (ahead ++ (t ++ u)) = t ++ u := trimStart_append_of_allBlank hahead (h.not_blank_head hk u)
  have hcreate : IsWord "CREATE".toList := isWord_of_all (by decide) (by decide)
  unfold isTriggerHead
  simp only [triggerKeywords, List.mem_cons, List.not_mem_nil, or_false] at hks
  rcases hks with rfl | rfl | rfl
  · rcases h.exists_rest isWord_trigger with ⟨t', ht', hrest⟩
    rw [htrim h hcreate, hrest]
    simp only [ht'.isTriggerWord, Bool.true_or]
  · rcases h.exists_rest (isWord_of_all (by decide) (by decide)) with ⟨t', ht', hrest⟩
    rw [htrim h hcreate, hrest]
    simp only [ht'.isQualifiedTrigger, Bool.true_or, Bool.or_true]
  · rcases h.exists_rest (isWord_of_all (by decide) (by decide)) with ⟨t', ht', hrest⟩
    rw [htrim h hcreate, hrest]
    simp only [ht'.isQualifiedTrigger, Bool.or_true]

/-! ## Headers in a fragment -/

/-- The pieces are those of the text, whatever follows it. After a fragment in which no word is under way they end nothing,
no word is under way after them either, and the same blocks are open. -/
structure Steady (t : List Char) (ps : List Piece) : Prop where
  text : ps.flatMap Piece.text = t
  reads (rest : List Char) : Reads ps rest
  keeps (f : List Piece) (rests : Rests f) :
    Continues f ps ∧ openBlocks (ps.reverse ++ f) = openBlocks f ∧ Rests (ps.reverse ++ f)

theorem Steady.append {t u : List Char} {ps qs : List Piece} (h : Steady t ps) (h' : Steady u qs) :
    Steady (t ++ u) (ps ++ qs) where
  text := by rw [List.flatMap_append, h.text, h'.text]
  reads rest := reads_append.2 ⟨h.reads _, h'.reads rest⟩
  keeps f hf := by
    rcases h.keeps f hf with ⟨hgoes, hblocks, hrests⟩
    rcases h'.keeps _ hrests with ⟨hmore, hsame, hend⟩
    rw [List.reverse_append, List.append_assoc]
    exact ⟨continues_append.2 ⟨hgoes, hmore⟩, hsame.trans hblocks, hend⟩

theorem not_inWord_of_not_isSolid {p : Piece} (h : p.isSolid = false) : p.inWord = false ∧ p ≠ .code ';' := by
  cases p with
  | code c =>
    have hc : isBlank c = true := by simpa [Piece.isSolid] using h
    refine ⟨inWord_of_isBlank hc, ?_⟩
    rintro ⟨rfl⟩
    exact absurd hc (by decide)
  | quoted => cases h
  | lineComment | blockComment => exact ⟨rfl, by simp⟩

theorem allBlank_inHead {ps : List Piece} (h : ∀ p ∈ ps, p.isSolid = false) :
    allBlank (ps.flatMap Piece.inHead) = true := by
  rw [allBlank, List.all_flatMap, List.all_eq_true]
  intro p hp
  have hsolid := h p hp
  cases p with
  | code c => simpa [Piece.isSolid, Piece.inHead, Piece.text] using hsolid
  | quoted => cases hsolid
  | lineComment | blockComment => rfl

theorem Piece.inHead_ne_nil (p : Piece) : p.inHead ≠ [] := by
  cases p <;> simp [inHead, text]

/-- A gap without semicolons is made of blanks and comments. -/
theorem Gap.exists_pieces {n : Nat} {g : List Char} (h : Gap false n g) (hn : n = 0) :
    ∃ ps, ps.flatMap Piece.text = g ∧ (∀ rest, Reads ps rest) ∧ ∀ p ∈ ps, p.isSolid = false := by
  induction h with
  | nil => exact ⟨[], rfl, fun _ => trivial, by simp⟩
  | @blank n c g hc _ ih =>
    rcases ih hn with ⟨ps, rfl, hreads, hsolid⟩
    refine ⟨.code c :: ps, rfl, fun rest => ?_, ?_⟩
    · exact reads_append.2 ⟨reads_blank hc _, hreads rest⟩
    · simpa [Piece.isSolid, hc] using hsolid
  | terminator => exact absurd hn (Nat.succ_ne_zero _)
  | @blockComment n content g hcontent _ ih =>
    rcases ih hn with ⟨ps, rfl, hreads, hsolid⟩
    refine ⟨.blockComment content :: ps, by simp [Piece.text], fun rest => ?_, ?_⟩
    · exact ⟨hcontent, fun _ _ => trivial, hreads rest⟩
    · simpa [Piece.isSolid] using hsolid
  | @lineComment n content g hcontent _ ih =>
    rcases ih hn with ⟨ps, hps, hreads, hsolid⟩
    refine ⟨.lineComment content :: ps, by simp [Piece.text, hps], fun rest => ?_, ?_⟩
    · refine ⟨Region.holds_line.2 hcontent, fun d hd => ?_, hreads rest⟩
      rw [hps] at hd
      exact (Option.some.inj hd).symm
    · simpa [Piece.isSolid] using hsolid
  | lastComment _ isLast => cases isLast

theorem steady_of_not_isSolid {ps : List Piece} (hreads : ∀ rest, Reads ps rest) (h : ∀ p ∈ ps, p.isSolid = false) :
    Steady (ps.flatMap Piece.text) ps where
  text := rfl
  reads := hreads
  keeps f hf := by
    rcases silent_continues (fun p hp => not_inWord_of_not_isSolid (h p hp)) f with ⟨hgoes, hblocks⟩
    refine ⟨hgoes, hblocks, ?_⟩
    by_cases hps : ps = []
    · rwa [hps]
    · exact silent_rests (fun p hp => (not_inWord_of_not_isSolid (h p hp)).1) hps f

/-- A word that counts no blocks, with a gap after it. -/
theorem steady_word {w : List Char} (hw : IsWord w) (plain : ∀ k ∈ blockWords, sameIgnoringCase w k = false)
    {ps : List Piece} (hreads : ∀ rest, Reads ps rest) (h : ∀ p ∈ ps, p.isSolid = false) (hfilled : ps ≠ []) :
    Steady (w ++ ps.flatMap Piece.text) (codes w ++ ps) where
  text := by rw [List.flatMap_append, flatMap_text_codes]
  reads rest := reads_append.2 ⟨hw.reads _, hreads rest⟩
  keeps f hf := by
    rcases silent_continues (fun p hp => not_inWord_of_not_isSolid (h p hp)) ((codes w).reverse ++ f) with
      ⟨hgoes, hblocks⟩
    rw [List.reverse_append, List.append_assoc]
    refine ⟨continues_append.2 ⟨hw.continues f, hgoes⟩, ?_, ?_⟩
    · rw [hblocks, openBlocks_word hw hf, blocksAfter_plain plain]
    · exact silent_rests (fun p hp => (not_inWord_of_not_isSolid (h p hp)).1) hfilled _

/-- A word that is none of those that count blocks. -/
structure IsKeyword (k : List Char) : Prop where
  whole : IsWord k
  plain : ∀ b ∈ blockWords, lowerAscii k ≠ lowerAscii b

theorem isKeyword_of_mem {ks : List (List Char)} (h : ks ∈ triggerKeywords) : ∀ k ∈ ks, IsKeyword k := by
  have hall : ∀ ks ∈ triggerKeywords, ∀ k ∈ ks,
      (k ≠ [] ∧ k.all isWordPart = true) ∧ ∀ b ∈ blockWords, lowerAscii k ≠ lowerAscii b := by decide
  intro k hk
  rcases hall ks h k hk with ⟨⟨hfilled, hparts⟩, hplain⟩
  exact ⟨isWord_of_all hfilled hparts, hplain⟩

/-- A phrase is steady, and in the code that it adds every gap is blank. -/
theorem Phrase.exists_steady {ks : List (List Char)} {t : List Char} (h : Phrase (Gap false 0) ks t)
    (hks : ∀ k ∈ ks, IsKeyword k) :
    ∃ ps, Steady t ps ∧ Phrase (allBlank · = true) ks (ps.flatMap Piece.inHead) := by
  induction h with
  | nil => exact ⟨[], ⟨rfl, fun _ => trivial, fun f hf => ⟨trivial, rfl, hf⟩⟩, .nil⟩
  | @cons k w g t ks spells separate filled _ ih =>
    rcases ih fun x hx => hks x (List.mem_cons_of_mem k hx) with ⟨qs, hqs, hphrase⟩
    rcases separate.exists_pieces rfl with ⟨ps, rfl, hreads, hsolid⟩
    have hk := hks k List.mem_cons_self
    have hw : IsWord w := isWord_of_same hk.whole spells
    have hplain : ∀ b ∈ blockWords, sameIgnoringCase w b = false := by
      intro b hb
      rw [← Bool.not_eq_true, sameIgnoringCase_iff, sameIgnoringCase_iff.1 spells]
      exact hk.plain b hb
    have hps : ps ≠ [] := by
      rintro rfl
      exact filled rfl
    have hblank : ps.flatMap Piece.inHead ≠ [] := by
      rcases List.exists_cons_of_ne_nil hps with ⟨p, rs, rfl⟩
      exact List.append_ne_nil_of_left_ne_nil p.inHead_ne_nil _
    refine ⟨(codes w ++ ps) ++ qs, ?_, ?_⟩
    · rw [← List.append_assoc]
      exact (steady_word hw hplain hreads hsolid hps).append hqs
    · rw [List.flatMap_append, List.flatMap_append, flatMap_inHead_codes, List.append_assoc]
      exact .cons spells (allBlank_inHead hsolid) hblank hphrase

/-- The pieces of a header: no block is open after them, no word is under way, and a `BEGIN` that follows opens a block. -/
structure Announces (header : List Char) (ps : List Piece) : Prop where
  text : ps.flatMap Piece.text = header
  reads (rest : List Char) (h : ∀ d ∈ rest.head?, isWordPart d = true) : Reads ps rest
  continues : Continues [] ps
  closed : openBlocks ps.reverse = 0
  rests : Rests ps.reverse
  head (u : List Char) : isTriggerHead (headOf ps.reverse ++ u) = true

theorem TriggerHeader.exists_announces {header : List Char} (h : TriggerHeader header) :
    ∃ ps, Announces header ps := by
  rcases h with @⟨ahead, phrase, rest, ks, gap, known, keywords, goesOn, stop⟩
  rcases gap.exists_pieces rfl with ⟨as, rfl, hreads, hsolid⟩
  rcases keywords.exists_steady (isKeyword_of_mem known) with ⟨ps, hps, hphrase⟩
  rcases goesOn.exists_neutral with ⟨qs, hqs⟩
  have hfirst := (steady_of_not_isSolid hreads hsolid).append hps
  rcases hfirst.keeps [] rests_nil with ⟨hgoes, hblocks, hrests⟩
  rcases hqs.keeps _ (.inl hrests) (by simp) with ⟨hmore, hsame⟩
  have hreverse : ((as ++ ps) ++ qs).reverse = qs.reverse ++ ((as ++ ps).reverse ++ []) := by
    rw [List.reverse_append, List.append_nil]
  refine ⟨(as ++ ps) ++ qs, ?_, fun r hr => ?_, continues_append.2 ⟨hgoes, hmore⟩, ?_, ?_, fun u => ?_⟩
  · rw [List.flatMap_append, hfirst.text, hqs.text, List.append_assoc]
  · exact reads_append.2 ⟨hfirst.reads _, hqs.reads r hr⟩
  · rw [hreverse, hsame, hblocks, openBlocks_nil]
  · rw [hreverse]
    by_cases hrest : rest = []
    · have hnone : qs = [] := by
        cases qs with
        | nil => rfl
        | cons p qs =>
          have htext := hqs.text.trans hrest
          exact absurd (List.append_eq_nil_iff.1 htext).1 p.text_ne_nil
      rwa [hnone]
    · exact rests_of_stop hrest stop hqs.text _
  · rw [headOf, List.reverse_reverse, List.flatMap_append, List.flatMap_append, List.append_assoc, List.append_assoc]
    exact isTriggerHead_of_phrase (allBlank_inHead hsolid) known hphrase _

/-! ## Definitions -/

/-- The pieces of a header, its `BEGIN` and a body: one block is open after them, and no word is under way. -/
theorem Announces.exists_body {header b body : List Char} {hs : List Piece} (h : Announces header hs)
    (hb : sameIgnoringCase b "BEGIN".toList = true) (hbody : Balanced true body) (hspaced : Spaced body) :
    ∃ ps, ps.flatMap Piece.text = header ++ (b ++ body) ∧
      (∀ rest, (∀ d ∈ rest.head?, isWordPart d = true) → Reads ps rest) ∧ Continues [] ps ∧
      openBlocks ps.reverse = 1 ∧ Rests ps.reverse ∧ ps.any Piece.isSolid = true := by
  have hword : IsWord b := isWord_of_same (isWord_of_all (by decide) (by decide)) hb
  rcases hbody.exists_neutral with ⟨bs, hbs⟩
  have hopened : openBlocks ((codes b).reverse ++ hs.reverse) = 1 := by
    rw [openBlocks_word hword h.rests, blocksAfter_begin hb (h.head b), h.closed]
  rcases hbs.keeps _ (.inr hspaced.start) (fun _ => by rw [hopened]; exact Nat.one_pos) with ⟨hmore, hsame⟩
  have hreverse : (hs ++ (codes b ++ bs)).reverse = bs.reverse ++ ((codes b).reverse ++ hs.reverse) := by
    simp only [List.reverse_append, List.append_assoc]
  refine ⟨hs ++ (codes b ++ bs), ?_, fun rest hrest => ?_, ?_, ?_, ?_, ?_⟩
  · rw [List.flatMap_append, List.flatMap_append, h.text, flatMap_text_codes, hbs.text]
  · refine reads_append.2 ⟨h.reads _ ?_, reads_append.2 ⟨hword.reads _, hbs.reads rest hrest⟩⟩
    rw [List.flatMap_append, flatMap_text_codes, List.append_assoc]
    exact hword.head _
  · refine continues_append.2 ⟨h.continues, continues_append.2 ⟨hword.continues _, ?_⟩⟩
    rwa [List.append_nil]
  · rw [hreverse, hsame, hopened]
  · rw [hreverse]
    exact rests_of_stop hspaced.filled hspaced.stop hbs.text _
  · -- the word `BEGIN` is there, so the fragment is more than blanks and comments
    rcases List.exists_cons_of_ne_nil hword.filled with ⟨c, w, rfl⟩
    have hc : isBlank c = false := hword.not_blank_head [] c rfl
    simp [codes, Piece.isSolid, hc]

theorem readStatements_trigger {header b body e : List Char} (hheader : TriggerHeader header)
    (hb : sameIgnoringCase b "BEGIN".toList = true) (hbody : Balanced true body) (hspaced : Spaced body)
    (he : sameIgnoringCase e "END".toList = true) :
    readStatements (header ++ (b ++ body) ++ e) = .ok [trim (header ++ (b ++ body) ++ e)] ∧
      readStatements (header ++ (b ++ body)) = .error "BEGIN or CASE block is missing its END" := by
  rcases hheader.exists_announces with ⟨hs, hhs⟩
  rcases hhs.exists_body hb hbody hspaced with ⟨ps, htext, hreads, hgoes, hopen, hrests, hsolid⟩
  have hword : IsWord e := isWord_of_same (isWord_of_all (by decide) (by decide)) he
  constructor
  · have hreverse : (ps ++ codes e).reverse = (codes e).reverse ++ ps.reverse := List.reverse_append
    have hclosed : openBlocks (ps ++ codes e).reverse = 0 := by
      rw [hreverse, openBlocks_word hword hrests, blocksAfter_end he, hopen]
    have hall : (ps ++ codes e).flatMap Piece.text = header ++ (b ++ body) ++ e := by
      rw [List.flatMap_append, htext, flatMap_text_codes]
    have hmakes := Makes.last (continues_append.2 ⟨hgoes, hword.continues _⟩) hclosed
    have hstatement : statementOf? (ps ++ codes e).reverse = some (trim (header ++ (b ++ body) ++ e)) := by
      rw [statementOf?, List.any_reverse, List.any_append, hsolid, Bool.true_or, if_pos rfl, textOf,
        List.reverse_reverse, hall]
    rw [hstatement] at hmakes
    refine readStatements_eq_ok_iff.2 ⟨ps ++ codes e, hall.symm, reads_append.2 ⟨hreads _ ?_, hword.reads []⟩, hmakes⟩
    rw [flatMap_text_codes]
    exact hword.head []
  · have hpieces := (hreads [] (by simp)).pieces_eq
    rw [htext] at hpieces
    rw [readStatements, hpieces]
    show statementsOf [] ps = _
    rw [hgoes.statementsOf_nil, hopen, if_pos Nat.one_pos]

/-- The definition of a trigger is one statement as it stands, whatever semicolons its body has, and without its last
`END` it is refused for a block that is not closed. -/
theorem split_trigger {header opening body closing : String} (hheader : TriggerHeader header.toList)
    (hopening : sameIgnoringCase opening.toList "BEGIN".toList = true) (hbody : Balanced true body.toList)
    (hspaced : Spaced body.toList) (hclosing : sameIgnoringCase closing.toList "END".toList = true) :
    split (header ++ opening ++ body ++ closing) = .ok [Text.trimString (header ++ opening ++ body ++ closing)] ∧
      (split (header ++ opening ++ body)).mapError Unclosed.message =
        .error "BEGIN or CASE block is missing its END" := by
  rcases readStatements_trigger hheader hopening hbody hspaced hclosing with ⟨hwhole, hopen⟩
  have htext : (header ++ opening ++ body).toList = header.toList ++ (opening.toList ++ body.toList) := by simp
  constructor
  · rw [split_eq_ok_iff, String.toList_append, htext, hwhole]
    simp [Text.trimString, htext]
  · have hchars := mapError_splitChars (header ++ opening ++ body).toList
    rw [htext, hopen, ← htext] at hchars
    unfold split
    cases hsplit : splitChars (header ++ opening ++ body).toList with
    | ok xs =>
      rw [hsplit] at hchars
      cases hchars
    | error u =>
      rw [hsplit] at hchars
      rw [← Except.error.inj hchars]
      rfl

/-- A definition with a comment between its keywords, and a block in a block, a quoted semicolon and others in its body. -/
theorem split_trigger_nested :
    split ("CREATE temp/* a; */TRIGGER t " ++ "BEGIN" ++ " SELECT CASE k ELSE CASE k END END;';'; " ++ "END") =
        .ok ["CREATE temp/* a; */TRIGGER t BEGIN SELECT CASE k ELSE CASE k END END;';'; END"] ∧
      (split ("CREATE temp/* a; */TRIGGER t " ++ "BEGIN" ++ " SELECT CASE k ELSE CASE k END END;';'; ")).mapError
        Unclosed.message = .error "BEGIN or CASE block is missing its END" := by
  have hat {p : Char → Prop} {o : Option Char} {c : Char} (ho : o = some c) (hc : p c) : ∀ d ∈ o, p d := by
    intro d hd
    rw [ho] at hd
    exact Option.some.inj hd ▸ hc
  have hcomment : Gap false 0 ['/', '*', ' ', 'a', ';', ' ', '*', '/'] :=
    .blockComment (by decide : ¬['*', '/'] <:+: [' ', 'a', ';', ' ']) .nil
  have hkeywords : Phrase (Gap false 0) ["CREATE".toList, "TEMP".toList, "TRIGGER".toList]
      ("CREATE".toList ++ ([' '] ++ ("temp".toList ++ (['/', '*', ' ', 'a', ';', ' ', '*', '/'] ++
        ("TRIGGER".toList ++ ([' '] ++ [])))))) :=
    .cons (by decide) (.blank (by decide) .nil) (by decide)
      (.cons (by decide) hcomment (by decide) (.cons (by decide) (.blank (by decide) .nil) (by decide) .nil))
  have hspace {semicolons : Bool} {r : List Char} (hmark : ∀ d ∈ r.head?, isWordPart d = true)
      (h : Balanced semicolons r) : Balanced semicolons (' ' :: r) :=
    .code (by decide) (by decide) (fun d hd => pair?_isWordPart ' ' (hmark d hd))
      (fun hsemicolon => absurd hsemicolon (by decide)) h
  have hend {semicolons : Bool} : Balanced semicolons [' '] := hspace (by simp) .nil
  have hword {semicolons : Bool} {w r : List Char} (hfilled : w ≠ []) (hparts : w.all isWordPart = true)
      (hplain : ∀ k ∈ blockWords, sameIgnoringCase w k = false) (h : Balanced semicolons (' ' :: r)) :
      Balanced semicolons (w ++ ' ' :: r) := .word (isWord_of_all hfilled hparts) hplain (hat rfl (by decide)) h
  have hname : Balanced false ("t".toList ++ [' ']) := hword (by decide) (by decide) (by decide) hend
  have hheader : TriggerHeader "CREATE temp/* a; */TRIGGER t ".toList :=
    .intro .nil (by decide) hkeywords hname (hat rfl (by decide))
  have hinner : Balanced true (' ' :: ("k".toList ++ [' '])) :=
    hspace (hat rfl (by decide)) (hword (by decide) (by decide) (by decide) hend)
  have hblock : Balanced true ("CASE".toList ++ (' ' :: ("k".toList ++ [' ']) ++ ("END".toList ++ [' ']))) :=
    .block (by decide) ⟨by decide, hat rfl (by decide), hat rfl (by decide)⟩ hinner (by decide) (hat rfl (by decide)) hend
  have houter : Balanced true (' ' :: ("k".toList ++ ' ' :: ("ELSE".toList ++ ' ' ::
      ("CASE".toList ++ (' ' :: ("k".toList ++ [' ']) ++ ("END".toList ++ [' '])))))) :=
    hspace (hat rfl (by decide)) (hword (by decide) (by decide) (by decide) (hspace (hat rfl (by decide))
      (hword (by decide) (by decide) (by decide) (hspace (hat rfl (by decide)) hblock))))
  have hlast : Balanced true [';', '\'', ';', '\'', ';', ' '] :=
    .code (by decide) (by decide) (hat rfl (by decide)) (by decide)
      (.region (.quotes .single) (by decide : ¬['\''] <:+: [';'])
        (.code (by decide) (by decide) (hat rfl (by decide)) (by decide) hend))
  have hselected : Balanced true ("CASE".toList ++ (' ' :: ("k".toList ++ ' ' :: ("ELSE".toList ++ ' ' ::
      ("CASE".toList ++ (' ' :: ("k".toList ++ [' ']) ++ ("END".toList ++ [' ']))))) ++
        ("END".toList ++ [';', '\'', ';', '\'', ';', ' ']))) :=
    .block (by decide) ⟨by decide, hat rfl (by decide), hat rfl (by decide)⟩ houter (by decide) (hat rfl (by decide)) hlast
  have hbody : Balanced true " SELECT CASE k ELSE CASE k END END;';'; ".toList :=
    hspace (hat rfl (by decide)) (hword (by decide : "SELECT".toList ≠ []) (by decide) (by decide)
      (hspace (hat rfl (by decide)) hselected))
  have hspaced : Spaced " SELECT CASE k ELSE CASE k END END;';'; ".toList :=
    ⟨by decide, hat rfl (by decide), hat rfl (by decide)⟩
  have hwhole := @split_trigger _ "BEGIN" _ "END" hheader (by decide) hbody hspaced (by decide)
  refine ⟨hwhole.1.trans ?_, hwhole.2⟩
  refine congrArg (fun text => Except.ok [text]) ?_
  decide +kernel

end SchemaMigration.Script
