import SchemaMigration.Proofs.Clickhouse.Sending

/-!
# Queries, token by token

`Token`              : a word, a name between backquotes, a literal, a place for a value, or a symbol.
`lex`                : the tokens of a text, unless a quote stays open or a place stands between quotes.
`Reads`              : a text that ends where a token may begin, with its tokens.
`count_place_of_lex` : the places among the tokens are all the places that the client fills.
`reads_quoteName`    : a name that is accepted is read as that name, with nothing around it.
-/

namespace SchemaMigration.Clickhouse

set_option autoImplicit false

/-! ## Tokens -/

inductive Token
  | word (text : String)
  /-- Between backquotes. -/
  | name (text : String)
  /-- Between single quotes. -/
  | literal (text : String)
  | place
  | symbol (c : Char)
  deriving DecidableEq, Repr

def Token.name? : Token → Option String
  | name text => some text
  | _ => none

/-- The two kinds of quotes. -/
inductive Quotes
  | back
  | single
  deriving DecidableEq, Repr

def Quotes.mark : Quotes → Char
  | back => '\x60'
  | single => '\''

def Quotes.token : Quotes → String → Token
  | back => .name
  | single => .literal

def isWordChar (c : Char) : Bool := c.isAlphanum || c == '_'

/-! ## The lexer -/

namespace Lexer

/-- Where the lexer is: between tokens, in a word, or between quotes, perhaps right after a backslash. -/
inductive Mode
  | between
  | word (seen : List Char)
  | quoted (q : Quotes) (escaped : Bool) (seen : List Char)
  deriving DecidableEq, Repr

/-- A character with which a token may begin. -/
def start (c : Char) : List Token × Mode :=
  if c.isWhitespace then ([], .between)
  else if c == Quotes.back.mark then ([], .quoted .back false [])
  else if c == Quotes.single.mark then ([], .quoted .single false [])
  else if c == placeMark then ([.place], .between)
  else if isWordChar c then ([], .word [c])
  else ([.symbol c], .between)

/-- One character. Between quotes a backslash lets the next character stand for itself, and a place is refused there:
the client would fill it. -/
def step : Mode → Char → Option (List Token × Mode)
  | .between, c => some (start c)
  | .word seen, c =>
    if isWordChar c then some ([], .word (seen ++ [c]))
    else some (.word (String.ofList seen) :: (start c).1, (start c).2)
  | .quoted q escaped seen, c =>
    if c == placeMark then none
    else if escaped then some ([], .quoted q false (seen ++ [c]))
    else if c == '\\' then some ([], .quoted q true seen)
    else if c == q.mark then some ([q.token (String.ofList seen)], .between)
    else some ([], .quoted q false (seen ++ [c]))

def run : Mode → List Char → Option (List Token × Mode)
  | m, [] => some ([], m)
  | m, c :: r => do
    let (ts, m) ← step m c
    let (us, m) ← run m r
    return (ts ++ us, m)

/-- What the end of the text makes of the last token. -/
def finish : Mode → Option (List Token)
  | .between => some []
  | .word seen => some [.word (String.ofList seen)]
  | .quoted .. => none

end Lexer

open Lexer (run step start finish)

/-- The tokens of a text, unless a quote stays open or a place stands between quotes. -/
def lex (s : String) : Option (List Token) := do
  let (ts, m) ← run .between s.toList
  let us ← finish m
  return ts ++ us

namespace Lexer

variable {m m' m'' : Mode} {c : Char} {a b : List Char} {ts us : List Token}

theorem run_cons_iff : run m (c :: a) = some (ts, m'') ↔
    ∃ us m' vs, step m c = some (us, m') ∧ run m' a = some (vs, m'') ∧ ts = us ++ vs := by
  constructor
  · intro h
    obtain ⟨⟨us, m'⟩, hc, hrest⟩ := Option.bind_eq_some_iff.1 h
    obtain ⟨⟨vs, m₁⟩, ha, hdone⟩ := Option.bind_eq_some_iff.1 hrest
    obtain ⟨rfl, rfl⟩ : us ++ vs = ts ∧ m₁ = m'' := by simpa using hdone
    exact ⟨us, m', vs, hc, ha, rfl⟩
  · rintro ⟨us, m', vs, hc, ha, rfl⟩
    simp [run, hc, ha]

theorem run_append (ha : run m a = some (ts, m')) (hb : run m' b = some (us, m'')) :
    run m (a ++ b) = some (ts ++ us, m'') := by
  induction a generalizing m ts with
  | nil =>
    obtain ⟨rfl, rfl⟩ : [] = ts ∧ m = m' := by simpa [run] using ha
    exact hb
  | cons c a ih =>
    obtain ⟨vs, m₁, ws, hc, hrun, rfl⟩ := run_cons_iff.1 ha
    rw [List.append_assoc]
    exact run_cons_iff.2 ⟨vs, m₁, ws ++ us, hc, ih hrun, rfl⟩

/-! ## Places -/

theorem count_place_start (c : Char) : (start c).1.count .place = [c].count placeMark := by
  by_cases hc : c = placeMark
  · subst hc
    rfl
  · have hmark : (c == placeMark) = false := beq_eq_false_iff_ne.2 hc
    simp only [start, hmark, List.count_singleton, Bool.false_eq_true, if_false]
    repeat' split
    all_goals rfl

/-- Every place becomes a token of its own. -/
theorem count_place_step (h : step m c = some (ts, m')) : ts.count .place = [c].count placeMark := by
  cases m with
  | between =>
    obtain rfl : (start c).1 = ts := congrArg Prod.fst (Option.some.inj h)
    exact count_place_start c
  | word seen =>
    rw [step] at h
    split at h
    · next hc =>
      have hmark : (c == placeMark) = false := by
        rw [beq_eq_false_iff_ne]
        rintro rfl
        cases hc
      obtain rfl : [] = ts := congrArg Prod.fst (Option.some.inj h)
      rw [List.count_singleton, hmark]
      rfl
    · obtain rfl : _ :: (start c).1 = ts := congrArg Prod.fst (Option.some.inj h)
      rw [List.count_cons_of_ne (by simp), count_place_start]
  | quoted q escaped seen =>
    have htoken : [q.token (String.ofList seen)].count .place = 0 := by cases q <;> rfl
    rw [step] at h
    split at h
    · cases h
    · next hc =>
      rw [List.count_singleton, if_neg hc]
      repeat' split at h
      all_goals cases h
      all_goals first | rfl | exact htoken

theorem count_place_run (h : run m a = some (ts, m')) : ts.count .place = a.count placeMark := by
  induction a generalizing m ts with
  | nil =>
    cases h
    rfl
  | cons c a ih =>
    obtain ⟨us, m₁, vs, hc, ha, rfl⟩ := run_cons_iff.1 h
    rw [List.count_append, count_place_step hc, ih ha, ← List.count_append, List.singleton_append]

theorem count_place_finish (h : finish m = some ts) : ts.count .place = 0 := by
  cases m <;> cases h <;> rfl

/-! ## Ends of tokens -/

/-- A blank ends a word as the end of the text does. -/
theorem step_of_finish (hc : c.isWhitespace = true) (h : finish m = some ts) : step m c = some (ts, .between) := by
  have hstart : start c = ([], .between) := if_pos hc
  cases m with
  | between =>
    cases h
    rw [step, hstart]
  | word seen =>
    have hword : isWordChar c = false := by
      simp only [Char.isWhitespace, Bool.or_eq_true, decide_eq_true_eq] at hc
      obtain ((rfl | rfl) | rfl) | rfl := hc <;> rfl
    cases h
    rw [step, hword, hstart]
    rfl
  | quoted q escaped seen => cases h

/-- What may stand in a name does not end it. -/
theorem run_name {cs : List Char} (hcs : ∀ c ∈ cs, isNameChar c = true) (seen : List Char) :
    run (.quoted .back false seen) (cs ++ ['\x60']) = some ([.name (String.ofList (seen ++ cs))], .between) := by
  induction cs generalizing seen with
  | nil => simp [run, step, Quotes.mark, Quotes.token, placeMark]
  | cons c cs ih =>
    rw [List.forall_mem_cons] at hcs
    have hc : step (.quoted .back false seen) c = some ([], .quoted .back false (seen ++ [c])) := by
      have hname := hcs.1
      simp only [isNameChar, Bool.not_eq_true', Bool.or_eq_false_iff] at hname
      simp [step, Quotes.mark, placeMark, hname]
    have hrest := ih hcs.2 (seen ++ [c])
    rw [List.append_assoc, List.singleton_append] at hrest
    exact run_cons_iff.2 ⟨_, _, _, hc, hrest, rfl⟩

end Lexer

/-! ## Texts -/

section

open Lexer

variable {s t : String} {ts us : List Token}

theorem lex_eq_some_iff :
    lex s = some ts ↔ ∃ us m vs, run .between s.toList = some (us, m) ∧ finish m = some vs ∧ ts = us ++ vs := by
  constructor
  · intro h
    obtain ⟨⟨us, m⟩, hrun, hrest⟩ := Option.bind_eq_some_iff.1 h
    obtain ⟨vs, hfinish, hdone⟩ := Option.bind_eq_some_iff.1 hrest
    exact ⟨us, m, vs, hrun, hfinish, (Option.some.inj hdone).symm⟩
  · rintro ⟨us, m, vs, hrun, hfinish, rfl⟩
    simp [lex, hrun, hfinish]

/-- The places among the tokens are all the places of the text. -/
theorem count_place_of_lex (h : lex s = some ts) : ts.count .place = places s := by
  obtain ⟨us, m, vs, hrun, hfinish, rfl⟩ := lex_eq_some_iff.1 h
  rw [List.count_append, count_place_run hrun, count_place_finish hfinish]
  rfl

/-- The text ends where a token may begin, and these are its tokens. -/
def Reads (s : String) (ts : List Token) : Prop := run .between s.toList = some (ts, .between)

instance : Decidable (Reads s ts) := inferInstanceAs (Decidable (_ = _))

theorem Reads.lex (hs : Reads s ts) : lex s = some ts :=
  lex_eq_some_iff.2 ⟨ts, _, [], hs, rfl, (List.append_nil ts).symm⟩

theorem Reads.append (hs : Reads s ts) (ht : Reads t us) : Reads (s ++ t) (ts ++ us) := by
  rw [Reads, String.toList_append]
  exact run_append hs ht

theorem Reads.lex_append (hs : Reads s ts) (ht : Clickhouse.lex t = some us) :
    Clickhouse.lex (s ++ t) = some (ts ++ us) := by
  obtain ⟨vs, m, ws, hrun, hfinish, rfl⟩ := lex_eq_some_iff.1 ht
  rw [lex_eq_some_iff, String.toList_append]
  exact ⟨ts ++ vs, m, ws, run_append hs hrun, hfinish, (List.append_assoc _ _ _).symm⟩

/-- A blank ends the last token before it. -/
theorem reads_append_of_blank {d : Char} {r : List Char} (hs : lex s = some ts) (ht : Reads t us)
    (htext : t.toList = d :: r) (hd : d.isWhitespace = true) : Reads (s ++ t) (ts ++ us) := by
  obtain ⟨vs, m, ws, hrun, hfinish, rfl⟩ := lex_eq_some_iff.1 hs
  rw [Reads, htext] at ht
  obtain ⟨xs, m', ys, hstep, hrest, rfl⟩ := run_cons_iff.1 ht
  obtain ⟨rfl, rfl⟩ : [] = xs ∧ .between = m' := by
    have hblank : step .between d = some ([], .between) := step_of_finish hd rfl
    rw [hblank] at hstep
    simpa using hstep
  rw [Reads, String.toList_append, htext, List.append_assoc]
  exact run_append hrun (run_cons_iff.2 ⟨ws, .between, ys, step_of_finish hd hfinish, hrest, rfl⟩)

/-- A name that is accepted is read as that name. -/
theorem reads_quoteName {name : String} (h : isName name = true) : Reads (quoteName name) [.name name] := by
  rw [isName, Bool.and_eq_true, List.all_eq_true] at h
  have hname := run_name h.2 []
  rw [List.nil_append, String.ofList_toList] at hname
  have hquoted : (quoteName name).toList = '\x60' :: (name.toList ++ ['\x60']) := by simp [quoteName]
  rw [Reads, hquoted]
  exact run_cons_iff.2 ⟨[], _, _, rfl, hname, rfl⟩

end

example : lex (quoteName "a` ON CLUSTER `b") = some [.name "a", .word "ON", .word "CLUSTER", .name "b"] := by decide

end SchemaMigration.Clickhouse
