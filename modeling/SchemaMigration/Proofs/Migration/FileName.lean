import Mathlib.Algebra.Group.Nat.Defs
import Mathlib.Data.List.Infix
import SchemaMigration.Migration.FileName

/-!
# The names that files may have

* `IsNumeral d v` : the digits `d` write the version `v`, with any number of zeros first;
* `Spells f v n` : the grammar of file names;
* `parseFileName_spells` : what is read of a name is what it spells, and any other name is a fault.

The digits of a name are as many as there are, and no separator is a digit. So a name is cut in one place only, also where
the separator is the dot that the ending begins with.
-/

namespace SchemaMigration.Migration

set_option autoImplicit false

open Time (digitsValue)

/-! ## The grammar -/

/-- Decimal digits, zeros first allowed, and the version that they write. -/
structure IsNumeral (d : List Char) (v : Nat) : Prop where
  filled : d ≠ []
  digits : ∀ c ∈ d, c.isDigit = true
  value : Nat.ofDigitChars 10 d 0 = v
  bounded : v ≤ 2 ^ 63 - 1

/-- The names of files: a version and the ending, or a version, a separator, a name on one line and the ending. Without a
name the digits are the name. -/
inductive Spells : List Char → Nat → List Char → Prop
  | unnamed {d : List Char} {v : Nat} (numeral : IsNumeral d v) : Spells (d ++ ".sql".toList) v d
  | named {d n : List Char} {v : Nat} {sep : Char} (numeral : IsNumeral d v) (separator : sep ∈ ['_', '-', '.'])
      (filled : n ≠ []) (oneLine : '\n' ∉ n) : Spells (d ++ sep :: (n ++ ".sql".toList)) v n

theorem suffix_eq : suffix = ".sql".toList := rfl

theorem greatestVersion_eq : greatestVersion = 2 ^ 63 - 1 := rfl

theorem isSeparator_iff {c : Char} : isSeparator c = true ↔ c ∈ ['_', '-', '.'] := by
  simp [isSeparator, or_assoc]

theorem digitsValue_eq (d : List Char) : digitsValue d = Nat.ofDigitChars 10 d 0 := by
  rw [digitsValue, Nat.ofDigitChars_eq_foldl]

/-! ## What follows the digits -/

theorem nameAfterDigits_eq_some {r n : List Char} :
    nameAfterDigits r = some n ↔
      ∃ sep ∈ ['_', '-', '.'], r = sep :: (n ++ suffix) ∧ n ≠ [] ∧ '\n' ∉ n := by
  cases r with
  | nil => simp [nameAfterDigits]
  | cons sep body =>
    unfold nameAfterDigits
    simp only [Option.ite_none_right_eq_some, Option.some.injEq, Bool.and_eq_true, List.isSuffixOf_iff_suffix,
      isSeparator_iff, Bool.not_eq_true', List.isEmpty_eq_false_iff, List.contains_eq_mem, decide_eq_false_iff_not]
    constructor
    · intro h
      rcases h with ⟨⟨⟨⟨hsep, hend⟩, hfilled⟩, hline⟩, hn⟩
      rcases hend with ⟨t, rfl⟩
      have ht : (t ++ suffix).take ((t ++ suffix).length - suffix.length) = t := by simp
      rw [ht] at hfilled hline hn
      subst hn
      exact ⟨sep, hsep, rfl, hfilled, hline⟩
    · intro h
      rcases h with ⟨x, hx, hr, hfilled, hline⟩
      rcases List.cons.inj hr with ⟨rfl, rfl⟩
      have hn : (n ++ suffix).take ((n ++ suffix).length - suffix.length) = n := by simp
      rw [hn]
      exact ⟨⟨⟨⟨hx, List.suffix_append n suffix⟩, hfilled⟩, hline⟩, rfl⟩

/-- No separator is a digit, so the digits before it are all the digits. -/
theorem not_isDigit_separator {sep : Char} (h : sep ∈ ['_', '-', '.']) : sep.isDigit = false := by
  simp only [List.mem_cons, List.not_mem_nil, or_false] at h
  rcases h with rfl | rfl | rfl <;> decide

theorem readFileName_append {d : List Char} {v : Nat} (h : IsNumeral d v) {c : Char} (hc : c.isDigit = false)
    (r : List Char) :
    readFileName (d ++ c :: r) =
      if (c :: r == suffix) = true then some (v, d) else (nameAfterDigits (c :: r)).map fun n => (v, n) := by
  have htake : (d ++ c :: r).takeWhile Char.isDigit = d := by
    rw [List.takeWhile_append_of_pos h.digits, List.takeWhile_cons_of_neg (by simp [hc]), List.append_nil]
  have hdrop : (d ++ c :: r).dropWhile Char.isDigit = c :: r := by
    rw [List.dropWhile_append_of_pos h.digits, List.dropWhile_cons_of_neg (by simp [hc])]
  have hsmall : ¬(d.isEmpty = true ∨ greatestVersion < v) := by
    rw [not_or, List.isEmpty_iff, greatestVersion_eq, Nat.not_lt]
    exact ⟨h.filled, h.bounded⟩
  unfold readFileName
  simp only [htake, hdrop, digitsValue_eq, h.value, Bool.or_eq_true, decide_eq_true_eq, if_neg hsmall]

/-! ## Names -/

theorem Spells.readFileName_eq {f n : List Char} {v : Nat} (h : Spells f v n) : readFileName f = some (v, n) := by
  cases h with
  | unnamed numeral =>
    show readFileName (n ++ '.' :: "sql".toList) = _
    rw [readFileName_append numeral (by decide), if_pos (by decide)]
  | @named d n v sep numeral separator filled oneLine =>
    have hname : nameAfterDigits (sep :: (n ++ suffix)) = some n :=
      nameAfterDigits_eq_some.2 ⟨sep, separator, rfl, filled, oneLine⟩
    -- a name makes the rest longer than the ending, so that it is not taken for the ending
    have hlonger : ¬(sep :: (n ++ suffix) == suffix) = true := by
      rw [beq_iff_eq]
      intro hsame
      have hlength := congrArg List.length hsame
      simp only [List.length_cons, List.length_append] at hlength
      omega
    rw [readFileName_append numeral (not_isDigit_separator separator), ← suffix_eq, if_neg hlonger, hname]
    rfl

theorem Spells.bounded {f n : List Char} {v : Nat} (h : Spells f v n) : v ≤ 2 ^ 63 - 1 := by
  cases h with
  | unnamed numeral => exact numeral.bounded
  | named numeral => exact numeral.bounded

theorem spells_of_readFileName {f n : List Char} {v : Nat} (h : readFileName f = some (v, n)) : Spells f v n := by
  have hf : f = f.takeWhile Char.isDigit ++ f.dropWhile Char.isDigit := List.takeWhile_append_dropWhile.symm
  unfold readFileName at h
  dsimp only at h
  split at h
  · cases h
  · next hread =>
    rw [Bool.or_eq_true, decide_eq_true_eq, not_or, List.isEmpty_iff] at hread
    have hnumeral : IsNumeral (f.takeWhile Char.isDigit) (digitsValue (f.takeWhile Char.isDigit)) := by
      refine ⟨hread.1, fun c hc => ?_, (digitsValue_eq _).symm, ?_⟩
      · exact List.all_eq_true.1 List.all_takeWhile c hc
      · rw [← greatestVersion_eq]
        omega
    split at h
    · next hend =>
      rcases Prod.mk.inj (Option.some.inj h) with ⟨hv, hn⟩
      rw [beq_iff_eq, suffix_eq] at hend
      rw [hend] at hf
      rw [hf, ← hv, ← hn]
      exact .unnamed hnumeral
    · rcases Option.map_eq_some_iff.1 h with ⟨name, hname, hpair⟩
      rcases Prod.mk.inj hpair with ⟨hv, hn⟩
      rcases nameAfterDigits_eq_some.1 hname with ⟨sep, hsep, hrest, hfilled, hline⟩
      rw [hrest] at hf
      rw [hf, ← hv, ← hn]
      exact .named hnumeral hsep hfilled hline

theorem Spells.unique {f n n' : List Char} {v v' : Nat} (h : Spells f v n) (h' : Spells f v' n') : v = v' ∧ n = n' :=
  Prod.mk.inj (Option.some.inj (h.readFileName_eq.symm.trans h'.readFileName_eq))

/-- A version that a name spells fits the word that keeps it. -/
theorem Spells.toNat_ofNat {f n : List Char} {v : Nat} (h : Spells f v n) : (UInt64.ofNat v).toNat = v := by
  have hbounded := h.bounded
  rw [UInt64.toNat_ofNat']
  omega

theorem parseFileName_eq_ok {f n : String} {v : Version} :
    parseFileName f = .ok (v, n) ↔ Spells f.toList v.toNat n.toList := by
  unfold parseFileName
  constructor
  · intro h
    cases hread : readFileName f.toList with
    | none =>
      rw [hread] at h
      cases h
    | some p =>
      rw [hread] at h
      rcases Prod.mk.inj (Except.ok.inj h) with ⟨rfl, rfl⟩
      have hspells := spells_of_readFileName hread
      rw [hspells.toNat_ofNat, String.toList_ofList]
      exact hspells
  · intro h
    rw [h.readFileName_eq]
    show Except.ok (UInt64.ofNat v.toNat, String.ofList n.toList) = Except.ok (v, n)
    rw [UInt64.ofNat_toNat, String.ofList_toList]

theorem parseFileName_eq_error {f : String} {fault : Fault} :
    parseFileName f = .error fault ↔ fault = .invalidMigrationName f ∧ ∀ v n, ¬Spells f.toList v n := by
  unfold parseFileName
  cases hread : readFileName f.toList with
  | none =>
    constructor
    · intro h
      refine ⟨(Except.error.inj h).symm, fun v n hspells => ?_⟩
      cases hread.symm.trans hspells.readFileName_eq
    · intro h
      rw [h.1]
  | some p =>
    constructor
    · intro h
      cases h
    · intro h
      exact absurd (spells_of_readFileName hread) (h.2 p.1 p.2)

/-- A file name is accepted with the version and the name that it spells, which are its only ones, and any other text is
refused with a fault that names it. -/
theorem parseFileName_spells (f : String) :
    (∀ v n, parseFileName f = .ok (v, n) ↔ Spells f.toList v.toNat n.toList) ∧
      (∀ v n v' n', Spells f.toList v n → Spells f.toList v' n' → v = v' ∧ n = n') ∧
      ∀ fault, parseFileName f = .error fault ↔
        fault = .invalidMigrationName f ∧ ∀ v n, ¬Spells f.toList v n :=
  ⟨fun _ _ => parseFileName_eq_ok, fun _ _ _ _ h h' => h.unique h', fun _ => parseFileName_eq_error⟩

example : parseFileName "007.sql.sql" = .ok (7, "sql") := by decide +kernel

example : parseFileName "7..sql" = .error (.invalidMigrationName "7..sql") := by decide +kernel

end SchemaMigration.Migration
