import Mathlib.Data.List.TakeWhile
import SchemaMigration.Proofs.Time.Calendar
import SchemaMigration.Time.Printer
import SchemaMigration.Time.Reader

/-!
# Times as stored text

`Instant.IsPlain`            : the instants of the years that are written with four digits.
`Instant.ofFields?_fields`   : the fields of an instant lead back to it.
`Instant.ofRfc3339?_textIn`  : so does its stored text.
-/

namespace SchemaMigration.Time

set_option autoImplicit false

/-- An instant whose year has four digits, and whose nanoseconds reach a second in the last second of a minute only. -/
structure Instant.IsPlain (t : Instant) : Prop where
  year : 0 ≤ t.fields.date.year ∧ t.fields.date.year ≤ 9999
  nanos : t.nanos < second ∨ t.nanos < 2 * second ∧ t.seconds % 60 = 59

theorem Instant.isPlain_epoch : (⟨0, 0⟩ : Instant).IsPlain := ⟨by decide, .inl (by decide)⟩

/-! ## Fields -/

theorem isKept_of_year {t : Instant} (h : firstYear ≤ t.fields.date.year ∧ t.fields.date.year ≤ lastYear) :
    t.isKept = true := by
  obtain ⟨era, y, m, d, hy0, hy399, hm0, hm11, hd1, hd, -, hn, hdate⟩ := exists_marchDate (t.seconds.fdiv dayLength)
  have hfirst : (⟨firstYear, 1, 1⟩ : Date).days = -96465292 := by decide
  have hlast : (⟨lastYear, 12, 31⟩ : Date).days = 95026236 := by decide
  have hyear : t.fields.date.year = y + era * 400 + (if m < 10 then 0 else 1) := congrArg Date.year hdate
  rw [hyear, firstYear, lastYear] at h
  simp only [Instant.isKept, hfirst, hlast, Bool.and_eq_true, decide_eq_true_eq]
  split at h <;> omega

theorem Instant.ofFields?_fields {t : Instant} (ht : t.IsPlain) : Instant.ofFields? t.fields 0 = some t := by
  let days := t.seconds / 86400
  let inDay := (t.seconds - days * 86400).toNat
  let leap := if second ≤ t.nanos then 1 else 0
  have hfields : t.fields =
      ⟨Date.ofDays days, inDay / 3600, inDay / 60 % 60, inDay % 60 + leap, t.nanos - leap * second⟩ := by
    simp only [Instant.fields, dayLength, Int.fdiv_eq_ediv_of_nonneg _ (show (0 : Int) ≤ 86400 by decide)]
    rfl
  have hyear : firstYear ≤ t.fields.date.year ∧ t.fields.date.year ≤ lastYear := by
    have := ht.year
    simp only [firstYear, lastYear]
    omega
  have hdate : (Date.ofDays days).isValid = true := isValid_ofDays (by rwa [hfields] at hyear)
  have hinDay : (inDay : Int) = t.seconds - days * 86400 ∧ inDay < 86400 := by omega
  have hkept := isKept_of_year hyear
  have hnanos := ht.nanos
  rw [second] at hnanos
  have hleap : leap = 0 ∧ t.nanos < 1000000000 ∨ leap = 1 ∧ 1000000000 ≤ t.nanos ∧ inDay % 60 = 59 := by
    by_cases h : 1000000000 ≤ t.nanos
    · exact .inr ⟨if_pos h, h, by omega⟩
    · exact .inl ⟨if_neg h, by omega⟩
  clear_value leap inDay
  have hvalid : t.fields.isValid = true := by
    rw [hfields]
    simp only [Fields.isValid, hdate, Bool.true_and, Bool.and_eq_true, decide_eq_true_eq]
    rw [second]
    obtain ⟨rfl, _⟩ | ⟨rfl, _⟩ := hleap <;> omega
  have hback : (⟨(Date.ofDays days).days * dayLength +
      ((inDay / 3600 * 3600 + inDay / 60 % 60 * 60 + (inDay % 60 + leap - leap) : Nat) : Int) - 0,
      t.nanos - leap * second + leap * second⟩ : Instant) = t := by
    rw [days_ofDays]
    change _ = (⟨t.seconds, t.nanos⟩ : Instant)
    simp only [Instant.mk.injEq, dayLength, second]
    obtain ⟨rfl, _⟩ | ⟨rfl, _⟩ := hleap <;> omega
  have hsixty : (if (inDay % 60 + leap == 60) = true then 1 else 0) = leap := by
    simp only [beq_iff_eq]
    split <;> omega
  rw [Instant.ofFields?, if_pos hvalid, hfields]
  simp only [hsixty]
  rw [hback, if_pos hkept]

/-! ## Numbers -/

theorem length_zeroPadded {w n : Nat} (hw : 0 < w) (hn : n < 10 ^ w) : (zeroPadded w n).length = w := by
  have hlength := (Nat.length_toDigits_le_iff (b := 10) (by decide) hw).2 hn
  rw [zeroPadded, List.length_append, List.length_replicate]
  omega

theorem isDigit_of_mem_zeroPadded {w n : Nat} {c : Char} (hc : c ∈ zeroPadded w n) : c.isDigit = true := by
  obtain hzero | hdigit := List.mem_append.1 hc
  · rw [List.eq_of_mem_replicate hzero]
    rfl
  · exact Nat.isDigit_of_mem_toDigits (by decide) (by decide) hdigit

theorem digitsValue_zeroPadded (w n : Nat) : digitsValue (zeroPadded w n) = n := by
  rw [digitsValue, ← Nat.ofDigitChars_eq_foldl, zeroPadded, Nat.ofDigitChars_append, Nat.ofDigitChars_replicate_zero,
    Nat.mul_zero, Nat.ofDigitChars_ten_toDigits]

theorem takeWhile_zeroPadded (w n : Nat) : (zeroPadded w n).takeWhile Char.isDigit = zeroPadded w n :=
  List.takeWhile_eq_self_iff.2 fun _ hc => isDigit_of_mem_zeroPadded hc

/-- A number in a fixed width is read back from any text that it begins. -/
theorem number_zeroPadded {w n : Nat} (hw : 0 < w) (hn : n < 10 ^ w) (r : List Char) :
    number w w (zeroPadded w n ++ r) = some (n, r) := by
  have hlength := length_zeroPadded hw hn
  have htake : (zeroPadded w n ++ r).take w = zeroPadded w n := by
    rw [List.take_append_of_le_length (by omega), List.take_of_length_le (by omega)]
  rw [number, htake, takeWhile_zeroPadded]
  simp only [hlength, lt_self_iff_false, if_false, digitsValue_zeroPadded]
  rw [List.drop_left' hlength]

/-! ## Fractions -/

/-- A fraction of some digits is read back, with zeros for those that are not there. -/
theorem fraction_zeroPadded {w n : Nat} (hw : 0 < w) (hw9 : w ≤ 9) (hn : n < 10 ^ w) {c : Char} (hc : c.isDigit = false)
    (r : List Char) : fraction (zeroPadded w n ++ c :: r) = some (n * 10 ^ (9 - w), c :: r) := by
  have hlength := length_zeroPadded hw hn
  have hdigits : ((zeroPadded w n ++ c :: r).take 9).takeWhile Char.isDigit = zeroPadded w n := by
    rw [List.take_append, hlength, List.take_of_length_le (by omega),
      List.takeWhile_append_of_pos fun _ hd => isDigit_of_mem_zeroPadded hd]
    cases 9 - w with
    | zero => simp
    | succ k => simp [hc]
  have hnonempty : (zeroPadded w n).isEmpty = false := by
    rw [List.isEmpty_eq_false_iff, ← List.length_pos_iff]
    omega
  have hrest : (zeroPadded w n ++ c :: r).dropWhile Char.isDigit = c :: r := by
    rw [List.dropWhile_append_of_pos fun _ hd => isDigit_of_mem_zeroPadded hd]
    simp [hc]
  have hvalue : digitsValue (zeroPadded w n ++ List.replicate (9 - w) '0') = n * 10 ^ (9 - w) := by
    rw [digitsValue, List.foldl_append, ← digitsValue, digitsValue_zeroPadded, ← Nat.ofDigitChars_eq_foldl,
      Nat.ofDigitChars_replicate_zero, Nat.mul_comm]
  rw [fraction, hdigits, hnonempty, hlength, hvalue, hrest]
  rfl

/-- The fewest digits that are exact give the nanoseconds again. -/
theorem optionalFraction_fractionText {n : Nat} (hn : n < second) {c : Char} (hc : c.isDigit = false) (hpoint : c ≠ '.')
    (r : List Char) : optionalFraction (fractionText n ++ c :: r) = some (n, c :: r) := by
  rw [second] at hn
  rw [fractionText]
  split
  · next h =>
    rw [beq_iff_eq.1 h, List.nil_append, optionalFraction]
    intro _ heq
    exact hpoint (List.cons.inj heq).1
  split
  · next h =>
    rw [List.cons_append, optionalFraction, fraction_zeroPadded (by decide) (by decide) (by omega) hc]
    have := beq_iff_eq.1 h
    rw [show n / 1000000 * 10 ^ (9 - 3) = n by omega]
  split
  · next h =>
    rw [List.cons_append, optionalFraction, fraction_zeroPadded (by decide) (by decide) (by omega) hc]
    have := beq_iff_eq.1 h
    rw [show n / 1000 * 10 ^ (9 - 6) = n by omega]
  · rw [List.cons_append, optionalFraction, fraction_zeroPadded (by decide) (by decide) (by omega) hc]
    rw [show n * 10 ^ (9 - 9) = n by omega]

/-! ## Times -/

theorem daysInMonth_le (year : Int) (month : Nat) : daysInMonth year month ≤ 31 := by
  unfold daysInMonth
  split
  · split <;> decide
  · split <;> decide

theorem Instant.ofRfc3339?_textIn {t : Instant} (ht : t.IsPlain) :
    Instant.ofRfc3339? (t.textIn "+00:00".toList) = some t := by
  have hfields := Instant.ofFields?_fields ht
  have hyear := ht.year
  cases hf : t.fields with
  | mk date hour minute sec nanos =>
    obtain ⟨year, month, day⟩ := date
    rw [hf] at hfields hyear
    change 0 ≤ year ∧ year ≤ 9999 at hyear
    have hvalid : Fields.isValid ⟨⟨year, month, day⟩, hour, minute, sec, nanos⟩ = true := by
      by_contra h
      rw [Instant.ofFields?, if_neg h] at hfields
      exact absurd hfields (by simp)
    simp only [Fields.isValid, Date.isValid, Bool.and_eq_true, decide_eq_true_eq] at hvalid
    have hday := daysInMonth_le year month
    have hyearText : yearText year = zeroPadded 4 year.toNat := by
      rw [yearText, if_pos (by simp [hyear])]
    have htext : t.textIn "+00:00".toList = zeroPadded 4 year.toNat ++ ('-' :: (zeroPadded 2 month ++ ('-' ::
        (zeroPadded 2 day ++ ('T' :: (zeroPadded 2 hour ++ (':' :: (zeroPadded 2 minute ++ (':' ::
          (zeroPadded 2 sec ++ (fractionText nanos ++ '+' :: "00:00".toList))))))))))) := by
      simp [Instant.textIn, hf, Date.text, Fields.clockText, hyearText]
    have htwo (n : Nat) (hn : n ≤ 60) (r : List Char) : number 2 2 (zeroPadded 2 n ++ r) = some (n, r) :=
      number_zeroPadded (by decide) (by omega) r
    have hfour (r : List Char) : number 4 4 (zeroPadded 4 year.toNat ++ r) = some (year.toNat, r) :=
      number_zeroPadded (by decide) (by omega) r
    have hfraction : optionalFraction (fractionText nanos ++ '+' :: "00:00".toList) =
        some (nanos, '+' :: "00:00".toList) :=
      optionalFraction_fractionText hvalid.2 (by decide) (by decide) _
    have hzone : zone (expect ':') ('+' :: "00:00".toList) = some (0, []) := by decide
    have hexpect (c : Char) (r : List Char) : expect c (c :: r) = some r := by simp [expect]
    have hmark (r : List Char) : dateTimeMark ('T' :: r) = some r := by simp [dateTimeMark]
    rw [htext, Instant.ofRfc3339?]
    simp only [hfour, hexpect, htwo month (by omega), htwo day (by omega), hmark, htwo hour (by omega),
      htwo minute (by omega), htwo sec (by omega), hfraction, hzone, bind, Option.bind]
    rw [if_pos (by decide), Int.toNat_of_nonneg hyear.1]
    exact hfields

end SchemaMigration.Time
