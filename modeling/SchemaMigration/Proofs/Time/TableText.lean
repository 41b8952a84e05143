import SchemaMigration.Proofs.Time.StoredText

/-!
# Times as they stand in tables

`Instant.wholeSecond`     : an instant without its fraction of a second.
`eq_of_append_eq_append`  : a text is cut in one way where its characters change their kind.
`inTable_append_inj`      : what follows a time in a table can be told from the time, which tells its whole second.
`inTable_eq_iff`          : times look alike exactly if they have the same whole second.
-/

namespace SchemaMigration.Time

set_option autoImplicit false

/-! ## Whole seconds -/

/-- An instant without its fraction. A second's worth of nanoseconds on top is a leap second in the last second of a
minute, and the next second elsewhere. -/
def Instant.wholeSecond (t : Instant) : Instant :=
  if t.nanos < second then ⟨t.seconds, 0⟩
  else if t.seconds % 60 = 59 then ⟨t.seconds, second⟩
  else ⟨t.seconds + 1, 0⟩

/-- What of the fields of an instant is seen in tables. -/
structure Fields.SameSecond (f g : Fields) : Prop where
  date : f.date = g.date
  hour : f.hour = g.hour
  minute : f.minute = g.minute
  second : f.second = g.second

/-- The fields that tables show, from the days before the instant and the seconds of its day. -/
theorem exists_clock (t : Instant) : ∃ n leap : Nat, n < 86400 ∧ t.seconds = 86400 * (t.seconds / 86400) + n ∧
    (t.nanos < second ∧ leap = 0 ∨ ¬t.nanos < second ∧ leap = 1) ∧
    t.fields.date = Date.ofDays (t.seconds / 86400) ∧ t.fields.hour = n / 3600 ∧ t.fields.minute = n / 60 % 60 ∧
    t.fields.second = n % 60 + leap := by
  have hdays : t.seconds.fdiv 86400 = t.seconds / 86400 := Int.fdiv_eq_ediv_of_nonneg _ (by decide)
  refine ⟨(t.seconds - t.seconds / 86400 * 86400).toNat, if second ≤ t.nanos then 1 else 0, by omega, by omega, ?_, ?_⟩
  · split <;> omega
  · simp only [Instant.fields, dayLength, hdays, true_and]

/-- Instants show the same second exactly if they have the same whole second. -/
theorem sameSecond_fields_iff {t u : Instant} : t.fields.SameSecond u.fields ↔ t.wholeSecond = u.wholeSecond := by
  obtain ⟨m, leap, hm, ht, hleap, hdate, hhour, hminute, hsecond⟩ := exists_clock t
  obtain ⟨n, leap', hn, hu, hleap', hdate', hhour', hminute', hsecond'⟩ := exists_clock u
  constructor
  · intro h
    have hdays : t.seconds / 86400 = u.seconds / 86400 := by
      rw [← days_ofDays (t.seconds / 86400), ← days_ofDays (u.seconds / 86400), ← hdate, ← hdate', h.date]
    have hhours : m / 3600 = n / 3600 := by rw [← hhour, ← hhour', h.hour]
    have hminutes : m / 60 % 60 = n / 60 % 60 := by rw [← hminute, ← hminute', h.minute]
    have hseconds : m % 60 + leap = n % 60 + leap' := by rw [← hsecond, ← hsecond', h.second]
    clear hdate hhour hminute hsecond hdate' hhour' hminute' hsecond' h
    have hsame : m / 60 = n / 60 := by omega
    unfold Instant.wholeSecond
    split_ifs <;> simp only [Instant.mk.injEq, and_true] <;> omega
  · intro h
    have hclock : t.seconds + leap = u.seconds + leap' ∧ t.seconds / 60 = u.seconds / 60 := by
      clear hdate hhour hminute hsecond hdate' hhour' hminute' hsecond' ht hu
      have hlong : 0 < second := by decide
      unfold Instant.wholeSecond at h
      split_ifs at h <;> simp only [Instant.mk.injEq, and_true] at h <;> omega
    obtain ⟨hshift, hminutes⟩ := hclock
    have hday : t.seconds / 60 = 1440 * (t.seconds / 86400) + (m / 60 : Nat) := by omega
    have hday' : u.seconds / 60 = 1440 * (u.seconds / 86400) + (n / 60 : Nat) := by omega
    have hsame : t.seconds / 86400 = u.seconds / 86400 ∧ m / 60 = n / 60 := by omega
    exact ⟨by rw [hdate, hdate', hsame.1], by omega, by omega, by omega⟩

/-! ## Cutting texts -/

/-- Where a text goes on with a character of another kind than those before, it is cut in one way. -/
theorem eq_of_append_eq_append {p : Char → Bool} {a b x y : List Char} {c d : Char} (ha : ∀ k ∈ a, p k = true)
    (hb : ∀ k ∈ b, p k = true) (hc : p c = false) (hd : p d = false) (h : a ++ c :: x = b ++ d :: y) :
    a = b ∧ c :: x = d :: y := by
  have htake : (a ++ c :: x).takeWhile p = (b ++ d :: y).takeWhile p := congrArg _ h
  rw [List.takeWhile_append_of_pos ha, List.takeWhile_append_of_pos hb, List.takeWhile_cons_of_neg (by simp [hc]),
    List.takeWhile_cons_of_neg (by simp [hd]), List.append_nil, List.append_nil] at htake
  subst htake
  exact ⟨rfl, List.append_cancel_left h⟩

/-- A number ends before the first character that is no digit. -/
theorem zeroPadded_append_inj {v w m n : Nat} {x y : List Char} {c : Char} (hc : c.isDigit = false)
    (h : zeroPadded v m ++ c :: x = zeroPadded w n ++ c :: y) : m = n ∧ x = y := by
  obtain ⟨hnumber, hrest⟩ := eq_of_append_eq_append (fun _ => isDigit_of_mem_zeroPadded)
    (fun _ => isDigit_of_mem_zeroPadded) hc hc h
  have hvalue := congrArg digitsValue hnumber
  rw [digitsValue_zeroPadded, digitsValue_zeroPadded] at hvalue
  exact ⟨hvalue, (List.cons.inj hrest).2⟩

/-- A number does not begin with the sign of a year. -/
theorem zeroPadded_append_ne {w n : Nat} {c : Char} (hw : 0 < w) (hc : c.isDigit = false) (x y : List Char) :
    zeroPadded w n ++ x ≠ c :: y := by
  intro h
  cases hz : zeroPadded w n with
  | nil =>
    have hlength := congrArg List.length hz
    simp only [zeroPadded, List.length_append, List.length_replicate, List.length_nil] at hlength
    omega
  | cons d z =>
    rw [hz, List.cons_append] at h
    have hd : d.isDigit = true := isDigit_of_mem_zeroPadded (hz ▸ List.mem_cons_self)
    rw [(List.cons.inj h).1, hc] at hd
    cases hd

/-! ## Dates and times of day -/

theorem yearText_cases (y : Int) :
    (0 ≤ y ∧ yearText y = zeroPadded 4 y.toNat) ∨ (y < 0 ∧ yearText y = '-' :: zeroPadded 4 y.natAbs) ∨
      0 ≤ y ∧ yearText y = '+' :: zeroPadded 4 y.natAbs := by
  unfold yearText
  split
  · next h => exact .inl ⟨by simp at h; exact h.1, rfl⟩
  split
  · next hneg => exact .inr (.inl ⟨hneg, rfl⟩)
  · next hneg => exact .inr (.inr ⟨Int.not_lt.1 hneg, rfl⟩)

/-- A year ends before the hyphen after it, though it may begin with one. -/
theorem yearText_append_inj {a b : Int} {x y : List Char} (h : yearText a ++ '-' :: x = yearText b ++ '-' :: y) :
    a = b ∧ x = y := by
  have hhyphen : ('-' : Char).isDigit = false := rfl
  have hplus : ('+' : Char).isDigit = false := rfl
  obtain ⟨ha, hat⟩ | ⟨ha, hat⟩ | ⟨ha, hat⟩ := yearText_cases a <;>
    obtain ⟨hb, hbt⟩ | ⟨hb, hbt⟩ | ⟨hb, hbt⟩ := yearText_cases b <;>
      rw [hat, hbt] at h
  · obtain ⟨hvalue, hrest⟩ := zeroPadded_append_inj hhyphen h
    exact ⟨by omega, hrest⟩
  · exact absurd h (zeroPadded_append_ne (by decide) hhyphen _ _)
  · exact absurd h (zeroPadded_append_ne (by decide) hplus _ _)
  · exact absurd h.symm (zeroPadded_append_ne (by decide) hhyphen _ _)
  · obtain ⟨hvalue, hrest⟩ := zeroPadded_append_inj hhyphen (List.cons.inj h).2
    exact ⟨by omega, hrest⟩
  · exact absurd (List.cons.inj h).1 (by decide)
  · exact absurd h.symm (zeroPadded_append_ne (by decide) hplus _ _)
  · exact absurd (List.cons.inj h).1 (by decide)
  · obtain ⟨hvalue, hrest⟩ := zeroPadded_append_inj hhyphen (List.cons.inj h).2
    exact ⟨by omega, hrest⟩

/-- What a table shows of the fields. -/
def Fields.tableText (f : Fields) : List Char := f.date.text ++ ' ' :: f.clockText ++ " UTC".toList

/-- What follows the fields in a table can be told from them, and they show their second. -/
theorem tableText_append_inj {f g : Fields} {x y : List Char} (h : f.tableText ++ x = g.tableText ++ y) :
    f.SameSecond g ∧ x = y := by
  obtain ⟨⟨year, month, day⟩, hour, minute, sec, nanos⟩ := f
  obtain ⟨⟨year', month', day'⟩, hour', minute', sec', nanos'⟩ := g
  have hhyphen : ('-' : Char).isDigit = false := rfl
  have hspace : (' ' : Char).isDigit = false := rfl
  have hcolon : (':' : Char).isDigit = false := rfl
  simp only [Fields.tableText, Date.text, Fields.clockText, List.append_assoc, List.cons_append] at h
  obtain ⟨rfl, hmonth⟩ := yearText_append_inj h
  obtain ⟨rfl, hday⟩ := zeroPadded_append_inj hhyphen hmonth
  obtain ⟨rfl, hclock⟩ := zeroPadded_append_inj hspace hday
  obtain ⟨rfl, hminute⟩ := zeroPadded_append_inj hcolon hclock
  obtain ⟨rfl, hsecond⟩ := zeroPadded_append_inj hcolon hminute
  obtain ⟨rfl, hzone⟩ := zeroPadded_append_inj (c := ' ') (x := "UTC".toList ++ x) hspace hsecond
  exact ⟨⟨rfl, rfl, rfl, rfl⟩, List.append_cancel_left hzone⟩

/-! ## Instants -/

theorem inTable_eq (t : Instant) : t.inTable = String.ofList t.fields.tableText := rfl

theorem tableText_congr {f g : Fields} (h : f.SameSecond g) : f.tableText = g.tableText := by
  rw [Fields.tableText, Fields.tableText, Fields.clockText, Fields.clockText, h.date, h.hour, h.minute, h.second]

/-- Times look alike in tables exactly if they have the same whole second. -/
theorem inTable_eq_iff {t u : Instant} : t.inTable = u.inTable ↔ t.wholeSecond = u.wholeSecond := by
  rw [← sameSecond_fields_iff, inTable_eq, inTable_eq]
  constructor
  · intro h
    exact (tableText_append_inj (congrArg (· ++ []) (String.ofList_injective h))).1
  · intro h
    rw [tableText_congr h]

/-- What follows a time in a table can be told from the time. -/
theorem inTable_append_inj {t u : Instant} {x y : List Char} (h : t.inTable.toList ++ x = u.inTable.toList ++ y) :
    t.inTable = u.inTable ∧ x = y := by
  rw [inTable_eq, inTable_eq, String.toList_ofList, String.toList_ofList] at h
  obtain ⟨hsame, hrest⟩ := tableText_append_inj h
  exact ⟨by rw [inTable_eq, inTable_eq, tableText_congr hsame], hrest⟩

theorem wholeSecond_wholeSecond (t : Instant) : t.wholeSecond.wholeSecond = t.wholeSecond := by
  have hlong : 0 < second := by decide
  unfold Instant.wholeSecond
  split_ifs <;> simp_all

/-- A time stays in its line. -/
theorem not_mem_inTable (t : Instant) : '\n' ∉ t.inTable.toList := by
  have hnumber : ∀ w n, '\n' ∉ zeroPadded w n := by
    intro w n h
    exact absurd (isDigit_of_mem_zeroPadded h) (by decide)
  have hyear : '\n' ∉ yearText t.fields.date.year := by
    obtain ⟨-, hy⟩ | ⟨-, hy⟩ | ⟨-, hy⟩ := yearText_cases t.fields.date.year <;> simp [hy, hnumber]
  simp [inTable_eq, Fields.tableText, Date.text, Fields.clockText, hnumber, hyear]

end SchemaMigration.Time
