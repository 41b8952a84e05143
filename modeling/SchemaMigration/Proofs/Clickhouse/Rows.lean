import Mathlib.Algebra.Group.Nat.Defs
import SchemaMigration.Clickhouse.RowBinary

/-!
# Texts written as rows

`text_textBytes` : a written text is read as it was, unless it is too long to be read at all.
`rows_texts`     : so are rows of written texts.
-/

namespace SchemaMigration.Clickhouse

set_option autoImplicit false

/-! ## Bytes of texts -/

theorem toList_loop (bytes : ByteArray) (i : Nat) (r : List UInt8) :
    ByteArray.toList.loop bytes i r = r.reverse ++ bytes.data.toList.drop i := by
  induction i, r using ByteArray.toList.loop.induct bytes with
  | case1 i r hi ih =>
    have hlen : i < bytes.data.toList.length := hi
    have hget : bytes.get! i = bytes.data.toList[i] := getElem!_pos bytes.data i hi
    rw [ByteArray.toList.loop, if_pos hi, ih, List.drop_eq_getElem_cons hlen, hget, List.reverse_cons,
      List.append_assoc]
    rfl
  | case2 i r hi =>
    have hlen : bytes.data.toList.length ≤ i := Nat.not_lt.1 hi
    rw [ByteArray.toList.loop, if_neg hi, List.drop_eq_nil_of_le hlen, List.append_nil]

theorem toList_eq (bytes : ByteArray) : bytes.toList = bytes.data.toList :=
  toList_loop bytes 0 []

theorem length_utf8 (s : String) : s.toUTF8.toList.length = s.utf8ByteSize := by
  rw [toList_eq]
  rfl

/-- The bytes of a text spell it. -/
theorem fromUTF8?_utf8 (s : String) : String.fromUTF8? ⟨s.toUTF8.toList.toArray⟩ = some s := by
  have hbytes : (⟨s.toUTF8.toList.toArray⟩ : ByteArray) = s.toUTF8 := by
    rw [toList_eq]
  rw [hbytes, String.toUTF8_eq_toByteArray, String.fromUTF8?, dif_pos s.isValidUTF8]
  rfl

/-! ## Lengths -/

/-- A written length is read as it was, unless it has too many bytes. -/
theorem lengthWithin_lengthBytes (k n : Nat) (rest : List UInt8) :
    lengthWithin k (lengthBytes n ++ rest) = .ok (n, rest) ∨
      (0 < k → 128 ^ k ≤ n) ∧ ∃ e, lengthWithin k (lengthBytes n ++ rest) = .error e := by
  induction k generalizing n with
  | zero => exact .inr ⟨fun h => absurd h (Nat.lt_irrefl 0), _, rfl⟩
  | succ k ih =>
    rw [lengthBytes]
    split
    · next hn =>
      have hb : (UInt8.ofNat n).toNat = n := by
        rw [UInt8.toNat_ofNat']
        omega
      left
      simp only [List.cons_append, List.nil_append, lengthWithin, hb, if_pos hn]
    · next hn =>
      have hb : (UInt8.ofNat (n % 128 + 128)).toNat = n % 128 + 128 := by
        rw [UInt8.toNat_ofNat']
        omega
      have hlarge : ¬n % 128 + 128 < 128 := by omega
      simp only [List.cons_append, lengthWithin, hb, if_neg hlarge]
      obtain h | ⟨hlong, e, h⟩ := ih (n / 128)
      · left
        rw [h]
        have hdiv : (n % 128 + 128) % 128 + 128 * (n / 128) = n := by omega
        simp only [Except.map, hdiv]
      · right
        rw [h]
        refine ⟨fun _ => ?_, e, rfl⟩
        cases k with
        | zero => omega
        | succ k =>
          have hle := hlong (Nat.succ_pos k)
          rw [Nat.pow_succ]
          omega

theorem lengthBytes_ne_nil (n : Nat) : lengthBytes n ≠ [] := by
  rw [lengthBytes]
  split <;> simp

theorem textBytes_ne_nil (s : String) : textBytes s ≠ [] :=
  List.append_ne_nil_of_left_ne_nil (lengthBytes_ne_nil _) _

/-! ## Rows -/

/-- A written text is read as it was, unless it is too long to be read at all. -/
theorem text_textBytes (s : String) (rest : List UInt8) :
    text (textBytes s ++ rest) = .ok (s, rest) ∨
      2 ^ 63 ≤ s.utf8ByteSize ∧ ∃ e, text (textBytes s ++ rest) = .error e := by
  unfold text length textBytes
  rw [List.append_assoc]
  obtain h | ⟨hlong, e, h⟩ := lengthWithin_lengthBytes 9 s.utf8ByteSize (s.toUTF8.toList ++ rest)
  · left
    have hlen : ¬(s.toUTF8.toList ++ rest).length < s.utf8ByteSize := by
      rw [List.length_append, length_utf8]
      omega
    have htake : (s.toUTF8.toList ++ rest).take s.utf8ByteSize = s.toUTF8.toList := List.take_left' (length_utf8 s)
    have hdrop : (s.toUTF8.toList ++ rest).drop s.utf8ByteSize = rest := List.drop_left' (length_utf8 s)
    simp only [h, bind, Except.bind, if_neg hlen, htake, hdrop, fromUTF8?_utf8]
    rfl
  · right
    rw [h]
    exact ⟨hlong (by decide), e, rfl⟩

/-- Rows of written texts are read as they were, unless one of them cannot be read. -/
theorem readRows_texts {fuel : Nat} {names : List String} (h : (names.flatMap textBytes).length ≤ fuel) :
    readRows text fuel (names.flatMap textBytes) = (names, none) ∨
      (∃ s ∈ names, 2 ^ 63 ≤ s.utf8ByteSize) ∧ ∃ e, (readRows text fuel (names.flatMap textBytes)).2 = some e := by
  induction names generalizing fuel with
  | nil => cases fuel <;> exact .inl rfl
  | cons s names ih =>
    rw [List.flatMap_cons] at h ⊢
    obtain ⟨b, bytes, hb⟩ := List.exists_cons_of_ne_nil (textBytes_ne_nil s)
    obtain ⟨fuel, rfl⟩ : ∃ n, fuel = n + 1 := by
      refine ⟨fuel - 1, ?_⟩
      rw [hb, List.cons_append, List.length_cons] at h
      omega
    have hrows : readRows text (fuel + 1) (textBytes s ++ names.flatMap textBytes) =
        match text (textBytes s ++ names.flatMap textBytes) with
        | .error e => ([], some e)
        | .ok (a, r) => (a :: (readRows text fuel r).1, (readRows text fuel r).2) := by
      rw [hb, List.cons_append, readRows]
      · cases text (b :: (bytes ++ names.flatMap textBytes)) <;> rfl
      · simp
    have hfuel : (names.flatMap textBytes).length ≤ fuel := by
      rw [hb, List.cons_append, List.length_cons, List.length_append] at h
      omega
    rw [hrows]
    obtain ht | ⟨hlong, e, ht⟩ := text_textBytes s (names.flatMap textBytes)
    · obtain hr | ⟨⟨long, hmem, hlong⟩, e, hr⟩ := ih hfuel
      · left
        simp only [ht, hr]
      · right
        simp only [ht]
        exact ⟨⟨long, List.mem_cons_of_mem _ hmem, hlong⟩, e, hr⟩
    · right
      simp only [ht]
      exact ⟨⟨s, List.mem_cons_self, hlong⟩, e, rfl⟩

/-- Rows of written texts are read as they were, unless one of them is too long. -/
theorem rows_texts (names : List String) :
    rows text (names.flatMap textBytes) = (names, none) ∨
      (∃ s ∈ names, 2 ^ 63 ≤ s.utf8ByteSize) ∧ ∃ e, (rows text (names.flatMap textBytes)).2 = some e :=
  readRows_texts (Nat.le_refl _)

end SchemaMigration.Clickhouse
