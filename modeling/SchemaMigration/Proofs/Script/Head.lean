import SchemaMigration.Proofs.Text.Trim
import SchemaMigration.Script.Splitter

/-!
# How far the head of a trigger is looked at

`isTriggerHead_append_delimiter` : code decides up to its first quote whether it begins the definition of a trigger.
-/

namespace SchemaMigration.Script

set_option autoImplicit false

open Text (trimStart isBlank isWordChar sameIgnoringCase lowerAscii)

/-! ## Delimiters -/

theorem delimiter_cases {d : Char} (h : isDelimiter d = true) : d = '\'' ∨ d = '"' ∨ d = '`' ∨ d = '[' ∨ d = ']' := by
  simpa [isDelimiter, or_assoc] using h

theorem isBlank_delimiter {d : Char} (h : isDelimiter d = true) : isBlank d = false := by
  rcases delimiter_cases h with rfl | rfl | rfl | rfl | rfl <;> decide

theorem isWordChar_delimiter {d : Char} (h : isDelimiter d = true) : isWordChar d = false := by
  rcases delimiter_cases h with rfl | rfl | rfl | rfl | rfl <;> decide

/-- The characters that are no delimiters in any case. -/
def isPlain (c : Char) : Bool := !isDelimiter c.toLower

theorem toLower_delimiter {d : Char} (h : isDelimiter d = true) : d.toLower = d := by
  rcases delimiter_cases h with rfl | rfl | rfl | rfl | rfl <;> decide

/-! ## Keywords -/

/-- A keyword is not found across a delimiter. -/
theorem afterKeyword?_append_delimiter {keyword : List Char} (hk : keyword.all isPlain = true) {d : Char}
    (hd : isDelimiter d = true) (u v : List Char) :
    afterKeyword? keyword (u ++ d :: v) = (afterKeyword? keyword u).map (· ++ d :: v) := by
  unfold afterKeyword?
  by_cases hlen : keyword.length ≤ u.length
  · rw [List.take_append_of_le_length hlen, List.drop_append_of_le_length hlen]
    split <;> rfl
  · have hshort : sameIgnoringCase (u.take keyword.length) keyword = false := by
      rw [sameIgnoringCase, beq_eq_false_iff_ne]
      intro h
      have := congrArg List.length h
      simp only [lowerAscii, List.length_map, List.length_take] at this
      omega
    have hcross : sameIgnoringCase ((u ++ d :: v).take keyword.length) keyword = false := by
      rw [sameIgnoringCase, beq_eq_false_iff_ne]
      intro h
      have hmem : d.toLower ∈ lowerAscii keyword := by
        have hroom : keyword.length - u.length = keyword.length - u.length - 1 + 1 := by omega
        rw [← h, lowerAscii, List.take_append, hroom]
        simp
      obtain ⟨k, hmk, hke⟩ := List.mem_map.1 hmem
      have := List.all_eq_true.1 hk k hmk
      rw [isPlain, hke, toLower_delimiter hd, hd] at this
      simp at this
    rw [hcross, hshort]
    rfl

theorem afterBlanks?_append_delimiter {d : Char} (hd : isDelimiter d = true) (u v : List Char) :
    afterBlanks? (u ++ d :: v) = (afterBlanks? u).map (· ++ d :: v) := by
  cases u with
  | nil => simp [afterBlanks?, isBlank_delimiter hd]
  | cons c u =>
    have h := Text.trimStart_append_of_not_blank (isBlank_delimiter hd) (c :: u) v
    rw [List.cons_append] at h
    rw [List.cons_append, afterBlanks?, afterBlanks?, h]
    split <;> rfl

theorem isTriggerWord_append_delimiter {d : Char} (hd : isDelimiter d = true) (u v : List Char) :
    isTriggerWord (u ++ d :: v) = isTriggerWord u := by
  unfold isTriggerWord
  rw [afterKeyword?_append_delimiter (by decide) hd]
  cases afterKeyword? "TRIGGER".toList u with
  | none => rfl
  | some rest =>
    cases rest with
    | nil => simp [isWordChar_delimiter hd]
    | cons c rest => rfl

/-- Blanks after a keyword are looked for up to the first delimiter. -/
theorem afterWord?_append_delimiter {keyword : List Char} (hk : keyword.all isPlain = true) {d : Char}
    (hd : isDelimiter d = true) (u v : List Char) :
    (afterKeyword? keyword (u ++ d :: v) >>= afterBlanks?) =
      (afterKeyword? keyword u >>= afterBlanks?).map (· ++ d :: v) := by
  rw [afterKeyword?_append_delimiter hk hd]
  cases afterKeyword? keyword u with
  | none => rfl
  | some rest => exact afterBlanks?_append_delimiter hd rest v

theorem isQualifiedTrigger_append_delimiter {keyword : List Char} (hk : keyword.all isPlain = true) {d : Char}
    (hd : isDelimiter d = true) (u v : List Char) :
    isQualifiedTrigger keyword (u ++ d :: v) = isQualifiedTrigger keyword u := by
  unfold isQualifiedTrigger
  rw [afterWord?_append_delimiter hk hd]
  cases afterKeyword? keyword u >>= afterBlanks? with
  | none => rfl
  | some rest => exact isTriggerWord_append_delimiter hd rest v

/-- What stands at a quote and after it does not decide whether code begins the definition of a trigger. -/
theorem isTriggerHead_append_delimiter {d : Char} (hd : isDelimiter d = true) (u v : List Char) :
    isTriggerHead (u ++ d :: v) = isTriggerHead u := by
  unfold isTriggerHead
  rw [Text.trimStart_append_of_not_blank (isBlank_delimiter hd), afterWord?_append_delimiter (by decide) hd]
  cases afterKeyword? "CREATE".toList (trimStart u) >>= afterBlanks? with
  | none => rfl
  | some rest =>
    simp only [Option.map_some, isTriggerWord_append_delimiter hd]
    rw [isQualifiedTrigger_append_delimiter (by decide) hd, isQualifiedTrigger_append_delimiter (by decide) hd]

end SchemaMigration.Script
