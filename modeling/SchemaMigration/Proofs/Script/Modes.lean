import SchemaMigration.Proofs.Script.Gaps
import SchemaMigration.Script.Prepare

/-!
# The two ways to run a migration

* `split_trimString` : a trimmed script has the statements of the script;
* `prepare_of_ok` : what is run of a migration in either mode, by its statements;
* `prepare_modes` : what the two modes have to do with each other.

Where a file may hold one statement only, the trimmed file is run and not the statement that was found in it. The two are
the same up to a gap on each side, since the file splits into that statement again.
-/

namespace SchemaMigration

set_option autoImplicit false

namespace Script

/-- Blanks at the two ends of a script make no difference, not even to the reason that it has no statements. -/
theorem split_trimString (s : String) : split (Text.trimString s) = split s := by
  have hchars : splitChars (Text.trim s.toList) = splitChars s.toList := by
    apply mapError_message_inj
    rw [mapError_splitChars, mapError_splitChars, readStatements_trim]
  unfold split Text.trimString
  rw [String.toList_ofList, hchars]

/-- A script of one statement is the statement with a gap on each side. -/
theorem laid_of_split_one {s x : String} (h : split s = .ok [x]) : Laid 0 [x.toList] s.toList := by
  obtain ⟨ps, hs, hreads, hmakes⟩ := readStatements_eq_ok_iff.1 (split_eq_ok_iff.1 h)
  rw [hs]
  exact hmakes.laid hreads

end Script

namespace Migration

variable {m : Migration}

/-! ## What is run -/

theorem prepare_of_error {u : Script.Unclosed} (h : Script.split m.sql = .error u) (several : Bool) :
    m.prepare several = .error (.malformedStatement m.fileName u.message) := by
  unfold prepare statements
  rw [h]
  rfl

theorem prepare_of_ok {xs : List String} (h : Script.split m.sql = .ok xs) (several : Bool) :
    m.prepare several =
      if several = true ∨ xs = [] then .ok xs
      else if 1 < xs.length then .error (.multipleStatements m.fileName xs.length)
      else .ok [Text.trimString m.sql] := by
  unfold prepare statements
  rw [h]
  show (if (several || xs.isEmpty) = true then Except.ok xs
    else if xs.length > 1 then Except.error (Fault.multipleStatements m.fileName xs.length)
    else Except.ok [Text.trimString m.sql]) = _
  simp only [Bool.or_eq_true, List.isEmpty_iff, gt_iff_lt]

theorem prepare_true {xs : List String} (h : Script.split m.sql = .ok xs) : m.prepare true = .ok xs := by
  rw [prepare_of_ok h, if_pos (.inl rfl)]

/-! ## One statement at most -/

/-- A file that may hold one statement runs nothing if it has none, and as it stands if it has one. -/
theorem prepare_false_cases {ys : List String} (h : m.prepare false = .ok ys) :
    (Script.split m.sql = .ok [] ∧ ys = []) ∨ ∃ x, Script.split m.sql = .ok [x] ∧ ys = [Text.trimString m.sql] := by
  cases hsplit : Script.split m.sql with
  | error u => cases (prepare_of_error hsplit false).symm.trans h
  | ok xs =>
    rw [prepare_of_ok hsplit] at h
    match xs, hsplit with
    | [], _ => exact .inl ⟨rfl, (Except.ok.inj h).symm⟩
    | [x], _ => exact .inr ⟨x, rfl, (Except.ok.inj h).symm⟩
    | _ :: _ :: _, _ =>
      rw [if_neg (by simp), if_pos (by simp)] at h
      cases h

theorem prepare_false_eq_error {xs : List String} (h : Script.split m.sql = .ok xs) {fault : Fault} :
    m.prepare false = .error fault ↔ 2 ≤ xs.length ∧ fault = .multipleStatements m.fileName xs.length := by
  rw [prepare_of_ok h]
  by_cases hempty : xs = []
  · subst hempty
    simp
  · rw [if_neg (by simp [hempty])]
    by_cases hseveral : 1 < xs.length
    · rw [if_pos hseveral, Except.error.injEq]
      constructor
      · intro hfault
        exact ⟨hseveral, hfault.symm⟩
      · intro hfault
        exact hfault.2.symm
    · rw [if_neg hseveral]
      constructor
      · intro hfault
        cases hfault
      · intro hfault
        exact absurd hfault.1 hseveral

/-- A script that is refused is refused in both modes for the same reason. Of other scripts those of several statements
are refused if one is allowed, with their number, and nothing else is. What is run if one is allowed splits into what is
run otherwise, text by text, and has no more than gaps around it. -/
theorem prepare_modes (m : Migration) :
    (∀ u, Script.split m.sql = .error u →
      ∀ several, m.prepare several = .error (.malformedStatement m.fileName u.message)) ∧
    (∀ xs, Script.split m.sql = .ok xs → m.prepare true = .ok xs ∧
      ∀ fault, m.prepare false = .error fault ↔
        2 ≤ xs.length ∧ fault = .multipleStatements m.fileName xs.length) ∧
    (∀ ys, m.prepare false = .ok ys → ∃ xss, ys.mapM Script.split = .ok xss ∧ m.prepare true = .ok xss.flatten ∧
      List.Forall₂ (fun x y => Script.Laid 0 [x.toList] y.toList) xss.flatten ys) ∧
    ∀ s, Script.split (Text.trimString s) = Script.split s := by
  refine ⟨fun u h => prepare_of_error h, fun xs h => ⟨prepare_true h, fun fault => prepare_false_eq_error h⟩, ?_,
    Script.split_trimString⟩
  intro ys hys
  rcases prepare_false_cases hys with ⟨hsplit, rfl⟩ | ⟨x, hsplit, rfl⟩
  · exact ⟨[], rfl, prepare_true hsplit, .nil⟩
  · have hagain : Script.split (Text.trimString m.sql) = .ok [x] := (Script.split_trimString m.sql).trans hsplit
    refine ⟨[[x]], ?_, prepare_true hsplit, .cons (Script.laid_of_split_one hagain) .nil⟩
    rw [List.mapM_cons, hagain]
    rfl

end Migration

end SchemaMigration
