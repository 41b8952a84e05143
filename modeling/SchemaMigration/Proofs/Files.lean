import SchemaMigration.Files

/-!
# Files by their paths

`node?_put`       : a tree with another node in the place of one.
`Alike`           : nodes that are the same, or both files.
`walk_congr`, `resolve_congr`, `isFolder_congr` : paths lead to the same places as long as files stay files.
-/

namespace SchemaMigration

set_option autoImplicit false

namespace Files

theorem components_slash : components "/" = [] := by
  rw [components, String.splitOn, if_neg (by decide), String.splitOnAux, if_neg (by decide), if_pos (by decide),
    if_pos (by decide), String.splitOnAux, if_pos (by decide)]
  decide

variable {β : Type} {fs fs' : Files β}

/-! ## Nodes -/

theorem node?_of_ne_nil {p : FilePath} (hp : p ≠ []) : fs.node? p = (fs.nodes.find? (·.1 == p)).map (·.2) := by
  have hnonempty : p.isEmpty = false := by simpa using hp
  rw [node?, hnonempty, if_neg Bool.false_ne_true]

/-- A node that is put in the place of another is found there, and the others where they were. -/
theorem node?_put {p : FilePath} {n : Node β} (hp : (fs.node? p).isSome) (hroot : p ≠ []) (q : FilePath) :
    (fs.put p n).node? q = if q = p then some n else fs.node? q := by
  have hput : (fs.put p n).nodes = fs.nodes.map fun x => if x.1 == p then (p, n) else x := by rw [put, if_pos hp]
  have hpath : ∀ x : FilePath × Node β, (if x.1 == p then (p, n) else x).1 = x.1 := by
    intro x
    split
    · next h => exact (beq_iff_eq.1 h).symm
    · rfl
  by_cases hq : q = []
  · rw [hq, if_neg fun h => hroot h.symm]
    rfl
  have hfound : (fs.nodes.map fun x => if x.1 == p then (p, n) else x).find? (·.1 == q) =
      (fs.nodes.find? (·.1 == q)).map fun x => if x.1 == p then (p, n) else x := by
    have hsame : ((fun x : FilePath × Node β => x.1 == q) ∘ fun x => if x.1 == p then (p, n) else x) =
        fun x => x.1 == q := by
      funext x
      rw [Function.comp_apply, hpath]
    rw [List.find?_map, hsame]
  rw [node?_of_ne_nil hq, node?_of_ne_nil hq, hput, hfound]
  cases hx : fs.nodes.find? (·.1 == q) with
  | none =>
    have hne : q ≠ p := by
      rintro rfl
      rw [node?_of_ne_nil hq, hx] at hp
      cases hp
    rw [if_neg hne]
    rfl
  | some x =>
    have hxq : x.1 = q := by simpa using List.find?_some hx
    by_cases hqp : q = p
    · rw [Option.map_some, Option.map_some, hxq, hqp, beq_self_eq_true, if_pos rfl, if_pos rfl]
    · rw [Option.map_some, Option.map_some, hxq, if_neg hqp, if_neg fun h => hqp (beq_iff_eq.1 h)]
      rfl

/-! ## Paths -/

/-- Nodes that are the same, or both files. -/
inductive Alike : Option (Node β) → Option (Node β) → Prop
  | same (n : Option (Node β)) : Alike n n
  | files (x y : β) : Alike (some (.file x)) (some (.file y))

theorem alike_put {p : FilePath} {x : β} (hp : fs.node? p = some (.file x)) (y : β) (q : FilePath) :
    Alike (fs.node? q) ((fs.put p (.file y)).node? q) := by
  have hroot : p ≠ [] := by
    rintro rfl
    cases hp
  rw [node?_put (Option.isSome_iff_exists.2 ⟨_, hp⟩) hroot]
  split
  · next hq =>
    rw [hq, hp]
    exact .files x y
  · exact .same _

variable (h : ∀ q, Alike (fs.node? q) (fs'.node? q))

include h

/-- Names lead to the same path, whatever files hold. -/
theorem walk_congr (links : Nat) (here : FilePath) (names : List String) :
    fs.walk links here names = fs'.walk links here names := by
  cases names with
  | nil => rw [walk, walk]
  | cons name rest =>
    by_cases hname : name = ".."
    · rw [hname, walk, walk]
      exact walk_congr links here.dropLast rest
    rw [walk.eq_3 _ _ _ _ _ hname, walk.eq_3 _ _ _ _ _ hname]
    have hnode := h (here ++ [name])
    generalize fs.node? (here ++ [name]) = n, fs'.node? (here ++ [name]) = n' at hnode
    cases hnode with
    | files x y => rfl
    | same n =>
      rcases n with _ | _ | _ | target
      · rfl
      · rfl
      · exact walk_congr links (here ++ [name]) rest
      · cases links with
        | zero => rfl
        | succ links => exact walk_congr links _ (components target ++ rest)
  termination_by (links, names.length)

theorem resolve_congr (here : FilePath) (text : String) : fs.resolve here text = fs'.resolve here text := by
  rw [resolve, resolve, walk_congr h]

theorem isFolder_congr (here : FilePath) (text : String) : fs.isFolder here text = fs'.isFolder here text := by
  rw [isFolder, isFolder, find, find, resolve_congr h]
  cases fs'.resolve here text with
  | error e => rfl
  | ok p =>
    have hnode := h p
    simp only [bind, Except.bind]
    generalize fs.node? p = n, fs'.node? p = n' at hnode
    cases hnode <;> rfl

end Files

end SchemaMigration
