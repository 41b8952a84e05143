import SchemaMigration.Proofs.Clickhouse.Inquiries

/-!
# Templates with doubled marks

`Renders`       : a template in which two marks stand for one, and a single mark for the next value.
`ReadsDoubled`  : a reader of templates that does as `Renders` says; `fillSingle` is one.
`renders_doubleMarks`   : such a reader takes a text with its marks doubled for the text itself.
`HasNames.renders_addRecord` : and it fills the query for a record as the client does.
`fill_doubleMarks`      : the client, to which every mark is a place, takes no text with marks.
-/

namespace SchemaMigration.Clickhouse

set_option autoImplicit false

/-! ## Reading templates -/

/-- How a query is made of a template and its values, if it can be. -/
abbrev TemplateReader := String → List String → Option String

/-- From left to right two marks stand for one, a single mark is the place of the next value, and any other character
stands for itself. What a mark before the word `fields` stands for is left open. -/
inductive Renders : List Char → List (List Char) → List Char → Prop
  | nil : Renders [] [] []
  | plain {d : Char} {t x : List Char} {vs : List (List Char)} (hd : d ≠ placeMark) (h : Renders t vs x) :
      Renders (d :: t) vs (d :: x)
  | mark {t x : List Char} {vs : List (List Char)} (h : Renders t vs x) :
      Renders (placeMark :: placeMark :: t) vs (placeMark :: x)
  | place {t v x : List Char} {vs : List (List Char)} (hmark : t.head? ≠ some placeMark)
      (hfields : ¬"fields".toList <+: t) (h : Renders t vs x) : Renders (placeMark :: t) (v :: vs) (v ++ x)

/-- A reader to which two marks are one, and a single mark is a place. -/
def ReadsDoubled (read : TemplateReader) : Prop :=
  ∀ template values x, Renders template.toList (values.map (·.toList)) x → read template values = some (String.ofList x)

/-- A text with its marks doubled stands for the text itself. -/
theorem renders_doubleMarks (s : String) : Renders (doubleMarks s).toList [] s.toList := by
  rw [doubleMarks, String.toList_ofList]
  induction s.toList with
  | nil => exact .nil
  | cons d t ih =>
    rw [List.flatMap_cons]
    by_cases hd : d = placeMark
    · rw [hd]
      exact .mark ih
    · rw [if_neg (by simpa using hd)]
      exact .plain hd ih

theorem ReadsDoubled.doubleMarks {read : TemplateReader} (h : ReadsDoubled read) (s : String) :
    read (Clickhouse.doubleMarks s) [] = some s := by
  have hread := h (Clickhouse.doubleMarks s) [] s.toList (renders_doubleMarks s)
  rwa [String.ofList_toList] at hread

/-- A template with one mark for two, and its single marks filled in order. -/
def fillSingleChars : List Char → List (List Char) → Option (List Char)
  | [], _ => some []
  | '?' :: '?' :: r, values => (fillSingleChars r values).map ('?' :: ·)
  | '?' :: _, [] => none
  | '?' :: r, v :: vs => (fillSingleChars r vs).map (v ++ ·)
  | c :: r, values => (fillSingleChars r values).map (c :: ·)

def fillSingle : TemplateReader := fun template values =>
  (fillSingleChars template.toList (values.map (·.toList))).map String.ofList

theorem Renders.fillSingleChars_eq {t x : List Char} {vs : List (List Char)} (h : Renders t vs x) :
    fillSingleChars t vs = some x := by
  induction h with
  | nil => rw [fillSingleChars]
  | plain hd h ih =>
    rw [fillSingleChars.eq_5 _ _ _ (fun _ h _ => hd h) (fun _ h => hd h) fun _ _ _ h => hd h, ih, Option.map_some]
  | mark h ih => rw [placeMark, fillSingleChars, ih, Option.map_some]
  | place hmark hfields h ih =>
    rw [placeMark, fillSingleChars.eq_4 _ _ _ fun r hr => hmark (congrArg List.head? hr), ih, Option.map_some]

/-- There is a reader to which two marks are one. -/
theorem readsDoubled_fillSingle : ReadsDoubled fillSingle := by
  intro template values x h
  rw [fillSingle, h.fillSingleChars_eq, Option.map_some]

/-! ## Single marks -/

/-- Whether every mark is single, and none stands before the word `fields`. -/
def singles : List Char → Bool
  | [] => true
  | d :: t => (d != placeMark || t.head? != some placeMark && !"fields".toList.isPrefixOf t) && singles t

theorem singles_append {p t : List Char} (hp : placeMark ∉ p) : singles (p ++ t) = singles t := by
  induction p with
  | nil => rfl
  | cons d p ih =>
    rw [List.mem_cons, not_or] at hp
    have hne : (d != placeMark) = true := by simpa using Ne.symm hp.1
    rw [List.cons_append, singles, ih hp.2, hne, Bool.true_or, Bool.true_and]

/-- Where every mark is single, the places are filled as by the client. -/
theorem renders_of_fillChars {t : List Char} {vs : List (List Char)} {x : List Char} (hsingles : singles t = true)
    (hcount : t.count placeMark = vs.length) (h : fillChars t vs = some x) : Renders t vs x := by
  induction t generalizing vs x with
  | nil =>
    obtain rfl := List.length_eq_zero_iff.1 hcount.symm
    rw [fillChars.eq_def] at h
    obtain rfl := Option.some.inj h
    exact .nil
  | cons d t ih =>
    rw [singles, Bool.and_eq_true] at hsingles
    by_cases hd : d = placeMark
    · subst hd
      rw [List.count_cons_self] at hcount
      cases vs with
      | nil => cases hcount
      | cons v vs =>
        rw [fillChars_cons_placeMark, Option.map_eq_some_iff] at h
        obtain ⟨y, hy, rfl⟩ := h
        have hsingle : t.head? ≠ some placeMark ∧ "fields".toList.isPrefixOf t = false := by simpa using hsingles.1
        have hfields : ¬"fields".toList <+: t := by
          rw [← List.isPrefixOf_iff_prefix, hsingle.2]
          exact Bool.false_ne_true
        exact .place hsingle.1 hfields (ih hsingles.2 (Nat.succ.inj hcount) hy)
    · rw [fillChars_cons_of_ne hd, Option.map_eq_some_iff] at h
      obtain ⟨y, hy, rfl⟩ := h
      rw [List.count_cons_of_ne hd] at hcount
      exact .plain hd (ih hsingles.2 hcount hy)

/-! ## The query for a record -/

/-- The end of the query for a record, which has its places. -/
def recordPlaces : String := "SELECT ?, ?, ?, ?, fromUnixTimestamp64Milli(toInt64(?), 'UTC')"

/-- Before the places of the query for a record come names, and no marks. -/
theorem HasNames.addRecord_eq {c : Connection} (h : HasNames c) :
    ∃ p : List Char, placeMark ∉ p ∧ (Query.addRecord c).toList = p ++ recordPlaces.toList := by
  let head := "INSERT INTO " ++ tableName c.database recordTable ++ " (version, name, checksum, applied_by, applied_at)"
  have hhead : places head = 0 := by
    rw [places_append, places_append, h.places_tableName rfl]
    rfl
  refine ⟨head.toList ++ '\n' :: List.replicate 25 ' ', ?_, ?_⟩
  · rw [places, List.count_eq_zero] at hhead
    rw [List.mem_append, not_or]
    exact ⟨hhead, by decide⟩
  · simp [Query.addRecord, layOut, head, recordPlaces]

/-- The query for a record is the same to both kinds of readers. -/
theorem HasNames.renders_addRecord {c : Connection} (h : HasNames c) {read : TemplateReader} (hread : ReadsDoubled read)
    (r : Record) {insert : String} (hfill : fill (Query.addRecord c) (recordValues r) = some insert) :
    read (Query.addRecord c) (recordValues r) = some insert := by
  obtain ⟨p, hp, heq⟩ := h.addRecord_eq
  have hsingles : singles (Query.addRecord c).toList = true := by
    rw [heq, singles_append hp]
    decide
  have hplaces : places (Query.addRecord c) = 5 := h.places_extended (.addRecord r)
  rw [fill, Option.map_eq_some_iff] at hfill
  obtain ⟨x, hx, rfl⟩ := hfill
  exact hread _ _ _ (renders_of_fillChars hsingles hplaces hx)

/-! ## The client -/

theorem fillChars_eq_none {t : List Char} (h : placeMark ∈ t) : fillChars t [] = none := by
  induction t with
  | nil => cases h
  | cons d t ih =>
    by_cases hd : d = placeMark
    · rw [fillChars.eq_def, hd]
      rfl
    · rw [fillChars_cons_of_ne hd, ih (List.mem_of_ne_of_mem (Ne.symm hd) h)]
      rfl

/-- To the client every mark is a place, also one of two: it takes a text without marks for the text itself, and no
other. -/
theorem fill_doubleMarks (s : String) :
    fill (doubleMarks s) [] = if placeMark ∈ s.toList then none else some s := by
  split
  · next hmark =>
    have hdoubled : placeMark ∈ (doubleMarks s).toList := by
      rw [doubleMarks, String.toList_ofList, List.mem_flatMap]
      exact ⟨placeMark, hmark, by decide⟩
    rw [fill, List.map_nil, fillChars_eq_none hdoubled]
    rfl
  · next hmark =>
    have hfill {t : List Char} (ht : placeMark ∉ t) : fillChars t [] = some t := by
      induction t with
      | nil => rw [fillChars.eq_def]
      | cons d t ih =>
        rw [List.mem_cons, not_or] at ht
        rw [fillChars_cons_of_ne (Ne.symm ht.1), ih ht.2]
        rfl
    rw [doubleMarks_of_places (List.count_eq_zero.2 hmark), fill, List.map_nil, hfill hmark, Option.map_some,
      String.ofList_toList]

end SchemaMigration.Clickhouse
