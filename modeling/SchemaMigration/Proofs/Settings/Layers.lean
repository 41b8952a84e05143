import SchemaMigration.Program

/-!
# The layers of settings

`Prevails`    : which of three values counts: that of an option, of a variable, or the one below.
`Layered`     : each setting has the value that counts for it, whatever the others are.
`NamesNoEngine` : the environment asks for an engine that there is none of.
`overlayEnvironment_cases` : what an environment makes of settings.
`settings_layered` : options stand over variables, and these over files; a variable that cannot be read changes nothing.
`Launch.settings_eq_ok` : the program runs with the settings of its files under these two layers.
-/

namespace SchemaMigration

set_option autoImplicit false

open Text (lowerAscii lowerAsciiString sameIgnoringCase)

/-! ## Vocabulary -/

/-- The value that counts: that of an option if it is given, also if it is empty; else what a variable says if it is set
and not empty; else the one below. -/
inductive Prevails {α : Type} (reads : String → α → Prop) : Option α → Option String → α → α → Prop
  | option (given : α) (text? : Option String) (below : α) : Prevails reads (some given) text? below given
  | text {text : String} {a : α} (hset : text ≠ "") (hreads : reads text a) (below : α) :
      Prevails reads none (some text) below a
  | below {text? : Option String} (hunset : text? = none ∨ text? = some "") (below : α) :
      Prevails reads none text? below below

/-- The text is the name of the engine, in any case. -/
def NamesEngine (text : String) (k : EngineKind) : Prop := sameIgnoringCase text.toList k.name.toList = true

/-- Each of seven settings has the value that counts for it, and the three others are those below. -/
structure Layered (base : Settings) (env : Environment) (options : Layer) (s : Settings) : Prop where
  engine : Prevails NamesEngine options.engine (env "MIGRUN_DB_ENGINE") base.database.engine s.database.engine
  host : Prevails Eq options.host (env "MIGRUN_DB_HOST") base.database.host s.database.host
  user : Prevails Eq options.user (env "MIGRUN_DB_USER") base.database.user s.database.user
  password : Prevails Eq options.password (env "MIGRUN_DB_PASSWORD") base.database.password s.database.password
  name : Prevails Eq options.name (env "MIGRUN_DB_NAME") base.database.name s.database.name
  cluster : Prevails (fun text cluster => cluster = some text) (options.cluster.map some) (env "MIGRUN_DB_CLUSTER")
    base.database.cluster s.database.cluster
  dir : Prevails Eq options.migrationsDir (env "MIGRUN_MIGRATIONS_DIR") base.migrations.dir s.migrations.dir
  createDatabase : s.migrations.createDatabase = base.migrations.createDatabase
  severalStatements : s.migrations.severalStatements = base.migrations.severalStatements
  drift : s.migrations.drift = base.migrations.drift

/-- The variable of the engine is set and not empty, and names none. -/
def NamesNoEngine (env : Environment) : Prop :=
  ∃ text, env "MIGRUN_DB_ENGINE" = some text ∧ text ≠ "" ∧ ∀ k, ¬NamesEngine text k

/-! ## Values that count -/

section

variable {α : Type} {reads : String → α → Prop} {given : Option α} {text? : Option String} {below a b : α}

/-- If a variable says one thing at most, one value counts. -/
theorem Prevails.unique (hreads : ∀ text a b, reads text a → reads text b → a = b)
    (ha : Prevails reads given text? below a) (hb : Prevails reads given text? below b) : a = b := by
  cases ha with
  | option =>
    cases hb
    rfl
  | text hset ha =>
    cases hb with
    | text _ hb => exact hreads _ _ _ ha hb
    | below hunset => simp [hset] at hunset
  | below hunset =>
    cases hb with
    | text hset => simp [hset] at hunset
    | below => rfl

/-- The value of a variable that is set and not empty, or else none. -/
theorem value?_cases (env : Environment) (name : String) :
    (env.value? name = none ∧ (env name = none ∨ env name = some "")) ∨
      ∃ text, env.value? name = some text ∧ env name = some text ∧ text ≠ "" := by
  unfold Environment.value?
  cases h : env name with
  | none => exact .inl ⟨rfl, .inl rfl⟩
  | some text =>
    by_cases hset : text = ""
    · exact .inl ⟨by simp [hset], .inr (by rw [hset])⟩
    · exact .inr ⟨text, by simp [hset], rfl, hset⟩

/-- A value that a variable says itself. -/
theorem prevails_text (option : Option String) (env : Environment) (name below : String) :
    Prevails Eq option (env name) below (option.getD ((env.value? name).getD below)) := by
  cases option with
  | some given => exact .option given _ _
  | none =>
    obtain ⟨hvalue, hunset⟩ | ⟨text, hvalue, hname, hset⟩ := value?_cases env name
    · rw [hvalue]
      exact .below hunset _
    · rw [hvalue, hname]
      exact .text hset rfl _

/-- A value that may be left open below. -/
theorem prevails_optional (option : Option String) (env : Environment) (name : String) (below : Option String) :
    Prevails (fun text a => a = some text) (option.map some) (env name) below
      (option <|> (env.value? name <|> below)) := by
  cases option with
  | some given => exact .option (some given) _ _
  | none =>
    obtain ⟨hvalue, hunset⟩ | ⟨text, hvalue, hname, hset⟩ := value?_cases env name
    · rw [hvalue]
      exact .below hunset _
    · rw [hvalue, hname]
      exact .text (a := some text) hset rfl _

end

/-! ## Engines -/

theorem lowerAscii_name (k : EngineKind) : lowerAscii k.name.toList = k.name.toList := by
  cases k <;> decide

theorem namesEngine_iff {text : String} {k : EngineKind} : NamesEngine text k ↔ k.name = lowerAsciiString text := by
  rw [NamesEngine, sameIgnoringCase, lowerAscii_name, beq_iff_eq, lowerAsciiString]
  constructor
  · intro h
    rw [h, String.ofList_toList]
  · intro h
    rw [h, String.toList_ofList]

theorem name_injective {k l : EngineKind} (h : k.name = l.name) : k = l := by
  revert h
  cases k <;> cases l <;> decide

theorem NamesEngine.unique {text : String} {k l : EngineKind} (hk : NamesEngine text k) (hl : NamesEngine text l) :
    k = l :=
  name_injective ((namesEngine_iff.1 hk).trans (namesEngine_iff.1 hl).symm)

/-- A text is read as the engine that it names, and refused if it names none. -/
theorem readEngine_cases (text : String) :
    (∃ k, readEngine text = .ok k ∧ NamesEngine text k) ∨
      (∃ f, readEngine text = .error f) ∧ ∀ k, ¬NamesEngine text k := by
  have hmem (k : EngineKind) : k ∈ [EngineKind.sqlite, .clickhouse] := by
    cases k <;> decide
  simp only [readEngine, EngineKind.read, EngineKind.ofName?, namesEngine_iff]
  cases h : [EngineKind.sqlite, .clickhouse].find? (·.name == lowerAsciiString text) with
  | some k => exact .inl ⟨k, rfl, by simpa using List.find?_some h⟩
  | none =>
    refine .inr ⟨⟨_, rfl⟩, fun k => ?_⟩
    simpa using List.find?_eq_none.1 h k (hmem k)

/-! ## The two layers -/

section

variable {base s t : Settings} {env : Environment} {options : Layer}

/-- The three rules of the layers leave one way for the settings to be. -/
theorem Layered.unique (hs : Layered base env options s) (ht : Layered base env options t) : s = t := by
  obtain ⟨⟨engine, host, user, password, name, cluster⟩, dir, createDatabase, severalStatements, drift⟩ := s
  obtain ⟨⟨engine', host', user', password', name', cluster'⟩, dir', createDatabase', severalStatements', drift'⟩ := t
  have htext (text a b : String) (ha : text = a) (hb : text = b) : a = b := ha.symm.trans hb
  obtain rfl : engine = engine' := hs.engine.unique (fun _ _ _ hk hl => hk.unique hl) ht.engine
  obtain rfl : host = host' := hs.host.unique htext ht.host
  obtain rfl : user = user' := hs.user.unique htext ht.user
  obtain rfl : password = password' := hs.password.unique htext ht.password
  obtain rfl : name = name' := hs.name.unique htext ht.name
  obtain rfl : cluster = cluster' := hs.cluster.unique (fun _ _ _ ha hb => ha.trans hb.symm) ht.cluster
  obtain rfl : dir = dir' := hs.dir.unique htext ht.dir
  obtain rfl : createDatabase = createDatabase' := hs.createDatabase.trans ht.createDatabase.symm
  obtain rfl : severalStatements = severalStatements' := hs.severalStatements.trans ht.severalStatements.symm
  obtain rfl : drift = drift' := hs.drift.trans ht.drift.symm
  rfl

/-- If the variable of the engine leaves `k` for the engine, the other variables and the options do the rest. -/
theorem layered_imposeTexts {k : EngineKind}
    (hengine : Prevails NamesEngine none (env "MIGRUN_DB_ENGINE") base.database.engine k) (options : Layer) :
    Layered base env options ((env.imposeTexts.run { base with database.engine := k }).2.overlay options) where
  engine := by
    change Prevails _ _ _ _ (options.engine.getD k)
    cases options.engine with
    | some given => exact .option given _ _
    | none => exact hengine
  host := prevails_text _ env _ _
  user := prevails_text _ env _ _
  password := prevails_text _ env _ _
  name := prevails_text _ env _ _
  cluster := prevails_optional _ env _ _
  dir := prevails_text _ env _ _
  createDatabase := rfl
  severalStatements := rfl
  drift := rfl

/-- An environment that names no unknown engine changes each setting by its own variable; any other changes nothing. -/
theorem overlayEnvironment_cases (base : Settings) (env : Environment) :
    (NamesNoEngine env ∧ ∃ f, base.overlayEnvironment env = (.error f, base)) ∨
      ¬NamesNoEngine env ∧ ∃ left, base.overlayEnvironment env = (.ok (), left) ∧
        ∀ options, Layered base env options (left.overlay options) := by
  unfold Settings.overlayEnvironment Environment.impose
  obtain ⟨hvalue, hunset⟩ | ⟨text, hvalue, hname, hset⟩ := value?_cases env engineVariable
  · have hknown : ¬NamesNoEngine env := by
      rintro ⟨text, hname, hset, -⟩
      obtain hnone | hempty := hunset
      · exact Option.some_ne_none _ (hname.symm.trans hnone)
      · exact hset (Option.some.inj (hname.symm.trans hempty))
    rw [hvalue]
    exact .inr ⟨hknown, _, rfl, layered_imposeTexts (.below hunset base.database.engine)⟩
  rw [hvalue]
  obtain ⟨k, hread, hnames⟩ | ⟨⟨f, hread⟩, hnames⟩ := readEngine_cases text
  · have hknown : ¬NamesNoEngine env := by
      rintro ⟨other, hother, -, hnone⟩
      obtain rfl := Option.some.inj (hname.symm.trans hother)
      exact hnone k hnames
    have hengine : Prevails NamesEngine none (env engineVariable) base.database.engine k := by
      rw [hname]
      exact .text hset hnames _
    simp only [hread]
    exact .inr ⟨hknown, _, rfl, layered_imposeTexts hengine⟩
  · simp only [hread]
    exact .inl ⟨⟨text, hname, hset, hnames⟩, f, rfl⟩

/-- An engine is told of a cluster if there is one and its name is not empty. -/
theorem connection_cluster (s : DatabaseSettings) (name : String) :
    s.connection.cluster = some name ↔ s.cluster = some name ∧ name ≠ "" := by
  simp [DatabaseSettings.connection, Option.filter_eq_some_iff]

end

/-- Options stand over variables, and variables over what is below: each setting has the value that counts for it, which
depends on nothing else, and an engine is told of a cluster if that has a name. An environment cannot be put on top
exactly if it names an engine that there is none of, and then nothing is changed. -/
theorem settings_layered (base : Settings) (env : Environment) (options : Layer) :
    ∃ outcome left, base.overlayEnvironment env = (outcome, left) ∧
      ((∃ f, outcome = .error f) ↔ NamesNoEngine env) ∧
      (NamesNoEngine env → left = base) ∧
      (¬NamesNoEngine env → ∀ s, s = left.overlay options ↔ Layered base env options s) ∧
      ∀ name, (left.overlay options).database.connection.cluster = some name ↔
        (left.overlay options).database.cluster = some name ∧ name ≠ "" := by
  obtain ⟨hnone, f, heq⟩ | ⟨hknown, left, heq, hlayered⟩ := overlayEnvironment_cases base env
  · exact ⟨_, _, heq, ⟨fun _ => hnone, fun _ => ⟨f, rfl⟩⟩, fun _ => rfl, fun hknown => absurd hnone hknown,
      connection_cluster _⟩
  · refine ⟨_, _, heq, ⟨nofun, fun hnone => absurd hnone hknown⟩, fun hnone => absurd hnone hknown, fun _ s => ⟨?_, ?_⟩,
      connection_cluster _⟩
    · rintro rfl
      exact hlayered options
    · exact fun hs => hs.unique (hlayered options)

/-- An empty option takes the cluster of a variable away. -/
example :
    let west (name : String) : Option String := if name == "MIGRUN_DB_CLUSTER" then some "west" else none
    ((Settings.standard.overlayEnvironment west).2.overlay { Layer.empty with cluster := some "" }).database.connection =
      ⟨".", "migrun", "", "migrun", none⟩ := by
  decide

/-! ## The program -/

/-- The program runs with the settings of its files, with its environment and its options in layers above them. -/
theorem Launch.settings_eq_ok {l : Launch} {files : Files Sqlite.Content} {i : CommandLine.Invocation}
    {env : Environment} {s : Settings} :
    l.settings files i env = .ok s ↔
      ∃ base, Settings.ofFiles files Sqlite.Content.toBytes l.here i.config l.folder = .ok base ∧
        ¬NamesNoEngine env ∧ Layered base env i.layer s := by
  unfold Launch.settings Settings.load
  cases Settings.ofFiles files Sqlite.Content.toBytes l.here i.config l.folder with
  | error f => simp [bind, Except.bind, Except.map]
  | ok base =>
    obtain ⟨hnone, f, heq⟩ | ⟨hknown, left, heq, hlayered⟩ := overlayEnvironment_cases base env
    · simp [bind, Except.bind, Except.map, heq, throw, throwThe, MonadExceptOf.throw, hnone]
    · simp only [bind, Except.bind, Except.map, heq, pure, Except.pure, Except.ok.injEq, exists_eq_left', hknown,
        not_false_eq_true, true_and]
      constructor
      · rintro rfl
        exact hlayered i.layer
      · exact fun hs => (hlayered i.layer).unique hs

end SchemaMigration
