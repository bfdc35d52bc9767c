import ResourceBroker.CommandLine.Settings
import ResourceBroker.Proofs.Config.Rules

/-!
What the service runs with. Its configuration has three layers: defaults, a file, and the options of
the command line, which lie on top. A file counts as a whole or not at all, and whatever the layers
are, what comes out of them is fit to run with.
-/

namespace ResourceBroker

def IsLogLevel (level : String) : Prop := ∃ known ∈ logLevels, lowerCase level = lowerCase known

theorem IsLogLevel.lowerCase_mem {level : String} (h : IsLogLevel level) :
    lowerCase level ∈ logLevels := by
  obtain ⟨known, hmem, hsame⟩ := h
  rw [hsame, lowerCase_of_mem_logLevels hmem]
  exact hmem

theorem logLevel?_of_isLogLevel {level : String} (h : IsLogLevel level) :
    logLevel? level = some (lowerCase level) := by
  unfold logLevel?
  rw [if_pos (List.contains_iff_mem.mpr h.lowerCase_mem)]

theorem logLevel?_of_not_isLogLevel {level : String} (h : ¬ IsLogLevel level) :
    logLevel? level = none := by
  rw [← Option.isNone_iff_eq_none, isNone_logLevel?_iff]
  intro hmem
  exact h ⟨_, hmem, (lowerCase_of_mem_logLevels hmem).symm⟩

/-- A file whose text is a document of the current version that breaks no rule. -/
structure PathEntry.Holds (entry : PathEntry) (document : ConfigDocument) : Prop where
  decodes : ∃ bytes text, entry.content? = some bytes ∧ String.fromUTF8? bytes = some text ∧
    ConfigDocument.ofText? text = some document
  version : document.version = Config.currentVersion
  kept : ∀ v, ¬ document.Breaks v

theorem PathEntry.exists?_eq_false_iff (entry : PathEntry) :
    entry.exists? = false ↔ entry = .missing := by
  cases entry <;> simp [PathEntry.exists?]

namespace Config

theorem load_eq_ok_iff (env : Environment) (entry : PathEntry) (config : Config) :
    load env entry.content? = .ok config ↔
      ∃ document, entry.Holds document ∧ config = ofDocument env document := by
  constructor
  · intro h
    unfold load at h
    split at h
    · next text htext =>
      obtain ⟨bytes, hcontent, htext⟩ := Option.bind_eq_some_iff.mp htext
      unfold parse at h
      split at h
      · next document hdocument =>
        obtain ⟨hversion, hkept, rfl⟩ := (check_eq_ok_iff env document config).mp h
        exact ⟨document, ⟨⟨bytes, text, hcontent, htext, hdocument⟩, hversion, hkept⟩, rfl⟩
      · cases h
    · cases h
  · rintro ⟨document, hholds, rfl⟩
    obtain ⟨bytes, text, hcontent, htext, hdocument⟩ := hholds.decodes
    have hbind : entry.content?.bind String.fromUTF8? = some text := by
      rw [hcontent]
      exact htext
    unfold load
    rw [hbind]
    dsimp only
    unfold parse
    rw [hdocument]
    exact (check_eq_ok_iff env document _).mpr ⟨hholds.version, hholds.kept, rfl⟩

/-- What the service relies on, whatever a configuration was made of. -/
structure Sound (config : Config) : Prop where
  logLevel : config.logLevel ∈ logLevels
  maxConnections : 1 ≤ config.maxConnections
  stopTimeout : 0 < config.stopTimeout.nanoseconds

theorem sound_ofDocument (env : Environment) {document : ConfigDocument}
    (h : ∀ v, ¬ document.Breaks v) : (ofDocument env document).Sound where
  logLevel := logLevel_mem env fun level => h (.unknownLogLevel level)
  maxConnections := maxConnections_pos env (h .zeroMaxConnections)
  stopTimeout := stopTimeout_pos env (h .zeroStopTimeout)

theorem sound_default (env : Environment) : (default env).Sound := by
  apply sound_ofDocument
  intro v h
  cases h with
  | zeroMaxConnections given | zeroStopTimeout given | emptySocketPath given
  | unknownLogLevel given => cases given

end Config

namespace Settings

/-- The file to read: the one that is named, else the standard one if there is one. -/
inductive Selected (lookup : String → PathEntry) : Option String → String → Prop where
  | named (path : String) : Selected lookup (some path) path
  | standard (there : (lookup defaultConfigPath).exists? = true) :
      Selected lookup none defaultConfigPath

/-- What the options are laid over, and the file that it was read from, if any. -/
inductive Base (env : Environment) (lookup : String → PathEntry) :
    Option String → Config → Option String → Prop where
  | file {named : Option String} {path : String} {document : ConfigDocument}
      (selected : Selected lookup named path) (holds : (lookup path).Holds document) :
      Base env lookup named (.ofDocument env document) (some path)
  | defaults (absent : lookup defaultConfigPath = .missing) :
      Base env lookup none (.default env) none

structure LaidOver (options : Options) (base config : Config) : Prop where
  socketPath : config.socketPath = options.socket.getD base.socketPath
  logLevel : config.logLevel = (options.logLevel.map lowerCase).getD base.logLevel
  logFile : config.logFile = options.logFile.or base.logFile
  maxConnections : config.maxConnections = base.maxConnections
  stopTimeout : config.stopTimeout = base.stopTimeout
  registrationDelay : config.registrationDelay = base.registrationDelay

/-- What is wrong: the file that was selected, or the level that was given. The level is looked at
when there is something to lay it over. -/
inductive Fault (env : Environment) (lookup : String → PathEntry) (options : Options) :
    SettingsError → Prop where
  | config {path : String} {cause : ConfigError} (selected : Selected lookup options.config path)
      (fails : Config.load env (lookup path).content? = .error cause) :
      Fault env lookup options (.config path cause)
  | logLevel {base : Config} {source : Option String} {level : String}
      (base : Base env lookup options.config base source) (given : options.logLevel = some level)
      (unknown : ¬ IsLogLevel level) : Fault env lookup options (.logLevel (lowerCase level))

variable {env : Environment} {lookup : String → PathEntry} {named source : Option String}
  {path : String} {options : Options} {base config : Config}

/-! The layer below the options -/

theorem selected_or_absent (lookup : String → PathEntry) (named : Option String) :
    (∃ path, Selected lookup named path) ∨ named = none ∧ lookup defaultConfigPath = .missing := by
  cases named with
  | some path => exact .inl ⟨path, .named path⟩
  | none =>
    cases hthere : (lookup defaultConfigPath).exists? with
    | true => exact .inl ⟨defaultConfigPath, .standard hthere⟩
    | false => exact .inr ⟨rfl, (PathEntry.exists?_eq_false_iff _).mp hthere⟩

theorem base_of_selected (env : Environment) (h : Selected lookup named path) :
    Settings.base env lookup named =
      ((Config.load env (lookup path).content?).map (Settings.mk · (some path))).mapError
        (.config path) := by
  unfold Settings.base
  cases h with
  | named =>
    dsimp only
    cases Config.load env (lookup path).content? <;> rfl
  | standard there =>
    dsimp only
    rw [if_pos there]
    cases Config.load env (lookup defaultConfigPath).content? <;> rfl

theorem base_of_absent (env : Environment) (h : lookup defaultConfigPath = .missing) :
    Settings.base env lookup none = .ok ⟨.default env, none⟩ := by
  apply if_neg
  rw [h]
  decide

theorem Base.eq_ok (h : Base env lookup named config source) :
    Settings.base env lookup named = .ok ⟨config, source⟩ := by
  cases h with
  | file selected holds =>
    rw [base_of_selected env selected, (Config.load_eq_ok_iff env _ _).mpr ⟨_, holds, rfl⟩]
    rfl
  | defaults absent => exact base_of_absent env absent

theorem base_or_fault (env : Environment) (lookup : String → PathEntry) (named : Option String) :
    (∃ config source, Base env lookup named config source) ∨
      ∃ path cause, Selected lookup named path ∧
        Config.load env (lookup path).content? = .error cause := by
  obtain ⟨path, hselected⟩ | ⟨rfl, habsent⟩ := selected_or_absent lookup named
  · cases hload : Config.load env (lookup path).content? with
    | ok config =>
      obtain ⟨document, hholds, rfl⟩ := (Config.load_eq_ok_iff env _ _).mp hload
      exact .inl ⟨_, _, .file hselected hholds⟩
    | error cause => exact .inr ⟨path, cause, hselected, hload⟩
  · exact .inl ⟨_, _, .defaults habsent⟩

theorem Base.sound (h : Base env lookup named config source) : config.Sound := by
  cases h with
  | file selected holds => exact Config.sound_ofDocument env holds.kept
  | defaults absent => exact Config.sound_default env

/-! The options on top -/

theorem LaidOver.sound (h : LaidOver options base config)
    (hlevel : ∀ level ∈ options.logLevel, IsLogLevel level) (hbase : base.Sound) :
    config.Sound where
  logLevel := by
    rw [h.logLevel]
    cases hgiven : options.logLevel with
    | none => exact hbase.logLevel
    | some level => exact (hlevel level hgiven).lowerCase_mem
  maxConnections := h.maxConnections ▸ hbase.maxConnections
  stopTimeout := h.stopTimeout ▸ hbase.stopTimeout

theorem override_of_isLogLevel (hlevel : ∀ level ∈ options.logLevel, IsLogLevel level)
    (base : Config) :
    ∃ config, override options base = .ok config ∧ LaidOver options base config := by
  unfold override
  cases hgiven : options.logLevel with
  | none => exact ⟨_, rfl, ⟨rfl, by rw [hgiven]; rfl, rfl, rfl, rfl, rfl⟩⟩
  | some level =>
    dsimp only
    rw [logLevel?_of_isLogLevel (hlevel level hgiven)]
    exact ⟨_, rfl, ⟨rfl, by rw [hgiven]; rfl, rfl, rfl, rfl, rfl⟩⟩

theorem override_of_not_isLogLevel {level : String} (hgiven : options.logLevel = some level)
    (hunknown : ¬ IsLogLevel level) (base : Config) :
    override options base = .error (.logLevel (lowerCase level)) := by
  unfold override
  rw [hgiven]
  dsimp only
  rw [logLevel?_of_not_isLogLevel hunknown]
  rfl

/-! All layers -/

theorem load_of_base (h : Base env lookup options.config base source) :
    load env lookup options = (override options base).map (⟨·, source⟩) := by
  unfold load
  rw [h.eq_ok]
  exact bind_pure_comp (Settings.mk · source) (override options base)

theorem Fault.eq_error {error : SettingsError} (h : Fault env lookup options error) :
    load env lookup options = .error error := by
  cases h with
  | config selected fails =>
    unfold load
    rw [base_of_selected env selected, fails]
    rfl
  | logLevel base given unknown =>
    rw [load_of_base base, override_of_not_isLogLevel given unknown]
    rfl

theorem load_of_laidOver (hbase : Base env lookup options.config base source)
    (hlevel : ∀ level ∈ options.logLevel, IsLogLevel level) :
    ∃ config, load env lookup options = .ok ⟨config, source⟩ ∧ LaidOver options base config := by
  obtain ⟨config, hconfig, hlaid⟩ := override_of_isLogLevel hlevel base
  refine ⟨config, ?_, hlaid⟩
  rw [load_of_base hbase, hconfig]
  rfl

theorem load_cases (env : Environment) (lookup : String → PathEntry) (options : Options) :
    (∃ settings base, load env lookup options = .ok settings ∧
      Base env lookup options.config base settings.source ∧
      (∀ level ∈ options.logLevel, IsLogLevel level) ∧ LaidOver options base settings.config) ∨
    ∃ error, Fault env lookup options error := by
  obtain ⟨base, source, hbase⟩ | ⟨path, cause, hselected, hfails⟩ :=
    base_or_fault env lookup options.config
  · by_cases hlevel : ∀ level ∈ options.logLevel, IsLogLevel level
    · obtain ⟨config, hload, hlaid⟩ := load_of_laidOver hbase hlevel
      exact .inl ⟨⟨config, source⟩, base, hload, hbase, hlevel, hlaid⟩
    · obtain ⟨level, hgiven, hunknown⟩ := by simpa only [not_forall] using hlevel
      exact .inr ⟨_, .logLevel hbase hgiven hunknown⟩
  · exact .inr ⟨_, .config hselected hfails⟩

/-- What comes of the layers, whatever there is of them. -/
theorem load_combines_layers (env : Environment) (lookup : String → PathEntry) (options : Options) :
    ((∃ settings, load env lookup options = .ok settings) ↔
      (∃ base source, Base env lookup options.config base source) ∧
        ∀ level ∈ options.logLevel, IsLogLevel level) ∧
    (∀ settings, load env lookup options = .ok settings →
      ∃ base, Base env lookup options.config base settings.source ∧
        LaidOver options base settings.config ∧ settings.config.Sound) ∧
    ∀ error, load env lookup options = .error error ↔ Fault env lookup options error := by
  -- There is one result only, so that a result of the one kind excludes all of the other.
  obtain ⟨settings, base, hload, hbase, hlevel, hlaid⟩ | ⟨error, hfault⟩ :=
    load_cases env lookup options
  · refine ⟨iff_of_true ⟨settings, hload⟩ ⟨⟨base, settings.source, hbase⟩, hlevel⟩, ?_, ?_⟩
    · intro settings' hload'
      obtain rfl := Except.ok.inj (hload.symm.trans hload')
      exact ⟨base, hbase, hlaid, hlaid.sound hlevel hbase.sound⟩
    · intro error
      refine iff_of_false (fun herror => ?_) (fun hfault => ?_)
      · cases hload.symm.trans herror
      · cases hload.symm.trans hfault.eq_error
  · have herror := hfault.eq_error
    refine ⟨iff_of_false ?_ ?_, ?_, ?_⟩
    · rintro ⟨settings, hload⟩
      cases herror.symm.trans hload
    · rintro ⟨⟨base, source, hbase⟩, hlevel⟩
      obtain ⟨config, hload, -⟩ := load_of_laidOver hbase hlevel
      cases herror.symm.trans hload
    · intro settings hload
      cases herror.symm.trans hload
    · intro error'
      refine ⟨fun herror' => ?_, Fault.eq_error⟩
      obtain rfl := Except.error.inj (herror.symm.trans herror')
      exact hfault

theorem load_combines_layers_sample :
    let env : Environment := ⟨none, none, none, none⟩
    let text := "config_version = 1\n[logging]\nlevel = \"warn\"\nfile = \"service.log\"\n"
    let lookup (path : String) : PathEntry :=
      if path = "service.toml" then .file text.toByteArray else .missing
    let options : Options := ⟨some "service.toml", none, some "Debug", none⟩
    ∃ settings, load env lookup options = .ok settings ∧
      settings.source = some "service.toml" ∧ settings.config.logLevel = "debug" ∧
      settings.config.logFile = some "service.log" ∧ settings.config.Sound := by
  intro env text lookup options
  let document : ConfigDocument :=
    ⟨1, ⟨none, none, none⟩, ⟨some "warn", some "service.log"⟩, ⟨none⟩⟩
  have htext : String.fromUTF8? text.toByteArray = some text := by
    rw [String.fromUTF8?, dif_pos text.isValidUTF8]
    rfl
  have hdocument : ConfigDocument.ofText? text = some document := by cbv
  have hkept : ∀ v, ¬ document.Breaks v := by
    intro v hbroken
    cases hbroken with
    | zeroMaxConnections given | zeroStopTimeout given | emptySocketPath given => cases given
    | unknownLogLevel given unknown =>
      obtain rfl := Option.some.inj given
      exact unknown (by decide)
  have hbase : Base env lookup options.config (.ofDocument env document) (some "service.toml") :=
    .file (.named "service.toml") ⟨⟨_, text, rfl, htext, hdocument⟩, rfl, hkept⟩
  have hlevel : ∀ level ∈ options.logLevel, IsLogLevel level := by
    intro level hgiven
    obtain rfl := Option.some.inj hgiven
    exact ⟨"debug", by decide, by decide⟩
  have hlayers := load_combines_layers env lookup options
  obtain ⟨settings, hload⟩ := hlayers.1.mpr ⟨⟨_, _, hbase⟩, hlevel⟩
  obtain ⟨base, hbase', hlaid, hsound⟩ := hlayers.2.1 settings hload
  obtain ⟨rfl, hsource⟩ := Settings.mk.inj (Except.ok.inj (hbase'.eq_ok.symm.trans hbase.eq_ok))
  refine ⟨settings, hload, hsource, hlaid.logLevel.trans ?_, hlaid.logFile, hsound⟩
  decide

end Settings
end ResourceBroker
