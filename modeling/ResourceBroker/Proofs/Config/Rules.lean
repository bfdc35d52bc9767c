import Mathlib
import ResourceBroker.Config.Basic

/-!
What the rules for configuration files are worth. A file is refused with all the rules that its values
break, each named once, and a configuration that is accepted keeps every rule, with one exception: the
rules look at what the file gives, and the socket path may come from a variable that is set to nothing.
-/

namespace ResourceBroker

inductive ConfigDocument.Breaks (document : ConfigDocument) : ConfigViolation → Prop where
  | zeroMaxConnections (given : document.broker.maxConnections = some 0) :
      Breaks document .zeroMaxConnections
  | zeroStopTimeout (given : document.broker.stopTimeoutMs = some 0) :
      Breaks document .zeroStopTimeout
  | emptySocketPath (given : document.broker.socketPath = some "") :
      Breaks document .emptySocketPath
  | unknownLogLevel {level : String} (given : document.logging.level = some level)
      (unknown : lowerCase level ∉ logLevels) : Breaks document (.unknownLogLevel level)

theorem isNone_logLevel?_iff (level : String) :
    (logLevel? level).isNone ↔ lowerCase level ∉ logLevels := by
  unfold logLevel?
  by_cases h : lowerCase level ∈ logLevels
  · simp [h]
  · simp [h]

theorem lowerCase_of_mem_logLevels {level : String} (h : level ∈ logLevels) :
    lowerCase level = level := by
  have hall : ∀ known ∈ logLevels, lowerCase known = known := by decide
  exact hall level h

theorem joinPath_ne_empty (base : String) {name : String} (h : name ≠ "") :
    joinPath base name ≠ "" := by
  unfold joinPath
  split
  · exact h
  · split
    · exact fun hjoined => h (String.append_eq_empty_iff.mp hjoined).2
    · exact fun hjoined => h (String.append_eq_empty_iff.mp hjoined).2

namespace Environment

theorem standardSocketPath_ne_empty (env : Environment) : env.standardSocketPath ≠ "" := by
  unfold standardSocketPath
  split
  · exact joinPath_ne_empty _ (by decide)
  · exact joinPath_ne_empty _ (by decide)

/-- A variable counts as soon as it is set. -/
theorem defaultSocketPath_eq_empty_iff (env : Environment) :
    env.defaultSocketPath = "" ↔ env.socket = some "" := by
  unfold defaultSocketPath
  cases env.socket with
  | none => simp [env.standardSocketPath_ne_empty]
  | some path => simp

end Environment

namespace Config

variable {document : ConfigDocument}

theorem violations_eq (document : ConfigDocument) :
    violations document =
      (if document.broker.maxConnections = some 0 then [.zeroMaxConnections] else []) ++
      (if document.broker.stopTimeoutMs = some 0 then [.zeroStopTimeout] else []) ++
      (if document.broker.socketPath = some "" then [.emptySocketPath] else []) ++
      (document.logging.level.filter fun level => (logLevel? level).isNone).toList.map
        .unknownLogLevel := by
  unfold violations
  cases document.logging.level with
  | none => rfl
  | some level => cases h : logLevel? level <;> simp [h, Option.filter]

theorem mem_violations_iff (document : ConfigDocument) (v : ConfigViolation) :
    v ∈ violations document ↔ document.Breaks v := by
  simp only [violations_eq, List.mem_append, List.mem_ite_nil_right, List.mem_singleton,
    List.mem_map, Option.mem_toList, Option.filter_eq_some_iff, isNone_logLevel?_iff]
  constructor
  · rintro (((⟨given, rfl⟩ | ⟨given, rfl⟩) | ⟨given, rfl⟩) | ⟨level, ⟨given, unknown⟩, rfl⟩)
    · exact .zeroMaxConnections given
    · exact .zeroStopTimeout given
    · exact .emptySocketPath given
    · exact .unknownLogLevel given unknown
  · intro h
    cases h with
    | zeroMaxConnections given => exact .inl (.inl (.inl ⟨given, rfl⟩))
    | zeroStopTimeout given => exact .inl (.inl (.inr ⟨given, rfl⟩))
    | emptySocketPath given => exact .inl (.inr ⟨given, rfl⟩)
    | unknownLogLevel given unknown => exact .inr ⟨_, ⟨given, unknown⟩, rfl⟩

theorem nodup_violations (document : ConfigDocument) : (violations document).Nodup := by
  have hgiven (v : ConfigViolation) (p : Prop) [Decidable p] :
      (if p then [v] else []).Sublist [v] := by
    split
    · exact .refl _
    · exact List.nil_sublist _
  have hlevel (given : Option String) : (given.toList.map ConfigViolation.unknownLogLevel).Sublist
      [.unknownLogLevel (given.getD "")] := by
    cases given with
    | none => exact List.nil_sublist _
    | some level => exact .refl _
  rw [violations_eq]
  refine List.Nodup.sublist ((((hgiven _ _).append (hgiven _ _)).append (hgiven _ _)).append
    (hlevel _)) ?_
  simp

/-! What is made of a document -/

theorem maxConnections_pos (env : Environment) (h : ¬ document.Breaks .zeroMaxConnections) :
    1 ≤ (ofDocument env document).maxConnections := by
  unfold ofDocument
  cases hgiven : document.broker.maxConnections with
  | none => exact Nat.le_refl 1
  | some n =>
    have hpos : n ≠ 0 := by
      rintro rfl
      exact h (.zeroMaxConnections hgiven)
    exact Nat.one_le_iff_ne_zero.mpr hpos

theorem stopTimeout_pos (env : Environment) (h : ¬ document.Breaks .zeroStopTimeout) :
    0 < (ofDocument env document).stopTimeout.nanoseconds := by
  unfold ofDocument
  cases hgiven : document.broker.stopTimeoutMs with
  | none =>
    have hdefault : 0 < (Duration.ofParts 5 0).nanoseconds := by decide
    exact hdefault
  | some n =>
    have hpos : n ≠ 0 := by
      rintro rfl
      exact h (.zeroStopTimeout hgiven)
    exact Duration.ofMilliseconds_pos (Nat.pos_of_ne_zero hpos)

theorem logLevel_mem (env : Environment) (h : ∀ level, ¬ document.Breaks (.unknownLogLevel level)) :
    (ofDocument env document).logLevel ∈ logLevels := by
  unfold ofDocument
  cases hgiven : document.logging.level with
  | none =>
    have hdefault : "info" ∈ logLevels := by decide
    exact hdefault
  | some level =>
    by_contra hunknown
    exact h level (.unknownLogLevel hgiven hunknown)

theorem socketPath_eq_empty_iff (env : Environment) (h : ¬ document.Breaks .emptySocketPath) :
    (ofDocument env document).socketPath = "" ↔
      document.broker.socketPath = none ∧ env.socket = some "" := by
  unfold ofDocument
  cases hgiven : document.broker.socketPath with
  | none => simp [env.defaultSocketPath_eq_empty_iff]
  | some path =>
    have hfilled : path ≠ "" := by
      rintro rfl
      exact h (.emptySocketPath hgiven)
    simp [hfilled]

/-! The check of a document -/

theorem check_of_breaks (env : Environment) (hversion : document.version = currentVersion)
    {v : ConfigViolation} (h : document.Breaks v) :
    check env document = .error (.invalid (violations document)) := by
  unfold check
  rw [if_neg (not_not.mpr hversion)]
  split
  · next hnone =>
    have hv := (mem_violations_iff document v).mpr h
    rw [hnone] at hv
    cases hv
  · rfl

theorem check_eq_ok_iff (env : Environment) (document : ConfigDocument) (config : Config) :
    check env document = .ok config ↔
      document.version = currentVersion ∧ (∀ v, ¬ document.Breaks v) ∧
        config = ofDocument env document := by
  have hkept : violations document = [] ↔ ∀ v, ¬ document.Breaks v := by
    rw [List.eq_nil_iff_forall_not_mem]
    exact forall_congr' fun v => not_congr (mem_violations_iff document v)
  by_cases hversion : document.version = currentVersion
  · simp only [← hkept, hversion, true_and, check, ne_eq, not_true_eq_false, if_false]
    split
    · next hnone => simp [hnone, eq_comm]
    · next hsome => exact ⟨nofun, fun h => absurd h.1 hsome⟩
  · simp [check, hversion]

/-- What is made of a text, whatever variables are set. -/
theorem parse_keeps_rules (env : Environment) (text : String) :
    ((∃ config, parse env text = .ok config) ↔
      ∃ document, ConfigDocument.ofText? text = some document ∧ document.version = 1 ∧
        ∀ v, ¬ document.Breaks v) ∧
    (∀ config, parse env text = .ok config →
      1 ≤ config.maxConnections ∧ 0 < config.stopTimeout.nanoseconds ∧
      config.logLevel ∈ logLevels ∧ lowerCase config.logLevel = config.logLevel ∧
      (config.socketPath = "" ↔ env.socket = some "" ∧
        ∃ document, ConfigDocument.ofText? text = some document ∧
          document.broker.socketPath = none)) ∧
    ∀ document, ConfigDocument.ofText? text = some document → document.version = 1 →
      (∃ v, document.Breaks v) →
      ∃ broken, parse env text = .error (.invalid broken) ∧ broken.Nodup ∧
        ∀ v, v ∈ broken ↔ document.Breaks v := by
  cases htext : ConfigDocument.ofText? text with
  | none => simp [parse, htext]
  | some document =>
    have hparse : parse env text = check env document := by rw [parse, htext]
    simp only [hparse, Option.some.injEq, exists_eq_left', forall_eq', check_eq_ok_iff]
    refine ⟨by simp [currentVersion], ?_, ?_⟩
    · rintro config ⟨-, hkept, rfl⟩
      have hlevel := logLevel_mem env fun level => hkept (.unknownLogLevel level)
      refine ⟨maxConnections_pos env (hkept _), stopTimeout_pos env (hkept _), hlevel,
        lowerCase_of_mem_logLevels hlevel, ?_⟩
      rw [socketPath_eq_empty_iff env (hkept _), and_comm]
    · rintro hversion ⟨v, hbroken⟩
      exact ⟨violations document, check_of_breaks env hversion hbroken, nodup_violations document,
        mem_violations_iff document⟩

/-- A file that leaves the path out, and a variable that is set to nothing. -/
theorem parse_of_empty_variable :
    ∃ config, parse ⟨some "", none, none, none⟩ "config_version = 1" = .ok config ∧
      config.socketPath = "" := by
  have hdocument : ConfigDocument.ofText? "config_version = 1" =
      some ⟨1, ⟨none, none, none⟩, ⟨none, none⟩, ⟨none⟩⟩ := by cbv
  exact ⟨_, by rw [parse, hdocument]; rfl, rfl⟩

end Config
end ResourceBroker
