import GoldenGate.Common.Logging

/-! # Where log records go

The configuration alone says which handlers a record comes to. The loggers of the manager
agree with it, however they came to be: each is attached to a logger further up its name, and
the names in between have no configuration. A reference has such a logger in its memory when
none of its name was there before.
-/

namespace GoldenGate.Logging

open Memory

variable {Handler : Type} {factories : HandlerFactories Handler} {config : Config}

/-! ## What the configuration says -/

/-- A name, its dotted ancestors and the root, nearest first. -/
def lineage (name : Name) : List Name := (name :: parentNames name).filter (· ≠ []) ++ [[]]

/-- The level of the nearest of them that has one. -/
def effectiveLevel (config : Config) (name : Name) : Int :=
  ((lineage name).findSome? (configuredLevel config)).getD levelAll

/-- The handlers along a lineage, up to the first that does not forward. -/
def reached (factories : HandlerFactories Handler) (config : Config) : List Name → List Handler
  | [] => []
  | name :: ancestors =>
      configuredHandlers factories config name ++
        if configuredForward config name then reached factories config ancestors else []

def expected (factories : HandlerFactories Handler) (config : Config) (name : Name) (level : Int) : List Handler :=
  if level < effectiveLevel config name then [] else reached factories config (lineage name)

/-! ## Names without a configuration -/

/-- None of the names has a configuration. -/
def Skips (config : Config) (names : List Name) : Prop := ∀ name ∈ names, haveLoggerConfig config name = false

theorem key_of_getConfigValue {key suffix value : Name} (h : getConfigValue config key suffix = some value) :
    ∃ entry ∈ config, entry.key = key ++ suffix := by
  obtain ⟨entry, found, -⟩ := Option.map_eq_some_iff.mp h
  have holds := List.find?_some found
  simp only [Bool.and_eq_true, decide_eq_true_eq] at holds
  obtain ⟨⟨size, start⟩, finish⟩ := holds
  obtain ⟨rest, same⟩ := List.isPrefixOf_iff_prefix.mp start
  have length : rest.length = suffix.length := by
    have := congrArg List.length same
    simp only [List.length_append] at this
    omega
  have tail : suffix <:+ rest :=
    List.suffix_of_suffix_length_le (List.isSuffixOf_iff_suffix.mp finish) ⟨key, same⟩ (by omega)
  exact ⟨entry, List.mem_of_find?_eq_some found, by rw [← same, tail.eq_of_length length.symm]⟩

theorem getConfigValue_none {name suffix : Name} (none_ : haveLoggerConfig config name = false)
    (known : suffix = levelKey ∨ suffix = handlersKey ∨ suffix = forwardKey) :
    getConfigValue config name suffix = none := by
  cases value : getConfigValue config name suffix with
  | none => rfl
  | some value =>
      obtain ⟨entry, listed, key⟩ := key_of_getConfigValue value
      have no := List.any_eq_false.mp none_ entry listed
      rw [key] at no
      simp only [List.drop_left, Bool.and_eq_true, Bool.or_eq_true, decide_eq_true_eq, not_and] at no
      exact absurd (by tauto) (no (List.isPrefixOf_iff_prefix.mpr (List.prefix_append name suffix)))

section Unconfigured

variable {name : Name} (none_ : haveLoggerConfig config name = false)
include none_

theorem configuredLevel_none : configuredLevel config name = none := by
  simp [configuredLevel, getConfigValue_none none_ (.inl rfl)]

theorem configuredHandlers_none : configuredHandlers factories config name = [] := by
  simp [configuredHandlers, getConfigValue_none none_ (.inr (.inl rfl))]

theorem configuredForward_none : configuredForward config name = true := by
  simp [configuredForward, getConfigValue_none none_ (.inr (.inr rfl))]

end Unconfigured

theorem reached_skips {skipped : List Name} (skips : Skips config skipped) (rest : List Name) :
    reached factories config (skipped ++ rest) = reached factories config rest := by
  induction skipped with
  | nil => rfl
  | cons name skipped ih =>
      have none_ := skips name List.mem_cons_self
      rw [List.cons_append, reached, configuredHandlers_none none_, configuredForward_none none_, if_pos rfl,
        List.nil_append]
      exact ih fun other member => skips other (List.mem_cons_of_mem name member)

theorem findSome_skips {skipped : List Name} (skips : Skips config skipped) (rest : List Name) :
    (skipped ++ rest).findSome? (configuredLevel config) = rest.findSome? (configuredLevel config) := by
  induction skipped with
  | nil => rfl
  | cons name skipped ih =>
      rw [List.cons_append, List.findSome?_cons, configuredLevel_none (skips name List.mem_cons_self)]
      exact ih fun other member => skips other (List.mem_cons_of_mem name member)

theorem configuredLevel_nonneg {name : Name} {level : Int} (h : configuredLevel config name = some level) :
    0 ≤ level := by
  simp only [configuredLevel, Option.bind_eq_bind, Option.bind_eq_some_iff] at h
  obtain ⟨value, -, h⟩ := h
  by_cases nonneg : (if getLogLevel value < 0 then (toInteger value).getD (-1) else getLogLevel value) ≥ 0
  · rw [if_pos nonneg] at h
    cases h
    exact nonneg
  · rw [if_neg nonneg] at h
    cases h

theorem effectiveLevel_nonneg (name : Name) : 0 ≤ effectiveLevel config name := by
  unfold effectiveLevel
  cases found : (lineage name).findSome? (configuredLevel config) with
  | none => exact le_refl _
  | some level =>
      obtain ⟨ancestor, -, configured⟩ := List.exists_of_findSome?_eq_some found
      exact configuredLevel_nonneg configured

/-! ## Names of parents -/

theorem reverseFindChar_lt {name : Name} {c : Char} {i : Nat} (h : reverseFindChar name c = some i) :
    i < name.length :=
  List.mem_range.mp (List.mem_reverse.mp (List.mem_of_find?_eq_some h))

theorem parentNamesFrom_congr (fuel fuel' : Nat) (name : Name) (enough : name.length ≤ fuel)
    (enough' : name.length ≤ fuel') : parentNamesFrom fuel name = parentNamesFrom fuel' name := by
  induction fuel generalizing fuel' name with
  | zero =>
      cases List.length_eq_zero_iff.mp (Nat.le_zero.mp enough)
      cases fuel' <;> rfl
  | succ fuel ih =>
      cases fuel' with
      | zero =>
          cases List.length_eq_zero_iff.mp (Nat.le_zero.mp enough')
          rfl
      | succ fuel' =>
          rw [parentNamesFrom, parentNamesFrom]
          cases dot : reverseFindChar name '.' with
          | none => rfl
          | some i =>
              have short := reverseFindChar_lt dot
              have size : (name.take i).length = i := by rw [List.length_take]; omega
              exact congrArg (name.take i :: ·) (ih fuel' (name.take i) (by omega) (by omega))

/-- The names behind one of the names of parents are its own. -/
theorem parentNames_tail {name parentName : Name} {rest : List Name} (h : parentNames name = parentName :: rest) :
    rest = parentNames parentName := by
  unfold parentNames at h
  cases size : name.length with
  | zero => simp [size, parentNamesFrom] at h
  | succ fuel =>
      rw [size, parentNamesFrom] at h
      cases dot : reverseFindChar name '.' with
      | none => simp [dot] at h
      | some i =>
          simp only [dot, List.cons.injEq] at h
          obtain ⟨rfl, rfl⟩ := h
          have short := reverseFindChar_lt dot
          exact parentNamesFrom_congr fuel _ (name.take i) (by rw [List.length_take]; omega) (le_refl _)

theorem lineage_nil : lineage [] = [[]] := rfl

theorem lineage_of_ne {name : Name} (h : name ≠ []) :
    lineage name = name :: ((parentNames name).filter (· ≠ []) ++ [[]]) := by
  rw [lineage, List.filter_cons_of_pos (by simpa using h), List.cons_append]

/-! ## The loggers of the manager -/

/-- The logger agrees with the configuration, and its parent is an earlier logger of its lineage. -/
structure Attached (factories : HandlerFactories Handler) (manager : LogManager Handler) (i : Nat)
    (logger : Logger Handler) : Prop where
  level : logger.level = effectiveLevel manager.config logger.name
  inherited : logger.levelIsInherited = true → configuredLevel manager.config logger.name = none
  handlers : logger.handlers = configuredHandlers factories manager.config logger.name
  forward : logger.forwardToParent = configuredForward manager.config logger.name
  parent : (logger.name = [] ∧ logger.parent = none) ∨
    ∃ p parent skipped, logger.parent = some p ∧ p < i ∧ manager.loggers[p]? = some parent ∧
      lineage logger.name = logger.name :: (skipped ++ lineage parent.name) ∧ Skips manager.config skipped

structure Chain (factories : HandlerFactories Handler) (manager : LogManager Handler) : Prop where
  enabled : manager.disabled = false
  root : manager.root = 0
  first : ∃ logger : Logger Handler, manager.loggers[0]? = some logger ∧ logger.name = []
  attached : ∀ i logger, manager.loggers[i]? = some logger → Attached factories manager i logger

/-- Loggers are only added. -/
structure Extends (manager manager' : LogManager Handler) : Prop where
  config : manager'.config = manager.config
  loggers : ∀ (i : Nat) (logger : Logger Handler), manager.loggers[i]? = some logger →
    manager'.loggers[i]? = some logger

theorem Extends.refl (manager : LogManager Handler) : Extends manager manager := ⟨rfl, fun _ _ h => h⟩

theorem Extends.trans {first second third : LogManager Handler} (h : Extends first second)
    (h' : Extends second third) : Extends first third :=
  ⟨h'.config.trans h.config, fun i logger there => h'.loggers i logger (h.loggers i logger there)⟩

theorem Logger.configure_eq (logger : Logger Handler) :
    logger.configure factories config =
      { logger with
        level := (configuredLevel config logger.name).getD logger.level
        levelIsInherited := (configuredLevel config logger.name).isNone && logger.levelIsInherited
        handlers := configuredHandlers factories config logger.name ++ logger.handlers
        forwardToParent := logger.forwardToParent && configuredForward config logger.name } := by
  unfold Logger.configure
  cases level : configuredLevel config logger.name <;> simp

theorem Logger.create_configure (name : Name) :
    (Logger.create name : Logger Handler).configure factories config =
      { name := name
        level := (configuredLevel config name).getD levelOff
        levelIsInherited := (configuredLevel config name).isNone
        forwardToParent := configuredForward config name
        parent := none
        handlers := configuredHandlers factories config name } := by
  rw [configure_eq]
  simp [create]

/-- The level of a logger without its own is that of its parent. -/
theorem effectiveLevel_inherited {name parentName : Name} {skipped : List Name}
    (h : lineage name = name :: (skipped ++ lineage parentName)) (skips : Skips config skipped)
    (inherited : configuredLevel config name = none) :
    effectiveLevel config name = effectiveLevel config parentName := by
  unfold effectiveLevel
  rw [h, List.findSome?_cons, inherited]
  exact congrArg (Option.getD · levelAll) (findSome_skips skips (lineage parentName))

theorem effectiveLevel_own {name : Name} {ancestors : List Name} {level : Int} (h : lineage name = name :: ancestors)
    (own : configuredLevel config name = some level) : effectiveLevel config name = level := by
  rw [effectiveLevel, h, List.findSome?_cons, own]
  rfl

theorem reached_lineage {name parentName : Name} {skipped : List Name}
    (h : lineage name = name :: (skipped ++ lineage parentName)) (skips : Skips config skipped) :
    reached factories config (lineage name) =
      configuredHandlers factories config name ++
        if configuredForward config name then reached factories config (lineage parentName) else [] := by
  rw [h, reached, reached_skips skips]

section Chain

variable {manager : LogManager Handler} (chain : Chain factories manager)
include chain

/-- The search for the level ends at the level that the configuration says. -/
theorem ownLevel_ok (fuel i : Nat) (logger : Logger Handler) (there : manager.loggers[i]? = some logger)
    (enough : i < fuel) : manager.ownLevel fuel i = .ok (effectiveLevel manager.config logger.name) := by
  induction fuel generalizing i logger with
  | zero => omega
  | succ fuel ih =>
      have attached := chain.attached i logger there
      rw [LogManager.ownLevel, there]
      dsimp only
      cases attached.parent with
      | inl root =>
          rw [root.2]
          cases logger.levelIsInherited <;> exact congrArg Except.ok attached.level
      | inr parent =>
          obtain ⟨p, parent, skipped, link, before, at_, names, skips⟩ := parent
          rw [link]
          cases inherited : logger.levelIsInherited with
          | false => exact congrArg Except.ok attached.level
          | true =>
              rw [effectiveLevel_inherited names skips (attached.inherited inherited)]
              exact ih p parent at_ (by omega)

/-- The handlers that a record comes to are those that the configuration says. -/
theorem dispatchRecord_ok (fuel i : Nat) (logger : Logger Handler) (there : manager.loggers[i]? = some logger)
    (enough : i < fuel) :
    manager.dispatchRecord fuel (some i) = .ok (reached factories manager.config (lineage logger.name)) := by
  induction fuel generalizing i logger with
  | zero => omega
  | succ fuel ih =>
      have attached := chain.attached i logger there
      rw [LogManager.dispatchRecord, there]
      dsimp only
      rw [attached.forward, attached.handlers]
      cases attached.parent with
      | inl root =>
          have dispatched : manager.dispatchRecord fuel logger.parent = .ok [] := by
            rw [root.2]
            cases fuel <;> rfl
          rw [dispatched, root.1]
          cases forward : configuredForward manager.config [] <;>
            simp [lineage_nil, reached, forward]
      | inr parent =>
          obtain ⟨p, parent, skipped, link, before, at_, names, skips⟩ := parent
          rw [reached_lineage names skips, link, ih p parent at_ (by omega)]
          cases configuredForward manager.config logger.name <;> simp

theorem addLogger_ok {name : Name} {p : Nat} {parent : Logger Handler} {skipped : List Name}
    (at_ : manager.loggers[p]? = some parent)
    (names : lineage name = name :: (skipped ++ lineage parent.name)) (skips : Skips manager.config skipped) :
    ∃ manager' logger, manager.addLogger factories name p = .ok (manager', manager.loggers.length) ∧
      Chain factories manager' ∧ Extends manager manager' ∧
      manager'.loggers[manager.loggers.length]? = some logger ∧ logger.name = name := by
  have inside : p < manager.loggers.length := (List.getElem?_eq_some_iff.mp at_).1
  have level := ownLevel_ok chain (manager.loggers.length + 1) p parent at_ (by omega)
  -- the new logger has its own level or that of its parent
  have attached : ∃ logger, manager.setParent ((Logger.create name).configure factories manager.config) p = .ok logger ∧
      logger.name = name ∧ logger.parent = some p ∧ logger.level = effectiveLevel manager.config name ∧
      (logger.levelIsInherited = true → configuredLevel manager.config name = none) ∧
      logger.handlers = configuredHandlers factories manager.config name ∧
      logger.forwardToParent = configuredForward manager.config name := by
    rw [Logger.create_configure, LogManager.setParent]
    cases own : configuredLevel manager.config name with
    | none =>
        dsimp only [Option.isNone]
        rw [if_pos rfl, level]
        exact ⟨_, rfl, rfl, rfl, (effectiveLevel_inherited names skips own).symm, fun _ => rfl, rfl, rfl⟩
    | some level =>
        exact ⟨_, rfl, rfl, rfl, (effectiveLevel_own names own).symm, (fun h => by cases h), rfl, rfl⟩
  obtain ⟨logger, set, named, link, level, inherited, handlers, forward⟩ := attached
  have extends_ : Extends manager { manager with loggers := manager.loggers ++ [logger] } :=
    ⟨rfl, fun i other there => by
      rw [List.getElem?_append_left (List.getElem?_eq_some_iff.mp there).1]
      exact there⟩
  refine ⟨{ manager with loggers := manager.loggers ++ [logger] }, logger, ?_, ⟨chain.enabled, chain.root, ?_, ?_⟩,
    extends_, by simp, named⟩
  · rw [LogManager.addLogger, set]
    rfl
  · obtain ⟨first, there, empty⟩ := chain.first
    exact ⟨first, extends_.loggers 0 first there, empty⟩
  · intro i other there
    by_cases old : i < manager.loggers.length
    · rw [List.getElem?_append_left old] at there
      have before := chain.attached i other there
      refine ⟨before.level, before.inherited, before.handlers, before.forward, ?_⟩
      cases before.parent with
      | inl root => exact .inl root
      | inr parent =>
          obtain ⟨q, parent, skipped, link, earlier, at_, names, skips⟩ := parent
          exact .inr ⟨q, parent, skipped, link, earlier, extends_.loggers q parent at_, names, skips⟩
    · rw [List.getElem?_append_right (by omega)] at there
      cases offset : i - manager.loggers.length with
      | succ offset' => simp [offset] at there
      | zero =>
          rw [offset] at there
          cases Option.some.inj there
          subst named
          exact ⟨level, inherited, handlers, forward,
            .inr ⟨p, parent, skipped, link, by omega, extends_.loggers p parent at_, names, skips⟩⟩

end Chain

theorem findLogger_some {manager : LogManager Handler} {name : Name} {i : Nat}
    (h : manager.findLogger name = some i) : ∃ logger, manager.loggers[i]? = some logger ∧ logger.name = name := by
  obtain ⟨inside, named, -⟩ := List.findIdx?_eq_some_iff_getElem.mp h
  exact ⟨manager.loggers[i], List.getElem?_eq_getElem inside, of_decide_eq_true named⟩

/-- The root is there, so a name that is not found is not the name of the root. -/
theorem Chain.ne_nil {manager : LogManager Handler} (chain : Chain factories manager) {name : Name}
    (h : manager.findLogger name = none) : name ≠ [] := by
  rintro rfl
  obtain ⟨first, there, empty⟩ := chain.first
  have no := List.findIdx?_eq_none_iff.mp h first (List.mem_of_getElem? there)
  simp [empty] at no

/-- The parent that is found or made is the nearest with a logger or a configuration. -/
theorem findParent_ok (names : List Name) (name : Name) (same : names = parentNames name)
    (manager : LogManager Handler) (chain : Chain factories manager) :
    ∃ manager' p parent skipped, manager.findParent factories names = .ok (manager', p) ∧
      Chain factories manager' ∧ Extends manager manager' ∧ manager'.loggers[p]? = some parent ∧
      names.filter (· ≠ []) ++ [[]] = skipped ++ lineage parent.name ∧ Skips manager'.config skipped := by
  induction names generalizing name with
  | nil =>
      obtain ⟨first, there, empty⟩ := chain.first
      refine ⟨manager, 0, first, [], ?_, chain, .refl manager, there, ?_, fun _ none_ => by cases none_⟩
      · rw [LogManager.findParent, chain.root]
      · rw [empty]
        rfl
  | cons parentName rest ih =>
      have tail := parentNames_tail same.symm
      have names : (parentName :: rest).filter (· ≠ []) ++ [[]] = lineage parentName := by rw [lineage, ← tail]
      rw [LogManager.findParent]
      cases found : manager.findLogger parentName with
      | some candidateParent =>
          obtain ⟨parent, there, named⟩ := findLogger_some found
          exact ⟨manager, candidateParent, parent, [], rfl, chain, .refl manager, there, by rw [names, named]; rfl,
            fun _ none_ => by cases none_⟩
      | none =>
          have ne := chain.ne_nil found
          obtain ⟨between, p, parent, skipped, search, chain', extends_, there, lineage_, skips⟩ := ih parentName tail
          have ancestors : lineage parentName = parentName :: (skipped ++ lineage parent.name) := by
            rw [lineage_of_ne ne, ← tail, lineage_]
          dsimp only
          rw [search, names]
          cases configured : haveLoggerConfig manager.config parentName with
          | false =>
              refine ⟨between, p, parent, parentName :: skipped, rfl, chain', extends_, there, ancestors, ?_⟩
              intro other member
              cases member with
              | head => rw [extends_.config]; exact configured
              | tail _ member => exact skips other member
          | true =>
              obtain ⟨manager', logger, added, chain'', extends', there', named⟩ :=
                addLogger_ok chain' there ancestors skips
              exact ⟨manager', _, logger, [], added, chain'', extends_.trans extends', there', by rw [named]; rfl,
                fun _ none_ => by cases none_⟩

theorem getLogger_ok {manager : LogManager Handler} (chain : Chain factories manager) {name : Name}
    (fresh : manager.findLogger name = none) :
    ∃ manager' i logger, manager.getLogger factories name = .ok (manager', some (i, true)) ∧
      Chain factories manager' ∧ Extends manager manager' ∧ manager'.loggers[i]? = some logger ∧
      logger.name = name := by
  obtain ⟨between, p, parent, skipped, search, chain', extends_, there, lineage_, skips⟩ :=
    findParent_ok (parentNames name) name rfl manager chain
  have ancestors : lineage name = name :: (skipped ++ lineage parent.name) := by
    rw [lineage_of_ne (chain.ne_nil fresh), lineage_]
  obtain ⟨manager', logger, added, chain'', extends', there', named⟩ := addLogger_ok chain' there ancestors skips
  refine ⟨manager', _, logger, ?_, chain'', extends_.trans extends', there', named⟩
  rw [LogManager.getLogger, if_neg (by simp [chain.enabled]), fresh]
  dsimp only
  rw [search, ok_bind]
  dsimp only
  rw [added]
  rfl

theorem getLogger_found {manager : LogManager Handler} (chain : Chain factories manager) {name : Name} {i : Nat}
    (found : manager.findLogger name = some i) :
    manager.getLogger factories name = .ok (manager, some (i, false)) := by
  rw [LogManager.getLogger, if_neg (by simp [chain.enabled]), found]

/-- The root logger, with the level that it has when there is no other. -/
theorem configured_loggers (factories : HandlerFactories Handler) (config : Config) :
    (LogManager.configured factories config).loggers =
      [{ name := []
         level := (configuredLevel config []).getD levelAll
         levelIsInherited := false
         forwardToParent := configuredForward config []
         parent := none
         handlers := configuredHandlers factories config [] }] := by
  unfold LogManager.configured
  rw [Logger.configure_eq]
  simp [Logger.create]

theorem configured_chain (factories : HandlerFactories Handler) (config : Config) :
    Chain factories (LogManager.configured factories config) where
  enabled := rfl
  root := rfl
  first := ⟨_, by rw [configured_loggers]; rfl, rfl⟩
  attached i logger there := by
    rw [configured_loggers] at there
    cases i with
    | succ i => simp at there
    | zero =>
        cases Option.some.inj there
        have level : effectiveLevel config [] = (configuredLevel config []).getD levelAll := by
          rw [effectiveLevel, lineage_nil, List.findSome?_cons]
          cases configuredLevel config [] <;> rfl
        exact ⟨level.symm, (fun h => by cases h), rfl, rfl, .inl ⟨rfl, rfl⟩⟩

end GoldenGate.Logging
