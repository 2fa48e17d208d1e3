import GoldenGate.Common.LoggerConfiguration

/-! # Logging through references, in any order

A reference that is first used when the manager has a logger of its name gets nothing into
its memory, and is marked as initialized: the next record is dispatched to a list of handlers
without links. An object is dispatched without a look at the level that the first use has just
found. Uses that do neither reach the handlers that the configuration says, in any order; the
others fault or reach handlers that they must not.
-/

namespace GoldenGate.Logging

open Memory

variable {ι Handler : Type} {factories : HandlerFactories Handler} {config : Config}
  {names : ι → Name}

/-- The references that are initialized have a logger of their name in their memory. -/
structure Ready (factories : HandlerFactories Handler) (config : Config) (names : ι → Name)
    (state : LogState ι Handler) : Prop where
  chain : Chain factories state.manager
  config : state.manager.config = config
  name : ∀ reference, (state.references reference).name = names reference
  idle : ∀ reference, (state.references reference).initialized = false → (state.references reference).logger = none
  prepared : ∀ reference, (state.references reference).initialized = true →
    ∃ i logger, (state.references reference).logger = some i ∧ state.manager.loggers[i]? = some logger ∧
      logger.name = names reference

/-- No logger has the name of a reference before its first use, and when that use is of an
    object, it is not below the level, or there is no handler for it. -/
def Permits (factories : HandlerFactories Handler) (state : LogState ι Handler) (use : Use ι) : Prop :=
  let reference := state.references use.reference
  use.level < 0 ∨ reference.initialized = true ∨
    state.manager.findLogger reference.name = none ∧
      (use.message = .object → effectiveLevel state.manager.config reference.name ≤ use.level ∨
        reached factories state.manager.config (lineage reference.name) = [])

/-- Every use of the run is permitted where it comes. -/
def Permitted [DecidableEq ι] (factories : HandlerFactories Handler) (state : LogState ι Handler) : List (Use ι) → Prop
  | [] => True
  | use :: uses =>
      Permits factories state use ∧
        ∀ state' handlers, state.log factories use = .ok (state', handlers) → Permitted factories state' uses

/-- What the configuration says for a use. -/
def expectedFor (factories : HandlerFactories Handler) (config : Config) (names : ι → Name) (use : Use ι) :
    List Handler :=
  expected factories config (names use.reference) use.level

theorem configured_ready (factories : HandlerFactories Handler) (config : Config) (names : ι → Name) :
    Ready factories config names (LogState.configured factories config names) where
  chain := configured_chain factories config
  config := rfl
  name _ := rfl
  idle _ _ := rfl
  prepared _ h := by cases h

section Ready

variable {state : LogState ι Handler} (ready : Ready factories config names state)
include ready

theorem Ready.level_idle {reference : ι} (idle : (state.references reference).initialized = false) :
    state.level reference = 0 := by
  rw [LogState.level, ready.idle reference idle]
  rfl

theorem Ready.level_prepared {reference : ι} (prepared : (state.references reference).initialized = true) :
    state.level reference = effectiveLevel config (names reference) := by
  obtain ⟨i, logger, link, there, named⟩ := ready.prepared reference prepared
  rw [LogState.level, link, Option.bind_some, there]
  dsimp only
  rw [(ready.chain.attached i logger there).level, ready.config, named]

theorem Ready.level_nonneg (reference : ι) : 0 ≤ state.level reference := by
  cases initialized : (state.references reference).initialized with
  | false => exact (ready.level_idle initialized).ge
  | true =>
      rw [ready.level_prepared initialized]
      exact effectiveLevel_nonneg (names reference)

theorem Ready.dispatch_prepared {reference : ι} (prepared : (state.references reference).initialized = true) :
    state.dispatch reference = .ok (reached factories config (lineage (names reference))) := by
  obtain ⟨i, logger, link, there, named⟩ := ready.prepared reference prepared
  have inside := (List.getElem?_eq_some_iff.mp there).1
  rw [LogState.dispatch, link]
  dsimp only
  rw [dispatchRecord_ok ready.chain _ i logger there (by omega), ready.config, named]

variable [DecidableEq ι]

/-- A first use with no logger of the name. -/
theorem Ready.prepare_fresh {reference : ι} (idle : (state.references reference).initialized = false)
    (fresh : state.manager.findLogger (state.references reference).name = none) :
    ∃ state', state.prepare factories reference = .ok state' ∧ Ready factories config names state' ∧
      (state'.references reference).initialized = true := by
  obtain ⟨manager', i, logger, found, chain, extends_, there, named⟩ := getLogger_ok ready.chain fresh
  refine ⟨⟨manager', Function.update state.references reference
    { state.references reference with initialized := true, logger := some i }⟩, ?_, ⟨chain, ?_, ?_, ?_, ?_⟩, ?_⟩
  · rw [LogState.prepare]
    dsimp only
    rw [if_neg (by simp [idle]), found]
    rfl
  · exact extends_.config.trans ready.config
  · intro other
    by_cases same : other = reference
    · rw [same]
      simpa using ready.name reference
    · simpa [same] using ready.name other
  · intro other idle'
    by_cases same : other = reference
    · rw [same] at idle'
      simp at idle'
    · simp only [Function.update_of_ne same] at idle' ⊢
      exact ready.idle other idle'
  · intro other prepared
    by_cases same : other = reference
    · rw [same]
      exact ⟨i, logger, by simp, there, by rw [named, ready.name]⟩
    · simp only [Function.update_of_ne same] at prepared ⊢
      obtain ⟨j, logger', link, there', named'⟩ := ready.prepared other prepared
      exact ⟨j, logger', link, extends_.loggers j logger' there', named'⟩
  · simp

/-- A first use when there is a logger of the name leaves the memory as it was. -/
theorem Ready.prepare_shared {reference : ι} (idle : (state.references reference).initialized = false) {i : Nat}
    (found : state.manager.findLogger (state.references reference).name = some i) :
    ∃ state', state.prepare factories reference = .ok state' ∧
      (state'.references reference).initialized = true ∧ (state'.references reference).logger = none := by
  refine ⟨⟨state.manager, Function.update state.references reference
    { state.references reference with initialized := true, logger := none }⟩, ?_, by simp, by simp⟩
  rw [LogState.prepare]
  dsimp only
  rw [if_neg (by simp [idle]), getLogger_found ready.chain found]
  rfl

end Ready

variable [DecidableEq ι]

/-- The macros do not go on below the level in the memory of the reference. -/
theorem log_below {state : LogState ι Handler} {use : Use ι} (below : use.level < state.level use.reference) :
    state.log factories use = .ok (state, []) := by
  rw [LogState.log, if_neg (by omega)]

/-- Once the reference is initialized, only strings are looked at again. -/
theorem log_eq {state state' : LogState ι Handler} {use : Use ι} (enabled : state.manager.disabled = false)
    (passes : state.level use.reference ≤ use.level) (prepare : state.prepare factories use.reference = .ok state')
    (initialized : (state'.references use.reference).initialized = true) :
    state.log factories use =
      if use.message = .string ∧ use.level < state'.level use.reference then .ok (state', [])
      else do
        let handlers ← state'.dispatch use.reference
        return (state', handlers) := by
  rw [LogState.log, if_pos passes]
  cases message : use.message with
  | string => simp [LogState.logString, enabled, prepare, initialized]
  | object => simp [LogState.logObject, prepare, initialized]

section Ready

variable {state : LogState ι Handler} (ready : Ready factories config names state) {use : Use ι}
include ready

theorem Ready.log_prepared (prepared : (state.references use.reference).initialized = true) :
    state.log factories use = .ok (state, expectedFor factories config names use) := by
  have level := ready.level_prepared prepared
  rw [expectedFor, expected]
  by_cases below : use.level < effectiveLevel config (names use.reference)
  · rw [log_below (by omega), if_pos below]
  · have prepare : state.prepare factories use.reference = .ok state := by
      rw [LogState.prepare]
      dsimp only
      rw [if_pos prepared]
      rfl
    rw [log_eq ready.chain.enabled (by omega) prepare prepared, if_neg (by omega), if_neg below,
      ready.dispatch_prepared prepared]
    rfl

/-- A use that is permitted reaches what the configuration says. -/
theorem Ready.log_permitted (permits : Permits factories state use) :
    ∃ state', state.log factories use = .ok (state', expectedFor factories config names use) ∧
      Ready factories config names state' := by
  by_cases negative : use.level < 0
  · have below : use.level < effectiveLevel config (names use.reference) :=
      lt_of_lt_of_le negative (effectiveLevel_nonneg (names use.reference))
    refine ⟨state, ?_, ready⟩
    rw [log_below (lt_of_lt_of_le negative (ready.level_nonneg use.reference)), expectedFor, expected, if_pos below]
  cases initialized : (state.references use.reference).initialized with
  | true => exact ⟨state, ready.log_prepared initialized, ready⟩
  | false =>
      obtain ⟨fresh, object⟩ := (permits.resolve_left negative).resolve_left (by simp [initialized])
      obtain ⟨state', prepare, ready', prepared⟩ := ready.prepare_fresh initialized fresh
      rw [ready.config, ready.name] at object
      have level := ready'.level_prepared prepared
      refine ⟨state', ?_, ready'⟩
      rw [log_eq ready.chain.enabled (by rw [ready.level_idle initialized]; omega) prepare prepared, level,
        ready'.dispatch_prepared prepared, expectedFor, expected]
      by_cases below : use.level < effectiveLevel config (names use.reference)
      · rw [if_pos below]
        cases message : use.message with
        | string => rw [if_pos ⟨rfl, below⟩]
        | object =>
            rw [if_neg (by simp), (object message).resolve_left (by omega)]
            rfl
      · rw [if_neg below, if_neg (by tauto)]
        rfl

/-- A use that is not permitted does not. -/
theorem Ready.log_not_permitted (forbidden : ¬ Permits factories state use) (state' : LogState ι Handler) :
    state.log factories use ≠ .ok (state', expectedFor factories config names use) := by
  rw [Permits] at forbidden
  push Not at forbidden
  obtain ⟨nonneg, idle, object⟩ := forbidden
  have idle : (state.references use.reference).initialized = false := by simpa using idle
  have passes : state.level use.reference ≤ use.level := by rw [ready.level_idle idle]; omega
  intro h
  cases found : state.manager.findLogger (state.references use.reference).name with
  | some i =>
      obtain ⟨shared, prepare, initialized, nothing⟩ := ready.prepare_shared idle found
      have level : shared.level use.reference = 0 := by rw [LogState.level, nothing]; rfl
      rw [log_eq ready.chain.enabled passes prepare initialized, level, if_neg (by omega), LogState.dispatch,
        nothing] at h
      cases h
  | none =>
      obtain ⟨message, below, some_⟩ := object found
      obtain ⟨prepared_, prepare, ready', initialized⟩ := ready.prepare_fresh idle found
      rw [ready.config, ready.name] at below some_
      rw [log_eq ready.chain.enabled passes prepare initialized, message, if_neg (by simp),
        ready'.dispatch_prepared initialized, expectedFor, expected, if_pos below] at h
      exact some_ (congrArg Prod.snd (Except.ok.inj h))

/-- The run lemma. -/
theorem Ready.run_expected_iff (uses : List (Use ι)) :
    (∃ state', state.run factories uses = .ok (state', uses.map (expectedFor factories config names))) ↔
      Permitted factories state uses := by
  induction uses generalizing state with
  | nil => exact ⟨fun _ => trivial, fun _ => ⟨state, rfl⟩⟩
  | cons use uses ih =>
      constructor
      · rintro ⟨state', run⟩
        obtain ⟨⟨next, handlers⟩, log, run⟩ := bind_ok run
        obtain ⟨⟨last, rest⟩, after, run⟩ := bind_ok run
        obtain ⟨-, outputs⟩ := Prod.mk.inj (Except.ok.inj run)
        obtain ⟨rfl, rfl⟩ := List.cons.inj outputs
        have permits : Permits factories state use := by
          by_contra forbidden
          exact ready.log_not_permitted forbidden next log
        obtain ⟨next', log', ready'⟩ := ready.log_permitted permits
        rw [log] at log'
        cases log'
        refine ⟨permits, fun other handlers log' => ?_⟩
        rw [log] at log'
        cases log'
        exact (ih ready').mp ⟨last, after⟩
      · rintro ⟨permits, rest⟩
        obtain ⟨next, log, ready'⟩ := ready.log_permitted permits
        obtain ⟨last, after⟩ := (ih ready').mpr (rest next _ log)
        refine ⟨last, ?_⟩
        rw [LogState.run, log, ok_bind]
        dsimp only
        rw [after]
        rfl

end Ready

/-- Every use of a run reaches exactly the handlers that the configuration says for its name,
    in whatever order the references come, when and only when every use is permitted. -/
theorem logging_configured_iff (factories : HandlerFactories Handler) (config : Config) (names : ι → Name)
    (uses : List (Use ι)) :
    (∃ state, (LogState.configured factories config names).run factories uses =
        .ok (state, uses.map (expectedFor factories config names))) ↔
      Permitted factories (LogState.configured factories config names) uses :=
  (configured_ready factories config names).run_expected_iff uses

/-- Handlers that are their own names, with the names of their loggers. -/
def namedFactories : HandlerFactories (Name × Name) where
  null logger := some ("NullHandler".toList, logger)
  file := some fun logger => some ("FileHandler".toList, logger)
  platform := none
  console logger := some ("ConsoleHandler".toList, logger)
  fallback := none

def consoleConfig : Config := [⟨".handlers".toList, "ConsoleHandler".toList⟩, ⟨"gg.level".toList, "INFO".toList⟩]

/-- Two references have the same name. The second that is used has no handlers to follow. -/
theorem same_name_faults :
    ¬ ∀ (config : Config) (names : Bool → Name) (uses : List (Use Bool)),
      ∃ state, (LogState.configured namedFactories config names).run namedFactories uses =
        .ok (state, uses.map (expectedFor namedFactories config names)) := by
  intro h
  obtain ⟨state, run⟩ := h consoleConfig (fun _ => "gg.coap".toList) [⟨false, 500, .string⟩, ⟨true, 500, .string⟩]
  have faults : ((LogState.configured namedFactories consoleConfig fun _ : Bool => "gg.coap".toList).run
      namedFactories [⟨false, 500, .string⟩, ⟨true, 500, .string⟩]).toBool = false := by
    decide +kernel
  rw [run] at faults
  cases faults

/-- An object below the level of its logger reaches the handlers at the first use. -/
example : ((LogState.configured namedFactories consoleConfig fun _ : Unit => "gg.coap".toList).run
      namedFactories [⟨(), 300, .object⟩, ⟨(), 300, .object⟩]).map Prod.snd =
    .ok [[("ConsoleHandler".toList, [])], []] := by
  decide +kernel

end GoldenGate.Logging
