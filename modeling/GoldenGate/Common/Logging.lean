import GoldenGate.Lib.Memory
import Mathlib.Logic.Function.Basic

/-! # Logging

The embedding of `gg_logging.c`. Loggers are made when a reference is first used, with those
of its ancestors that the configuration knows. A pointer to a logger is its place in the list
of the manager, where loggers are only added. The lock, memory that runs out and the parsing
of the configuration sources are left out; a configuration is its list of keys and values.
-/

namespace GoldenGate.Logging

open Memory

/-- A C string. -/
abbrev Name := List Char

/-! ## Strings -/

/-- `GG_String_ReverseFindChar`. -/
def reverseFindChar (self : Name) (c : Char) : Option Nat :=
  (List.range self.length).reverse.find? fun i => self[i]? = some c

def isWhitespace (c : Char) : Bool := c = '\r' || c = '\n' || c = '\t' || c = ' '

/-- `GG_String_TrimWhitespace`. -/
def trimWhitespace (self : Name) : Name :=
  ((self.dropWhile isWhitespace).reverse.dropWhile isWhitespace).reverse

/-- What `strtol` skips. -/
def isSpace (c : Char) : Bool := c.toNat = 32 || (9 ≤ c.toNat && c.toNat ≤ 13)

def digitsValue (digits : Name) : Nat :=
  digits.foldl (fun value c => 10 * value + (c.toNat - '0'.toNat)) 0

/-- `GG_String_ToInteger`: all of the string must be a number that fits. -/
def toInteger (self : Name) : Option Int :=
  let (sign, digits) : Int × Name :=
    match self.dropWhile isSpace with
    | '-' :: digits => (-1, digits)
    | '+' :: digits => (1, digits)
    | digits => (1, digits)
  if digits = [] ∨ ¬ digits.all Char.isDigit then none
  else
    let value := sign * digitsValue digits
    if -2 ^ 31 ≤ value ∧ value < 2 ^ 31 then some value else none

/-! ## Levels -/

def levelOff : Int := 32767
def levelAll : Int := 0

/-- `GG_Log_GetLogLevel`. -/
def getLogLevel (name : Name) : Int :=
  if name = "FATAL".toList then 700
  else if name = "SEVERE".toList then 600
  else if name = "WARNING".toList then 500
  else if name = "INFO".toList then 400
  else if name = "FINE".toList then 300
  else if name = "FINER".toList then 200
  else if name = "FINEST".toList then 100
  else if name = "ALL".toList then levelAll
  else if name = "OFF".toList then levelOff
  else -1

/-! ## Configurations -/

/-- `GG_LogConfigEntry`. -/
structure ConfigEntry where
  key : Name
  value : Name
  deriving Repr, DecidableEq

abbrev Config := List ConfigEntry

def levelKey : Name := ".level".toList
def handlersKey : Name := ".handlers".toList
def forwardKey : Name := ".forward".toList

/-- `GG_LogManager_GetConfigValue`. -/
def getConfigValue (config : Config) (key suffix : Name) : Option Name :=
  (config.find? fun entry => entry.key.length = key.length + suffix.length && key.isPrefixOf entry.key &&
    suffix.isSuffixOf entry.key).map ConfigEntry.value

/-- `GG_LogManager_HaveLoggerConfig`. -/
def haveLoggerConfig (config : Config) (name : Name) : Bool :=
  config.any fun entry => name.isPrefixOf entry.key &&
    (entry.key.drop name.length = levelKey || entry.key.drop name.length = handlersKey ||
      entry.key.drop name.length = forwardKey)

/-- `GG_LogManager_ConfigValueIsBooleanFalse`. -/
def configValueIsBooleanFalse (value : Name) : Bool :=
  let upper := value.map Char.toUpper
  upper = "FALSE".toList || upper = "NO".toList || upper = "OFF".toList || upper = "0".toList

/-- The level that the configuration has for a logger, as a name or as a number. -/
def configuredLevel (config : Config) (name : Name) : Option Int := do
  let value ← getConfigValue config name levelKey
  let level := getLogLevel value
  let level := if level < 0 then (toInteger value).getD (-1) else level
  if level ≥ 0 then some level else none

/-- Whether a logger forwards to its parent. -/
def configuredForward (config : Config) (name : Name) : Bool :=
  match getConfigValue config name forwardKey with
  | some value => !configValueIsBooleanFalse value
  | none => true

/-! ## Handlers -/

/-- Where handlers come from; a factory may be missing, and may fail. -/
structure HandlerFactories (Handler : Type) where
  null : Name → Option Handler
  file : Option (Name → Option Handler)
  platform : Option (Name → Name → Option Handler)
  console : Name → Option Handler
  fallback : Option (Name → Name → Option Handler)

variable {Handler : Type}

/-- `GG_LogHandler_Create`. -/
def createHandler (factories : HandlerFactories Handler) (loggerName handlerName : Name) : Option Handler :=
  if handlerName = "NullHandler".toList then factories.null loggerName
  else match factories.file, decide (handlerName = "FileHandler".toList) with
  | some create, true => create loggerName
  | _, _ =>
      if handlerName = "PlatformHandler".toList then
        factories.platform.bind fun create => create "PlatformHandler".toList loggerName
      else if handlerName = "ConsoleHandler".toList then factories.console loggerName
      else factories.fallback.bind fun create => create handlerName loggerName

/-- The handlers of a logger. `GG_Logger_AddHandler` puts each in front of the others. -/
def configuredHandlers (factories : HandlerFactories Handler) (config : Config) (name : Name) : List Handler :=
  match getConfigValue config name handlersKey with
  | none => []
  | some handlers =>
      ((handlers.splitOn ',').filter (· ≠ [])).foldl
        (fun handlers handlerName =>
          match createHandler factories name (trimWhitespace handlerName) with
          | some handler => handler :: handlers
          | none => handlers)
        []

/-! ## Loggers -/

/-- `GG_Logger`. -/
structure Logger (Handler : Type) where
  name : Name
  level : Int
  levelIsInherited : Bool
  forwardToParent : Bool
  parent : Option Nat
  handlers : List Handler

/-- `GG_Logger_Create`. -/
def Logger.create (name : Name) : Logger Handler := ⟨name, levelOff, true, true, none, []⟩

/-- `GG_LogManager_ConfigureLogger`. -/
def Logger.configure (factories : HandlerFactories Handler) (config : Config) (self : Logger Handler) :
    Logger Handler :=
  let self :=
    match configuredLevel config self.name with
    | some level => { self with level := level, levelIsInherited := false }
    | none => self
  { self with
    handlers := configuredHandlers factories config self.name ++ self.handlers
    forwardToParent := self.forwardToParent && configuredForward config self.name }

/-- `GG_LoggerReference`. Its memory holds a logger of the manager, or still what
    `GG_DEFINE_LOGGER` has put there: level 0, and a list of handlers without links. -/
structure LoggerReference where
  name : Name
  initialized : Bool
  logger : Option Nat
  deriving Repr, DecidableEq

/-- `GG_LogManager`. -/
structure LogManager (Handler : Type) where
  config : Config
  loggers : List (Logger Handler)
  root : Nat
  disabled : Bool

/-- The values that the name of the parent takes: cut at the last dot, again and again. -/
def parentNamesFrom : Nat → Name → List Name
  | 0, _ => []
  | fuel + 1, name =>
      match reverseFindChar name '.' with
      | none => []
      | some dot => name.take dot :: parentNamesFrom fuel (name.take dot)

def parentNames (name : Name) : List Name := parentNamesFrom name.length name

namespace LogManager

/-- `GG_LogManager_FindLogger`. -/
def findLogger (self : LogManager Handler) (name : Name) : Option Nat :=
  self.loggers.findIdx? fun logger => logger.name = name

/-- The loop of `GG_Logger_SetParent`: the level of the first ancestor with its own. -/
def ownLevel (self : LogManager Handler) : Nat → Nat → Access Int
  | 0, _ => .error .diverges
  | fuel + 1, logger =>
      match self.loggers[logger]? with
      | none => .error .undefined
      | some logger =>
          match logger.levelIsInherited, logger.parent with
          | true, some parent => ownLevel self fuel parent
          | _, _ => .ok logger.level

/-- `GG_Logger_SetParent`, on a logger that is not in the list yet. -/
def setParent (self : LogManager Handler) (logger : Logger Handler) (parent : Nat) : Access (Logger Handler) := do
  let logger := { logger with parent := some parent }
  if logger.levelIsInherited then
    let level ← self.ownLevel (self.loggers.length + 1) parent
    return { logger with level := level }
  else return logger

/-- The end of `GG_LogManager_GetLogger`: the logger goes to its parent and into the list. -/
def addLogger (factories : HandlerFactories Handler) (self : LogManager Handler) (name : Name) (parent : Nat) :
    Access (LogManager Handler × Nat) := do
  let logger ← self.setParent ((Logger.create name).configure factories self.config) parent
  return ({ self with loggers := self.loggers ++ [logger] }, self.loggers.length)

/-- The search for a parent in `GG_LogManager_GetLogger`. A name with a configuration gets a
    logger by a call of `GG_LogManager_GetLogger`, which searches among the other names. -/
def findParent (factories : HandlerFactories Handler) (self : LogManager Handler) :
    List Name → Access (LogManager Handler × Nat)
  | [] => .ok (self, self.root)
  | parentName :: rest =>
      match self.findLogger parentName with
      | some candidateParent => .ok (self, candidateParent)
      | none =>
          if haveLoggerConfig self.config parentName then do
            let (self, parent) ← findParent factories self rest
            self.addLogger factories parentName parent
          else findParent factories self rest

/-- `GG_LogManager_GetLogger`, with the memory of a reference: the logger, and whether it is
    in that memory. -/
def getLogger (factories : HandlerFactories Handler) (self : LogManager Handler) (name : Name) :
    Access (LogManager Handler × Option (Nat × Bool)) :=
  if self.disabled then .ok (self, none)
  else
    match self.findLogger name with
    | some logger => .ok (self, some (logger, false))
    | none => do
        let (self, parent) ← self.findParent factories (parentNames name)
        let (self, logger) ← self.addLogger factories name parent
        return (self, some (logger, true))

/-- `GG_Logger_DispatchRecord`: the handlers that the record comes to, in order. -/
def dispatchRecord (self : LogManager Handler) : Nat → Option Nat → Access (List Handler)
  | _, none => .ok []
  | 0, some _ => .error .diverges
  | fuel + 1, some logger =>
      match self.loggers[logger]? with
      | none => .error .undefined
      | some logger =>
          if logger.forwardToParent then do
            let rest ← dispatchRecord self fuel logger.parent
            return logger.handlers ++ rest
          else .ok logger.handlers

/-- The manager after `GG_LogManager_Configure`, with its root logger. -/
def configured (factories : HandlerFactories Handler) (config : Config) : LogManager Handler where
  config := config
  loggers := [{ (Logger.create []) with level := levelAll, levelIsInherited := false }.configure factories config]
  root := 0
  disabled := false

end LogManager

/-! ## Logging through a reference -/

inductive MessageType where
  | string
  | object
  deriving Repr, DecidableEq

variable {ι : Type} [DecidableEq ι]

/-- The manager, and all the logger references of the program. -/
structure LogState (ι Handler : Type) where
  manager : LogManager Handler
  references : ι → LoggerReference

/-- One use of a reference: `GG_LOG_STRING` or `GG_LOG_OBJECT`. -/
structure Use (ι : Type) where
  reference : ι
  level : Int
  message : MessageType
  deriving Repr, DecidableEq

namespace LogState

/-- After `GG_LogManager_Configure`, which resets the references. -/
def configured (factories : HandlerFactories Handler) (config : Config) (names : ι → Name) : LogState ι Handler where
  manager := .configured factories config
  references i := ⟨names i, false, none⟩

/-- The level in the memory of a reference. -/
def level (self : LogState ι Handler) (reference : ι) : Int :=
  match (self.references reference).logger.bind (self.manager.loggers[·]?) with
  | some logger => logger.level
  | none => 0

/-- `GG_LoggerReference_Prepare`. -/
def prepare (factories : HandlerFactories Handler) (self : LogState ι Handler) (reference : ι) :
    Access (LogState ι Handler) := do
  let ref := self.references reference
  if ref.initialized then return self
  else
    let (manager, logger) ← self.manager.getLogger factories ref.name
    match logger with
    | none => return { self with manager := manager }
    | some (logger, here) =>
        let ref := { ref with initialized := true, logger := if here then some logger else none }
        return { self with manager := manager, references := Function.update self.references reference ref }

/-- `GG_Logger_DispatchRecord` for the memory of a reference. The list of handlers that
    `GG_DEFINE_LOGGER` puts there has no links to follow. -/
def dispatch (self : LogState ι Handler) (reference : ι) : Access (List Handler) :=
  match (self.references reference).logger with
  | some logger => self.manager.dispatchRecord (self.manager.loggers.length + 1) (some logger)
  | none => .error .outOfBounds

/-- `GG_LoggerReference_LogString`. -/
def logString (factories : HandlerFactories Handler) (self : LogState ι Handler) (reference : ι) (level : Int) :
    Access (LogState ι Handler × List Handler) := do
  if self.manager.disabled then return (self, [])
  else
    let self ← self.prepare factories reference
    if !(self.references reference).initialized then return (self, [])
    else if level < self.level reference then return (self, [])
    else
      let handlers ← self.dispatch reference
      return (self, handlers)

/-- `GG_LoggerReference_LogObject`, which does not look at the level again. -/
def logObject (factories : HandlerFactories Handler) (self : LogState ι Handler) (reference : ι) :
    Access (LogState ι Handler × List Handler) := do
  let self ← self.prepare factories reference
  if !(self.references reference).initialized then return (self, [])
  else
    let handlers ← self.dispatch reference
    return (self, handlers)

/-- The macros look at the level first. -/
def log (factories : HandlerFactories Handler) (self : LogState ι Handler) (use : Use ι) :
    Access (LogState ι Handler × List Handler) :=
  if use.level ≥ self.level use.reference then
    match use.message with
    | .string => self.logString factories use.reference use.level
    | .object => self.logObject factories use.reference
  else .ok (self, [])

/-- One use after the other, with the handlers that each comes to. -/
def run (factories : HandlerFactories Handler) (self : LogState ι Handler) :
    List (Use ι) → Access (LogState ι Handler × List (List Handler))
  | [] => .ok (self, [])
  | use :: uses => do
      let (self, handlers) ← self.log factories use
      let (self, rest) ← self.run factories uses
      return (self, handlers :: rest)

end LogState

end GoldenGate.Logging
