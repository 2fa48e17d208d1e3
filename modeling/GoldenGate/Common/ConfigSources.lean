import GoldenGate.Common.Logging

/-! # The sources of the log configuration

The embedding of the parsing in `gg_logging.c`: sources between bars, and in each of them entries
between line ends and semicolons. Both loops keep where the current piece starts. The one over the
sources does not move on from an empty source, and the next one then starts with the bar and is not
read. Sources in files, which a build option brings in, are left out.
-/

namespace GoldenGate.Logging

/-! ## Setting values -/

/-- The first entry with a key gets another value. -/
def replaceValue (key value : Name) : Config → Config
  | [] => []
  | entry :: rest => if entry.key = key then { entry with value := value } :: rest else entry :: replaceValue key value rest

/-- `GG_LogManager_SetConfigValue`. -/
def setConfigValue (config : Config) (key value : Name) : Config :=
  match getConfigValue config key [] with
  | some _ => replaceValue key value config
  | none => config ++ [⟨key, value⟩]

/-! ## Entries -/

/-- The characters from one place to another, as `GG_String_AssignN` takes them. -/
def slice (text : Name) (start finish : Nat) : Name := (text.drop start).take (finish - start)

/-- What separates entries. -/
def isLineEnd (c : Char) : Bool := c = '\n' || c = '\r' || c = ';'

/-- The end of an entry in `GG_LogManager_ParseConfig`. -/
def endEntry (text : Name) (cursor line : Nat) (separator : Option Nat) (config : Config) : Config :=
  match separator with
  | none => config
  | some separator =>
      if text[line]? = some '#' then config
      else setConfigValue config (trimWhitespace (slice text line separator)) (trimWhitespace (slice text (separator + 1) cursor))

/-- The loop of `GG_LogManager_ParseConfig`, on what is left of the text. -/
def parseConfigFrom (text : Name) : Name → Nat → Nat → Option Nat → Config → Config
  | [], cursor, line, separator, config => endEntry text cursor line separator config
  | c :: rest, cursor, line, separator, config =>
      if isLineEnd c then
        parseConfigFrom text rest (cursor + 1) (cursor + 1) none (endEntry text cursor line separator config)
      else if c = '=' ∧ separator = none then parseConfigFrom text rest (cursor + 1) line (some cursor) config
      else parseConfigFrom text rest (cursor + 1) line separator config

/-- `GG_LogManager_ParseConfig`. -/
def parseConfig (text : Name) (config : Config) : Config := parseConfigFrom text text 0 0 none config

/-! ## Sources -/

def plistPrefix : Name := "plist:".toList

/-- `GG_LogManager_ParseConfigSource`. -/
def parseConfigSource (source : Name) (config : Config) : Config :=
  if plistPrefix.isPrefixOf source then parseConfig (source.drop plistPrefix.length) config else config

/-- The end of a source in `GG_LogManager_Configure`. -/
def endSource (sources : Name) (cursor source : Nat) (config : Config) : Config :=
  parseConfigSource (trimWhitespace (slice sources source cursor)) config

/-- The loop of `GG_LogManager_Configure`, on what is left of the sources. -/
def loadSourcesFrom (sources : Name) : Name → Nat → Nat → Config → Config
  | [], cursor, source, config => if cursor ≠ source then endSource sources cursor source config else config
  | c :: rest, cursor, source, config =>
      if c = '|' then
        if cursor ≠ source then loadSourcesFrom sources rest (cursor + 1) (cursor + 1) (endSource sources cursor source config)
        else loadSourcesFrom sources rest (cursor + 1) source config
      else loadSourcesFrom sources rest (cursor + 1) source config

/-- The value that `GG_LogManager_Configure` starts from. -/
def defaultConfig (hasPlatformHandler : Bool) : Config :=
  [⟨handlersKey, if hasPlatformHandler then "PlatformHandler".toList else "ConsoleHandler".toList⟩]

/-- The configuration after `GG_LogManager_Configure`. -/
def configureSources (hasPlatformHandler : Bool) (sources : Name) : Config :=
  loadSourcesFrom sources sources 0 0 (defaultConfig hasPlatformHandler)

/-! ## What a configuration says -/

/-- The values of keys. -/
abbrev ConfigMap := Name → Option Name

def Config.toMap (config : Config) : ConfigMap := fun key => getConfigValue config key []

/-- A later entry takes the place of an earlier one. -/
def override (map : ConfigMap) (entry : ConfigEntry) : ConfigMap := Function.update map entry.key (some entry.value)

/-- The key before the first '=', and the value after it. A comment is no entry. -/
def entryOf (text : Name) : Option ConfigEntry :=
  if text.head? = some '#' ∨ '=' ∉ text then none
  else some ⟨trimWhitespace (text.takeWhile (· ≠ '=')), trimWhitespace ((text.dropWhile (· ≠ '=')).drop 1)⟩

def entriesOf (text : Name) : List ConfigEntry := (text.splitOnP isLineEnd).filterMap entryOf

/-- The entries of a source. -/
def sourceEntries (source : Name) : List ConfigEntry :=
  if plistPrefix.isPrefixOf (trimWhitespace source) then entriesOf ((trimWhitespace source).drop plistPrefix.length) else []

/-- The default values, overridden by every source in turn. -/
def expectedMap (hasPlatformHandler : Bool) (sources : Name) : ConfigMap :=
  ((sources.splitOn '|').flatMap sourceEntries).foldl override (defaultConfig hasPlatformHandler).toMap

/-! ## Values -/

theorem getConfigValue_key (config : Config) (key : Name) :
    getConfigValue config key [] = (config.find? (·.key = key)).map ConfigEntry.value := by
  unfold getConfigValue
  congr 2
  funext entry
  rw [Bool.eq_iff_iff]
  simp only [List.length_nil, Nat.add_zero, Bool.and_eq_true, decide_eq_true_eq, List.isPrefixOf_iff_prefix,
    List.isSuffixOf_iff_suffix, List.nil_suffix, and_true]
  constructor
  · rintro ⟨length, starts⟩
    exact (starts.eq_of_length length.symm).symm
  · rintro rfl
    exact ⟨rfl, List.prefix_refl _⟩

theorem toMap_cons (entry : ConfigEntry) (config : Config) :
    Config.toMap (entry :: config) = override (Config.toMap config) entry := by
  funext key
  rw [Config.toMap, getConfigValue_key, List.find?_cons, override]
  by_cases same : entry.key = key
  · subst same
    simp
  · rw [decide_eq_false same, Function.update_of_ne (Ne.symm same), Config.toMap, getConfigValue_key]

theorem toMap_replaceValue {key : Name} (value : Name) {config : Config} (some_ : config.toMap key ≠ none) :
    (replaceValue key value config).toMap = override config.toMap ⟨key, value⟩ := by
  induction config with
  | nil => exact absurd rfl some_
  | cons entry rest ih =>
      unfold replaceValue
      split
      case isTrue same =>
          subst same
          rw [toMap_cons, toMap_cons, override, override, override]
          exact (Function.update_idem _ _ _).symm
      case isFalse other =>
          rw [toMap_cons, override, Function.update_of_ne (Ne.symm other)] at some_
          rw [toMap_cons, ih some_, toMap_cons]
          exact Function.update_comm (Ne.symm other) _ _ _

theorem toMap_append {key : Name} (value : Name) {config : Config} (none_ : config.toMap key = none) :
    Config.toMap (config ++ [⟨key, value⟩]) = override config.toMap ⟨key, value⟩ := by
  induction config with
  | nil => exact toMap_cons ⟨key, value⟩ []
  | cons entry rest ih =>
      rw [toMap_cons, override] at none_
      by_cases same : entry.key = key
      · rw [same, Function.update_self] at none_
        cases none_
      · rw [Function.update_of_ne (Ne.symm same)] at none_
        rw [List.cons_append, toMap_cons, ih none_, toMap_cons]
        exact Function.update_comm (Ne.symm same) _ _ _

/-- A value that is set is the value of its key. -/
theorem toMap_setConfigValue (config : Config) (key value : Name) :
    (setConfigValue config key value).toMap = override config.toMap ⟨key, value⟩ := by
  unfold setConfigValue
  cases found : getConfigValue config key [] with
  | none => exact toMap_append value found
  | some old => exact toMap_replaceValue value (by rw [Config.toMap, found]; exact Option.some_ne_none _)

/-! ## The loop over the entries -/

theorem slice_middle (before middle after : Name) :
    slice (before ++ middle ++ after) before.length (before ++ middle).length = middle := by
  rw [slice, List.append_assoc, List.drop_left, List.length_append, Nat.add_sub_cancel_left, List.take_left]

/-- Where the first '=' of a piece is, if any. -/
def SeparatorAt (line : Nat) (piece : Name) : Option Nat → Prop
  | none => '=' ∉ piece
  | some separator => ∃ key value, piece = key ++ '=' :: value ∧ '=' ∉ key ∧ separator = line + key.length

theorem SeparatorAt.snoc {line : Nat} {piece : Name} {separator : Option Nat} (isAt : SeparatorAt line piece separator) (c : Char) :
    SeparatorAt line (piece ++ [c]) (if c = '=' ∧ separator = none then some (line + piece.length) else separator) := by
  cases separator with
  | none =>
      by_cases isSeparator : c = '='
      · rw [if_pos ⟨isSeparator, rfl⟩, isSeparator]
        exact ⟨piece, [], rfl, isAt, rfl⟩
      · rw [if_neg (fun both => isSeparator both.1)]
        simp only [SeparatorAt, List.mem_append, List.mem_singleton, not_or]
        exact ⟨isAt, Ne.symm isSeparator⟩
  | some separator =>
      obtain ⟨key, value, isPiece, plain, isSeparator⟩ := isAt
      rw [if_neg (fun both => nomatch both.2)]
      exact ⟨key, value ++ [c], by rw [isPiece, List.append_assoc]; rfl, plain, isSeparator⟩

theorem entryOf_pair {key value : Name} (plain : '=' ∉ key) :
    entryOf (key ++ '=' :: value) =
      if (key ++ '=' :: value).head? = some '#' then none else some ⟨trimWhitespace key, trimWhitespace value⟩ := by
  have others : ∀ c ∈ key, decide (c ≠ '=') = true := fun c member => decide_eq_true fun same => plain (same ▸ member)
  have inside : '=' ∈ key ++ '=' :: value := List.mem_append_right _ List.mem_cons_self
  unfold entryOf
  rw [List.takeWhile_append_of_pos others, List.dropWhile_append_of_pos others]
  simp [inside]

theorem head_piece (before piece after : Name) (some_ : piece ≠ []) :
    (before ++ piece ++ after)[before.length]? = piece.head? := by
  cases piece with
  | nil => exact absurd rfl some_
  | cons c rest => simp

/-- The end of an entry sets what the entry says. -/
theorem endEntry_eq {before piece after : Name} {separator : Option Nat} (isAt : SeparatorAt before.length piece separator)
    (config : Config) :
    (endEntry (before ++ piece ++ after) (before ++ piece).length before.length separator config).toMap =
      (entryOf piece).toList.foldl override config.toMap := by
  cases separator with
  | none =>
      have none_ : entryOf piece = none := if_pos (.inr isAt)
      rw [none_]
      rfl
  | some separator =>
      obtain ⟨key, value, rfl, plain, rfl⟩ := isAt
      rw [entryOf_pair plain, endEntry]
      rw [head_piece before _ after (by simp)]
      split
      case isTrue => rfl
      case isFalse =>
          have isKey : slice (before ++ (key ++ '=' :: value) ++ after) before.length (before.length + key.length) = key := by
            have middle := slice_middle before key ('=' :: value ++ after)
            have text : before ++ key ++ ('=' :: value ++ after) = before ++ (key ++ '=' :: value) ++ after := by simp
            rw [text, List.length_append] at middle
            exact middle
          have isValue : slice (before ++ (key ++ '=' :: value) ++ after) (before.length + key.length + 1)
              (before ++ (key ++ '=' :: value)).length = value := by
            have middle := slice_middle (before ++ key ++ ['=']) value after
            have start : (before ++ key ++ ['=']).length = before.length + key.length + 1 := by
              simp only [List.length_append, List.length_singleton]
            have text : before ++ key ++ ['='] ++ value = before ++ (key ++ '=' :: value) := by simp
            rw [text, start] at middle
            exact middle
          rw [toMap_setConfigValue, isKey, isValue]
          rfl

/-- The loop sets the entries that are left, the one that it is in included. -/
theorem parseConfigFrom_eq (rest : Name) {before piece : Name} {separator : Option Nat}
    (plain : ∀ c ∈ piece, isLineEnd c = false) (isAt : SeparatorAt before.length piece separator) (config : Config) :
    (parseConfigFrom (before ++ piece ++ rest) rest (before ++ piece).length before.length separator config).toMap =
      (entriesOf (piece ++ rest)).foldl override config.toMap := by
  induction rest generalizing before piece separator config with
  | nil =>
      rw [parseConfigFrom, endEntry_eq isAt, entriesOf, List.append_nil, List.splitOnP_eq_singleton plain, List.filterMap_cons]
      cases entryOf piece <;> rfl
  | cons c rest ih =>
      have text : before ++ piece ++ c :: rest = before ++ (piece ++ [c]) ++ rest := by simp
      have cursor : (before ++ piece).length + 1 = (before ++ (piece ++ [c])).length := by
        simp only [List.length_append, List.length_singleton]
        omega
      rw [parseConfigFrom]
      split
      case isTrue isEnd =>
          -- the next entry starts behind this character
          have next := @ih (before ++ (piece ++ [c])) [] none (fun _ member => nomatch member) (fun member => nomatch member)
            (endEntry (before ++ piece ++ c :: rest) (before ++ piece).length before.length separator config)
          rw [List.append_nil, ← text, ← cursor] at next
          rw [next, endEntry_eq isAt, List.nil_append, entriesOf, entriesOf,
            List.splitOnP_append_cons_of_forall_mem plain c isEnd, List.filterMap_cons]
          cases entryOf piece <;> rfl
      case isFalse notEnd =>
          have plain' : ∀ other ∈ piece ++ [c], isLineEnd other = false := by
            intro other member
            rcases List.mem_append.mp member with old | new
            · exact plain other old
            · rw [List.mem_singleton.mp new]
              exact Bool.eq_false_of_not_eq_true notEnd
          have next := ih plain' (isAt.snoc c) config
          rw [← text, ← cursor, List.append_assoc piece, List.singleton_append, ← List.length_append] at next
          rw [← next]
          split <;> rfl

theorem parseConfig_eq (text : Name) (config : Config) :
    (parseConfig text config).toMap = (entriesOf text).foldl override config.toMap :=
  @parseConfigFrom_eq text [] [] none (fun _ member => nomatch member) (fun member => nomatch member) config

theorem parseConfigSource_eq (source : Name) (config : Config) :
    (parseConfigSource (trimWhitespace source) config).toMap = (sourceEntries source).foldl override config.toMap := by
  unfold parseConfigSource sourceEntries
  split
  case isTrue => exact parseConfig_eq _ config
  case isFalse => rfl

/-! ## The loop over the sources -/

/-- The sources, and which of them are read: an empty one takes the next one with it. -/
def markSources : List Name → List (Bool × Name)
  | [] => []
  | [[]] => []
  | [] :: lost :: rest => (false, lost) :: markSources rest
  | source :: rest => (true, source) :: markSources rest

/-- The entries of the sources that are read. -/
def readEntries (sources : List Name) : List ConfigEntry :=
  ((markSources sources).filter (·.1)).flatMap fun source => sourceEntries source.2

theorem readEntries_empty (lost : Name) (rest : List Name) : readEntries ([] :: lost :: rest) = readEntries rest := rfl

theorem readEntries_cons {source : Name} (some_ : source ≠ []) (rest : List Name) :
    readEntries (source :: rest) = sourceEntries source ++ readEntries rest := by
  cases source with
  | nil => exact absurd rfl some_
  | cons c source => rfl

theorem plistPrefix_eq : plistPrefix = 'p' :: ['l', 'i', 's', 't', ':'] := rfl

/-- A source that starts with a bar is not read. -/
theorem parseConfigSource_bar (source : Name) (config : Config) :
    parseConfigSource (trimWhitespace ('|' :: source)) config = config := by
  have starts : trimWhitespace ('|' :: source) = '|' :: (source.reverse.dropWhile isWhitespace).reverse := by
    have kept : ['|'].dropWhile isWhitespace = ['|'] := rfl
    rw [trimWhitespace, show ('|' :: source).dropWhile isWhitespace = '|' :: source from rfl, List.reverse_cons,
      List.dropWhile_append, kept]
    split
    case isTrue all =>
        rw [List.isEmpty_iff.mp all]
        rfl
    case isFalse => rw [List.reverse_append, List.reverse_singleton, List.singleton_append]
  rw [parseConfigSource, starts, plistPrefix_eq, if_neg (by simp)]

theorem length_append_ne (before : Name) {piece : Name} (some_ : piece ≠ []) : (before ++ piece).length ≠ before.length := by
  have positive := List.length_pos_iff.mpr some_
  rw [List.length_append]
  omega

/-- The loop reads the sources that are left, the one that it is in included. Behind an empty one, that
    starts at the bar. -/
theorem loadSourcesFrom_eq (rest : Name) {before source : Name} (plain : '|' ∉ source) (config : Config) :
    (loadSourcesFrom (before ++ source ++ rest) rest (before ++ source).length before.length config).toMap =
        (readEntries ((source ++ rest).splitOn '|')).foldl override config.toMap ∧
      (loadSourcesFrom (before ++ ('|' :: source) ++ rest) rest (before ++ ('|' :: source)).length before.length config).toMap =
        (readEntries ((source ++ rest).splitOn '|').tail).foldl override config.toMap := by
  induction rest generalizing before source config with
  | nil =>
      rw [List.append_nil source, List.splitOn_eq_singleton plain, loadSourcesFrom, loadSourcesFrom,
        if_pos (length_append_ne before (List.cons_ne_nil '|' source)), endSource, endSource, slice_middle, slice_middle,
        parseConfigSource_bar]
      refine ⟨?_, rfl⟩
      cases source with
      | nil =>
          rw [List.append_nil, if_neg (not_not.mpr rfl)]
          rfl
      | cons c source =>
          rw [if_pos (length_append_ne before (List.cons_ne_nil _ _)), parseConfigSource_eq, readEntries_cons (List.cons_ne_nil _ _)]
          simp [readEntries, markSources]
  | cons c rest ih =>
      have text (piece : Name) : before ++ piece ++ c :: rest = before ++ (piece ++ [c]) ++ rest := by simp
      have cursor (piece : Name) : (before ++ piece).length + 1 = (before ++ (piece ++ [c])).length := by
        simp only [List.length_append, List.length_singleton]
        omega
      rw [loadSourcesFrom, loadSourcesFrom]
      by_cases isBar : c = '|'
      · subst isBar
        rw [if_pos rfl, if_pos rfl, List.splitOn_append_cons_self_of_not_mem plain,
          if_pos (length_append_ne before (List.cons_ne_nil '|' source)), endSource, endSource, slice_middle, slice_middle,
          parseConfigSource_bar, List.tail_cons]
        -- the next source starts behind this bar
        have next (piece : Name) (config : Config) := (@ih (before ++ (piece ++ ['|'])) [] (fun member => nomatch member) config).1
        simp only [List.append_nil, ← text, ← cursor, List.nil_append] at next
        refine ⟨?_, next ('|' :: source) config⟩
        cases source with
        | nil =>
            -- the start stays at the bar, and the next source is lost
            have lost := (@ih before [] (fun member => nomatch member) config).2
            rw [List.nil_append] at lost
            rw [List.append_nil, if_neg (not_not.mpr rfl)]
            cases pieces : rest.splitOn '|' with
            | nil => exact absurd pieces (List.splitOn_ne_nil '|' rest)
            | cons first others =>
                rw [pieces] at lost
                have isText := text []
                have isCursor := cursor []
                rw [List.append_nil, List.nil_append] at isText isCursor
                rw [isText, isCursor, readEntries_empty]
                exact lost
        | cons first source =>
            rw [if_pos (length_append_ne before (List.cons_ne_nil _ _)), next, parseConfigSource_eq,
              readEntries_cons (List.cons_ne_nil _ _), List.foldl_append]
      · rw [if_neg isBar, if_neg isBar]
        have plain' : '|' ∉ source ++ [c] := by
          simp only [List.mem_append, List.mem_singleton, not_or]
          exact ⟨plain, Ne.symm isBar⟩
        have next := @ih before (source ++ [c]) plain' config
        rw [← text, ← cursor, ← List.cons_append, ← text, ← cursor, List.append_assoc source, List.singleton_append] at next
        exact next

theorem configureSources_eq (hasPlatformHandler : Bool) (sources : Name) :
    (configureSources hasPlatformHandler sources).toMap =
      (readEntries (sources.splitOn '|')).foldl override (defaultConfig hasPlatformHandler).toMap :=
  (@loadSourcesFrom_eq sources [] [] (fun member => nomatch member) (defaultConfig hasPlatformHandler)).1

/-! ## What is lost -/

/-- The entries of all sources, and which of them are in one that is read. -/
def markedEntries (sources : List Name) : List (Bool × ConfigEntry) :=
  (markSources sources).flatMap fun source => (sourceEntries source.2).map fun entry => (source.1, entry)

def overrideMarked (map : Name → Option (Bool × Name)) (entry : Bool × ConfigEntry) : Name → Option (Bool × Name) :=
  Function.update map entry.2.key (some (entry.1, entry.2.value))

/-- The last value of each key in all sources, and whether it is in one that is read. -/
def lastMarked (sources : List Name) : Name → Option (Bool × Name) :=
  (markedEntries sources).foldl overrideMarked fun _ => none

/-- What the sources that are read say. -/
def readMap (hasPlatformHandler : Bool) (sources : List Name) : ConfigMap :=
  (readEntries sources).foldl override (defaultConfig hasPlatformHandler).toMap

/-- Every value that is lost is set again by a later source, or is the one that the key has anyway. -/
def NothingLost (hasPlatformHandler : Bool) (sources : List Name) : Prop :=
  ∀ key value, lastMarked sources key = some (false, value) → readMap hasPlatformHandler sources key = some value

theorem sourceEntries_nil : sourceEntries [] = [] := rfl

theorem markedEntries_lost (lost : Name) (rest : List Name) :
    markedEntries ([] :: lost :: rest) = (sourceEntries lost).map (fun entry => (false, entry)) ++ markedEntries rest := rfl

theorem markedEntries_cons {source : Name} (some_ : source ≠ []) (rest : List Name) :
    markedEntries (source :: rest) = (sourceEntries source).map (fun entry => (true, entry)) ++ markedEntries rest := by
  cases source with
  | nil => exact absurd rfl some_
  | cons c source => rfl

/-- All entries are marked, and those that are read are marked so. -/
theorem markedEntries_spec (sources : List Name) :
    (markedEntries sources).map (·.2) = sources.flatMap sourceEntries ∧
      ((markedEntries sources).filter (·.1)).map (·.2) = readEntries sources := by
  induction sources using markSources.induct with
  | case1 => exact ⟨rfl, rfl⟩
  | case2 => exact ⟨rfl, rfl⟩
  | case3 lost rest ih =>
      rw [markedEntries_lost, readEntries_empty]
      simp [ih, sourceEntries_nil, List.filter_map, Function.comp_def]
  | case4 source rest notLast notFirst ih =>
      have some_ : source ≠ [] := by
        rintro rfl
        cases rest with
        | nil => exact notLast rfl rfl
        | cons lost others => exact notFirst lost others rfl rfl
      rw [markedEntries_cons some_, readEntries_cons some_]
      simp [ih, List.filter_map, Function.comp_def]

/-- A key has the last value that is read, and when no value is lost after it, that is the last one. -/
structure Agrees (start : ConfigMap) (marked : Name → Option (Bool × Name)) (all read : ConfigMap) : Prop where
  none : ∀ key, marked key = none → all key = start key ∧ read key = start key
  kept : ∀ key value, marked key = some (true, value) → all key = some value ∧ read key = some value
  lost : ∀ key value, marked key = some (false, value) → all key = some value

/-- One more entry, that is read or lost. -/
theorem Agrees.entry {start all read : ConfigMap} {marked : Name → Option (Bool × Name)} (agrees : Agrees start marked all read)
    (isRead : Bool) (entry : ConfigEntry) :
    Agrees start (overrideMarked marked (isRead, entry)) (override all entry) (if isRead then override read entry else read) where
  none := by
    intro key none_
    have other : key ≠ entry.key := by
      rintro rfl
      simp [overrideMarked] at none_
    rw [overrideMarked, Function.update_of_ne other] at none_
    cases isRead <;> simp [override, other, agrees.none key none_]
  kept := by
    intro key value kept
    by_cases same : key = entry.key
    · subst same
      rw [overrideMarked, Function.update_self, Option.some.injEq, Prod.mk.injEq] at kept
      obtain ⟨rfl, rfl⟩ := kept
      simp [override]
    · rw [overrideMarked, Function.update_of_ne same] at kept
      cases isRead <;> simp [override, same, agrees.kept key value kept]
  lost := by
    intro key value lost
    by_cases same : key = entry.key
    · subst same
      rw [overrideMarked, Function.update_self, Option.some.injEq, Prod.mk.injEq] at lost
      rw [override, Function.update_self, ← lost.2]
    · rw [overrideMarked, Function.update_of_ne same] at lost
      simp [override, same, agrees.lost key value lost]

theorem Agrees.foldl {start all read : ConfigMap} {marked : Name → Option (Bool × Name)} (agrees : Agrees start marked all read)
    (entries : List (Bool × ConfigEntry)) :
    Agrees start (entries.foldl overrideMarked marked) ((entries.map (·.2)).foldl override all)
      (((entries.filter (·.1)).map (·.2)).foldl override read) := by
  induction entries generalizing marked all read with
  | nil => exact agrees
  | cons entry rest ih =>
      obtain ⟨isRead, entry⟩ := entry
      have next := ih (agrees.entry isRead entry)
      cases isRead <;> exact next

/-- The configuration is what the default values and the sources say exactly when every value that an empty
    source takes from the one behind it is set again by a later source, or is the one that the key has anyway. -/
theorem configureSources_expected_iff (hasPlatformHandler : Bool) (sources : Name) :
    (configureSources hasPlatformHandler sources).toMap = expectedMap hasPlatformHandler sources ↔
      NothingLost hasPlatformHandler (sources.splitOn '|') := by
  obtain ⟨all, read⟩ := markedEntries_spec (sources.splitOn '|')
  have start : Agrees (defaultConfig hasPlatformHandler).toMap (fun _ => none) (defaultConfig hasPlatformHandler).toMap
      (defaultConfig hasPlatformHandler).toMap :=
    ⟨fun _ _ => ⟨rfl, rfl⟩, (fun _ _ kept => nomatch kept), fun _ _ lost => nomatch lost⟩
  have agrees := start.foldl (markedEntries (sources.splitOn '|'))
  rw [all, read] at agrees
  rw [configureSources_eq]
  constructor
  · intro same key value isLost
    rw [readMap, same]
    exact agrees.lost key value isLost
  · intro nothingLost
    funext key
    change _ = List.foldl override _ _ key
    cases last : lastMarked (sources.splitOn '|') key with
    | none => rw [(agrees.none key last).1, (agrees.none key last).2]
    | some marked =>
        obtain ⟨isRead, value⟩ := marked
        cases isRead with
        | true => rw [(agrees.kept key value last).1, (agrees.kept key value last).2]
        | false =>
            rw [agrees.lost key value last]
            exact nothingLost key value last

/-- A bar before the only source: its level is lost. -/
theorem leading_bar_loses :
    ¬∀ (hasPlatformHandler : Bool) (sources : Name),
      (configureSources hasPlatformHandler sources).toMap = expectedMap hasPlatformHandler sources := by
  intro expected
  have same := congrFun (expected false "|plist:.level=ALL".toList) ".level".toList
  have isLost : (configureSources false "|plist:.level=ALL".toList).toMap ".level".toList = none := by decide +kernel
  rw [isLost] at same
  exact absurd same (by decide +kernel)

end GoldenGate.Logging
