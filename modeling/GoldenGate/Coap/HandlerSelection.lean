import GoldenGate.Coap.Serving
import GoldenGate.Lib.Segments

/-! # The handler of a request

The path of a handler is compared with the Uri-Path options of a request one after the other, without
a look at what is in them. So the handler of a request is the first one whose path is a run of them,
joined by slashes: with an empty path also for an empty first option, and whether the slashes are from
between the options or from inside of them.
-/

namespace GoldenGate.Coap

open Memory Grammar Segments

/-- The Uri-Path options. -/
def uriPaths (n : Nat) (options : List WireOption) : List (List UInt8) :=
  ((numbered n options).filter (·.1 = optionUriPath.toNat)).map (·.2)

/-- No option has the number 0, which the iterator stops at, and none a number of more than 32 bits. -/
def RealNumbers (n : Nat) (options : List WireOption) : Prop :=
  ∀ o ∈ numbered n options, 0 < o.1 ∧ o.1 < 2 ^ 32

/-- The path is not empty, and its pieces are the first segments. -/
def IsPathOf (segments : List (List UInt8)) (path : List UInt8) : Prop :=
  path ≠ [] ∧ path.splitOn slash <+: segments

instance (segments : List (List UInt8)) (path : List UInt8) : Decidable (IsPathOf segments path) :=
  inferInstanceAs (Decidable (_ ∧ _))

namespace RequestHandlers

variable {η φ : Type}

/-- The node of the default handler. -/
def defaultNode (self : RequestHandlers η φ) : Option (RequestHandlerNode η) :=
  self.defaultHandler.map fun handler => ⟨[slash], flagsAllowAll, handler⟩

/-- What is done with a request once its handler is known. -/
def serve (self : RequestHandlers η φ) (filter : φ → HandlerResult) (handle : η → HandlerResult) (request : Message) :
    Option (RequestHandlerNode η) → Access (Option η × Option Message)
  | none => return (none, ← createResponse request codeNotFound)
  | some node => do
      let method ← request.getCode
      if node.flags &&& methodFlag method = 0 then
        return (none, ← respond request (.code codeMethodNotAllowed.toNat))
      match filterRequest filter self.requestFilters with
      | .success => do
          let result := handle node.handler
          assert (result ≠ .success)
          return (some node.handler, ← respond request result)
      | result => return (none, ← respond request result)

/-- The handler of a request, by the pieces of its path. -/
def handlerFor (self : RequestHandlers η φ) (segments : List (List UInt8)) : Option (RequestHandlerNode η) :=
  self.handlers.find? fun node => IsPathOf segments node.path

/-- The first handler for the pieces of the path is selected, or the default handler, or the response
    is 4.04. -/
structure SelectsRight (handlers : RequestHandlers η φ) (request : Message) (segments : List (List UInt8)) : Prop where
  found : findHandler request handlers.handlers = .ok (handlers.handlerFor segments)
  served : ∀ filter handle, handlers.onRequest filter handle request =
    handlers.serve filter handle request ((handlers.handlerFor segments).or handlers.defaultNode)
  notFound : (handlers.handlerFor segments).or handlers.defaultNode = none → ∀ filter handle,
    ∃ response, handlers.onRequest filter handle request = .ok (none, some response) ∧
      response.getCode = .ok codeNotFound

/-- The first handler whose path is a run of the segments has a path that is not empty, and a run of
    segments without slashes. -/
def FirstIsPlain (self : RequestHandlers η φ) (segments : List (List UInt8)) : Prop :=
  ∀ node, (self.handlers.find? fun node => IsRun slash segments node.path) = some node →
    node.path ≠ [] ∧ IsPlainRun slash segments node.path

end RequestHandlers

/-- Another request with the same Uri-Path options, as many as the path of the handler has pieces, is for
    the handler if and only if this one is. -/
def MatchesAlike {η : Type} (node : RequestHandlerNode η) (segments : List (List UInt8)) (request : Message) : Prop :=
  ∀ (wire : WireMessage) (datagram : List UInt8) (other : Message), MessageBytes wire datagram →
    createFromDatagram datagram = .ok (.ok other) → RealNumbers 0 wire.options →
    (uriPaths 0 wire.options).take (node.path.splitOn slash).length =
      segments.take (node.path.splitOn slash).length →
    node.isFor other = node.isFor request

/-! ## The Uri-Path options, one after the other -/

theorem uriPaths_cons (n : Nat) (option : WireOption) (options : List WireOption) :
    uriPaths n (option :: options) =
      if n + option.delta = optionUriPath.toNat then option.value :: uriPaths (n + option.delta) options
      else uriPaths (n + option.delta) options := by
  unfold uriPaths
  rw [numbered, List.filter_cons]
  by_cases isPath : n + option.delta = optionUriPath.toNat
  · simp [isPath]
  · simp [isPath]

/-- The iterator has the next Uri-Path option, or there are no more. -/
def NextPath (data : List UInt8) (n : Nat) (options : List WireOption) (next : OptionIterator) : Prop :=
  (uriPaths n options = [] ∧ next.option.value = .empty) ∨
  ∃ value n' others, uriPaths n options = value :: uriPaths n' others ∧
    (∃ chars, next.option.value = .string (some chars) value.length ∧ chars.take value.length = value) ∧
    Stands data next n' others ∧ next.filter = optionUriPath ∧ RealNumbers n' others ∧
    others.length < options.length

theorem Stands.nextPath_loop {data : List UInt8} {iterator : OptionIterator} {n : Nat} {options : List WireOption}
    (stands : Stands data iterator n options) (filter : iterator.filter = optionUriPath) (real : RealNumbers n options)
    (fuel : Nat) (enough : options.length < fuel) :
    ∃ next, stepToFilter data fuel iterator = .ok next ∧ NextPath data n options next := by
  induction fuel generalizing iterator n options with
  | zero => exact absurd enough (Nat.not_lt_zero _)
  | succ fuel ih =>
      rcases stands.step_cases with ⟨rfl, stepped⟩ | ⟨option, others, next, rfl, stepped, behind, kept, holds⟩
      · exact ⟨{ iterator with option := ⟨optionNone, .empty⟩ }, by simp [stepToFilter, stepped], .inl ⟨rfl, rfl⟩⟩
      · have bounds := real _ List.mem_cons_self
        have real' : RealNumbers (n + option.delta) others := fun o member => real o (List.mem_cons_of_mem _ member)
        have number : next.option.number.toNat = n + option.delta := by
          rw [behind.number, UInt32.toNat_ofNat', Nat.mod_eq_of_lt bounds.2]
        have some_ : next.option.number ≠ optionNone := by
          rw [ne_eq, ← UInt32.toNat_inj, number]
          exact bounds.1.ne'
        rw [filter] at kept
        by_cases isPath : next.option.number = optionUriPath
        · refine ⟨next, by simp [stepToFilter, stepped, isPath, kept], .inr ⟨option.value, n + option.delta, others, ?_,
            ?_, behind, kept, real', Nat.lt_succ_self _⟩⟩
          · rw [uriPaths_cons, if_pos (by rw [← number, isPath])]
          · have shown := holds (.inr (filter.trans isPath.symm))
            rw [isPath] at shown
            exact shown
        · obtain ⟨last, looped, nextPath⟩ := ih behind kept real' (Nat.lt_of_succ_lt_succ enough)
          refine ⟨last, by simpa [stepToFilter, stepped, some_, isPath, kept] using looped, ?_⟩
          have skip : uriPaths n (option :: others) = uriPaths (n + option.delta) others := by
            rw [uriPaths_cons, if_neg]
            rw [← number, UInt32.toNat_inj]
            exact isPath
          unfold NextPath
          rw [skip]
          refine nextPath.imp_right ?_
          rintro ⟨value, n', others', first, shown, stands, filter, real, less⟩
          exact ⟨value, n', others', first, shown, stands, filter, real, less.trans (Nat.lt_succ_self _)⟩

theorem Stands.nextPath {data : List UInt8} {iterator : OptionIterator} {n : Nat} {options : List WireOption}
    (stands : Stands data iterator n options) (filter : iterator.filter = optionUriPath) (real : RealNumbers n options) :
    ∃ next, stepOptionIterator data iterator = .ok next ∧ NextPath data n options next := by
  have closed : ¬ iterator.filter = 0 := by
    rw [filter]
    decide
  unfold stepOptionIterator
  rw [if_neg closed]
  exact stands.nextPath_loop filter real _ (Nat.lt_succ_of_le stands.length_le)

/-! ## The comparison with a path -/

section Paths

variable {path : List UInt8} (noZero : 0 ∉ path)
include noZero

theorem matchSegment_eq {location : Nat} {chars : List UInt8} (n i : Nat) (readable : i + n ≤ chars.length)
    (inPath : location + i ≤ path.length) : matchSegment path location chars n i =
      .ok (((chars.drop i).take n).isPrefixOf (path.drop (location + i))) := by
  induction n generalizing i with
  | zero => rfl
  | succ n ih =>
      have inside : location + i < (path ++ [0]).length := by
        rw [List.length_append]
        exact Nat.lt_succ_of_le inPath
      have some_ : i < chars.length := by omega
      rw [matchSegment, load_lt inside, ok_bind, List.drop_eq_getElem_cons some_, List.take_succ_cons]
      by_cases last : location + i = path.length
      · simp [last]
      · have before : location + i < path.length := by omega
        have char : (path ++ [0])[location + i] = path[location + i] := List.getElem_append_left before
        have notZero : path[location + i] ≠ 0 := fun zero => noZero (zero ▸ List.getElem_mem before)
        rw [char, if_neg notZero, load_lt some_, ok_bind, List.drop_eq_getElem_cons before]
        by_cases same : path[location + i] = chars[i]
        · rw [if_neg (not_not.mpr same), ih (i + 1) (by omega) (by omega), same]
          simp [Nat.add_assoc]
        · rw [if_pos same, List.isPrefixOf_cons_cons, beq_eq_false_iff_ne.mpr (Ne.symm same), Bool.false_and]
          rfl

theorem matchPath_eq {data : List UInt8} (fuel location : Nat) (inPath : location ≤ path.length)
    {iterator : OptionIterator} {n : Nat} {options : List WireOption} (nextPath : NextPath data n options iterator)
    (enough : options.length < fuel) :
    matchPath data path fuel location iterator = .ok (walk slash (path.drop location) (uriPaths n options)) := by
  induction fuel generalizing location iterator n options with
  | zero => exact absurd enough (Nat.not_lt_zero _)
  | succ fuel ih =>
      unfold matchPath
      rcases nextPath with ⟨none_, isEmpty⟩ | ⟨value, n', others, first, ⟨chars, isString, isValue⟩, stands, filter, real, less⟩
      · rw [isEmpty, none_]
        rfl
      · have readable : value.length ≤ chars.length := by
          have size := congrArg List.length isValue
          rw [List.length_take] at size
          omega
        rw [isString, first, walk]
        dsimp only
        rw [matchSegment_eq noZero value.length 0 (by rwa [Nat.zero_add]) inPath, ok_bind, List.drop_zero, isValue,
          Nat.add_zero]
        cases matched : value.isPrefixOf (path.drop location) with
        | false => rfl
        | true =>
            have fits := (List.isPrefixOf_iff_prefix.mp matched).length_le
            rw [List.length_drop] at fits
            have inside : location + value.length < (path ++ [0]).length := by
              rw [List.length_append]
              exact Nat.lt_succ_of_le (by omega)
            rw [Bool.not_true, if_neg Bool.false_ne_true, load_lt inside, ok_bind, List.drop_drop, Bool.true_and]
            by_cases last : location + value.length = path.length
            · simp [last]
            · have before : location + value.length < path.length := by omega
              have char : (path ++ [0])[location + value.length] = path[location + value.length] :=
                List.getElem_append_left before
              have notZero : path[location + value.length] ≠ 0 := fun zero => noZero (zero ▸ List.getElem_mem before)
              rw [char, if_neg notZero, List.drop_eq_getElem_cons before]
              by_cases isSlash : path[location + value.length] = slash
              · obtain ⟨next, stepped, nextPath'⟩ := stands.nextPath filter real
                rw [if_neg (not_not.mpr isSlash), stepped, ok_bind, ih _ (by omega) nextPath' (by omega)]
                simp [isSlash]
              · rw [if_pos isSlash]
                simp [isSlash]

end Paths

section Selection

variable {η φ : Type} {wire : WireMessage} {datagram : List UInt8} {message : Message}
  (wireBytes : MessageBytes wire datagram) (accepted : createFromDatagram datagram = .ok (.ok message))
  (real : RealNumbers 0 wire.options)
include wireBytes accepted real

/-- A request is for the handlers whose paths are runs of its Uri-Path options. -/
theorem isFor_eq {node : RequestHandlerNode η} (noZero : 0 ∉ node.path) :
    node.isFor message = .ok (decide (IsRun slash (uriPaths 0 wire.options) node.path)) := by
  obtain ⟨start, starts, stands, filter, -, few⟩ := init_stands wireBytes accepted optionUriPath
  obtain ⟨iterator, initialised, nextPath⟩ := stands.nextPath filter real
  unfold RequestHandlerNode.isFor
  rw [starts, initialised, ok_bind, matchPath_eq noZero _ 0 (Nat.zero_le _) nextPath (Nat.lt_succ_of_le few),
    List.drop_zero]
  refine congrArg Except.ok ?_
  rw [Bool.eq_iff_iff, decide_eq_true_eq]
  exact walk_iff slash

theorem findHandler_eq {nodes : List (RequestHandlerNode η)} (noZero : ∀ node ∈ nodes, 0 ∉ node.path) :
    RequestHandlers.findHandler message nodes =
      .ok (nodes.find? fun node => IsRun slash (uriPaths 0 wire.options) node.path) := by
  induction nodes with
  | nil => rfl
  | cons node nodes ih =>
      have isFor := isFor_eq wireBytes accepted real (noZero node List.mem_cons_self)
      unfold RequestHandlers.findHandler
      rw [isFor, ok_bind, ih fun other member => noZero other (List.mem_cons_of_mem _ member), List.find?_cons]
      by_cases isRun : IsRun slash (uriPaths 0 wire.options) node.path
      · simp [isRun]
      · simp [isRun]

end Selection

/-! ## The selected handler -/

/-- Two ways to find a first element agree if the first one by either way is so by both. -/
theorem find?_eq_iff {α : Type} {p q : α → Bool} {l : List α} (implies : ∀ x ∈ l, q x → p x) :
    l.find? p = l.find? q ↔ ∀ x, l.find? p = some x → q x := by
  induction l with
  | nil => simp
  | cons x l ih =>
      have ih := ih fun y member => implies y (List.mem_cons_of_mem _ member)
      cases isP : p x with
      | true =>
          rw [List.find?_cons_of_pos isP]
          cases isQ : q x with
          | true =>
              rw [List.find?_cons_of_pos isQ]
              simp [isQ]
          | false =>
              rw [List.find?_cons_of_neg (by simp [isQ])]
              constructor
              · intro same
                have found := List.find?_some same.symm
                rw [isQ] at found
                exact absurd found Bool.false_ne_true
              · intro all
                rw [all x rfl] at isQ
                exact absurd isQ Bool.noConfusion
      | false =>
          have notQ : ¬ q x = true := fun isQ => by
            rw [implies x List.mem_cons_self isQ] at isP
            exact Bool.noConfusion isP
          rw [List.find?_cons_of_neg (by simp [isP]), List.find?_cons_of_neg notQ]
          exact ih

theorem IsPathOf_iff {segments : List (List UInt8)} {path : List UInt8} :
    IsPathOf segments path ↔ path ≠ [] ∧ IsPlainRun slash segments path := by
  unfold IsPathOf
  rw [splitOn_prefix_iff]

namespace RequestHandlers

variable {η φ : Type}

theorem onRequest_eq (self : RequestHandlers η φ) (filter : φ → HandlerResult) (handle : η → HandlerResult)
    (request : Message) : self.onRequest filter handle request =
      findHandler request self.handlers >>= fun found => self.serve filter handle request (found.or self.defaultNode) := by
  unfold onRequest defaultNode
  refine congrArg _ (funext fun found => ?_)
  dsimp only
  cases found.or (self.defaultHandler.map fun handler => ⟨[slash], flagsAllowAll, handler⟩) with
  | none => rfl
  | some node => rfl

section Selection

variable (self : RequestHandlers η φ) {wire : WireMessage} {datagram : List UInt8} {message : Message}
  (wireBytes : MessageBytes wire datagram) (accepted : createFromDatagram datagram = .ok (.ok message))
  (real : RealNumbers 0 wire.options) (noZero : ∀ node ∈ self.handlers, 0 ∉ node.path)
include wireBytes accepted real noZero

theorem selectsRight_iff : self.SelectsRight message (uriPaths 0 wire.options) ↔
    self.FirstIsPlain (uriPaths 0 wire.options) := by
  have finds := findHandler_eq wireBytes accepted real noZero
  have agree : (self.handlers.find? fun node => IsRun slash (uriPaths 0 wire.options) node.path) =
      self.handlerFor (uriPaths 0 wire.options) ↔ self.FirstIsPlain (uriPaths 0 wire.options) := by
    unfold handlerFor FirstIsPlain
    rw [find?_eq_iff]
    · simp only [decide_eq_true_eq, IsPathOf_iff]
    · intro node _ isPath
      rw [decide_eq_true_eq] at isPath ⊢
      exact (IsPathOf_iff.mp isPath).2.isRun slash
  constructor
  · intro right
    have found := right.found
    rw [finds] at found
    exact agree.mp (Except.ok.inj found)
  · intro plain
    rw [agree.mpr plain] at finds
    have served (filter : φ → HandlerResult) (handle : η → HandlerResult) : self.onRequest filter handle message =
        self.serve filter handle message ((self.handlerFor (uriPaths 0 wire.options)).or self.defaultNode) := by
      rw [onRequest_eq, finds, ok_bind]
    refine ⟨finds, served, ?_⟩
    intro none_ filter handle
    obtain ⟨response, responds, isCode⟩ := createResponse_ok accepted codeNotFound
    refine ⟨response, ?_, isCode⟩
    rw [served, none_, serve, responds]
    rfl

/-- The handler of a request is the right one if the first one whose path is a run of its Uri-Path options
    is there for the pieces of its path. What comes behind these pieces is not looked at. -/
theorem handler_selection : (self.SelectsRight message (uriPaths 0 wire.options) ↔
      self.FirstIsPlain (uriPaths 0 wire.options)) ∧
    ∀ node ∈ self.handlers, MatchesAlike node (uriPaths 0 wire.options) message := by
  refine ⟨self.selectsRight_iff wireBytes accepted real noZero, ?_⟩
  intro node member wire' datagram' other wireBytes' accepted' real' same
  have noZero' := noZero node member
  rw [isFor_eq wireBytes accepted real noZero', isFor_eq wireBytes' accepted' real' noZero']
  refine congrArg Except.ok (decide_eq_decide.mpr ?_)
  rw [← isRun_take slash le_rfl, same, isRun_take slash le_rfl]

end Selection

/-- Handlers of `/a` and of `/c/b`. -/
def twoHandlers : RequestHandlers Nat Unit :=
  ((⟨[], [], none⟩ : RequestHandlers Nat Unit).registerRequestHandler [slash, 0x61] flagsAllowAll 1).registerRequestHandler
    [slash, 0x63, slash, 0x62] flagsAllowAll 2

/-- A request for `c`, `b` and the empty segment. -/
def segmentsRequest : List UInt8 := [0x40, 0x01, 0, 0, 0xB1, 0x63, 0x01, 0x62, 0x00]

def segmentsWire : WireMessage := ⟨0, 1, 0, [], [⟨11, [0x63]⟩, ⟨0, [0x62]⟩, ⟨0, []⟩], []⟩

theorem segmentsRequest_bytes : MessageBytes segmentsWire segmentsRequest := by
  have first : OptionBytes ⟨11, [0x63]⟩ [0xB1, 0x63] :=
    @OptionBytes.mk 0xB1 [] [] [0x63] 11 (.short (by decide)) (.short (by decide))
  have second : OptionBytes ⟨0, [0x62]⟩ [0x01, 0x62] :=
    @OptionBytes.mk 0x01 [] [] [0x62] 0 (.short (by decide)) (.short (by decide))
  have third : OptionBytes ⟨0, []⟩ [0x00] :=
    @OptionBytes.mk 0x00 [] [] [] 0 (.short (by decide)) (.short (by decide))
  exact @MessageBytes.mk 0x40 1 0 0 [] _ [] [] _ (by decide) (by decide) (by decide)
    (.cons first (.cons second (.cons third .nil))) .absent

theorem handler_selection_segments :
    twoHandlers.SelectsRight ⟨segmentsRequest, 9, 0⟩ (uriPaths 0 segmentsWire.options) ∧
      twoHandlers.handlerFor (uriPaths 0 segmentsWire.options) = some ⟨[0x63, slash, 0x62], flagsAllowAll, 2⟩ := by
  have selects := (@handler_selection _ _ twoHandlers _ _ ⟨segmentsRequest, 9, 0⟩ segmentsRequest_bytes
    (by decide) (by unfold RealNumbers; decide) (by decide)).1
  refine ⟨selects.mpr ?_, by decide⟩
  intro node found
  have first : (twoHandlers.handlers.find? fun node => IsRun slash (uriPaths 0 segmentsWire.options) node.path) =
      some ⟨[0x63, slash, 0x62], flagsAllowAll, 2⟩ := by decide
  rw [first] at found
  obtain rfl := Option.some.inj found
  exact ⟨by decide, (splitOn_prefix_iff slash).mp (by decide)⟩

/-- A request for the one segment `c/b`. -/
def slashRequest : List UInt8 := [0x40, 0x01, 0, 0, 0xB3, 0x63, slash, 0x62]

def slashWire : WireMessage := ⟨0, 1, 0, [], [⟨11, [0x63, slash, 0x62]⟩], []⟩

theorem slashRequest_bytes : MessageBytes slashWire slashRequest := by
  have path : OptionBytes ⟨11, [0x63, slash, 0x62]⟩ [0xB3, 0x63, slash, 0x62] :=
    @OptionBytes.mk 0xB3 [] [] [0x63, slash, 0x62] 11 (.short (by decide)) (.short (by decide))
  exact @MessageBytes.mk 0x40 1 0 0 [] _ [] [] _ (by decide) (by decide) (by decide) (.cons path .nil) .absent

/-- The handler of two segments gets the request for one with a slash in it. -/
theorem slash_matched : ∃ message, createFromDatagram slashRequest = .ok (.ok message) ∧
    MessageBytes slashWire slashRequest ∧ RealNumbers 0 slashWire.options ∧
    ¬ twoHandlers.SelectsRight message (uriPaths 0 slashWire.options) := by
  refine ⟨⟨slashRequest, 8, 0⟩, by decide, slashRequest_bytes, by unfold RealNumbers; decide, fun right => ?_⟩
  have found : findHandler ⟨slashRequest, 8, 0⟩ twoHandlers.handlers =
      .ok (some ⟨[0x63, slash, 0x62], flagsAllowAll, 2⟩) := by decide
  have none_ : twoHandlers.handlerFor (uriPaths 0 slashWire.options) = none := by decide
  rw [right.found, none_] at found
  exact nomatch Except.ok.inj found

end RequestHandlers

end GoldenGate.Coap
