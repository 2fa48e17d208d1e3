import GoldenGate.Coap.Block
import GoldenGate.Coap.Iteration

/-! # The server side of an endpoint

The embedding of what `gg_coap_endpoint.c` does with a request that it receives: it looks for the
handler of the path, asks the filters, and then the handler. What the filters and handlers return is
an input.
-/

namespace GoldenGate.Coap

open Memory Grammar

def codeNotFound : UInt8 := messageCode 404
def codeMethodNotAllowed : UInt8 := messageCode 405
def codeInternalServerError : UInt8 := messageCode 500

/-- `/`. -/
def slash : UInt8 := 47

/-- `GG_COAP_REQUEST_HANDLER_FLAGS_ALLOW_ALL`. -/
def flagsAllowAll : UInt32 := 0xF

/-- `GG_CoapRequestHandlerNode`, where the path is without the zero at its end. -/
structure RequestHandlerNode (η : Type) where
  path : List UInt8
  flags : UInt32
  handler : η
  deriving Repr, DecidableEq

/-- What a handler or a filter returns: success with a response, success without one, a positive
    result, or an error. -/
inductive HandlerResult where
  | response (message : Message)
  | success
  | code (result : Nat)
  | failed (error : Error)
  deriving Repr, DecidableEq

/-- The handlers and filters of a `GG_CoapEndpoint`. -/
structure RequestHandlers (η φ : Type) where
  handlers : List (RequestHandlerNode η)
  requestFilters : List φ
  defaultHandler : Option η
  deriving Repr, DecidableEq

/-! ## Paths -/

/-- The loop that compares a segment of the path of a handler with an option. -/
def matchSegment (path : List UInt8) (location : Nat) (chars : List UInt8) : Nat → Nat → Access Bool
  | 0, _ => return true
  | n + 1, i => do
      let char ← load (path ++ [0]) (location + i)
      if char = 0 then return false
      let char' ← load chars i
      if char ≠ char' then return false
      matchSegment path location chars n (i + 1)

/-- The loop that matches the path of a handler, segment by segment. The end of the path is a match,
    even if there are more segments. -/
def matchPath (data path : List UInt8) : Nat → Nat → OptionIterator → Access Bool
  | 0, _, _ => .error .diverges
  | fuel + 1, location, iterator =>
      match iterator.option.value with
      | .string none _ => .error .undefined
      | .string (some chars) length => do
          if !(← matchSegment path location chars length 0) then return false
          let char ← load (path ++ [0]) (location + length)
          if char = 0 then return true
          if char ≠ slash then return false
          matchPath data path fuel (location + length + 1) (← stepOptionIterator data iterator)
      | _ => return false

namespace RequestHandlerNode

variable {η : Type}

/-- Whether the request is for the handler. -/
def isFor (self : RequestHandlerNode η) (request : Message) : Access Bool := do
  let iterator ← request.initOptionIterator optionUriPath
  matchPath request.data self.path (request.data.length + 1) 0 iterator

end RequestHandlerNode

/-! ## Requests -/

namespace RequestHandlers

variable {η φ : Type}

/-- `GG_CoapEndpoint_RegisterRequestHandler`. -/
def registerRequestHandler (self : RequestHandlers η φ) (path : List UInt8) (flags : UInt32) (handler : η) :
    RequestHandlers η φ :=
  { self with handlers := self.handlers ++ [⟨path.dropWhile (· = slash), flags, handler⟩] }

/-- `GG_CoapEndpoint_SetDefaultRequestHandler`. -/
def setDefaultRequestHandler (self : RequestHandlers η φ) (handler : Option η) : RequestHandlers η φ :=
  { self with defaultHandler := handler }

/-- The first handler that the request is for. -/
def findHandler (request : Message) : List (RequestHandlerNode η) → Access (Option (RequestHandlerNode η))
  | [] => return none
  | node :: nodes => do if ← node.isFor request then return some node else findHandler request nodes

/-- The filters are asked until one returns something. -/
def filterRequest (filter : φ → HandlerResult) : List φ → HandlerResult
  | [] => .success
  | first :: filters =>
      match filter first with
      | .success => filterRequest filter filters
      | result => result

/-- The flag of a method. -/
def methodFlag (method : UInt8) : UInt32 :=
  if method = 1 then 1
  else if method = 2 then 2
  else if method = 3 then 4
  else if method = 4 then 8
  else 0

/-- `GG_CoapEndpoint_CreateResponse`, without options and payload. -/
def createResponse (request : Message) (code : UInt8) : Access (Option Message) := do
  let token ← request.getToken
  let messageId ← request.getMessageId
  match ← create code .ack [] (UInt16.ofNat messageId) token none 0 with
  | .error _ => return none
  | .ok response => return some response

/-- What is sent back for a result. -/
def respond (request : Message) : HandlerResult → Access (Option Message)
  | .response message => return some message
  | .failed .wouldBlock => return none
  | .code result =>
      createResponse request (if result ≤ 0xFF then UInt8.ofNat result else codeInternalServerError)
  | _ => createResponse request codeInternalServerError

/-- `GG_CoapEndpoint_OnRequest`: the handler that is asked, if any, and the response that is sent. -/
def onRequest (self : RequestHandlers η φ) (filter : φ → HandlerResult) (handle : η → HandlerResult) (request : Message) :
    Access (Option η × Option Message) := do
  let default := self.defaultHandler.map fun handler => ⟨[slash], flagsAllowAll, handler⟩
  let found ← findHandler request self.handlers
  match found.or default with
  | none => return (none, ← createResponse request codeNotFound)
  | some node => do
      let method ← request.getCode
      if node.flags &&& methodFlag method = 0 then
        return (none, ← respond request (.code codeMethodNotAllowed.toNat))
      match filterRequest filter self.requestFilters with
      | .success => do
          let result := handle node.handler
          assert (result ≠ .success)
          return (some node.handler, ← respond request result)
      | result => return (none, ← respond request result)

end RequestHandlers

/-! ## The paths of a parsed request can be compared -/

/-- The characters of a string option can be read. -/
def ReadableChars : OptionValue → Prop
  | .string none _ => False
  | .string (some chars) length => length ≤ chars.length
  | _ => True

theorem readableChars_of_holds {number : UInt32} {value : List UInt8} {shown : OptionValue}
    (holds : Holds number value shown) : ReadableChars shown := by
  unfold Holds at holds
  split at holds
  · rw [holds]
    trivial
  · rw [holds]
    trivial
  · obtain ⟨chars, rfl, same⟩ := holds
    have size := congrArg List.length same
    rw [List.length_take] at size
    change value.length ≤ chars.length
    omega
  · obtain ⟨bytes, rfl, -⟩ := holds
    trivial

/-- A value that the filter skips is left as it was. -/
theorem step_value {data : List UInt8} {iterator next : OptionIterator}
    (stepped : stepOptionIterator_ data iterator = .ok next) :
    next.option.value = .empty ∨ (iterator.filter = 0 ∨ iterator.filter = next.option.number) ∨
      next.option.value = iterator.option.value := by
  unfold stepOptionIterator_ at stepped
  split at stepped
  · rw [← Except.ok.inj stepped]
    exact .inl rfl
  · obtain ⟨head, -, stepped⟩ := bind_ok stepped
    simp only at stepped
    split at stepped
    · rw [← Except.ok.inj stepped]
      exact .inl rfl
    · obtain ⟨⟨delta, location⟩, -, stepped⟩ := bind_ok stepped
      obtain ⟨⟨length, location'⟩, -, stepped⟩ := bind_ok stepped
      split at stepped
      · rename_i through
        obtain ⟨value, -, stepped⟩ := bind_ok stepped
        rw [← Except.ok.inj stepped]
        exact .inr (.inl through)
      · rw [← Except.ok.inj stepped]
        exact .inr (.inr rfl)

/-- What a step of the iterator is asked for: a value that can be read, and fewer options to come
    unless there is none. -/
def Proceeds (data : List UInt8) (options : List WireOption) (next : OptionIterator) : Prop :=
  ReadableChars next.option.value ∧ (next.option.value = .empty ∨
    ∃ n others, Stands data next n others ∧ others.length < options.length)

theorem proceeds_raw {data : List UInt8} {iterator : OptionIterator} {n : Nat} {options : List WireOption}
    (stands : Stands data iterator n options) (isReadable : ReadableChars iterator.option.value) :
    ∃ next, stepOptionIterator_ data iterator = .ok next ∧ next.filter = iterator.filter ∧ Proceeds data options next := by
  rcases stands.step_cases with ⟨rfl, stepped⟩ | ⟨option, others, next, rfl, stepped, behind, kept, holds⟩
  · exact ⟨_, stepped, rfl, trivial, .inl rfl⟩
  · refine ⟨next, stepped, kept, ?_, .inr ⟨_, others, behind, Nat.lt_succ_self _⟩⟩
    rcases step_value stepped with isEmpty | through | same
    · rw [isEmpty]
      trivial
    · exact readableChars_of_holds (holds through)
    · exact same ▸ isReadable

theorem proceeds_filtered {data : List UInt8} {iterator : OptionIterator} {n : Nat} {options : List WireOption}
    (stands : Stands data iterator n options) (isReadable : ReadableChars iterator.option.value) (fuel : Nat)
    (enough : options.length < fuel) : ∃ next, stepToFilter data fuel iterator = .ok next ∧ Proceeds data options next := by
  induction fuel generalizing iterator n options with
  | zero => exact absurd enough (Nat.not_lt_zero _)
  | succ fuel ih =>
      obtain ⟨next, stepped, -, isReadable', proceeds⟩ := proceeds_raw stands isReadable
      unfold stepToFilter
      rw [stepped, ok_bind]
      split
      · rename_i goesOn
        rcases stands.step_cases with ⟨rfl, atEnd⟩ | ⟨option, others, next', rfl, stepped', behind, -, -⟩
        · rw [stepped] at atEnd
          rw [Except.ok.inj atEnd] at goesOn
          exact absurd rfl goesOn.1
        · rw [stepped] at stepped'
          obtain rfl := Except.ok.inj stepped'
          obtain ⟨last, looped, isReadable'', proceeds'⟩ := ih behind isReadable' (Nat.lt_of_succ_lt_succ enough)
          refine ⟨last, looped, isReadable'', proceeds'.imp_right ?_⟩
          rintro ⟨n', others', behind', fewer⟩
          exact ⟨n', others', behind', Nat.lt_succ_of_lt fewer⟩
      · exact ⟨next, rfl, isReadable', proceeds⟩

theorem proceeds {data : List UInt8} {iterator : OptionIterator} {n : Nat} {options : List WireOption}
    (stands : Stands data iterator n options) (isReadable : ReadableChars iterator.option.value) :
    ∃ next, stepOptionIterator data iterator = .ok next ∧ Proceeds data options next := by
  unfold stepOptionIterator
  split
  · obtain ⟨next, stepped, -, proceeds⟩ := proceeds_raw stands isReadable
    exact ⟨next, stepped, proceeds⟩
  · exact proceeds_filtered stands isReadable _ (Nat.lt_succ_of_le stands.length_le)

/-- The path is read up to its end at most. -/
theorem matchSegment_ok {path : List UInt8} {location : Nat} {chars : List UInt8} (n i : Nat)
    (isReadable : i + n ≤ chars.length) (inPath : location + i ≤ path.length) :
    ∃ matched, matchSegment path location chars n i = .ok matched ∧
      (matched = true → location + i + n ≤ path.length) := by
  induction n generalizing i with
  | zero => exact ⟨true, rfl, fun _ => inPath⟩
  | succ n ih =>
      have inside : location + i < (path ++ [0]).length := by
        rw [List.length_append]
        exact Nat.lt_succ_of_le inPath
      have readable : i < chars.length := by omega
      unfold matchSegment
      rw [load_lt inside, ok_bind]
      split
      · exact ⟨false, rfl, fun same => (nomatch same)⟩
      · rename_i notEnd
        rw [load_lt readable, ok_bind]
        split
        · exact ⟨false, rfl, fun same => (nomatch same)⟩
        · have notLast : location + i ≠ path.length := by
            intro last
            apply notEnd
            simp only [last, List.getElem_concat_length]
          obtain ⟨matched, isMatched, fits⟩ := ih (i + 1) (by omega) (by omega)
          refine ⟨matched, isMatched, ?_⟩
          intro same
          have := fits same
          omega

theorem matchPath_ok {data path : List UInt8} (fuel location : Nat) {iterator : OptionIterator}
    (isReadable : ReadableChars iterator.option.value) (inPath : location ≤ path.length)
    (before : iterator.option.value = .empty ∨ ∃ n options, Stands data iterator n options ∧ options.length + 1 < fuel)
    (some : 0 < fuel) : ∃ matched, matchPath data path fuel location iterator = .ok matched := by
  induction fuel generalizing location iterator with
  | zero => exact absurd some (Nat.lt_irrefl 0)
  | succ fuel ih =>
      unfold matchPath
      split
      · rename_i isNull
        rw [isNull] at isReadable
        exact absurd isReadable id
      · rename_i chars length isString
        rw [isString] at isReadable
        obtain ⟨matched, isMatched, fits⟩ := matchSegment_ok length 0 (by rw [Nat.zero_add]; exact isReadable) inPath
        rw [isMatched, ok_bind]
        cases matched with
        | false => exact ⟨false, rfl⟩
        | true =>
            have inPath' : location + length ≤ path.length := fits rfl
            have inside : location + length < (path ++ [0]).length := by
              rw [List.length_append]
              exact Nat.lt_succ_of_le inPath'
            simp only [Bool.not_true, Bool.false_eq_true, if_false, load_lt inside, ok_bind]
            split
            · exact ⟨true, rfl⟩
            · split
              · exact ⟨false, rfl⟩
              · rename_i notEnd isSlash
                have notLast : location + length ≠ path.length := by
                  intro last
                  apply notEnd
                  simp only [last, List.getElem_concat_length]
                rcases before with isEmpty | ⟨n, options, stands, enough⟩
                · rw [isString] at isEmpty
                  exact nomatch isEmpty
                · obtain ⟨next, stepped, isReadable', proceeds⟩ := proceeds stands (by rw [isString]; exact isReadable)
                  rw [stepped, ok_bind]
                  refine ih _ isReadable' (by omega) (proceeds.imp_right ?_) (by omega)
                  rintro ⟨n', others, behind, fewer⟩
                  exact ⟨n', others, behind, by omega⟩
      · exact ⟨false, rfl⟩

/-- The iterator of a parsed request starts before its options. -/
theorem init_stands {wire : WireMessage} {datagram : List UInt8} {message : Message}
    (wireBytes : MessageBytes wire datagram) (accepted : createFromDatagram datagram = .ok (.ok message)) (filter : UInt32) :
    ∃ start, message.initOptionIterator filter = stepOptionIterator message.data start ∧
      Stands message.data start 0 wire.options ∧ start.filter = filter ∧ start.option.value = .empty ∧
      wire.options.length ≤ message.data.length := by
  rw [createFromDatagram_complete wireBytes] at accepted
  obtain rfl := by simpa using accepted
  cases wireBytes with
  | @mk first code idHi idLo token optionBytes payload payloadBytes options version announced
      short optionsField payloadField =>
      let pre := first :: code :: idHi :: idLo :: token
      have place : 4 + first.toNat % 16 = pre.length := by
        simp only [announced, pre, List.length_cons]
        omega
      have stop : (pre ++ (optionBytes ++ payloadBytes)).length - payload.length =
          pre.length + optionBytes.length + min 1 payloadBytes.length := by
        cases payloadField with
        | absent => simp
        | marked nonempty =>
            simp only [List.length_append, List.length_cons]
            omega
      have firstByte : load (pre ++ (optionBytes ++ payloadBytes)) 0 = .ok first := rfl
      have few := OptionsBytes_length_le optionsField
      refine ⟨⟨⟨0, .empty⟩, filter, pre.length, (pre ++ (optionBytes ++ payloadBytes)).length - payload.length⟩, ?_,
        ⟨rfl, pre, optionBytes, payloadBytes, rfl, optionsField, payloadField.ends, rfl, stop⟩, rfl, rfl, ?_⟩
      · change (load (pre ++ (optionBytes ++ payloadBytes)) 0 >>= _) = _
        rw [firstByte, ok_bind]
        simp only [Bytes.low_nibble, place]
        rfl
      · change options.length ≤ (pre ++ (optionBytes ++ payloadBytes)).length
        simp only [List.length_append]
        omega

/-- Whether a parsed request is for a handler is decided within the datagram and the path. -/
theorem isFor_ok {η : Type} {datagram : List UInt8} {message : Message}
    (accepted : createFromDatagram datagram = .ok (.ok message)) (node : RequestHandlerNode η) :
    ∃ matched, node.isFor message = .ok matched := by
  obtain ⟨wire, wireBytes, -⟩ := wire_of_accepted accepted
  obtain ⟨start, starts, stands, -, isEmpty, few⟩ := init_stands wireBytes accepted optionUriPath
  obtain ⟨iterator, initialised, isReadable, proceeds⟩ := proceeds stands (by rw [isEmpty]; trivial)
  obtain ⟨matched, isMatched⟩ := @matchPath_ok message.data node.path (message.data.length + 1) 0 iterator isReadable
    (Nat.zero_le _) (by
      refine proceeds.imp_right ?_
      rintro ⟨n, others, stands, fewer⟩
      exact ⟨n, others, stands, by omega⟩) (Nat.succ_pos _)
  refine ⟨matched, ?_⟩
  unfold RequestHandlerNode.isFor
  rw [starts, initialised, ok_bind]
  exact isMatched

end GoldenGate.Coap
