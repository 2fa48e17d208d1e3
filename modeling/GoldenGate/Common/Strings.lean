import GoldenGate.Common.Result
import GoldenGate.Lib.Memory

/-! # Strings

The embedding of the functions of `gg_strings.c` that change a string, take a part of it or look for something in it.
A pointer that is only read through is the rest of its region; where there is no pointer, there is no region.
-/

namespace GoldenGate.Strings

open Memory

/-- `GG_StringBuffer`, with the characters that follow it. -/
structure StringBuffer where
  length : Nat
  allocated : Nat
  chars : List UInt8
  deriving Repr, DecidableEq

/-- `GG_String`: its `chars`, with the header before them. -/
abbrev GgString := Option StringBuffer

/-- What is in the memory that is allocated, for each size. -/
structure Allocator where
  bytes : Nat → List UInt8
  length_bytes : ∀ size, (bytes size).length = size

/-- `(int)x`. -/
def asInt (x : Int) : Int := x.bmod (2 ^ 32)

/-- `(size_t)x`. -/
def asSize (x : Int) : Nat := (x % 2 ^ 64).toNat

/-- `strlen`. -/
def strlen : List UInt8 → Access Nat
  | [] => .error .outOfBounds
  | c :: str =>
      if c = 0 then .ok 0
      else do
        let length ← strlen str
        .ok (length + 1)

/-- `GG_String_GetLength`. -/
def getLength : GgString → Nat
  | none => 0
  | some buffer => buffer.length

/-- `GG_String_GetChars`. -/
def getChars : GgString → List UInt8
  | none => [0]
  | some buffer => buffer.chars

/-- The buffer of a string whose characters are used without looking if there are any. -/
def buffer : GgString → Access StringBuffer
  | none => .error .undefined
  | some buffer => .ok buffer

section Model

variable (memory : Allocator)

/-- `GG_StringBuffer_Allocate`. -/
def allocate (allocated length : Nat) : Option StringBuffer :=
  let size := asSize (16 + allocated + 1)
  if size < allocated then none
  else some { length, allocated, chars := memory.bytes (allocated + 1) }

/-- `GG_StringBuffer_CreateFromStringN`. -/
def createFromStringN (str : List UInt8) (length : Nat) : Access GgString :=
  match allocate memory length length with
  | none => .ok none
  | some buffer => do
      let bytes ← loadBytes str 0 length
      let chars ← store buffer.chars 0 bytes
      let chars ← store chars length [0]
      .ok (some { buffer with chars })

/-- The loop of `GG_String_CreateFromSubString` that measures the substring. -/
def measure (length : Nat) : Nat → List UInt8 → Access Nat
  | _, [] => .error .outOfBounds
  | strLength, c :: src =>
      if c = 0 then .ok strLength
      else if strLength + 1 ≥ length then .ok (strLength + 1)
      else measure length (strLength + 1) src

/-- `GG_String_CreateFromSubString`. -/
def createFromSubString (str : Option (List UInt8)) (first length : Nat) : Access GgString :=
  match str with
  | none => .ok none
  | some str =>
      if length = 0 then .ok none
      else do
        let whole ← strlen str
        if first < whole then do
          let strLength ← measure length 0 (str.drop first)
          if strLength ≠ 0 then createFromStringN memory (str.drop first) strLength else .ok none
        else .ok none

/-- `GG_String_SubString`. -/
def subString (self_ : GgString) (first length : Nat) : Access GgString :=
  createFromSubString memory (some (getChars self_)) first length

/-- `GG_String_PrepareToWrite`. -/
def prepareToWrite (self_ : GgString) (length : Nat) : GgString :=
  match self_ with
  | none => allocate memory length length
  | some buffer =>
      if buffer.allocated < length then
        let grow := asSize (buffer.allocated * 2)
        let needed := if grow > length then grow else length
        allocate memory needed length
      else some { buffer with length }

/-- `GG_String_Reserve`. -/
def reserve (self_ : GgString) (allocated : Nat) : Access (Except Error Unit × GgString) :=
  match self_ with
  | none =>
      match allocate memory allocated 0 with
      | none => .ok (.error .outOfMemory, none)
      | some copy => do
          let chars ← store copy.chars 0 [0]
          .ok (.ok (), some { copy with chars })
  | some buffer =>
      if buffer.allocated < allocated then
        let grow := asSize (buffer.allocated * 2)
        let needed := if grow > allocated then grow else allocated
        match allocate memory needed buffer.length with
        | none => .ok (.error .outOfMemory, some buffer)
        | some copy => do
            let bytes ← loadBytes buffer.chars 0 (buffer.length + 1)
            let chars ← store copy.chars 0 bytes
            .ok (.ok (), some { copy with chars })
      else .ok (.ok (), some buffer)

/-- `GG_String_AssignN`. -/
def assignN (self_ : GgString) (str : Option (List UInt8)) (length : Nat) :
    Access (Except Error Unit × GgString) :=
  match str with
  | none => .ok (.ok (), none)
  | some str =>
      if length = 0 then .ok (.ok (), none)
      else do
        let buffer ← buffer (prepareToWrite memory self_ length)
        let bytes ← loadBytes str 0 length
        let chars ← store buffer.chars 0 bytes
        let chars ← store chars length [0]
        .ok (.ok (), some { buffer with chars })

/-- `GG_String_Assign`. -/
def assign (self_ : GgString) (str : Option (List UInt8)) : Access (Except Error Unit × GgString) :=
  match str with
  | none => .ok (.ok (), none)
  | some str => do
      let length ← strlen str
      assignN memory self_ (some str) length

/-- `GG_String_SetLength`. -/
def setLength (self_ : GgString) (length : Nat) : Access (Except Error Unit × GgString) :=
  match self_ with
  | none => .ok (if length = 0 then .ok () else .error .invalidParameters, none)
  | some buffer =>
      if length ≤ buffer.allocated then do
        let chars ← store buffer.chars length [0]
        .ok (.ok (), some { buffer with length, chars })
      else .ok (.error .invalidParameters, some buffer)

/-- `GG_String_AppendSubString`. -/
def appendSubString (self_ : GgString) (str : Option (List UInt8)) (length : Nat) :
    Access (Except Error Unit × GgString) :=
  match str with
  | none => .ok (.ok (), self_)
  | some str =>
      if length = 0 then .ok (.ok (), self_)
      else do
        let oldLength := getLength self_
        let newLength := oldLength + length
        let (result, self_) ← reserve memory self_ newLength
        match result with
        | .error e => .ok (.error e, self_)
        | .ok () => do
            let buffer ← buffer self_
            let bytes ← loadBytes str 0 length
            let chars ← store buffer.chars oldLength bytes
            let chars ← store chars newLength [0]
            .ok (.ok (), some { buffer with length := newLength, chars })

/-- `GG_String_Append`. -/
def append (self_ : GgString) (str : Option (List UInt8)) : Access (Except Error Unit × GgString) :=
  match str with
  | none => .ok (.ok (), self_)
  | some str => do
      let first ← load str 0
      if first = 0 then .ok (.ok (), self_)
      else do
        let length ← strlen str
        appendSubString memory self_ (some str) length

/-- The copy of the beginning of the old string in `GG_String_Insert`. -/
def copyBeginning (self_ : GgString) (place : Nat) (chars : List UInt8) : Access (List UInt8) :=
  if place > 0 then do
    let src ← buffer self_
    let bytes ← loadBytes src.chars 0 place
    store chars 0 bytes
  else .ok chars

/-- The copy of the end of the old string in `GG_String_Insert`. -/
def copyEnd (self_ : GgString) (place strLength : Nat) (chars : List UInt8) : Access (List UInt8) :=
  if getLength self_ > place then do
    let src ← buffer self_
    let rest ← strlen (src.chars.drop place)
    let bytes ← loadBytes src.chars place (rest + 1)
    store chars (place + strLength) bytes
  else .ok chars

/-- `GG_String_Insert`. -/
def insert (self_ : GgString) (str : Option (List UInt8)) (place : Nat) : Access (Except Error Unit × GgString) :=
  match str with
  | none => .ok (.ok (), self_)
  | some str =>
      if place > getLength self_ then .ok (.error .invalidParameters, self_)
      else do
        let strLength ← strlen str
        if strLength = 0 then .ok (.ok (), self_)
        else do
          let oldLength := getLength self_
          let newLength := strLength + oldLength
          match allocate memory newLength newLength with
          | none => .ok (.error .outOfMemory, self_)
          | some nst => do
              let chars ← copyBeginning self_ place nst.chars
              let bytes ← loadBytes str 0 (strLength + 1)
              let chars ← store chars place bytes
              let chars ← copyEnd self_ place strLength chars
              .ok (.ok (), some { nst with chars })

end Model

/-! ## Trimming -/

/-- If a character is one of a string. -/
def isOneOf : List UInt8 → UInt8 → Access Bool
  | [], _ => .error .outOfBounds
  | x :: chars, c => if x = 0 then .ok false else if x = c then .ok true else isOneOf chars c

/-- The loop of `GG_String_TrimCharsLeft` that looks for the first character that stays. -/
def leftEnd (chars : List UInt8) : List UInt8 → Access Nat
  | [] => .error .outOfBounds
  | c :: s =>
      if c = 0 then .ok 0
      else do
        if ← isOneOf chars c then do
          let trimmed ← leftEnd chars s
          .ok (trimmed + 1)
        else .ok 0

/-- The loop of `GG_String_TrimCharsLeft` that shifts the characters. -/
def shiftLeft : Nat → List UInt8 → Nat → Nat → Access (List UInt8)
  | 0, _, _, _ => .error .diverges
  | fuel + 1, chars, d, s => do
      let c ← load chars s
      let chars ← store chars d [c]
      if c ≠ 0 then shiftLeft fuel chars (d + 1) (s + 1) else .ok chars

/-- `GG_String_TrimCharsLeft`. -/
def trimCharsLeft (self_ : GgString) (chars : List UInt8) : Access GgString :=
  match self_ with
  | none => .ok none
  | some buffer => do
      let trimmed ← leftEnd chars buffer.chars
      if trimmed = 0 then .ok (some buffer)
      else do
        let shifted ← shiftLeft buffer.chars.length buffer.chars 0 trimmed
        .ok (some { buffer with length := buffer.length - trimmed, chars := shifted })

/-- The loop of `GG_String_TrimCharsRight`, with the number of characters up to the one that it looks at. -/
def rightEnd (set_ : List UInt8) : Nat → List UInt8 → Access (Nat × List UInt8)
  | 0, chars => .ok (0, chars)
  | s + 1, chars => do
      let c ← load chars s
      if ← isOneOf set_ c then do
        let chars ← store chars s [0]
        rightEnd set_ s chars
      else .ok (s + 1, chars)

/-- `GG_String_TrimCharsRight`. -/
def trimCharsRight (self_ : GgString) (set_ : List UInt8) : Access GgString :=
  match self_ with
  | none => .ok none
  | some buffer => do
      let first ← load buffer.chars 0
      if first = 0 then .ok (some buffer)
      else do
        let (s, chars) ← rightEnd set_ buffer.length buffer.chars
        if s = buffer.length then .ok (some { buffer with chars })
        else .ok (some { buffer with length := asSize (1 + asInt (s - 1)), chars })

/-! ## Looking for something -/

/-- `GG_StringStartsWith`, for pointers that are there. -/
def stringStartsWith : List UInt8 → List UInt8 → Access Int
  | c :: str, d :: sub =>
      if c = d then (if c = 0 then .ok 1 else stringStartsWith str sub)
      else .ok (if d = 0 then 1 else if c = 0 then -1 else 0)
  | _, _ => .error .outOfBounds

/-- `GG_String_StartsWith`. -/
def startsWith (self_ : GgString) (s : Option (List UInt8)) : Access Bool :=
  match s with
  | none => .ok false
  | some s => do
      let starts ← stringStartsWith (getChars self_) s
      .ok (starts = 1)

/-- `GG_String_EndsWith`. -/
def endsWith (self_ : GgString) (s : Option (List UInt8)) : Access Bool :=
  match s with
  | none => .ok false
  | some s => do
      let first ← load s 0
      if first = 0 then .ok true
      else do
        let strLength ← strlen s
        if strLength > getLength self_ then .ok false
        else do
          let buffer ← buffer self_
          let starts ← stringStartsWith (buffer.chars.drop (getLength self_ - strLength)) s
          .ok (starts = 1)

/-- The loop of `GG_String_FindStringFrom`, at an offset of the characters. -/
def findString (str : List UInt8) : Nat → List UInt8 → Access Int
  | _, [] => .error .outOfBounds
  | offset, c :: src =>
      if c = 0 then .ok (-1)
      else do
        let cmp ← stringStartsWith (c :: src) str
        if cmp = -1 then .ok (-1)
        else if cmp = 1 then .ok (asInt offset)
        else findString str (offset + 1) src

/-- `GG_String_FindStringFrom`. -/
def findStringFrom (self_ : GgString) (str : Option (List UInt8)) (start : Nat) : Access Int :=
  match str with
  | none => .ok (-1)
  | some str =>
      if start ≥ getLength self_ then .ok (-1)
      else do
        let buffer ← buffer self_
        findString str start (buffer.chars.drop start)

/-- The loop of `GG_String_FindCharFrom`, at an offset of the characters. -/
def findChar (c : UInt8) : Nat → List UInt8 → Access Int
  | _, [] => .error .outOfBounds
  | offset, d :: src =>
      if d = 0 then .ok (-1) else if d = c then .ok (asInt offset) else findChar c (offset + 1) src

/-- `GG_String_FindCharFrom`. -/
def findCharFrom (self_ : GgString) (c : UInt8) (start : Nat) : Access Int :=
  if start ≥ getLength self_ then .ok (-1)
  else do
    let buffer ← buffer self_
    findChar c start (buffer.chars.drop start)

/-- The loop of `GG_String_ReverseFindCharFrom`, over the characters before an index. -/
def reverseFindChar (src : List UInt8) (c : UInt8) : Nat → Access Int
  | 0 => .ok (-1)
  | i + 1 => do
      let d ← load src i
      if d = c then .ok i else reverseFindChar src c i

/-- `GG_String_ReverseFindCharFrom`. -/
def reverseFindCharFrom (self_ : GgString) (c : UInt8) (start : UInt32) : Access Int :=
  let src := getChars self_
  let i := asInt (asSize (getLength self_ - start.toNat - 1))
  if i < 0 then .ok (-1) else reverseFindChar src c (i + 1).toNat

/-- The loop of `GG_String_ReverseFindString`, over the places before an index. -/
def reverseFind (src s : List UInt8) : Nat → Access Int
  | 0 => .ok (-1)
  | i + 1 => do
      let cmp ← stringStartsWith (src.drop i) s
      if cmp = 1 then .ok i else reverseFind src s i

/-- `GG_String_ReverseFindString`. -/
def reverseFindString (self_ : GgString) (s : List UInt8) : Access Int := do
  let sLength ← strlen s
  let i := asInt (asSize (getLength self_ - sLength))
  if i < 0 then .ok (-1) else reverseFind (getChars self_) s (i + 1).toNat

end GoldenGate.Strings
