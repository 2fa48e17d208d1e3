import GoldenGate.Common.Result
import GoldenGate.Common.Utils
import GoldenGate.Lib.Memory

/-! # Streams and full transfers

The embedding of the functions of `gg_io.c` that read and write a given number of bytes, over any streams that keep to
the interface. A stream may transfer less than it is asked for, nothing at all, or fail, with each call.
-/

namespace GoldenGate.Streams

open Memory

/-- `GG_InputStream`: what `Read` returns for a number of bytes, and the bytes that are still to come. -/
structure InputStream (σ : Type) where
  read : σ → Nat → Except Error (List UInt8) × σ
  content : σ → List UInt8
  length_read : ∀ {s n bytes s'}, read s n = (.ok bytes, s') → bytes.length ≤ n
  content_read : ∀ {s n bytes s'}, read s n = (.ok bytes, s') → content s = bytes ++ content s'
  content_fails : ∀ {s n e s'}, read s n = (.error e, s') → content s' = content s

/-- `GG_OutputStream`: what `Write` does with some bytes, and the bytes that it has taken. -/
structure OutputStream (σ : Type) where
  write : σ → List UInt8 → Except Error Nat × σ
  written : σ → List UInt8
  write_le : ∀ {s bytes n s'}, write s bytes = (.ok n, s') → n ≤ bytes.length
  written_write : ∀ {s bytes n s'}, write s bytes = (.ok n, s') → written s' = written s ++ bytes.take n

/-- A pointer that a stream reads into: inside of the buffer of the caller, or an integer that was made a pointer. -/
inductive Target where
  | inside (offset : Nat)
  | stray (address : Nat)
  deriving Repr, DecidableEq

/-- What the stream does with the pointer: nothing is stored when there is nothing to store. -/
def deliver (buffer : List UInt8) : Target → List UInt8 → Access (List UInt8)
  | .inside offset, bytes => store buffer offset bytes
  | .stray _, [] => .ok buffer
  | .stray _, _ :: _ => .error .outOfBounds

/-- `GG_InputStream_Read`. -/
def readInto {σ : Type} (stream : InputStream σ) (s : σ) (buffer : List UInt8) (target : Target) (bytesToRead : Nat) :
    Access (Except Error Nat × List UInt8 × σ) :=
  match stream.read s bytesToRead with
  | (.error e, s') => .ok (.error e, buffer, s')
  | (.ok bytes, s') => do
      let buffer ← deliver buffer target bytes
      .ok (.ok bytes.length, buffer, s')

/-- `GG_InputStream_ReadFully`. -/
def readFully {σ : Type} (stream : InputStream σ) (s : σ) (buffer : List UInt8) (target : Target) (bytesToRead : Nat) :
    Access (Except Error Unit × List UInt8 × σ) :=
  if bytesToRead = 0 then .ok (.ok (), buffer, s)
  else do
    let (result, buffer, s) ← readInto stream s buffer target bytesToRead
    match result with
    | .error e => .ok (.error e, buffer, s)
    | .ok bytesRead =>
        if bytesRead = 0 then .ok (.error .internal, buffer, s)
        else
          -- the source adds to the number of bytes that were read, not to the buffer
          readFully stream s buffer (.stray (bytesRead + bytesRead)) (bytesToRead - bytesRead)
termination_by bytesToRead
decreasing_by omega

/-- What `GG_InputStream_ReadUI16` and its siblings do: the bytes go to a local buffer, and the value is zero when
    they cannot be read. -/
def readInteger {σ α : Type} (stream : InputStream σ) (s : σ) (size : Nat) (convert : List UInt8 → α) (zero : α) :
    Access (Except Error Unit × α × σ) := do
  let (result, buffer, s) ← readFully stream s (List.replicate size 0) (.inside 0) size
  match result with
  | .error e => .ok (.error e, zero, s)
  | .ok () => .ok (.ok (), convert buffer, s)

/-- `GG_InputStream_ReadUI16`. -/
def readUi16 {σ : Type} (stream : InputStream σ) (s : σ) : Access (Except Error Unit × UInt16 × σ) :=
  readInteger stream s 2 (fun buffer => bytesToInt16Be (buffer.getD 0 0) (buffer.getD 1 0)) 0

/-- `GG_InputStream_ReadUI32`. -/
def readUi32 {σ : Type} (stream : InputStream σ) (s : σ) : Access (Except Error Unit × UInt32 × σ) :=
  readInteger stream s 4
    (fun buffer => bytesToInt32Be (buffer.getD 0 0) (buffer.getD 1 0) (buffer.getD 2 0) (buffer.getD 3 0)) 0

/-- `GG_InputStream_ReadUI64`. -/
def readUi64 {σ : Type} (stream : InputStream σ) (s : σ) : Access (Except Error Unit × UInt64 × σ) :=
  readInteger stream s 8
    (fun buffer => bytesToInt64Be (buffer.getD 0 0) (buffer.getD 1 0) (buffer.getD 2 0) (buffer.getD 3 0)
      (buffer.getD 4 0) (buffer.getD 5 0) (buffer.getD 6 0) (buffer.getD 7 0)) 0

/-- `GG_OutputStream_WriteFully`, from an offset of the buffer on. -/
def writeFully {σ : Type} (stream : OutputStream σ) (s : σ) (buffer : List UInt8) (offset bytesToWrite : Nat) :
    Access (Except Error Unit × σ) :=
  if bytesToWrite = 0 then .ok (.ok (), s)
  else do
    let bytes ← loadBytes buffer offset bytesToWrite
    match stream.write s bytes with
    | (.error e, s') => .ok (.error e, s')
    | (.ok bytesWritten, s') =>
        if bytesWritten = 0 then .ok (.error .internal, s')
        else do
          assert (bytesWritten ≤ bytesToWrite)
          writeFully stream s' buffer (offset + bytesWritten) (bytesToWrite - bytesWritten)
termination_by bytesToWrite
decreasing_by omega

/-! ## Full reads -/

section Reading

variable {σ : Type} (stream : InputStream σ)

/-- The function reports an error, or the next bytes of the stream are in the buffer, and nothing else is. -/
def ReadsFully (s : σ) (buffer : List UInt8) (n : Nat) : Prop :=
  ∃ result buffer' s', readFully stream s buffer (.inside 0) n = .ok (result, buffer', s') ∧
    (result = .ok () → ∃ bytes, bytes.length = n ∧ stream.content s = bytes ++ stream.content s' ∧
      buffer' = bytes ++ buffer.drop n)

def GivesNothing (s : σ) (n : Nat) : Prop := ∀ bytes s', stream.read s n = (.ok bytes, s') → bytes = []

/-- The first read gives all that is asked for, or it or the one after it gives nothing. -/
def InOnePiece (s : σ) (n : Nat) : Prop :=
  n = 0 ∨ ∀ bytes s', stream.read s n = (.ok bytes, s') →
    bytes = [] ∨ bytes.length = n ∨ GivesNothing stream s' (n - bytes.length)

theorem readFully_zero (s : σ) (buffer : List UInt8) (target : Target) :
    readFully stream s buffer target 0 = .ok (.ok (), buffer, s) := by
  rw [readFully, if_pos rfl]

variable {stream}

theorem readFully_fails {s s' : σ} {n : Nat} {e : Error} (some : n ≠ 0) (reads : stream.read s n = (.error e, s'))
    (buffer : List UInt8) (target : Target) :
    readFully stream s buffer target n = .ok (.error e, buffer, s') := by
  rw [readFully, if_neg some, readInto, reads]
  rfl

theorem readFully_empty {s s' : σ} {n : Nat} (some : n ≠ 0) (reads : stream.read s n = (.ok [], s'))
    {buffer : List UInt8} {target : Target} (stays : deliver buffer target [] = .ok buffer) :
    readFully stream s buffer target n = .ok (.error .internal, buffer, s') := by
  rw [readFully, if_neg some, readInto, reads]
  simp only [stays, ok_bind, List.length_nil, if_true]

theorem readFully_next {s s' : σ} {n : Nat} {bytes : List UInt8} (some : n ≠ 0) (more : bytes ≠ [])
    (reads : stream.read s n = (.ok bytes, s')) (buffer : List UInt8) (target : Target) :
    readFully stream s buffer target n = (deliver buffer target bytes >>= fun buffer =>
      readFully stream s' buffer (.stray (bytes.length + bytes.length)) (n - bytes.length)) := by
  have length : bytes.length ≠ 0 := by simpa using more
  rw [readFully, if_neg some, readInto, reads]
  cases stored : deliver buffer target bytes with
  | error fault => simp [stored]
  | ok buffer => simp only [stored, ok_bind, if_neg length]

/-- A read through the stray pointer gives nothing, or it stores its bytes where they do not belong. -/
theorem readFully_stray (s : σ) {n : Nat} (some : n ≠ 0) (buffer : List UInt8) (address : Nat) :
    (GivesNothing stream s n →
      ∃ e s', readFully stream s buffer (.stray address) n = .ok (.error e, buffer, s')) ∧
    (¬ GivesNothing stream s n → readFully stream s buffer (.stray address) n = .error .outOfBounds) := by
  obtain ⟨⟨result, s'⟩, reads⟩ : ∃ answer, stream.read s n = answer := ⟨_, rfl⟩
  cases result with
  | error e =>
      refine ⟨fun _ => ⟨e, s', readFully_fails some reads buffer _⟩, fun gives => absurd ?_ gives⟩
      intro bytes t isOk
      rw [reads] at isOk
      cases isOk
  | ok bytes =>
      cases bytes with
      | nil =>
          refine ⟨fun _ => ⟨_, s', readFully_empty some reads rfl⟩, fun gives => absurd ?_ gives⟩
          intro bytes t isOk
          rw [reads] at isOk
          cases isOk
          rfl
      | cons byte bytes =>
          refine ⟨fun nothing => absurd (nothing _ _ reads) (List.cons_ne_nil byte bytes), fun _ => ?_⟩
          rw [readFully_next some (List.cons_ne_nil byte bytes) reads]
          rfl

/-- The first read is right; what comes after it is only when it stores nothing. -/
theorem readFully_outcome (s : σ) {buffer : List UInt8} {n : Nat} (room : n ≤ buffer.length) :
    InOnePiece stream s n ∧ ReadsFully stream s buffer n ∨
      ¬ InOnePiece stream s n ∧ readFully stream s buffer (.inside 0) n = .error .outOfBounds := by
  by_cases none : n = 0
  · subst none
    exact .inl ⟨.inl rfl, .ok (), buffer, s, readFully_zero stream s buffer _, fun _ => ⟨[], rfl, rfl, rfl⟩⟩
  obtain ⟨⟨result, s'⟩, reads⟩ : ∃ answer, stream.read s n = answer := ⟨_, rfl⟩
  have only : ∀ bytes t, stream.read s n = (.ok bytes, t) → result = .ok bytes ∧ s' = t := by
    intro bytes t isOk
    rw [reads] at isOk
    cases isOk
    exact ⟨rfl, rfl⟩
  cases result with
  | error e =>
      refine .inl ⟨.inr ?_, .error e, buffer, s', readFully_fails none reads buffer _, fun same => (by cases same)⟩
      intro bytes t isOk
      cases (only bytes t isOk).1
  | ok bytes =>
      by_cases empty : bytes = []
      · subst empty
        have stays : deliver buffer (.inside 0) [] = .ok buffer := by simp [deliver, store]
        refine .inl ⟨.inr ?_, _, buffer, s', readFully_empty none reads stays, fun same => (by cases same)⟩
        intro bytes t isOk
        cases (only bytes t isOk).1
        exact .inl rfl
      · have length := stream.length_read reads
        have stored : deliver buffer (.inside 0) bytes = .ok (bytes ++ buffer.drop bytes.length) :=
          store_zero buffer bytes (Nat.le_trans length room)
        have next := readFully_next none empty reads buffer (.inside 0)
        rw [stored, ok_bind] at next
        by_cases whole : bytes.length = n
        · subst whole
          rw [Nat.sub_self, readFully_zero] at next
          refine .inl ⟨.inr ?_, _, _, s', next, fun _ => ⟨bytes, rfl, stream.content_read reads, rfl⟩⟩
          intro others t isOk
          cases (only others t isOk).1
          exact .inr (.inl rfl)
        · have stray := @readFully_stray σ stream s' (n - bytes.length) (by omega)
            (bytes ++ buffer.drop bytes.length) (bytes.length + bytes.length)
          by_cases nothing : GivesNothing stream s' (n - bytes.length)
          · obtain ⟨e, s'', fails⟩ := stray.1 nothing
            refine .inl ⟨.inr ?_, .error e, _, s'', next.trans fails, fun same => (by cases same)⟩
            intro others t isOk
            obtain ⟨same, rfl⟩ := only others t isOk
            cases same
            exact .inr (.inr nothing)
          · refine .inr ⟨?_, next.trans (stray.2 nothing)⟩
            rintro (zero | pieces)
            · exact none zero
            · rcases pieces bytes s' reads with isEmpty | isWhole | isNothing
              · exact empty isEmpty
              · exact whole isWhole
              · exact nothing isNothing

theorem readsFully_iff (s : σ) {buffer : List UInt8} {n : Nat} (room : n ≤ buffer.length) :
    ReadsFully stream s buffer n ↔ InOnePiece stream s n := by
  rcases readFully_outcome s room with ⟨pieces, reads⟩ | ⟨pieces, faults⟩
  · exact iff_of_true reads pieces
  · refine iff_of_false ?_ pieces
    rintro ⟨result, buffer', s', runs, -⟩
    rw [faults] at runs
    cases runs

/-! ## Integers -/

/-- The number whose digits to the base 256 are the bytes, the first one first. -/
def bigEndian (bytes : List UInt8) : Nat := bytes.foldl (fun n byte => n * 256 + byte.toNat) 0

variable (stream) in
/-- The function reports an error, or its value is the one of the next bytes of the stream. -/
def ReadsInteger (s : σ) (size : Nat) {α : Type} (toNat : α → Nat) (run : Access (Except Error Unit × α × σ)) : Prop :=
  ∃ result value s', run = .ok (result, value, s') ∧
    (result = .ok () → ∃ bytes, bytes.length = size ∧ stream.content s = bytes ++ stream.content s' ∧
      toNat value = bigEndian bytes)

theorem readsInteger_iff (s : σ) (size : Nat) {α : Type} (toNat : α → Nat) (convert : List UInt8 → α) (zero : α)
    (converts : ∀ bytes, bytes.length = size → toNat (convert bytes) = bigEndian bytes) :
    ReadsInteger stream s size toNat (readInteger stream s size convert zero) ↔ InOnePiece stream s size := by
  have room : size ≤ (List.replicate size (0 : UInt8)).length := Nat.le_of_eq List.length_replicate.symm
  rcases @readFully_outcome σ stream s _ size room with ⟨pieces, result, buffer, s', fully, reads⟩ | ⟨pieces, faults⟩
  · refine iff_of_true ?_ pieces
    cases result with
    | error e => exact ⟨.error e, zero, s', by rw [readInteger, fully]; rfl, nofun⟩
    | ok _ =>
        obtain ⟨bytes, length, next, filled⟩ := reads rfl
        rw [List.drop_of_length_le (Nat.le_of_eq List.length_replicate), List.append_nil] at filled
        refine ⟨.ok (), convert buffer, s', by rw [readInteger, fully]; rfl, fun _ => ⟨bytes, length, next, ?_⟩⟩
        rw [filled, converts bytes length]
  · refine iff_of_false ?_ pieces
    rintro ⟨result, value, s', runs, -⟩
    rw [readInteger, faults] at runs
    cases runs

theorem readUi16_iff (s : σ) :
    ReadsInteger stream s 2 UInt16.toNat (readUi16 stream s) ↔ InOnePiece stream s 2 := by
  apply readsInteger_iff
  intro bytes length
  match bytes, length with
  | [b0, b1], _ => simp [bigEndian]

theorem readUi32_iff (s : σ) :
    ReadsInteger stream s 4 UInt32.toNat (readUi32 stream s) ↔ InOnePiece stream s 4 := by
  apply readsInteger_iff
  intro bytes length
  match bytes, length with
  | [b0, b1, b2, b3], _ => simp [bigEndian, toNat_bytesToInt32Be]

theorem readUi64_iff (s : σ) :
    ReadsInteger stream s 8 UInt64.toNat (readUi64 stream s) ↔ InOnePiece stream s 8 := by
  apply readsInteger_iff
  intro bytes length
  match bytes, length with
  | [b0, b1, b2, b3, b4, b5, b6, b7], _ => simp [bigEndian, toNat_bytesToInt64Be]

end Reading

/-! ## Full writes -/

section Writing

variable {τ : Type} (stream : OutputStream τ)

/-- The function reports an error, or the stream has taken the bytes of the buffer, and no others. -/
def WritesFully (s : τ) (buffer : List UInt8) (offset n : Nat) : Prop :=
  ∃ result s', writeFully stream s buffer offset n = .ok (result, s') ∧
    (result = .ok () → stream.written s' = stream.written s ++ (buffer.drop offset).take n)

theorem writesFully (s : τ) (buffer : List UInt8) (offset n : Nat) (inside : offset + n ≤ buffer.length) :
    WritesFully stream s buffer offset n := by
  induction n using Nat.strong_induction_on generalizing s offset with
  | _ n ih =>
    by_cases none : n = 0
    · subst none
      exact ⟨.ok (), s, by rw [writeFully, if_pos rfl], by simp⟩
    have loads : loadBytes buffer offset n = .ok ((buffer.drop offset).take n) := if_pos inside
    obtain ⟨⟨result, s'⟩, writes⟩ : ∃ answer, stream.write s ((buffer.drop offset).take n) = answer := ⟨_, rfl⟩
    cases result with
    | error e =>
        refine ⟨.error e, s', ?_, nofun⟩
        rw [writeFully, if_neg none, loads]
        simp only [ok_bind, writes]
    | ok k =>
        by_cases empty : k = 0
        · refine ⟨.error .internal, s', ?_, nofun⟩
          rw [writeFully, if_neg none, loads]
          simp only [ok_bind, writes, if_pos empty]
        · have few : k ≤ n := by
            have some := stream.write_le writes
            simp only [List.length_take] at some
            omega
          obtain ⟨result, s'', rest, taken⟩ := ih (n - k) (by omega) s' (offset + k) (by omega)
          refine ⟨result, s'', ?_, ?_⟩
          · rw [writeFully, if_neg none, loads]
            simp only [ok_bind, writes, if_neg empty, assert_of few]
            exact rest
          · intro done
            have split : (buffer.drop offset).take n =
                (buffer.drop offset).take k ++ (buffer.drop (offset + k)).take (n - k) := by
              rw [← List.drop_drop, ← List.take_add, Nat.add_sub_cancel' few]
            rw [taken done, stream.written_write writes, List.take_take, Nat.min_eq_left few, List.append_assoc, split]

end Writing

/-- Reads are right when they are not in pieces, and writes always. -/
theorem full_transfers {σ τ : Type} (input : InputStream σ) (output : OutputStream τ) :
    (∀ s buffer n, n ≤ buffer.length → (ReadsFully input s buffer n ↔ InOnePiece input s n)) ∧
    (∀ s, (ReadsInteger input s 2 UInt16.toNat (readUi16 input s) ↔ InOnePiece input s 2) ∧
      (ReadsInteger input s 4 UInt32.toNat (readUi32 input s) ↔ InOnePiece input s 4) ∧
      (ReadsInteger input s 8 UInt64.toNat (readUi64 input s) ↔ InOnePiece input s 8)) ∧
    (∀ s buffer n, n ≤ buffer.length → WritesFully output s buffer 0 n) :=
  ⟨fun s _ _ room => readsFully_iff s room, fun s => ⟨readUi16_iff s, readUi32_iff s, readUi64_iff s⟩,
    fun s buffer n room => writesFully output s buffer 0 n (by omega)⟩

/-! ## A stream in pieces -/

/-- A stream that gives its content in pieces, each with one call or, when it does not fit, with more. -/
def pieces : InputStream (List (List UInt8)) where
  read
    | [], _ => (.error .eos, [])
    | piece :: rest, n =>
        if piece.length ≤ n then (.ok piece, rest) else (.ok (piece.take n), piece.drop n :: rest)
  content := List.flatten
  length_read := by
    intro s n bytes s' reads
    cases s with
    | nil => cases reads
    | cons piece rest =>
        by_cases fits : piece.length ≤ n
        · simp only [if_pos fits, Prod.mk.injEq, Except.ok.injEq] at reads
          rw [← reads.1]
          exact fits
        · simp only [if_neg fits, Prod.mk.injEq, Except.ok.injEq] at reads
          rw [← reads.1]
          exact List.length_take_le n piece
  content_read := by
    intro s n bytes s' reads
    cases s with
    | nil => cases reads
    | cons piece rest =>
        by_cases fits : piece.length ≤ n
        · simp only [if_pos fits, Prod.mk.injEq, Except.ok.injEq] at reads
          rw [← reads.1, ← reads.2, List.flatten_cons]
        · simp only [if_neg fits, Prod.mk.injEq, Except.ok.injEq] at reads
          rw [← reads.1, ← reads.2, List.flatten_cons, List.flatten_cons, ← List.append_assoc, List.take_append_drop]
  content_fails := by
    intro s n e s' reads
    cases s with
    | nil =>
        cases reads
        rfl
    | cons piece rest =>
        by_cases fits : piece.length ≤ n
        · simp [fits] at reads
        · simp [fits] at reads

/-- Two bytes that the stream gives one by one. -/
theorem not_readsFully_pieces : ¬ ReadsFully pieces [[1], [2]] [0, 0] 2 := by
  rw [readsFully_iff _ (Nat.le_refl 2)]
  rintro (none | whole)
  · cases none
  · rcases whole [1] [[2]] rfl with empty | all | nothing
    · cases empty
    · cases all
    · cases nothing [2] [] rfl

end GoldenGate.Streams
