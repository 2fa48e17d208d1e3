import GoldenGate.Diagnostics.Records

/-! # The ledger of a storage

What the storage is for: a list of all records that were added, of which the oldest ones are gone,
and handles that each cover the records up to their creation and go on where they were. The storage
does the same with its counts and offsets.
-/

namespace GoldenGate.Diagnostics

open Memory

/-! ## The ledger -/

/-- A handle of the ledger. It covers the first `created` records, and has returned some. -/
structure LedgerHandle where
  handle : UInt16
  created : Nat
  next : Nat
  returned : List Nat
  deriving Repr, DecidableEq

/-- All records that were added, how many of them are gone, and the handles that cover some. -/
structure Ledger where
  history : List Record
  removed : Nat
  handles : List LedgerHandle
  nextHandle : UInt16
  deriving Repr, DecidableEq

/-- A call of the storage. -/
inductive StorageCall where
  | addRecord (payload : Record)
  | getRecords (handle size : UInt16)
  | deleteRecords (handle : UInt16)
  deriving Repr, DecidableEq

/-- What a call returns. -/
inductive StorageAnswer where
  | result (result : Except Error Unit)
  | got (got : RamStorage.Got)
  deriving DecidableEq

/-- A payload that fits, or is refused as it should. -/
def Addable (size : Nat) (payload : Record) : Prop :=
  payload = [] ∨ size < u16 (2 + payload.length) ∨ 2 + payload.length < size

instance (size : Nat) (payload : Record) : Decidable (Addable size payload) := inferInstanceAs (Decidable (_ ∨ _ ∨ _))

/-- A length is a `uint16_t`. -/
def StorageCall.Permitted (size : Nat) : StorageCall → Prop
  | .addRecord payload => payload.length < 2 ^ 16 ∧ Addable size payload
  | _ => True

instance (size : Nat) : (call : StorageCall) → Decidable (call.Permitted size)
  | .addRecord _ => inferInstanceAs (Decidable (_ ∧ _))
  | .getRecords _ _ | .deleteRecords _ => isTrue trivial

namespace Ledger

def empty : Ledger := ⟨[], 0, [], recordHandleMin⟩

/-- The records that are not gone. -/
def stored (self : Ledger) : List Record := self.history.drop self.removed

/-- More of the oldest records go, and with them the handles that cover no other ones. -/
def remove (self : Ledger) (count : Nat) : Ledger :=
  if count = 0 then self
  else { self with
    removed := self.removed + count
    handles := self.handles.filter (self.removed + count < ·.created) }

/-- A record comes in for as many of the oldest ones as it takes. -/
def add (self : Ledger) (size : Nat) (payload : Record) : Ledger × Except Error Unit :=
  if payload = [] then (self, .error .invalidParameters)
  else if size < 2 + payload.length then (self, .error .notEnoughSpace)
  else
    let self := self.remove (evictions (size - 1) (2 + payload.length) self.stored)
    ({ self with history := self.history ++ [payload] }, .ok ())

/-- Where a handle goes on: records may have gone before it returned them. -/
def position (self : Ledger) (handle : LedgerHandle) : Nat := max handle.next self.removed

/-- The records that a handle covers and has not come to. -/
def pending (self : Ledger) (handle : LedgerHandle) : List Record :=
  (self.history.take handle.created).drop (self.position handle)

def LedgerHandle.advance (handle : LedgerHandle) (position count : Nat) : LedgerHandle :=
  { handle with next := position + count, returned := handle.returned ++ List.range' position count }

/-- The first handle with a number goes on. -/
def advance (removed : Nat) (number : UInt16) (count : Nat) : List LedgerHandle → List LedgerHandle
  | [] => []
  | handle :: rest =>
      if handle.handle = number then LedgerHandle.advance handle (max handle.next removed) count :: rest
      else handle :: advance removed number count rest

def got (handle : UInt16) (records : List Record) : RamStorage.Got := ⟨handle, (encode records).length, encode records⟩

/-- A handle returns the next records that it covers, as many as fit. -/
def getTracked (self : Ledger) (handle : LedgerHandle) (size : Nat) : Ledger × RamStorage.Got :=
  let records := fitting size (self.pending handle)
  ({ self with handles := advance self.removed handle.handle records.length self.handles }, got handle.handle records)

/-- A new handle covers the records that are stored. -/
def create (self : Ledger) : LedgerHandle × Ledger :=
  let handle : LedgerHandle := ⟨self.nextHandle, self.history.length, self.removed, []⟩
  (handle, { self with
    handles := handle :: self.handles
    nextHandle := if self.nextHandle = recordHandleMax then recordHandleMin else self.nextHandle + 1 })

def get (self : Ledger) (handle size : UInt16) : Ledger × RamStorage.Got :=
  if handle = recordHandleGenerate then self.create.2.getTracked self.create.1 size.toNat
  else if handle = recordHandleRemove then
    let records := fitting size.toNat self.stored
    (self.remove records.length, got handle records)
  else
    match self.handles.find? (·.handle = handle) with
    | none => (self, got handle [])
    | some tracked => self.getTracked tracked size.toNat

/-- The records that a handle covers go. -/
def delete (self : Ledger) (handle : UInt16) : Ledger × Except Error Unit :=
  if handle = recordHandleGenerate then (self, .error .invalidParameters)
  else if handle = recordHandleRemove then (self.remove self.stored.length, .ok ())
  else
    match self.handles.find? (·.handle = handle) with
    | none => (self, .ok ())
    | some tracked => (self.remove (tracked.created - self.removed), .ok ())

def call (self : Ledger) (size : Nat) : StorageCall → Ledger × StorageAnswer
  | .addRecord payload => ((self.add size payload).1, .result (self.add size payload).2)
  | .getRecords handle bufferSize => ((self.get handle bufferSize).1, .got (self.get handle bufferSize).2)
  | .deleteRecords handle => ((self.delete handle).1, .result (self.delete handle).2)

def run (self : Ledger) (size : Nat) : List StorageCall → Ledger × List StorageAnswer
  | [] => (self, [])
  | call :: calls =>
      let (self, answer) := self.call size call
      let (self, answers) := self.run size calls
      (self, answer :: answers)

/-! ## What handles return -/

/-- A handle has returned records that it covers, each once and in order, and of those that are
    stored none before `next` is missing. -/
structure HandleSound (removed length : Nat) (handle : LedgerHandle) : Prop where
  alive : removed ≤ handle.created
  created_le : handle.created ≤ length
  next_le : handle.next ≤ handle.created
  increasing : handle.returned.Pairwise (· < ·)
  returned_lt : ∀ serial ∈ handle.returned, serial < handle.next
  complete : ∀ serial, removed ≤ serial → serial < handle.next → serial ∈ handle.returned

structure Sound (ledger : Ledger) : Prop where
  removed_le : ledger.removed ≤ ledger.history.length
  handles : ∀ handle ∈ ledger.handles, HandleSound ledger.removed ledger.history.length handle

theorem sound_empty : Sound empty := ⟨Nat.le_refl 0, fun _ member => nomatch member⟩

theorem length_stored (self : Ledger) : self.stored.length = self.history.length - self.removed := List.length_drop

theorem HandleSound.later {removed removed' length length' : Nat} {handle : LedgerHandle}
    (sound : HandleSound removed length handle) (le : removed ≤ removed') (alive : removed' ≤ handle.created)
    (longer : length ≤ length') : HandleSound removed' length' handle where
  alive := alive
  created_le := Nat.le_trans sound.created_le longer
  next_le := sound.next_le
  increasing := sound.increasing
  returned_lt := sound.returned_lt
  complete := fun serial low => sound.complete serial (Nat.le_trans le low)

theorem Sound.remove {ledger : Ledger} (sound : Sound ledger) {count : Nat}
    (few : count ≤ ledger.stored.length) : Sound (ledger.remove count) := by
  rw [length_stored] at few
  have le := sound.removed_le
  unfold Ledger.remove
  split
  case isTrue => exact sound
  case isFalse some_ =>
      refine ⟨(by dsimp only; omega), ?_⟩
      intro handle member
      obtain ⟨old, later⟩ := List.mem_filter.mp member
      exact (sound.handles handle old).later (Nat.le_add_right _ _) (Nat.le_of_lt (of_decide_eq_true later)) (Nat.le_refl _)

theorem Sound.add {ledger : Ledger} (sound : Sound ledger) (size : Nat) (payload : Record) :
    Sound (ledger.add size payload).1 := by
  unfold Ledger.add
  split
  case isTrue => exact sound
  case isFalse =>
      split
      case isTrue => exact sound
      case isFalse =>
          have sound' := sound.remove (evictions_le (size - 1) (2 + payload.length) ledger.stored)
          generalize ledger.remove (evictions (size - 1) (2 + payload.length) ledger.stored) = after at sound'
          have longer : after.history.length ≤ (after.history ++ [payload]).length := by simp
          exact ⟨Nat.le_trans sound'.removed_le longer, fun handle member =>
            (sound'.handles handle member).later (Nat.le_refl _) (sound'.handles handle member).alive longer⟩

/-- A handle that goes on has returned what it passed. -/
theorem HandleSound.advance {removed length count : Nat} {handle : LedgerHandle} (sound : HandleSound removed length handle)
    (few : max handle.next removed + count ≤ handle.created) :
    HandleSound removed length (LedgerHandle.advance handle (max handle.next removed) count) where
  alive := sound.alive
  created_le := sound.created_le
  next_le := few
  increasing := by
    refine List.pairwise_append.mpr ⟨sound.increasing, List.pairwise_lt_range', ?_⟩
    intro serial old serial' new
    have before := sound.returned_lt serial old
    obtain ⟨i, _, rfl⟩ := List.mem_range'.mp new
    omega
  returned_lt := by
    intro serial member
    simp only [LedgerHandle.advance, List.mem_append, List.mem_range'_1] at member ⊢
    rcases member with old | ⟨_, high⟩
    · have before := sound.returned_lt serial old
      omega
    · exact high
  complete := by
    intro serial low high
    simp only [LedgerHandle.advance, List.mem_append, List.mem_range'_1] at high ⊢
    rcases Nat.lt_or_ge serial handle.next with before | after
    · exact .inl (sound.complete serial low before)
    · exact .inr ⟨by omega, high⟩

theorem advance_sound {removed length count : Nat} {number : UInt16} {handles : List LedgerHandle}
    (sound : ∀ handle ∈ handles, HandleSound removed length handle) {tracked : LedgerHandle}
    (found : handles.find? (·.handle = number) = some tracked)
    (few : max tracked.next removed + count ≤ tracked.created) :
    ∀ handle ∈ advance removed number count handles, HandleSound removed length handle := by
  induction handles with
  | nil => cases found
  | cons first rest ih =>
      unfold advance
      rw [List.find?_cons] at found
      split
      case isTrue isNumber =>
          rw [decide_eq_true isNumber] at found
          cases found
          intro handle member
          rcases List.mem_cons.mp member with rfl | other
          · exact (sound _ List.mem_cons_self).advance few
          · exact sound handle (List.mem_cons_of_mem _ other)
      case isFalse notNumber =>
          rw [decide_eq_false notNumber] at found
          intro handle member
          rcases List.mem_cons.mp member with rfl | other
          · exact sound handle List.mem_cons_self
          · exact ih (fun h m => sound h (List.mem_cons_of_mem _ m)) found handle other

theorem length_pending (self : Ledger) {handle : LedgerHandle}
    (sound : HandleSound self.removed self.history.length handle) :
    (self.pending handle).length = handle.created - self.position handle := by
  rw [pending, List.length_drop, List.length_take, Nat.min_eq_left sound.created_le]

theorem Sound.getTracked {ledger : Ledger} (sound : Sound ledger) {handle : LedgerHandle} (size : Nat)
    (found : ledger.handles.find? (·.handle = handle.handle) = some handle) : Sound (ledger.getTracked handle size).1 := by
  have isSound := sound.handles handle (List.mem_of_find?_eq_some found)
  have few := (fitting_starts size (ledger.pending handle)).length_le
  rw [length_pending ledger isSound, position] at few
  have alive := isSound.alive
  have next := isSound.next_le
  exact ⟨sound.removed_le, advance_sound sound.handles found (by omega)⟩

theorem Sound.create {ledger : Ledger} (sound : Sound ledger) : Sound ledger.create.2 := by
  refine ⟨sound.removed_le, ?_⟩
  intro handle member
  rcases List.mem_cons.mp member with rfl | old
  · exact ⟨sound.removed_le, Nat.le_refl _, sound.removed_le, List.Pairwise.nil, (fun _ member => nomatch member),
      fun serial low high => absurd high (Nat.not_lt.mpr low)⟩
  · exact sound.handles handle old

theorem find_create (self : Ledger) : self.create.2.handles.find? (·.handle = self.create.1.handle) = some self.create.1 := by
  simp [create]

theorem find_number {handles : List LedgerHandle} {number : UInt16} {tracked : LedgerHandle}
    (found : handles.find? (·.handle = number) = some tracked) : tracked.handle = number := by
  simpa using List.find?_some found

theorem Sound.get {ledger : Ledger} (sound : Sound ledger) (handle size : UInt16) : Sound (ledger.get handle size).1 := by
  unfold Ledger.get
  split
  case isTrue => exact sound.create.getTracked size.toNat (find_create ledger)
  case isFalse =>
      split
      case isTrue => exact sound.remove (fitting_starts _ _).length_le
      case isFalse =>
          cases found : ledger.handles.find? (·.handle = handle) with
          | none => exact sound
          | some tracked => exact sound.getTracked size.toNat (by rw [find_number found, found])

theorem Sound.delete {ledger : Ledger} (sound : Sound ledger) (handle : UInt16) : Sound (ledger.delete handle).1 := by
  unfold Ledger.delete
  split
  case isTrue => exact sound
  case isFalse =>
      split
      case isTrue => exact sound.remove (Nat.le_refl _)
      case isFalse =>
          cases found : ledger.handles.find? (·.handle = handle) with
          | none => exact sound
          | some tracked =>
              have isSound := sound.handles tracked (List.mem_of_find?_eq_some found)
              exact sound.remove (by rw [length_stored]; exact Nat.sub_le_sub_right isSound.created_le _)

end Ledger

end GoldenGate.Diagnostics
