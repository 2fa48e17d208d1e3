import GoldenGate.Diagnostics.RecordRuns
import Mathlib.Data.List.Find

/-! # The numbers of handles

Handle numbers are given out in turn and start again after the last one, while a handle lives until
the records that it covers are gone. What callers mean is a ledger in which a handle is known by the
caller that it was generated for. The storage does what that ledger does as long as no number is
given out again while a handle has it, and nobody uses a number that a later handle has.
-/

namespace GoldenGate.Diagnostics

/-- The number of the handle that is generated after `caller` other ones. -/
def handleNumber (caller : Nat) : UInt16 := UInt16.ofNat (2 + caller % 65534)

theorem toNat_handleNumber (caller : Nat) : (handleNumber caller).toNat = 2 + caller % 65534 := by
  have small := Nat.mod_lt caller (show 0 < 65534 by decide)
  exact UInt16.toNat_ofNat_of_lt' (by rw [UInt16.size]; omega)

theorem handleNumber_eq_iff {caller other : Nat} :
    handleNumber caller = handleNumber other ↔ caller % 65534 = other % 65534 := by
  rw [← UInt16.toNat_inj, toNat_handleNumber, toNat_handleNumber]
  omega

/-- Neither of the numbers that mean something else is given out. -/
theorem handleNumber_ne (caller : Nat) :
    handleNumber caller ≠ recordHandleGenerate ∧ handleNumber caller ≠ recordHandleRemove := by
  rw [ne_eq, ne_eq, ← UInt16.toNat_inj, ← UInt16.toNat_inj, toNat_handleNumber]
  simp only [recordHandleGenerate, recordHandleRemove, UInt16.reduceToNat]
  omega

theorem handleNumber_succ (caller : Nat) :
    handleNumber (caller + 1) =
      if handleNumber caller = recordHandleMax then recordHandleMin else handleNumber caller + 1 := by
  have next := Nat.add_mod caller 1 65534
  have small := Nat.mod_lt caller (show 0 < 65534 by decide)
  rw [← UInt16.toNat_inj, toNat_handleNumber]
  split
  case isTrue last =>
      rw [← UInt16.toNat_inj, toNat_handleNumber] at last
      simp only [recordHandleMax, recordHandleMin, UInt16.reduceToNat] at last ⊢
      omega
  case isFalse notLast =>
      rw [← UInt16.toNat_inj, toNat_handleNumber] at notLast
      rw [UInt16.toNat_add, toNat_handleNumber]
      simp only [recordHandleMax, UInt16.reduceToNat] at notLast ⊢
      omega

/-! ## What callers mean -/

/-- A handle, as a caller means it. -/
inductive HandleOf where
  | remove
  | generate
  | of (caller : Nat)
  deriving Repr, DecidableEq

/-- A call of the storage, with the handle that the caller means. -/
inductive CallerCall where
  | addRecord (payload : Record)
  | getRecords (handle : HandleOf) (size : UInt16)
  | deleteRecords (handle : HandleOf)
  deriving Repr, DecidableEq

def HandleOf.number : HandleOf → UInt16
  | .remove => recordHandleRemove
  | .generate => recordHandleGenerate
  | .of caller => handleNumber caller

def CallerCall.toStorage : CallerCall → StorageCall
  | .addRecord payload => .addRecord payload
  | .getRecords handle size => .getRecords handle.number size
  | .deleteRecords handle => .deleteRecords handle.number

/-- A caller's handle. It covers the first `created` records, and goes on at `next`. -/
structure CallerHandle where
  caller : Nat
  created : Nat
  next : Nat
  deriving Repr, DecidableEq

/-- All records that were added, how many of them are gone, the handles that cover some, and how many
    were generated. -/
structure CallerLedger where
  history : List Record
  removed : Nat
  handles : List CallerHandle
  callers : Nat
  deriving Repr, DecidableEq

namespace CallerLedger

def empty : CallerLedger := ⟨[], 0, [], 0⟩

def stored (self : CallerLedger) : List Record := self.history.drop self.removed

def remove (self : CallerLedger) (count : Nat) : CallerLedger :=
  if count = 0 then self
  else { self with
    removed := self.removed + count
    handles := self.handles.filter (self.removed + count < ·.created) }

def add (self : CallerLedger) (size : Nat) (payload : Record) : CallerLedger × Except Error Unit :=
  if payload = [] then (self, .error .invalidParameters)
  else if size < 2 + payload.length then (self, .error .notEnoughSpace)
  else
    let self := self.remove (evictions (size - 1) (2 + payload.length) self.stored)
    ({ self with history := self.history ++ [payload] }, .ok ())

def pending (self : CallerLedger) (handle : CallerHandle) : List Record :=
  (self.history.take handle.created).drop (max handle.next self.removed)

/-- The handle of a caller goes on. -/
def advance (removed caller count : Nat) (handle : CallerHandle) : CallerHandle :=
  if handle.caller = caller then { handle with next := max handle.next removed + count } else handle

def getTracked (self : CallerLedger) (handle : CallerHandle) (size : Nat) : CallerLedger × RamStorage.Got :=
  let records := fitting size (self.pending handle)
  ({ self with handles := self.handles.map (advance self.removed handle.caller records.length) },
    Ledger.got (handleNumber handle.caller) records)

def create (self : CallerLedger) : CallerHandle × CallerLedger :=
  let handle : CallerHandle := ⟨self.callers, self.history.length, self.removed⟩
  (handle, { self with handles := handle :: self.handles, callers := self.callers + 1 })

def find (self : CallerLedger) (caller : Nat) : Option CallerHandle := self.handles.find? (·.caller = caller)

def get (self : CallerLedger) (size : UInt16) : HandleOf → CallerLedger × RamStorage.Got
  | .generate => self.create.2.getTracked self.create.1 size.toNat
  | .remove =>
      let records := fitting size.toNat self.stored
      (self.remove records.length, Ledger.got recordHandleRemove records)
  | .of caller =>
      match self.find caller with
      | none => (self, Ledger.got (handleNumber caller) [])
      | some handle => self.getTracked handle size.toNat

def delete (self : CallerLedger) : HandleOf → CallerLedger × Except Error Unit
  | .generate => (self, .error .invalidParameters)
  | .remove => (self.remove self.stored.length, .ok ())
  | .of caller =>
      match self.find caller with
      | none => (self, .ok ())
      | some handle => (self.remove (handle.created - self.removed), .ok ())

def call (self : CallerLedger) (size : Nat) : CallerCall → CallerLedger × StorageAnswer
  | .addRecord payload => ((self.add size payload).1, .result (self.add size payload).2)
  | .getRecords handle bufferSize => ((self.get bufferSize handle).1, .got (self.get bufferSize handle).2)
  | .deleteRecords handle => ((self.delete handle).1, .result (self.delete handle).2)

def run (self : CallerLedger) (size : Nat) : List CallerCall → CallerLedger × List StorageAnswer
  | [] => (self, [])
  | call :: calls =>
      let (self, answer) := self.call size call
      let (self, answers) := self.run size calls
      (self, answer :: answers)

/-- No handle that was generated for somebody else has the number of a caller. -/
def Own (self : CallerLedger) (caller : Nat) : Prop :=
  ∀ handle ∈ self.handles, handle.caller % 65534 = caller % 65534 → handle.caller = caller

/-- A record fits or is refused, a handle is generated while those that live are among the last 65533,
    and the number of a caller is used while no other handle has it. -/
def Permits (self : CallerLedger) (size : Nat) : CallerCall → Prop
  | .addRecord payload => payload.length < 2 ^ 16 ∧ Addable size payload
  | .getRecords .generate _ => ∀ handle ∈ self.handles, self.callers < handle.caller + 65534
  | .getRecords (.of caller) _ => self.Own caller
  | .deleteRecords (.of caller) => self.Own caller
  | _ => True

def PermitsRun (self : CallerLedger) (size : Nat) : List CallerCall → Prop
  | [] => True
  | call :: calls => self.Permits size call ∧ (self.call size call).1.PermitsRun size calls

/-- Each handle was generated for another caller, the first of them for the last one. -/
structure Sound (ledger : CallerLedger) : Prop where
  generated : ∀ handle ∈ ledger.handles, handle.caller < ledger.callers
  decreasing : ledger.handles.Pairwise (·.caller > ·.caller)

/-- The handles that live are among the last 65534. -/
def Recent (self : CallerLedger) : Prop := ∀ handle ∈ self.handles, self.callers ≤ handle.caller + 65534

@[simp] theorem caller_advance (removed caller count : Nat) (handle : CallerHandle) :
    (advance removed caller count handle).caller = handle.caller := by
  unfold advance
  split <;> rfl

theorem sound_empty : empty.Sound := ⟨(fun _ member => nomatch member), List.Pairwise.nil⟩

theorem recent_empty : empty.Recent := fun _ member => nomatch member

section Steps

variable {self : CallerLedger}

theorem remove_handles (self : CallerLedger) (count : Nat) :
    (self.remove count).handles.Sublist self.handles ∧ (self.remove count).callers = self.callers := by
  unfold remove
  split
  case isTrue => exact ⟨List.Sublist.refl _, rfl⟩
  case isFalse => exact ⟨List.filter_sublist, rfl⟩

theorem Sound.remove (sound : self.Sound) (count : Nat) : (self.remove count).Sound := by
  obtain ⟨fewer, same⟩ := self.remove_handles count
  exact ⟨fun handle member => same ▸ sound.generated handle (fewer.subset member), sound.decreasing.sublist fewer⟩

theorem Recent.remove (recent : self.Recent) (count : Nat) : (self.remove count).Recent := by
  obtain ⟨fewer, same⟩ := self.remove_handles count
  exact fun handle member => same ▸ recent handle (fewer.subset member)

theorem Sound.getTracked (sound : self.Sound) (handle : CallerHandle) (size : Nat) : (self.getTracked handle size).1.Sound where
  generated := by
    simp only [CallerLedger.getTracked, List.forall_mem_map, caller_advance]
    exact sound.generated
  decreasing := by
    simp only [CallerLedger.getTracked, List.pairwise_map, caller_advance]
    exact sound.decreasing

theorem Recent.getTracked (recent : self.Recent) (handle : CallerHandle) (size : Nat) : (self.getTracked handle size).1.Recent := by
  simp only [Recent, CallerLedger.getTracked, List.forall_mem_map, caller_advance]
  exact recent

theorem Sound.create (sound : self.Sound) : self.create.2.Sound where
  generated := by
    intro handle member
    cases member with
    | head => exact Nat.lt_succ_self _
    | tail _ old => exact Nat.lt_succ_of_lt (sound.generated handle old)
  decreasing := List.Pairwise.cons sound.generated sound.decreasing

theorem Sound.add (sound : self.Sound) (size : Nat) (payload : Record) : (self.add size payload).1.Sound := by
  unfold CallerLedger.add
  split
  case isTrue => exact sound
  case isFalse =>
      split
      case isTrue => exact sound
      case isFalse =>
          have removed := sound.remove (evictions (size - 1) (2 + payload.length) self.stored)
          exact ⟨removed.generated, removed.decreasing⟩

theorem Sound.get (sound : self.Sound) (size : UInt16) (handle : HandleOf) : (self.get size handle).1.Sound := by
  cases handle with
  | remove => exact sound.remove _
  | generate => exact sound.create.getTracked _ _
  | of caller =>
      unfold CallerLedger.get
      dsimp only
      cases self.find caller with
      | none => exact sound
      | some handle => exact sound.getTracked handle size.toNat

theorem Sound.delete (sound : self.Sound) (handle : HandleOf) : (self.delete handle).1.Sound := by
  cases handle with
  | remove => exact sound.remove _
  | generate => exact sound
  | of caller =>
      unfold CallerLedger.delete
      dsimp only
      cases self.find caller with
      | none => exact sound
      | some handle => exact sound.remove _

theorem Sound.call (sound : self.Sound) (size : Nat) (call : CallerCall) : (self.call size call).1.Sound := by
  cases call with
  | addRecord payload => exact sound.add size payload
  | getRecords handle bufferSize => exact sound.get bufferSize handle
  | deleteRecords handle => exact sound.delete handle

/-- Only a handle that is generated makes the others older. -/
theorem Recent.call (recent : self.Recent) {size : Nat} {call : CallerCall} (permits : self.Permits size call) :
    (self.call size call).1.Recent := by
  cases call with
  | addRecord payload =>
      change (self.add size payload).1.Recent
      unfold CallerLedger.add
      split
      case isTrue => exact recent
      case isFalse =>
          split
          case isTrue => exact recent
          case isFalse => exact recent.remove (evictions (size - 1) (2 + payload.length) self.stored)
  | getRecords handle bufferSize =>
      change (self.get bufferSize handle).1.Recent
      cases handle with
      | remove => exact recent.remove _
      | generate =>
          have created : self.create.2.Recent := by
            intro handle member
            cases member with
            | head => exact Nat.add_le_add_left (by decide) self.callers
            | tail _ old => exact permits handle old
          exact created.getTracked _ _
      | of caller =>
          unfold CallerLedger.get
          dsimp only
          cases self.find caller with
          | none => exact recent
          | some handle => exact recent.getTracked handle bufferSize.toNat
  | deleteRecords handle =>
      change (self.delete handle).1.Recent
      cases handle with
      | remove => exact recent.remove _
      | generate => exact recent
      | of caller =>
          unfold CallerLedger.delete
          dsimp only
          cases self.find caller with
          | none => exact recent
          | some handle => exact recent.remove _

/-- The last 65534 handles have different numbers. -/
theorem Sound.numbers_nodup (sound : self.Sound) (recent : self.Recent) :
    (self.handles.map (handleNumber ·.caller)).Nodup := by
  rw [List.Nodup, List.pairwise_map]
  refine sound.decreasing.imp_of_mem ?_
  intro later earlier isLater isEarlier greater
  have bound := sound.generated later isLater
  have near := recent earlier isEarlier
  rw [ne_eq, handleNumber_eq_iff]
  omega

end Steps

end CallerLedger

/-! ## What the storage does -/

/-- A handle of the storage's ledger, without what it has returned. -/
def LedgerHandle.core (handle : LedgerHandle) : LedgerHandle := { handle with returned := [] }

def CallerHandle.numbered (handle : CallerHandle) : LedgerHandle := ⟨handleNumber handle.caller, handle.created, handle.next, []⟩

/-- The storage's ledger has the handles of the callers under their numbers. -/
structure Numbers (ledger : Ledger) (callers : CallerLedger) : Prop where
  history : ledger.history = callers.history
  removed : ledger.removed = callers.removed
  nextHandle : ledger.nextHandle = handleNumber callers.callers
  handles : ledger.handles.map LedgerHandle.core = callers.handles.map CallerHandle.numbered

theorem numbers_empty : Numbers Ledger.empty CallerLedger.empty := ⟨rfl, rfl, rfl, rfl⟩

/-- The first handle with a number is the first one of a caller that has it. -/
theorem find_numbered {handles : List LedgerHandle} {callers : List CallerHandle}
    (same : handles.map LedgerHandle.core = callers.map CallerHandle.numbered) (number : UInt16) :
    (handles.find? (·.handle = number)).map LedgerHandle.core =
      (callers.find? (handleNumber ·.caller = number)).map CallerHandle.numbered := by
  have core : (handles.map LedgerHandle.core).find? (·.handle = number) =
      (handles.find? (·.handle = number)).map LedgerHandle.core := by
    rw [List.find?_map]
    rfl
  have numbered : (callers.map CallerHandle.numbered).find? (·.handle = number) =
      (callers.find? (handleNumber ·.caller = number)).map CallerHandle.numbered := by
    rw [List.find?_map]
    rfl
  rw [← core, same, numbered]

theorem advance_numbered {removed count : Nat} {number : UInt16} {handles : List LedgerHandle}
    {callers : List CallerHandle} {tracked : CallerHandle}
    (same : handles.map LedgerHandle.core = callers.map CallerHandle.numbered)
    (decreasing : callers.Pairwise (·.caller > ·.caller))
    (found : callers.find? (handleNumber ·.caller = number) = some tracked) :
    (Ledger.advance removed number count handles).map LedgerHandle.core =
      (callers.map (CallerLedger.advance removed tracked.caller count)).map CallerHandle.numbered := by
  induction callers generalizing handles with
  | nil => cases found
  | cons caller callers ih =>
      cases handles with
      | nil => cases same
      | cons handle handles =>
          rw [List.map_cons, List.map_cons, List.cons.injEq] at same
          obtain ⟨first, rest⟩ := same
          have number_eq : handle.handle = handleNumber caller.caller := congrArg LedgerHandle.handle first
          have next_eq : handle.next = caller.next := congrArg LedgerHandle.next first
          have created_eq : handle.created = caller.created := congrArg LedgerHandle.created first
          obtain ⟨lower, decreasing⟩ := List.pairwise_cons.mp decreasing
          rw [List.find?_cons] at found
          unfold Ledger.advance
          rw [number_eq]
          split
          case isTrue isNumber =>
              rw [decide_eq_true isNumber] at found
              cases found
              -- no other handle was generated for that caller
              have others : callers.map (CallerLedger.advance removed tracked.caller count) = callers :=
                (List.map_congr_left fun other member => if_neg (Nat.ne_of_lt (lower other member))).trans (List.map_id callers)
              rw [List.map_cons, List.map_cons, List.map_cons, others, rest]
              simp [CallerLedger.advance, CallerHandle.numbered, LedgerHandle.core, Ledger.LedgerHandle.advance, number_eq,
                next_eq, created_eq]
          case isFalse notNumber =>
              rw [decide_eq_false notNumber] at found
              have isLater : caller.caller ≠ tracked.caller :=
                Nat.ne_of_gt (lower tracked (List.mem_of_find?_eq_some found))
              rw [List.map_cons, List.map_cons, List.map_cons, first, ih rest decreasing found, CallerLedger.advance, if_neg isLater]

section Numbers

variable {ledger : Ledger} {callers : CallerLedger}

theorem Numbers.stored (numbers : Numbers ledger callers) : ledger.stored = callers.stored := by
  rw [Ledger.stored, CallerLedger.stored, numbers.history, numbers.removed]

theorem Numbers.remove (numbers : Numbers ledger callers) (count : Nat) :
    Numbers (ledger.remove count) (callers.remove count) := by
  unfold Ledger.remove CallerLedger.remove
  split
  case isTrue => exact numbers
  case isFalse =>
      rw [numbers.removed]
      refine ⟨numbers.history, rfl, numbers.nextHandle, ?_⟩
      have core := @List.filter_map _ _ LedgerHandle.core (fun handle => decide (callers.removed + count < handle.created)) ledger.handles
      have numbered := @List.filter_map _ _ CallerHandle.numbered
        (fun handle => decide (callers.removed + count < handle.created)) callers.handles
      rw [numbers.handles] at core
      exact core.symm.trans numbered

theorem Numbers.add (numbers : Numbers ledger callers) (size : Nat) (payload : Record) :
    (ledger.add size payload).2 = (callers.add size payload).2 ∧
      Numbers (ledger.add size payload).1 (callers.add size payload).1 := by
  unfold Ledger.add CallerLedger.add
  split
  case isTrue => exact ⟨rfl, numbers⟩
  case isFalse =>
      split
      case isTrue => exact ⟨rfl, numbers⟩
      case isFalse =>
          have removed := numbers.remove (evictions (size - 1) (2 + payload.length) ledger.stored)
          rw [← numbers.stored]
          exact ⟨rfl, ⟨by dsimp only; rw [removed.history], removed.removed, removed.nextHandle, removed.handles⟩⟩

theorem Numbers.create (numbers : Numbers ledger callers) : Numbers ledger.create.2 callers.create.2 where
  history := numbers.history
  removed := numbers.removed
  nextHandle := by
    change (if ledger.nextHandle = recordHandleMax then _ else _) = handleNumber (callers.callers + 1)
    rw [numbers.nextHandle, handleNumber_succ]
  handles := by
    change LedgerHandle.core ledger.create.1 :: ledger.handles.map LedgerHandle.core = _ :: _
    rw [numbers.handles]
    simp [LedgerHandle.core, CallerHandle.numbered, Ledger.create, numbers.history, numbers.removed, numbers.nextHandle]

/-- The first handle with a number does what its caller's handle does. -/
theorem Numbers.getTracked (numbers : Numbers ledger callers) (sound : callers.Sound) {tracked : LedgerHandle}
    {handle : CallerHandle} (same : tracked.core = handle.numbered)
    (found : callers.handles.find? (handleNumber ·.caller = tracked.handle) = some handle) (size : Nat) :
    (ledger.getTracked tracked size).2 = (callers.getTracked handle size).2 ∧
      Numbers (ledger.getTracked tracked size).1 (callers.getTracked handle size).1 := by
  have number_eq : tracked.handle = handleNumber handle.caller := congrArg LedgerHandle.handle same
  have next_eq : tracked.next = handle.next := congrArg LedgerHandle.next same
  have created_eq : tracked.created = handle.created := congrArg LedgerHandle.created same
  have pending : ledger.pending tracked = callers.pending handle := by
    rw [Ledger.pending, CallerLedger.pending, Ledger.position, numbers.history, numbers.removed, next_eq, created_eq]
  have advances := @advance_numbered ledger.removed (fitting size (ledger.pending tracked)).length _ _ _ _
    numbers.handles sound.decreasing found
  unfold Ledger.getTracked CallerLedger.getTracked
  dsimp only
  refine ⟨by rw [pending, number_eq], numbers.history, numbers.removed, numbers.nextHandle, ?_⟩
  rw [advances, pending, numbers.removed]

/-- A handle is generated under its number, also when another handle has that number. -/
theorem Numbers.generate (numbers : Numbers ledger callers) (sound : callers.Sound) (size : Nat) :
    (ledger.create.2.getTracked ledger.create.1 size).2 = (callers.create.2.getTracked callers.create.1 size).2 ∧
      Numbers (ledger.create.2.getTracked ledger.create.1 size).1 (callers.create.2.getTracked callers.create.1 size).1 := by
  have same : LedgerHandle.core ledger.create.1 = callers.create.1.numbered := by
    simp [LedgerHandle.core, CallerHandle.numbered, Ledger.create, CallerLedger.create, numbers.history, numbers.removed,
      numbers.nextHandle]
  refine numbers.create.getTracked sound.create same ?_ size
  have number_eq : ledger.create.1.handle = handleNumber callers.callers := numbers.nextHandle
  rw [number_eq]
  exact List.find?_cons_of_pos (by simp)

/-- A number is found where its caller's handle is, while no other handle has it. -/
theorem Numbers.find (numbers : Numbers ledger callers) {caller : Nat} (own : callers.Own caller) :
    callers.handles.find? (handleNumber ·.caller = handleNumber caller) = callers.find caller ∧
      (ledger.handles.find? (·.handle = handleNumber caller)).map LedgerHandle.core =
        (callers.find caller).map CallerHandle.numbered := by
  have same : callers.handles.find? (handleNumber ·.caller = handleNumber caller) = callers.find caller := by
    refine List.find?_congr ?_
    intro handle member
    rw [decide_eq_decide, handleNumber_eq_iff]
    exact ⟨own handle member, congrArg (· % 65534)⟩
  rw [← same]
  exact ⟨rfl, find_numbered numbers.handles _⟩

theorem Numbers.get (numbers : Numbers ledger callers) (sound : callers.Sound) {size : Nat} {handle : HandleOf}
    {bufferSize : UInt16} (permits : callers.Permits size (.getRecords handle bufferSize)) :
    (ledger.get handle.number bufferSize).2 = (callers.get bufferSize handle).2 ∧
      Numbers (ledger.get handle.number bufferSize).1 (callers.get bufferSize handle).1 := by
  cases handle with
  | remove =>
      change Ledger.got _ (fitting _ ledger.stored) = Ledger.got _ (fitting _ callers.stored) ∧ Numbers (ledger.remove _) (callers.remove _)
      rw [numbers.stored]
      exact ⟨rfl, numbers.remove _⟩
  | generate => exact numbers.generate sound bufferSize.toNat
  | of caller =>
      obtain ⟨own, found⟩ := numbers.find permits
      unfold Ledger.get CallerLedger.get HandleOf.number
      dsimp only
      rw [if_neg (handleNumber_ne caller).1, if_neg (handleNumber_ne caller).2]
      cases ofCaller : callers.find caller with
      | none =>
          rw [ofCaller, Option.map_none, Option.map_eq_none_iff] at found
          rw [found]
          exact ⟨rfl, numbers⟩
      | some handle =>
          rw [ofCaller, Option.map_some, Option.map_eq_some_iff] at found
          obtain ⟨tracked, found, same⟩ := found
          rw [found]
          refine numbers.getTracked sound same ?_ bufferSize.toNat
          rw [Ledger.find_number found, own, ofCaller]

theorem Numbers.delete (numbers : Numbers ledger callers) {size : Nat} {handle : HandleOf}
    (permits : callers.Permits size (.deleteRecords handle)) :
    (ledger.delete handle.number).2 = (callers.delete handle).2 ∧
      Numbers (ledger.delete handle.number).1 (callers.delete handle).1 := by
  cases handle with
  | remove =>
      change _ ∧ Numbers (ledger.remove _) (callers.remove _)
      rw [numbers.stored]
      exact ⟨rfl, numbers.remove _⟩
  | generate => exact ⟨rfl, numbers⟩
  | of caller =>
      obtain ⟨-, found⟩ := numbers.find permits
      unfold Ledger.delete CallerLedger.delete HandleOf.number
      rw [if_neg (handleNumber_ne caller).1, if_neg (handleNumber_ne caller).2]
      dsimp only
      cases ofCaller : callers.find caller with
      | none =>
          rw [ofCaller, Option.map_none, Option.map_eq_none_iff] at found
          rw [found]
          exact ⟨rfl, numbers⟩
      | some handle =>
          rw [ofCaller, Option.map_some, Option.map_eq_some_iff] at found
          obtain ⟨tracked, found, same⟩ := found
          have created_eq : tracked.created = handle.created := congrArg LedgerHandle.created same
          rw [found]
          dsimp only
          rw [created_eq, numbers.removed]
          exact ⟨rfl, numbers.remove _⟩

theorem Numbers.call (numbers : Numbers ledger callers) (sound : callers.Sound) {size : Nat} {call : CallerCall}
    (permits : callers.Permits size call) :
    (ledger.call size call.toStorage).2 = (callers.call size call).2 ∧
      Numbers (ledger.call size call.toStorage).1 (callers.call size call).1 := by
  cases call with
  | addRecord payload =>
      obtain ⟨same, numbers'⟩ := numbers.add size payload
      exact ⟨congrArg StorageAnswer.result same, numbers'⟩
  | getRecords handle bufferSize =>
      obtain ⟨same, numbers'⟩ := numbers.get sound permits
      exact ⟨congrArg StorageAnswer.got same, numbers'⟩
  | deleteRecords handle =>
      obtain ⟨same, numbers'⟩ := numbers.delete permits
      exact ⟨congrArg StorageAnswer.result same, numbers'⟩

theorem Numbers.run (numbers : Numbers ledger callers) (sound : callers.Sound) (recent : callers.Recent) {size : Nat}
    {calls : List CallerCall} (permits : callers.PermitsRun size calls) :
    (ledger.run size (calls.map CallerCall.toStorage)).2 = (callers.run size calls).2 ∧
      Numbers (ledger.run size (calls.map CallerCall.toStorage)).1 (callers.run size calls).1 ∧
      (callers.run size calls).1.Sound ∧ (callers.run size calls).1.Recent := by
  induction calls generalizing ledger callers with
  | nil => exact ⟨rfl, numbers, sound, recent⟩
  | cons call calls ih =>
      obtain ⟨first, rest⟩ := permits
      obtain ⟨same, numbers'⟩ := numbers.call sound first
      obtain ⟨sames, last⟩ := ih numbers' (sound.call size call) (recent.call first) rest
      exact ⟨congrArg₂ List.cons same sames, last⟩

end Numbers

theorem CallerLedger.PermitsRun.permitted {callers : CallerLedger} {size : Nat} {calls : List CallerCall}
    (permits : callers.PermitsRun size calls) : ∀ call ∈ calls.map CallerCall.toStorage, call.Permitted size := by
  induction calls generalizing callers with
  | nil => exact fun _ member => nomatch member
  | cons call calls ih =>
      intro stored member
      cases member with
      | head =>
          cases call with
          | addRecord payload => exact permits.1
          | getRecords handle bufferSize => trivial
          | deleteRecords handle => trivial
      | tail _ later => exact ih permits.2 stored later

/-- A handle, as it is in the storage. -/
def CallerHandle.view (removed : Nat) (handle : CallerHandle) : RecordHandle :=
  ⟨handleNumber handle.caller, handle.created - removed, max handle.next removed - removed⟩

theorem Numbers.view {ledger : Ledger} {callers : CallerLedger} (numbers : Numbers ledger callers) :
    ledger.handles.map (LedgerHandle.view ledger.removed) = callers.handles.map (CallerHandle.view callers.removed) := by
  have views := congrArg (List.map (LedgerHandle.view callers.removed)) numbers.handles
  rw [List.map_map, List.map_map] at views
  rw [numbers.removed]
  exact views

/-- As long as a handle is generated only while those that live are among the last 65533, and the
    number of a caller is used only while no other handle has it, the handles that live have different
    numbers, and every caller gets and deletes what its own handle covers. -/
theorem handles_stay_distinct (size : UInt16) (calls : List CallerCall) (fuel : Nat) (enough : size.toNat < fuel)
    (permits : CallerLedger.empty.PermitsRun size.toNat calls) :
    let callers := (CallerLedger.empty.run size.toNat calls).1
    ∃ storage, (RamStorage.create size).run fuel (calls.map CallerCall.toStorage) =
        .ok (storage, (CallerLedger.empty.run size.toNat calls).2) ∧
      storage.buffer.contents = encode callers.stored ∧
      storage.handles = callers.handles.map (CallerHandle.view callers.removed) ∧
      (storage.handles.map (·.handle)).Nodup ∧
      ∀ handle ∈ storage.handles, recordHandleMin ≤ handle.handle ∧ handle.handle ≤ recordHandleMax := by
  intro callers
  obtain ⟨sames, numbers, sound, recent⟩ := numbers_empty.run CallerLedger.sound_empty CallerLedger.recent_empty permits
  obtain ⟨storage, runs, refines⟩ := (refines_create size).run size.toNat_lt enough permits.permitted
  have handles : storage.handles = callers.handles.map (CallerHandle.view callers.removed) := refines.handles.trans numbers.view
  refine ⟨storage, by rw [runs, sames], by rw [refines.stores.contents, numbers.stored], handles, ?_, ?_⟩
  · rw [handles, List.map_map]
    exact sound.numbers_nodup recent
  · rw [handles, List.forall_mem_map]
    intro handle _
    simp only [CallerHandle.view, UInt16.le_iff_toNat_le, toNat_handleNumber, recordHandleMin, recordHandleMax, UInt16.reduceToNat]
    omega

/-- Two callers with a handle each, of which the first deletes its records. -/
theorem handles_stay_distinct_two :
    ∃ storage, (RamStorage.create 20).run 21 [.addRecord [1, 2], .getRecords 1 0, .addRecord [3], .getRecords 1 0,
        .getRecords 2 20, .deleteRecords 2, .getRecords 3 20, .getRecords 2 20] =
      .ok (storage, [.result (.ok ()), .got ⟨2, 0, []⟩, .result (.ok ()), .got ⟨3, 0, []⟩,
        .got ⟨2, 4, [2, 0, 1, 2]⟩, .result (.ok ()), .got ⟨3, 3, [1, 0, 3]⟩, .got ⟨2, 0, []⟩]) ∧
      (storage.handles.map (·.handle)).Nodup := by
  obtain ⟨storage, runs, -, -, distinct, -⟩ := handles_stay_distinct 20
    [.addRecord [1, 2], .getRecords .generate 0, .addRecord [3], .getRecords .generate 0, .getRecords (.of 0) 20,
      .deleteRecords (.of 0), .getRecords (.of 1) 20, .getRecords (.of 0) 20] 21 (by decide) (by
      simp only [CallerLedger.PermitsRun, CallerLedger.Permits, CallerLedger.Own]
      decide)
  exact ⟨storage, runs, distinct⟩

/-! ## A number that is given out again -/

/-- While no record is removed, every handle that was generated lives. -/
def CallerLedger.AllLive (self : CallerLedger) : Prop :=
  ∀ caller < self.callers, caller ∈ self.handles.map (·.caller)

theorem CallerLedger.AllLive.generate {self : CallerLedger} (live : self.AllLive) (size : Nat) :
    (self.create.2.getTracked self.create.1 size).1.AllLive := by
  intro caller generated
  have generated : caller < self.callers + 1 := generated
  simp only [getTracked, List.map_map, Function.comp_def, caller_advance]
  change caller ∈ self.callers :: self.handles.map (·.caller)
  rcases Nat.lt_succ_iff_lt_or_eq.mp generated with old | rfl
  · exact List.mem_cons_of_mem _ (live caller old)
  · exact List.mem_cons_self

/-- Generating handles never stops. -/
theorem Numbers.generate_many {ledger : Ledger} {callers : CallerLedger} (numbers : Numbers ledger callers)
    (sound : callers.Sound) (live : callers.AllLive) (size count : Nat) :
    ∃ later, Numbers (ledger.run size (List.replicate count (.getRecords recordHandleGenerate 0))).1 later ∧
      later.AllLive ∧ later.callers = callers.callers + count := by
  induction count generalizing ledger callers with
  | zero => exact ⟨callers, numbers, live, rfl⟩
  | succ count ih =>
      obtain ⟨later, numbers', live', length⟩ := ih (numbers.generate sound 0).2 (sound.create.getTracked _ _) (live.generate 0)
      refine ⟨later, numbers', live', length.trans ?_⟩
      change callers.callers + 1 + count = _
      omega

/-- A storage without records, of which handles were generated. -/
theorem create_generate_many (count : Nat) :
    (∀ call ∈ List.replicate count (StorageCall.getRecords recordHandleGenerate 0), call.Permitted (20 : UInt16).toNat) ∧
    ∃ storage answers, (RamStorage.create 20).run 21 (List.replicate count (.getRecords recordHandleGenerate 0)) =
        .ok (storage, answers) ∧
      ∃ callers : CallerLedger, storage.handles = callers.handles.map (CallerHandle.view callers.removed) ∧
        ∀ caller < count, caller ∈ callers.handles.map (·.caller) := by
  have permitted : ∀ call ∈ List.replicate count (StorageCall.getRecords recordHandleGenerate 0),
      call.Permitted (20 : UInt16).toNat := by
    intro call member
    rw [List.eq_of_mem_replicate member]
    trivial
  obtain ⟨storage, runs, refines⟩ := @Refines.run _ _ 21 _ _ (refines_create 20) (by decide) (by decide) permitted
  obtain ⟨later, numbers, live, length⟩ := numbers_empty.generate_many CallerLedger.sound_empty
    (fun _ generated => absurd generated (Nat.not_lt_zero _)) (20 : UInt16).toNat count
  refine ⟨permitted, storage, _, runs, later, refines.handles.trans numbers.view, ?_⟩
  intro caller generated
  exact live caller (by rw [length]; exact Nat.lt_add_left _ generated)

/-- After 65535 handles, the first and the last of them have one number. -/
theorem first_number_repeats :
    ¬∀ (size : UInt16) (calls : List StorageCall) (fuel : Nat) (storage : RamStorage) (answers : List StorageAnswer),
      (∀ call ∈ calls, call.Permitted size.toNat) →
        (RamStorage.create size).run fuel calls = .ok (storage, answers) → (storage.handles.map (·.handle)).Nodup := by
  intro distinct
  obtain ⟨permitted, storage, answers, runs, callers, handles, live⟩ := create_generate_many 65535
  have nodup := distinct 20 _ 21 storage answers permitted runs
  rw [handles, List.map_map] at nodup
  obtain ⟨first, isLive, isFirst⟩ := List.mem_map.mp (live 0 (by decide))
  obtain ⟨last, isLive', isLast⟩ := List.mem_map.mp (live 65534 (by decide))
  have same : first = last := by
    refine List.inj_on_of_nodup_map nodup isLive isLive' ?_
    change handleNumber first.caller = handleNumber last.caller
    rw [isFirst, isLast]
    rfl
  rw [same, isLast] at isFirst
  cases isFirst

end GoldenGate.Diagnostics
