import GoldenGate.Diagnostics.RecordLedger

/-! # The storage keeps its ledger

Every call does to the storage what it does to its ledger: the buffer holds the records that are
stored, and the count and the offset of a handle are what is stored of the records that it covers
and of those that it has returned.
-/

namespace GoldenGate.Diagnostics

open Memory

/-- A handle of the ledger, as it is in the storage. -/
def LedgerHandle.view (removed : Nat) (handle : LedgerHandle) : RecordHandle :=
  ⟨handle.handle, handle.created - removed, max handle.next removed - removed⟩

/-- The storage holds some records. A storage without an array holds none. -/
structure Stores (storage : RamStorage) (size : Nat) (records : List Record) : Prop where
  formed : size ≠ 0 → storage.buffer.WellFormed
  sized : storage.buffer.size = size
  byteSize : storage.byteSize = size
  contents : storage.buffer.contents = encode records
  count : storage.recordCount = records.length

/-- The storage and its ledger. -/
structure Refines (storage : RamStorage) (size : Nat) (ledger : Ledger) : Prop where
  stores : Stores storage size ledger.stored
  handles : storage.handles = ledger.handles.map (LedgerHandle.view ledger.removed)
  nextHandle : storage.nextHandle = ledger.nextHandle
  sound : ledger.Sound

section Stores

variable {storage : RamStorage} {size : Nat} {records : List Record}

/-- One place of the array stays free. -/
theorem Stores.length_le (stores : Stores storage size records) : (encode records).length ≤ size - 1 := by
  rw [← stores.contents]
  rcases Nat.eq_zero_or_pos size with zero | positive
  · have none : storage.buffer.data = [] := List.length_eq_zero_iff.mp (stores.sized.trans zero)
    rw [RingBuffer.contents, none]
    split <;> simp
  · have formed := stores.formed (Nat.ne_of_gt positive)
    have sized : storage.buffer.data.length = size := stores.sized
    have few := formed.getAvailable_lt
    rw [formed.length_contents]
    omega

theorem Stores.few (stores : Stores storage size records) : 2 * records.length ≤ size - 1 :=
  Nat.le_trans (length_le_encode records) stores.length_le

theorem Stores.formed_of (stores : Stores storage size records) (some_ : records ≠ []) : storage.buffer.WellFormed := by
  apply stores.formed
  intro zero
  have few := stores.few
  have positive := List.length_pos_iff.mpr some_
  omega

theorem Stores.holdsAt (stores : Stores storage size records) (small : size < 2 ^ 16) {front middle back : List Record}
    (parts : records = front ++ (middle ++ back)) : HoldsAt storage.buffer (encode front) middle where
  formed := by
    intro some_
    apply stores.formed_of
    rw [parts]
    simp [some_]
  holds := ⟨encode back, by rw [stores.contents, parts]; simp⟩
  small := by
    have length := stores.length_le
    rw [stores.contents]
    omega

/-- What is stored does not depend on the handles. -/
theorem Stores.withHandles (stores : Stores storage size records) (handles : List RecordHandle) (nextHandle : UInt16) :
    Stores { storage with handles := handles, nextHandle := nextHandle } size records :=
  ⟨stores.formed, stores.sized, stores.byteSize, stores.contents, stores.count⟩

end Stores

namespace RamStorage

/-! ## Removing -/

/-- The handles after records were removed. -/
def removedHandles (count : Nat) (handles : List RecordHandle) : List RecordHandle :=
  if count = 0 then handles else handles.filterMap (recordsRemoved count)

theorem handlesRecordsRemoved_eq (self : RamStorage) (count : Nat) :
    self.handlesRecordsRemoved count = { self with handles := removedHandles count self.handles } := by
  unfold handlesRecordsRemoved removedHandles
  split <;> rfl

theorem removeRecords_spec {storage : RamStorage} {size count : Nat} {records : List Record}
    (stores : Stores storage size records) (small : size < 2 ^ 16) (few : count ≤ records.length) :
    ∃ next, storage.removeRecords count = .ok next ∧ Stores next size (records.drop count) ∧
      next.handles = removedHandles count storage.handles ∧ next.nextHandle = storage.nextHandle := by
  have length : (records.take count).length = count := by rw [List.length_take, Nat.min_eq_left few]
  have bound := stores.few
  obtain ⟨after, drops, keeps, sized, contents⟩ := @dropRecords_spec storage.buffer (records.take count) (records.drop count)
    (fun some_ => stores.formed_of (fun none => some_ (by rw [none, List.take_nil])))
    (by rw [List.take_append_drop, stores.contents])
    (by
      have length := stores.length_le
      rw [stores.contents]
      omega)
  rw [length] at drops
  have counts : u16Sub storage.recordCount count = (records.drop count).length := by
    rw [stores.count, u16Sub_of_le few (by omega), List.length_drop]
  refine ⟨_, by rw [removeRecords, drops]; rfl, ?_⟩
  rw [handlesRecordsRemoved_eq]
  exact ⟨⟨fun some_ => keeps (stores.formed some_), sized.trans stores.sized, stores.byteSize, contents, counts⟩, rfl, rfl⟩

end RamStorage

theorem stored_remove (ledger : Ledger) (count : Nat) : (ledger.remove count).stored = ledger.stored.drop count := by
  unfold Ledger.remove
  split
  case isTrue none => rw [none, List.drop_zero]
  case isFalse => exact List.drop_drop.symm

/-- What is left of a handle when more records go. -/
theorem recordsRemoved_view (removed count : Nat) (handle : LedgerHandle) :
    RamStorage.recordsRemoved count (handle.view removed) =
      if removed + count < handle.created then some (handle.view (removed + count)) else none := by
  unfold RamStorage.recordsRemoved LedgerHandle.view
  dsimp only
  cases alive : decide (removed + count < handle.created) with
  | true =>
      have alive := of_decide_eq_true alive
      have sameOffset : (if max handle.next removed - removed > count then max handle.next removed - removed - count else 0) =
          max handle.next (removed + count) - (removed + count) := by
        split <;> omega
      rw [if_neg (by omega), if_pos alive, sameOffset, Nat.sub_sub]
  | false =>
      have gone := of_decide_eq_false alive
      rw [if_pos (by omega), if_neg gone]

theorem removedHandles_view (removed count : Nat) (handles : List LedgerHandle) :
    (handles.map (LedgerHandle.view removed)).filterMap (RamStorage.recordsRemoved count) =
      (handles.filter (removed + count < ·.created)).map (LedgerHandle.view (removed + count)) := by
  induction handles with
  | nil => rfl
  | cons handle handles ih =>
      rw [List.map_cons, List.filterMap_cons, recordsRemoved_view, List.filter_cons]
      cases alive : decide (removed + count < handle.created) with
      | true =>
          rw [if_pos (of_decide_eq_true alive), ih]
          rfl
      | false =>
          rw [if_neg (of_decide_eq_false alive), ih]
          rfl

theorem handles_remove {handles : List RecordHandle} {ledger : Ledger}
    (same : handles = ledger.handles.map (LedgerHandle.view ledger.removed)) (count : Nat) :
    RamStorage.removedHandles count handles =
      (ledger.remove count).handles.map (LedgerHandle.view (ledger.remove count).removed) := by
  unfold RamStorage.removedHandles Ledger.remove
  split
  case isTrue => exact same
  case isFalse => rw [same, removedHandles_view]

theorem Refines.removed {storage next : RamStorage} {size count : Nat} {ledger : Ledger} (refines : Refines storage size ledger)
    (few : count ≤ ledger.stored.length) (stores : Stores next size (ledger.stored.drop count))
    (handles : next.handles = RamStorage.removedHandles count storage.handles)
    (nextHandle : next.nextHandle = storage.nextHandle) : Refines next size (ledger.remove count) where
  stores := by
    rw [stored_remove]
    exact stores
  handles := by rw [handles, handles_remove refines.handles]
  nextHandle := by
    rw [nextHandle, refines.nextHandle]
    unfold Ledger.remove
    split <;> rfl
  sound := refines.sound.remove few

theorem Refines.removeRecords {storage : RamStorage} {size count : Nat} {ledger : Ledger}
    (refines : Refines storage size ledger) (small : size < 2 ^ 16) (few : count ≤ ledger.stored.length) :
    ∃ next, storage.removeRecords count = .ok next ∧ Refines next size (ledger.remove count) := by
  obtain ⟨next, removes, stores, handles, nextHandle⟩ := RamStorage.removeRecords_spec refines.stores small few
  exact ⟨next, removes, refines.removed few stores handles nextHandle⟩

/-! ## Adding -/

theorem Stores.evicts {storage : RamStorage} {size need fuel : Nat} {records : List Record} (stores : Stores storage size records)
    (small : size < 2 ^ 16) (enough : size < fuel) (fits : need < size) :
    ∃ buffer, RamStorage.evict need fuel storage.buffer none 0 = .ok (buffer, evictions (size - 1) need records) ∧
      buffer.WellFormed ∧ buffer.size = size ∧ buffer.contents = encode (records.drop (evictions (size - 1) need records)) := by
  have few := stores.few
  obtain ⟨buffer, evicts, formed, sized, contents⟩ := @RamStorage.evict_spec storage.buffer records need fuel 0
    (stores.formed (by omega)) stores.contents (stores.sized ▸ small) (by rw [stores.sized]; omega) (by omega) none (by omega)
  rw [stores.sized, Nat.zero_add] at evicts
  rw [stores.sized] at contents sized
  exact ⟨buffer, evicts, formed, sized, contents⟩

/-- A record that fits is added, for as many of the oldest ones as must go. -/
theorem Stores.addRecord {storage : RamStorage} {size fuel : Nat} {records : List Record} {payload : Record}
    (stores : Stores storage size records) (small : size < 2 ^ 16) (enough : size < fuel) (some_ : payload ≠ [])
    (fits : 2 + payload.length < size) :
    ∃ next, storage.addRecord fuel payload = .ok (next, .ok ()) ∧
      Stores next size (records.drop (evictions (size - 1) (2 + payload.length) records) ++ [payload]) ∧
      next.handles = RamStorage.removedHandles (evictions (size - 1) (2 + payload.length) records) storage.handles ∧
      next.nextHandle = storage.nextHandle := by
  have length : payload.length ≠ 0 := fun zero => some_ (List.length_eq_zero_iff.mp zero)
  have isSize : u16 (2 + payload.length) = 2 + payload.length := u16_of_lt (by omega)
  have bound := stores.few
  have room := evictions_fits (show 2 + payload.length ≤ size - 1 by omega) records
  have least := evictions_le (size - 1) (2 + payload.length) records
  obtain ⟨buffer, evicts, formed, sized, contents⟩ := stores.evicts small enough fits
  generalize evictions (size - 1) (2 + payload.length) records = count at *
  have space := RamStorage.getSpace_encode formed contents
  rw [sized] at space
  obtain ⟨buffer1, writes1, formed1, sized1, space1, contents1⟩ := RingBuffer.write_spec formed (lengthBytes payload.length)
  obtain ⟨buffer2, writes2, formed2, sized2, -, contents2⟩ := RingBuffer.write_spec formed1 payload
  have lengthLength : (lengthBytes payload.length).length = 2 := rfl
  rw [List.take_of_length_le (by omega)] at contents1
  rw [List.take_of_length_le (by omega), contents1, contents] at contents2
  have counts : u16 (u16Sub storage.recordCount count + 1) = (records.drop count ++ [payload]).length := by
    rw [stores.count, u16Sub_of_le least (by omega), u16_of_lt (by omega), List.length_append, List.length_drop]
    rfl
  refine ⟨{ storage with
      buffer := buffer2
      recordCount := u16 (u16Sub storage.recordCount count + 1)
      handles := RamStorage.removedHandles count storage.handles }, ?_, ?_, rfl, rfl⟩
  · rw [RamStorage.addRecord, if_neg length]
    dsimp only
    rw [isSize, stores.byteSize, if_neg (by omega), if_neg (by omega), evicts, ok_bind]
    dsimp only
    rw [RamStorage.handlesRecordsRemoved_eq]
    dsimp only
    rw [writes1, ok_bind, writes2]
    rfl
  · refine ⟨fun _ => formed2, (sized2.trans sized1).trans sized, stores.byteSize, ?_, counts⟩
    dsimp only
    rw [contents2, encode_append]
    simp [encodeRecord]

theorem Stores.refuses {storage : RamStorage} {size : Nat} {records : List Record} {payload : Record}
    (stores : Stores storage size records) (some_ : payload ≠ []) (large : size < u16 (2 + payload.length)) (fuel : Nat) :
    storage.addRecord fuel payload = .ok (storage, .error .notEnoughSpace) := by
  have length : payload.length ≠ 0 := fun zero => some_ (List.length_eq_zero_iff.mp zero)
  rw [RamStorage.addRecord, if_neg length]
  dsimp only
  rw [stores.byteSize, if_pos large]
  rfl

theorem stored_append {ledger : Ledger} (sound : ledger.Sound) (payload : Record) :
    Ledger.stored { ledger with history := ledger.history ++ [payload] } = ledger.stored ++ [payload] :=
  List.drop_append_of_le_length sound.removed_le

theorem Refines.addRecord {storage : RamStorage} {size fuel : Nat} {ledger : Ledger} {payload : Record}
    (refines : Refines storage size ledger) (small : size < 2 ^ 16) (enough : size < fuel)
    (addable : Addable size payload) :
    ∃ next, storage.addRecord fuel payload = .ok (next, (ledger.add size payload).2) ∧
      Refines next size (ledger.add size payload).1 := by
  have sound := refines.sound.add size payload
  have wraps : u16 (2 + payload.length) ≤ 2 + payload.length := Nat.mod_le _ _
  unfold Ledger.add at sound ⊢
  split
  case isTrue none =>
      cases none
      exact ⟨storage, rfl, refines⟩
  case isFalse some_ =>
      have addable := addable.resolve_left some_
      split
      case isTrue large => exact ⟨storage, refines.stores.refuses some_ (by omega) fuel, refines⟩
      case isFalse notLarge =>
          rw [if_neg some_, if_neg notLarge] at sound
          obtain ⟨next, adds, stores, handles, nextHandle⟩ := refines.stores.addRecord small enough some_ (by omega)
          have removed := refines.sound.remove (evictions_le (size - 1) (2 + payload.length) ledger.stored)
          refine ⟨next, adds, ?_, ?_, ?_, sound⟩
          · rw [stored_append removed, stored_remove]
            exact stores
          · rw [handles, handles_remove refines.handles]
          · rw [nextHandle, refines.nextHandle]
            unfold Ledger.remove
            dsimp only
            split <;> rfl

/-! ## Getting and deleting -/

/-- The stored records, for a handle: those it has passed, those it comes to, and those it does not cover. -/
theorem stored_parts {ledger : Ledger} {handle : LedgerHandle}
    (sound : Ledger.HandleSound ledger.removed ledger.history.length handle) :
    ledger.stored = ledger.stored.take (ledger.position handle - ledger.removed) ++
      (ledger.pending handle ++ ledger.stored.drop (handle.created - ledger.removed)) := by
  have alive := sound.alive
  have next := sound.next_le
  have pending : ledger.pending handle =
      (ledger.stored.drop (ledger.position handle - ledger.removed)).take (handle.created - ledger.position handle) := by
    unfold Ledger.pending Ledger.stored Ledger.position
    rw [List.drop_take, List.drop_drop, Nat.add_sub_cancel' (Nat.le_max_right _ _)]
  have rest : ledger.stored.drop (handle.created - ledger.removed) =
      (ledger.stored.drop (ledger.position handle - ledger.removed)).drop (handle.created - ledger.position handle) := by
    unfold Ledger.position
    rw [List.drop_drop]
    congr 1
    omega
  rw [pending, rest, List.take_append_drop, List.take_append_drop]

theorem advance_view {removed count : Nat} {number : UInt16} {handles : List LedgerHandle} {tracked : LedgerHandle}
    (found : handles.find? (·.handle = number) = some tracked)
    (small : max tracked.next removed - removed + count < 2 ^ 16) :
    RamStorage.advance number count (handles.map (LedgerHandle.view removed)) =
      (Ledger.advance removed number count handles).map (LedgerHandle.view removed) := by
  induction handles with
  | nil => cases found
  | cons handle handles ih =>
      rw [List.find?_cons] at found
      unfold Ledger.advance
      rw [List.map_cons, RamStorage.advance]
      split
      case isTrue isNumber =>
          have isNumber : handle.handle = number := isNumber
          rw [decide_eq_true isNumber] at found
          cases found
          rw [if_pos isNumber, List.map_cons]
          congr 1
          have same : max (max tracked.next removed + count) removed - removed =
              max tracked.next removed - removed + count := by omega
          simp only [LedgerHandle.view, Ledger.LedgerHandle.advance, u16_of_lt small, same]
      case isFalse notNumber =>
          have notNumber : ¬handle.handle = number := notNumber
          rw [decide_eq_false notNumber] at found
          rw [if_neg notNumber, List.map_cons, ih found]

theorem find_view {handles : List LedgerHandle} (removed : Nat) (number : UInt16) :
    (handles.map (LedgerHandle.view removed)).find? (·.handle = number) =
      (handles.find? (·.handle = number)).map (LedgerHandle.view removed) := by
  rw [List.find?_map]
  rfl

/-- A handle returns the records it comes to, as many as fit. -/
theorem Refines.getTracked {storage : RamStorage} {size : Nat} {ledger : Ledger} {handle : LedgerHandle}
    (refines : Refines storage size ledger) (small : size < 2 ^ 16) (bufferSize : UInt16)
    (found : ledger.handles.find? (·.handle = handle.handle) = some handle) :
    ∃ next, storage.getTracked (handle.view ledger.removed)
        (encode (ledger.stored.take (ledger.position handle - ledger.removed))).length bufferSize.toNat =
          .ok (next, (ledger.getTracked handle bufferSize.toNat).2) ∧
      Refines next size (ledger.getTracked handle bufferSize.toNat).1 := by
  have isSound := refines.sound.handles handle (List.mem_of_find?_eq_some found)
  have holdsAt := refines.stores.holdsAt small (stored_parts isSound)
  have length := Ledger.length_pending ledger isSound
  have few := refines.stores.few
  rw [Ledger.length_stored] at few
  have created := isSound.created_le
  have alive := isSound.alive
  have next := isSound.next_le
  have shorter := (fitting_starts bufferSize.toNat (ledger.pending handle)).length_le
  have takes := RamStorage.takeRecords_spec holdsAt (Nat.zero_le bufferSize.toNat) bufferSize.toNat_lt
  have left : u16Sub (handle.created - ledger.removed) (ledger.position handle - ledger.removed) =
      (ledger.pending handle).length := by
    rw [length, u16Sub_of_le (by unfold Ledger.position; omega) (by omega)]
    unfold Ledger.position
    omega
  rw [Nat.sub_zero, Nat.zero_add, ← left] at takes
  have advances := @advance_view ledger.removed (fitting bufferSize.toNat (ledger.pending handle)).length handle.handle
    ledger.handles handle found (by rw [length] at shorter; unfold Ledger.position at shorter; omega)
  refine ⟨{ storage with
      handles := (ledger.getTracked handle bufferSize.toNat).1.handles.map (LedgerHandle.view ledger.removed) }, ?_, ?_⟩
  · rw [RamStorage.getTracked]
    change (RamStorage.takeRecords _ _ (u16Sub (handle.created - ledger.removed) (ledger.position handle - ledger.removed)) _ _ >>= _) = _
    rw [takes, ok_bind]
    dsimp only
    rw [refines.handles]
    change Except.ok (_, _) = _
    rw [show (LedgerHandle.view ledger.removed handle).handle = handle.handle from rfl, advances]
    rfl
  · exact ⟨refines.stores.withHandles _ _, rfl, refines.nextHandle, refines.sound.getTracked bufferSize.toNat found⟩

theorem Refines.create {storage : RamStorage} {size : Nat} {ledger : Ledger} (refines : Refines storage size ledger) :
    Refines storage.createNewHandle.2 size ledger.create.2 ∧
      storage.createNewHandle.1 = ledger.create.1.view ledger.removed := by
  have isNew : storage.createNewHandle.1 = ledger.create.1.view ledger.removed := by
    simp only [RamStorage.createNewHandle, Ledger.create, LedgerHandle.view, refines.nextHandle, refines.stores.count,
      Ledger.length_stored, Nat.max_self, Nat.sub_self]
  refine ⟨⟨refines.stores.withHandles _ _, ?_, ?_, refines.sound.create⟩, isNew⟩
  · change storage.createNewHandle.1 :: storage.handles = _
    rw [isNew, refines.handles]
    rfl
  · simp only [RamStorage.createNewHandle, Ledger.create, refines.nextHandle]

theorem advance_none (number : UInt16) (handles : List RecordHandle) (small : ∀ handle ∈ handles, handle.offset < 2 ^ 16) :
    RamStorage.advance number 0 handles = handles := by
  induction handles with
  | nil => rfl
  | cons handle handles ih =>
      rw [RamStorage.advance, ih (fun h m => small h (List.mem_cons_of_mem _ m)), Nat.add_zero,
        u16_of_lt (small handle List.mem_cons_self)]
      split <;> rfl

/-- A handle that has returned all that it covers. -/
theorem Refines.getNothing {storage : RamStorage} {size : Nat} {ledger : Ledger} {handle : LedgerHandle}
    (refines : Refines storage size ledger) (small : size < 2 ^ 16) (bufferSize : UInt16)
    (found : ledger.handles.find? (·.handle = handle.handle) = some handle)
    (done : (handle.view ledger.removed).count = (handle.view ledger.removed).offset) :
    (ledger.getTracked handle bufferSize.toNat).2 = ⟨handle.handle, 0, []⟩ ∧
      Refines storage size (ledger.getTracked handle bufferSize.toNat).1 := by
  have isSound := refines.sound.handles handle (List.mem_of_find?_eq_some found)
  have alive := isSound.alive
  have next := isSound.next_le
  have few := refines.stores.few
  rw [Ledger.length_stored] at few
  have bound : ∀ other ∈ storage.handles, other.offset < 2 ^ 16 := by
    intro other member
    rw [refines.handles] at member
    obtain ⟨tracked, isTracked, rfl⟩ := List.mem_map.mp member
    have sound := refines.sound.handles tracked isTracked
    have alive := sound.alive
    have next := sound.next_le
    have created := sound.created_le
    change max tracked.next ledger.removed - ledger.removed < 2 ^ 16
    omega
  have none : ledger.pending handle = [] := by
    have length := Ledger.length_pending ledger isSound
    unfold Ledger.position at length
    unfold LedgerHandle.view at done
    dsimp only at done
    exact List.length_eq_zero_iff.mp (by omega)
  have fits : fitting bufferSize.toNat (ledger.pending handle) = [] := by
    rw [none]
    rfl
  have handles := @advance_view ledger.removed 0 handle.handle ledger.handles handle found (by
    have created := isSound.created_le
    omega)
  rw [← refines.handles, advance_none handle.handle storage.handles bound] at handles
  have sound := refines.sound.getTracked bufferSize.toNat found
  unfold Ledger.getTracked at sound ⊢
  rw [fits] at sound ⊢
  exact ⟨rfl, refines.stores, handles, refines.nextHandle, sound⟩

/-- What a handle has passed is skipped. -/
theorem Refines.skips {storage : RamStorage} {size : Nat} {ledger : Ledger} {handle : LedgerHandle}
    (refines : Refines storage size ledger) (small : size < 2 ^ 16)
    (isSound : Ledger.HandleSound ledger.removed ledger.history.length handle) :
    RamStorage.skipRecords storage.buffer (handle.view ledger.removed).offset 0 =
      .ok (encode (ledger.stored.take (ledger.position handle - ledger.removed))).length := by
  have parts := stored_parts isSound
  have holdsAt := @Stores.holdsAt _ _ _ refines.stores small [] _ _ parts
  have skips := RamStorage.skipRecords_spec holdsAt
  have alive := isSound.alive
  have next := isSound.next_le
  have created := isSound.created_le
  have length : (ledger.stored.take (ledger.position handle - ledger.removed)).length =
      (handle.view ledger.removed).offset := by
    rw [List.length_take, Ledger.length_stored]
    unfold Ledger.position LedgerHandle.view
    dsimp only
    omega
  rw [length, encode_nil, List.length_nil, List.nil_append] at skips
  exact skips

theorem Refines.getRecords {storage : RamStorage} {size : Nat} {ledger : Ledger} (refines : Refines storage size ledger)
    (small : size < 2 ^ 16) (handle bufferSize : UInt16) :
    ∃ next, storage.getRecords handle bufferSize = .ok (next, (ledger.get handle bufferSize).2) ∧
      Refines next size (ledger.get handle bufferSize).1 := by
  unfold RamStorage.getRecords Ledger.get
  split
  case isTrue generate =>
      obtain ⟨created, isNew⟩ := refines.create
      have found := Ledger.find_create ledger
      obtain ⟨next, gets, refines'⟩ := created.getTracked small bufferSize found
      have start : ledger.create.2.position ledger.create.1 - ledger.create.2.removed = 0 := by
        simp [Ledger.position, Ledger.create]
      rw [start, List.take_zero, encode_nil, List.length_nil] at gets
      rw [show LedgerHandle.view ledger.create.2.removed ledger.create.1 = storage.createNewHandle.1 from isNew.symm] at gets
      exact ⟨next, gets, refines'⟩
  case isFalse =>
      split
      case isTrue remove =>
          have holdsAt := refines.stores.holdsAt small (show ledger.stored = [] ++ (ledger.stored ++ []) by simp)
          have takes := RamStorage.takeRecords_spec holdsAt (Nat.zero_le bufferSize.toNat) bufferSize.toNat_lt
          rw [Nat.sub_zero, Nat.zero_add, encode_nil, List.length_nil, ← refines.stores.count] at takes
          obtain ⟨next, removes, refines'⟩ := refines.removeRecords small (fitting_starts bufferSize.toNat ledger.stored).length_le
          refine ⟨next, ?_, refines'⟩
          rw [takes, ok_bind]
          dsimp only
          rw [removes]
          rfl
      case isFalse =>
          rw [RamStorage.getRecordHandle, refines.handles, find_view]
          cases found : ledger.handles.find? (·.handle = handle) with
          | none => exact ⟨storage, rfl, refines⟩
          | some tracked =>
              have isHandle := Ledger.find_number found
              have found' : ledger.handles.find? (·.handle = tracked.handle) = some tracked := by rw [isHandle, found]
              obtain ⟨next, gets, refines'⟩ := refines.getTracked small bufferSize found'
              have isSound := refines.sound.handles tracked (List.mem_of_find?_eq_some found)
              rw [Option.map_some]
              dsimp only
              split
              case isTrue done =>
                  obtain ⟨answer, refines''⟩ := refines.getNothing small bufferSize found' done
                  rw [answer, isHandle]
                  exact ⟨storage, rfl, refines''⟩
              case isFalse =>
                  have skips := refines.skips small isSound
                  exact ⟨next, by rw [skips, ok_bind]; exact gets, refines'⟩

theorem Refines.deleteRecords {storage : RamStorage} {size : Nat} {ledger : Ledger} (refines : Refines storage size ledger)
    (small : size < 2 ^ 16) (handle : UInt16) :
    ∃ next, storage.deleteRecords handle = .ok (next, (ledger.delete handle).2) ∧
      Refines next size (ledger.delete handle).1 := by
  unfold RamStorage.deleteRecords Ledger.delete
  split
  case isTrue => exact ⟨storage, rfl, refines⟩
  case isFalse =>
      split
      case isTrue =>
          rw [RamStorage.handlesRecordsRemoved_eq]
          refine ⟨_, rfl, refines.removed (Nat.le_refl _) ?_ (by rw [refines.stores.count]) rfl⟩
          rw [List.drop_length]
          refine ⟨?_, refines.stores.sized, refines.stores.byteSize, by simp [RingBuffer.contents, RingBuffer.reset], rfl⟩
          intro some_
          have positive : 0 < storage.buffer.size := by
            rw [refines.stores.sized]
            exact Nat.pos_of_ne_zero some_
          exact ⟨positive, positive⟩
      case isFalse =>
          rw [RamStorage.getRecordHandle, refines.handles, find_view]
          cases found : ledger.handles.find? (·.handle = handle) with
          | none => exact ⟨storage, rfl, refines⟩
          | some tracked =>
              have isSound := refines.sound.handles tracked (List.mem_of_find?_eq_some found)
              obtain ⟨next, removes, refines'⟩ := refines.removeRecords small
                (show tracked.created - ledger.removed ≤ ledger.stored.length by
                  rw [Ledger.length_stored]
                  exact Nat.sub_le_sub_right isSound.created_le _)
              refine ⟨next, ?_, refines'⟩
              rw [Option.map_some]
              change (storage.removeRecords (tracked.created - ledger.removed) >>= _) = _
              rw [removes]
              rfl

/-! ## Runs -/

namespace RamStorage

def call (fuel : Nat) (self : RamStorage) : StorageCall → Access (RamStorage × StorageAnswer)
  | .addRecord payload => do
      let (self, result) ← self.addRecord fuel payload
      return (self, .result result)
  | .getRecords handle size => do
      let (self, got) ← self.getRecords handle size
      return (self, .got got)
  | .deleteRecords handle => do
      let (self, result) ← self.deleteRecords handle
      return (self, .result result)

def run (fuel : Nat) (self : RamStorage) : List StorageCall → Access (RamStorage × List StorageAnswer)
  | [] => return (self, [])
  | call :: calls => do
      let (self, answer) ← self.call fuel call
      let (self, answers) ← self.run fuel calls
      return (self, answer :: answers)

end RamStorage

theorem refines_create (size : UInt16) : Refines (RamStorage.create size) size.toNat Ledger.empty where
  stores := by
    have sized : (List.replicate size.toNat (0 : UInt8)).length = size.toNat := List.length_replicate
    refine ⟨?_, sized, rfl, by simp [RamStorage.create, RingBuffer.contents, RingBuffer.init, Ledger.stored, Ledger.empty], rfl⟩
    intro some_
    apply RingBuffer.wellFormed_init
    intro none
    rw [none] at sized
    exact some_ sized.symm
  handles := rfl
  nextHandle := rfl
  sound := Ledger.sound_empty

theorem Refines.call {storage : RamStorage} {size fuel : Nat} {ledger : Ledger} {call : StorageCall}
    (refines : Refines storage size ledger) (small : size < 2 ^ 16) (enough : size < fuel) (permitted : call.Permitted size) :
    ∃ next, storage.call fuel call = .ok (next, (ledger.call size call).2) ∧ Refines next size (ledger.call size call).1 := by
  cases call with
  | addRecord payload =>
      obtain ⟨next, adds, refines'⟩ := refines.addRecord small enough permitted.2
      exact ⟨next, by rw [RamStorage.call, adds]; rfl, refines'⟩
  | getRecords handle bufferSize =>
      obtain ⟨next, gets, refines'⟩ := refines.getRecords small handle bufferSize
      exact ⟨next, by rw [RamStorage.call, gets]; rfl, refines'⟩
  | deleteRecords handle =>
      obtain ⟨next, deletes, refines'⟩ := refines.deleteRecords small handle
      exact ⟨next, by rw [RamStorage.call, deletes]; rfl, refines'⟩

theorem Refines.run {storage : RamStorage} {size fuel : Nat} {ledger : Ledger} {calls : List StorageCall}
    (refines : Refines storage size ledger) (small : size < 2 ^ 16) (enough : size < fuel)
    (permitted : ∀ call ∈ calls, call.Permitted size) :
    ∃ next, storage.run fuel calls = .ok (next, (ledger.run size calls).2) ∧ Refines next size (ledger.run size calls).1 := by
  induction calls generalizing storage ledger with
  | nil => exact ⟨storage, rfl, refines⟩
  | cons call calls ih =>
      obtain ⟨next, called, refines'⟩ := refines.call small enough (permitted call List.mem_cons_self)
      obtain ⟨last, runs, refines''⟩ := ih refines' (fun c m => permitted c (List.mem_cons_of_mem _ m))
      exact ⟨last, by rw [RamStorage.run, called, ok_bind]; dsimp only; rw [runs]; rfl, refines''⟩

/-- Whatever records are added, returned and deleted, the storage holds and returns what its ledger
    says, and a record that is added takes the place of no more of the oldest ones than it must. -/
theorem ram_storage_keeps_ledger (size : UInt16) (calls : List StorageCall) (fuel : Nat) (enough : size.toNat < fuel)
    (permitted : ∀ call ∈ calls, call.Permitted size.toNat) :
    let ledger := (Ledger.empty.run size.toNat calls).1
    ∃ storage, (RamStorage.create size).run fuel calls = .ok (storage, (Ledger.empty.run size.toNat calls).2) ∧
      storage.buffer.contents = encode ledger.stored ∧ storage.recordCount = ledger.stored.length ∧
      storage.handles = ledger.handles.map (LedgerHandle.view ledger.removed) ∧ ledger.Sound ∧
      ∀ need < size.toNat,
        (encode (ledger.stored.drop (evictions (size.toNat - 1) need ledger.stored))).length + need ≤ size.toNat - 1 ∧
          ∀ fewer < evictions (size.toNat - 1) need ledger.stored,
            size.toNat - 1 < (encode (ledger.stored.drop fewer)).length + need := by
  intro ledger
  obtain ⟨storage, runs, refines⟩ := (refines_create size).run size.toNat_lt enough permitted
  refine ⟨storage, runs, refines.stores.contents, refines.stores.count, refines.handles, refines.sound, ?_⟩
  intro need fits
  exact ⟨evictions_fits (by omega) ledger.stored, fun fewer few => evictions_least few⟩

/-- A handle goes on after the record that it has returned is gone. -/
theorem ram_storage_keeps_ledger_eviction :
    ∃ storage, (RamStorage.create 12).run 13
        [.addRecord [1, 2], .addRecord [3], .getRecords 1 4, .addRecord [4, 5, 6], .getRecords 2 20, .getRecords 2 20] =
      .ok (storage, [.result (.ok ()), .result (.ok ()), .got ⟨2, 4, [2, 0, 1, 2]⟩, .result (.ok ()),
        .got ⟨2, 3, [1, 0, 3]⟩, .got ⟨2, 0, []⟩]) ∧ storage.recordCount = 2 := by
  obtain ⟨storage, runs, -, count, -⟩ := ram_storage_keeps_ledger 12
    [.addRecord [1, 2], .addRecord [3], .getRecords 1 4, .addRecord [4, 5, 6], .getRecords 2 20, .getRecords 2 20] 13
    (by decide) (by
      simp only [List.mem_cons, List.not_mem_nil, or_false, forall_eq_or_imp, forall_eq]
      decide)
  exact ⟨storage, runs, count⟩

/-! ## Every payload -/

/-- The record is stored, for no more of the oldest ones than must go, or it is refused and nothing
    changes. -/
def AddsRecord (storage : RamStorage) (size : Nat) (records : List Record) (payload : Record) : Prop :=
  ∃ fuel next result, storage.addRecord fuel payload = .ok (next, result) ∧
    ((∃ error, result = .error error) ∧ next = storage ∨
      result = .ok () ∧ ∃ count, Stores next size (records.drop count ++ [payload]) ∧
        ∀ fewer < count, size - 1 < (encode (records.drop fewer)).length + (2 + payload.length))

theorem addRecord_result {fuel : Nat} {storage next : RamStorage} {payload : Record} {result : Except Error Unit}
    (some_ : payload ≠ []) (notLarge : u16 (2 + payload.length) ≤ storage.byteSize)
    (adds : storage.addRecord fuel payload = .ok (next, result)) : result = .ok () := by
  have length : payload.length ≠ 0 := fun zero => some_ (List.length_eq_zero_iff.mp zero)
  rw [RamStorage.addRecord, if_neg length] at adds
  dsimp only at adds
  rw [if_neg (Nat.not_lt.mpr notLarge)] at adds
  split at adds
  case isTrue => cases adds
  case isFalse =>
      obtain ⟨_, _, adds⟩ := bind_ok adds
      obtain ⟨_, _, adds⟩ := bind_ok adds
      obtain ⟨_, _, adds⟩ := bind_ok adds
      cases adds
      rfl

theorem Stores.addsRecord_iff {storage : RamStorage} {size : Nat} {records : List Record} {payload : Record}
    (stores : Stores storage size records) (small : size < 2 ^ 16) :
    AddsRecord storage size records payload ↔ Addable size payload := by
  constructor
  · rintro ⟨fuel, next, result, adds, outcome⟩
    by_contra notAddable
    unfold Addable at notAddable
    push Not at notAddable
    obtain ⟨some_, notLarge, tooLong⟩ := notAddable
    have succeeds := addRecord_result some_ (stores.byteSize ▸ notLarge) adds
    rcases outcome with ⟨⟨error, fails⟩, -⟩ | ⟨-, count, stored, -⟩
    · rw [succeeds] at fails
      cases fails
    · -- the record alone is longer than the buffer
      have length := stored.length_le
      rw [encode_append, List.length_append, encode_cons, List.length_append, length_encodeRecord] at length
      omega
  · intro addable
    cases payload with
    | nil => exact ⟨0, storage, _, rfl, .inl ⟨⟨_, rfl⟩, rfl⟩⟩
    | cons byte bytes =>
        rcases addable.resolve_left (List.cons_ne_nil byte bytes) with large | fits
        · exact ⟨0, storage, _, stores.refuses (List.cons_ne_nil byte bytes) large 0, .inl ⟨⟨_, rfl⟩, rfl⟩⟩
        · obtain ⟨next, adds, stored, -⟩ :=
            stores.addRecord small (Nat.lt_succ_self size) (List.cons_ne_nil byte bytes) fits
          exact ⟨size + 1, next, _, adds, .inr ⟨rfl, _, stored, fun fewer few => evictions_least few⟩⟩

/-- After any run, a record is added or refused as it should exactly when it does not take up the
    whole buffer and its size does not wrap. -/
theorem addRecord_adds_iff (size : UInt16) (calls : List StorageCall) (fuel : Nat) (enough : size.toNat < fuel)
    (permitted : ∀ call ∈ calls, call.Permitted size.toNat) (payload : Record) :
    ∃ storage, (RamStorage.create size).run fuel calls = .ok (storage, (Ledger.empty.run size.toNat calls).2) ∧
      Stores storage size.toNat (Ledger.empty.run size.toNat calls).1.stored ∧
      (AddsRecord storage size.toNat (Ledger.empty.run size.toNat calls).1.stored payload ↔ Addable size.toNat payload) := by
  obtain ⟨storage, runs, refines⟩ := (refines_create size).run size.toNat_lt enough permitted
  exact ⟨storage, runs, refines.stores, refines.stores.addsRecord_iff size.toNat_lt⟩

theorem addRecord_adds_nine : ∃ storage answers, (RamStorage.create 12).run 13 [.addRecord [1, 2]] = .ok (storage, answers) ∧
    AddsRecord storage 12 [[1, 2]] (List.replicate 9 0) := by
  obtain ⟨storage, runs, -, adds⟩ := addRecord_adds_iff 12 [.addRecord [1, 2]] 13 (by decide) (by
    simp only [List.mem_cons, List.not_mem_nil, or_false, forall_eq]
    decide) (List.replicate 9 0)
  exact ⟨storage, _, runs, adds.mpr (.inr (.inr (by decide)))⟩

/-- A record that takes up the whole buffer is not added, and not refused. -/
theorem whole_buffer_not_added :
    ¬∀ (size : UInt16) (payload : Record), payload.length < 2 ^ 16 →
      AddsRecord (RamStorage.create size) size.toNat [] payload := by
  intro adds
  have stores : Stores (RamStorage.create 12) 12 [] := (refines_create 12).stores
  have addable := (stores.addsRecord_iff (by decide)).mp (adds 12 (List.replicate 10 0) (by decide))
  exact absurd addable (by unfold Addable; decide)

end GoldenGate.Diagnostics
