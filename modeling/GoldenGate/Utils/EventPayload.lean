import GoldenGate.Common.Protobuf
import GoldenGate.Utils.CoapEventEmitter

/-! # The payload of the event emitter

The embedding of the buffer source of `gg_coap_event_emitter.c`, which counts the bytes of the payload in one loop
and writes them in another.
-/

namespace GoldenGate.EmitterRun

open Memory

/-- `GG_CoapEventEmitter_GetRequestDataSize`, with the size so far. -/
def getRequestDataSize (protobufSize : Nat) : List EventEntry → Nat
  | [] => protobufSize
  | entry :: entries =>
      if entry.inFlight then
        getRequestDataSize (protobufSize + (1 + protobufVarintSize entry.eventType.toNat 1)) entries
      else getRequestDataSize protobufSize entries

/-- `GG_CoapEventEmitter_GetRequestData`, at a position of the buffer that it fills: the buffer, and the position
    after the last byte. -/
def getRequestData (data : List UInt8) (protobuf : Nat) : List EventEntry → Access (List UInt8 × Nat)
  | [] => .ok (data, protobuf)
  | entry :: entries =>
      if entry.inFlight then do
        let data ← store data protobuf [UInt8.ofNat (1 <<< 3)]
        let encoded := encodeProtobufVarint entry.eventType.toNat
        let data ← store data (protobuf + 1) encoded
        assert (encoded.length ≠ 0)
        getRequestData data (protobuf + 1 + encoded.length) entries
      else getRequestData data protobuf entries

/-- The fields of the message: the types of the events that are in flight, each under the number 1. -/
def fields (entries : List EventEntry) : List (Nat × Nat) := (requestEvents entries).map fun type => (1, type.toNat)

def payload (entries : List EventEntry) : List UInt8 :=
  (fields entries).flatMap fun (n, value) => Varint.field n value

theorem payload_cons (entry : EventEntry) (entries : List EventEntry) :
    payload (entry :: entries) =
      if entry.inFlight then UInt8.ofNat (1 <<< 3) :: (encodeProtobufVarint entry.eventType.toNat ++ payload entries)
      else payload entries := by
  have key : Varint.group (8 * 1) = [UInt8.ofNat (1 <<< 3)] := by
    rw [Varint.group]
    rfl
  unfold payload fields requestEvents
  by_cases inFlight : entry.inFlight
  · simp [inFlight, Varint.field, key, encodeProtobufVarint_eq]
  · simp [inFlight]

theorem getRequestDataSize_eq (size : Nat) (entries : List EventEntry) :
    getRequestDataSize size entries = size + (payload entries).length := by
  induction entries generalizing size with
  | nil => rfl
  | cons entry entries ih =>
      rw [getRequestDataSize, payload_cons]
      by_cases inFlight : entry.inFlight
      · have varint := protobufVarintSize_eq entry.eventType.toNat 1
        rw [if_pos inFlight, if_pos inFlight, ih, encodeProtobufVarint_eq]
        simp only [List.length_cons, List.length_append]
        omega
      · rw [if_neg inFlight, if_neg inFlight, ih]

/-- The bytes are written one behind the other, and nothing else is. -/
theorem getRequestData_eq (written data : List UInt8) (entries : List EventEntry)
    (room : (payload entries).length ≤ data.length) :
    getRequestData (written ++ data) written.length entries =
      .ok (written ++ payload entries ++ data.drop (payload entries).length, written.length + (payload entries).length) := by
  induction entries generalizing written data with
  | nil => simp [getRequestData, payload, fields, requestEvents]
  | cons entry entries ih =>
      rw [getRequestData]
      rw [payload_cons] at room ⊢
      by_cases inFlight : entry.inFlight
      · rw [if_pos inFlight] at room ⊢
        simp only [List.length_cons, List.length_append] at room
        have key := store_behind written data [UInt8.ofNat (1 <<< 3)] (by simp; omega)
        have value := store_behind (written ++ [UInt8.ofNat (1 <<< 3)]) (data.drop 1)
          (encodeProtobufVarint entry.eventType.toNat) (by simp; omega)
        have rest := ih (written ++ [UInt8.ofNat (1 <<< 3)] ++ encodeProtobufVarint entry.eventType.toNat)
          ((data.drop 1).drop (encodeProtobufVarint entry.eventType.toNat).length) (by simp; omega)
        have some : (encodeProtobufVarint entry.eventType.toNat).length ≠ 0 := by
          rw [encodeProtobufVarint_eq]
          exact Nat.ne_of_gt (Varint.complete_group entry.eventType.toNat).length_pos
        rw [if_pos inFlight, key]
        simp only [ok_bind, List.length_append, List.length_singleton] at value rest ⊢
        rw [value]
        simp only [ok_bind]
        rw [assert_of some, ok_bind, rest]
        simp only [List.append_assoc, List.drop_drop, List.length_cons, List.length_append, List.cons_append,
          List.nil_append, Nat.add_assoc, Nat.add_comm]
      · rw [if_neg inFlight] at room ⊢
        rw [if_neg inFlight]
        exact ih written data room

/-- The size is the one of what is written, and what is written is a message of the events in flight. -/
theorem payload_of_events (entries : List EventEntry) (data : List UInt8)
    (room : getRequestDataSize 0 entries ≤ data.length) :
    ∃ bytes, getRequestData data 0 entries = .ok (bytes ++ data.drop bytes.length, getRequestDataSize 0 entries) ∧
      bytes.length = getRequestDataSize 0 entries ∧
      Varint.readMessage bytes = some ((requestEvents entries).map fun type => (1, type.toNat)) := by
  rw [getRequestDataSize_eq, Nat.zero_add] at room ⊢
  have writes := getRequestData_eq [] data entries room
  rw [List.nil_append, List.nil_append, List.length_nil, Nat.zero_add] at writes
  exact ⟨payload entries, writes, rfl, Varint.readMessage_flatMap (fields entries)⟩

/-- Two of three events are in flight, one of them with a type of two bytes. -/
theorem payload_of_two_events :
    let entries : List EventEntry := [⟨1, 0, true⟩, ⟨2, 5, false⟩, ⟨300, 0, true⟩]
    getRequestDataSize 0 entries ≤ 5 ∧
      ∃ bytes, getRequestData (List.replicate 5 0) 0 entries =
          .ok (bytes ++ (List.replicate 5 0).drop bytes.length, getRequestDataSize 0 entries) ∧
        bytes.length = getRequestDataSize 0 entries ∧
        Varint.readMessage bytes = some ((requestEvents entries).map fun type => (1, type.toNat)) := by
  intro entries
  have room : getRequestDataSize 0 entries ≤ 5 := by simp [entries, getRequestDataSize, protobufVarintSize]
  exact ⟨room, payload_of_events entries (List.replicate 5 0) room⟩

end GoldenGate.EmitterRun
