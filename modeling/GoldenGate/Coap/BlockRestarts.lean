import Mathlib.Data.List.Induction
import GoldenGate.Coap.Block

/-! # Resent blocks and new transfers

What the server helper makes of a BLOCK1 request that it has just accepted, and of the first
block of another transfer. It tells the two apart by the next offset and by whether the transfer
is done; a transfer of one block leaves the next offset where the transfer before it had come to.
-/

namespace GoldenGate.Coap

namespace ServerHelper

/-- The ways in which a received block is accepted: the helper after it, and whether it was sent
    before. -/
inductive Accepts (helper : ServerHelper) (payloadSize : Nat) : ServerHelper → Bool → Prop where
  /-- The next block of a transfer that is not done. -/
  | next (isNext : helper.blockInfo.offset = helper.nextOffset) (going : helper.done = false) :
      Accepts helper payloadSize (helper.expectNext (helper.blockInfo.offset + payloadSize)) false
  /-- The last block of a transfer that is done. -/
  | last (isNext : helper.blockInfo.offset = helper.nextOffset) (finished : helper.done = true)
      (noMore : helper.blockInfo.more = false) : Accepts helper payloadSize helper true
  /-- The block just before the next one. -/
  | previous (elsewhere : helper.blockInfo.offset ≠ helper.nextOffset) (inside : helper.blockInfo.offset ≠ 0)
      (ends : helper.blockInfo.offset + payloadSize = helper.nextOffset) : Accepts helper payloadSize helper true
  /-- The first block of a new transfer. -/
  | restart (elsewhere : helper.nextOffset ≠ 0) (first : helper.blockInfo.offset = 0) :
      Accepts helper payloadSize ({ helper with done := false }.expectNext (helper.blockInfo.offset + payloadSize)) false

theorem accepts_of_receiveBlock {helper after : ServerHelper} {payloadSize : Nat} {resent : Bool}
    (received : helper.receiveBlock payloadSize = (after, .ok resent)) : Accepts helper payloadSize after resent := by
  unfold receiveBlock at received
  simp only at received
  split at received
  · rename_i isNext
    split at received
    · rename_i finished
      split at received
      · cases received
      · rename_i noMore
        cases received
        exact .last isNext finished (by simpa using noMore)
    · rename_i going
      cases received
      exact .next isNext (by simpa using going)
  · rename_i elsewhere
    split at received
    · rename_i inside
      split at received
      · cases received
      · rename_i ends
        cases received
        exact .previous elsewhere inside (by simpa using ends)
    · rename_i first
      have first : helper.blockInfo.offset = 0 := by simpa using first
      cases received
      exact .restart (fun zero => elsewhere (first.trans zero.symm)) first

/-- A request reaches the helper's account of the blocks if its block option can be read and its
    If-Match option, if it has one, names the transfer. -/
structure Reaches (helper : ServerHelper) (request : Content) (info : BlockInfo) : Prop where
  tells : getBlockInfo request.options optionBlock1 helper.preferredBlockSize = .ok info
  matches_ : helper.checkIfMatch request.options = .ok ()

theorem onRequest_of_reaches {helper : ServerHelper} {request : Content} {info : BlockInfo}
    (isBlock1 : helper.blockType = .block1) (reaches : helper.Reaches request info) :
    helper.onRequest request = { helper with blockInfo := info }.receiveBlock request.payload.length := by
  have matches_ : checkIfMatch { helper with blockInfo := info } request.options = .ok () := reaches.matches_
  simp only [onRequest, isBlock1, BlockType.number, reaches.tells]
  rw [isBlock1] at matches_
  simp only [matches_]

theorem onRequest_accepts {helper after : ServerHelper} {request : Content} {resent : Bool}
    (isBlock1 : helper.blockType = .block1) (accepted : helper.onRequest request = (after, .ok resent)) :
    ∃ info, helper.Reaches request info ∧
      Accepts { helper with blockInfo := info } request.payload.length after resent := by
  cases tells : getBlockInfo request.options optionBlock1 helper.preferredBlockSize with
  | error error => simp [onRequest, isBlock1, BlockType.number, tells] at accepted
  | ok info =>
      cases matches_ : helper.checkIfMatch request.options with
      | error code =>
          have same : checkIfMatch { helper with blockInfo := info } request.options = .error code := matches_
          rw [isBlock1] at same
          simp [onRequest, isBlock1, BlockType.number, tells, same] at accepted
      | ok _ =>
          have reaches : helper.Reaches request info := ⟨tells, matches_⟩
          rw [onRequest_of_reaches isBlock1 reaches] at accepted
          exact ⟨info, reaches, accepts_of_receiveBlock accepted⟩

/-- What the helper is after a request that it accepted is told by two fields. -/
theorem Accepts.same {helper after : ServerHelper} {payloadSize : Nat} {resent : Bool}
    (accepts : Accepts helper payloadSize after resent) :
    after = { helper with nextOffset := after.nextOffset, done := after.done } := by
  cases accepts with
  | next isNext going =>
      unfold expectNext
      split <;> rfl
  | last isNext finished noMore => rfl
  | previous elsewhere inside ends => rfl
  | restart elsewhere first =>
      unfold expectNext
      split <;> rfl

theorem Accepts.unchanged {helper after : ServerHelper} {payloadSize : Nat}
    (accepts : Accepts helper payloadSize after true) : after = helper := by
  cases accepts with
  | last isNext finished noMore => rfl
  | previous elsewhere inside ends => rfl

/-- The helper takes a request for one that it had before, and expects what it expected. -/
def TakesAsResent (helper : ServerHelper) (request : Content) : Prop :=
  (helper.onRequest request).2 = .ok true ∧ (helper.onRequest request).1.nextOffset = helper.nextOffset ∧
    (helper.onRequest request).1.done = helper.done

/-- A block that was accepted comes again. Block 0 of a transfer of one block is only known again
    when no blocks came before it, and a block without data in the middle of a transfer never is. -/
theorem Accepts.again {helper after : ServerHelper} {payloadSize : Nat} {resent : Bool}
    (accepts : Accepts helper payloadSize after resent)
    (told : 0 < helper.blockInfo.offset ∨ helper.blockInfo.more = false) :
    after.receiveBlock payloadSize = (after, .ok true) ↔
      (helper.blockInfo.offset = 0 → helper.nextOffset = 0) ∧ (helper.blockInfo.more = true → payloadSize ≠ 0) := by
  cases accepts with
  | next isNext going =>
      cases more : helper.blockInfo.more with
      | false => simp [ServerHelper.receiveBlock, expectNext, more, isNext]
      | true =>
          have inside : helper.nextOffset ≠ 0 := by
            rw [more, isNext] at told
            simpa [Nat.pos_iff_ne_zero] using told
          cases payloadSize with
          | zero => simp [ServerHelper.receiveBlock, expectNext, more, isNext, going]
          | succ size => simp [ServerHelper.receiveBlock, expectNext, more, isNext, inside]
  | last isNext finished noMore => simp [ServerHelper.receiveBlock, isNext, finished, noMore]
  | previous elsewhere inside ends =>
      have hasData : payloadSize ≠ 0 := by omega
      simp [ServerHelper.receiveBlock, elsewhere, inside, ends, hasData]
  | restart elsewhere first =>
      have noMore : helper.blockInfo.more = false := told.resolve_left (by omega)
      simp [ServerHelper.receiveBlock, expectNext, first, noMore, elsewhere, elsewhere.symm]

theorem Accepts.takesAsResent_iff {helper after : ServerHelper} {request : Content} {info : BlockInfo} {resent : Bool}
    (isBlock1 : helper.blockType = .block1) (reaches : helper.Reaches request info)
    (accepts : Accepts { helper with blockInfo := info } request.payload.length after resent) :
    after.TakesAsResent request ↔ after.receiveBlock request.payload.length = (after, .ok true) := by
  have same := accepts.same
  have reaches' : after.Reaches request info := by
    rw [same]
    exact ⟨reaches.tells, reaches.matches_⟩
  have unchanged : { after with blockInfo := info } = after := by
    rw [same]
  have onRequest := onRequest_of_reaches (by rw [same]; exact isBlock1) reaches'
  rw [unchanged] at onRequest
  unfold TakesAsResent
  rw [onRequest]
  constructor
  · rintro ⟨isResent, -, -⟩
    have received : after.receiveBlock request.payload.length =
        ((after.receiveBlock request.payload.length).1, .ok true) := by rw [← isResent]
    rw [received, (accepts_of_receiveBlock received).unchanged]
  · intro received
    rw [received]
    exact ⟨rfl, rfl, rfl⟩

theorem run_blockType (blockType : BlockType) (preferredBlockSize : Nat) (steps : List ServerStep) :
    ((init blockType preferredBlockSize).run steps).1.blockType = blockType :=
  (accounts_run blockType preferredBlockSize steps).isType

end ServerHelper

/-- A request that was just accepted is known again, unless it is the only block of a transfer
    and there was a longer transfer before, or a block without data that others follow. -/
theorem resent_recognized_iff (preferredBlockSize : Nat) (steps : List ServerStep) (request : Content)
    (after : ServerHelper) (resent : Bool) :
    let helper := ((ServerHelper.init .block1 preferredBlockSize).run steps).1
    helper.onRequest request = (after, .ok resent) → 0 < after.blockInfo.offset ∨ after.blockInfo.more = false →
      (after.TakesAsResent request ↔
        (after.blockInfo.offset = 0 → helper.nextOffset = 0) ∧
          (after.blockInfo.more = true → request.payload ≠ [])) := by
  intro helper accepted told
  have isBlock1 : helper.blockType = .block1 := ServerHelper.run_blockType _ _ _
  obtain ⟨info, reaches, accepts⟩ := ServerHelper.onRequest_accepts isBlock1 accepted
  have isInfo : after.blockInfo = info := by rw [accepts.same]
  rw [isInfo] at told ⊢
  rw [accepts.takesAsResent_iff isBlock1 reaches, accepts.again told, ne_eq, List.length_eq_zero_iff]

/-- A PUT with a BLOCK1 option. -/
def blockRequest (value : UInt32) (payload : List UInt8) : Content := ⟨3, [⟨optionBlock1, .uint value⟩], payload⟩

/-- A transfer of 16 and 2 bytes. -/
def twoBlocks : List ServerStep :=
  [.request (blockRequest 8 (List.replicate 16 7)), .request (blockRequest 16 [8, 8])]

theorem resent_recognized_second_block :
    let helper := ((ServerHelper.init .block1 0).run (twoBlocks.take 1)).1
    (helper.onRequest (blockRequest 16 [8, 8])).1.TakesAsResent (blockRequest 16 [8, 8]) :=
  (resent_recognized_iff 0 (twoBlocks.take 1) (blockRequest 16 [8, 8]) _ false rfl (.inl (by decide))).mpr
    ⟨by decide, by decide⟩

/-- After a transfer of two blocks, one of a single block is processed as often as it is sent. -/
theorem single_block_not_recognized :
    ¬∀ (preferredBlockSize : Nat) (steps : List ServerStep) (request : Content) (after : ServerHelper) (resent : Bool),
      ((ServerHelper.init .block1 preferredBlockSize).run steps).1.onRequest request = (after, .ok resent) →
        0 < after.blockInfo.offset ∨ after.blockInfo.more = false → after.TakesAsResent request := by
  intro recognized
  have resent := (recognized 0 twoBlocks (blockRequest 0 [9]) _ false rfl (.inr rfl)).1
  exact absurd resent (by decide)

/-! ## New transfers -/

/-- The request begins a transfer. -/
def ServerHelper.Starts (helper : ServerHelper) (request : Content) : Prop :=
  (∃ resent, (helper.onRequest request).2 = .ok resent) ∧ (helper.onRequest request).1.done = false ∧
    (helper.onRequest request).1.nextOffset = request.payload.length

theorem ServerHelper.starts_iff {helper : ServerHelper} {request : Content} {info : BlockInfo}
    (isBlock1 : helper.blockType = .block1) (reaches : helper.Reaches request info) (first : info.offset = 0)
    (more : info.more = true) : helper.Starts request ↔ (helper.nextOffset = 0 → helper.done = false) := by
  unfold Starts
  rw [onRequest_of_reaches isBlock1 reaches]
  cases atStart : decide (helper.nextOffset = 0) with
  | false =>
      have elsewhere : helper.nextOffset ≠ 0 := by simpa using atStart
      simp [receiveBlock, expectNext, first, more, elsewhere, elsewhere.symm]
  | true =>
      have isNext : helper.nextOffset = 0 := by simpa using atStart
      cases done : helper.done with
      | false => simp [receiveBlock, expectNext, first, more, isNext]
      | true => simp [receiveBlock, first, more, isNext]

/-- No transfer of a single block was accepted. -/
def SeveralBlocks (seen : List Seen) : Prop :=
  ∀ block ∈ seen, ∀ resent, block.outcome = .ok resent → block.info.offset = 0 → block.info.more = true

namespace ServerHelper

theorem Accepts.startable {helper after : ServerHelper} {payloadSize : Nat} {resent : Bool}
    (accepts : Accepts helper payloadSize after resent)
    (several : helper.blockInfo.offset = 0 → helper.blockInfo.more = true)
    (startable : helper.nextOffset = 0 → helper.done = false) : after.nextOffset = 0 → after.done = false := by
  cases accepts with
  | next isNext going =>
      unfold expectNext
      split
      · exact fun _ => going
      · rename_i noMore
        exact fun atStart => absurd (several (isNext.trans atStart)) noMore
  | last isNext finished noMore => exact startable
  | previous elsewhere inside ends => exact startable
  | restart elsewhere first =>
      rw [expectNext, if_pos (several first)]
      exact fun _ => rfl

theorem onRequest_startable {helper : ServerHelper} {seen : List Seen} {request : Content}
    (isBlock1 : helper.blockType = .block1) (expects : helper.Expects seen)
    (several : ∀ resent, (helper.onRequest request).2 = .ok resent →
      (helper.onRequest request).1.blockInfo.offset = 0 → (helper.onRequest request).1.blockInfo.more = true)
    (startable : helper.nextOffset = 0 → helper.done = false) :
    (helper.onRequest request).1.nextOffset = 0 → (helper.onRequest request).1.done = false := by
  cases outcome : (helper.onRequest request).2 with
  | error code =>
      obtain ⟨sameOffset, sameDone⟩ := (onRequest_spec request expects).2.2.2 code outcome
      rw [sameOffset, sameDone]
      exact startable
  | ok resent =>
      obtain ⟨info, -, accepts⟩ := onRequest_accepts isBlock1
        (show helper.onRequest request = ((helper.onRequest request).1, .ok resent) by rw [← outcome])
      have isInfo : (helper.onRequest request).1.blockInfo = info := by rw [accepts.same]
      have several' := several resent outcome
      rw [isInfo] at several'
      exact accepts.startable several' startable

/-- Over a run without transfers of a single block, the helper is never done at offset 0. -/
theorem run_startable (preferredBlockSize : Nat) (steps : List ServerStep)
    (several : SeveralBlocks ((init .block1 preferredBlockSize).run steps).2) :
    ((init .block1 preferredBlockSize).run steps).1.nextOffset = 0 →
      ((init .block1 preferredBlockSize).run steps).1.done = false := by
  induction steps using List.reverseRecOn with
  | nil => exact fun _ => rfl
  | append_singleton steps step ih =>
      have accounts := accounts_run .block1 preferredBlockSize steps
      have isStep : (init .block1 preferredBlockSize).run (steps ++ [step]) =
          ServerHelper.step ((init .block1 preferredBlockSize).run steps) step := by simp [run]
      rw [isStep] at several ⊢
      cases step with
      | setEtag etag => exact ih several
      | request content =>
          have before := ih fun block member => several block (List.mem_append_left _ member)
          exact onRequest_startable accounts.isType accounts.expects (several _ (List.mem_append_right _ (List.mem_singleton_self _))) before

end ServerHelper

/-- A new transfer can be started exactly when the helper is not done at offset 0; where no
    transfer of a single block was accepted, that is always so. -/
theorem new_transfer_starts_iff (preferredBlockSize : Nat) (steps : List ServerStep) :
    let state := (ServerHelper.init .block1 preferredBlockSize).run steps
    (∀ request info, state.1.Reaches request info → info.offset = 0 → info.more = true →
        request.payload.length = info.size →
        (state.1.Starts request ↔ (state.1.nextOffset = 0 → state.1.done = false))) ∧
      (SeveralBlocks state.2 → state.1.nextOffset = 0 → state.1.done = false) := by
  have isBlock1 := ServerHelper.run_blockType .block1 preferredBlockSize steps
  exact ⟨fun _ _ reaches first more _ => ServerHelper.starts_iff isBlock1 reaches first more,
    ServerHelper.run_startable preferredBlockSize steps⟩

theorem new_transfer_starts_after_two_blocks :
    (((ServerHelper.init .block1 0).run twoBlocks).1).Starts (blockRequest 8 (List.replicate 16 7)) :=
  ((new_transfer_starts_iff 0 twoBlocks).1 _ ⟨0, 16, true⟩ ⟨rfl, rfl⟩ rfl rfl rfl).mpr (fun h => absurd h (by decide))

/-- After a transfer of a single block the first block of a longer one is refused. -/
theorem new_transfer_refused :
    ¬∀ (preferredBlockSize : Nat) (steps : List ServerStep) (request : Content) (info : BlockInfo),
      let helper := ((ServerHelper.init .block1 preferredBlockSize).run steps).1
      helper.Reaches request info → info.offset = 0 → info.more = true → request.payload.length = info.size →
        helper.Starts request := by
  intro starts
  have done := (starts 0 [.request (blockRequest 0 [9])] (blockRequest 8 (List.replicate 16 7)) ⟨0, 16, true⟩
    ⟨rfl, rfl⟩ rfl rfl rfl).2.1
  exact absurd done (by decide)

end GoldenGate.Coap
