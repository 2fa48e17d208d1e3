import GoldenGate.Coap.Timeout
import Mathlib.Data.List.Sort

/-! # How a request is resent

The time of a request is doubled where it stands whenever the request is resent, in 32 bits. It takes
the values it should as long as the last one fits.
-/

namespace GoldenGate.Coap

/-- The timer of a request fires. -/
def EndpointRun.Fires (state : EndpointRun) (handle : Nat) (step : EndpointStep) : Prop :=
  step = .timerFired handle ∧ state.Scheduled handle

/-- The time that the timer of a request was scheduled with. -/
def EndpointRun.interval (state : EndpointRun) (handle : Nat) : Option Nat :=
  (state.endpoint.find handle).map (·.resendTimeout.toNat)

/-- The request is ready to be sent again, and all that is pending is sent. -/
def EndpointRun.Resends (state : EndpointRun) (handle : Nat) (state' : EndpointRun) : Prop :=
  state' = { state with endpoint := state.endpoint.modify handle .resending }.sendPendingRequests

/-- The firings of the timer of a request from some point of a run on, the last one of which is a
    timeout. -/
structure Firings (states : Nat → EndpointRun) (steps : Nat → EndpointStep) (handle start resends : Nat)
    (interval : Nat → Nat) (firings : List Nat) : Prop where
  length : firings.length = resends + 1
  ordered : firings.Pairwise (· < ·)
  all : ∀ m, m ∈ firings ↔ start ≤ m ∧ (states m).Fires handle (steps m)
  intervals : ∀ (k : Nat) m, firings[k]? = some m → (states m).interval handle = some (interval k)
  resent : ∀ (k : Nat) m, firings[k]? = some m → k < resends → (states m).Resends handle (states (m + 1))
  timesOut : ∀ m, firings[resends]? = some m → callbacks (states (m + 1)).history handle = [.error handle .timeout]

theorem Firings.unique {states : Nat → EndpointRun} {steps : Nat → EndpointStep} {handle start resends resends' : Nat}
    {interval interval' : Nat → Nat} {firings firings' : List Nat}
    (those : Firings states steps handle start resends interval firings)
    (others : Firings states steps handle start resends' interval' firings') : firings = firings' :=
  those.ordered.eq_of_mem_iff others.ordered fun m => (those.all m).trans (others.all m).symm

theorem WaitsAt.interval {state : EndpointRun} {handle : Nat} {pace : Pace} (waits : WaitsAt state handle pace) :
    state.interval handle = some pace.resendTimeout.toNat := by
  obtain ⟨context, found, waiting⟩ := waits.waiting
  rw [EndpointRun.interval, found, ← waiting.pace]
  rfl

/-- There are resends left as long as the numbers differ. -/
theorem Pace.left_pos_iff (pace : Pace) : 0 < pace.left ↔ pace.resendCount < pace.maxResendCount := by
  rw [UInt8.lt_iff_toNat_lt, left]
  omega

/-- The times of a request after another resend. -/
theorem Pace.interval_resent (pace : Pace) (k : Nat) :
    pace.resent.resendTimeout.toNat * 2 ^ k % 2 ^ 32 = pace.resendTimeout.toNat * 2 ^ (k + 1) % 2 ^ 32 := by
  simp only [resent, UInt32.toNat_mul, UInt32.reduceToNat]
  rw [Nat.mod_mul_mod, Nat.pow_succ']
  congr 1
  ring

namespace EndlessRun

variable {start : EndpointRun} {states : Nat → EndpointRun} {steps : Nat → EndpointStep} {handle : Nat}

/-- The timer of a request does not fire after its timeout. -/
theorem not_fires (run : EndlessRun start states steps) (initially : Lives start) {m : Nat} {error : Error}
    (told : callbacks (states m).history handle = [.error handle error]) : ¬ (states m).Fires handle (steps m) := by
  rintro ⟨isFired, context, found, scheduled⟩
  have lives := run.lives initially m
  have alone : (states m).frames = [] := by
    cases run.undisturbed m with
    | inl alone => exact alone
    | inr isResume =>
        obtain ⟨result, isResume⟩ := isResume
        rw [isFired] at isResume
        cases isResume
  have goesOn := (lives.life handle).goesOn context found (by simp [alone])
  have isHandle := (CoapEndpoint.find_eq found).2
  have waits := goesOn.waits
  have acked := goesOn.acked
  have clean := lives.clean (lives.notLocked alone) context (CoapEndpoint.find_eq found).1
  rw [isHandle, told] at waits acked
  cases isState : context.state <;> simp_all

/-- The run lemma. -/
theorem firings (run : EndlessRun start states steps) (initially : Lives start) {n : Nat} {pace : Pace}
    (spares : ∀ m, n ≤ m → (states m).Spares handle (steps m)) (fair : FiresWhenDue states steps handle)
    (waits : WaitsAt (states n) handle pace) :
    ∃ firings, Firings states steps handle n pace.left (fun k => pace.resendTimeout.toNat * 2 ^ k % 2 ^ 32) firings := by
  induction isLeft : pace.left generalizing n pace with
  | zero =>
      obtain ⟨m, isLater, isFired, waits', none_⟩ := run.nextFiring initially spares fair waits
      have last : ¬ pace.resendCount < pace.maxResendCount := by
        rw [← pace.left_pos_iff]
        omega
      have told : callbacks (states (m + 1)).history handle = [.error handle .timeout] := by
        cases waits'.fired (isFired ▸ run.runs m) with
        | inl resent => exact absurd resent.1 last
        | inr told => exact told.2
      refine ⟨[m], rfl, List.pairwise_singleton _ _, ?_, ?_, ?_, ?_⟩
      · intro other
        rw [List.mem_singleton]
        constructor
        · rintro rfl
          exact ⟨isLater, isFired, waits'.scheduled⟩
        · rintro ⟨later, fires⟩
          rcases Nat.lt_trichotomy other m with less | same | greater
          · exact absurd fires.1 (none_ other later less)
          · exact same
          · exact absurd fires (run.not_fires initially (run.staysTold initially told greater))
      · intro k m' isAt
        obtain ⟨rfl, rfl⟩ : k = 0 ∧ m' = m := by cases k <;> simp_all
        rw [waits'.interval, pow_zero, Nat.mul_one, Nat.mod_eq_of_lt pace.resendTimeout.toNat_lt]
      · intro k m' _ less
        exact absurd less (Nat.not_lt_zero k)
      · intro m' isAt
        cases isAt
        exact told
  | succ left ih =>
      obtain ⟨m, isLater, isFired, waits', none_⟩ := run.nextFiring initially spares fair waits
      have less : pace.resendCount < pace.maxResendCount := by
        rw [← pace.left_pos_iff]
        omega
      have isLeft' : pace.resent.left = left := by
        have fewer := Pace.left_resent less
        omega
      cases waits'.fired (isFired ▸ run.runs m) with
      | inr told => exact absurd less told.1
      | inl resent =>
          obtain ⟨-, waits'', resends⟩ := resent
          obtain ⟨firings, later⟩ := ih (fun m' later => spares m' (by omega)) waits'' isLeft'
          refine ⟨m :: firings, by rw [List.length_cons, later.length], ?_, ?_, ?_, ?_, ?_⟩
          · refine List.pairwise_cons.mpr ⟨fun m' member => ?_, later.ordered⟩
            exact ((later.all m').mp member).1
          · intro other
            rw [List.mem_cons, later.all]
            constructor
            · rintro (rfl | ⟨after, fires⟩)
              · exact ⟨isLater, isFired, waits'.scheduled⟩
              · exact ⟨by omega, fires⟩
            · rintro ⟨from_, fires⟩
              rcases Nat.lt_trichotomy other m with less | same | greater
              · exact absurd fires.1 (none_ other from_ less)
              · exact .inl same
              · exact .inr ⟨greater, fires⟩
          · intro k m' isAt
            cases k with
            | zero =>
                cases isAt
                rw [waits'.interval, pow_zero, Nat.mul_one, Nat.mod_eq_of_lt pace.resendTimeout.toNat_lt]
            | succ k => rw [later.intervals k m' isAt, pace.interval_resent]
          · intro k m' isAt fewer
            cases k with
            | zero =>
                cases isAt
                exact resends
            | succ k => exact later.resent k m' isAt (by omega)
          · exact fun m' isAt => later.timesOut m' isAt

end EndlessRun

/-- The last time of a request fits only if all of its times do, and there are fewer than 256 resends. -/
theorem interval_fits {timeout resends : Nat} (nonzero : 0 < timeout) (fits : timeout * 2 ^ resends < 2 ^ 32) :
    resends < 256 ∧ ∀ k, k ≤ resends → timeout * 2 ^ k % 2 ^ 32 = timeout * 2 ^ k := by
  constructor
  · have power : 2 ^ resends < 2 ^ 32 := Nat.lt_of_le_of_lt (Nat.le_mul_of_pos_left _ nonzero) fits
    have few := (Nat.pow_lt_pow_iff_right (Nat.lt_succ_self 1)).mp power
    omega
  · intro k least
    have grows : timeout * 2 ^ k ≤ timeout * 2 ^ resends :=
      Nat.mul_le_mul_left timeout (Nat.pow_le_pow_right Nat.two_pos least)
    exact Nat.mod_eq_of_lt (Nat.lt_of_le_of_lt grows fits)

/-- A request that nobody answers or cancels is resent as often as it should be, with a time that is
    doubled every time, exactly when the last time fits 32 bits. -/
theorem backs_off_iff {tokenPrefix : List UInt8} {tokenCounter : Nat} {connectionSink : Bool}
    {states : Nat → EndpointRun} {steps : Nat → EndpointStep}
    (run : EndlessRun (EndpointRun.create tokenPrefix tokenCounter connectionSink) states steps)
    {n maxResendCount handle : Nat} {ackTimeout : UInt32} (nonzero : ackTimeout ≠ 0)
    (isSend : steps n = .sendRequest ackTimeout maxResendCount) (isHandle : handle = (states n).endpoint.tokenCounter + 1)
    (spares : ∀ m, n < m → (states m).Spares handle (steps m)) (fair : FiresWhenDue states steps handle) :
    (∃ firings, Firings states steps handle (n + 1) maxResendCount (fun k => ackTimeout.toNat * 2 ^ k) firings) ↔
      ackTimeout.toNat * 2 ^ maxResendCount < 2 ^ 32 := by
  have initially := lives_create tokenPrefix tokenCounter connectionSink
  have isNext := run.runs n
  rw [isSend] at isNext
  have waits := waitsAt_sendRequest (run.lives initially n) ackTimeout maxResendCount
  rw [Except.ok.inj isNext, ← isHandle] at waits
  obtain ⟨firings, fires⟩ := run.firings initially spares fair waits
  have left : Pace.left ⟨ackTimeout, 0, UInt8.ofNat maxResendCount⟩ = maxResendCount % 256 := by simp [Pace.left]
  rw [left] at fires
  have positive : 0 < ackTimeout.toNat := Nat.pos_of_ne_zero fun zero => nonzero (UInt32.toNat_inj.mp zero)
  constructor
  · rintro ⟨firings', backsOff⟩
    cases fires.unique backsOff
    -- the last time is one that the code has computed
    have length := fires.length.symm.trans backsOff.length
    have isLast : maxResendCount < firings.length := by
      rw [backsOff.length]
      exact Nat.lt_succ_self _
    have there := List.getElem?_eq_getElem isLast
    have same := (fires.intervals _ _ there).symm.trans (backsOff.intervals _ _ there)
    rw [← Option.some.inj same]
    exact Nat.mod_lt _ (Nat.two_pow_pos 32)
  · intro fits
    obtain ⟨few, exact_⟩ := interval_fits positive fits
    rw [Nat.mod_eq_of_lt few] at fires
    refine ⟨firings, fires.length, fires.ordered, fires.all, fun k m isAt => ?_, fires.resent, fires.timesOut⟩
    have place := (List.getElem?_eq_some_iff.mp isAt).1
    rw [fires.length] at place
    rw [fires.intervals k m isAt, exact_ k (by omega)]

theorem backs_off_unanswered :
    ∃ firings, Firings unanswered (fun n => unansweredSteps.getD n .canPut) 1 1 1 (fun k => 1000 * 2 ^ k) firings :=
  (@backs_off_iff [] 0 true unanswered _ unanswered_endless 0 1 1 1000 (by decide) rfl rfl
    (fun m _ => (@ignores_after (EndpointRun.create [] 0 true) unansweredSteps 1
      (by simp [unansweredSteps, EndpointStep.IsHarmless]) m).spares)
    (@firesWhenDue_after (EndpointRun.create [] 0 true) unansweredSteps 1 (by decide +kernel))).mpr (by decide)

/-- A request with a long time is sent, resent once and given up. -/
def patientSteps : List EndpointStep :=
  [.sendRequest 0x80000000 1, .resume .success, .timerFired 1, .resume .success, .timerFired 1, .resume .success]

/-- The second time of a request is zero. -/
theorem second_interval_zero :
    ∃ states, EndlessRun (EndpointRun.create [] 0 true) states (fun n => patientSteps.getD n .canPut) ∧
      (∀ m, (states m).Spares 1 (patientSteps.getD m .canPut)) ∧
      FiresWhenDue states (fun n => patientSteps.getD n .canPut) 1 ∧
      (states 4).Fires 1 (.timerFired 1) ∧ (states 4).interval 1 = some 0 ∧
      ¬ ∃ firings, Firings states (fun n => patientSteps.getD n .canPut) 1 1 1 (fun k => 0x80000000 * 2 ^ k) firings := by
  let start := EndpointRun.create [] 0 true
  have fires : ((start.after patientSteps 4).endpoint.find 1).map (·.resendTimer) = some (some true) := by decide +kernel
  have zero : (start.after patientSteps 4).interval 1 = some 0 := by decide +kernel
  refine ⟨start.after patientSteps, endless_after (by decide +kernel) (by decide +kernel),
    fun m => (ignores_after (by simp [patientSteps, EndpointStep.IsHarmless]) m).spares,
    firesWhenDue_after (by decide +kernel), ⟨rfl, ?_⟩, zero, ?_⟩
  · obtain ⟨context, found, scheduled⟩ := Option.map_eq_some_iff.mp fires
    exact ⟨context, found, scheduled⟩
  · rintro ⟨firings, backsOff⟩
    have isSecond : 1 < firings.length := by
      rw [backsOff.length]
      exact Nat.lt_succ_self _
    have interval := backsOff.intervals 1 _ (List.getElem?_eq_getElem isSecond)
    obtain ⟨context, -, isInterval⟩ := Option.map_eq_some_iff.mp interval
    have small := context.resendTimeout.toNat_lt
    omega

end GoldenGate.Coap
