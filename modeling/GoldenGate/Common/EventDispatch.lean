import GoldenGate.Common.EventDispatcher

/-! # Dispatch under mutation

Sequence numbers grow along the list of a dispatcher and are not used again, so a number says
for a node whether its turn has passed. A dispatch in progress has a rest of the nodes that
were registered when it began, and that rest is what its account still lacks.
-/

namespace GoldenGate

open Memory

variable {Listener : Type}

namespace ListenerNode

abbrev number (node : ListenerNode Listener) : Nat := node.sequenceNumber.toNat

end ListenerNode

/-- Nodes are in the order of their numbers, and no listener has two. -/
structure InOrder (nodes : List (ListenerNode Listener)) : Prop where
  numbers : nodes.Pairwise (fun node node' => node.number < node'.number)
  listeners : (nodes.map (·.listener)).Nodup

/-- All numbers are taken from the counter, which has not wrapped. -/
structure EventDispatcher.Valid (dispatcher : EventDispatcher Listener) (registrations : Nat) : Prop where
  inOrder : InOrder dispatcher.listenerContexts
  positive : ∀ node ∈ dispatcher.listenerContexts, 0 < node.number
  below : ∀ node ∈ dispatcher.listenerContexts, node.number < dispatcher.sequenceNumber.toNat
  counter : dispatcher.sequenceNumber.toNat = registrations + 1

namespace Dispatch

/-- What holds of a dispatch at any time, for the nodes that are registered then. -/
structure Sound (dispatch : Dispatch Listener) (dispatcher : EventDispatcher Listener) : Prop where
  inOrder : InOrder dispatch.start
  limit : dispatch.lastNotified.toNat < dispatch.lastNode.toNat
  started : ∀ node ∈ dispatch.start, node.number < dispatch.lastNode.toNat
  known : ∀ node ∈ dispatcher.listenerContexts, node.number < dispatch.lastNode.toNat → node ∈ dispatch.start
  counter : dispatch.lastNode.toNat ≤ dispatcher.sequenceNumber.toNat

/-- The nodes whose turn has not come. -/
structure Rest (dispatch : Dispatch Listener) (rest : List (ListenerNode Listener)) : Prop where
  passed : ∃ passed, dispatch.start = passed ++ rest ∧ ∀ node ∈ passed, node.number ≤ dispatch.lastNotified.toNat
  coming : ∀ node ∈ rest, dispatch.lastNotified.toNat < node.number

/-- The walk has come to a node: those of the rest before it are not registered any more. -/
theorem Rest.advance {dispatch : Dispatch Listener} {rest registered : List (ListenerNode Listener)}
    {node : ListenerNode Listener} (ordered : InOrder dispatch.start) (isRest : dispatch.Rest rest)
    (known : node ∈ dispatch.start) (above : dispatch.lastNotified.toNat < node.number)
    (least : ∀ other ∈ registered, dispatch.lastNotified.toNat < other.number → node.number ≤ other.number) :
    ∃ gone rest', rest = gone ++ node :: rest' ∧ (∀ other ∈ gone, other ∉ registered) ∧
      Rest { dispatch with lastNotified := node.sequenceNumber } rest' := by
  obtain ⟨⟨passed, isStart, visited⟩, coming⟩ := isRest
  have member : node ∈ rest := by
    rw [isStart] at known
    rcases List.mem_append.mp known with wasPassed | isComing
    · exact absurd (visited node wasPassed) (Nat.not_le.mpr above)
    · exact isComing
  obtain ⟨gone, rest', rfl⟩ := List.append_of_mem member
  have numbers := ordered.numbers
  rw [isStart, List.pairwise_append, List.pairwise_append, List.pairwise_cons] at numbers
  obtain ⟨-, ⟨-, ⟨behind, -⟩, before⟩, -⟩ := numbers
  refine ⟨gone, rest', rfl, ?_, ⟨passed ++ (gone ++ [node]), by simp [isStart], ?_⟩, behind⟩
  · intro other isGone registered
    have lt := before other isGone node List.mem_cons_self
    have le := least other registered (coming other (List.mem_append_left _ isGone))
    omega
  · intro other wasPassed
    change other.number ≤ node.number
    rcases List.mem_append.mp wasPassed with earlier | new
    · exact Nat.le_of_lt (Nat.lt_of_le_of_lt (visited other earlier) above)
    · rcases List.mem_append.mp new with isGone | same
      · exact Nat.le_of_lt (before other isGone node List.mem_cons_self)
      · rw [List.mem_singleton.mp same]

/-- Where the walk begins again at the head, it comes to the first node with a higher number. -/
theorem walk_skip {lastNotified lastNode : UInt32} {skipped : List (ListenerNode Listener)}
    (limit : lastNotified.toNat < lastNode.toNat) (visited : ∀ node ∈ skipped, node.number ≤ lastNotified.toNat)
    (nodes : List (ListenerNode Listener)) :
    EventDispatcher.walk lastNotified lastNode (skipped ++ nodes) = EventDispatcher.walk lastNotified lastNode nodes := by
  induction skipped with
  | nil => rfl
  | cons node skipped ih =>
      have le : node.sequenceNumber.toNat ≤ lastNotified.toNat := visited node List.mem_cons_self
      have below : ¬ node.sequenceNumber ≥ lastNode := by
        rw [ge_iff_le, UInt32.le_iff_toNat_le]
        omega
      have notAbove : ¬ node.sequenceNumber > lastNotified := by
        rw [gt_iff_lt, UInt32.lt_iff_toNat_lt]
        omega
      rw [List.cons_append, EventDispatcher.walk, if_neg below, if_neg notAbove]
      exact ih (fun other member => visited other (List.mem_cons_of_mem _ member))

/-- A number splits the list: those that were visited, and those that were not. -/
theorem split_at {nodes : List (ListenerNode Listener)} (ordered : InOrder nodes) (last : Nat) :
    ∃ skipped remaining, nodes = skipped ++ remaining ∧ (∀ node ∈ skipped, node.number ≤ last) ∧
      ∀ node ∈ remaining, last < node.number := by
  obtain ⟨numbers, -⟩ := ordered
  induction nodes with
  | nil => exact ⟨[], [], rfl, by simp, by simp⟩
  | cons node nodes ih =>
      obtain ⟨behind, numbers⟩ := List.pairwise_cons.mp numbers
      by_cases above : last < node.number
      · refine ⟨[], node :: nodes, rfl, by simp, ?_⟩
        intro other member
        rcases List.mem_cons.mp member with rfl | later
        · exact above
        · exact Nat.lt_trans above (behind other later)
      · obtain ⟨skipped, remaining, rfl, visited, ahead⟩ := ih numbers
        refine ⟨node :: skipped, remaining, rfl, ?_, ahead⟩
        intro other member
        rcases List.mem_cons.mp member with rfl | later
        · exact Nat.not_lt.mp above
        · exact visited other later

variable [DecidableEq Listener]

/-- The account so far, whatever will be seen later. -/
def Accounts (dispatch : Dispatch Listener) (rest : List (ListenerNode Listener))
    (seen : List (List (ListenerNode Listener))) : Prop :=
  ∀ later, inTurn dispatch.type dispatch.start (dispatch.seen ++ later) =
    dispatch.called ++ inTurn dispatch.type rest (seen ++ later)

/-- A dispatch that waits for a listener it has called. -/
structure Waiting (dispatch : Dispatch Listener) (dispatcher : EventDispatcher Listener) : Prop where
  sound : dispatch.Sound dispatcher
  rest : ∃ rest, dispatch.Rest rest ∧ dispatch.Accounts rest []
  first : dispatch.seen.head? = some dispatch.start
  views : dispatch.seen.length = dispatch.called.length

/-- A dispatch that has called who had to be called. -/
structure Correct (dispatch : Dispatch Listener) : Prop where
  inTurn : dispatch.called = inTurn dispatch.type dispatch.start dispatch.seen
  first : dispatch.seen.head? = some dispatch.start
  once : (dispatch.called.map (·.listener)).Nodup
  bounded : dispatch.called.length ≤ dispatch.start.length

theorem correct_of_account {dispatch : Dispatch Listener} {dispatcher : EventDispatcher Listener}
    (sound : dispatch.Sound dispatcher) (account : dispatch.called = GoldenGate.inTurn dispatch.type dispatch.start dispatch.seen)
    (first : dispatch.seen.head? = some dispatch.start) : dispatch.Correct := by
  have sublist : dispatch.called.Sublist dispatch.start := account ▸ inTurn_sublist _ _ _
  exact ⟨account, first, (sublist.map _).nodup sound.inOrder.listeners, sublist.length_le⟩

theorem Waiting.correct {dispatch : Dispatch Listener} {dispatcher : EventDispatcher Listener}
    (waiting : dispatch.Waiting dispatcher) : dispatch.Correct := by
  obtain ⟨rest, -, accounts⟩ := waiting.rest
  apply correct_of_account waiting.sound _ waiting.first
  simpa using (accounts []).symm

/-- A dispatch that looks for the next node to call: what it has skipped of the registered
    nodes, and what remains of them. -/
structure Looking (dispatch : Dispatch Listener) (dispatcher : EventDispatcher Listener)
    (rest skipped remaining : List (ListenerNode Listener)) : Prop where
  sound : dispatch.Sound dispatcher
  isRest : dispatch.Rest rest
  accounts : dispatch.Accounts rest [dispatcher.listenerContexts]
  split : dispatcher.listenerContexts = skipped ++ remaining
  visited : ∀ node ∈ skipped, node.number ≤ dispatch.lastNotified.toNat
  first : dispatch.seen.head? = some dispatch.start
  views : dispatch.seen.length = dispatch.called.length + 1

section Looking

variable {dispatch : Dispatch Listener} {dispatcher : EventDispatcher Listener}
  {rest skipped remaining : List (ListenerNode Listener)} {node : ListenerNode Listener}

theorem Looking.walk_eq (looking : Looking dispatch dispatcher rest skipped remaining) :
    EventDispatcher.walk dispatch.lastNotified dispatch.lastNode dispatcher.listenerContexts =
      EventDispatcher.walk dispatch.lastNotified dispatch.lastNode remaining := by
  rw [looking.split]
  exact walk_skip looking.sound.limit looking.visited remaining

/-- When none of the rest is registered, nobody is left to call. -/
theorem Looking.correct (looking : Looking dispatch dispatcher rest skipped remaining)
    (absent : ∀ node ∈ rest, node ∉ dispatcher.listenerContexts) : dispatch.Correct := by
  apply correct_of_account looking.sound _ looking.first
  have whole := looking.accounts []
  have skips := @inTurn_skip _ _ dispatch.type _ _ absent [] []
  rw [List.append_nil] at skips
  rw [List.append_nil, List.append_nil, skips] at whole
  simpa [GoldenGate.inTurn] using whole.symm

theorem Looking.absent_of_nil (looking : Looking dispatch dispatcher rest skipped []) :
    ∀ node ∈ rest, node ∉ dispatcher.listenerContexts := by
  intro node member registered
  rw [looking.split, List.append_nil] at registered
  have le := looking.visited node registered
  have lt := looking.isRest.coming node member
  omega

/-- Whoever is registered and has not been visited has at least the number of the node. -/
theorem Looking.least (looking : Looking dispatch dispatcher rest skipped (node :: remaining))
    (ordered : InOrder dispatcher.listenerContexts) :
    ∀ other ∈ dispatcher.listenerContexts, dispatch.lastNotified.toNat < other.number →
      node.number ≤ other.number := by
  intro other registered above
  have numbers := ordered.numbers
  rw [looking.split, List.pairwise_append, List.pairwise_cons] at numbers
  rw [looking.split] at registered
  rcases List.mem_append.mp registered with skips | remains
  · exact absurd (looking.visited other skips) (Nat.not_le.mpr above)
  · rcases List.mem_cons.mp remains with rfl | behind
    · exact Nat.le_refl _
    · exact Nat.le_of_lt (numbers.2.1.1 other behind)

theorem Looking.absent_of_new (looking : Looking dispatch dispatcher rest skipped (node :: remaining))
    (ordered : InOrder dispatcher.listenerContexts) (isNew : dispatch.lastNode.toNat ≤ node.number) :
    ∀ node ∈ rest, node ∉ dispatcher.listenerContexts := by
  intro other member registered
  have above := looking.least ordered other registered (looking.isRest.coming other member)
  obtain ⟨passed, isStart, -⟩ := looking.isRest.passed
  have below := looking.sound.started other (isStart ▸ List.mem_append_right _ member)
  omega

/-- The walk comes to a node: it is called if it wants the event, and else the next one is
    looked for. -/
theorem Looking.visit (looking : Looking dispatch dispatcher rest skipped (node :: remaining))
    (ordered : InOrder dispatcher.listenerContexts) (isOld : node.number < dispatch.lastNode.toNat)
    (above : dispatch.lastNotified.toNat < node.number) :
    (node.Wants dispatch.type → Waiting { dispatch with
        lastNotified := node.sequenceNumber, called := dispatch.called ++ [node] } dispatcher) ∧
      (¬ node.Wants dispatch.type → ∃ rest', Looking { dispatch with lastNotified := node.sequenceNumber } dispatcher
        rest' (skipped ++ [node]) remaining) := by
  obtain ⟨sound, isRest, accounts, split, visited, first, views⟩ := id looking
  have registered : node ∈ dispatcher.listenerContexts := by simp [split]
  have known := sound.known node registered isOld
  obtain ⟨gone, rest', rfl, absent, isRest'⟩ := isRest.advance sound.inOrder known above (looking.least ordered)
  have skips : ∀ later, inTurn dispatch.type (gone ++ node :: rest') (dispatcher.listenerContexts :: later) =
      inTurn dispatch.type (node :: rest') (dispatcher.listenerContexts :: later) :=
    fun later => inTurn_skip absent (node :: rest') later
  constructor
  · intro wants
    refine ⟨⟨sound.inOrder, isOld, sound.started, sound.known, sound.counter⟩,
      ⟨rest', ⟨isRest'.passed, isRest'.coming⟩, ?_⟩, first, by simpa using views⟩
    intro later
    have whole := accounts later
    rw [List.singleton_append, skips, inTurn, if_pos ⟨wants, registered⟩] at whole
    simpa using whole
  · intro refuses
    refine ⟨rest', ⟨sound.inOrder, isOld, sound.started, sound.known, sound.counter⟩, isRest', ?_, by simp [split],
      ?_, first, views⟩
    · intro later
      have whole := accounts later
      rw [List.singleton_append, skips, inTurn, if_neg (fun both => refuses both.1)] at whole
      exact whole
    · intro other member
      change other.number ≤ node.number
      rcases List.mem_append.mp member with wasSkipped | same
      · exact Nat.le_of_lt (Nat.lt_of_le_of_lt (visited other wasSkipped) above)
      · rw [List.mem_singleton.mp same]

end Looking

/-- What the loop may come to. -/
def Comes (dispatcher : EventDispatcher Listener) : Turn Listener → Prop
  | .calls dispatch => dispatch.Waiting dispatcher
  | .ends dispatch => dispatch.Correct ∧ dispatch.seen.length = dispatch.called.length + 1

/-- The loop calls the next one or ends, in as many turns as nodes remain. -/
theorem loop_comes {dispatcher : EventDispatcher Listener} (ordered : InOrder dispatcher.listenerContexts) :
    ∀ {turns : Nat} {dispatch : Dispatch Listener} {rest skipped remaining : List (ListenerNode Listener)},
      Looking dispatch dispatcher rest skipped remaining →
      (∀ node ∈ remaining, dispatch.lastNotified.toNat < node.number) → remaining.length < turns →
      ∃ turn, loop dispatcher.listenerContexts turns dispatch = .ok turn ∧ Comes dispatcher turn := by
  intro turns
  induction turns with
  | zero =>
      intro dispatch rest skipped remaining _ _ enough
      exact absurd enough (Nat.not_lt_zero _)
  | succ turns ih =>
      intro dispatch rest skipped remaining looking ahead enough
      cases remaining with
      | nil =>
          refine ⟨.ends dispatch, ?_, looking.correct looking.absent_of_nil, looking.views⟩
          rw [loop, looking.walk_eq]
          rfl
      | cons node remaining =>
          have above := ahead node List.mem_cons_self
          by_cases isNew : dispatch.lastNode.toNat ≤ node.number
          · refine ⟨.ends dispatch, ?_, looking.correct (looking.absent_of_new ordered isNew), looking.views⟩
            rw [loop, looking.walk_eq, EventDispatcher.walk, if_pos (UInt32.le_iff_toNat_le.mpr isNew)]
            rfl
          · have found : EventDispatcher.walk dispatch.lastNotified dispatch.lastNode dispatcher.listenerContexts =
                some node := by
              rw [looking.walk_eq, EventDispatcher.walk, if_neg (fun le => isNew (UInt32.le_iff_toNat_le.mp le)),
                if_pos (UInt32.lt_iff_toNat_lt.mpr above)]
            obtain ⟨calls, passes⟩ := looking.visit ordered (Nat.not_le.mp isNew) above
            rw [loop, found]
            simp only
            by_cases wants : node.Wants dispatch.type
            · rw [if_pos wants]
              exact ⟨_, rfl, calls wants⟩
            · rw [if_neg wants]
              obtain ⟨rest', looking'⟩ := passes wants
              have numbers := ordered.numbers
              rw [looking.split, List.pairwise_append, List.pairwise_cons] at numbers
              exact ih looking' numbers.2.1.1 (Nat.lt_of_succ_lt_succ enough)

theorem Waiting.resume {dispatch : Dispatch Listener} {dispatcher : EventDispatcher Listener}
    (waiting : dispatch.Waiting dispatcher) (ordered : InOrder dispatcher.listenerContexts) :
    ∃ turn, dispatch.resume dispatcher.listenerContexts = .ok turn ∧ Comes dispatcher turn := by
  obtain ⟨sound, ⟨rest, isRest, accounts⟩, first, views⟩ := waiting
  obtain ⟨skipped, remaining, split, visited, ahead⟩ := split_at ordered dispatch.lastNotified.toNat
  have looking : Looking { dispatch with seen := dispatch.seen ++ [dispatcher.listenerContexts] } dispatcher rest
      skipped remaining := by
    refine ⟨⟨sound.inOrder, sound.limit, sound.started, sound.known, sound.counter⟩, ⟨isRest.passed, isRest.coming⟩,
      ?_, split, visited, ?_, ?_⟩
    · intro later
      simpa using accounts (dispatcher.listenerContexts :: later)
    · rw [List.head?_append, first]
      rfl
    · simp [views]
  have enough : remaining.length < dispatcher.listenerContexts.length + 1 := by
    rw [split, List.length_append]
    omega
  exact loop_comes ordered looking ahead enough

theorem begin_comes {dispatcher : EventDispatcher Listener} {registrations : Nat}
    (valid : dispatcher.Valid registrations) (type : UInt32) :
    ∃ turn, resume ⟨type, 0, dispatcher.sequenceNumber, dispatcher.listenerContexts, [], []⟩
      dispatcher.listenerContexts = .ok turn ∧ Comes dispatcher turn := by
  have looking : Looking ⟨type, 0, dispatcher.sequenceNumber, dispatcher.listenerContexts,
      [dispatcher.listenerContexts], []⟩ dispatcher dispatcher.listenerContexts [] dispatcher.listenerContexts := by
    refine ⟨⟨valid.inOrder, ?_, valid.below, fun _ member _ => member, Nat.le_refl _⟩,
      ⟨⟨[], rfl, by simp⟩, valid.positive⟩, fun _ => rfl, rfl, by simp, rfl, rfl⟩
    change 0 < dispatcher.sequenceNumber.toNat
    rw [valid.counter]
    exact Nat.succ_pos _
  exact loop_comes valid.inOrder looking valid.positive (Nat.lt_succ_self _)

/-- What is registered later has a number that a dispatch in progress does not come to. -/
theorem Waiting.change {dispatch : Dispatch Listener} {dispatcher dispatcher' : EventDispatcher Listener}
    (waiting : dispatch.Waiting dispatcher)
    (nodes : ∀ node ∈ dispatcher'.listenerContexts,
      node ∈ dispatcher.listenerContexts ∨ dispatcher.sequenceNumber.toNat ≤ node.number)
    (grows : dispatcher.sequenceNumber.toNat ≤ dispatcher'.sequenceNumber.toNat) : dispatch.Waiting dispatcher' := by
  obtain ⟨sound, rest, first, views⟩ := waiting
  refine ⟨⟨sound.inOrder, sound.limit, sound.started, ?_, Nat.le_trans sound.counter grows⟩, rest, first, views⟩
  intro node member below
  rcases nodes node member with old | new
  · exact sound.known node old below
  · have limit := sound.counter
    omega

end Dispatch

/-! ## Adding and removing -/

namespace EventDispatcher

variable [DecidableEq Listener]

theorem Valid.add {dispatcher : EventDispatcher Listener} {registrations : Nat} (valid : dispatcher.Valid registrations)
    {listener : Listener} (absent : dispatcher.findNode listener = none) (events : Option (List UInt32))
    (few : registrations + 1 < 2 ^ 32 - 1) :
    Valid ⟨dispatcher.listenerContexts ++ [⟨listener, events, dispatcher.sequenceNumber⟩],
      dispatcher.sequenceNumber + 1⟩ (registrations + 1) := by
  have counter : (dispatcher.sequenceNumber + 1).toNat = registrations + 1 + 1 := by
    rw [UInt32.toNat_add, valid.counter]
    change (registrations + 1 + 1) % 2 ^ 32 = registrations + 1 + 1
    exact Nat.mod_eq_of_lt (by omega)
  refine ⟨⟨?_, ?_⟩, ?_, ?_, counter⟩
  · rw [List.pairwise_append]
    refine ⟨valid.inOrder.numbers, List.pairwise_singleton _ _, ?_⟩
    intro node member other new
    rw [List.mem_singleton.mp new]
    exact valid.below node member
  · rw [List.map_append, List.nodup_append]
    refine ⟨valid.inOrder.listeners, by simp, ?_⟩
    intro other member other' new same
    obtain ⟨node, isNode, rfl⟩ := List.mem_map.mp member
    have notFound := List.find?_eq_none.mp absent node isNode
    simp only [List.map_cons, List.map_nil, List.mem_singleton] at new
    simp [same, new] at notFound
  · intro node member
    rcases List.mem_append.mp member with old | new
    · exact valid.positive node old
    · rw [List.mem_singleton.mp new]
      change 0 < dispatcher.sequenceNumber.toNat
      rw [valid.counter]
      exact Nat.succ_pos _
  · intro node member
    rw [counter]
    rcases List.mem_append.mp member with old | new
    · have below := valid.below node old
      rw [valid.counter] at below
      omega
    · rw [List.mem_singleton.mp new]
      change dispatcher.sequenceNumber.toNat < _
      rw [valid.counter]
      exact Nat.lt_succ_self _

theorem Valid.remove {dispatcher : EventDispatcher Listener} {registrations : Nat}
    (valid : dispatcher.Valid registrations) (listener : Listener) :
    (dispatcher.removeListener listener).1.Valid registrations ∧
      (dispatcher.removeListener listener).1.listenerContexts ⊆ dispatcher.listenerContexts ∧
      (dispatcher.removeListener listener).1.sequenceNumber = dispatcher.sequenceNumber := by
  unfold removeListener
  split
  · rename_i node found
    have sublist : (dispatcher.listenerContexts.erase node).Sublist dispatcher.listenerContexts :=
      List.erase_sublist
    refine ⟨⟨⟨valid.inOrder.numbers.sublist sublist, (sublist.map _).nodup valid.inOrder.listeners⟩, ?_, ?_,
      valid.counter⟩, sublist.subset, rfl⟩
    · intro node member
      exact valid.positive node (sublist.subset member)
    · intro node member
      exact valid.below node (sublist.subset member)
  · exact ⟨valid, fun _ member => member, rfl⟩

end EventDispatcher

/-! ## Runs -/

/-- The caller names the events it wants. -/
def EventStep.Provided : EventStep Listener → Prop
  | .add _ events _ => events.isSome ∧ events ≠ some []
  | _ => True

namespace EventRun

variable [DecidableEq Listener]

structure Valid (state : EventRun Listener) : Prop where
  dispatcher : state.dispatcher.Valid state.registrations
  waiting : ∀ dispatch ∈ state.dispatches, dispatch.Waiting state.dispatcher
  ended : ∀ dispatch ∈ state.ended, dispatch.Correct ∧ dispatch.seen.length = dispatch.called.length + 1

theorem valid_create : (create : EventRun Listener).Valid :=
  ⟨⟨⟨.nil, List.nodup_nil⟩, by simp [create, EventDispatcher.create], by simp [create, EventDispatcher.create], rfl⟩,
    by simp [create], by simp [create]⟩

theorem Valid.settle {state : EventRun Listener} {others : List (Dispatch Listener)} {turn : Turn Listener}
    (valid : state.Valid) (outer : ∀ dispatch ∈ others, dispatch.Waiting state.dispatcher)
    (comes : Dispatch.Comes state.dispatcher turn) : (state.settle others turn).Valid := by
  cases turn with
  | calls dispatch =>
      refine ⟨valid.dispatcher, ?_, valid.ended⟩
      intro other member
      rcases List.mem_cons.mp member with rfl | isOuter
      · exact comes
      · exact outer other isOuter
  | ends dispatch =>
      refine ⟨valid.dispatcher, outer, ?_⟩
      intro other member
      rcases List.mem_append.mp member with old | new
      · exact valid.ended other old
      · rw [List.mem_singleton.mp new]
        exact comes

theorem Valid.add {state : EventRun Listener} (valid : state.Valid) {listener : Listener}
    {events : Option (List UInt32)} {hasMemory : Bool} (provided : events.isSome ∧ events ≠ some [])
    (few : ∀ state', state.step (.add listener events hasMemory) = .ok state' →
      state'.registrations < 2 ^ 32 - 1) :
    ∃ state', state.step (.add listener events hasMemory) = .ok state' ∧ state'.Valid := by
  rw [step, EventDispatcher.addListener, provided.1, assert_of provided.2, ok_bind] at few ⊢
  cases found : state.dispatcher.findNode listener with
  | some node => exact ⟨state, rfl, valid⟩
  | none =>
      rw [found] at few
      cases hasMemory with
      | false => exact ⟨state, rfl, valid⟩
      | true =>
          have room : state.registrations + 1 < 2 ^ 32 - 1 := few _ rfl
          have added := valid.dispatcher.add found events room
          refine ⟨_, rfl, added, ?_, valid.ended⟩
          intro dispatch member
          refine (valid.waiting dispatch member).change ?_ ?_
          · intro node isNode
            rcases List.mem_append.mp isNode with old | new
            · exact .inl old
            · rw [List.mem_singleton.mp new]
              exact .inr (Nat.le_refl _)
          · rw [added.counter, valid.dispatcher.counter]
            exact Nat.le_succ _

theorem Valid.step {state : EventRun Listener} (valid : state.Valid) {step : EventStep Listener}
    (provided : step.Provided)
    (few : ∀ state', state.step step = .ok state' → state'.registrations < 2 ^ 32 - 1) :
    ∃ state', state.step step = .ok state' ∧ state'.Valid := by
  cases step with
  | add listener events hasMemory => exact valid.add provided few
  | remove listener =>
      obtain ⟨removed, subset, same⟩ := valid.dispatcher.remove listener
      refine ⟨_, rfl, removed, ?_, valid.ended⟩
      intro dispatch member
      refine (valid.waiting dispatch member).change (fun node isNode => .inl (subset isNode)) ?_
      rw [same]
  | dispatch type =>
      obtain ⟨turn, resumes, comes⟩ := Dispatch.begin_comes valid.dispatcher type
      refine ⟨state.settle state.dispatches turn, ?_, valid.settle valid.waiting comes⟩
      rw [EventRun.step, resumes]
      rfl
  | resume =>
      rw [EventRun.step]
      cases isTop : state.dispatches with
      | nil => exact ⟨state, rfl, valid⟩
      | cons dispatch others =>
          have waiting := valid.waiting
          rw [isTop] at waiting
          obtain ⟨turn, resumes, comes⟩ := (waiting dispatch List.mem_cons_self).resume valid.dispatcher.inOrder
          refine ⟨state.settle others turn, ?_, valid.settle (fun other member => ?_) comes⟩
          · simp only [resumes]
            rfl
          · exact waiting other (List.mem_cons_of_mem _ member)

theorem Valid.run {state : EventRun Listener} (valid : state.Valid) {steps : List (EventStep Listener)}
    (provided : ∀ step ∈ steps, step.Provided)
    (few : ∀ earlier state', earlier <+: steps → state.run earlier = .ok state' →
      state'.registrations < 2 ^ 32 - 1) :
    ∃ state', state.run steps = .ok state' ∧ state'.Valid := by
  induction steps generalizing state with
  | nil => exact ⟨state, rfl, valid⟩
  | cons step steps ih =>
      have runs : ∀ {state'} earlier, state.step step = .ok state' →
          state.run (step :: earlier) = state'.run earlier := by
        intro state' earlier steps'
        rw [EventRun.run, List.foldlM_cons, steps']
        rfl
      have fewNow : ∀ state', state.step step = .ok state' → state'.registrations < 2 ^ 32 - 1 := by
        intro state' steps'
        exact few [step] state' (by simp) (runs [] steps')
      obtain ⟨state', steps', valid'⟩ := valid.step (provided step List.mem_cons_self) fewNow
      rw [runs steps steps']
      apply ih valid' (fun other member => provided other (List.mem_cons_of_mem _ member))
      intro earlier state'' isPrefix runs'
      exact few (step :: earlier) state'' ((List.prefix_cons_inj step).mpr isPrefix) ((runs earlier steps').trans runs')

end EventRun

/-- In every run with fewer than `2 ^ 32 - 1` registrations no dispatch goes on forever, and
    each has called, once and in order, those of the nodes it began with that want the event
    and were registered when it was their turn. -/
theorem dispatches_of_run [DecidableEq Listener] {steps : List (EventStep Listener)}
    (provided : ∀ step ∈ steps, step.Provided)
    (few : ∀ earlier state, earlier <+: steps → (EventRun.create : EventRun Listener).run earlier = .ok state →
      state.registrations < 2 ^ 32 - 1) :
    ∃ state, (EventRun.create : EventRun Listener).run steps = .ok state ∧
      (∀ dispatch ∈ state.dispatches, dispatch.Correct ∧ dispatch.seen.length = dispatch.called.length) ∧
      ∀ dispatch ∈ state.ended, dispatch.Correct ∧ dispatch.seen.length = dispatch.called.length + 1 := by
  obtain ⟨state, runs, valid⟩ := (@EventRun.valid_create Listener _).run provided few
  refine ⟨state, runs, ?_, valid.ended⟩
  intro dispatch member
  have waiting := valid.waiting dispatch member
  exact ⟨waiting.correct, waiting.views⟩

/-- A step registers one listener at most. -/
theorem EventRun.registrations_le [DecidableEq Listener] {state state' : EventRun Listener}
    {steps : List (EventStep Listener)} (runs : state.run steps = .ok state') :
    state'.registrations ≤ state.registrations + steps.length := by
  induction steps generalizing state with
  | nil =>
      obtain rfl : state = state' := Except.ok.inj runs
      exact Nat.le_refl _
  | cons step steps ih =>
      unfold EventRun.run at runs
      rw [List.foldlM_cons] at runs
      obtain ⟨next, isNext, later⟩ := bind_ok runs
      have atMost : next.registrations ≤ state.registrations + 1 := by
        cases step with
        | add listener events hasMemory =>
            obtain ⟨⟨dispatcher, result⟩, -, returned⟩ := bind_ok isNext
            rw [← Except.ok.inj returned]
            simp only
            split <;> omega
        | remove listener =>
            rw [← Except.ok.inj isNext]
            exact Nat.le_succ _
        | dispatch type =>
            obtain ⟨turn, -, returned⟩ := bind_ok isNext
            rw [← Except.ok.inj returned]
            cases turn <;> exact Nat.le_succ _
        | resume =>
            rw [EventRun.step] at isNext
            split at isNext
            · rw [← Except.ok.inj isNext]
              exact Nat.le_succ _
            · obtain ⟨turn, -, returned⟩ := bind_ok isNext
              rw [← Except.ok.inj returned]
              cases turn <;> exact Nat.le_succ _
      have whole := ih later
      rw [List.length_cons]
      omega

/-- The first of three listeners removes the second and adds a fourth; the third dispatches
    another event, whose first listener is itself. -/
def meddlingSteps : List (EventStep Nat) :=
  [.add 0 (some [7]) true, .add 1 (some [7]) true, .add 2 (some [7, 8]) true, .dispatch 7, .remove 1,
    .add 3 (some [7]) true, .resume, .dispatch 8, .resume, .resume]

theorem dispatches_meddlingSteps :
    ∃ state, (EventRun.create : EventRun Nat).run meddlingSteps = .ok state ∧
      state.ended.map (fun dispatch => dispatch.called.map (·.listener)) = [[2], [0, 2]] ∧
      (∀ dispatch ∈ state.dispatches, dispatch.Correct ∧ dispatch.seen.length = dispatch.called.length) ∧
      ∀ dispatch ∈ state.ended, dispatch.Correct ∧ dispatch.seen.length = dispatch.called.length + 1 := by
  have provided : ∀ step ∈ meddlingSteps, step.Provided := by
    simp [meddlingSteps, EventStep.Provided]
  have few : ∀ earlier state, earlier <+: meddlingSteps →
      (EventRun.create : EventRun Nat).run earlier = .ok state → state.registrations < 2 ^ 32 - 1 := by
    intro earlier state isPrefix runs
    have le : state.registrations ≤ 0 + earlier.length := EventRun.registrations_le runs
    have length : earlier.length ≤ 10 := isPrefix.length_le
    omega
  obtain ⟨state, runs, correct⟩ := @dispatches_of_run Nat _ meddlingSteps provided few
  have seen : ((EventRun.create : EventRun Nat).run meddlingSteps).map (fun state =>
      state.ended.map (fun dispatch => dispatch.called.map (·.listener))) = .ok [[2], [0, 2]] := by
    decide +kernel
  rw [runs] at seen
  exact ⟨state, runs, Except.ok.inj seen, correct⟩

/-- A listener comes and goes. -/
def comeAndGo (times : Nat) : List (EventStep Unit) :=
  (List.replicate times [.add () (some [7]) true, .remove ()]).flatten

theorem run_comeAndGo (times : Nat) (sequenceNumber : UInt32) (registrations : Nat) :
    EventRun.run ⟨⟨[], sequenceNumber⟩, [], [], registrations⟩ (comeAndGo times) =
      .ok ⟨⟨[], sequenceNumber + UInt32.ofNat times⟩, [], [], registrations + times⟩ := by
  induction times generalizing sequenceNumber registrations with
  | zero =>
      have same : sequenceNumber + UInt32.ofNat 0 = sequenceNumber := UInt32.add_zero _
      rw [same]
      rfl
  | succ times ih =>
      have adds : EventRun.step ⟨⟨[], sequenceNumber⟩, [], [], registrations⟩ (.add () (some [7]) true) =
          .ok ⟨⟨[⟨(), some [7], sequenceNumber⟩], sequenceNumber + 1⟩, [], [], registrations + 1⟩ := rfl
      have removes : EventRun.step ⟨⟨[⟨(), some [7], sequenceNumber⟩], sequenceNumber + 1⟩, [], [], registrations + 1⟩
          (.remove ()) = .ok ⟨⟨[], sequenceNumber + 1⟩, [], [], registrations + 1⟩ := by
        simp [EventRun.step, EventDispatcher.removeListener, EventDispatcher.findNode]
      have again := ih (sequenceNumber + 1) (registrations + 1)
      have number : sequenceNumber + 1 + UInt32.ofNat times = sequenceNumber + UInt32.ofNat (times + 1) := by
        rw [UInt32.ofNat_add, UInt32.add_assoc, UInt32.add_comm 1]
        rfl
      rw [number, Nat.add_right_comm] at again
      change EventRun.run _ (.add () (some [7]) true :: .remove () :: comeAndGo times) = _
      rw [EventRun.run, List.foldlM_cons, adds, ok_bind, List.foldlM_cons, removes]
      exact again

/-- A dispatch that began when the counter had wrapped. -/
def unheard : Dispatch Unit :=
  ⟨7, 0, 0, [⟨(), some [7], 4294967295⟩], [[⟨(), some [7], 4294967295⟩]], []⟩

/-- A listener that is registered for the last time the counter can count. The event does not
    come to it. -/
theorem comeAndGo_not_correct :
    ∃ state, (EventRun.create : EventRun Unit).run
        (comeAndGo 4294967294 ++ [EventStep.add () (some [7]) true, .dispatch 7]) = .ok state ∧
      state.registrations < 2 ^ 32 ∧ ∃ dispatch ∈ state.ended, ¬ dispatch.Correct := by
  have runs := run_comeAndGo 4294967294 1 0
  have last : EventRun.run ⟨⟨[], 4294967295⟩, [], [], 4294967294⟩ [.add () (some [7]) true, .dispatch 7] =
      .ok ⟨⟨[⟨(), some [7], 4294967295⟩], 0⟩, [], [unheard], 4294967295⟩ := by
    decide +kernel
  have number : (1 : UInt32) + UInt32.ofNat 4294967294 = 4294967295 := by decide
  rw [number, Nat.zero_add] at runs
  refine ⟨⟨⟨[⟨(), some [7], 4294967295⟩], 0⟩, [], [unheard], 4294967295⟩, ?_, ?_, unheard,
    List.mem_singleton_self _, fun correct => ?_⟩
  · rw [EventRun.run, List.foldlM_append]
    change EventRun.run ⟨⟨[], 1⟩, [], [], 0⟩ (comeAndGo 4294967294) >>= _ = _
    rw [runs]
    exact last
  · decide
  · exact absurd correct.inTurn (by decide +kernel)

end GoldenGate
