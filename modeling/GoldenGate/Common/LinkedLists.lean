import GoldenGate.Lib.Memory
import Mathlib.Data.List.Chain
import Mathlib.Data.List.Nodup
import Mathlib.Logic.Function.Basic

/-! # Linked lists

The embedding of the macros of `gg_lists.h` on an explicit heap of nodes. A list is a circle of nodes with its head
among them; the macros take addresses of nodes, and what they load from a node may be `NULL`.
-/

namespace GoldenGate.LinkedLists

open Memory

/-- `GG_LinkedListNode`, with the addresses of type `α`. -/
structure Node (α : Type) where
  next : Option α
  prev : Option α
  deriving Repr, DecidableEq

@[ext] theorem Node.ext {α : Type} {a b : Node α} (next : a.next = b.next) (prev : a.prev = b.prev) : a = b := by
  cases a
  cases b
  cases next
  cases prev
  rfl

abbrev Heap (α : Type) := α → Node α

section Macros

variable {α : Type} [DecidableEq α]

/-- Following a pointer that was loaded. -/
def pointee : Option α → Access α
  | none => .error .undefined
  | some a => .ok a

def setNext (heap : Heap α) (a : α) (next : Option α) : Heap α := Function.update heap a { heap a with next }

def setPrev (heap : Heap α) (a : α) (prev : Option α) : Heap α := Function.update heap a { heap a with prev }

/-- `GG_LINKED_LIST_INIT`. -/
def init (heap : Heap α) (list : α) : Heap α :=
  let heap := setNext heap list (some list)
  setPrev heap list (some list)

/-- `GG_LINKED_LIST_IS_EMPTY`. -/
def isEmpty (heap : Heap α) (list : α) : Bool := some list = (heap list).next

/-- `GG_LINKED_LIST_NODE_INIT`. -/
def nodeInit (heap : Heap α) (node : α) : Heap α :=
  let heap := setNext heap node none
  setPrev heap node none

/-- `GG_LINKED_LIST_SPLIT`. -/
def split (heap : Heap α) (list splitNode dest : α) : Access (Heap α) := do
  let heap := setPrev heap dest (heap list).prev
  let last ← pointee (heap dest).prev
  let heap := setNext heap last (some dest)
  let heap := setNext heap dest (some splitNode)
  let heap := setPrev heap list (heap splitNode).prev
  let last ← pointee (heap list).prev
  let heap := setNext heap last (some list)
  .ok (setPrev heap splitNode (some dest))

/-- `GG_LINKED_LIST_MOVE`. -/
def move (heap : Heap α) (list dest : α) : Access (Heap α) := do
  if isEmpty heap list then .ok (init heap dest)
  else
    let head ← pointee (heap list).next
    split heap list head dest

/-- `GG_LINKED_LIST_PREPEND`. -/
def prepend (heap : Heap α) (list node : α) : Access (Heap α) := do
  let heap := setNext heap node (heap list).next
  let heap := setPrev heap node (some list)
  let head ← pointee (heap list).next
  let heap := setPrev heap head (some node)
  .ok (setNext heap list (some node))

/-- `GG_LINKED_LIST_APPEND`. -/
def append (heap : Heap α) (list node : α) : Access (Heap α) := do
  let heap := setNext heap node (some list)
  let heap := setPrev heap node (heap list).prev
  let last ← pointee (heap node).prev
  let heap := setNext heap last (some node)
  .ok (setPrev heap list (some node))

/-- `GG_LINKED_LIST_NODE_REMOVE`. -/
def nodeRemove (heap : Heap α) (node : α) : Access (Heap α) := do
  let prev ← pointee (heap node).prev
  let heap := setNext heap prev (heap node).next
  let next ← pointee (heap node).next
  let heap := setPrev heap next (heap node).prev
  .ok (nodeInit heap node)

/-- `GG_LINKED_LIST_POP_HEAD`: the heap and the node. -/
def popHead (heap : Heap α) (list : α) : Access (Heap α × Option α) :=
  if isEmpty heap list then .ok (heap, none)
  else do
    let node ← pointee (heap list).next
    let heap ← nodeRemove heap node
    .ok (heap, some node)

/-- `GG_LINKED_LIST_POP_TAIL`. -/
def popTail (heap : Heap α) (list : α) : Access (Heap α × Option α) :=
  if isEmpty heap list then .ok (heap, none)
  else do
    let node ← pointee (heap list).prev
    let heap ← nodeRemove heap node
    .ok (heap, some node)

/-- `GG_LINKED_LIST_NODE_INSERT_AFTER`. -/
def nodeInsertAfter (heap : Heap α) (afterNode node : α) : Access (Heap α) := do
  let heap := setNext heap node (heap afterNode).next
  let heap := setPrev heap node (some afterNode)
  let next ← pointee (heap afterNode).next
  let heap := setPrev heap next (some node)
  .ok (setNext heap afterNode (some node))

/-- `GG_LINKED_LIST_NODE_INSERT_BEFORE`. -/
def nodeInsertBefore (heap : Heap α) (beforeNode node : α) : Access (Heap α) := do
  let heap := setNext heap node (some beforeNode)
  let heap := setPrev heap node (heap beforeNode).prev
  let prev ← pointee (heap beforeNode).prev
  let heap := setNext heap prev (some node)
  .ok (setPrev heap beforeNode (some node))

/-- The loop of `GG_LINKED_LIST_FOREACH_SAFE` from a node on: the node after it is loaded before the body runs. -/
def foreachSafe {σ : Type} (heapOf : σ → Heap α) (body : α → σ → Access σ) (list : α) :
    Nat → Option α → σ → Access σ
  | 0, _, _ => .error .diverges
  | fuel + 1, var, s =>
      if var = some list then .ok s
      else do
        let node ← pointee var
        let next := (heapOf s node).next
        let s ← body node s
        foreachSafe heapOf body list fuel next s

/-! ## What is stored -/

@[simp] theorem setNext_next (heap : Heap α) (a : α) (next : Option α) (x : α) :
    (setNext heap a next x).next = if x = a then next else (heap x).next := by
  by_cases same : x = a
  · subst same
    simp [setNext]
  · simp [setNext, same]

@[simp] theorem setNext_prev (heap : Heap α) (a : α) (next : Option α) (x : α) :
    (setNext heap a next x).prev = (heap x).prev := by
  by_cases same : x = a
  · subst same
    simp [setNext]
  · simp [setNext, same]

@[simp] theorem setPrev_prev (heap : Heap α) (a : α) (prev : Option α) (x : α) :
    (setPrev heap a prev x).prev = if x = a then prev else (heap x).prev := by
  by_cases same : x = a
  · subst same
    simp [setPrev]
  · simp [setPrev, same]

@[simp] theorem setPrev_next (heap : Heap α) (a : α) (prev : Option α) (x : α) :
    (setPrev heap a prev x).next = (heap x).next := by
  by_cases same : x = a
  · subst same
    simp [setPrev]
  · simp [setPrev, same]

omit [DecidableEq α] in
@[simp] theorem pointee_some (a : α) : pointee (some a) = .ok a := rfl

/-! ## Links -/

/-- Two nodes one behind the other. -/
def Link (heap : Heap α) (a b : α) : Prop := (heap a).next = some b ∧ (heap b).prev = some a

/-- A new node between two that follow each other. -/
structure Inserted (heap heap' : Heap α) (a node b : α) : Prop where
  before : Link heap' a node
  behind : Link heap' node b
  next : ∀ x, x ≠ a → x ≠ node → (heap' x).next = (heap x).next
  prev : ∀ x, x ≠ b → x ≠ node → (heap' x).prev = (heap x).prev

/-- A node taken out from between two others. -/
structure Removed (heap heap' : Heap α) (a node b : α) : Prop where
  link : Link heap' a b
  next : ∀ x, x ≠ a → x ≠ node → (heap' x).next = (heap x).next
  prev : ∀ x, x ≠ b → x ≠ node → (heap' x).prev = (heap x).prev
  unlinked : heap' node = ⟨none, none⟩

/-- The nodes from one on taken out of a list and put into another. -/
structure Divided (heap heap' : Heap α) (list before node last dest : α) : Prop where
  front : Link heap' before list
  first : Link heap' dest node
  back : Link heap' last dest
  next : ∀ x, x ≠ before → x ≠ last → x ≠ dest → (heap' x).next = (heap x).next
  prev : ∀ x, x ≠ list → x ≠ node → x ≠ dest → (heap' x).prev = (heap x).prev

theorem nodeInsertAfter_inserted {heap : Heap α} {a node b : α} (link : Link heap a b) (notA : node ≠ a) (notB : node ≠ b) :
    ∃ heap', nodeInsertAfter heap a node = .ok heap' ∧ Inserted heap heap' a node b := by
  refine ⟨setNext (setPrev (setPrev (setNext heap node (some b)) node (some a)) b (some node)) a (some node), ?_, ?_⟩
  · simp [nodeInsertAfter, link.1, notA.symm]
  · constructor
    · simp [Link, notB]
    · simp [Link, notA]
    · intro x isA isNode
      simp [isA, isNode]
    · intro x isB isNode
      simp [isB, isNode]

theorem nodeInsertBefore_inserted {heap : Heap α} {a node b : α} (link : Link heap a b) (notA : node ≠ a)
    (notB : node ≠ b) :
    ∃ heap', nodeInsertBefore heap b node = .ok heap' ∧ Inserted heap heap' a node b := by
  refine ⟨setPrev (setNext (setPrev (setNext heap node (some b)) node (some a)) a (some node)) b (some node), ?_, ?_⟩
  · simp [nodeInsertBefore, link.2, notB.symm]
  · constructor
    · simp [Link, notB]
    · simp [Link, notA]
    · intro x isA isNode
      simp [isA, isNode]
    · intro x isB isNode
      simp [isB, isNode]

theorem append_eq {heap : Heap α} {list node : α} (other : node ≠ list) :
    append heap list node = nodeInsertBefore heap list node := by
  simp [append, nodeInsertBefore, other.symm]

theorem prepend_eq (heap : Heap α) (list node : α) : prepend heap list node = nodeInsertAfter heap list node := rfl

theorem nodeRemove_removed {heap : Heap α} {a node b : α} (before : Link heap a node) (behind : Link heap node b)
    (notA : node ≠ a) (notB : node ≠ b) :
    ∃ heap', nodeRemove heap node = .ok heap' ∧ Removed heap heap' a node b := by
  refine ⟨nodeInit (setPrev (setNext heap a (some b)) b (some a)) node, ?_, ?_⟩
  · simp [nodeRemove, before.2, behind.1]
  · constructor
    · simp [Link, nodeInit, notA.symm, notB.symm]
    · intro x isA isNode
      simp [nodeInit, isA, isNode]
    · intro x isB isNode
      simp [nodeInit, isB, isNode]
    · apply Node.ext
      · simp [nodeInit]
      · simp [nodeInit]

theorem split_divided {heap : Heap α} {list before node last dest : α} (enters : Link heap before node)
    (closes : Link heap last list) (notLast : before ≠ last) (notList : node ≠ list)
    (fresh : dest ≠ list ∧ dest ≠ before ∧ dest ≠ node ∧ dest ≠ last) :
    ∃ heap', split heap list node dest = .ok heap' ∧ Divided heap heap' list before node last dest := by
  obtain ⟨destList, destBefore, destNode, destLast⟩ := fresh
  refine ⟨setPrev (setNext (setPrev (setNext (setNext (setPrev heap dest (some last)) last (some dest)) dest (some node))
    list (some before)) before (some list)) node (some dest), ?_, ?_⟩
  · simp [split, closes.2, enters.2, destNode.symm]
  · constructor
    · simp [Link, notList.symm]
    · simp [Link, destBefore]
    · simp [Link, notLast.symm, destLast.symm, destList, destNode]
    · intro x isBefore isLast isDest
      simp [isBefore, isLast, isDest]
    · intro x isList isNode isDest
      simp [isList, isNode, isDest]

/-! ## Circles -/

/-- The links of the nodes of a list, with its head before the first one and behind the last one. -/
structure Circle (heap : Heap α) (list : α) (nodes : List α) : Prop where
  nodup : (list :: nodes).Nodup
  links : List.IsChain (Link heap) (list :: nodes ++ [list])

omit [DecidableEq α] in
/-- A chain depends on where its nodes go to but for the last one, and on where they come from but for the first. -/
theorem isChain_congr {heap heap' : Heap α} {nodes : List α} (chain : List.IsChain (Link heap) nodes)
    (next : ∀ x ∈ nodes.dropLast, (heap' x).next = (heap x).next)
    (prev : ∀ x ∈ nodes.tail, (heap' x).prev = (heap x).prev) : List.IsChain (Link heap') nodes := by
  induction chain with
  | nil => exact .nil
  | singleton a => exact .singleton a
  | @cons_cons a b nodes link chain ih =>
      have forward := next a (by simp)
      have backward := prev b (by simp)
      refine .cons_cons ⟨forward.trans link.1, backward.trans link.2⟩ (ih ?_ ?_)
      · exact fun x inside => next x (by simp [inside])
      · exact fun x inside => prev x (List.mem_cons_of_mem b inside)

omit [DecidableEq α] in
theorem front_eq {list a b : α} {nodes pre post : List α} (full : list :: nodes ++ [list] = pre ++ a :: b :: post) :
    list :: nodes = pre ++ a :: (b :: post).dropLast := by
  have same := congrArg List.dropLast full
  rw [List.dropLast_concat] at same
  simpa using same

omit [DecidableEq α] in
/-- The parts of a circle before and behind one of its links. -/
theorem Circle.parts {heap : Heap α} {list : α} {nodes pre post : List α} {a b : α} (circle : Circle heap list nodes)
    (full : list :: nodes ++ [list] = pre ++ a :: b :: post) :
    List.IsChain (Link heap) (pre ++ [a]) ∧ Link heap a b ∧ List.IsChain (Link heap) (b :: post) ∧
      (pre ++ a :: (b :: post).dropLast).Nodup ∧ ((pre ++ [a]).tail ++ b :: post).Nodup := by
  have links := circle.links
  rw [full, List.isChain_append_cons_cons] at links
  have back : (list :: nodes ++ [list]).tail = nodes ++ [list] := rfl
  have nodup := circle.nodup
  refine ⟨links.1, links.2.1, links.2.2, ?_, ?_⟩
  · rwa [front_eq full] at nodup
  · have around : (nodes ++ [list]).Nodup := (List.perm_append_singleton list nodes).nodup_iff.mpr nodup
    rw [← back, full] at around
    cases pre with
    | nil => exact around
    | cons first pre => simpa using around

omit [DecidableEq α] in
/-- A node is left once and entered once. -/
theorem Circle.apart {heap : Heap α} {list : α} {nodes pre post : List α} {a b : α} (circle : Circle heap list nodes)
    (full : list :: nodes ++ [list] = pre ++ a :: b :: post) :
    (∀ x ∈ pre, ∀ y ∈ a :: (b :: post).dropLast, x ≠ y) ∧ (∀ x ∈ (b :: post).dropLast, x ≠ a) ∧
      (∀ x ∈ (pre ++ [a]).tail, ∀ y ∈ b :: post, x ≠ y) ∧ ∀ x ∈ post, x ≠ b := by
  obtain ⟨-, -, -, leaving, entering⟩ := circle.parts full
  obtain ⟨-, leavingA, apartA⟩ := List.nodup_append.mp leaving
  obtain ⟨-, enteringB, apartB⟩ := List.nodup_append.mp entering
  refine ⟨apartA, ?_, apartB, ?_⟩
  · rintro x inside rfl
    exact (List.nodup_cons.mp leavingA).1 inside
  · rintro x inside rfl
    exact (List.nodup_cons.mp enteringB).1 inside

omit [DecidableEq α] in
theorem Circle.insert {heap heap' : Heap α} {list : α} {nodes nodes' pre post : List α} {a node b : α}
    (circle : Circle heap list nodes) (full : list :: nodes ++ [list] = pre ++ a :: b :: post)
    (fresh : node ∉ list :: nodes) (inserted : Inserted heap heap' a node b)
    (full' : list :: nodes' ++ [list] = pre ++ a :: node :: b :: post) : Circle heap' list nodes' := by
  obtain ⟨chainA, -, chainB, leaving, -⟩ := circle.parts full
  obtain ⟨leavesA, leavesB, entersA, entersB⟩ := circle.apart full
  have front := front_eq full
  have front' : list :: nodes' = pre ++ a :: node :: (b :: post).dropLast := front_eq full'
  have notNode : ∀ x ∈ pre ++ a :: b :: post, x ≠ node := by
    rintro x inside rfl
    rw [← full, List.mem_append, List.mem_singleton] at inside
    rcases inside with old | rfl
    · exact fresh old
    · exact fresh List.mem_cons_self
  constructor
  · have placed : ((pre ++ [a]) ++ node :: (b :: post).dropLast).Perm (node :: (list :: nodes)) := by
      rw [front, List.append_cons pre a (b :: post).dropLast]
      exact List.perm_middle
    rw [front', List.append_cons pre a, placed.nodup_iff]
    exact List.nodup_cons.mpr ⟨fresh, circle.nodup⟩
  · rw [full', List.isChain_append_cons_cons, List.isChain_cons_cons]
    refine ⟨isChain_congr chainA ?_ ?_, inserted.before, inserted.behind, isChain_congr chainB ?_ ?_⟩
    · intro x inside
      rw [List.dropLast_concat] at inside
      exact inserted.next x (leavesA x inside a List.mem_cons_self) (notNode x (List.mem_append_left _ inside))
    · intro x inside
      have isFront : x ∈ pre ++ [a] := List.mem_of_mem_tail inside
      exact inserted.prev x (entersA x inside b List.mem_cons_self)
        (notNode x (List.append_cons pre a (b :: post) ▸ List.mem_append_left _ isFront))
    · intro x inside
      exact inserted.next x (leavesB x inside)
        (notNode x (List.mem_append_right _ (List.mem_cons_of_mem a (List.dropLast_subset _ inside))))
    · intro x inside
      exact inserted.prev x (entersB x inside)
        (notNode x (List.mem_append_right _ (List.mem_cons_of_mem a (List.mem_cons_of_mem b inside))))

omit [DecidableEq α] in
theorem Circle.remove {heap heap' : Heap α} {list : α} {nodes nodes' pre post : List α} {a node b : α}
    (circle : Circle heap list nodes) (full : list :: nodes ++ [list] = pre ++ a :: node :: b :: post)
    (removed : Removed heap heap' a node b)
    (full' : list :: nodes' ++ [list] = pre ++ a :: b :: post) : Circle heap' list nodes' := by
  have full₂ : list :: nodes ++ [list] = (pre ++ [a]) ++ node :: b :: post := by rw [full, ← List.append_cons]
  obtain ⟨chainA, -, chainNode, leaving, -⟩ := circle.parts full
  obtain ⟨leavesA, leavesRest, entersFront, entersRest⟩ := circle.apart full
  obtain ⟨leavesFront, leavesNode, entersA, entersB⟩ := circle.apart full₂
  have chainB := (List.isChain_cons_cons.mp chainNode).2
  have front' := front_eq full'
  have isNode : node ∈ a :: (node :: b :: post).dropLast := List.mem_cons_of_mem a List.mem_cons_self
  constructor
  · have kept : (pre ++ a :: (b :: post).dropLast).Sublist (pre ++ a :: (node :: b :: post).dropLast) :=
      ((List.sublist_cons_self node _).cons_cons a).append_left pre
    rw [front']
    exact leaving.sublist kept
  · rw [full', List.isChain_append_cons_cons]
    refine ⟨isChain_congr chainA ?_ ?_, removed.link, isChain_congr chainB ?_ ?_⟩
    · intro x inside
      rw [List.dropLast_concat] at inside
      exact removed.next x (leavesA x inside a List.mem_cons_self) (leavesA x inside node isNode)
    · intro x inside
      exact removed.prev x (entersFront x inside b (List.mem_cons_of_mem node List.mem_cons_self))
        (entersFront x inside node List.mem_cons_self)
    · intro x inside
      exact removed.next x (leavesRest x (List.mem_cons_of_mem node inside)) (leavesNode x inside)
    · intro x inside
      exact removed.prev x (entersB x inside) (entersRest x (List.mem_cons_of_mem b inside))

omit [DecidableEq α] in
/-- The head or the nodes before a node end with some node, and what is behind it starts with one. -/
theorem exists_neighbours (list : α) (pre post : List α) :
    (∃ p a, list :: pre = p ++ [a]) ∧ ∃ b q, post ++ [list] = b :: q := by
  constructor
  · rcases List.eq_nil_or_concat (list :: pre) with none | ⟨p, a, split⟩
    · cases none
    · exact ⟨p, a, by simpa using split⟩
  · cases post with
    | nil => exact ⟨list, [], rfl⟩
    | cons b post => exact ⟨b, post ++ [list], rfl⟩

/-- Taking out a node of the circle. -/
theorem Circle.nodeRemove {heap : Heap α} {list node : α} {pre post : List α}
    (circle : Circle heap list (pre ++ node :: post)) :
    ∃ heap', LinkedLists.nodeRemove heap node = .ok heap' ∧ Circle heap' list (pre ++ post) ∧
      heap' node = ⟨none, none⟩ ∧ ∀ x, x ∉ list :: (pre ++ node :: post) → heap' x = heap x := by
  obtain ⟨⟨p, a, front⟩, b, q, back⟩ := exists_neighbours list pre post
  have full : list :: (pre ++ node :: post) ++ [list] = p ++ a :: node :: b :: q := by
    have split : list :: (pre ++ node :: post) ++ [list] = (list :: pre) ++ node :: (post ++ [list]) := by simp
    rw [split, front, back, ← List.append_cons]
  have full' : list :: (pre ++ post) ++ [list] = p ++ a :: b :: q := by
    rw [← List.cons_append, List.append_assoc, front, back, ← List.append_cons]
  have links := circle.links
  rw [full, List.isChain_append_cons_cons, List.isChain_cons_cons] at links
  obtain ⟨-, before, behind, -⟩ := links
  obtain ⟨-, leaves, -, enters⟩ := circle.apart full
  have notA : node ≠ a := leaves node List.mem_cons_self
  have notB : node ≠ b := (enters b List.mem_cons_self).symm
  obtain ⟨heap', removes, removed⟩ := nodeRemove_removed before behind notA notB
  refine ⟨heap', removes, circle.remove full removed full', removed.unlinked, fun x outside => ?_⟩
  have notFull : x ∉ list :: (pre ++ node :: post) ++ [list] := by
    rw [List.mem_append, List.mem_singleton]
    rintro (inside | rfl)
    · exact outside inside
    · exact outside List.mem_cons_self
  rw [full] at notFull
  simp only [List.mem_append, List.mem_cons, not_or] at notFull
  obtain ⟨-, otherA, otherNode, otherB, -⟩ := notFull
  exact Node.ext (removed.next x otherA otherNode) (removed.prev x otherB otherNode)

omit [DecidableEq α] in
/-- A circle in two parts, each with the head of its own list. -/
theorem Circle.divide {heap heap' : Heap α} {list u a t dest : α} {pre post p q : List α}
    (circle : Circle heap list (pre ++ a :: post)) (frontLast : list :: pre = p ++ [u]) (backLast : a :: post = q ++ [t])
    (fresh : dest ∉ list :: (pre ++ a :: post)) (divided : Divided heap heap' list u a t dest) :
    Circle heap' list pre ∧ Circle heap' dest (a :: post) := by
  have nodup : ((list :: pre) ++ (a :: post)).Nodup := circle.nodup
  have whole : list :: (pre ++ a :: post) = (list :: pre) ++ (a :: post) := rfl
  obtain ⟨frontNodup, backNodup, apart⟩ := List.nodup_append.mp nodup
  rw [whole, List.mem_append, not_or] at fresh
  have isU : u ∈ list :: pre := frontLast ▸ List.mem_concat_self
  have isT : t ∈ a :: post := backLast ▸ List.mem_concat_self
  have beforeU : ∀ x ∈ p, x ∈ list :: pre ∧ x ≠ u := by
    rw [frontLast] at frontNodup ⊢
    have other := (List.nodup_append.mp frontNodup).2.2
    exact fun x inside => ⟨List.mem_append_left [u] inside, other x inside u List.mem_cons_self⟩
  have beforeT : ∀ x ∈ q, x ∈ a :: post ∧ x ≠ t := by
    rw [backLast] at backNodup ⊢
    have other := (List.nodup_append.mp backNodup).2.2
    exact fun x inside => ⟨List.mem_append_left [t] inside, other x inside t List.mem_cons_self⟩
  have full : list :: (pre ++ a :: post) ++ [list] = p ++ u :: a :: (post ++ [list]) := by
    rw [whole, frontLast]
    simp
  obtain ⟨chainU, -, chainA, -, -⟩ := circle.parts full
  have chainT : List.IsChain (Link heap) (q ++ [t]) := by
    rw [← List.cons_append, backLast] at chainA
    exact chainA.left_of_append
  refine ⟨⟨frontNodup, ?_⟩, ⟨List.nodup_cons.mpr ⟨fresh.2, backNodup⟩, ?_⟩⟩
  · have split : list :: pre ++ [list] = p ++ u :: [list] := by
      rw [frontLast]
      simp
    rw [split, List.isChain_append_cons_cons]
    refine ⟨isChain_congr chainU ?_ ?_, divided.front, .singleton list⟩
    · intro x inside
      rw [List.dropLast_concat] at inside
      obtain ⟨isFront, notU⟩ := beforeU x inside
      exact divided.next x notU (apart x isFront t isT) (fun same => fresh.1 (same ▸ isFront))
    · intro x inside
      rw [← frontLast] at inside
      have isFront : x ∈ list :: pre := List.mem_cons_of_mem list inside
      have notList : x ≠ list := fun same => (List.nodup_cons.mp frontNodup).1 (same ▸ inside)
      exact divided.prev x notList (apart x isFront a List.mem_cons_self) (fun same => fresh.1 (same ▸ isFront))
  · have split : dest :: (a :: post) ++ [dest] = (dest :: q) ++ t :: [dest] := by
      rw [backLast]
      simp
    have chain : List.IsChain (Link heap') (q ++ [t]) := by
      refine isChain_congr chainT ?_ ?_
      · intro x inside
        rw [List.dropLast_concat] at inside
        obtain ⟨isBack, notT⟩ := beforeT x inside
        exact divided.next x (apart u isU x isBack).symm notT (fun same => fresh.2 (same ▸ isBack))
      · intro x inside
        rw [← backLast] at inside
        have isBack : x ∈ a :: post := List.mem_cons_of_mem a inside
        have notA : x ≠ a := fun same => (List.nodup_cons.mp backNodup).1 (same ▸ inside)
        exact divided.prev x (apart list List.mem_cons_self x isBack).symm notA (fun same => fresh.2 (same ▸ isBack))
    have opened : List.IsChain (Link heap') (dest :: q ++ [t]) := by
      rw [List.cons_append, ← backLast]
      rw [← backLast] at chain
      exact .cons_cons divided.first chain
    rw [split, List.isChain_append_cons_cons]
    exact ⟨opened, divided.back, .singleton dest⟩

omit [DecidableEq α] in
theorem Circle.congr {heap heap' : Heap α} {list : α} {nodes : List α} (circle : Circle heap list nodes)
    (same : ∀ x ∈ list :: nodes, heap' x = heap x) : Circle heap' list nodes where
  nodup := circle.nodup
  links := by
    refine isChain_congr circle.links ?_ ?_
    · intro x inside
      rw [List.dropLast_concat] at inside
      rw [same x inside]
    · intro x inside
      rw [same x (by grind)]

/-! ## Lists as sequences -/

/-- The nodes of each list, in their order, under the head of the list. -/
abbrev Lists (α : Type) := α → Option (List α)

/-- The node is neither a head nor in a list. -/
def Lists.Free (lists : Lists α) (x : α) : Prop :=
  lists x = none ∧ ∀ list nodes, lists list = some nodes → x ∉ nodes

theorem Lists.Free.update {lists : Lists α} {list x : α} {nodes : List α} (notList : x ≠ list)
    (notHead : lists x = none) (notNew : x ∉ nodes)
    (notMember : ∀ head members, head ≠ list → lists head = some members → x ∉ members) :
    Lists.Free (Function.update lists list (some nodes)) x := by
  refine ⟨by rw [Function.update_of_ne notList, notHead], fun head members isList => ?_⟩
  by_cases same : head = list
  · subst same
    rw [Function.update_self] at isList
    cases isList
    exact notNew
  · rw [Function.update_of_ne same] at isList
    exact notMember head members same isList

/-- Each list is a circle of its own, and the other nodes are unlinked. -/
structure Represents (heap : Heap α) (lists : Lists α) : Prop where
  circle : ∀ {list nodes}, lists list = some nodes → Circle heap list nodes
  member : ∀ {list nodes x}, lists list = some nodes → x ∈ nodes → lists x = none
  apart : ∀ {a b as bs x}, lists a = some as → lists b = some bs → x ∈ as → x ∈ bs → a = b
  unlinked : ∀ {x}, lists.Free x → heap x = ⟨none, none⟩

/-- One list changes, with nodes that it had or that were unlinked. -/
theorem Represents.replace {heap heap' : Heap α} {lists : Lists α} (represents : Represents heap lists) {list : α}
    {nodes nodes' : List α} (there : lists list = some nodes ∨ nodes = [] ∧ lists.Free list)
    (circle : Circle heap' list nodes') (known : ∀ x ∈ nodes', x ∈ nodes ∨ lists.Free x)
    (gone : ∀ x ∈ nodes, x ∉ nodes' → heap' x = ⟨none, none⟩)
    (others : ∀ x, x ≠ list → x ∉ nodes → x ∉ nodes' → heap' x = heap x) :
    Represents heap' (Function.update lists list (some nodes')) := by
  have notList : list ∉ nodes' := (List.nodup_cons.mp circle.nodup).1
  have member := @represents.member
  have apart := @represents.apart
  have away : ∀ {head members x}, head ≠ list → lists head = some members → x ∈ head :: members →
      x ≠ list ∧ x ∉ nodes ∧ x ∉ nodes' := by
    intro head members x other isList inside
    have notHead : x ≠ list := by
      rintro rfl
      have isMember : x ∈ members := (List.mem_cons.mp inside).resolve_left other.symm
      rcases there with isOther | ⟨-, free⟩
      · cases (member isList isMember).symm.trans isOther
      · exact free.2 head members isList isMember
    have notMember : x ∉ nodes := by
      intro isMember
      have isOther : lists list = some nodes := by
        rcases there with isOther | ⟨rfl, -⟩
        · exact isOther
        · exact absurd isMember List.not_mem_nil
      rcases List.mem_cons.mp inside with rfl | isOld
      · cases (member isOther isMember).symm.trans isList
      · exact other (apart isList isOther isOld isMember)
    refine ⟨notHead, notMember, fun isMember => ?_⟩
    rcases known x isMember with isOld | free
    · exact notMember isOld
    · rcases List.mem_cons.mp inside with rfl | isOld
      · cases free.1.symm.trans isList
      · exact free.2 head members isList isOld
  constructor
  · intro head members isList
    by_cases same : head = list
    · subst same
      rw [Function.update_self] at isList
      cases isList
      exact circle
    · rw [Function.update_of_ne same] at isList
      refine (represents.circle isList).congr fun x inside => ?_
      obtain ⟨notList, notOld, notNew⟩ := away same isList inside
      exact others x notList notOld notNew
  · intro head members x isList inside
    by_cases same : head = list
    · subst same
      rw [Function.update_self] at isList
      cases isList
      rw [Function.update_of_ne (by grind)]
      rcases known x inside with isOld | free
      · grind
      · exact free.1
    · rw [Function.update_of_ne same] at isList
      rw [Function.update_of_ne (away same isList (List.mem_cons_of_mem head inside)).1]
      exact member isList inside
  · intro a b as bs x isA isB inA inB
    by_cases sameA : a = list
    · by_cases sameB : b = list
      · exact sameA.trans sameB.symm
      · subst sameA
        rw [Function.update_self] at isA
        rw [Function.update_of_ne sameB] at isB
        cases isA
        exact absurd inA (away sameB isB (List.mem_cons_of_mem b inB)).2.2
    · rw [Function.update_of_ne sameA] at isA
      by_cases sameB : b = list
      · subst sameB
        rw [Function.update_self] at isB
        cases isB
        exact absurd inB (away sameA isA (List.mem_cons_of_mem a inA)).2.2
      · rw [Function.update_of_ne sameB] at isB
        exact apart isA isB inA inB
  · rintro x ⟨notHead, notMember⟩
    have notNew := notMember list nodes' (Function.update_self _ _ _)
    have other : x ≠ list := by
      rintro rfl
      simp at notHead
    rw [Function.update_of_ne other] at notHead
    by_cases isOld : x ∈ nodes
    · exact gone x isOld notNew
    · rw [others x other isOld notNew]
      refine represents.unlinked ⟨notHead, fun head members isList inside => ?_⟩
      by_cases same : head = list
      · subst same
        rcases there with isOther | ⟨-, free⟩
        · grind
        · grind [Lists.Free]
      · exact notMember head members (by rw [Function.update_of_ne same, isList]) inside

/-! ## Runs of operations -/

/-- An operation of a list, with the addresses of its nodes. -/
inductive Op (α : Type) where
  | init (list : α)
  | append (list node : α)
  | prepend (list node : α)
  | insertAfter (afterNode node : α)
  | insertBefore (beforeNode node : α)
  | remove (node : α)
  | popHead (list : α)
  | popTail (list : α)
  | split (list splitNode dest : α)
  | move (list dest : α)
  deriving Repr, DecidableEq

/-- The heap after an operation, and the node that it returns. -/
def perform (heap : Heap α) : Op α → Access (Heap α × Option α)
  | .init list => .ok (init heap list, none)
  | .append list node => do
      let heap ← append heap list node
      .ok (heap, none)
  | .prepend list node => do
      let heap ← prepend heap list node
      .ok (heap, none)
  | .insertAfter afterNode node => do
      let heap ← nodeInsertAfter heap afterNode node
      .ok (heap, none)
  | .insertBefore beforeNode node => do
      let heap ← nodeInsertBefore heap beforeNode node
      .ok (heap, none)
  | .remove node => do
      let heap ← nodeRemove heap node
      .ok (heap, none)
  | .popHead list => popHead heap list
  | .popTail list => popTail heap list
  | .split list splitNode dest => do
      let heap ← split heap list splitNode dest
      .ok (heap, none)
  | .move list dest => do
      let heap ← move heap list dest
      .ok (heap, none)

def performAll (heap : Heap α) : List (Op α) → Access (Heap α × List (Option α))
  | [] => .ok (heap, [])
  | op :: ops => do
      let (heap, node) ← perform heap op
      let (heap, nodes) ← performAll heap ops
      .ok (heap, node :: nodes)

/-- The node can become a list: it is one without nodes, or it is unlinked. -/
def Lists.Available (lists : Lists α) (x : α) : Prop := lists x = some [] ∨ lists.Free x

/-- What an operation does to the sequences, for nodes of a list and unlinked nodes. A node is inserted behind or before
    any node of the circle, its head included. -/
inductive Step : Lists α → Op α → Lists α → Option α → Prop where
  | init {lists : Lists α} {list : α} (available : lists.Available list) :
      Step lists (.init list) (Function.update lists list (some [])) none
  | append {lists : Lists α} {list node : α} {nodes : List α} (there : lists list = some nodes)
      (free : lists.Free node) :
      Step lists (.append list node) (Function.update lists list (some (nodes ++ [node]))) none
  | prepend {lists : Lists α} {list node : α} {nodes : List α} (there : lists list = some nodes)
      (free : lists.Free node) :
      Step lists (.prepend list node) (Function.update lists list (some (node :: nodes))) none
  | insertAfter {lists : Lists α} {list a node : α} {nodes nodes' pre post : List α} (there : lists list = some nodes)
      (around : list :: nodes = pre ++ a :: post) (after : list :: nodes' = pre ++ a :: node :: post)
      (free : lists.Free node) :
      Step lists (.insertAfter a node) (Function.update lists list (some nodes')) none
  | insertBefore {lists : Lists α} {list b node : α} {nodes nodes' pre post : List α} (there : lists list = some nodes)
      (around : nodes ++ [list] = pre ++ b :: post) (before : nodes' ++ [list] = pre ++ node :: b :: post)
      (free : lists.Free node) :
      Step lists (.insertBefore b node) (Function.update lists list (some nodes')) none
  | remove {lists : Lists α} {list node : α} {pre post : List α} (there : lists list = some (pre ++ node :: post)) :
      Step lists (.remove node) (Function.update lists list (some (pre ++ post))) none
  | popHeadEmpty {lists : Lists α} {list : α} (there : lists list = some []) : Step lists (.popHead list) lists none
  | popHead {lists : Lists α} {list node : α} {nodes : List α} (there : lists list = some (node :: nodes)) :
      Step lists (.popHead list) (Function.update lists list (some nodes)) (some node)
  | popTailEmpty {lists : Lists α} {list : α} (there : lists list = some []) : Step lists (.popTail list) lists none
  | popTail {lists : Lists α} {list node : α} {nodes : List α} (there : lists list = some (nodes ++ [node])) :
      Step lists (.popTail list) (Function.update lists list (some nodes)) (some node)
  | split {lists : Lists α} {list node dest : α} {pre post : List α} (there : lists list = some (pre ++ node :: post))
      (available : lists.Available dest) :
      Step lists (.split list node dest)
        (Function.update (Function.update lists list (some pre)) dest (some (node :: post))) none
  | move {lists : Lists α} {list dest : α} {nodes : List α} (there : lists list = some nodes)
      (available : lists.Available dest) :
      Step lists (.move list dest)
        (Function.update (Function.update lists list (some [])) dest (some nodes)) none

inductive Steps : Lists α → List (Op α) → Lists α → List (Option α) → Prop where
  | nil {lists : Lists α} : Steps lists [] lists []
  | cons {lists lists' lists'' : Lists α} {op : Op α} {ops : List (Op α)} {node : Option α} {nodes : List (Option α)}
      (step : Step lists op lists' node) (steps : Steps lists' ops lists'' nodes) :
      Steps lists (op :: ops) lists'' (node :: nodes)

/-- A node is linked between two that follow each other in the circle of a list. -/
theorem Represents.insert {heap heap' : Heap α} {lists : Lists α} (represents : Represents heap lists) {list : α}
    {nodes nodes' pre post : List α} {a node b : α} (there : lists list = some nodes)
    (full : list :: nodes ++ [list] = pre ++ a :: b :: post) (free : lists.Free node)
    (inserted : Inserted heap heap' a node b)
    (full' : list :: nodes' ++ [list] = pre ++ a :: node :: b :: post) :
    Represents heap' (Function.update lists list (some nodes')) := by
  have circle := represents.circle there
  have fresh : node ∉ list :: nodes := by
    have notHead := free.1
    have notMember := free.2 list nodes there
    grind
  have front := front_eq full
  have front' : list :: nodes' = pre ++ a :: node :: (b :: post).dropLast := front_eq full'
  have circle' := circle.insert full fresh inserted full'
  have notList := (List.nodup_cons.mp circle'.nodup).1
  refine represents.replace (.inl there) circle' ?_ ?_ ?_
  · intro x inside
    have place : x ∈ pre ++ a :: node :: (b :: post).dropLast := front' ▸ List.mem_cons_of_mem list inside
    by_cases new : x = node
    · exact .inr (new ▸ free)
    · have old : x ∈ list :: nodes := by grind
      exact .inl (by grind)
  · intro x inside gone
    have place : x ∈ pre ++ a :: (b :: post).dropLast := front ▸ List.mem_cons_of_mem list inside
    have kept : x ∈ list :: nodes' := by grind
    have notList := (List.nodup_cons.mp circle.nodup).1
    grind
  · intro x notList notOld notNew
    have outside : x ∉ pre ++ a :: b :: post := by grind
    have other : x ≠ node := by grind
    exact Node.ext (inserted.next x (by grind) other) (inserted.prev x (by grind) other)

/-- A node is taken out of the circle of a list. -/
theorem Represents.remove {heap : Heap α} {lists : Lists α} (represents : Represents heap lists) {list node : α}
    {pre post : List α} (there : lists list = some (pre ++ node :: post)) :
    ∃ heap', nodeRemove heap node = .ok heap' ∧
      Represents heap' (Function.update lists list (some (pre ++ post))) := by
  obtain ⟨heap', removes, circle', unlinked, others⟩ := (represents.circle there).nodeRemove
  refine ⟨heap', removes, represents.replace (.inl there) circle' ?_ ?_ ?_⟩
  · intro x inside
    exact .inl (by grind)
  · intro x inside gone
    have same : x = node := by grind
    exact same ▸ unlinked
  · intro x notList notOld notNew
    exact others x (by grind)

/-- A node becomes a list without nodes. -/
theorem Represents.init {heap : Heap α} {lists : Lists α} (represents : Represents heap lists) {list : α}
    (available : lists.Available list) :
    Represents (init heap list) (Function.update lists list (some [])) := by
  have circle : Circle (LinkedLists.init heap list) list [] := by
    refine ⟨by simp, ?_⟩
    simp [Link, LinkedLists.init]
  have there : lists list = some [] ∨ ([] : List α) = [] ∧ lists.Free list := available.imp_right (fun free => ⟨rfl, free⟩)
  refine represents.replace there circle (by simp) (by simp) ?_
  intro x other _ _
  apply Node.ext
  · simp [LinkedLists.init, other]
  · simp [LinkedLists.init, other]

/-- The nodes from one on go to a list of their own. -/
theorem Represents.split {heap : Heap α} {lists : Lists α} (represents : Represents heap lists) {list node dest : α}
    {pre post : List α} (there : lists list = some (pre ++ node :: post)) (available : lists.Available dest) :
    ∃ heap', LinkedLists.split heap list node dest = .ok heap' ∧
      Represents heap' (Function.update (Function.update lists list (some pre)) dest (some (node :: post))) := by
  have circle := represents.circle there
  have nodup := circle.nodup
  have member := @represents.member
  have apart := @represents.apart
  have fresh : dest ∉ list :: (pre ++ node :: post) := by
    rw [List.mem_cons, not_or]
    rcases available with empty | free
    · refine ⟨?_, fun inside => ?_⟩
      · rintro rfl
        rw [empty] at there
        simp at there
      · have none := represents.member there inside
        rw [empty] at none
        cases none
    · refine ⟨?_, free.2 _ _ there⟩
      rintro rfl
      cases free.1.symm.trans there
  obtain ⟨⟨p, u, front⟩, -⟩ := exists_neighbours list pre post
  obtain ⟨⟨q, t, back⟩, -⟩ := exists_neighbours node post pre
  have whole : list :: (pre ++ node :: post) = (list :: pre) ++ (node :: post) := rfl
  have isU : u ∈ list :: pre := front ▸ List.mem_concat_self
  have isT : t ∈ node :: post := back ▸ List.mem_concat_self
  have different := (List.nodup_append.mp (whole ▸ nodup)).2.2
  have enters : Link heap u node := by
    have full : list :: (pre ++ node :: post) ++ [list] = p ++ u :: node :: (post ++ [list]) := by
      rw [whole, front]
      simp
    exact (circle.parts full).2.1
  have closes : Link heap t list := by
    have full : list :: (pre ++ node :: post) ++ [list] = (list :: pre ++ q) ++ t :: list :: [] := by
      rw [whole, back]
      simp
    exact (circle.parts full).2.1
  have notDest : ∀ x ∈ list :: (pre ++ node :: post), dest ≠ x := fun x inside same => fresh (same ▸ inside)
  have destNew : dest ≠ list ∧ dest ≠ u ∧ dest ≠ node ∧ dest ≠ t :=
    ⟨notDest list List.mem_cons_self, notDest u (List.mem_append_left (node :: post) isU),
      notDest node (List.mem_append_right (list :: pre) List.mem_cons_self),
      notDest t (List.mem_append_right (list :: pre) isT)⟩
  obtain ⟨heap', splits, divided⟩ := split_divided enters closes (different u isU t isT)
    (different list List.mem_cons_self node List.mem_cons_self).symm destNew
  obtain ⟨first, second⟩ := circle.divide front back fresh divided
  refine ⟨heap', splits, ?_⟩
  -- as if the nodes were unlinked before they get the new head
  let between : Heap α := fun x => if x ∈ list :: pre then heap' x else if x ∈ node :: post then ⟨none, none⟩ else heap x
  have shorter : Represents between (Function.update lists list (some pre)) := by
    refine represents.replace (.inl there) (first.congr fun x inside => if_pos inside) ?_ ?_ ?_
    · exact fun x inside => .inl (List.mem_append_left _ inside)
    · intro x inside gone
      have isBack : x ∈ node :: post := (List.mem_append.mp inside).resolve_left gone
      have notFront : x ∉ list :: pre := fun isFront => different x isFront x isBack rfl
      simp only [between, if_neg notFront, if_pos isBack]
    · intro x notList notOld notNew
      have notFront : x ∉ list :: pre := List.not_mem_cons_of_ne_of_not_mem notList notNew
      have notBack : x ∉ node :: post := fun isBack => notOld (List.mem_append_right _ isBack)
      simp only [between, if_neg notFront, if_neg notBack]
  have other := destNew.1
  have notPre : dest ∉ pre := fun isPre => fresh (List.mem_cons_of_mem list (List.mem_append_left _ isPre))
  have thereDest : Function.update lists list (some pre) dest = some [] ∨
      ([] : List α) = [] ∧ Lists.Free (Function.update lists list (some pre)) dest := by
    rcases available with empty | free
    · exact .inl (by rw [Function.update_of_ne other, empty])
    · exact .inr ⟨rfl, .update other free.1 notPre (fun head members _ isList => free.2 head members isList)⟩
  refine shorter.replace thereDest second ?_ (by simp) ?_
  · intro x inside
    have isMember : x ∈ pre ++ node :: post := List.mem_append_right pre inside
    have notPre : x ∉ pre := fun isPre => different x (List.mem_cons_of_mem list isPre) x inside rfl
    have notList : x ≠ list := (different list List.mem_cons_self x inside).symm
    refine .inr (.update notList (member there isMember) notPre ?_)
    intro head members notList isList isOther
    exact notList (apart isList there isOther isMember)
  · intro x notDest _ notNew
    by_cases old : x ∈ list :: pre
    · exact (if_pos old).symm
    · have same : between x = heap x := by
        simp only [between, if_neg old, if_neg notNew]
      rw [same]
      have outside : ∀ y ∈ list :: pre, x ≠ y := fun y inside same => old (same ▸ inside)
      have unchanged : ∀ y ∈ node :: post, x ≠ y := fun y inside same => notNew (same ▸ inside)
      exact Node.ext (divided.next x (outside u isU) (unchanged t isT) notDest)
        (divided.prev x (outside list List.mem_cons_self) (unchanged node List.mem_cons_self) notDest)

theorem Circle.isEmpty {heap : Heap α} {list : α} {nodes : List α} (circle : Circle heap list nodes) :
    LinkedLists.isEmpty heap list = nodes.isEmpty := by
  have links := circle.links
  have nodup := circle.nodup
  cases nodes with
  | nil =>
      have link := (List.isChain_cons_cons.mp links).1
      simp [LinkedLists.isEmpty, link.1]
  | cons a nodes =>
      have link := (List.isChain_cons_cons.mp links).1
      have other : list ≠ a := by grind
      simp [LinkedLists.isEmpty, link.1, other]

omit [DecidableEq α] in
theorem Represents.notCircle {heap : Heap α} {lists : Lists α} (represents : Represents heap lists) {list node : α}
    {nodes : List α} (there : lists list = some nodes) (free : lists.Free node) : node ∉ list :: nodes ++ [list] := by
  have notHead := free.1
  have notMember := free.2 list nodes there
  have nodup := (represents.circle there).nodup
  grind

theorem Represents.insertAfter {heap : Heap α} {lists : Lists α} (represents : Represents heap lists) {list a node : α}
    {nodes nodes' pre post : List α} (there : lists list = some nodes) (around : list :: nodes = pre ++ a :: post)
    (after : list :: nodes' = pre ++ a :: node :: post) (free : lists.Free node) :
    ∃ heap', nodeInsertAfter heap a node = .ok heap' ∧ Represents heap' (Function.update lists list (some nodes')) := by
  obtain ⟨-, b, q, back⟩ := exists_neighbours list pre post
  have full : list :: nodes ++ [list] = pre ++ a :: b :: q := by
    rw [around, List.append_assoc, List.cons_append, back]
  have full' : list :: nodes' ++ [list] = pre ++ a :: node :: b :: q := by
    rw [after, List.append_assoc, List.cons_append, List.cons_append, back]
  have fresh := represents.notCircle there free
  rw [full] at fresh
  have link := ((represents.circle there).parts full).2.1
  obtain ⟨heap', inserts, inserted⟩ := nodeInsertAfter_inserted link (by grind : node ≠ a) (by grind : node ≠ b)
  exact ⟨heap', inserts, represents.insert there full free inserted full'⟩

theorem Represents.insertBefore {heap : Heap α} {lists : Lists α} (represents : Represents heap lists) {list b node : α}
    {nodes nodes' pre post : List α} (there : lists list = some nodes) (around : nodes ++ [list] = pre ++ b :: post)
    (before : nodes' ++ [list] = pre ++ node :: b :: post) (free : lists.Free node) :
    ∃ heap', nodeInsertBefore heap b node = .ok heap' ∧ Represents heap' (Function.update lists list (some nodes')) := by
  obtain ⟨⟨p, a, front⟩, -⟩ := exists_neighbours list pre post
  have full : list :: nodes ++ [list] = p ++ a :: b :: post := by
    rw [List.cons_append, around, ← List.cons_append, front, List.append_assoc, List.singleton_append]
  have full' : list :: nodes' ++ [list] = p ++ a :: node :: b :: post := by
    rw [List.cons_append, before, ← List.cons_append, front, List.append_assoc, List.singleton_append]
  have fresh := represents.notCircle there free
  rw [full] at fresh
  have link := ((represents.circle there).parts full).2.1
  obtain ⟨heap', inserts, inserted⟩ := nodeInsertBefore_inserted link (by grind : node ≠ a) (by grind : node ≠ b)
  exact ⟨heap', inserts, represents.insert there full free inserted full'⟩

/-- Every operation does to the heap what it does to the sequences. -/
theorem Represents.step {heap : Heap α} {lists lists' : Lists α} {op : Op α} {node : Option α}
    (represents : Represents heap lists) (step : Step lists op lists' node) :
    ∃ heap', perform heap op = .ok (heap', node) ∧ Represents heap' lists' := by
  cases step with
  | init available => exact ⟨_, rfl, represents.init available⟩
  | @append list node nodes there free =>
      have other : node ≠ list := by
        rintro rfl
        rw [free.1] at there
        cases there
      obtain ⟨heap', inserts, result⟩ := @Represents.insertBefore α _ heap lists represents list list node nodes
        (nodes ++ [node]) nodes [] there rfl (by simp) free
      exact ⟨heap', by simp only [perform, append_eq other, inserts, ok_bind], result⟩
  | @prepend list node nodes there free =>
      obtain ⟨heap', inserts, result⟩ := @Represents.insertAfter α _ heap lists represents list list node nodes
        (node :: nodes) [] nodes there rfl rfl free
      exact ⟨heap', by simp only [perform, prepend_eq, inserts, ok_bind], result⟩
  | insertAfter there around after free =>
      obtain ⟨heap', inserts, result⟩ := represents.insertAfter there around after free
      exact ⟨heap', by simp only [perform, inserts, ok_bind], result⟩
  | insertBefore there around before free =>
      obtain ⟨heap', inserts, result⟩ := represents.insertBefore there around before free
      exact ⟨heap', by simp only [perform, inserts, ok_bind], result⟩
  | remove there =>
      obtain ⟨heap', removes, result⟩ := represents.remove there
      exact ⟨heap', by simp only [perform, removes, ok_bind], result⟩
  | popHeadEmpty there =>
      have empty := (represents.circle there).isEmpty
      exact ⟨heap, if_pos empty, represents⟩
  | @popHead list node nodes there =>
      have circle := represents.circle there
      have first := (List.isChain_cons_cons.mp circle.links).1
      obtain ⟨heap', removes, result⟩ := @Represents.remove α _ heap lists represents list node [] nodes there
      refine ⟨heap', ?_, result⟩
      simp [perform, popHead, circle.isEmpty, first.1, removes]
  | popTailEmpty there =>
      have empty := (represents.circle there).isEmpty
      exact ⟨heap, if_pos empty, represents⟩
  | @popTail list node nodes there =>
      have circle := represents.circle there
      have full : list :: (nodes ++ [node]) ++ [list] = (list :: nodes) ++ node :: list :: [] := by simp
      have last := (circle.parts full).2.1
      obtain ⟨heap', removes, result⟩ := @Represents.remove α _ heap lists represents list node nodes [] there
      rw [List.append_nil] at result
      refine ⟨heap', ?_, result⟩
      simp [perform, popTail, circle.isEmpty, last.2, removes]
  | split there available =>
      obtain ⟨heap', splits, result⟩ := represents.split there available
      exact ⟨heap', by simp only [perform, splits, ok_bind], result⟩
  | @move list dest nodes there available =>
      have circle := represents.circle there
      cases nodes with
      | nil =>
          have same : Function.update lists list (some []) = lists := Function.update_eq_self_iff.mpr there.symm
          rw [same]
          refine ⟨_, ?_, represents.init available⟩
          simp [perform, move, circle.isEmpty]
      | cons node nodes =>
          have first := (List.isChain_cons_cons.mp circle.links).1
          obtain ⟨heap', splits, result⟩ := @Represents.split α _ heap lists represents list node dest [] nodes there available
          refine ⟨heap', ?_, result⟩
          simp [perform, move, circle.isEmpty, first.1, splits]

theorem Represents.run {heap : Heap α} {lists lists' : Lists α} {ops : List (Op α)} {nodes : List (Option α)}
    (represents : Represents heap lists) (steps : Steps lists ops lists' nodes) :
    ∃ heap', performAll heap ops = .ok (heap', nodes) ∧ Represents heap' lists' := by
  induction steps generalizing heap with
  | nil => exact ⟨heap, rfl, represents⟩
  | cons step steps ih =>
      obtain ⟨heap', performs, represents'⟩ := represents.step step
      obtain ⟨heap'', rest, represents''⟩ := ih represents'
      exact ⟨heap'', by simp only [performAll, performs, rest, ok_bind], represents''⟩

/-! ## Iterations -/

/-- The body of an iteration that leaves the list as it is, or takes out the node that it is called with. -/
def RemovesAtMost {σ : Type} (heapOf : σ → Heap α) (body : α → σ → Access σ) (list : α) : Prop :=
  ∀ {s s' node pre post}, Circle (heapOf s) list (pre ++ node :: post) → body node s = .ok s' →
    Circle (heapOf s') list (pre ++ node :: post) ∨ Circle (heapOf s') list (pre ++ post)

/-- The body is called with each of the remaining nodes in turn. -/
theorem foreachSafe_circle {σ : Type} {heapOf : σ → Heap α} {body : α → σ → Access σ} {list : α}
    (removes : RemovesAtMost heapOf body list) (pre post : List α) (s : σ) {fuel : Nat} (enough : post.length < fuel)
    {var : Option α} (here : var = (post ++ [list]).head?) (circle : Circle (heapOf s) list (pre ++ post)) :
    foreachSafe heapOf body list fuel var s = post.foldlM (fun s node => body node s) s := by
  induction post generalizing fuel var pre s with
  | nil =>
      obtain ⟨fuel, rfl⟩ : ∃ k, fuel = k + 1 := ⟨fuel - 1, by omega⟩
      rw [foreachSafe, if_pos (show var = some list from here)]
      rfl
  | cons node post ih =>
      obtain ⟨fuel, rfl⟩ : ∃ k, fuel = k + 1 := ⟨fuel - 1, by omega⟩
      have nodup := circle.nodup
      have other : var ≠ some list := by grind
      obtain ⟨-, b, q, back⟩ := exists_neighbours list pre post
      have full : list :: (pre ++ node :: post) ++ [list] = (list :: pre) ++ node :: b :: q := by grind
      have next := (circle.parts full).2.1.1
      rw [foreachSafe, if_neg other, here]
      simp only [List.cons_append, List.head?_cons, pointee_some, ok_bind, next, List.foldlM_cons]
      cases called : body node s with
      | error fault => rfl
      | ok s' =>
          simp only [ok_bind]
          have goesOn : some b = (post ++ [list]).head? := by rw [back, List.head?_cons]
          rcases removes circle called with kept | removed
          · rw [List.append_cons] at kept
            exact ih (pre ++ [node]) s' (by simpa using enough) goesOn kept
          · exact ih pre s' (by simpa using enough) goesOn removed

/-- The operations are those of sequences, over any run of them; an iteration whose body takes out at most the current
    node calls it with each node of the list, in order. -/
theorem lists_as_sequences (α : Type) [DecidableEq α] :
    (∀ (heap : Heap α) (lists lists' : Lists α) (ops : List (Op α)) (nodes : List (Option α)),
      Represents heap lists → Steps lists ops lists' nodes →
        ∃ heap', performAll heap ops = .ok (heap', nodes) ∧ Represents heap' lists') ∧
    (∀ (σ : Type) (heapOf : σ → Heap α) (body : α → σ → Access σ) (list : α), RemovesAtMost heapOf body list →
      ∀ (s : σ) (nodes : List α) (fuel : Nat), Circle (heapOf s) list nodes → nodes.length < fuel →
        foreachSafe heapOf body list fuel (heapOf s list).next s = nodes.foldlM (fun s node => body node s) s) := by
  refine ⟨fun heap lists lists' ops nodes represents steps => represents.run steps, ?_⟩
  intro σ heapOf body list removes s nodes fuel circle enough
  refine foreachSafe_circle removes [] nodes s enough ?_ circle
  cases nodes with
  | nil => exact (List.isChain_cons_cons.mp circle.links).1.1
  | cons node nodes => exact (List.isChain_cons_cons.mp circle.links).1.1

theorem removesAtMost_nodeRemove (list : α) : RemovesAtMost id (fun node heap => nodeRemove heap node) list := by
  intro heap heap' node pre post circle removes
  obtain ⟨other, same, removed, -⟩ := circle.nodeRemove
  have known : nodeRemove heap node = .ok heap' := removes
  rw [id_eq, known] at same
  cases same
  exact .inr removed

/-- Two nodes go to a list, and its iteration takes out each of them. -/
theorem lists_of_numbers :
    ∃ heap', performAll (fun _ : Nat => ⟨none, none⟩) [.init 0, .append 0 1, .prepend 0 2] =
        .ok (heap', [none, none, none]) ∧
      foreachSafe id (fun node heap => nodeRemove heap node) 0 3 (heap' 0).next heap' =
        [2, 1].foldlM (fun heap node => nodeRemove heap node) heap' := by
  obtain ⟨runs, iterations⟩ := lists_as_sequences Nat
  have unlinked : Represents (fun _ : Nat => ⟨none, none⟩) (fun _ => none) := ⟨nofun, nofun, nofun, fun _ => rfl⟩
  have first : Step (fun _ : Nat => none) (.init 0) _ none := .init (.inr ⟨rfl, nofun⟩)
  have free : ∀ {nodes : List Nat} {lists : Lists Nat} {x : Nat}, x ≠ 0 → lists.Free x → x ∉ nodes →
      Lists.Free (Function.update lists 0 (some nodes)) x :=
    fun notList free notNew => .update notList free.1 notNew fun head members _ => free.2 head members
  have there : ∀ (nodes : List Nat) (lists : Lists Nat), Function.update lists 0 (some nodes) 0 = some nodes :=
    fun nodes lists => by rw [Function.update_self]
  have freeAll : ∀ x, Lists.Free (fun _ : Nat => none) x := fun _ => ⟨rfl, nofun⟩
  have second := Step.append (there [] fun _ => none) (free (by decide) (freeAll 1) (by decide))
  have third := Step.prepend (there [1] (Function.update (fun _ => none) 0 (some [])))
    (free (by decide) (free (by decide) (freeAll 2) (by decide)) (by decide))
  obtain ⟨heap', performs, represents⟩ := runs _ _ _ _ _ unlinked (.cons first (.cons second (.cons third .nil)))
  have circle := represents.circle (Function.update_self _ _ _)
  exact ⟨heap', performs, iterations _ id _ 0 (removesAtMost_nodeRemove 0) heap' [2, 1] 3 circle (by decide)⟩

end Macros

end GoldenGate.LinkedLists
