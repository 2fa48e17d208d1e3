import Mathlib.Data.List.Basic
import Mathlib.Data.List.Infix

/-! # Segments

A text is compared with a list of segments, of which the first ones make up the text when they are
joined by separators. When none of them has a separator in it, they are the pieces that the text is
split into.
-/

namespace GoldenGate.Segments

variable {α : Type} [DecidableEq α] (sep : α)

/-- The text is a run of the first segments, joined by separators. -/
def IsRun (segments : List (List α)) (text : List α) : Prop :=
  ∃ run, run ≠ [] ∧ run <+: segments ∧ [sep].intercalate run = text

/-- A run whose segments have no separators in them. -/
def IsPlainRun (segments : List (List α)) (text : List α) : Prop :=
  ∃ run, run ≠ [] ∧ run <+: segments ∧ [sep].intercalate run = text ∧ ∀ segment ∈ run, sep ∉ segment

/-- The comparison of a text with segments, one after the other, that ends where the text ends. -/
def walk : List α → List (List α) → Bool
  | _, [] => false
  | text, segment :: segments =>
      segment.isPrefixOf text &&
        match text.drop segment.length with
        | [] => true
        | c :: rest => c = sep && walk rest segments

theorem walk_iff {text : List α} {segments : List (List α)} : walk sep text segments = true ↔ IsRun sep segments text := by
  induction segments generalizing text with
  | nil =>
      constructor
      · exact nofun
      · rintro ⟨run, some, within, -⟩
        exact absurd (List.prefix_nil.mp within) some
  | cons segment segments ih =>
      rw [walk, Bool.and_eq_true, List.isPrefixOf_iff_prefix]
      constructor
      · rintro ⟨⟨rest, rfl⟩, goesOn⟩
        rw [List.drop_left] at goesOn
        cases rest with
        | nil => exact ⟨[segment], List.cons_ne_nil _ _, List.prefix_cons_inj segment |>.mpr List.nil_prefix, by simp⟩
        | cons c rest =>
            rw [Bool.and_eq_true, decide_eq_true_eq] at goesOn
            obtain ⟨rfl, walks⟩ := goesOn
            obtain ⟨run, some, within, rfl⟩ := ih.mp walks
            refine ⟨segment :: run, List.cons_ne_nil _ _, List.prefix_cons_inj segment |>.mpr within, ?_⟩
            rw [List.intercalate_cons_of_ne_nil some, List.append_assoc]
            rfl
      · rintro ⟨run, some, within, rfl⟩
        cases run with
        | nil => exact absurd rfl some
        | cons first run =>
            obtain ⟨rfl, others⟩ := List.cons_prefix_cons.mp within
            cases run with
            | nil => simp
            | cons second run =>
                have walks := ih.mpr ⟨second :: run, List.cons_ne_nil _ _, others, rfl⟩
                rw [List.intercalate_cons_of_ne_nil (List.cons_ne_nil _ _), List.append_assoc]
                exact ⟨List.prefix_append _ _, by simp [walks]⟩

instance (segments : List (List α)) (text : List α) : Decidable (IsRun sep segments text) :=
  decidable_of_iff _ (walk_iff sep)

theorem not_mem_splitOn {text segment : List α} (member : segment ∈ text.splitOn sep) : sep ∉ segment := by
  induction text generalizing segment with
  | nil =>
      rw [List.splitOn_nil, List.mem_singleton] at member
      rw [member]
      exact List.not_mem_nil
  | cons c text ih =>
      rw [List.splitOn_cons_eq_if_modifyHead] at member
      cases pieces : text.splitOn sep with
      | nil => exact absurd pieces (List.splitOn_ne_nil sep text)
      | cons first others =>
          rw [pieces] at member ih
          by_cases same : c = sep
          · rw [if_pos (beq_iff_eq.mpr same)] at member
            cases member with
            | head => exact List.not_mem_nil
            | tail _ member => exact ih member
          · rw [if_neg (mt beq_iff_eq.mp same), List.modifyHead_cons] at member
            cases member with
            | head =>
                rw [List.mem_cons, not_or]
                exact ⟨Ne.symm same, ih List.mem_cons_self⟩
            | tail _ member => exact ih (List.mem_cons_of_mem _ member)

/-- There are at least as many pieces of a text as segments that it was joined from. -/
theorem length_le_splitOn {run : List (List α)} : run.length ≤ (([sep].intercalate run).splitOn sep).length := by
  induction run with
  | nil => exact Nat.zero_le _
  | cons segment run ih =>
      have piece (text : List α) : 1 ≤ (text.splitOn sep).length :=
        List.length_pos_iff.mpr (List.splitOn_ne_nil sep text)
      cases run with
      | nil => exact piece _
      | cons second run =>
          have joined : [sep].intercalate (segment :: second :: run) =
              segment ++ sep :: [sep].intercalate (second :: run) := by
            rw [List.intercalate_cons_of_ne_nil (List.cons_ne_nil _ _), List.append_assoc]
            rfl
          have first := piece segment
          rw [joined, List.splitOn_append_cons_of_beq _ _ (beq_self_eq_true sep), List.length_append]
          simp only [List.length_cons] at ih ⊢
          omega

/-- Only as many segments count as the text has pieces. -/
theorem isRun_take {segments : List (List α)} {text : List α} {n : Nat} (enough : (text.splitOn sep).length ≤ n) :
    IsRun sep (segments.take n) text ↔ IsRun sep segments text := by
  constructor
  · rintro ⟨run, some, within, joined⟩
    exact ⟨run, some, within.trans (List.take_prefix _ _), joined⟩
  · rintro ⟨run, some, within, rfl⟩
    have few : run.length ≤ (([sep].intercalate run).splitOn sep).length := length_le_splitOn sep
    exact ⟨run, some, List.prefix_take_iff.mpr ⟨within, few.trans enough⟩, rfl⟩

/-- The pieces of a text are the plain run that it was joined from. -/
theorem splitOn_prefix_iff {segments : List (List α)} {text : List α} :
    text.splitOn sep <+: segments ↔ IsPlainRun sep segments text := by
  constructor
  · intro within
    exact ⟨text.splitOn sep, List.splitOn_ne_nil _ _, within, List.intercalate_splitOn sep,
      fun _ member => not_mem_splitOn sep member⟩
  · rintro ⟨run, some, within, rfl, plain⟩
    rwa [List.splitOn_intercalate sep plain some]

omit [DecidableEq α] in
theorem IsPlainRun.isRun {segments : List (List α)} {text : List α} (plain : IsPlainRun sep segments text) :
    IsRun sep segments text := by
  obtain ⟨run, some, within, joined, -⟩ := plain
  exact ⟨run, some, within, joined⟩

/-! ## Terminated texts

A text may end with a separator or without one. Its pieces are those that a separator ends, and the
last one that the end of the text ends.
-/

/-- The text without the separator that it ends with, if there is one. -/
def unterminated (text : List α) : List α :=
  if text.getLast? = some sep then text.dropLast else text

/-- The pieces of a text. The empty text has none. -/
def pieces (text : List α) : List (List α) :=
  if text = [] then [] else (unterminated sep text).splitOn sep

@[simp] theorem pieces_nil : pieces sep [] = [] := rfl

theorem pieces_single {piece : List α} (some_ : piece ≠ []) (plain : sep ∉ piece) : pieces sep piece = [piece] := by
  have other : piece.getLast? ≠ some sep := fun last => plain (List.mem_of_getLast? last)
  simp [pieces, unterminated, some_, other, List.splitOn_eq_singleton plain]

theorem unterminated_append (piece : List α) {rest : List α} (some_ : rest ≠ []) :
    unterminated sep (piece ++ sep :: rest) = piece ++ sep :: unterminated sep rest := by
  have last : (piece ++ sep :: rest).getLast? = rest.getLast? := by
    rw [List.getLast?_append_of_ne_nil _ (List.cons_ne_nil _ _), List.getLast?_cons_of_ne_nil some_]
  unfold unterminated
  rw [last]
  split
  · rw [List.dropLast_append_of_ne_nil (List.cons_ne_nil _ _), List.dropLast_cons_of_ne_nil some_]
  · rfl

theorem pieces_append {piece : List α} (plain : sep ∉ piece) (rest : List α) :
    pieces sep (piece ++ sep :: rest) = piece :: pieces sep rest := by
  cases rest with
  | nil => simp [pieces, unterminated, List.splitOn_eq_singleton plain]
  | cons c rest =>
      have some_ : c :: rest ≠ [] := List.cons_ne_nil c rest
      simp only [pieces, unterminated_append sep piece some_, some_, List.append_eq_nil_iff, and_false,
        reduceCtorEq, if_false]
      exact List.splitOn_append_cons_self_of_not_mem plain _

/-- The first piece of a text, and what comes after its separator. -/
theorem exists_piece {text : List α} (some_ : text ≠ []) :
    ∃ piece tail rest, sep ∉ piece ∧ text = piece ++ tail ∧ (tail = [] ∧ rest = [] ∨ tail = sep :: rest) ∧
      rest.length < text.length ∧ pieces sep text = piece :: pieces sep rest := by
  by_cases member : sep ∈ text
  · obtain ⟨piece, rest, rfl, plain⟩ := List.eq_append_cons_of_mem member
    have shorter : rest.length < (piece ++ sep :: rest).length := by
      rw [List.length_append, List.length_cons]
      omega
    exact ⟨piece, sep :: rest, rest, plain, rfl, .inr rfl, shorter, pieces_append sep plain rest⟩
  · exact ⟨text, [], [], member, by simp, .inl ⟨rfl, rfl⟩, List.length_pos_iff.mpr some_, pieces_single sep some_ member⟩

theorem not_mem_pieces {text piece : List α} (member : piece ∈ pieces sep text) : sep ∉ piece := by
  unfold pieces at member
  split at member
  · cases member
  · exact not_mem_splitOn sep member

theorem intercalate_pieces (text : List α) : [sep].intercalate (pieces sep text) = unterminated sep text := by
  unfold pieces
  split
  · subst text
    rfl
  · exact List.intercalate_splitOn sep

end GoldenGate.Segments
