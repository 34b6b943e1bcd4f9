import Mathlib.Data.List.Basic
import SolutionCheck.Text.Lines

/-!
Lines of a text that is put together from pieces. A piece without a line feed is one line, whatever ends it,
and a carriage return at its end is all that reading may take from it.
-/

namespace SolutionCheck.Text

theorem dropFinal_of_not_mem {c : Char} {cs : List Char} (apart : c ∉ cs) : dropFinal c cs = cs := by
  rw [dropFinal, if_neg]
  exact fun last => apart (List.mem_of_getLast? last)

theorem dropFinal_concat (c : Char) (cs : List Char) : dropFinal c (cs ++ [c]) = cs := by
  rw [dropFinal, List.getLast?_concat, if_pos rfl, List.dropLast_concat]

theorem dropFinal_append {c : Char} {before : List Char} (apart : c ∉ before) (cs : List Char) :
    dropFinal c (before ++ cs) = before ++ dropFinal c cs := by
  cases cs with
  | nil => rw [List.append_nil, dropFinal_of_not_mem apart, dropFinal_of_not_mem List.not_mem_nil, List.append_nil]
  | cons d cs =>
    rw [dropFinal, dropFinal, List.getLast?_append_cons, List.dropLast_append_of_ne_nil (List.cons_ne_nil d cs),
      apply_ite (before ++ ·)]

theorem mem_of_mem_dropFinal {c d : Char} {cs : List Char} (mem : d ∈ dropFinal c cs) : d ∈ cs := by
  rw [dropFinal] at mem
  split at mem
  · exact List.dropLast_subset cs mem
  · exact mem

theorem endLines_cons (piece : List Char) {rest : List (List Char)} (further : rest ≠ []) :
    endLines (piece :: rest) = dropFinal '\r' piece :: endLines rest := by
  obtain ⟨next, rest, rfl⟩ := List.exists_cons_of_ne_nil further
  rfl

theorem mem_endLines {pieces : List (List Char)} {line : List Char} (mem : line ∈ endLines pieces) :
    ∃ piece ∈ pieces, line = piece ∨ line = dropFinal '\r' piece := by
  induction pieces with
  | nil => exact absurd mem List.not_mem_nil
  | cons piece rest ih =>
    by_cases last : rest = []
    · subst last
      rw [endLines] at mem
      split at mem
      · exact absurd mem List.not_mem_nil
      · exact ⟨piece, List.mem_cons_self, .inl (List.mem_singleton.1 mem)⟩
    · rw [endLines_cons piece last, List.mem_cons] at mem
      obtain rfl | later := mem
      · exact ⟨piece, List.mem_cons_self, .inr rfl⟩
      · obtain ⟨other, inside, same⟩ := ih later
        exact ⟨other, List.mem_cons_of_mem piece inside, same⟩

theorem lines_append_cons {piece : List Char} (whole : '\n' ∉ piece) (rest : List Char) :
    lines (piece ++ '\n' :: rest) = dropFinal '\r' piece :: lines rest := by
  rw [lines, List.splitOn_append_cons_self_of_not_mem whole, endLines_cons _ (List.splitOn_ne_nil _ _), lines]

theorem lines_of_not_mem {line : List Char} (whole : '\n' ∉ line) : lines line = if line = [] then [] else [line] := by
  rw [lines, List.splitOn_eq_singleton whole, endLines]
  simp only [List.isEmpty_iff]

theorem lines_flatMap_feed {pieces : List (List Char)} (whole : ∀ piece ∈ pieces, '\n' ∉ piece) :
    lines (pieces.flatMap (· ++ ['\n'])) = pieces.map (dropFinal '\r') := by
  induction pieces with
  | nil => rfl
  | cons piece rest ih =>
    obtain ⟨here, others⟩ := List.forall_mem_cons.1 whole
    rw [List.flatMap_cons, List.append_assoc, List.singleton_append, lines_append_cons here, ih others, List.map_cons]

theorem lines_intercalate {pieces : List (List Char)} (whole : ∀ piece ∈ pieces, '\n' ∉ piece)
    (bare : ∀ piece ∈ pieces, piece.getLast? ≠ some '\r') (ended : pieces.getLast? ≠ some []) :
    lines (['\n'].intercalate pieces) = pieces := by
  induction pieces with
  | nil => rfl
  | cons piece rest ih =>
    obtain ⟨here, others⟩ := List.forall_mem_cons.1 whole
    obtain ⟨plain, further⟩ := List.forall_mem_cons.1 bare
    cases rest with
    | nil =>
      rw [List.intercalate_singleton, lines_of_not_mem here, if_neg]
      rintro rfl
      exact ended rfl
    | cons next rest =>
      have last : (next :: rest).getLast? ≠ some [] := by rwa [List.getLast?_cons_cons] at ended
      rw [List.intercalate_cons_cons, List.append_assoc, List.singleton_append, lines_append_cons here,
        ih others further last, dropFinal, if_neg plain]

theorem not_mem_of_mem_splitOn {c : Char} {cs piece : List Char} (mem : piece ∈ cs.splitOn c) : c ∉ piece := by
  induction cs generalizing piece with
  | nil =>
    rw [List.splitOn_nil, List.mem_singleton] at mem
    exact mem ▸ List.not_mem_nil
  | cons d cs ih =>
    rw [List.splitOn_cons_eq_if_modifyHead] at mem
    split at mem
    · obtain rfl | later := List.mem_cons.1 mem
      · exact List.not_mem_nil
      · exact ih later
    · next other =>
      obtain ⟨first, rest, pieces⟩ := List.exists_cons_of_ne_nil (List.splitOn_ne_nil c cs)
      rw [pieces, List.modifyHead_cons, List.mem_cons] at mem
      obtain rfl | later := mem
      · have apart : c ∉ first := ih (pieces ▸ List.mem_cons_self)
        simpa [apart] using fun same => other (beq_iff_eq.2 same.symm)
      · exact ih (pieces ▸ List.mem_cons_of_mem first later)

theorem not_mem_of_mem_lines {cs line : List Char} (mem : line ∈ lines cs) : '\n' ∉ line := by
  obtain ⟨piece, inside, rfl | rfl⟩ := mem_endLines mem
  · exact not_mem_of_mem_splitOn inside
  · exact fun feed => not_mem_of_mem_splitOn inside (mem_of_mem_dropFinal feed)

end SolutionCheck.Text
