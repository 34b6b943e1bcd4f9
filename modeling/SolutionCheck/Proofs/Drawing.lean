import Mathlib.Data.List.TakeWhile
import Mathlib.Order.Bounds.Basic
import Mathlib.Order.MinMax
import SolutionCheck.Table.Drawing
import SolutionCheck.Proofs.Intercalation
import SolutionCheck.Proofs.NumberText
import SolutionCheck.Proofs.TextLines

/-!
The drawing of a table. Every line but the last consists of one piece for each column, each as wide as the
longest text of its column, with three characters between two pieces. So the bars of all lines stand below
each other, with a cross below them in the rule, and the texts of a column begin at one place. Cutting off
the blanks at the end of a line takes no bar away and no more of a text than blanks.
-/

namespace SolutionCheck

namespace Table

def textPlace (widths : List Nat) (index : Nat) : Nat := (widths.take index).sum + 3 * index

/-- Where the bar in front of a column stands in a line. -/
def barPlace (widths : List Nat) (index : Nat) : Nat := (widths.take index).sum + 3 * (index - 1) + 1

/-- Each column has the width of the longest text among its name and its displayed cells. -/
structure Widest (t : Table) (widths : List Nat) : Prop where
  size : widths.length = t.columns.length
  widest : ∀ (index width : Nat) (name : String), widths[index]? = some width → t.columns[index]? = some name →
    IsGreatest {length | length = name.length ∨ ∃ row ∈ t.rows, ∃ cell : Cell, row[index]? = some cell ∧
      length = cell.display.length} width

/-- The bars of a drawn line stand in front of their columns, and behind a number of blanks that was cut off at
its end every text stands at the place of its column. -/
structure Aligned (widths : List Nat) (texts : List (List Char)) (drawn : List Char) : Prop where
  bars : ∀ index, 0 < index → index < widths.length → drawn[barPlace widths index]? = some '|'
  texts : ∃ blanks, (∀ c ∈ blanks, Text.isBlank c = true) ∧ ∀ index text, texts[index]? = some text →
    text <+: (drawn ++ blanks).drop (textPlace widths index)

end Table

theorem isGreatest_foldl_max {α : Type} (f : α → Nat) (xs : List α) (start : Nat) :
    IsGreatest {n | n = start ∨ ∃ x ∈ xs, n = f x} (xs.foldl (fun width x => max width (f x)) start) := by
  induction xs generalizing start with
  | nil => exact ⟨.inl rfl, by rintro n (rfl | ⟨x, mem, -⟩); exacts [le_refl _, absurd mem List.not_mem_nil]⟩
  | cons x xs ih =>
    rw [List.foldl_cons]
    obtain ⟨reached, bound⟩ := ih (max start (f x))
    have above : max start (f x) ≤ xs.foldl (fun width x => max width (f x)) (max start (f x)) := bound (.inl rfl)
    constructor
    · obtain here | ⟨y, mem, there⟩ := reached
      · rcases max_choice start (f x) with first | second
        · exact .inl (here.trans first)
        · exact .inr ⟨x, List.mem_cons_self, here.trans second⟩
      · exact .inr ⟨y, List.mem_cons_of_mem x mem, there⟩
    · rintro n (rfl | ⟨y, mem, rfl⟩)
      · exact (le_max_left _ _).trans above
      · rcases List.mem_cons.1 mem with rfl | mem
        · exact (le_max_right _ _).trans above
        · exact bound (.inr ⟨y, mem, rfl⟩)

namespace Text

theorem exists_trimEnd_append (cs : List Char) :
    ∃ blanks, (∀ c ∈ blanks, isBlank c = true) ∧ trimEnd cs ++ blanks = cs := by
  refine ⟨(cs.reverse.takeWhile isBlank).reverse, fun c mem => ?_, ?_⟩
  · exact List.mem_takeWhile_imp (List.mem_reverse.1 mem)
  · rw [trimEnd, ← List.reverse_append, List.takeWhile_append_dropWhile, List.reverse_reverse]

theorem isBlank_getLast?_trimEnd {cs : List Char} {c : Char} (last : (trimEnd cs).getLast? = some c) :
    isBlank c = false := by
  rw [trimEnd, List.getLast?_reverse] at last
  have solid := List.head?_dropWhile_not isBlank cs.reverse
  rwa [last] at solid

theorem getElem?_trimEnd {cs : List Char} {index : Nat} {c : Char} (here : cs[index]? = some c)
    (solid : isBlank c = false) : (trimEnd cs)[index]? = some c := by
  obtain ⟨blanks, blank, whole⟩ := exists_trimEnd_append cs
  rw [← whole] at here
  by_cases within : index < (trimEnd cs).length
  · rwa [List.getElem?_append_left within] at here
  · rw [List.getElem?_append_right (Nat.le_of_not_lt within)] at here
    rw [blank c (List.mem_of_getElem? here)] at solid
    cases solid

end Text

namespace Table

theorem length_padEnd {width : Nat} {text : List Char} (fits : text.length ≤ width) :
    (padEnd width text).length = width := by
  rw [padEnd, List.length_append, List.length_replicate, Nat.add_sub_cancel' fits]

theorem map_length_padEnd {widths : List Nat} {texts : List (List Char)}
    (fits : List.Forall₂ (fun width text => text.length ≤ width) widths texts) :
    (List.zipWith padEnd widths texts).map List.length = widths := by
  induction fits with
  | nil => rfl
  | cons here _ ih => rw [List.zipWith_cons_cons, List.map_cons, length_padEnd here, ih]

theorem aligned_drawLine {widths : List Nat} {texts : List (List Char)}
    (fits : List.Forall₂ (fun width text => text.length ≤ width) widths texts) :
    Aligned widths texts (drawLine widths texts) where
  bars := by
    intro index positive within
    obtain ⟨before, rfl⟩ := Nat.exists_eq_succ_of_ne_zero (Nat.ne_of_gt positive)
    have count : (List.zipWith padEnd widths texts).length = widths.length := by
      rw [← List.length_map List.length, map_length_padEnd fits]
    have bar := getElem?_intercalate [' ', '|', ' '] (count.symm ▸ within) (show 1 < 3 by decide)
    rw [map_length_padEnd fits] at bar
    exact Text.getElem?_trimEnd bar (by decide)
  texts := by
    obtain ⟨blanks, blank, whole⟩ :=
      Text.exists_trimEnd_append ([' ', '|', ' '].intercalate (List.zipWith padEnd widths texts))
    refine ⟨blanks, blank, fun index text here => ?_⟩
    obtain ⟨inside, rfl⟩ := List.getElem?_eq_some_iff.1 here
    have count : widths.length = texts.length := fits.length_eq
    have within : index < (List.zipWith padEnd widths texts).length := by
      rw [List.length_zipWith]
      omega
    have onward := drop_intercalate [' ', '|', ' '] within
    rw [map_length_padEnd fits] at onward
    rw [drawLine, whole, textPlace]
    change texts[index] <+: List.drop ((widths.take index).sum + [' ', '|', ' '].length * index) _
    rw [onward, List.drop_eq_getElem_cons within, List.getElem_zipWith]
    exact (List.prefix_append _ _).trans (prefix_intercalate _ _ _)

theorem widest_widths {t : Table} (wide : t.WellFormed) : t.Widest t.widths where
  size := by rw [widths, List.length_mapIdx]
  widest := by
    intro index width name here named
    have greatest := isGreatest_foldl_max (fun texts => (texts.getD index []).length) t.texts name.toList.length
    have computed : width = columnWidth t.texts index name := by
      rw [widths, List.getElem?_mapIdx, named, Option.map_some, Option.some.injEq] at here
      exact here.symm
    have inside : index < t.columns.length := (List.getElem?_eq_some_iff.1 named).1
    rw [computed, columnWidth]
    convert greatest using 1
    ext length
    refine or_congr (by rw [String.length_toList]) ?_
    simp only [texts, List.mem_map, exists_exists_and_eq_and]
    refine exists_congr fun row => and_congr_right fun mem => ?_
    have within : index < row.length := (wide row mem).symm ▸ inside
    simp [within, eq_comm, ← String.length_toList]

theorem Widest.fits_names {t : Table} {widths : List Nat} (widest : t.Widest widths) :
    List.Forall₂ (fun width text => text.length ≤ width) widths (t.columns.map String.toList) := by
  refine List.forall₂_iff_get.2 ⟨widest.size.trans (List.length_map _).symm, fun index here there => ?_⟩
  have within : index < t.columns.length := widest.size ▸ here
  have greatest := widest.widest index _ _ (List.getElem?_eq_getElem here) (List.getElem?_eq_getElem within)
  simpa [← String.length_toList] using greatest.2 (.inl rfl)

theorem Widest.fits_row {t : Table} {widths : List Nat} (widest : t.Widest widths) {row : Row}
    (mem : row ∈ t.rows) (wide : row.length = t.columns.length) :
    List.Forall₂ (fun width text => text.length ≤ width) widths (row.map fun cell => cell.display.toList) := by
  have size : widths.length = row.length := widest.size.trans wide.symm
  refine List.forall₂_iff_get.2 ⟨size.trans (List.length_map _).symm, fun index here there => ?_⟩
  have within : index < t.columns.length := widest.size ▸ here
  have inside : index < row.length := size ▸ here
  have greatest := widest.widest index _ _ (List.getElem?_eq_getElem here) (List.getElem?_eq_getElem within)
  have bound := greatest.2 (.inr ⟨row, mem, row[index], List.getElem?_eq_getElem inside, rfl⟩)
  simpa [← String.length_toList] using bound

theorem length_drawRule {widths : List Nat} (filled : widths ≠ []) :
    (drawRule widths).length = widths.sum + 3 * (widths.length - 1) := by
  rw [drawRule, length_intercalate _ (by simpa using filled), List.map_map, List.length_map]
  simp [Function.comp_def]

theorem getElem?_drawRule {widths : List Nat} {index : Nat} (positive : 0 < index)
    (within : index < widths.length) : (drawRule widths)[barPlace widths index]? = some '+' := by
  obtain ⟨before, rfl⟩ := Nat.exists_eq_succ_of_ne_zero (Nat.ne_of_gt positive)
  have inside : before + 1 < (widths.map fun width => List.replicate width '-').length := by simpa using within
  have cross := getElem?_intercalate ['-', '+', '-'] inside (show 1 < 3 by decide)
  simpa [Function.comp_def, drawRule, barPlace] using cross

theorem not_mem_drawLine (widths : List Nat) {texts : List (List Char)} {c : Char} (blank : c ≠ ' ') (bar : c ≠ '|')
    (apart : ∀ text ∈ texts, c ∉ text) : c ∉ drawLine widths texts := by
  intro mem
  obtain ⟨blanks, -, whole⟩ :=
    Text.exists_trimEnd_append ([' ', '|', ' '].intercalate (List.zipWith padEnd widths texts))
  have inside : c ∈ [' ', '|', ' '].intercalate (List.zipWith padEnd widths texts) :=
    whole ▸ List.mem_append_left blanks mem
  obtain between | ⟨piece, within, inside⟩ := mem_intercalate _ inside
  · simp [blank, bar] at between
  · rw [← List.map_uncurry_zip_eq_zipWith] at within
    obtain ⟨⟨width, text⟩, paired, rfl⟩ := List.mem_map.1 within
    obtain shown | padded := List.mem_append.1 inside
    · exact apart text (List.of_mem_zip paired).2 shown
    · exact blank (List.eq_of_mem_replicate padded)

theorem getLast?_drawLine (widths : List Nat) (texts : List (List Char)) :
    (drawLine widths texts).getLast? ≠ some '\r' := by
  intro last
  cases Text.isBlank_getLast?_trimEnd last

theorem not_mem_drawRule (widths : List Nat) {c : Char} (dash : c ≠ '-') (cross : c ≠ '+') : c ∉ drawRule widths := by
  intro mem
  obtain between | ⟨piece, within, inside⟩ := mem_intercalate _ mem
  · simp [dash, cross] at between
  · obtain ⟨width, -, rfl⟩ := List.mem_map.1 within
    exact dash (List.eq_of_mem_replicate inside)

def countLine (n : Nat) : List Char := '(' :: Nat.toDigits 10 n ++ " rows)".toList

theorem drawing_eq (t : Table) : t.drawing = drawLine t.widths (t.columns.map String.toList) ::
    drawRule t.widths :: t.texts.map (drawLine t.widths) ++ [countLine t.size] := by
  rw [drawing]
  simp [countLine, natText, String.toList_append]

theorem not_mem_countLine (n : Nat) : '\n' ∉ countLine n := by
  simp only [countLine, List.mem_append, List.mem_cons, not_or]
  refine ⟨⟨by decide, fun mem => ?_⟩, by decide⟩
  cases isDigit_of_mem mem

theorem getLast?_countLine (n : Nat) : (countLine n).getLast? = some ')' := by
  rw [countLine, List.getLast?_append]
  rfl

theorem lines_draw {t : Table} (names : ∀ name ∈ t.columns, '\n' ∉ name.toList)
    (cells : ∀ row ∈ t.rows, ∀ cell ∈ row, '\n' ∉ cell.display.toList) :
    Text.lines t.draw.toList = t.drawing := by
  have shown : ∀ texts ∈ t.texts, ∀ text ∈ texts, '\n' ∉ text := by
    simpa [texts] using cells
  have named : ∀ text ∈ t.columns.map String.toList, '\n' ∉ text := by
    simpa using names
  rw [draw, String.toList_ofList, drawing_eq]
  refine Text.lines_intercalate (fun piece mem => ?_) (fun piece mem => ?_) ?_
  · simp only [List.cons_append, List.mem_cons, List.mem_append, List.mem_map, List.not_mem_nil, or_false] at mem
    obtain rfl | rfl | ⟨texts, mem, rfl⟩ | rfl := mem
    · exact not_mem_drawLine t.widths (by decide) (by decide) named
    · exact not_mem_drawRule t.widths (by decide) (by decide)
    · exact not_mem_drawLine t.widths (by decide) (by decide) (shown texts mem)
    · exact not_mem_countLine t.size
  · simp only [List.cons_append, List.mem_cons, List.mem_append, List.mem_map, List.not_mem_nil, or_false] at mem
    obtain rfl | rfl | ⟨texts, mem, rfl⟩ | rfl := mem
    · exact getLast?_drawLine _ _
    · exact fun last => not_mem_drawRule t.widths (by decide) (by decide) (List.mem_of_getLast? last)
    · exact getLast?_drawLine _ _
    · simp [getLast?_countLine]
  · rw [List.getLast?_concat]
    simp [countLine]

end Table

end SolutionCheck
