import Mathlib.Data.List.Forall2
import SolutionCheck.Relational
import SolutionCheck.Sql.Database
import SolutionCheck.Proofs.Intercalation
import SolutionCheck.Proofs.Tokens

/-!
The statements that make a table, fill it and ask for its columns. Their texts hold the names in quotes and
marks for the values, so their lexemes are known whatever the names are; and from the lexemes alone a reader
finds the statement with these names. Lists are read one member at a time, each up to a comma or to what ends
the list.
-/

namespace SolutionCheck

namespace Sql

open Lexeme

/-- What the members of a list end at: nothing, a comma, a closing bracket or the source of a selection. -/
def Stops (rest : List Lexeme) : Prop :=
  ∀ lexeme ∈ rest.head?, lexeme = .symbol "," ∨ lexeme = .symbol ")" ∨ lexeme = .word "FROM"

theorem stops_here {token : Token} {rest : List Token} (stops : Stops ((token :: rest).map Token.lexeme)) :
    Operator.ofToken? token = none ∧ token.isWord "is" = false ∧ token.isWord "as" = false ∧ token.name? = none := by
  have keyword : fold "FROM" = "from" := by decide +kernel
  obtain shown | shown | shown := stops token.lexeme rfl
  · simp [Operator.ofToken?, Token.isWord, Token.name?, shown, Operator.symbols]
  · simp [Operator.ofToken?, Token.isWord, Token.name?, shown, Operator.symbols]
  · simp [Operator.ofToken?, Token.isWord, Token.name?, shown, keyword, reservedWords]

namespace Expr

theorem continueWithin_of_stops {rest : List Token} (stops : Stops (rest.map Token.lexeme)) (fuel level : Nat)
    (left : Expr) : continueWithin (fuel + 1) level left rest = .ok (left, rest) := by
  cases rest with
  | nil => simp only [continueWithin]
  | cons token rest =>
    obtain ⟨operator, keyword, -, -⟩ := stops_here stops
    simp only [continueWithin, operator, keyword, Bool.false_and, Bool.false_eq_true, if_false]

theorem read_operand {token : Token} {rest : List Token} (stops : Stops (rest.map Token.lexeme)) {e : Expr}
    (operand : ∀ fuel, operandWithin (fuel + 1) (token :: rest) = .ok (e, rest)) :
    read (token :: rest) = .ok (e, rest) := by
  change readWithin (3 * (token :: rest).length + 1 + 1 + 1) 0 (token :: rest) = _
  rw [readWithin, operand]
  exact continueWithin_of_stops stops _ 0 e

theorem read_parameter {token : Token} {rest : List Token} {index : Nat} (shown : token.lexeme = .parameter index)
    (stops : Stops (rest.map Token.lexeme)) : read (token :: rest) = .ok (.parameter index, rest) := by
  refine read_operand stops fun fuel => ?_
  simp only [operandWithin, shown]

theorem read_quotedName {token : Token} {rest : List Token} {name : String}
    (shown : token.lexeme = .quotedName name true) (stops : Stops (rest.map Token.lexeme)) :
    read (token :: rest) = .ok (.name name true token.offset, rest) := by
  refine read_operand stops fun fuel => ?_
  simp only [operandWithin, shown]

end Expr

/-- The item asks for the column of a name in double quotes. -/
def Item.Asks (name : String) (item : Item) : Prop := ∃ offset text, item = .expr (.name name true offset) none text

theorem Item.read_quotedName {token : Token} {rest : List Token} {name : String}
    (shown : token.lexeme = .quotedName name true) (stops : Stops (rest.map Token.lexeme)) :
    ∃ item, read (token :: rest) = .ok (item, rest) ∧ item.Asks name := by
  have star : token.isSymbol "*" = false := by simp [Token.isSymbol, shown]
  have unnamed : readAlias rest = .ok (none, rest) := by
    cases rest with
    | nil => rfl
    | cons next rest =>
      obtain ⟨-, -, keyword, name⟩ := stops_here stops
      simp only [readAlias, keyword, name, Bool.false_eq_true, if_false]
  have whole : read (token :: rest) = .ok (.expr (.name name true token.offset) none
      (Token.spanText ((token :: rest).take ((token :: rest).length - rest.length))), rest) := by
    simp only [read, star, Bool.false_eq_true, if_false, Expr.read_quotedName shown stops, unnamed, bind, Except.bind]
  exact ⟨_, whole, token.offset, _, rfl⟩

section Lists

variable {α β : Type} {reader : List Token → Reading α} {lexeme : β → Lexeme} (R : β → α → Prop)

theorem readListWithin_listed {members : List β} (filled : members ≠ [])
    (reads : ∀ member ∈ members, ∀ token rest, token.lexeme = lexeme member → Stops (rest.map Token.lexeme) →
      ∃ a, reader (token :: rest) = .ok (a, rest) ∧ R member a)
    {after : List Lexeme} (stops : Stops after) (last : after.head? ≠ some (.symbol ","))
    {ts : List Token} (shown : ts.map Token.lexeme = listed (members.map lexeme) ++ after)
    {fuel : Nat} (enough : members.length ≤ fuel) :
    ∃ as rest, readListWithin reader fuel ts = .ok (as, rest) ∧ List.Forall₂ R members as ∧
      rest.map Token.lexeme = after := by
  induction members generalizing ts fuel with
  | nil => exact absurd rfl filled
  | cons member members ih =>
    obtain ⟨fuel, rfl⟩ := Nat.exists_eq_succ_of_ne_zero (n := fuel) (Nat.ne_of_gt (Nat.lt_of_lt_of_le (by simp) enough))
    cases members with
    | nil =>
      rw [List.map_cons, List.map_nil, listed_singleton] at shown
      obtain ⟨token, rest, rfl, isMember, left⟩ := List.map_eq_cons_iff.1 shown
      obtain ⟨a, read, related⟩ := reads member List.mem_cons_self token rest isMember (left ▸ stops)
      refine ⟨[a], rest, ?_, .cons related .nil, left⟩
      rw [readListWithin, read]
      cases rest with
      | nil => rfl
      | cons next rest =>
        have other : next.isSymbol "," = false := by
          rw [Token.isSymbol, beq_eq_false_iff_ne]
          exact fun same => last (left ▸ congrArg some same)
        simp only [bind, Except.bind, other, Bool.false_eq_true, if_false]
    | cons next members =>
      rw [List.map_cons, List.map_cons, listed_cons_cons] at shown
      obtain ⟨token, _, rfl, isMember, tail⟩ := List.map_eq_cons_iff.1 shown
      obtain ⟨comma, ts, rfl, isComma, onwards⟩ := List.map_eq_cons_iff.1 tail
      have stopsThere : Stops ((comma :: ts).map Token.lexeme) := by
        intro lexeme here
        exact .inl (Option.some.inj (here.symm.trans (congrArg some isComma)))
      have goesOn : comma.isSymbol "," = true := by rw [Token.isSymbol, isComma, beq_self_eq_true]
      obtain ⟨a, read, related⟩ := reads member List.mem_cons_self token (comma :: ts) isMember stopsThere
      obtain ⟨as, rest, others, all, left⟩ := ih (List.cons_ne_nil _ _)
        (fun member mem => reads member (List.mem_cons_of_mem _ mem)) onwards (Nat.le_of_succ_le_succ enough)
      refine ⟨a :: as, rest, ?_, .cons related all, left⟩
      rw [readListWithin, read]
      simp only [bind, Except.bind, goesOn, if_true, others]

theorem readList_listed {members : List β} (filled : members ≠ [])
    (reads : ∀ member ∈ members, ∀ token rest, token.lexeme = lexeme member → Stops (rest.map Token.lexeme) →
      ∃ a, reader (token :: rest) = .ok (a, rest) ∧ R member a)
    {after : List Lexeme} (stops : Stops after) (last : after.head? ≠ some (.symbol ","))
    {ts : List Token} (shown : ts.map Token.lexeme = listed (members.map lexeme) ++ after) :
    ∃ as rest, readList reader ts = .ok (as, rest) ∧ List.Forall₂ R members as ∧ rest.map Token.lexeme = after := by
  have enough := length_listed_le (members.map lexeme) after
  rw [← shown, List.length_map, List.length_map] at enough
  exact readListWithin_listed R filled reads stops last shown enough

end Lists

def quoted (names : List String) : List Lexeme := names.map (.quotedName · true)

namespace Statement

theorem readColumnsWithin_listed (before : List String) {columns : List String} (filled : columns ≠ [])
    (distinct : ((before ++ columns).map fold).Nodup) {after : List Lexeme} {ts : List Token}
    (shown : ts.map Token.lexeme = listed (quoted columns) ++ .symbol ")" :: after)
    {fuel : Nat} (enough : columns.length ≤ fuel) :
    ∃ rest, readColumnsWithin fuel before ts = .ok (columns, rest) ∧ rest.map Token.lexeme = after := by
  induction columns generalizing before ts fuel with
  | nil => exact absurd rfl filled
  | cons column columns ih =>
    obtain ⟨fuel, rfl⟩ := Nat.exists_eq_succ_of_ne_zero (n := fuel) (Nat.ne_of_gt (Nat.lt_of_lt_of_le (by simp) enough))
    have unseen : (before.any fun other => fold other == fold column) = false := by
      rw [List.map_append, List.nodup_append] at distinct
      rw [List.any_eq_false]
      intro other mem same
      exact distinct.2.2 _ (List.mem_map_of_mem mem) _ (List.mem_map_of_mem List.mem_cons_self) (eq_of_beq same)
    cases columns with
    | nil =>
      obtain ⟨token, _, rfl, name, tail⟩ := List.map_eq_cons_iff.1 shown
      obtain ⟨bracket, rest, rfl, closing, left⟩ := List.map_eq_cons_iff.1 tail
      refine ⟨rest, ?_, left⟩
      have comma : bracket.isSymbol "," = false := by rw [Token.isSymbol, closing]; rfl
      have closes : bracket.isSymbol ")" = true := by rw [Token.isSymbol, closing]; rfl
      simp [readColumnsWithin, readName, Token.name?, name, comma, closes, unseen, bind, Except.bind]
    | cons next columns =>
      rw [quoted, List.map_cons, List.map_cons, listed_cons_cons] at shown
      obtain ⟨token, _, rfl, name, tail⟩ := List.map_eq_cons_iff.1 shown
      obtain ⟨mark, ts, rfl, between, onwards⟩ := List.map_eq_cons_iff.1 tail
      have comma : mark.isSymbol "," = true := by rw [Token.isSymbol, between]; rfl
      have closes : mark.isSymbol ")" = false := by rw [Token.isSymbol, between]; rfl
      obtain ⟨rest, others, left⟩ := ih (before ++ [column]) (List.cons_ne_nil _ _) (by simpa using distinct)
        onwards (Nat.le_of_succ_le_succ enough)
      refine ⟨rest, ?_, left⟩
      simp [readColumnsWithin, readName, Token.name?, name, comma, closes, unseen, others, bind, Except.bind]

def createLexemes (name : String) (columns : List String) : List Lexeme :=
  .word "CREATE" :: .word "TABLE" :: .quotedName name true :: .symbol "(" ::
    (listed (quoted columns) ++ [.symbol ")"])

def insertLexemes (name : String) (width : Nat) : List Lexeme :=
  .word "INSERT" :: .word "INTO" :: .quotedName name true :: .word "VALUES" :: .symbol "(" ::
    (listed ((List.range width).map .parameter) ++ [.symbol ")"])

def selectLexemes (name : String) (columns : List String) : List Lexeme :=
  .word "SELECT" :: (listed (quoted columns) ++ [.word "FROM", .quotedName name true])

theorem read_createLexemes {name : String} {columns : List String} {ts : List Token}
    (shown : ts.map Token.lexeme = createLexemes name columns) (filled : columns ≠ [])
    (distinct : (columns.map fold).Nodup) (isTaken : String → Bool) : ∃ written offset,
      read isTaken ts = (checkNewName isTaken name written offset).map fun _ => .createTable name columns := by
  have create : fold "CREATE" = "create" := by decide +kernel
  have table : fold "TABLE" = "table" := by decide +kernel
  obtain ⟨first, _, rfl, isFirst, tail⟩ := List.map_eq_cons_iff.1 shown
  obtain ⟨second, _, rfl, isSecond, tail⟩ := List.map_eq_cons_iff.1 tail
  obtain ⟨named, _, rfl, isName, tail⟩ := List.map_eq_cons_iff.1 tail
  obtain ⟨bracket, ts, rfl, opening, tail⟩ := List.map_eq_cons_iff.1 tail
  have enough := length_listed_le (quoted columns) [.symbol ")"]
  rw [← tail, List.length_map, quoted, List.length_map] at enough
  obtain ⟨rest, columnsRead, left⟩ := readColumnsWithin_listed [] filled distinct tail enough
  obtain rfl : rest = [] := List.map_eq_nil_iff.1 left
  refine ⟨named.text, named.offset, ?_⟩
  cases judged : checkNewName isTaken name named.text named.offset <;>
    simp [read, readBody, readCreate, expectWord, readName, Token.isWord, Token.isSymbol, Token.name?, isFirst,
      isSecond, isName, opening, create, table, judged, columnsRead, Except.map, bind, Except.bind]

theorem readRow_listed {width : Nat} (wide : width ≠ 0) {ts : List Token}
    (shown : ts.map Token.lexeme =
      .symbol "(" :: (listed ((List.range width).map Lexeme.parameter) ++ [.symbol ")"])) :
    readRow ts = .ok ((List.range width).map .parameter, []) := by
  obtain ⟨bracket, ts, rfl, opening, tail⟩ := List.map_eq_cons_iff.1 shown
  have marks : ∀ index ∈ List.range width, ∀ token rest, token.lexeme = Lexeme.parameter index →
      Stops (rest.map Token.lexeme) → ∃ e, Expr.read (token :: rest) = .ok (e, rest) ∧ .parameter index = e :=
    fun index _ token rest isMark stops => ⟨_, Expr.read_parameter isMark stops, rfl⟩
  obtain ⟨es, _, row, related, tail⟩ := readList_listed _ (by simpa using wide) marks (by simp [Stops]) (by simp) tail
  obtain ⟨last, _, rfl, closing, tail⟩ := List.map_eq_cons_iff.1 tail
  obtain rfl := List.map_eq_nil_iff.1 tail
  obtain rfl : (List.range width).map Expr.parameter = es := by
    rw [← List.forall₂_eq_eq_eq, List.forall₂_map_left_iff]
    exact related
  simp only [readRow, expectSymbol, Token.isSymbol, opening, closing, row, bind, Except.bind, beq_self_eq_true, if_true]

theorem read_insertLexemes {isTaken : String → Bool} {name : String} {width : Nat} {ts : List Token}
    (shown : ts.map Token.lexeme = insertLexemes name width) (wide : width ≠ 0) :
    read isTaken ts = .ok (.insert name [(List.range width).map .parameter]) := by
  have insert : fold "INSERT" = "insert" := by decide +kernel
  have into : fold "INTO" = "into" := by decide +kernel
  have values : fold "VALUES" = "values" := by decide +kernel
  obtain ⟨first, _, rfl, isFirst, tail⟩ := List.map_eq_cons_iff.1 shown
  obtain ⟨second, _, rfl, isSecond, tail⟩ := List.map_eq_cons_iff.1 tail
  obtain ⟨named, _, rfl, isName, tail⟩ := List.map_eq_cons_iff.1 tail
  obtain ⟨third, _, rfl, isThird, tail⟩ := List.map_eq_cons_iff.1 tail
  obtain rows := readRow_listed wide tail
  simp [read, readBody, readList, readListWithin, expectWord, readName, Token.isWord, Token.name?, isFirst, isSecond,
    isName, isThird, insert, into, values, rows, bind, Except.bind]

/-- The selection of columns by their names from one table, and nothing else. -/
structure Selects (name : String) (columns : List String) (selection : Selection) : Prop where
  items : List.Forall₂ Item.Asks columns selection.items
  plain : selection = ⟨false, selection.items, some name, none, [], [], none⟩

theorem read_selectLexemes {isTaken : String → Bool} {name : String} {columns : List String} {ts : List Token}
    (shown : ts.map Token.lexeme = selectLexemes name columns) (filled : columns ≠ []) :
    ∃ selection, read isTaken ts = .ok (.select selection) ∧ Selects name columns selection := by
  have select : fold "SELECT" = "select" := by decide +kernel
  have source : fold "FROM" = "from" := by decide +kernel
  obtain ⟨first, ts, rfl, isFirst, tail⟩ := List.map_eq_cons_iff.1 shown
  have names : ∀ column ∈ columns, ∀ token rest, token.lexeme = .quotedName column true →
      Stops (rest.map Token.lexeme) → ∃ item, Item.read (token :: rest) = .ok (item, rest) ∧ item.Asks column :=
    fun column _ token rest isName stops => Item.read_quotedName isName stops
  obtain ⟨items, _, read, related, left⟩ := readList_listed Item.Asks filled names (by simp [Stops]) (by simp) tail
  obtain ⟨keyword, _, rfl, isKeyword, left⟩ := List.map_eq_cons_iff.1 left
  obtain ⟨named, _, rfl, isNamed, left⟩ := List.map_eq_cons_iff.1 left
  obtain rfl := List.map_eq_nil_iff.1 left
  refine ⟨⟨false, items, some name, none, [], [], none⟩, ?_, related, rfl⟩
  obtain ⟨column, columns, rfl⟩ := List.exists_cons_of_ne_nil filled
  obtain ⟨more, start⟩ := listed_cons (.quotedName column true) (quoted columns) [.word "FROM", .quotedName name true]
  obtain ⟨token, rest, rfl, isColumn, -⟩ := List.map_eq_cons_iff.1 (tail.trans start)
  have selection : Selection.read (token :: rest) = .ok (⟨false, items, some name, none, [], [], none⟩, []) := by
    simp [Selection.read, Selection.readListBy, Selection.readSource, Item.readAlias, readAfter, readName, Token.isWord,
      Token.name?, isColumn, isKeyword, isNamed, read, source, bind, Except.bind]
  simp [Statement.read, readBody, Token.isWord, isFirst, select, selection, bind, Except.bind]

end Statement

end Sql

namespace Relational

open Sql Lexeme Statement

/-- Names of a table and its columns that a statement can hold and keep apart. -/
structure Writable (name : String) (columns : List String) : Prop where
  distinct : (columns.map fold).Nodup
  whole : '\x00' ∉ name.toList
  wholes : ∀ column ∈ columns, '\x00' ∉ column.toList

def selectText (name : String) (columns : List String) : String :=
  "SELECT " ++ String.intercalate ", " (columns.map quoteName) ++ " FROM " ++ quoteName name

theorem toList_around (first middle last name : String) (words : List String) :
    (first ++ quoteName name ++ middle ++ String.intercalate ", " words ++ last).toList =
      first.toList ++ ((quoteName name).toList ++ (middle.toList ++
        ([',', ' '].intercalate (words.map String.toList) ++ last.toList))) := by
  rw [String.toList_append, String.toList_append, String.toList_append, String.toList_append,
    String.toList_intercalate, List.append_assoc, List.append_assoc, List.append_assoc]
  rfl

theorem toList_behind (first middle name : String) (words : List String) :
    (first ++ String.intercalate ", " words ++ middle ++ quoteName name).toList =
      first.toList ++ ([',', ' '].intercalate (words.map String.toList) ++
        (middle.toList ++ (quoteName name).toList)) := by
  rw [String.toList_append, String.toList_append, String.toList_append, String.toList_intercalate,
    List.append_assoc, List.append_assoc]
  rfl

theorem toList_createText (name : String) (columns : List String) : (createText name columns).toList =
    'C' :: 'R' :: 'E' :: 'A' :: 'T' :: 'E' :: ' ' :: 'T' :: 'A' :: 'B' :: 'L' :: 'E' :: ' ' :: (
      (quoteName name).toList ++ ' ' :: '(' :: (
        [',', ' '].intercalate (columns.map (String.toList ∘ quoteName)) ++ [')'])) := by
  have first : "CREATE TABLE ".toList =
      ['C', 'R', 'E', 'A', 'T', 'E', ' ', 'T', 'A', 'B', 'L', 'E', ' '] := by decide +kernel
  have middle : " (".toList = [' ', '('] := by decide +kernel
  have last : ")".toList = [')'] := by decide +kernel
  have whole : (createText name columns).toList = _ :=
    toList_around "CREATE TABLE " " (" ")" name (columns.map quoteName)
  simpa only [first, middle, last, List.map_map, List.cons_append, List.nil_append] using whole

theorem toList_insertText (name : String) (width : Nat) : (insertText name width).toList =
    'I' :: 'N' :: 'S' :: 'E' :: 'R' :: 'T' :: ' ' :: 'I' :: 'N' :: 'T' :: 'O' :: ' ' :: (
      (quoteName name).toList ++ ' ' :: 'V' :: 'A' :: 'L' :: 'U' :: 'E' :: 'S' :: ' ' :: '(' :: (
        [',', ' '].intercalate ((List.replicate width "?").map String.toList) ++ [')'])) := by
  have first : "INSERT INTO ".toList = ['I', 'N', 'S', 'E', 'R', 'T', ' ', 'I', 'N', 'T', 'O', ' '] := by
    decide +kernel
  have middle : " VALUES (".toList = [' ', 'V', 'A', 'L', 'U', 'E', 'S', ' ', '('] := by decide +kernel
  have last : ")".toList = [')'] := by decide +kernel
  have whole : (insertText name width).toList = _ :=
    toList_around "INSERT INTO " " VALUES (" ")" name (List.replicate width "?")
  simpa only [first, middle, last, List.cons_append, List.nil_append] using whole

theorem toList_selectText (name : String) (columns : List String) : (selectText name columns).toList =
    'S' :: 'E' :: 'L' :: 'E' :: 'C' :: 'T' :: ' ' :: (
      [',', ' '].intercalate (columns.map (String.toList ∘ quoteName)) ++
        ' ' :: 'F' :: 'R' :: 'O' :: 'M' :: ' ' :: (quoteName name).toList) := by
  have first : "SELECT ".toList = ['S', 'E', 'L', 'E', 'C', 'T', ' '] := by decide +kernel
  have middle : " FROM ".toList = [' ', 'F', 'R', 'O', 'M', ' '] := by decide +kernel
  have whole : (selectText name columns).toList = _ :=
    toList_behind "SELECT " " FROM " name (columns.map quoteName)
  simpa only [first, middle, List.map_map, List.cons_append, List.nil_append] using whole

theorem piece_quoted (names : List String) :
    ∀ name ∈ names, Piece (.quotedName name true) ((String.toList ∘ quoteName) name) :=
  fun name _ => piece_quoteName name

theorem scans_createText (name : String) (columns : List String) :
    Scans (createText name columns).toList (createLexemes name columns) := by
  have bracket : Scans [')'] [.symbol ")"] := .sign (by simp) (by simp) rfl .done
  have names := Scans.list (piece_quoted columns) (by simp [Delimited]) bracket
  have opened : Scans ('(' :: _) (.symbol "(" :: _) := .sign (by simp) (by simp) rfl names
  have named := (piece_quoteName name).spaced (by simp [Delimited]) (opened.space ⟨_, rfl, by decide⟩)
  have second : Scans ('T' :: _) (.word "TABLE" :: _) := .keyword ['A', 'B', 'L', 'E'] rfl named
  have first : Scans ('C' :: _) (.word "CREATE" :: _) :=
    .keyword ['R', 'E', 'A', 'T', 'E'] rfl (second.space ⟨_, rfl, by decide⟩)
  rw [toList_createText]
  exact first

theorem scans_insertText (name : String) (width : Nat) :
    Scans (insertText name width).toList (.word "INSERT" :: .word "INTO" :: .quotedName name true :: .word "VALUES" ::
      .symbol "(" :: (listed (List.replicate width (.parameter 0)) ++ [.symbol ")"])) := by
  have bracket : Scans [')'] [.symbol ")"] := .sign (by simp) (by simp) rfl .done
  have mark : ∀ text ∈ List.replicate width "?", Piece (.parameter 0) text.toList := by
    intro text mem
    rw [List.eq_of_mem_replicate mem]
    exact piece_mark
  have marks := Scans.list mark (by simp [Delimited]) bracket
  have opened : Scans ('(' :: _) (.symbol "(" :: _) := .sign (by simp) (by simp) rfl marks
  have third : Scans ('V' :: _) (.word "VALUES" :: _) :=
    .keyword ['A', 'L', 'U', 'E', 'S'] rfl (opened.space ⟨_, rfl, by decide⟩)
  have named := (piece_quoteName name).spaced (by simp [Delimited]) (third.space ⟨_, rfl, by decide⟩)
  have second : Scans ('I' :: _) (.word "INTO" :: _) := .keyword ['N', 'T', 'O'] rfl named
  have first : Scans ('I' :: _) (.word "INSERT" :: _) :=
    .keyword ['N', 'S', 'E', 'R', 'T'] rfl (second.space ⟨_, rfl, by decide⟩)
  rw [List.map_const', List.length_replicate] at first
  rw [toList_insertText]
  exact first

theorem scans_selectText (name : String) {columns : List String} (filled : columns ≠ []) :
    Scans (selectText name columns).toList (selectLexemes name columns) := by
  have named := (piece_quoteName name).spaced (by simp [Delimited]) .done
  have source : Scans ('F' :: _) (.word "FROM" :: _) := .keyword ['R', 'O', 'M'] rfl named
  have names := Scans.list (piece_quoted columns) (by simp [Delimited]) (source.space ⟨_, rfl, by decide⟩)
  have first : Scans ('S' :: _) (.word "SELECT" :: _) :=
    .keyword ['E', 'L', 'E', 'C', 'T'] rfl (names.space ((solid_listed filled (piece_quoted columns)).append _))
  rw [List.append_nil] at first
  rw [toList_selectText]
  exact first

theorem not_mem_quoteName {c : Char} (foreign : c ≠ '"') {name : String} (apart : c ∉ name.toList) :
    c ∉ (quoteName name).toList := by
  rw [toList_quoteName, List.mem_cons, List.mem_append, List.mem_flatMap, List.mem_singleton]
  rintro (quote | ⟨d, mem, same⟩ | quote)
  · exact foreign quote
  · split at same
    · exact foreign (by simpa using same)
    · exact apart (List.mem_singleton.1 same ▸ mem)
  · exact foreign quote

theorem not_mem_quotedNames {c : Char} (foreign : c ≠ '"' ∧ c ≠ ',' ∧ c ≠ ' ') {names : List String}
    (apart : ∀ name ∈ names, c ∉ name.toList) :
    c ∉ [',', ' '].intercalate (names.map (String.toList ∘ quoteName)) := by
  intro mem
  obtain between | ⟨_, within, mem⟩ := mem_intercalate _ mem
  · simp [foreign] at between
  · obtain ⟨name, inside, rfl⟩ := List.mem_map.1 within
    exact not_mem_quoteName foreign.1 (apart name inside) mem

theorem not_mem_selectText {c : Char} (foreign : c = ';' ∨ c = '\x00') {name : String} {columns : List String}
    (apart : c ∉ name.toList) (others : ∀ column ∈ columns, c ∉ column.toList) :
    c ∉ (selectText name columns).toList := by
  have signs : c ≠ '"' ∧ c ≠ ',' ∧ c ≠ ' ' := by obtain rfl | rfl := foreign <;> decide
  have names := not_mem_quotedNames signs others
  have named := not_mem_quoteName signs.1 apart
  rw [toList_selectText]
  simp only [List.mem_cons, List.mem_append, names, named, or_false, false_or]
  obtain rfl | rfl := foreign <;> decide

theorem unmarked_quoted (names : List String) (index : Nat) : .parameter index ∉ listed (quoted names) := by
  intro mem
  obtain comma | named := mem_listed mem
  · cases comma
  · obtain ⟨_, -, same⟩ := List.mem_map.1 named
    cases same

theorem unmarked_selectLexemes (name : String) (columns : List String) (index : Nat) :
    .parameter index ∉ selectLexemes name columns := by
  simp [selectLexemes, unmarked_quoted]

theorem lexemesIn_createText (name : String) (columns : List String) :
    Token.lexemesIn (createText name columns).toList = createLexemes name columns := by
  have unmarked : ∀ index, .parameter index ∉ createLexemes name columns := by
    intro index
    simp [createLexemes, unmarked_quoted]
  rw [Token.lexemesIn_of_scans (scans_createText name columns), Token.numbered_of_unmarked unmarked]

theorem lexemesIn_insertText (name : String) (width : Nat) :
    Token.lexemesIn (insertText name width).toList = insertLexemes name width := by
  rw [Token.lexemesIn_of_scans (scans_insertText name width)]
  simp only [Token.numbered, Token.numbered_listed, insertLexemes, List.range_eq_range']

theorem lexemes_createText {name : String} {columns : List String} (writable : Writable name columns) :
    (Token.tokens (createText name columns)).map Token.lexeme = createLexemes name columns := by
  have names := not_mem_quotedNames (by decide) writable.wholes
  have named := not_mem_quoteName (by decide) writable.whole
  have unbroken : '\x00' ∉ (createText name columns).toList := by
    rw [toList_createText]
    simp [names, named]
  rw [Token.lexemes_tokens unbroken, lexemesIn_createText]

theorem lexemes_insertText (width : Nat) {name : String} (whole : '\x00' ∉ name.toList) :
    (Token.tokens (insertText name width)).map Token.lexeme = insertLexemes name width := by
  have named := not_mem_quoteName (by decide) whole
  have marks : '\x00' ∉ [',', ' '].intercalate ((List.replicate width "?").map String.toList) := by
    intro mem
    obtain between | ⟨_, within, mem⟩ := mem_intercalate _ mem
    · simp at between
    · obtain ⟨text, inside, rfl⟩ := List.mem_map.1 within
      rw [List.eq_of_mem_replicate inside] at mem
      exact absurd mem (by decide)
  have unbroken : '\x00' ∉ (insertText name width).toList := by
    rw [toList_insertText]
    simp only [List.mem_cons, List.mem_append, marks, named, false_or]
    decide
  rw [Token.lexemes_tokens unbroken, lexemesIn_insertText]

theorem lexemes_selectText {name : String} {columns : List String} (writable : Writable name columns)
    (filled : columns ≠ []) :
    (Token.tokens (selectText name columns)).map Token.lexeme = selectLexemes name columns := by
  have unbroken := not_mem_selectText (.inr rfl) writable.whole writable.wholes
  rw [Token.lexemes_tokens unbroken, Token.lexemesIn_of_scans (scans_selectText name filled),
    Token.numbered_of_unmarked (unmarked_selectLexemes name columns)]

end Relational

end SolutionCheck
