import SolutionCheck.Proofs.Statements

/-!
Names in double quotes stay inside them. Reading such a name ends at the first quote that no other follows,
and as every quote of a name is written twice this is the closing one, unless a quote stands behind it. In the
statements that make a table and fill it a blank, a comma or a bracket stands there, so the only names found
in them are those of the table and its columns.
-/

namespace SolutionCheck

namespace Sql.Lexeme

/-- Behind an opening quote stand the name and then the rest. Two adjacent quotes stand for one of the name,
and the first quote that no other follows ends it. -/
inductive Closes : (text name rest : List Char) → Prop
  | quote {rest : List Char} (alone : rest.head? ≠ some '"') : Closes ('"' :: rest) [] rest
  | pair {text name rest : List Char} : Closes text name rest → Closes ('"' :: '"' :: text) ('"' :: name) rest
  | other {c : Char} (plain : c ≠ '"') {text name rest : List Char} :
      Closes text name rest → Closes (c :: text) (c :: name) rest

def Quotes (text name rest : List Char) : Prop := ∃ inside, text = '"' :: inside ∧ Closes inside name rest

theorem Closes.ne_nil {text name rest : List Char} (closes : Closes text name rest) : text ≠ [] := by
  cases closes <;> exact List.cons_ne_nil _ _

theorem Closes.quotedBody {text name rest : List Char} (closes : Closes text name rest) :
    quotedBody '"' text = some (name, rest) := by
  induction closes with
  | quote alone => exact quotedBody_quote alone
  | pair _ ih => rw [quotedBody_pair, ih, Option.map_some]
  | other plain closes ih => rw [quotedBody_cons plain closes.ne_nil, ih, Option.map_some]

theorem closes_of_quotedBody {text name rest : List Char} (found : quotedBody '"' text = some (name, rest)) :
    Closes text name rest := by
  -- the recursion keeps a last character apart from one in front of others, which the rule does not
  induction text using quotedBody.induct '"' generalizing name with
  | case1 => cases found
  | case2 =>
    rw [quotedBody_quote (by simp)] at found
    cases found
    exact .quote (by simp)
  | case3 c plain => simp [quotedBody, plain] at found
  | case4 c d text plain ih =>
    rw [quotedBody_cons plain (List.cons_ne_nil d text), Option.map_eq_some_iff] at found
    obtain ⟨⟨body, after⟩, read, same⟩ := found
    cases same
    exact .other plain (ih read)
  | case5 c text quote ih =>
    obtain rfl := not_not.1 quote
    rw [quotedBody_pair, Option.map_eq_some_iff] at found
    obtain ⟨⟨body, after⟩, read, same⟩ := found
    cases same
    exact .pair (ih read)
  | case6 c d text quote further =>
    obtain rfl := not_not.1 quote
    have alone : (d :: text).head? ≠ some '"' := fun same => further (Option.some.inj same)
    rw [quotedBody_quote alone] at found
    cases found
    exact .quote alone

theorem quotedBody_eq_some_iff {text name rest : List Char} :
    quotedBody '"' text = some (name, rest) ↔ Closes text name rest :=
  ⟨closes_of_quotedBody, Closes.quotedBody⟩

theorem quotes_cons_iff {inside name rest : List Char} : Quotes ('"' :: inside) name rest ↔ Closes inside name rest := by
  simp only [Quotes, List.cons.injEq, true_and, exists_eq_left']

theorem quotes_quoteName_iff (name : String) (rest : List Char) (apart : rest.head? ≠ some '"')
    (body left : List Char) :
    Quotes ((quoteName name).toList ++ rest) body left ↔ body = name.toList ∧ left = rest := by
  rw [toList_quoteName, List.cons_append, List.append_assoc, List.singleton_append, quotes_cons_iff,
    ← quotedBody_eq_some_iff, quotedBody_written name.toList apart, Option.some.injEq, Prod.mk.injEq, eq_comm,
    @eq_comm _ rest]

end Sql.Lexeme

namespace Relational

open Sql Lexeme Statement

/-- Read to its own end, the statement has these lexemes. A reader that ends it at its first null character
finds the same when there is none. -/
structure Carries (statement : String) (lexemes : List Lexeme) : Prop where
  whole : Token.lexemesIn statement.toList = lexemes
  seen : '\x00' ∉ statement.toList → (Token.tokens statement).map Token.lexeme = lexemes

theorem carries_of_lexemesIn {statement : String} {lexemes : List Lexeme}
    (whole : Token.lexemesIn statement.toList = lexemes) : Carries statement lexemes :=
  ⟨whole, fun unbroken => (Token.lexemes_tokens unbroken).trans whole⟩

/-- A name in quotes is read back whole and leaves what follows it; so the statements that make a table and
fill it hold the names of the table and its columns and, but for them, always the same. -/
theorem quotedNames_contained (name : String) (columns : List String) :
    (∀ body left, Quotes (quoteName name).toList body left ↔ body = name.toList ∧ left = []) ∧
    (∀ rest : List Char, rest.head? ≠ some '"' → ∀ body left,
      Quotes ((quoteName name).toList ++ rest) body left ↔ body = name.toList ∧ left = rest) ∧
    Carries (createText name columns) (createLexemes name columns) ∧
    Carries (insertText name columns.length) (insertLexemes name columns.length) := by
  have followed := quotes_quoteName_iff name
  have alone := followed [] (by simp)
  rw [List.append_nil] at alone
  have create := carries_of_lexemesIn (lexemesIn_createText name columns)
  have insert := carries_of_lexemesIn (lexemesIn_insertText name columns.length)
  exact ⟨alone, followed, create, insert⟩

theorem quotedNames_contained_of_quotes :
    let name := "\"; DROP TABLE t; --\""
    let columns := ["a\", \"b", "", "\"\""]
    quoteName name = "\"\"\"; DROP TABLE t; --\"\"\"" ∧
      " (\"x\")".toList.head? ≠ some '"' ∧
      Quotes ((quoteName name).toList ++ " (\"x\")".toList) name.toList " (\"x\")".toList ∧
      '\x00' ∉ (createText name columns).toList ∧
      (Token.tokens (createText name columns)).map Token.lexeme = [.word "CREATE", .word "TABLE", .quotedName name true,
        .symbol "(", .quotedName "a\", \"b" true, .symbol ",", .quotedName "" true, .symbol ",",
        .quotedName "\"\"" true, .symbol ")"] := by
  intro name columns
  obtain ⟨-, followed, create, -⟩ := quotedNames_contained name columns
  have apart : " (\"x\")".toList.head? ≠ some '"' := by decide +kernel
  have unbroken : '\x00' ∉ (createText name columns).toList := by decide +kernel
  exact ⟨by decide +kernel, apart, (followed _ apart _ _).2 ⟨rfl, rfl⟩, unbroken, create.seen unbroken⟩

end Relational

end SolutionCheck
