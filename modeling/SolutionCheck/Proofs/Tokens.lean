import Mathlib.Data.List.TakeWhile
import SolutionCheck.Sql.Token

/-!
Texts whose tokens are known. A text is put together from pieces, each of which is scanned whole with the
rest of the text behind it, so that no piece can run into the next one. The tokens of the text are those of
its pieces, blanks left out; where they stand and which blanks follow them is of no concern here. A quoted
name is such a piece whatever it holds, unless another quote follows it.
-/

namespace SolutionCheck

theorem Text.dropWhile_of_head {p : Char → Bool} {cs : List Char} (stops : ∀ c ∈ cs.head?, p c = false) :
    cs.dropWhile p = cs := by
  cases cs with
  | nil => rfl
  | cons c cs => exact List.dropWhile_cons_of_neg (by simp [stops c rfl])

namespace Sql

def listed (lexemes : List Lexeme) : List Lexeme := lexemes.intersperse (.symbol ",")

theorem listed_singleton (lexeme : Lexeme) (after : List Lexeme) : listed [lexeme] ++ after = lexeme :: after := rfl

theorem listed_cons_cons (lexeme next : Lexeme) (lexemes after : List Lexeme) :
    listed (lexeme :: next :: lexemes) ++ after = lexeme :: .symbol "," :: (listed (next :: lexemes) ++ after) := by
  rw [listed, List.intersperse_cons_cons, List.cons_append, List.cons_append]
  rfl

theorem listed_cons (lexeme : Lexeme) (lexemes after : List Lexeme) :
    ∃ more, listed (lexeme :: lexemes) ++ after = lexeme :: more := by
  cases lexemes with
  | nil => exact ⟨_, listed_singleton lexeme after⟩
  | cons next lexemes => exact ⟨_, listed_cons_cons lexeme next lexemes after⟩

theorem mem_listed {lexemes : List Lexeme} {lexeme : Lexeme} (mem : lexeme ∈ listed lexemes) :
    lexeme = .symbol "," ∨ lexeme ∈ lexemes := by
  induction lexemes with
  | nil => exact absurd mem List.not_mem_nil
  | cons first lexemes ih =>
    cases lexemes with
    | nil => exact .inr mem
    | cons next lexemes =>
      rw [listed, List.intersperse_cons_cons, List.mem_cons, List.mem_cons] at mem
      obtain rfl | comma | later := mem
      · exact .inr List.mem_cons_self
      · exact .inl comma
      · exact (ih later).imp_right (List.mem_cons_of_mem first)

theorem length_listed_le (lexemes after : List Lexeme) : lexemes.length ≤ (listed lexemes ++ after).length + 1 := by
  rw [List.length_append, listed, List.length_intersperse]
  omega

namespace Lexeme

/-- Scanning a text finds these lexemes, blanks left out. A mark for a value has neither name nor number. -/
inductive Scans : List Char → List Lexeme → Prop
  | done : Scans [] []
  | blank {c : Char} (cs : List Char) {rest : List Char} {found : List Lexeme}
      (scanned : scan c (cs ++ rest) = (.blank, rest)) : Scans rest found → Scans (c :: cs ++ rest) found
  | mark {rest : List Char} {found : List Lexeme} (scanned : scan '?' rest = (.parameter 0, rest)) :
      Scans rest found → Scans ('?' :: rest) (.parameter 0 :: found)
  | piece {c : Char} (cs : List Char) {rest : List Char} {lexeme : Lexeme} {found : List Lexeme}
      (visible : lexeme ≠ .blank) (fixed : ∀ index, lexeme ≠ .parameter index)
      (scanned : scan c (cs ++ rest) = (lexeme, rest)) : Scans rest found → Scans (c :: cs ++ rest) (lexeme :: found)

theorem Scans.sign {c : Char} {rest : List Char} {lexeme : Lexeme} {found : List Lexeme} (visible : lexeme ≠ .blank)
    (fixed : ∀ index, lexeme ≠ .parameter index) (scanned : scan c rest = (lexeme, rest)) (scans : Scans rest found) :
    Scans (c :: rest) (lexeme :: found) :=
  .piece [] visible fixed scanned scans

theorem Scans.keyword {c : Char} (cs : List Char) {word : String} {rest : List Char} {found : List Lexeme}
    (scanned : scan c (cs ++ ' ' :: rest) = (.word word, ' ' :: rest)) (scans : Scans (' ' :: rest) found) :
    Scans (c :: (cs ++ ' ' :: rest)) (.word word :: found) :=
  .piece cs (by simp) (by simp) scanned scans

/-- The text begins with nothing that would prolong a quoted name or a mark for a value. -/
def Delimited (rest : List Char) : Prop := ∀ c ∈ rest.head?, c ≠ '"' ∧ c.isDigit = false

def Solid (text : List Char) : Prop := ∃ c ∈ text.head?, isSpace c = false

theorem Solid.append {text : List Char} (solid : Solid text) (rest : List Char) : Solid (text ++ rest) := by
  obtain ⟨c, first, visible⟩ := solid
  refine ⟨c, ?_, visible⟩
  rw [List.head?_append, Option.mem_def.1 first]
  exact Option.some_or

/-- The lexeme is found in its text with a delimited rest behind it. -/
structure Piece (lexeme : Lexeme) (text : List Char) : Prop where
  solid : Solid text
  scans : ∀ {rest : List Char} {found : List Lexeme}, Delimited rest → Scans rest found →
    Scans (text ++ rest) (lexeme :: found)

theorem Scans.space {text : List Char} {found : List Lexeme} (solid : Solid text) (scans : Scans text found) :
    Scans (' ' :: text) found := by
  refine .blank [] ?_ scans
  have kept : text.dropWhile isSpace = text := by
    obtain ⟨c, first, visible⟩ := solid
    exact Text.dropWhile_of_head fun d here => (Option.some.inj (first.symm.trans here) ▸ visible)
  change (Lexeme.blank, text.dropWhile isSpace) = (.blank, text)
  rw [kept]

theorem quotedBody_quote {rest : List Char} (alone : rest.head? ≠ some '"') :
    quotedBody '"' ('"' :: rest) = some ([], rest) := by
  cases rest with
  | nil => rfl
  | cons d rest =>
    have further : d ≠ '"' := fun same => alone (congrArg some same)
    simp [quotedBody, further]

theorem quotedBody_pair (rest : List Char) :
    quotedBody '"' ('"' :: '"' :: rest) = (quotedBody '"' rest).map fun (body, after) => ('"' :: body, after) := by
  simp [quotedBody]

theorem quotedBody_cons {c : Char} (plain : c ≠ '"') {rest : List Char} (further : rest ≠ []) :
    quotedBody '"' (c :: rest) = (quotedBody '"' rest).map fun (body, after) => (c :: body, after) := by
  obtain ⟨d, rest, rfl⟩ := List.exists_cons_of_ne_nil further
  rw [quotedBody, if_pos plain]

theorem quotedBody_written (cs : List Char) {rest : List Char} (apart : rest.head? ≠ some '"') :
    quotedBody '"' ((cs.flatMap fun c => if c = '"' then ['"', '"'] else [c]) ++ '"' :: rest) =
      some (cs, rest) := by
  induction cs with
  | nil => exact quotedBody_quote apart
  | cons c cs ih =>
    rw [List.flatMap_cons, List.append_assoc]
    by_cases quote : c = '"'
    · subst quote
      rw [if_pos rfl, List.cons_append, List.singleton_append, quotedBody_pair, ih, Option.map_some]
    · rw [if_neg quote, List.singleton_append, quotedBody_cons quote (by simp), ih, Option.map_some]

theorem toList_quoteName (name : String) : (quoteName name).toList =
    '"' :: ((name.toList.flatMap fun c => if c = '"' then ['"', '"'] else [c]) ++ ['"']) := by
  rw [quoteName, String.toList_ofList]
  rfl

theorem piece_quoteName (name : String) : Piece (.quotedName name true) (quoteName name).toList where
  solid := ⟨'"', by rw [toList_quoteName]; rfl, by decide⟩
  scans := by
    intro rest found delimited scans
    have apart : rest.head? ≠ some '"' := fun same => (delimited '"' same).1 rfl
    rw [toList_quoteName]
    refine .piece _ (by simp) (by simp) ?_ scans
    rw [List.append_assoc, List.singleton_append]
    change scanQuoted '"' (quotedName · true) _ = _
    rw [scanQuoted, quotedBody_written name.toList apart]
    simp only [String.ofList_toList]

theorem piece_mark : Piece (.parameter 0) ['?'] where
  solid := ⟨'?', rfl, by decide⟩
  scans := by
    intro rest found delimited scans
    refine .mark ?_ scans
    have kept : rest.dropWhile Char.isDigit = rest := Text.dropWhile_of_head fun c here => (delimited c here).2
    change (Lexeme.parameter 0, rest.dropWhile Char.isDigit) = (.parameter 0, rest)
    rw [kept]

theorem Piece.spaced {lexeme : Lexeme} {text : List Char} (piece : Piece lexeme text) {rest : List Char}
    {found : List Lexeme} (delimited : Delimited rest) (scans : Scans rest found) :
    Scans (' ' :: (text ++ rest)) (lexeme :: found) :=
  (piece.scans delimited scans).space (piece.solid.append rest)

section Lists

variable {β : Type} {lexeme : β → Lexeme} {text : β → List Char} {members : List β}

theorem solid_listed (filled : members ≠ []) (each : ∀ member ∈ members, Piece (lexeme member) (text member)) :
    Solid ([',', ' '].intercalate (members.map text)) := by
  obtain ⟨member, members, rfl⟩ := List.exists_cons_of_ne_nil filled
  have solid := (each member List.mem_cons_self).solid
  cases members with
  | nil => simpa using solid
  | cons next members =>
    rw [List.map_cons, List.map_cons, List.intercalate_cons_cons]
    exact (solid.append _).append _

theorem Scans.list (each : ∀ member ∈ members, Piece (lexeme member) (text member))
    {rest : List Char} {found : List Lexeme} (delimited : Delimited rest) (scans : Scans rest found) :
    Scans ([',', ' '].intercalate (members.map text) ++ rest) (listed (members.map lexeme) ++ found) := by
  induction members with
  | nil => exact scans
  | cons member members ih =>
    obtain ⟨here, others⟩ := List.forall_mem_cons.1 each
    cases members with
    | nil =>
      rw [List.map_singleton, List.map_singleton, listed_singleton, List.intercalate_singleton]
      exact here.scans delimited scans
    | cons next members =>
      have further := ih others
      have spaced := further.space ((solid_listed (List.cons_ne_nil _ _) others).append rest)
      have whole : [',', ' '].intercalate ((member :: next :: members).map text) ++ rest =
          text member ++ (',' :: ' ' :: ([',', ' '].intercalate ((next :: members).map text) ++ rest)) := by
        rw [List.map_cons, List.map_cons, List.intercalate_cons_cons]
        simp
      have comma : listed ((member :: next :: members).map lexeme) ++ found =
          lexeme member :: .symbol "," :: (listed ((next :: members).map lexeme) ++ found) :=
        listed_cons_cons ..
      rw [whole, comma]
      exact here.scans (by simp [Delimited]) (.sign (by simp) (by simp) rfl spaced)

end Lists

end Lexeme

namespace Token

open Lexeme

def Unnamed (token : Token) : Prop := ∀ index, token.lexeme = .parameter index → token.text = ['?']

/-- The tokens have these lexemes, and marks for values among them have neither name nor number. -/
structure Shows (found : List Lexeme) (ts : List Token) : Prop where
  lexemes : ts.map lexeme = found
  unnamed : ∀ token ∈ ts, token.Unnamed

theorem Shows.attachBlank {found : List Lexeme} {token : Token} {scanned : List Token} (blank : token.lexeme = .blank)
    (shows : Shows found (attachBlanks scanned)) : Shows found (attachBlanks (token :: scanned)) := by
  have same : attachBlanks (token :: scanned) = attachBlanks scanned := by
    simp only [attachBlanks, List.foldr_cons, if_pos blank]
  rwa [same]

theorem Shows.attach {found : List Lexeme} {lexeme : Lexeme} {token : Token} {scanned : List Token}
    (visible : lexeme ≠ .blank) (kind : token.lexeme = lexeme) (unnamed : token.Unnamed)
    (shows : Shows found (attachBlanks scanned)) : Shows (lexeme :: found) (attachBlanks (token :: scanned)) := by
  subst kind
  obtain ⟨after, first⟩ : ∃ after, attachBlanks (token :: scanned) = { token with after } :: attachBlanks scanned :=
    ⟨_, by simp only [attachBlanks, List.foldr_cons, if_neg visible]; rfl⟩
  rw [first]
  refine ⟨?_, List.forall_mem_cons.2 ⟨unnamed, shows.unnamed⟩⟩
  rw [List.map_cons, shows.lexemes]

theorem scanAll_of_scan {c : Char} (cs : List Char) {rest : List Char} {lexeme : Lexeme}
    (scanned : scan c (cs ++ rest) = (lexeme, rest)) (fuel offset : Nat) :
    ∃ next, scanAll (fuel + 1) offset (c :: cs ++ rest) = ⟨lexeme, c :: cs, [], offset⟩ :: scanAll fuel next rest := by
  have text : (c :: (cs ++ rest)).take ((cs ++ rest).length + 1 - rest.length) = c :: cs := by
    rw [← List.cons_append]
    refine List.take_left' ?_
    rw [List.length_cons, List.length_append]
    omega
  obtain ⟨next, step⟩ : ∃ next, scanAll (fuel + 1) offset (c :: (cs ++ rest)) =
      ⟨(scan c (cs ++ rest)).1, (c :: (cs ++ rest)).take ((cs ++ rest).length + 1 - (scan c (cs ++ rest)).2.length),
        [], offset⟩ :: scanAll fuel next (scan c (cs ++ rest)).2 := ⟨_, rfl⟩
  refine ⟨next, ?_⟩
  rw [List.cons_append, step, scanned, text]

theorem shows_scanAll {text : List Char} {found : List Lexeme} (scans : Scans text found) {fuel : Nat}
    (enough : text.length ≤ fuel) (offset : Nat) : Shows found (attachBlanks (scanAll fuel offset text)) := by
  -- a piece takes one unit of fuel and at least one character
  induction scans generalizing fuel offset with
  | done => cases fuel <;> exact ⟨rfl, fun _ mem => absurd mem List.not_mem_nil⟩
  | blank cs scanned _ ih =>
    rw [List.length_append, List.length_cons] at enough
    obtain ⟨fuel, rfl⟩ := Nat.exists_eq_succ_of_ne_zero (n := fuel) (by omega)
    obtain ⟨next, first⟩ := scanAll_of_scan cs scanned fuel offset
    rw [first]
    exact .attachBlank rfl (ih (by omega) next)
  | mark scanned _ ih =>
    rw [List.length_cons] at enough
    obtain ⟨fuel, rfl⟩ := Nat.exists_eq_succ_of_ne_zero (n := fuel) (by omega)
    obtain ⟨next, first⟩ := scanAll_of_scan [] scanned fuel offset
    rw [List.singleton_append] at first
    rw [first]
    exact .attach (by simp) rfl (fun _ _ => rfl) (ih (Nat.le_of_succ_le_succ enough) next)
  | piece cs visible fixed scanned _ ih =>
    rw [List.length_append, List.length_cons] at enough
    obtain ⟨fuel, rfl⟩ := Nat.exists_eq_succ_of_ne_zero (n := fuel) (by omega)
    obtain ⟨next, first⟩ := scanAll_of_scan cs scanned fuel offset
    rw [first]
    exact .attach visible rfl (fun index same => absurd same (fixed index)) (ih (by omega) next)

def numbered (next : Nat) : List Lexeme → List Lexeme
  | [] => []
  | .parameter _ :: rest => .parameter next :: numbered (next + 1) rest
  | lexeme :: rest => lexeme :: numbered next rest

theorem numbered_of_unmarked {lexemes : List Lexeme} (unmarked : ∀ index, .parameter index ∉ lexemes) (next : Nat) :
    numbered next lexemes = lexemes := by
  induction lexemes with
  | nil => rfl
  | cons lexeme lexemes ih =>
    have others := ih fun index mem => unmarked index (List.mem_cons_of_mem _ mem)
    cases lexeme with
    | parameter index => exact absurd List.mem_cons_self (unmarked index)
    | _ => exact congrArg (_ :: ·) others

theorem numbered_listed (next count : Nat) (after : List Lexeme) :
    numbered next (listed (List.replicate count (.parameter 0)) ++ after) =
      listed ((List.range' next count).map .parameter) ++ numbered (next + count) after := by
  induction count generalizing next with
  | zero => rfl
  | succ count ih =>
    cases count with
    | zero => rfl
    | succ count =>
      have onward := ih (next + 1)
      rw [Nat.add_right_comm next 1, Nat.add_assoc] at onward
      rw [List.range'_succ, List.range'_succ, List.map_cons, List.map_cons, listed_cons_cons, ← List.map_cons,
        ← List.range'_succ, ← onward, List.replicate_succ, List.replicate_succ, listed_cons_cons]
      rfl

theorem lexemes_numberParameters (ts : List Token) (unnamed : ∀ token ∈ ts, token.Unnamed)
    (known : List (List Char × Nat)) (next : Nat) :
    (numberParameters known next ts).map lexeme = numbered next (ts.map lexeme) := by
  induction ts generalizing known next with
  | nil => rfl
  | cons token ts ih =>
    obtain ⟨here, others⟩ := List.forall_mem_cons.1 unnamed
    cases shown : token.lexeme with
    | parameter index =>
      have given : parameterIndex known next ['?'] = next := rfl
      simp only [numberParameters, shown, here index shown, given, Nat.max_eq_right (Nat.le_succ next), List.map_cons,
        numbered, ih others]
    | _ => simp only [numberParameters, shown, List.map_cons, numbered, ih others]

def lexemesIn (text : List Char) : List Lexeme :=
  (numberParameters [] 0 (attachBlanks (scanAll text.length 0 text))).map lexeme

theorem lexemesIn_of_scans {text : List Char} {found : List Lexeme} (scans : Scans text found) :
    lexemesIn text = numbered 0 found := by
  obtain ⟨seen, unnamed⟩ := shows_scanAll scans (Nat.le_refl _) 0
  rw [lexemesIn, lexemes_numberParameters _ unnamed, seen]

theorem lexemes_tokens {s : String} (whole : '\x00' ∉ s.toList) : (tokens s).map lexeme = lexemesIn s.toList := by
  have kept : s.toList.takeWhile (· ≠ '\x00') = s.toList := by
    rw [List.takeWhile_eq_self_iff]
    intro c mem
    exact decide_eq_true fun same => whole (same ▸ mem)
  rw [tokens, kept, lexemesIn]

theorem parameterCount_eq_zero {ts : List Token}
    (unmarked : ∀ index, .parameter index ∉ ts.map Token.lexeme) : parameterCount ts = 0 := by
  induction ts with
  | nil => rfl
  | cons token ts ih =>
    have others : parameterCount ts = 0 := ih fun index mem => unmarked index (List.mem_cons_of_mem _ mem)
    have here : ∀ index, token.lexeme ≠ .parameter index := fun index same =>
      unmarked index (same ▸ List.mem_cons_self)
    rw [← others, parameterCount, parameterCount, List.foldl_cons]
    split
    · next index same => exact absurd same (here index)
    · rfl

end Token

end Sql

end SolutionCheck
