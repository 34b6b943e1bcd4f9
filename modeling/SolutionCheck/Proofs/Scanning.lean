import SolutionCheck.Proofs.Document

/-!
Written values are scanned. What is written for a value, compact or indented, is scanned as syntax that
shows the value, and what follows it stays behind, as long as it ends a value. A character of a string is
written so that it is scanned as itself, and no value begins with a blank or with the end of what holds it.
-/

namespace SolutionCheck.Json

section Strings

theorem scanLiteral_escape {letter c : Char} (known : escaped? letter = some c) (cs : List Char) :
    scanLiteral ('\\' :: letter :: cs) = (.char c (scanLiteral cs).1, (scanLiteral cs).2) := by
  have notUnit : letter ≠ 'u' := by
    rintro rfl
    cases known
  rw [scanLiteral, known] <;> simp [notUnit]

theorem scanLiteral_plain {c : Char} (quote : c ≠ '"') (backslash : c ≠ '\\') (printable : ¬ c.toNat < 0x20)
    (cs : List Char) : scanLiteral (c :: cs) = (.char c (scanLiteral cs).1, (scanLiteral cs).2) := by
  rw [scanLiteral, if_neg quote, if_neg printable] <;> simp [backslash]

theorem hexNumber?_of_control : ∀ n < 0x20,
    hexNumber? '0' '0' (Nat.digitChar (n / 16)) (Nat.digitChar (n % 16)) = some n := by decide

theorem scanLiteral_control {c : Char} (control : c.toNat < 0x20) (cs : List Char) :
    scanLiteral ('\\' :: 'u' :: '0' :: '0' :: Nat.digitChar (c.toNat / 16) :: Nat.digitChar (c.toNat % 16) :: cs) =
      (.unit c.toNat (scanLiteral cs).1, (scanLiteral cs).2) := by
  rw [scanLiteral, hexNumber?_of_control _ control]

theorem chars_control {c : Char} (control : c.toNat < 0x20) (rest : Literal) :
    (Literal.unit c.toNat rest).chars = rest.chars.map (c :: ·) := by
  have low : Literal.isLow c.toNat = false := decide_eq_false (by omega)
  have high : Literal.isHigh c.toNat = false := decide_eq_false (by omega)
  conv_lhs => unfold Literal.chars
  simp [low, high]

theorem scanLiteral_writtenChar (c : Char) (cs : List Char) :
    ∃ l, scanLiteral (writtenChar c ++ cs) = (l, (scanLiteral cs).2) ∧
      l.chars = (scanLiteral cs).1.chars.map (c :: ·) := by
  have escape (letter : Char) (known : escaped? letter = some c) :
      ∃ l, scanLiteral (['\\', letter] ++ cs) = (l, (scanLiteral cs).2) ∧
        l.chars = (scanLiteral cs).1.chars.map (c :: ·) :=
    ⟨_, scanLiteral_escape known cs, rfl⟩
  unfold writtenChar
  split
  · next quote => exact escape '"' (by rw [quote]; rfl)
  split
  · next backslash => exact escape '\\' (by rw [backslash]; rfl)
  split
  · next backspace => exact escape 'b' (by rw [backspace]; rfl)
  split
  · next feed => exact escape 'f' (by rw [feed]; rfl)
  split
  · next newline => exact escape 'n' (by rw [newline]; rfl)
  split
  · next carriage => exact escape 'r' (by rw [carriage]; rfl)
  split
  · next tab => exact escape 't' (by rw [tab]; rfl)
  split
  · next control => exact ⟨_, scanLiteral_control control cs, chars_control control _⟩
  · next quote backslash _ _ _ _ _ control => exact ⟨_, scanLiteral_plain quote backslash control cs, rfl⟩

theorem scanLiteral_writtenChars (cs rest : List Char) :
    ∃ l, scanLiteral (cs.flatMap writtenChar ++ '"' :: rest) = (l, rest) ∧ l.chars = .ok cs := by
  induction cs with
  | nil => exact ⟨.closed, by simp [scanLiteral], rfl⟩
  | cons c cs ih =>
    obtain ⟨l, scanned, chars⟩ := ih
    obtain ⟨whole, first, same⟩ := scanLiteral_writtenChar c (cs.flatMap writtenChar ++ '"' :: rest)
    rw [scanned] at first same
    refine ⟨whole, ?_, ?_⟩
    · rw [List.flatMap_cons, List.append_assoc, first]
    · rw [same, chars]
      rfl

theorem scanLiteral_writtenString (s : String) (rest : List Char) :
    ∃ l, scanLiteral (s.toList.flatMap writtenChar ++ '"' :: rest) = (l, rest) ∧ l.text = .ok s := by
  obtain ⟨l, scanned, chars⟩ := scanLiteral_writtenChars s.toList rest
  refine ⟨l, scanned, ?_⟩
  rw [Literal.text, chars]
  exact congrArg Except.ok String.ofList_toList

end Strings

section Heads

def Blank (cs : List Char) : Prop := ∀ c ∈ cs, c ∈ [' ', '\n']

theorem blank_nil : Blank [] := fun _ mem => absurd mem List.not_mem_nil

theorem blank_newLine (level : Nat) : Blank (newLine level) := by
  simp only [Blank, newLine, List.mem_cons, List.mem_replicate]
  tauto

theorem skipSpace_append {gap : List Char} (blank : Blank gap) (cs : List Char) :
    skipSpace (gap ++ cs) = skipSpace cs := by
  refine List.dropWhile_append_of_pos fun c mem => ?_
  have known := blank c mem
  simp only [List.mem_cons, List.not_mem_nil, or_false] at known
  rcases known with rfl | rfl <;> rfl

/-- The text begins with a character that is no blank and ends nothing. -/
def Begins (cs : List Char) : Prop := ∃ c rest, cs = c :: rest ∧ c ∉ [' ', '\n', '\t', '\r', ']', '}']

theorem Begins.append {cs : List Char} (begins : Begins cs) (rest : List Char) : Begins (cs ++ rest) := by
  obtain ⟨c, inner, rfl, solid⟩ := begins
  exact ⟨c, inner ++ rest, rfl, solid⟩

theorem skipSpace_gap {gap cs : List Char} (blank : Blank gap) (begins : Begins cs) :
    skipSpace (gap ++ cs) = cs := by
  obtain ⟨c, rest, rfl, solid⟩ := begins
  simp only [List.mem_cons, List.not_mem_nil, or_false, not_or] at solid
  rw [skipSpace_append blank]
  simp [skipSpace, solid]

theorem scanValue_gap {gap : List Char} (blank : Blank gap) (fuel : Nat) (cs : List Char) :
    scanValue (fuel + 1) (gap ++ cs) = scanValue (fuel + 1) cs := by
  rw [scanValue, scanValue, skipSpace_append blank]

theorem begins_of_isDigit {c : Char} {rest : List Char} (digit : c.isDigit = true) : Begins (c :: rest) := by
  refine ⟨c, rest, rfl, fun mem => ?_⟩
  simp only [List.mem_cons, List.not_mem_nil, or_false] at mem
  rcases mem with rfl | rfl | rfl | rfl | rfl | rfl <;> cases digit

theorem begins_signed {negative : Bool} {c : Char} {rest : List Char} (digit : c.isDigit = true) :
    Begins (signed negative (c :: rest)) := by
  cases negative with
  | true => exact ⟨'-', c :: rest, rfl, by decide⟩
  | false => exact begins_of_isDigit digit

theorem digits_document {x : Binary64} (finite : x.isFinite = true) : ∃ c rest q,
    FloatStyle.document.digits x = signed x.negative (c :: rest) ∧ c.isDigit = true ∧
    Spells (c :: rest) q ∧ Admitted (c :: rest) ∧ Binary64.nearest x.negative q = x := by
  obtain ⟨cs, q, text, spells, nearest⟩ := FloatStyle.document.digits_of_isFinite finite
  have admitted := FloatStyle.document.admitted_of_digits finite text
  obtain ⟨c, rest, rfl, digit⟩ := spells.exists_digit
  exact ⟨c, rest, q, text, digit, spells, admitted, nearest⟩

end Heads

section Layout

variable (write : Json → List Char) (gap close colon : List Char)

def itemsText (first : Bool) : List Json → List Char
  | [] => close ++ [']']
  | item :: rest => (if first then [] else [',']) ++ (gap ++ (write item ++ itemsText false rest))

/-- The members of an object with their commas, up to the closing brace; the first may have none. -/
def membersText (first : Bool) : List (String × Json) → List Char
  | [] => close ++ ['}']
  | (key, value) :: rest =>
    (if first then [] else [',']) ++
      (gap ++ (writtenString key ++ ':' :: (colon ++ (write value ++ membersText false rest))))

theorem compactItems_eq (items : List Json) : compactItems items = itemsText compact [] [] true items := by
  induction items with
  | nil => rfl
  | cons item rest ih =>
    cases rest with
    | nil => rfl
    | cons next rest => simp [compactItems, itemsText, ih]

theorem compactMembers_eq (members : List (String × Json)) :
    compactMembers members = membersText compact [] [] [] true members := by
  induction members with
  | nil => rfl
  | cons member rest ih =>
    cases rest with
    | nil => simp [compactMembers, membersText]
    | cons next rest => simp [compactMembers, membersText, ih]

theorem indentedItems_eq (level : Nat) {items : List Json} (filled : items ≠ []) :
    indentedItems level items ++ (close ++ [']']) = itemsText (indented level) (newLine level) close true items := by
  induction items with
  | nil => exact absurd rfl filled
  | cons item rest ih =>
    cases rest with
    | nil => simp [indentedItems, itemsText]
    | cons next rest => simp [indentedItems, itemsText, ih]

theorem indentedMembers_eq (level : Nat) {members : List (String × Json)} (filled : members ≠ []) :
    indentedMembers level members ++ (close ++ ['}']) =
      membersText (indented level) (newLine level) close [' '] true members := by
  induction members with
  | nil => exact absurd rfl filled
  | cons member rest ih =>
    cases rest with
    | nil => simp [indentedMembers, membersText]
    | cons next rest => simp [indentedMembers, membersText, ih]

variable {write gap close colon}

theorem ends_close (blank : Blank close) {c : Char} (closing : c ∈ [']', '}']) (rest : List Char) :
    Ends (close ++ c :: rest) := by
  intro first mem
  cases close with
  | nil =>
    cases mem
    exact List.mem_cons_of_mem _ (List.mem_append_left [' ', '\n'] closing)
  | cons c close =>
    cases mem
    exact List.mem_append_right [',', ']', '}'] (blank first List.mem_cons_self)

theorem ends_itemsText (blank : Blank close) (items : List Json) (rest : List Char) :
    Ends (itemsText write gap close false items ++ rest) := by
  cases items with
  | nil =>
    rw [itemsText, List.append_assoc]
    exact ends_close blank (by decide) rest
  | cons => simp [Ends, itemsText]

theorem length_itemsText_pos (items : List Json) : 0 < (itemsText write gap close false items).length := by
  cases items <;> simp [itemsText]

theorem ends_membersText (blank : Blank close) (members : List (String × Json)) (rest : List Char) :
    Ends (membersText write gap close colon false members ++ rest) := by
  cases members with
  | nil =>
    rw [membersText, List.append_assoc]
    exact ends_close blank (by decide) rest
  | cons => simp [Ends, membersText]

end Layout

section Steps

theorem scanValue_signed (fuel : Nat) (negative : Bool) {c : Char} (rest : List Char) (digit : c.isDigit = true) :
    scanValue (fuel + 1) (signed negative (c :: rest)) = scanNumber negative (c :: rest) := by
  cases negative with
  | true => rfl
  | false =>
    have begins : Begins (signed false (c :: rest)) := begins_signed digit
    have solid : skipSpace (signed false (c :: rest)) = c :: rest := skipSpace_gap blank_nil begins
    rw [scanValue, solid]
    split <;> try next same => cases same <;> cases digit
    next same =>
      cases same
      rw [if_pos digit]

variable {gap close : List Char}

theorem scanItems_item (blank : Blank gap) (first : Bool) {fuel : Nat} {cs after last : List Char} {d : Document}
    {items : Items} (begins : Begins cs) (value : scanValue fuel cs = (d, after))
    (others : scanItems fuel false after = (items, last)) :
    scanItems (fuel + 1) first ((if first then [] else [',']) ++ (gap ++ cs)) = (.item d items, last) := by
  have skipped := skipSpace_gap blank begins
  obtain ⟨c, rest, rfl, solid⟩ := begins
  have notEnd : c ≠ ']' := by
    rintro rfl
    exact solid (by decide)
  cases first with
  | true => simp [scanItems, skipped, value, others]
  | false =>
    have comma : skipSpace (',' :: (gap ++ c :: rest)) = ',' :: (gap ++ c :: rest) := rfl
    simp [scanItems, comma, skipped, value, others, notEnd]

theorem scanItems_close (blank : Blank close) (first : Bool) (fuel : Nat) (rest : List Char) :
    scanItems (fuel + 1) first (close ++ ']' :: rest) = (.stop .closed, rest) := by
  rw [scanItems, skipSpace_append blank]
  rfl

theorem scanMembers_member (blank : Blank gap) (first : Bool) {fuel : Nat} {cs text after last : List Char}
    {key : Literal} {d : Document} {members : Members} (name : scanLiteral cs = (key, ':' :: text))
    (value : scanValue fuel text = (d, after)) (others : scanMembers fuel false after = (members, last)) :
    scanMembers (fuel + 1) first ((if first then [] else [',']) ++ (gap ++ '"' :: cs)) =
      (.member key d members, last) := by
  have quote : skipSpace (gap ++ '"' :: cs) = '"' :: cs := skipSpace_gap blank ⟨'"', cs, rfl, by decide⟩
  have colon : skipSpace (':' :: text) = ':' :: text := rfl
  cases first with
  | true => simp [scanMembers, quote, name, colon, value, others]
  | false =>
    have comma : skipSpace (',' :: (gap ++ '"' :: cs)) = ',' :: (gap ++ '"' :: cs) := rfl
    simp [scanMembers, comma, quote, name, colon, value, others]

theorem scanMembers_close (blank : Blank close) (first : Bool) (fuel : Nat) (rest : List Char) :
    scanMembers (fuel + 1) first (close ++ '}' :: rest) = (.stop .closed, rest) := by
  rw [scanMembers, skipSpace_append blank]
  rfl

end Steps

section Shortest

theorem exists_numeral {x : Binary64} (finite : x.isFinite = true) : ∃ n : Numeral, n.integral = false ∧
    Binary64.ofDecimal n.negative n.digits n.exponent = x ∧
    scan (FloatStyle.document.digits x) = (.number n, []) ∧
    ∀ fuel rest, Ends rest → scanValue (fuel + 1) (FloatStyle.document.digits x ++ rest) = (.number n, rest) := by
  obtain ⟨c, digits, q, text, digit, spells, admitted, nearest⟩ := digits_document finite
  obtain ⟨n, integral, value, scanned⟩ := scanNumber_of_spells spells admitted x.negative
  have found (fuel : Nat) (rest : List Char) (ends : Ends rest) :
      scanValue (fuel + 1) (FloatStyle.document.digits x ++ rest) = (.number n, rest) := by
    rw [text, signed_append, List.cons_append, scanValue_signed _ _ _ digit]
    exact scanned ends
  refine ⟨n, integral, value.trans nearest, ?_, found⟩
  rw [scan, ← found _ [] (by simp [Ends]), List.append_nil]

/-- The numeral that is written for a finite float is read as this float. -/
def Numerals.ReadsShortest [Numerals] : Prop :=
  ∀ ⦃x : Binary64⦄, x.isFinite = true → ∀ ⦃n : Numeral⦄,
    scan (FloatStyle.document.digits x) = (.number n, []) → Numerals.float? n = some x

theorem Numerals.readsShortest_nearest : Numerals.nearest.ReadsShortest := by
  intro x finite n scanned
  obtain ⟨n', -, value, scanned', -⟩ := exists_numeral finite
  cases scanned.symm.trans scanned'
  exact Option.filter_eq_some_iff.2 ⟨congrArg some value, finite⟩

end Shortest

variable [Numerals]

/-- Wherever it ends, the text is scanned as syntax that shows the value. -/
structure Writes (cs : List Char) (j : Json) : Prop where
  begins : Begins cs
  scan : ∀ fuel rest, 2 * cs.length ≤ fuel → Ends rest →
    ∃ d : Document, scanValue fuel (cs ++ rest) = (d, rest) ∧ d.Shows j

theorem Writes.length_pos {cs : List Char} {j : Json} (writes : Writes cs j) : 0 < cs.length := by
  obtain ⟨c, rest, rfl, -⟩ := writes.begins
  exact Nat.succ_pos _

section Plain

theorem writes_word {j : Json} (d : Document) (c : Char) (letters : List Char)
    (solid : c ∉ [' ', '\n', '\t', '\r', ']', '}'])
    (scan : ∀ fuel rest, scanValue (fuel + 1) (c :: letters ++ rest) = (d, rest)) (shown : d.Shows j) :
    Writes (c :: letters) j where
  begins := ⟨c, letters, rfl, solid⟩
  scan := by
    intro fuel rest enough _
    rw [List.length_cons] at enough
    obtain ⟨fuel, rfl⟩ := Nat.exists_eq_add_one_of_ne_zero (n := fuel) (by omega)
    exact ⟨d, scan fuel rest, shown⟩

theorem writes_signed {j : Json} (negative : Bool) {c : Char} {digits : List Char} (digit : c.isDigit = true)
    (scan : ∀ rest, Ends rest → ∃ n, scanNumber negative (c :: digits ++ rest) = (.number n, rest) ∧
      (Document.number n).Shows j) : Writes (signed negative (c :: digits)) j where
  begins := begins_signed digit
  scan := by
    intro fuel rest enough ends
    obtain ⟨fuel, rfl⟩ := Nat.exists_eq_add_one_of_ne_zero (n := fuel)
      (by cases negative <;> simp [signed] at enough <;> omega)
    obtain ⟨n, scanned, shown⟩ := scan rest ends
    exact ⟨.number n, by rw [signed_append, List.cons_append, scanValue_signed _ _ _ digit]; exact scanned, shown⟩

theorem writes_int {n : Int} (least : -(Nat.pow 2 63 : Nat) ≤ n) (most : n < (Nat.pow 2 64 : Nat)) :
    Writes (compact (.int n)) (.int n) := by
  obtain ⟨c, digits, text, digit⟩ := toDigits_cons n.natAbs
  rw [compact, intDigits_eq, text]
  refine writes_signed _ digit fun rest ends =>
    ⟨⟨decide (n < 0), c :: digits, [], 0, true⟩, ?_, .int (text ▸ value_int least most)⟩
  rw [← text, scanNumber_toDigits ends]

theorem writes_float (reads : Numerals.ReadsShortest) {x : Binary64} (finite : x.isFinite = true) :
    Writes (compact (.float x)) (.float x) := by
  obtain ⟨c, digits, -, text, digit, -⟩ := digits_document finite
  obtain ⟨n, integral, -, scanned, found⟩ := exists_numeral finite
  have value : n.value = .ok (.float x) := by
    simp [Numeral.value, integral, reads finite scanned]
  rw [compact]
  refine ⟨text ▸ begins_signed digit, fun fuel rest enough ends => ?_⟩
  obtain ⟨fuel, rfl⟩ := Nat.exists_eq_add_one_of_ne_zero (n := fuel)
    (by cases negative : x.negative <;> simp [text, signed, negative] at enough <;> omega)
  exact ⟨.number n, found fuel rest ends, .float value⟩

theorem writes_string (s : String) : Writes (compact (.string s)) (.string s) where
  begins := ⟨'"', _, rfl, by decide⟩
  scan := by
    intro fuel rest enough _
    rw [compact, writtenString, List.length_append] at enough
    obtain ⟨fuel, rfl⟩ := Nat.exists_eq_add_one_of_ne_zero (n := fuel) (by simp at enough; omega)
    obtain ⟨l, found, text⟩ := scanLiteral_writtenString s rest
    refine ⟨.string l, ?_, .string text⟩
    simp [compact, writtenString, scanValue, skipSpace, found]

end Plain

section Nested

variable {write : Json → List Char} {gap close colon : List Char}

theorem scanItems_text (spaced : Blank gap) (closed : Blank close) {items : List Json}
    (each : ∀ item ∈ items, Writes (write item) item) (first : Bool) (fuel : Nat) (rest : List Char)
    (enough : 2 * (itemsText write gap close first items).length ≤ fuel) :
    ∃ scanned : Items, scanItems fuel first (itemsText write gap close first items ++ rest) = (scanned, rest) ∧
      scanned.Shows items := by
  -- every element uses up one unit of fuel and at least one character, so twice the length suffices
  induction items generalizing first fuel with
  | nil =>
    rw [itemsText, List.length_append, List.length_singleton] at enough
    obtain ⟨fuel, rfl⟩ := Nat.exists_eq_add_one_of_ne_zero (n := fuel) (by omega)
    refine ⟨.stop .closed, ?_, .closed⟩
    rw [itemsText, List.append_assoc]
    exact scanItems_close closed first fuel rest
  | cons item items ih =>
    obtain ⟨writes, each⟩ := List.forall_mem_cons.1 each
    have filled := writes.length_pos
    have later : 0 < (itemsText write gap close false items).length := length_itemsText_pos items
    simp only [itemsText, List.length_append] at enough
    obtain ⟨fuel, rfl⟩ := Nat.exists_eq_add_one_of_ne_zero (n := fuel) (by omega)
    obtain ⟨d, value, shown⟩ := writes.scan fuel (itemsText write gap close false items ++ rest) (by omega)
      (ends_itemsText closed items rest)
    obtain ⟨later, after, all⟩ := ih each false fuel (by omega)
    refine ⟨.item d later, ?_, .item shown all⟩
    rw [itemsText, List.append_assoc, List.append_assoc, List.append_assoc]
    exact scanItems_item spaced first (writes.begins.append _) value after

theorem scanMembers_text (spaced : Blank gap) (closed : Blank close) (apart : Blank colon)
    {members : List (String × Json)} (each : ∀ member ∈ members, Writes (write member.2) member.2) (first : Bool)
    (fuel : Nat) (rest : List Char) (enough : 2 * (membersText write gap close colon first members).length ≤ fuel) :
    ∃ scanned : Members,
      scanMembers fuel first (membersText write gap close colon first members ++ rest) = (scanned, rest) ∧
      scanned.Shows members := by
  induction members generalizing first fuel with
  | nil =>
    rw [membersText, List.length_append, List.length_singleton] at enough
    obtain ⟨fuel, rfl⟩ := Nat.exists_eq_add_one_of_ne_zero (n := fuel) (by omega)
    refine ⟨.stop .closed, ?_, .closed⟩
    rw [membersText, List.append_assoc]
    exact scanMembers_close closed first fuel rest
  | cons member members ih =>
    obtain ⟨key, value⟩ := member
    obtain ⟨writes, each⟩ := List.forall_mem_cons.1 each
    have filled := writes.length_pos
    simp only [membersText, List.length_append, List.length_cons] at enough filled
    obtain ⟨fuel, rfl⟩ := Nat.exists_eq_add_one_of_ne_zero (n := fuel) (by omega)
    obtain ⟨d, found, shown⟩ := writes.scan fuel (membersText write gap close colon false members ++ rest)
      (by dsimp only; omega) (ends_membersText closed members rest)
    obtain ⟨later, after, all⟩ := ih each false fuel (by omega)
    obtain ⟨l, name, text⟩ := scanLiteral_writtenString key
      (':' :: (colon ++ (write value ++ (membersText write gap close colon false members ++ rest))))
    refine ⟨.member l d later, ?_, .member text shown all⟩
    have layout : membersText write gap close colon first ((key, value) :: members) ++ rest =
        (if first then [] else [',']) ++ (gap ++ '"' :: (key.toList.flatMap writtenChar ++ '"' :: ':' ::
          (colon ++ (write value ++ (membersText write gap close colon false members ++ rest))))) := by
      simp [membersText, writtenString]
    obtain ⟨spent, rfl⟩ := Nat.exists_eq_add_one_of_ne_zero (n := fuel) (by omega)
    rw [layout]
    exact scanMembers_member spaced first name ((scanValue_gap apart spent _).trans found) after

theorem writes_array (spaced : Blank gap) (closed : Blank close) {items : List Json}
    (each : ∀ item ∈ items, Writes (write item) item) :
    Writes ('[' :: itemsText write gap close true items) (.array items) where
  begins := ⟨'[', _, rfl, by decide⟩
  scan := by
    intro fuel rest enough _
    rw [List.length_cons] at enough
    obtain ⟨fuel, rfl⟩ := Nat.exists_eq_add_one_of_ne_zero (n := fuel) (by omega)
    obtain ⟨scanned, found, shown⟩ := scanItems_text spaced closed each true fuel rest (by omega)
    refine ⟨.array scanned, ?_, .array shown⟩
    rw [List.cons_append, scanValue]
    simp [skipSpace, found]

theorem writes_object (spaced : Blank gap) (closed : Blank close) (apart : Blank colon)
    {members : List (String × Json)} (each : ∀ member ∈ members, Writes (write member.2) member.2) :
    Writes ('{' :: membersText write gap close colon true members) (.object members) where
  begins := ⟨'{', _, rfl, by decide⟩
  scan := by
    intro fuel rest enough _
    rw [List.length_cons] at enough
    obtain ⟨fuel, rfl⟩ := Nat.exists_eq_add_one_of_ne_zero (n := fuel) (by omega)
    obtain ⟨scanned, found, shown⟩ := scanMembers_text spaced closed apart each true fuel rest (by omega)
    refine ⟨.object scanned, ?_, .object shown⟩
    rw [List.cons_append, scanValue]
    simp [skipSpace, found]

end Nested

section Values

variable (reads : Numerals.ReadsShortest)

include reads

theorem writes_compact {depth : Nat} {j : Json} (within : j.Within depth) : Writes j.compact j := by
  induction within with
  | null => exact writes_word .null 'n' ['u', 'l', 'l'] (by decide) (fun _ _ => rfl) .null
  | bool depth b =>
    cases b with
    | true => exact writes_word (.bool true) 't' ['r', 'u', 'e'] (by decide) (fun _ _ => rfl) (.bool true)
    | false => exact writes_word (.bool false) 'f' ['a', 'l', 's', 'e'] (by decide) (fun _ _ => rfl) (.bool false)
  | int depth least most => exact writes_int least most
  | float depth finite => exact writes_float reads finite
  | string depth s => exact writes_string s
  | array all ih =>
    rw [compact, compactItems_eq]
    exact writes_array blank_nil blank_nil ih
  | object distinct all ih =>
    rw [compact, compactMembers_eq]
    exact writes_object blank_nil blank_nil blank_nil ih

theorem writes_indented {depth : Nat} {j : Json} (within : j.Within depth) (level : Nat) :
    Writes (j.indented level) j := by
  induction within generalizing level with
  | null depth => exact writes_compact reads (.null depth)
  | bool depth b => exact writes_compact reads (.bool depth b)
  | int depth least most => exact writes_compact reads (.int depth least most)
  | float depth finite => exact writes_compact reads (.float depth finite)
  | string depth s => exact writes_compact reads (.string depth s)
  | @array depth items all ih =>
    cases items with
    | nil => exact writes_compact reads (.array all)
    | cons item items =>
      have text : indented level (.array (item :: items)) =
          '[' :: itemsText (indented (level + 1)) (newLine (level + 1)) (newLine level) true (item :: items) := by
        rw [← indentedItems_eq (newLine level) (level + 1) (List.cons_ne_nil item items)]
        simp [indented]
      rw [text]
      exact writes_array (blank_newLine _) (blank_newLine _) fun item mem => ih item mem (level + 1)
  | @object depth members distinct all ih =>
    cases members with
    | nil => exact writes_compact reads (.object distinct all)
    | cons member members =>
      have text : indented level (.object (member :: members)) =
          '{' :: membersText (indented (level + 1)) (newLine (level + 1)) (newLine level) [' '] true
            (member :: members) := by
        rw [← indentedMembers_eq (newLine level) (level + 1) (List.cons_ne_nil member members)]
        simp [indented]
      rw [text]
      exact writes_object (blank_newLine _) (blank_newLine _) (by simp [Blank]) fun member mem =>
        ih member mem (level + 1)

end Values

theorem Writes.scan_ofList {cs : List Char} {j : Json} (writes : Writes cs j) :
    ∃ d : Document, Json.scan (String.ofList cs).toList = (d, []) ∧ d.Shows j := by
  obtain ⟨d, scanned, shown⟩ := writes.scan (2 * cs.length + 2) [] (by omega) (by simp [Ends])
  refine ⟨d, ?_, shown⟩
  rw [String.toList_ofList, Json.scan, ← scanned, List.append_nil]

end SolutionCheck.Json
