import SolutionCheck.Number.Notation
import SolutionCheck.Number.Reading
import SolutionCheck.Proofs.Shortest

/-!
Texts of numbers are read back as the numbers they were written for, whatever the style of the floats.
Read as an integer, the text of a float never counts: it holds a point, the mark of an exponent or a
word. A whole value may also stand without a point, and then reads as either kind.
-/

namespace SolutionCheck

open Number

section Digits

theorem isDigit_of_mem {n : Nat} {c : Char} (mem : c ∈ Nat.toDigits 10 n) : c.isDigit = true :=
  Nat.isDigit_of_mem_toDigits (by decide) (by decide) mem

theorem toDigits_cons (n : Nat) : ∃ c rest, Nat.toDigits 10 n = c :: rest ∧ c.isDigit = true := by
  obtain ⟨c, rest, digits⟩ := List.exists_cons_of_ne_nil (Nat.toDigits_ne_nil (n := n) (b := 10))
  exact ⟨c, rest, digits, isDigit_of_mem (n := n) (by simp [digits])⟩

theorem zeros_isDigit (k : Nat) : ∀ c ∈ List.replicate k '0', c.isDigit = true := by
  intro c mem
  rw [List.eq_of_mem_replicate mem]
  rfl

theorem ofDigitChars_zeros (n k : Nat) :
    Nat.ofDigitChars 10 (Nat.toDigits 10 n ++ List.replicate k '0') 0 = 10 ^ k * n := by
  rw [Nat.ofDigitChars_append, Nat.ofDigitChars_ten_toDigits, Nat.ofDigitChars_replicate_zero]

theorem zeros_ofDigitChars (n k : Nat) :
    Nat.ofDigitChars 10 (List.replicate k '0' ++ Nat.toDigits 10 n) 0 = n := by
  rw [Nat.ofDigitChars_append, Nat.ofDigitChars_replicate_zero, Nat.mul_zero, Nat.ofDigitChars_ten_toDigits]

variable {digits rest : List Char} (all : ∀ c ∈ digits, c.isDigit = true)
  (stops : ∀ c ∈ rest.head?, c.isDigit = false)

include all stops

theorem takeWhile_isDigit : (digits ++ rest).takeWhile Char.isDigit = digits := by
  rw [List.takeWhile_append_of_pos all]
  cases rest with
  | nil => simp
  | cons c rest => simp [stops c rfl]

theorem dropWhile_isDigit : (digits ++ rest).dropWhile Char.isDigit = rest := by
  rw [List.dropWhile_append_of_pos all]
  cases rest with
  | nil => rfl
  | cons c rest => simp [stops c rfl]

end Digits

section Signs

def signed (negative : Bool) (cs : List Char) : List Char := if negative then '-' :: cs else cs

theorem splitSign_signed (negative : Bool) {c : Char} {rest : List Char} (digit : c.isDigit = true) :
    splitSign (signed negative (c :: rest)) = (negative, c :: rest) := by
  cases negative with
  | true => rfl
  | false =>
    unfold signed splitSign
    split
    · next same =>
      cases same
      cases digit
    · next same =>
      cases same
      cases digit
    · rfl

theorem splitSign_toDigits (negative : Bool) (n : Nat) :
    splitSign (signed negative (Nat.toDigits 10 n)) = (negative, Nat.toDigits 10 n) := by
  obtain ⟨c, rest, digits, digit⟩ := toDigits_cons n
  rw [digits, splitSign_signed negative digit]

theorem intDigits_eq (n : Int) : intDigits n = signed (decide (n < 0)) (Nat.toDigits 10 n.natAbs) := by
  simp [intDigits, signed]

theorem mem_intDigits {n : Int} {c : Char} (mem : c ∈ intDigits n) : c.isDigit = true ∨ c = '-' := by
  unfold intDigits at mem
  split at mem
  · rcases List.mem_cons.1 mem with rfl | mem
    · exact .inr rfl
    · exact .inl (isDigit_of_mem mem)
  · exact .inl (isDigit_of_mem mem)

theorem signed_natAbs (n : Int) : (if decide (n < 0) = true then -(n.natAbs : Int) else n.natAbs) = n := by
  simp only [decide_eq_true_eq]
  split <;> omega

theorem readInt_signed (negative : Bool) (n : Nat) :
    readInt? (signed negative (Nat.toDigits 10 n)) = if fitsInt64 (if negative then -n else n)
      then some (.ofInt (if negative then -n else n)) else none := by
  have digits : (Nat.toDigits 10 n).all Char.isDigit = true := List.all_eq_true.2 fun _ => isDigit_of_mem
  simp [readInt?, splitSign_toDigits, digits, Nat.toDigits_ne_nil]

theorem ne_nil_of_readInt {cs : List Char} {n : Int64} (reads : readInt? cs = some n) : cs ≠ [] := by
  rintro rfl
  cases reads

theorem readInt_intDigits {n : Int} (fits : fitsInt64 n = true) :
    readInt? (intDigits n) = some (.ofInt n) := by
  rw [intDigits_eq, readInt_signed, signed_natAbs, if_pos fits]

end Signs

section Floats

def Plus (plus : List Char) (exponent : Int) : Prop := plus = [] ∨ plus = ['+'] ∧ 0 ≤ exponent

/-- The end of a float's text: nothing, or an exponent. -/
inductive Mark : List Char → Int → Prop
  | none : Mark [] 0
  | power {plus : List Char} {exponent : Int} (sign : Plus plus exponent) :
    Mark ('e' :: (plus ++ intDigits exponent)) exponent

/-- The text is one for the number that is unmistakably a float's: it holds a point or an exponent. -/
inductive Spells : List Char → ℚ → Prop
  | point (whole fraction : List Char) {tail : List Char} {exponent : Int} (filled : whole ≠ [])
    (wholeDigits : ∀ c ∈ whole, c.isDigit = true) (digits : ∀ c ∈ fraction, c.isDigit = true)
    (mark : Mark tail exponent) :
    Spells (whole ++ '.' :: (fraction ++ tail))
      (Nat.ofDigitChars 10 (whole ++ fraction) 0 * 10 ^ (exponent - fraction.length))
  | power (whole : List Char) {plus : List Char} {exponent : Int} (filled : whole ≠ [])
    (wholeDigits : ∀ c ∈ whole, c.isDigit = true) (sign : Plus plus exponent) :
    Spells (whole ++ 'e' :: (plus ++ intDigits exponent)) (Nat.ofDigitChars 10 whole 0 * 10 ^ exponent)

theorem Plus.readExponent {plus : List Char} {exponent : Int} (sign : Plus plus exponent) :
    readExponent? ('e' :: (plus ++ intDigits exponent)) = some exponent := by
  have split : splitSign (plus ++ intDigits exponent) =
      (decide (exponent < 0), Nat.toDigits 10 exponent.natAbs) := by
    rcases sign with rfl | ⟨rfl, above⟩
    · rw [List.nil_append, intDigits_eq, splitSign_toDigits]
    · simp [splitSign, intDigits, Int.not_lt.2 above]
  have digits : (Nat.toDigits 10 exponent.natAbs).all Char.isDigit = true :=
    List.all_eq_true.2 fun _ => isDigit_of_mem
  simp only [readExponent?, split, digits, Nat.toDigits_ne_nil, Nat.ofDigitChars_ten_toDigits, signed_natAbs,
    List.isEmpty_iff, ne_eq, not_true_eq_false, false_and, Bool.not_true, Bool.false_eq_true, or_self, if_false]

theorem Plus.mem {plus : List Char} {exponent : Int} (sign : Plus plus exponent) :
    ∀ c ∈ 'e' :: (plus ++ intDigits exponent), c.isDigit = true ∨ c ∈ ['.', 'e', '+', '-'] := by
  intro c mem
  have number := mem_intDigits (n := exponent) (c := c)
  rcases sign with rfl | ⟨rfl, -⟩ <;> simp at mem ⊢ <;> tauto

namespace Mark

variable {tail : List Char} {exponent : Int}

theorem readExponent (mark : Mark tail exponent) : readExponent? tail = some exponent := by
  cases mark with
  | none => rfl
  | power sign => exact sign.readExponent

theorem stops (mark : Mark tail exponent) : ∀ c ∈ tail.head?, c.isDigit = false := by
  cases mark with
  | none => simp
  | power sign => simp

theorem mem (mark : Mark tail exponent) : ∀ c ∈ tail, c.isDigit = true ∨ c ∈ ['.', 'e', '+', '-'] := by
  cases mark with
  | none => simp
  | power sign => exact sign.mem

end Mark

namespace Spells

variable {cs : List Char} {q : ℚ}

theorem congr {cs' : List Char} {q' : ℚ} (spells : Spells cs q) (text : cs' = cs) (number : q' = q) :
    Spells cs' q' := by rwa [text, number]

theorem readDecimal (spells : Spells cs q) (negative : Bool) :
    readDecimal? negative cs = some (Binary64.nearest negative q) := by
  cases spells with
  | @point whole fraction tail exponent filled wholeDigits digits mark =>
    have point : ∀ c ∈ ('.' :: (fraction ++ tail)).head?, c.isDigit = false := by simp
    simp [readDecimal?, takeWhile_isDigit wholeDigits point, dropWhile_isDigit wholeDigits point,
      takeWhile_isDigit digits mark.stops, dropWhile_isDigit digits mark.stops, filled, mark.readExponent,
      Binary64.ofDecimal_eq_nearest]
  | @power whole plus exponent filled wholeDigits sign =>
    have mark : ∀ c ∈ ('e' :: (plus ++ intDigits exponent)).head?, c.isDigit = false := by simp
    simp [readDecimal?, takeWhile_isDigit wholeDigits mark, dropWhile_isDigit wholeDigits mark, filled,
      sign.readExponent, Binary64.ofDecimal_eq_nearest]

theorem exists_digit (spells : Spells cs q) : ∃ c rest, cs = c :: rest ∧ c.isDigit = true := by
  cases spells with
  | point whole fraction filled wholeDigits digits mark =>
    obtain ⟨c, rest, rfl⟩ := List.exists_cons_of_ne_nil filled
    exact ⟨c, _, rfl, wholeDigits c List.mem_cons_self⟩
  | power whole filled wholeDigits sign =>
    obtain ⟨c, rest, rfl⟩ := List.exists_cons_of_ne_nil filled
    exact ⟨c, _, rfl, wholeDigits c List.mem_cons_self⟩

theorem not_all_isDigit (spells : Spells cs q) : cs.all Char.isDigit = false := by
  cases spells <;> simp

theorem mem (spells : Spells cs q) : ∀ c ∈ cs, c.isDigit = true ∨ c ∈ ['.', 'e', '+', '-'] := by
  intro c mem
  cases spells with
  | point whole fraction filled wholeDigits digits mark =>
    simp only [List.mem_append, List.mem_cons] at mem
    rcases mem with mem | rfl | mem | mem
    · exact .inl (wholeDigits c mem)
    · simp
    · exact .inl (digits c mem)
    · exact mark.mem c mem
  | power whole filled wholeDigits sign =>
    rcases List.mem_append.1 mem with mem | mem
    · exact .inl (wholeDigits c mem)
    · exact sign.mem c mem

theorem zero : Spells ['0', '.', '0'] 0 :=
  (point ['0'] ['0'] (by simp) (by simp) (by simp) .none).congr rfl (by simp [Nat.ofDigitChars])

end Spells

theorem toLower_of_isDigit {c : Char} (digit : c.isDigit = true) : c.toLower = c := by
  have notUpper : ¬ (c.val ≥ 'A'.val ∧ c.val ≤ 'Z'.val) := by
    rw [Char.isDigit_iff_toNat] at digit
    rintro ⟨upper, -⟩
    have least : 'A'.toNat ≤ c.toNat := upper
    have apart : '9'.toNat < 'A'.toNat := by decide
    omega
  exact dif_neg notUpper

theorem ne_nil_of_readFloat {cs : List Char} {x : Binary64} (reads : readFloat? cs = some x) : cs ≠ [] := by
  rintro rfl
  cases reads

theorem readFloat_signed (negative : Bool) {c : Char} {rest : List Char} (digit : c.isDigit = true) :
    readFloat? (signed negative (c :: rest)) = readDecimal? negative (c :: rest) := by
  have words (word : String) (first : ∀ d ∈ word.toList.head?, d.isDigit = false) :
      String.ofList ((c :: rest).map Char.toLower) ≠ word := by
    rintro rfl
    have letter := first c (by simp [toLower_of_isDigit digit])
    cases letter.symm.trans digit
  rw [readFloat?, splitSign_signed negative digit]
  simp only [words "inf" (by simp), words "infinity" (by simp), words "nan" (by simp), or_self, if_false]

theorem readFloat_toDigits (negative : Bool) (n : Nat) :
    readFloat? (signed negative (Nat.toDigits 10 n)) = some (Binary64.nearest negative n) := by
  have digits : ∀ c ∈ Nat.toDigits 10 n, c.isDigit = true := fun _ => isDigit_of_mem
  have ends : ∀ c ∈ ([] : List Char).head?, c.isDigit = false := by simp
  have whole := takeWhile_isDigit digits ends
  have after := dropWhile_isDigit digits ends
  rw [List.append_nil] at whole after
  have reads : readDecimal? negative (Nat.toDigits 10 n) = some (Binary64.nearest negative n) := by
    simp [readDecimal?, whole, after, readExponent?, Binary64.ofDecimal_eq_nearest, Nat.toDigits_ne_nil]
  obtain ⟨c, rest, text, digit⟩ := toDigits_cons n
  rw [text] at reads ⊢
  rw [readFloat_signed negative digit, reads]

theorem Spells.readFloat {cs : List Char} {q : ℚ} (spells : Spells cs q) (negative : Bool) :
    readFloat? (signed negative cs) = some (Binary64.nearest negative q) := by
  obtain ⟨c, rest, rfl, digit⟩ := spells.exists_digit
  rw [readFloat_signed negative digit, spells.readDecimal]

theorem Spells.readInt {cs : List Char} {q : ℚ} (spells : Spells cs q) (negative : Bool) :
    readInt? (signed negative cs) = none := by
  have mixed := spells.not_all_isDigit
  obtain ⟨c, rest, rfl, digit⟩ := spells.exists_digit
  simp [readInt?, splitSign_signed negative digit, mixed]

end Floats

namespace Decimal

variable (d : Decimal)

theorem leadingPlace_eq : d.leadingPlace = d.exponent + (Nat.toDigits 10 d.digits).length - 1 := rfl

theorem take_isDigit (k : Nat) : ∀ c ∈ (Nat.toDigits 10 d.digits).take k, c.isDigit = true :=
  fun _ mem => isDigit_of_mem (List.mem_of_mem_take mem)

theorem drop_isDigit (k : Nat) : ∀ c ∈ (Nat.toDigits 10 d.digits).drop k, c.isDigit = true :=
  fun _ mem => isDigit_of_mem (List.mem_of_mem_drop mem)

theorem spells_trailing (above : 0 ≤ d.exponent) :
    Spells (Nat.toDigits 10 d.digits ++ List.replicate d.exponent.toNat '0' ++ ['.', '0']) d.value := by
  have shift : d.exponent = (d.exponent.toNat : Int) := by omega
  have number : Nat.ofDigitChars 10 (Nat.toDigits 10 d.digits ++ List.replicate d.exponent.toNat '0' ++ ['0']) 0 =
      10 ^ (d.exponent.toNat + 1) * d.digits := by
    rw [List.append_assoc, ← List.replicate_succ', ofDigitChars_zeros]
  refine (Spells.point (Nat.toDigits 10 d.digits ++ List.replicate d.exponent.toNat '0') ['0']
    (by simp [Nat.toDigits_ne_nil]) ?_ (by simp) .none).congr (by simp) ?_
  · exact List.forall_mem_append.2 ⟨fun _ => isDigit_of_mem, zeros_isDigit _⟩
  · rw [number, value]
    generalize d.exponent.toNat = k at shift
    rw [shift]
    push_cast
    rw [zpow_natCast, pow_succ]
    norm_num
    ring

theorem spells_inside (below : d.exponent < 0) (inside : 0 ≤ d.leadingPlace) :
    Spells ((Nat.toDigits 10 d.digits).take (d.leadingPlace + 1).toNat ++
      '.' :: (Nat.toDigits 10 d.digits).drop (d.leadingPlace + 1).toNat) d.value := by
  have lead := d.leadingPlace_eq
  refine (Spells.point ((Nat.toDigits 10 d.digits).take (d.leadingPlace + 1).toNat)
    ((Nat.toDigits 10 d.digits).drop (d.leadingPlace + 1).toNat) ?_
    (d.take_isDigit _) (d.drop_isDigit _) .none).congr (by simp) ?_
  · simp [Nat.toDigits_ne_nil]
    omega
  · rw [List.take_append_drop, Nat.ofDigitChars_ten_toDigits, value, List.length_drop]
    congr 2
    omega

theorem spells_leading (outside : d.leadingPlace < 0) :
    Spells ('0' :: '.' :: List.replicate (-d.leadingPlace - 1).toNat '0' ++ Nat.toDigits 10 d.digits) d.value := by
  have lead := d.leadingPlace_eq
  have number : Nat.ofDigitChars 10 (['0'] ++ (List.replicate (-d.leadingPlace - 1).toNat '0' ++
      Nat.toDigits 10 d.digits)) 0 = d.digits :=
    zeros_ofDigitChars d.digits ((-d.leadingPlace - 1).toNat + 1)
  refine (Spells.point ['0'] (List.replicate (-d.leadingPlace - 1).toNat '0' ++ Nat.toDigits 10 d.digits)
    (by simp) (by simp) ?_ .none).congr (by simp) ?_
  · exact List.forall_mem_append.2 ⟨zeros_isDigit _, fun _ => isDigit_of_mem⟩
  · rw [number, value, List.length_append, List.length_replicate]
    congr 2
    omega

theorem spells_power {plus : List Char} (sign : Plus plus d.leadingPlace) :
    Spells ((Nat.toDigits 10 d.digits).take 1 ++
      (if ((Nat.toDigits 10 d.digits).drop 1).isEmpty then [] else '.' :: (Nat.toDigits 10 d.digits).drop 1) ++
      'e' :: (plus ++ intDigits d.leadingPlace)) d.value := by
  have lead := d.leadingPlace_eq
  have size : 0 < (Nat.toDigits 10 d.digits).length := Nat.length_toDigits_pos
  have filled : (Nat.toDigits 10 d.digits).take 1 ≠ [] := by simp [Nat.toDigits_ne_nil]
  split
  · next single =>
    have one := List.drop_eq_nil_iff.1 (List.isEmpty_iff.1 single)
    refine (Spells.power _ filled (d.take_isDigit 1) sign).congr (by simp) ?_
    rw [List.take_of_length_le one, Nat.ofDigitChars_ten_toDigits, value]
    congr 2
    omega
  · refine (Spells.point _ ((Nat.toDigits 10 d.digits).drop 1) filled (d.take_isDigit 1) (d.drop_isDigit 1)
      (.power sign)).congr (by simp) ?_
    rw [List.take_append_drop, Nat.ofDigitChars_ten_toDigits, value, List.length_drop]
    congr 2
    omega

end Decimal

namespace Binary64

variable {x : Binary64}

theorem isNaN_of_isInfinite (infinite : x.isInfinite = true) : x.isNaN = false := by
  simp only [isNaN, isInfinite, beq_iff_eq] at infinite ⊢
  simp [infinite]

theorem isNaN_of_isFinite (finite : x.isFinite = true) : x.isNaN = false := by
  simp only [isNaN, isFinite, decide_eq_true_eq] at finite ⊢
  exact decide_eq_false (by omega)

theorem isInfinite_of_isFinite (finite : x.isFinite = true) : x.isInfinite = false := by
  simp only [isInfinite, isFinite, decide_eq_true_eq] at finite ⊢
  exact beq_false_of_ne (by omega)

theorem isNaN_or_isInfinite_or_isFinite (x : Binary64) :
    x.isNaN = true ∨ x.isInfinite = true ∨ x.isFinite = true := by
  simp only [isNaN, isInfinite, isFinite, decide_eq_true_eq, beq_iff_eq]
  omega

theorem eq_zero_of_isZero (holds : x.isZero = true) : x = zero x.negative := by
  have magnitude : x.magnitude = ⟨0, by decide⟩ := Fin.ext (eq_of_beq holds)
  cases x
  cases magnitude
  rfl

theorem eq_infinity_of_isInfinite (holds : x.isInfinite = true) : x = infinity x.negative := by
  have magnitude : x.magnitude = ⟨infinityMagnitude, by decide⟩ := Fin.ext (eq_of_beq holds)
  cases x
  cases magnitude
  rfl

end Binary64

namespace FloatStyle

theorem spells_layOut (style : FloatStyle) (d : Decimal) : Spells (style.layOut d) d.value := by
  simp only [layOut]
  split
  · split
    · next above => exact d.spells_trailing above
    · next below =>
      split
      · next inside => exact d.spells_inside (by omega) inside
      · next outside => exact d.spells_leading (by omega)
  · have sign : Plus (if style.plusSign = true ∧ 0 ≤ d.leadingPlace then ['+'] else []) d.leadingPlace := by
      split
      · next positive => exact .inr ⟨rfl, positive.2⟩
      · exact .inl rfl
    exact (d.spells_power sign).congr (List.append_assoc _ _ _) rfl

variable (style : FloatStyle) {x : Binary64}

theorem digits_of_isInfinite (infinite : x.isInfinite = true) :
    style.digits x = signed x.negative ['i', 'n', 'f'] := by
  simp only [digits, Binary64.isNaN_of_isInfinite infinite, infinite, signed]
  cases x.negative <;> rfl

theorem digits_of_isFinite (finite : x.isFinite = true) :
    ∃ cs q, style.digits x = signed x.negative cs ∧ Spells cs q ∧ Binary64.nearest x.negative q = x := by
  have number := Binary64.isNaN_of_isFinite finite
  have limited := Binary64.isInfinite_of_isFinite finite
  cases zero : x.isZero with
  | true =>
    refine ⟨['0', '.', '0'], 0, ?_, Spells.zero, ?_⟩
    · simp only [digits, number, limited, zero, signed]
      cases x.negative <;> rfl
    · rw [Binary64.nearest_zero, ← Binary64.eq_zero_of_isZero zero]
  | false =>
    refine ⟨style.layOut (Decimal.shortest style.tie x), _, ?_, style.spells_layOut _, ?_⟩
    · simp only [digits, number, limited, zero, signed]
      cases x.negative <;> rfl
    · exact (Decimal.readsAs_iff x _).1 (Decimal.readsAs_shortest style.tie finite)

theorem readFloat_digits (x : Binary64) :
    readFloat? (style.digits x) = some (if x.isNaN then .nan false else x) := by
  rcases x.isNaN_or_isInfinite_or_isFinite with nan | infinite | finite
  · rw [digits, if_pos nan, if_pos nan]
    rfl
  · rw [style.digits_of_isInfinite infinite, Binary64.isNaN_of_isInfinite infinite, if_neg Bool.false_ne_true,
      Binary64.eq_infinity_of_isInfinite infinite]
    cases x.negative <;> rfl
  · obtain ⟨cs, q, text, spells, nearest⟩ := style.digits_of_isFinite finite
    rw [text, spells.readFloat, nearest, Binary64.isNaN_of_isFinite finite, if_neg Bool.false_ne_true]

theorem readInt_digits (x : Binary64) : readInt? (style.digits x) = none := by
  rcases x.isNaN_or_isInfinite_or_isFinite with nan | infinite | finite
  · rw [digits, if_pos nan]
    rfl
  · rw [style.digits_of_isInfinite infinite]
    cases x.negative <;> rfl
  · obtain ⟨cs, q, text, spells, -⟩ := style.digits_of_isFinite finite
    rw [text, spells.readInt]

end FloatStyle

end SolutionCheck
