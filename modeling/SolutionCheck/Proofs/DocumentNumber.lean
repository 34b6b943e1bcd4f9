import SolutionCheck.Json.Reader
import SolutionCheck.Proofs.NumberText

/-!
Numbers in documents. A document admits no zero in front of other digits and no point without digits
behind it. What is written for an integer or a finite float keeps to that, and is scanned as a numeral
which has that value.
-/

namespace SolutionCheck

open Number

theorem head?_toDigits_ne_zero {n : Nat} (nonzero : n ≠ 0) : (Nat.toDigits 10 n).head? ≠ some '0' := by
  induction n using Nat.strongRecOn with
  | ind n ih =>
    rw [Nat.toDigits_eq_if (by decide)]
    split
    · simpa using nonzero
    · next large =>
      rw [List.head?_append_of_ne_nil _ Nat.toDigits_ne_nil]
      exact ih (n / 10) (by omega) (by omega)

/-- The digits before the point have no zero in front of others, and digits follow the point. -/
structure Admitted (cs : List Char) : Prop where
  unpadded : (cs.takeWhile Char.isDigit).head? = some '0' → (cs.takeWhile Char.isDigit).length = 1
  filled : ∀ rest, cs.dropWhile Char.isDigit = '.' :: rest → rest.takeWhile Char.isDigit ≠ []

section

variable {whole : List Char} (digits : ∀ c ∈ whole, c.isDigit = true)
  (unpadded : whole.head? = some '0' → whole.length = 1)

include digits unpadded

theorem admitted_point {fraction : List Char} (all : ∀ c ∈ fraction, c.isDigit = true) (filled : fraction ≠ [])
    (tail : List Char) : Admitted (whole ++ '.' :: (fraction ++ tail)) where
  unpadded := by rwa [takeWhile_isDigit digits (by simp)]
  filled rest point := by
    rw [dropWhile_isDigit digits (by simp)] at point
    cases point
    have front : (fraction ++ tail).takeWhile Char.isDigit = fraction ++ tail.takeWhile Char.isDigit :=
      List.takeWhile_append_of_pos all
    rw [front]
    simp [filled]

theorem admitted_whole {tail : List Char} (stops : ∀ c ∈ tail.head?, c.isDigit = false ∧ c ≠ '.') :
    Admitted (whole ++ tail) where
  unpadded := by rwa [takeWhile_isDigit digits fun c mem => (stops c mem).1]
  filled rest point := by
    rw [dropWhile_isDigit digits fun c mem => (stops c mem).1] at point
    exact absurd rfl (stops '.' (by rw [point]; rfl)).2

end

namespace Decimal

variable (d : Decimal)

theorem head?_take {k : Nat} (positive : k ≠ 0) :
    ((Nat.toDigits 10 d.digits).take k).head? = (Nat.toDigits 10 d.digits).head? := by
  rw [List.head?_take, if_neg positive]

theorem admitted_leading :
    Admitted ('0' :: '.' :: List.replicate (-d.leadingPlace - 1).toNat '0' ++ Nat.toDigits 10 d.digits) := by
  have digits : ∀ c ∈ List.replicate (-d.leadingPlace - 1).toNat '0' ++ Nat.toDigits 10 d.digits,
      c.isDigit = true := List.forall_mem_append.2 ⟨zeros_isDigit _, fun _ => isDigit_of_mem⟩
  have zero : ∀ c ∈ ['0'], c.isDigit = true := by simp
  have written := admitted_point zero (fun _ => rfl) digits (by simp [Nat.toDigits_ne_nil]) []
  rwa [List.append_nil] at written

variable {d} (nonzero : d.digits ≠ 0)

include nonzero

theorem unpadded_of_head? {whole : List Char} (head : whole.head? = (Nat.toDigits 10 d.digits).head?) :
    whole.head? = some '0' → whole.length = 1 :=
  fun zero => absurd (head.symm.trans zero) (head?_toDigits_ne_zero nonzero)

theorem admitted_trailing :
    Admitted (Nat.toDigits 10 d.digits ++ List.replicate d.exponent.toNat '0' ++ ['.', '0']) := by
  refine admitted_point ?_ (unpadded_of_head? nonzero ?_) (by simp) (List.cons_ne_nil '0' []) []
  · exact List.forall_mem_append.2 ⟨fun _ => isDigit_of_mem, zeros_isDigit _⟩
  · rw [List.head?_append_of_ne_nil _ Nat.toDigits_ne_nil]

theorem admitted_inside (below : d.exponent < 0) (inside : 0 ≤ d.leadingPlace) :
    Admitted ((Nat.toDigits 10 d.digits).take (d.leadingPlace + 1).toNat ++
      '.' :: (Nat.toDigits 10 d.digits).drop (d.leadingPlace + 1).toNat) := by
  have lead := d.leadingPlace_eq
  have filled : (Nat.toDigits 10 d.digits).drop (d.leadingPlace + 1).toNat ≠ [] := by
    rw [ne_eq, List.drop_eq_nil_iff]
    omega
  have written := admitted_point (d.take_isDigit (d.leadingPlace + 1).toNat)
    (unpadded_of_head? nonzero (d.head?_take (by omega))) (d.drop_isDigit _) filled []
  rwa [List.append_nil] at written

theorem admitted_power (tail : List Char) (stops : ∀ c ∈ tail.head?, c.isDigit = false ∧ c ≠ '.') :
    Admitted ((Nat.toDigits 10 d.digits).take 1 ++
      (if ((Nat.toDigits 10 d.digits).drop 1).isEmpty then [] else '.' :: (Nat.toDigits 10 d.digits).drop 1) ++
      tail) := by
  have first := unpadded_of_head? nonzero (d.head?_take one_ne_zero)
  rw [List.append_assoc]
  split
  · exact admitted_whole (d.take_isDigit 1) first stops
  · next more =>
    exact admitted_point (d.take_isDigit 1) first (d.drop_isDigit 1) (by simpa using more) tail

end Decimal

namespace FloatStyle

theorem admitted_layOut (style : FloatStyle) {d : Decimal} (nonzero : d.digits ≠ 0) :
    Admitted (style.layOut d) := by
  simp only [layOut]
  split
  · split
    · exact d.admitted_trailing nonzero
    · split
      · next inside => exact d.admitted_inside nonzero (by omega) inside
      · exact d.admitted_leading
  · rw [List.append_assoc]
    exact d.admitted_power nonzero ('e' :: _) (by simp)

theorem digits_shortest_ne_zero (tie : Tie) {x : Binary64} (finite : x.isFinite = true)
    (nonzero : x.isZero = false) : (Decimal.shortest tie x).digits ≠ 0 := by
  intro none
  have reads := Decimal.readsAs_shortest tie finite
  rw [Decimal.readsAs, none, Binary64.ofDecimal, if_pos rfl, beq_iff_eq] at reads
  rw [← reads] at nonzero
  cases nonzero

theorem admitted_of_digits (style : FloatStyle) {x : Binary64} (finite : x.isFinite = true) {cs : List Char}
    (text : style.digits x = signed x.negative cs) : Admitted cs := by
  have number := Binary64.isNaN_of_isFinite finite
  have limited := Binary64.isInfinite_of_isFinite finite
  have body {other : List Char} (same : style.digits x = signed x.negative other) : cs = other := by
    rw [text] at same
    cases negative : x.negative <;> simpa [signed, negative] using same
  cases zero : x.isZero with
  | true =>
    have same : cs = ['0'] ++ '.' :: (['0'] ++ []) := by
      apply body
      simp only [digits, number, limited, zero, signed]
      cases x.negative <;> rfl
    rw [same]
    exact admitted_point (by simp) (fun _ => rfl) (by simp) (by simp) []
  | false =>
    have same : cs = style.layOut (Decimal.shortest style.tie x) := by
      apply body
      simp only [digits, number, limited, zero, signed]
      cases x.negative <;> rfl
    rw [same]
    exact style.admitted_layOut (digits_shortest_ne_zero style.tie finite zero)

end FloatStyle

theorem signed_append (negative : Bool) (cs rest : List Char) :
    signed negative cs ++ rest = signed negative (cs ++ rest) := by
  cases negative <;> rfl

theorem splitSign_plus {plus : List Char} {exponent : Int} (sign : Plus plus exponent) (rest : List Char) :
    splitSign (plus ++ (intDigits exponent ++ rest)) =
      (decide (exponent < 0), Nat.toDigits 10 exponent.natAbs ++ rest) := by
  rcases sign with rfl | ⟨rfl, above⟩
  · obtain ⟨c, digits, text, digit⟩ := toDigits_cons exponent.natAbs
    rw [List.nil_append, intDigits_eq, text, signed_append, List.cons_append, splitSign_signed _ digit]
  · simp [splitSign, intDigits, Int.not_lt.2 above]

namespace Json

theorem scanExponent_eq (negative : Bool) (whole fraction cs : List Char) :
    scanExponent negative whole fraction cs =
      let (down, rest) := splitSign cs
      let power := rest.takeWhile Char.isDigit
      if power.isEmpty then (.brokenNumber rest.isEmpty, rest)
      else
        let size : Int := Nat.ofDigitChars 10 power 0
        (.number ⟨negative, whole, fraction, if down then -size else size, false⟩, rest.dropWhile Char.isDigit) := by
  rcases cs with _ | ⟨c, cs⟩
  · rfl
  · by_cases plus : c = '+'
    · subst plus
      rfl
    · by_cases minus : c = '-'
      · subst minus
        rfl
      · simp [scanExponent, splitSign, plus, minus]

/-- What may follow a value: nothing, a comma, the end of what holds it, or a blank before that. -/
def Ends (rest : List Char) : Prop := ∀ c ∈ rest.head?, c ∈ [',', ']', '}', ' ', '\n']

variable {rest : List Char} (ends : Ends rest)

include ends

theorem Ends.isDigit : ∀ c ∈ rest.head?, c.isDigit = false := by
  intro c mem
  have closing := ends c mem
  simp only [List.mem_cons, List.not_mem_nil, or_false] at closing
  rcases closing with rfl | rfl | rfl | rfl | rfl <;> rfl

theorem Ends.ne_of_not_mem {c : Char} (other : c ∉ [',', ']', '}', ' ', '\n']) (after : List Char) :
    rest ≠ c :: after := by
  rintro rfl
  exact other (ends c rfl)

theorem scanAfterDigits_of_ends (negative : Bool) (whole fraction : List Char) (integral : Bool) :
    scanAfterDigits negative whole fraction integral rest =
      (.number ⟨negative, whole, fraction, 0, integral⟩, rest) := by
  unfold scanAfterDigits
  split
  · exact absurd rfl (ends.ne_of_not_mem (by decide) _)
  · exact absurd rfl (ends.ne_of_not_mem (by decide) _)
  · rfl

theorem scanExponent_intDigits (negative : Bool) (whole fraction : List Char) {plus : List Char}
    {exponent : Int} (sign : Plus plus exponent) :
    scanExponent negative whole fraction (plus ++ (intDigits exponent ++ rest)) =
      (.number ⟨negative, whole, fraction, exponent, false⟩, rest) := by
  have all : ∀ c ∈ Nat.toDigits 10 exponent.natAbs, c.isDigit = true := fun _ => isDigit_of_mem
  rw [scanExponent_eq, splitSign_plus sign]
  simp only [takeWhile_isDigit all ends.isDigit, dropWhile_isDigit all ends.isDigit, List.isEmpty_iff,
    Nat.toDigits_ne_nil, if_false, Nat.ofDigitChars_ten_toDigits, signed_natAbs]

theorem scanNumber_toDigits (negative : Bool) (n : Nat) :
    scanNumber negative (Nat.toDigits 10 n ++ rest) =
      (.number ⟨negative, Nat.toDigits 10 n, [], 0, true⟩, rest) := by
  have all : ∀ c ∈ Nat.toDigits 10 n, c.isDigit = true := fun _ => isDigit_of_mem
  have padded : ¬ ((Nat.toDigits 10 n).head? = some '0' ∧ 1 < (Nat.toDigits 10 n).length) := by
    rintro ⟨zero, longer⟩
    by_cases nonzero : n = 0
    · subst nonzero
      simp at longer
    · exact head?_toDigits_ne_zero nonzero zero
  unfold scanNumber
  simp only [takeWhile_isDigit all ends.isDigit, dropWhile_isDigit all ends.isDigit, List.isEmpty_iff,
    Nat.toDigits_ne_nil, if_false, if_neg padded]
  split
  · exact absurd rfl (ends.ne_of_not_mem (by decide) _)
  · exact scanAfterDigits_of_ends ends ..

theorem scanAfterDigits_of_mark {tail : List Char} {exponent : Int} (mark : Mark tail exponent)
    (negative : Bool) (whole fraction : List Char) :
    scanAfterDigits negative whole fraction false (tail ++ rest) =
      (.number ⟨negative, whole, fraction, exponent, false⟩, rest) := by
  cases mark with
  | none => rw [List.nil_append, scanAfterDigits_of_ends ends]
  | power sign =>
    rw [List.cons_append, List.append_assoc]
    exact scanExponent_intDigits ends negative whole fraction sign

omit ends

/-- The text of a float is scanned as a numeral to whose value the float is nearest, whatever follows. -/
theorem scanNumber_of_spells {cs : List Char} {q : ℚ} (spells : Spells cs q) (admitted : Admitted cs)
    (negative : Bool) : ∃ n : Numeral, n.integral = false ∧
      Binary64.ofDecimal n.negative n.digits n.exponent = Binary64.nearest negative q ∧
      ∀ {rest : List Char}, Ends rest → scanNumber negative (cs ++ rest) = (.number n, rest) := by
  obtain ⟨unpadded, pointed⟩ := admitted
  have notPadded {whole : List Char} (single : whole.head? = some '0' → whole.length = 1) :
      ¬ (whole.head? = some '0' ∧ 1 < whole.length) := by
    rintro ⟨zero, longer⟩
    have one := single zero
    omega
  cases spells with
  | @point whole fraction tail exponent filled wholeDigits digits mark =>
    have point (text : List Char) : ∀ c ∈ ('.' :: text).head?, c.isDigit = false := by simp
    rw [takeWhile_isDigit wholeDigits (point _)] at unpadded
    have some : fraction ≠ [] := by
      have digits' := pointed _ (dropWhile_isDigit wholeDigits (point _))
      rwa [takeWhile_isDigit digits mark.stops] at digits'
    refine ⟨⟨negative, whole, fraction, exponent, false⟩, rfl, Binary64.ofDecimal_eq_nearest ..,
      fun {rest} ends => ?_⟩
    have stops : ∀ c ∈ (tail ++ rest).head?, c.isDigit = false := by
      cases mark with
      | none => exact ends.isDigit
      | power => simp
    have text : whole ++ '.' :: (fraction ++ tail) ++ rest = whole ++ '.' :: (fraction ++ (tail ++ rest)) := by
      simp
    rw [text, scanNumber]
    simp only [takeWhile_isDigit wholeDigits (point _), dropWhile_isDigit wholeDigits (point _),
      takeWhile_isDigit digits stops, dropWhile_isDigit digits stops, List.isEmpty_iff, filled, some, if_false,
      if_neg (notPadded unpadded)]
    exact scanAfterDigits_of_mark ends mark negative _ _
  | @power whole plus exponent filled wholeDigits sign =>
    have mark (text : List Char) : ∀ c ∈ ('e' :: text).head?, c.isDigit = false := by simp
    rw [takeWhile_isDigit wholeDigits (mark _)] at unpadded
    have value : Binary64.ofDecimal negative (Nat.ofDigitChars 10 (whole ++ []) 0) (exponent - (0 : Nat)) =
        Binary64.nearest negative (Nat.ofDigitChars 10 whole 0 * 10 ^ exponent) := by
      rw [List.append_nil, Nat.cast_zero, Int.sub_zero]
      exact Binary64.ofDecimal_eq_nearest ..
    refine ⟨⟨negative, whole, [], exponent, false⟩, rfl, value, fun {rest} ends => ?_⟩
    have text : whole ++ 'e' :: (plus ++ intDigits exponent) ++ rest =
        whole ++ 'e' :: (plus ++ (intDigits exponent ++ rest)) := by
      simp
    rw [text, scanNumber]
    simp only [takeWhile_isDigit wholeDigits (mark _), dropWhile_isDigit wholeDigits (mark _),
      List.isEmpty_iff, filled, if_false, if_neg (notPadded unpadded)]
    exact scanExponent_intDigits ends negative whole [] sign

theorem value_int [Numerals] {n : Int} (least : -(Nat.pow 2 63 : Nat) ≤ n) (most : n < (Nat.pow 2 64 : Nat)) :
    Numeral.value ⟨decide (n < 0), Nat.toDigits 10 n.natAbs, [], 0, true⟩ = .ok (.int n) := by
  have size : (⟨decide (n < 0), Nat.toDigits 10 n.natAbs, [], 0, true⟩ : Numeral).digits = n.natAbs := by
    rw [Numeral.digits, List.append_nil, Nat.ofDigitChars_ten_toDigits]
  rw [Numeral.value, size]
  rcases Int.lt_or_le n 0 with below | above
  · have fits : n.natAbs ≤ Nat.pow 2 63 := by omega
    have nonzero : n.natAbs ≠ 0 := by omega
    have number : -(n.natAbs : Int) = n := by omega
    rw [if_neg (by simp [below]), if_pos ⟨rfl, decide_eq_true below, nonzero, fits⟩, number]
  · have fits : n.natAbs < Nat.pow 2 64 := by omega
    have number : (n.natAbs : Int) = n := by omega
    rw [if_pos ⟨rfl, by simp [above], fits⟩, number]

end Json

end SolutionCheck
