import Mathlib.Data.List.DropRight
import MaskedReport.Proofs.Grammar

/-!
# Numerals

The texts of whole numbers and of finite doubles are numbers of the JSON grammar:
`Json.isNumber_wholeText` and `Binary64.isNumber_text`. A double that is not zero has digits that
are not zero, whichever grid they are found on.
-/

set_option autoImplicit false

namespace MaskedReport

open Json

/-! ## Digits of whole numbers -/

namespace Decimal

/-- The digits of a number are digits. -/
theorem isDigit_of_mem_digitsOf {n : Nat} {c : Char} (h : c ∈ digitsOf n) : c.isDigit = true :=
  Nat.isDigit_of_mem_toDigits (by decide) (by decide) h

/-- A number has digits. -/
theorem digitsOf_ne_nil (n : Nat) : digitsOf n ≠ [] := Nat.toDigits_ne_nil

/-- The digits of a number are some digits. -/
theorem isDigits_digitsOf (n : Nat) : IsDigits (digitsOf n) :=
  ⟨digitsOf_ne_nil n, fun _ => isDigit_of_mem_digitsOf⟩

/-- A zero is some digits. -/
theorem isDigits_zero : IsDigits ['0'] := isDigits_digitsOf 0

/-- The first digit of a number that is not zero is not zero. -/
theorem head_digitsOf {n : Nat} (h : 0 < n) : ∃ c rest, digitsOf n = c :: rest ∧ c ≠ '0' := by
  induction n using Nat.strong_induction_on with
  | _ n ih =>
    rw [digitsOf, Nat.toDigits_eq_if (by decide)]
    by_cases hsmall : n < 10
    · rw [if_pos hsmall]
      have hdigit : ∀ d < 10, 0 < d → Nat.digitChar d ≠ '0' := by decide
      exact ⟨_, [], rfl, hdigit n hsmall h⟩
    · rw [if_neg hsmall]
      obtain ⟨c, rest, hc, hzero⟩ := ih (n / 10) (by omega) (by omega)
      exact ⟨c, rest ++ [Nat.digitChar (n % 10)], by rw [← digitsOf, hc]; rfl, hzero⟩

/-- Digits that begin with no zero are a whole part. -/
theorem isWhole_of_head {s : List Char} (hdigits : ∀ c ∈ s, c.isDigit = true)
    (hhead : ∃ c rest, s = c :: rest ∧ c ≠ '0') : IsWhole s := by
  obtain ⟨c, rest, rfl, hzero⟩ := hhead
  have hall := List.forall_mem_cons.mp hdigits
  exact .positive c rest hall.1 hzero hall.2

/-- The digits of a number are a whole part. -/
theorem isWhole_digitsOf (n : Nat) : IsWhole (digitsOf n) := by
  rcases Nat.eq_zero_or_pos n with rfl | hn
  · rw [digitsOf, Nat.toDigits_zero]
    exact .zero
  · exact isWhole_of_head (fun _ => isDigit_of_mem_digitsOf) (head_digitsOf hn)

/-! ## Digits of doubles -/

/-- The significant digits are all digits without the zeros at their end. -/
theorem significant_eq (n : Nat) : significant n = (digitsOf n).rdropWhile (· == '0') := rfl

/-- The significant digits are digits. -/
theorem isDigit_of_mem_significant {n : Nat} {c : Char} (h : c ∈ significant n) :
    c.isDigit = true :=
  isDigit_of_mem_digitsOf ((List.rdropWhile_prefix _ _).subset h)

/-- The digits of a number that is not zero begin with the same digit, which is not dropped. -/
theorem head_significant {n : Nat} (h : 0 < n) :
    ∃ c rest, significant n = c :: rest ∧ c ≠ '0' := by
  obtain ⟨c, rest, hdigits, hzero⟩ := head_digitsOf h
  have hbegins : significant n <+: c :: rest := by
    rw [← hdigits, significant_eq]
    exact List.rdropWhile_prefix _ _
  have hne : significant n ≠ [] := by
    intro hnil
    rw [significant_eq, List.rdropWhile_eq_nil_iff, hdigits] at hnil
    exact hzero (by simpa using hnil c List.mem_cons_self)
  cases hkept : significant n with
  | nil => exact absurd hkept hne
  | cons d kept =>
    rw [hkept, List.cons_prefix_cons] at hbegins
    exact ⟨d, kept, rfl, by rw [hbegins.1]; exact hzero⟩

/-- The text of an exponent after its mark is an exponent. -/
theorem isExponent_exponentText (e : Int) : IsExponent ('e' :: exponentText e) := by
  have hdigits : IsDigits (if (digitsOf e.natAbs).length < 2 then '0' :: digitsOf e.natAbs
      else digitsOf e.natAbs) := by
    split
    · refine ⟨List.cons_ne_nil _ _, List.forall_mem_cons.mpr ⟨rfl, ?_⟩⟩
      exact fun _ => isDigit_of_mem_digitsOf
    · exact isDigits_digitsOf _
  by_cases hnegative : e < 0
  · rw [exponentText, if_pos hnegative]
    exact .power 'e' ['-'] _ (by simp) (by simp) hdigits
  · rw [exponentText, if_neg hnegative]
    exact .power 'e' ['+'] _ (by simp) (by simp) hdigits

/-- What is written of a decimal whose digits are not zero is a number, and so it is after a
sign. -/
theorem isNumber_written {d : Decimal} (h : 0 < d.digits) {sign : List Char}
    (hsign : sign = [] ∨ sign = ['-']) : IsNumber (sign ++ d.written) := by
  have hdigits : ∀ c ∈ significant d.digits, c.isDigit = true :=
    fun _ => isDigit_of_mem_significant
  obtain ⟨c, rest, hhead, hzero⟩ := head_significant h
  have hzeros : ∀ n, ∀ c ∈ List.replicate n '0', c.isDigit = true := by
    intro n c hc
    rw [List.eq_of_mem_replicate hc]
    rfl
  have hnumber : ∀ whole fraction exponent, IsWhole whole → IsFraction fraction →
      IsExponent exponent → whole ++ fraction ++ exponent = d.written →
      IsNumber (sign ++ d.written) := by
    intro whole fraction exponent hwhole hfraction hexponent hparts
    rw [← hparts]
    simpa using IsNumber.parts sign whole fraction exponent hsign hwhole hfraction hexponent
  rw [hhead] at hdigits
  by_cases hplaces : -4 < d.point ∧ d.point ≤ 16
  · by_cases hsmall : d.point ≤ 0
    · refine hnumber ['0'] ('.' :: (List.replicate d.point.natAbs '0' ++ c :: rest)) [] .zero
        (.places _ ⟨by simp, ?_⟩) .none ?_
      · exact List.forall_mem_append.mpr ⟨hzeros _, hdigits⟩
      · simp [written, hplaces, hsmall, hhead]
    by_cases hwhole : ((c :: rest).length : Int) ≤ d.point
    · refine hnumber (c :: (rest ++ List.replicate (d.point - (c :: rest).length).natAbs '0'))
        ['.', '0'] [] ?_ (.places ['0'] Decimal.isDigits_zero) .none ?_
      · have hall := List.forall_mem_cons.mp hdigits
        exact .positive c _ hall.1 hzero (List.forall_mem_append.mpr ⟨hall.2, hzeros _⟩)
      · simp only [written, hhead, if_pos hplaces, if_neg hsmall, if_pos hwhole]
        simp
    · refine hnumber ((c :: rest).take d.point.natAbs) ('.' :: (c :: rest).drop d.point.natAbs) []
        ?_ (.places _ ⟨?_, ?_⟩) .none ?_
      · refine isWhole_of_head (fun x hx => hdigits x (List.mem_of_mem_take hx)) ?_
        obtain ⟨k, hk⟩ : ∃ k, d.point.natAbs = k + 1 := ⟨d.point.natAbs - 1, by omega⟩
        exact ⟨c, rest.take k, by rw [hk, List.take_succ_cons], hzero⟩
      · intro hnil
        rw [List.drop_eq_nil_iff] at hnil
        omega
      · exact fun x hx => hdigits x (List.mem_of_mem_drop hx)
      · simp only [written, hhead, if_pos hplaces, if_neg hsmall, if_neg hwhole]
        simp
  · have hall := List.forall_mem_cons.mp hdigits
    have hfirst : IsWhole [c] := .positive c [] hall.1 hzero nofun
    cases rest with
    | nil =>
      refine hnumber [c] [] _ hfirst .none (isExponent_exponentText (d.point - 1)) ?_
      simp [written, hplaces, hhead]
    | cons e more =>
      refine hnumber [c] ('.' :: e :: more) _ hfirst (.places _ ⟨by simp, hall.2⟩)
        (isExponent_exponentText (d.point - 1)) ?_
      simp [written, hplaces, hhead]

/-! ## Points of a grid -/

/-- Zero is on the lower side of every bound that is not zero. -/
theorem atMost_zero (e : Int) (bound : Nat) : atMost 0 e bound = true := by
  unfold atMost
  split
  · simp
  · simp

/-- Zero is at least no bound above zero. -/
theorem atLeast_zero {bound : Nat} (h : 0 < bound) (e : Int) : atLeast 0 e bound = false := by
  have hpower : 0 < pow10 e.natAbs := Nat.pow_pos (by decide)
  unfold atLeast
  split
  · simp only [Nat.zero_mul, Nat.le_zero_eq, Nat.mul_eq_zero, decide_eq_false_iff_not]
    omega
  · simp only [Nat.zero_mul, Nat.le_zero_eq, decide_eq_false_iff_not]
    omega

/-- Of two neighbours on a grid one that is inside is taken, so it is not zero where zero is not
inside. -/
theorem pos_of_neighbours {inside : Nat → Bool} (hzero : inside 0 = false) {b c : Nat}
    {upper lower : Bool}
    (h : (match inside b, inside (b + 1) with
      | false, false => none
      | true, false => some b
      | false, true => some (b + 1)
      | true, true =>
        if upper then some (b + 1)
        else if lower then some b
        else some (if b % 2 = 0 then b else b + 1)) = some c) : 0 < c := by
  have hpos : inside b = true → 0 < b := by
    intro hb
    rcases Nat.eq_zero_or_pos b with rfl | hb'
    · rw [hzero] at hb
      cases hb
    · exact hb'
  cases hb : inside b with
  | false =>
    cases hnext : inside (b + 1) with
    | false => simp [hb, hnext] at h
    | true =>
      simp [hb, hnext] at h
      omega
  | true =>
    have hbpos := hpos hb
    cases hnext : inside (b + 1) with
    | false =>
      simp [hb, hnext] at h
      omega
    | true =>
      simp only [hb, hnext] at h
      split at h
      · cases h
        omega
      split at h
      · cases h
        exact hbpos
      · cases h
        split
        · exact hbpos
        · omega

/-- A point of a grid that rounds to a double other than zero is not zero. -/
theorem pos_of_onGrid? {m p c : Nat} {e : Int} (hm : 0 < m) (h : onGrid? m p e = some c) :
    0 < c := by
  have hunit : 0 < pow2 p := Nat.pow_pos (by decide)
  have hvalue : 4 * pow2 p ≤ 4 * m * pow2 p := Nat.mul_le_mul_right _ (by omega)
  have hlow : 0 < 4 * m * pow2 p -
      (if m = pow2 52 ∧ 0 < p then pow2 p else 2 * pow2 p) := by
    split
    · omega
    · omega
  unfold onGrid? at h
  extract_lets value high low closed inside below at h
  have hzero : inside 0 = false := by
    simp only [inside, atMost_zero, atLeast_zero hlow, low, value, Bool.and_false, Bool.not_true,
      ite_self]
  exact @pos_of_neighbours inside hzero below c _ _ h

/-- The exact digits of a positive number are positive. -/
theorem pos_digits_exact {m : Nat} (hm : 0 < m) (p : Nat) : 0 < (exact m p).digits := by
  have htwo : 0 < pow2 p := Nat.pow_pos (by decide)
  have hfive : ∀ n, 0 < pow5 n := fun n => Nat.pow_pos (by decide)
  exact Nat.mul_pos (Nat.mul_pos hm htwo) (hfive 1074)

/-- The digits of a double other than zero are not zero. -/
theorem pos_digits_shortest {m : Nat} (hm : 0 < m) (p : Nat) : 0 < (shortest m p).digits := by
  unfold shortest
  simp only
  split
  case h_1 c k hfound =>
    obtain ⟨n, -, hpoint⟩ := List.exists_of_findSome?_eq_some hfound
    obtain ⟨d, hd, hpair⟩ := Option.map_eq_some_iff.mp hpoint
    cases hpair
    exact pos_of_onGrid? hm hd
  case h_2 => exact pos_digits_exact hm p

end Decimal

/-! ## Texts -/

/-- Whether a double is a number. -/
def Binary64.isFinite : Binary64 → Bool
  | .finite .. => true
  | _ => false

/-- The text of a finite double is a number. -/
theorem Binary64.isNumber_text {x : Binary64} (h : x.isFinite = true) : IsNumber x.text.toList := by
  have hzero : ∀ sign : List Char, sign = [] ∨ sign = ['-'] → IsNumber (sign ++ "0.0".toList) := by
    intro sign hsign
    simpa using IsNumber.parts sign ['0'] ['.', '0'] [] hsign .zero
      (.places ['0'] Decimal.isDigits_zero) .none
  cases x with
  | nan => cases h
  | infinite n => cases h
  | finite n m p =>
    cases m with
    | zero =>
      cases n with
      | false => exact hzero [] (Or.inl rfl)
      | true =>
        have hsigned : "-0.0".toList = ['-'] ++ "0.0".toList := by decide
        show IsNumber "-0.0".toList
        rw [hsigned]
        exact hzero ['-'] (Or.inr rfl)
    | succ m =>
      show IsNumber (String.ofList _).toList
      rw [String.toList_ofList]
      refine Decimal.isNumber_written (Decimal.pos_digits_shortest (Nat.succ_pos m) p) ?_
      cases n with
      | false => exact Or.inl rfl
      | true => exact Or.inr rfl

/-- The text of a whole number is its digits, after a sign if it is negative. -/
theorem toList_of_wholeText {i : Int} {t : String} (h : wholeText i = .ok t) :
    t.toList = (if i < 0 then ['-'] else []) ++ Decimal.digitsOf i.natAbs := by
  unfold wholeText at h
  split at h
  · cases h
  · cases h
    rw [Int.toString_eq_repr, Int.repr_eq_if]
    by_cases hnegative : i < 0
    · have hdigits : (-i).toNat = i.natAbs := by omega
      rw [if_neg (by omega), if_pos hnegative, String.toList_append, Nat.toList_repr, hdigits]
      rfl
    · have hdigits : i.toNat = i.natAbs := by omega
      rw [if_pos (by omega), if_neg hnegative, Nat.toList_repr, hdigits]
      rfl

/-- The text of a whole number is a number. -/
theorem Json.isNumber_wholeText {i : Int} {t : String} (h : wholeText i = .ok t) :
    IsNumber t.toList := by
  have hsign : (if i < 0 then ['-'] else []) = [] ∨ (if i < 0 then ['-'] else []) = ['-'] := by
    split
    · exact Or.inr rfl
    · exact Or.inl rfl
  rw [toList_of_wholeText h]
  simpa using IsNumber.parts _ _ [] [] hsign (Decimal.isWhole_digitsOf i.natAbs) .none .none

end MaskedReport
