-- SUMMARY: Printing and parsing of `float`: `std::to_string(float)`, `std::stof`, and what `stof` makes of a printed number.
import BeeRType.Base.Decimal
import BeeRType.Base.Rounding
import Mathlib.Tactic.Linarith
import Mathlib.Tactic.FieldSimp
import Mathlib.Tactic.Positivity
import Mathlib.Tactic.NormNum

/-!
# Floating-point numbers as text

A finite `float` is the rational it denotes, so that both zeros are one value. What
`std::stof` reads and the sum of two `float`s are rounded to 24 bits, and outside of a
range `std::stof` throws. `std::to_string` prints six decimals.
-/

open Rounding

namespace Cpp

/-- What a `float` can hold. -/
inductive FloatValue where
  | finite (q : ℚ)
  | infinity (negative : Bool)
  | nan
  deriving DecidableEq

/-- The largest finite `float`. -/
def fltMax : ℚ := 2 ^ 128 - 2 ^ 104

/-- `static_cast<int>` of a `float`: towards zero. Out of range it is undefined;
the value here is the one the x86 instruction gives. -/
def FloatValue.toInt32 : FloatValue → Int32
  | .finite q =>
    let z := q.num.tdiv q.den
    if -2 ^ 31 ≤ z ∧ z < 2 ^ 31 then Int32.ofInt z else Int32.minValue
  | _ => Int32.minValue

/-- The format of `float`. -/
def binary32 : Format := ⟨24, -149⟩

/-- The `float` nearest to a number that is in range. -/
def roundFloat (q : ℚ) : ℚ := binary32.round q

/-- The number is a `float`. -/
def IsFloat (q : ℚ) : Prop := |q| ≤ fltMax ∧ roundFloat q = q

/-- From here on a number rounds to infinity. -/
def overflowsFloat (q : ℚ) : Bool := decide (2 ^ 128 - 2 ^ 103 ≤ |q|)

/-- The sum of two `float`s. -/
def FloatValue.add : FloatValue → FloatValue → FloatValue
  | .finite p, .finite q =>
    if overflowsFloat (p + q) then .infinity (decide (p + q < 0)) else .finite (roundFloat (p + q))
  | .infinity negative, .infinity negative' =>
    if negative = negative' then .infinity negative else .nan
  | .infinity negative, .finite _ => .infinity negative
  | .finite _, .infinity negative => .infinity negative
  | _, _ => .nan

/-- A nonzero number that no `float` is equal to, and that is below the normal range even
when it is rounded to 24 bits. -/
def underflowsFloat (q : ℚ) : Bool :=
  decide (q ≠ 0 ∧ |q| < 1 / 2 ^ 126 - 1 / 2 ^ 151 ∧ (q * 2 ^ 149).den ≠ 1)

/-! ## `std::stof` -/

def isHexDigit (b : UInt8) : Bool :=
  isDigit b || (97 ≤ b && b ≤ 102) || (65 ≤ b && b ≤ 70)

def hexDigitValue (b : UInt8) : Nat :=
  if isDigit b then digitValue b else if 97 ≤ b then b.toNat - 87 else b.toNat - 55

def hexDigitsValue (ds : Bytes) : Nat := ds.foldl (fun n b => 16 * n + hexDigitValue b) 0

/-- Digits, with or without a point among them: the integer part, the fraction,
and the rest of the text. -/
def splitMantissa (isDig : UInt8 → Bool) (s : Bytes) : Option (Bytes × Bytes × Bytes) :=
  let int := s.takeWhile isDig
  let (frac, rest) := match s.dropWhile isDig with
    | 46 :: s => (s.takeWhile isDig, s.dropWhile isDig)
    | s => ([], s)
  if int = [] ∧ frac = [] then none else some (int, frac, rest)

/-- The exponent a text starts with, `0` if it starts with none. -/
def exponentValue (marks : List UInt8) : Bytes → Int
  | [] => 0
  | c :: s =>
    if c ∈ marks then
      let (negative, ds) := splitSign s
      if negative then -(digitsValue (ds.takeWhile isDigit) : Int)
      else digitsValue (ds.takeWhile isDigit)
    else 0

def decimalFloat (s : Bytes) : Option ℚ :=
  match splitMantissa isDigit s with
  | none => none
  | some (int, frac, rest) =>
    some (digitsValue (int ++ frac) * 10 ^ (exponentValue (str "eE") rest - frac.length))

def hexFloat : Bytes → Option ℚ
  | 48 :: x :: s =>
    if x ∈ str "xX" then
      match splitMantissa isHexDigit s with
      | none => none
      | some (int, frac, rest) =>
        some (hexDigitsValue (int ++ frac) * 2 ^ (exponentValue (str "pP") rest - 4 * frac.length))
    else none
  | _ => none

/-- The text starts with the literal, in letters of either case. -/
def startsWithLiteral (literal s : Bytes) : Bool :=
  (s.take literal.length).map (fun b => if 65 ≤ b ∧ b ≤ 90 then b + 32 else b) == literal

/-- `std::strtof`: the number the text starts with. -/
def strtof (s : Bytes) : Option FloatValue :=
  let (negative, body) := splitSign (s.dropWhile isSpace)
  if startsWithLiteral (str "inf") body then some (.infinity negative)
  else if startsWithLiteral (str "nan") body then some .nan
  else ((hexFloat body).or (decimalFloat body)).map fun q => .finite (if negative then -q else q)

/-- `std::stof`. -/
def stof (s : Bytes) : Except StdException FloatValue :=
  match strtof s with
  | none => .error (.invalidArgument "stof")
  | some (.finite q) =>
    if overflowsFloat q || underflowsFloat q then .error (.outOfRange "stof")
    else .ok (.finite (roundFloat q))
  | some v => .ok v

example : stof (str "0.10000000149") = stof (str "0.1") := by decide +kernel
example : stof (str "1.17549435e-38") = .ok (.finite (1 / 2 ^ 126)) := by decide +kernel

/-! ## `std::to_string(float)` -/

/-- Six digits, with leading zeros. -/
def sixDigits (n : Nat) : Bytes :=
  [n / 100000 % 10, n / 10000 % 10, n / 1000 % 10, n / 100 % 10, n / 10 % 10, n % 10].map digitByte

/-- The number of millionths that is printed. -/
def millionths (q : ℚ) : Nat := (roundHalfEven (|q| * 1000000)).toNat

/-- `std::to_string(float)`, the format `%f`. -/
def toStringFloat (q : ℚ) : Bytes :=
  (if q < 0 then str "-" else []) ++
    (toStringNat (millionths q / 1000000) ++ 46 :: sixDigits (millionths q % 1000000))

/-- The number that is printed for `q`. -/
def printedFloat (q : ℚ) : ℚ :=
  if q < 0 then -(millionths q / 1000000 : ℚ) else millionths q / 1000000

/-! ## Reading a printed number -/

theorem digitsValue_append (ds es : Bytes) :
    digitsValue (ds ++ es) = digitsValue ds * 10 ^ es.length + digitsValue es := by
  induction es using List.reverseRecOn with
  | nil => simp [digitsValue]
  | append_singleton es b ih =>
      simp only [digitsValue, ← List.append_assoc, List.foldl_append, List.foldl_cons,
        List.foldl_nil, List.length_append, List.length_singleton, pow_succ] at ih ⊢
      rw [ih]
      ring

theorem sixDigits_isDigit {n : Nat} : ∀ b ∈ sixDigits n, isDigit b = true := by
  intro b hb
  obtain ⟨d, hd, rfl⟩ := List.mem_map.mp hb
  apply isDigit_digitByte
  simp only [List.mem_cons, List.not_mem_nil, or_false] at hd
  omega

@[simp] theorem length_sixDigits (n : Nat) : (sixDigits n).length = 6 := rfl

theorem digitsValue_sixDigits {n : Nat} (hn : n < 1000000) : digitsValue (sixDigits n) = n := by
  have hdigit : ∀ m, digitValue (digitByte (m % 10)) = m % 10 := fun m =>
    digitValue_digitByte (Nat.mod_lt _ (by decide))
  simp only [digitsValue, sixDigits, List.map_cons, List.map_nil, List.foldl_cons, List.foldl_nil,
    hdigit]
  omega

theorem splitMantissa_append {int frac : Bytes} (hint : ∀ b ∈ int, isDigit b = true)
    (hne : int ≠ []) (hfrac : ∀ b ∈ frac, isDigit b = true) :
    splitMantissa isDigit (int ++ 46 :: frac) = some (int, frac, []) := by
  obtain ⟨htake, hdrop⟩ := takeWhile_isDigit_append hint (46 :: frac)
    (by simp; decide)
  obtain ⟨htake', hdrop'⟩ := takeWhile_isDigit_append hfrac [] (by simp)
  rw [List.append_nil] at htake' hdrop'
  simp only [splitMantissa, htake, hdrop, htake', hdrop', hne, false_and, if_false]

/-- A text that starts with a digit names neither infinity nor a NaN. -/
theorem startsWithLiteral_of_isDigit {b : UInt8} {s : Bytes} (hb : isDigit b = true) :
    startsWithLiteral (str "inf") (b :: s) = false ∧
      startsWithLiteral (str "nan") (b :: s) = false := by
  simp only [isDigit, Bool.and_eq_true, decide_eq_true_eq, UInt8.le_iff_toNat_le] at hb
  have h57 : UInt8.toNat 57 = 57 := rfl
  have hupper : ¬ (65 ≤ b ∧ b ≤ 90) := by
    simp only [UInt8.le_iff_toNat_le]
    have h65 : UInt8.toNat 65 = 65 := rfl
    omega
  have hne : ∀ c : UInt8, 57 < c.toNat → b ≠ c := by
    rintro c hc rfl
    omega
  have hi := hne 105 (by decide)
  have hn := hne 110 (by decide)
  constructor
  · have hlit : str "inf" = [105, 110, 102] := by decide
    simp [startsWithLiteral, hlit, hupper, hi]
  · have hlit : str "nan" = [110, 97, 110] := by decide
    simp [startsWithLiteral, hlit, hupper, hn]

theorem hexFloat_of_isDigit {b c : UInt8} {s : Bytes} (hc : isDigit c = true ∨ c = 46) :
    hexFloat (b :: c :: s) = none := by
  have hx : c ∉ str "xX" := by
    have hlit : str "xX" = [120, 88] := by decide
    rw [hlit]
    rintro hmem
    simp only [List.mem_cons, List.not_mem_nil, or_false] at hmem
    rcases hmem with rfl | rfl <;> exact absurd hc (by decide)
  unfold hexFloat
  split
  · rename_i heq
    obtain ⟨-, hcs⟩ := List.cons.inj heq
    obtain ⟨rfl, -⟩ := List.cons.inj hcs
    rw [if_neg hx]
  · rfl

theorem decimalFloat_fixed (m : Nat) :
    decimalFloat (toStringNat (m / 1000000) ++ 46 :: sixDigits (m % 1000000))
      = some (m / 1000000 : ℚ) := by
  have hm : m / 1000000 * 10 ^ 6 + m % 1000000 = m := by omega
  simp only [decimalFloat, splitMantissa_append toStringNat_isDigit toStringNat_ne_nil
    sixDigits_isDigit, digitsValue_append, digitsValue_toStringNat, length_sixDigits,
    digitsValue_sixDigits (Nat.mod_lt _ (by decide : 0 < 1000000)), hm, exponentValue]
  norm_num
  ring

/-- What `strtof` reads off a printed number. -/
theorem strtof_toStringFloat (q : ℚ) : strtof (toStringFloat q) = some (.finite (printedFloat q)) := by
  obtain ⟨b, ds, hds⟩ : ∃ b ds, toStringNat (millionths q / 1000000) = b :: ds :=
    List.exists_cons_of_ne_nil toStringNat_ne_nil
  have hdig : ∀ c ∈ b :: ds, isDigit c = true := fun c hc => toStringNat_isDigit c (hds ▸ hc)
  have hb : isDigit b = true := hdig b List.mem_cons_self
  have hdec := decimalFloat_fixed (millionths q)
  have hhex : hexFloat (b :: (ds ++ 46 :: sixDigits (millionths q % 1000000))) = none := by
    cases hcase : ds with
    | nil => exact hexFloat_of_isDigit (.inr rfl)
    | cons c ds' => exact hexFloat_of_isDigit (.inl (hdig c (by simp [hcase])))
  obtain ⟨hinf, hnan⟩ := startsWithLiteral_of_isDigit
    (s := ds ++ 46 :: sixDigits (millionths q % 1000000)) hb
  rw [hds, List.cons_append] at hdec
  have hsign : splitSign (List.dropWhile isSpace (toStringFloat q))
      = (decide (q < 0), b :: (ds ++ 46 :: sixDigits (millionths q % 1000000))) := by
    by_cases hq : q < 0
    · have hminus : str "-" = [45] := by decide
      simp only [toStringFloat, hq, if_true, hds, hminus, List.cons_append, List.nil_append]
      rfl
    · simp [toStringFloat, hq, hds, isSpace_of_isDigit hb, splitSign_of_isDigit hb]
  simp only [strtof, hsign, hinf, hnan, hhex, hdec, Bool.false_eq_true, if_false, Option.none_or,
    Option.map_some, printedFloat, decide_eq_true_eq]

theorem abs_printedFloat (q : ℚ) : |printedFloat q| = millionths q / 1000000 := by
  unfold printedFloat
  split
  · rw [abs_neg, abs_of_nonneg (by positivity)]
  · rw [abs_of_nonneg (by positivity)]

theorem abs_printedFloat_le (q : ℚ) : |printedFloat q| ≤ |q| + 1 := by
  have hround := roundHalfEven_le (|q| * 1000000)
  have habs := abs_nonneg q
  have hm : (millionths q : ℚ) ≤ |q| * 1000000 + 1 := by
    rcases le_total 0 (roundHalfEven (|q| * 1000000)) with h | h
    · have hcast : ((millionths q : ℤ) : ℚ) = (roundHalfEven (|q| * 1000000) : ℚ) := by
        rw [millionths, Int.toNat_of_nonneg h]
      push_cast at hcast
      linarith
    · rw [millionths, Int.toNat_of_nonpos h]
      push_cast
      linarith
  rw [abs_printedFloat, div_le_iff₀ (by norm_num)]
  linarith

/-- A printed number is zero or at least a millionth. -/
theorem printedFloat_eq_zero_or (q : ℚ) : printedFloat q = 0 ∨ 1 / 1000000 ≤ |printedFloat q| := by
  rcases Nat.eq_zero_or_pos (millionths q) with h | h
  · left; simp [printedFloat, h]
  · right
    have hm : (1 : ℚ) ≤ millionths q := by exact_mod_cast h
    rw [abs_printedFloat]
    exact div_le_div_of_nonneg_right hm (by norm_num)

/-- `std::stof` accepts whatever `std::to_string` prints for a finite `float`. -/
theorem stof_toStringFloat {q : ℚ} (hq : |q| ≤ fltMax) :
    stof (toStringFloat q) = .ok (.finite (roundFloat (printedFloat q))) := by
  have hover : overflowsFloat (printedFloat q) = false := by
    have hle := abs_printedFloat_le q
    have hlt : fltMax + 1 < 2 ^ 128 - 2 ^ 103 := by norm_num [fltMax]
    simp only [overflowsFloat, decide_eq_false_iff_not, not_le]
    linarith
  have hunder : underflowsFloat (printedFloat q) = false := by
    simp only [underflowsFloat, decide_eq_false_iff_not, not_and]
    intro hne hlt
    have hmin : (1 : ℚ) / 2 ^ 126 - 1 / 2 ^ 151 < 1 / 1000000 := by norm_num
    rcases printedFloat_eq_zero_or q with h | h
    · exact absurd h hne
    · exact absurd (hlt.trans hmin) (not_lt.mpr h)
  simp [stof, strtof_toStringFloat, hover, hunder]

theorem eq_of_stof_toStringFloat {q : ℚ} {v : FloatValue} (h : stof (toStringFloat q) = .ok v) :
    v = .finite (roundFloat (printedFloat q)) := by
  rw [stof, strtof_toStringFloat] at h
  dsimp only at h
  split at h
  · cases h
  · cases h
    rfl

/-- A whole number is printed as it is. -/
theorem printedFloat_intCast (n : ℤ) : printedFloat n = n := by
  have hround : millionths (n : ℚ) = n.natAbs * 1000000 := by
    have hcast : |(n : ℚ)| * 1000000 = ((n.natAbs * 1000000 : ℕ) : ℤ) := by
      push_cast
      rfl
    rw [millionths, hcast, roundHalfEven_intCast, Int.toNat_natCast]
  have hvalue : (millionths (n : ℚ) : ℚ) / 1000000 = |(n : ℚ)| := by
    rw [hround, Nat.cast_mul, Nat.cast_natAbs, Int.cast_abs]
    norm_num
  rw [printedFloat, hvalue]
  split
  · rename_i hneg
    rw [abs_of_neg hneg, neg_neg]
  · rename_i hpos
    exact abs_of_nonneg (not_lt.mp hpos)

/-! ## Numbers that are not rounded -/

theorem roundFloat_roundFloat (q : ℚ) : roundFloat (roundFloat q) = roundFloat q :=
  binary32.round_round (by decide) q

theorem roundFloat_intCast {n : ℤ} (hn : |n| ≤ 2 ^ 24) : roundFloat n = n :=
  (Format.holds_intCast hn (by decide)).round_eq (by decide)

theorem isFloat_intCast {n : ℤ} (hn : |n| ≤ 2 ^ 24) : IsFloat n := by
  refine ⟨?_, roundFloat_intCast hn⟩
  have hle : |(n : ℚ)| ≤ 2 ^ 24 := by exact_mod_cast hn
  exact hle.trans (by norm_num [fltMax])

/-- What is read of a number of moderate size. -/
theorem isFloat_roundFloat {q : ℚ} {n : ℤ} (h : |q| ≤ n) (hn : n < 2 ^ 24) :
    IsFloat (roundFloat q) := by
  refine ⟨?_, roundFloat_roundFloat q⟩
  have hle : (n : ℚ) ≤ 2 ^ 24 := by exact_mod_cast hn.le
  exact ((Format.abs_round_le h hn (by decide) (by decide)).trans hle).trans (by norm_num [fltMax])

/-- A sum that is a `float` is not rounded. -/
theorem FloatValue.add_finite {p q : ℚ} (h : IsFloat (p + q)) :
    (FloatValue.finite p).add (.finite q) = .finite (p + q) := by
  have hfits : overflowsFloat (p + q) = false := by
    refine decide_eq_false (not_le.mpr (h.1.trans_lt ?_))
    norm_num [fltMax]
  rw [add, hfits, h.2]
  rfl

end Cpp
