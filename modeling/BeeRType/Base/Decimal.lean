-- SUMMARY: Decimal printing and parsing of integers: `std::to_string(int)`, `std::stoi`, and their round trip.
import BeeRType.Base.Text
import Mathlib.Data.Nat.Digits.Defs
import Mathlib.Data.Nat.Digits.Lemmas
import Mathlib.Tactic.Ring

/-!
# Decimal numbers

`std::to_string` prints an `int` in decimal, `std::stoi` reads the longest
decimal prefix of a text after white space and a sign. The two are inverse to
each other on every `int`, whatever follows the digits.
-/

namespace Cpp

/-- The character of a decimal digit. -/
def digitByte (d : Nat) : UInt8 := (48 + d).toUInt8

def isDigit (b : UInt8) : Bool := 48 ≤ b && b ≤ 57

def digitValue (b : UInt8) : Nat := b.toNat - 48

/-- `std::isspace` in the C locale. -/
def isSpace (b : UInt8) : Bool := b == 32 || (9 ≤ b && b ≤ 13)

/-- `std::to_string` of a non-negative number. -/
def toStringNat (n : Nat) : Bytes :=
  if n = 0 then [48] else (Nat.digits 10 n).reverse.map digitByte

/-- `std::to_string(int)`. -/
def toStringInt (z : Int) : Bytes :=
  if z < 0 then 45 :: toStringNat z.natAbs else toStringNat z.natAbs

/-- The number a run of decimal digits denotes. -/
def digitsValue (ds : Bytes) : Nat := ds.foldl (fun n b => 10 * n + digitValue b) 0

/-- An optional sign: whether it is a minus, and what follows it. -/
def splitSign : Bytes → Bool × Bytes
  | 45 :: s => (true, s)
  | 43 :: s => (false, s)
  | s => (false, s)

/-- `std::strtol` in base 10: the number that the text starts with and the rest
of the text, if it starts with one at all. -/
def strtol (s : Bytes) : Option (Int × Bytes) :=
  let (negative, body) := splitSign (s.dropWhile isSpace)
  let ds := body.takeWhile isDigit
  if ds = [] then none
  else some (if negative then -(digitsValue ds : Int) else digitsValue ds, body.dropWhile isDigit)

/-- `std::stoi`. -/
def stoi (s : Bytes) : Except StdException Int32 :=
  match strtol s with
  | none => .error (.invalidArgument "stoi")
  | some (z, _) =>
    if -2 ^ 31 ≤ z ∧ z < 2 ^ 31 then .ok (Int32.ofInt z) else .error (.outOfRange "stoi")

/-! ## The printed digits -/

theorem toNat_digitByte {d : Nat} (hd : d < 10) : (digitByte d).toNat = 48 + d := by
  simp only [digitByte, Nat.toUInt8, UInt8.toNat_ofNat']
  omega

theorem isDigit_digitByte {d : Nat} (hd : d < 10) : isDigit (digitByte d) = true := by
  have h := toNat_digitByte hd
  simp only [isDigit, Bool.and_eq_true, decide_eq_true_eq, UInt8.le_iff_toNat_le, h]
  exact ⟨by simp, by show 48 + d ≤ 57; omega⟩

theorem digitValue_digitByte {d : Nat} (hd : d < 10) : digitValue (digitByte d) = d := by
  simp [digitValue, toNat_digitByte hd]

theorem toStringNat_isDigit {n : Nat} : ∀ b ∈ toStringNat n, isDigit b = true := by
  intro b hb
  unfold toStringNat at hb
  split at hb
  · obtain rfl := List.mem_singleton.mp hb
    decide
  · obtain ⟨d, hd, rfl⟩ := List.mem_map.mp hb
    exact isDigit_digitByte (Nat.digits_lt_base (by decide) (List.mem_reverse.mp hd))

theorem toStringNat_ne_nil {n : Nat} : toStringNat n ≠ [] := by
  unfold toStringNat
  split
  · simp
  · rename_i hn
    simpa using Nat.digits_ne_nil_iff_ne_zero.mpr hn

theorem digitsValue_map_reverse {ds : List Nat} (hds : ∀ d ∈ ds, d < 10) :
    digitsValue (ds.reverse.map digitByte) = Nat.ofDigits 10 ds := by
  induction ds with
  | nil => rfl
  | cons d ds ih =>
      have hd : d < 10 := hds d List.mem_cons_self
      have htail := ih fun e he => hds e (List.mem_cons_of_mem _ he)
      simp only [digitsValue, List.reverse_cons, List.map_append, List.map_cons, List.map_nil,
        List.foldl_append, List.foldl_cons, List.foldl_nil, digitValue_digitByte hd,
        Nat.ofDigits_cons] at htail ⊢
      rw [htail]
      ring

theorem digitsValue_toStringNat (n : Nat) : digitsValue (toStringNat n) = n := by
  unfold toStringNat
  split
  · rename_i hn; rw [hn]; rfl
  · rw [digitsValue_map_reverse fun d hd => Nat.digits_lt_base (by decide) hd,
      Nat.ofDigits_digits]

/-! ## Reading a printed number -/

theorem isSpace_of_isDigit {b : UInt8} (h : isDigit b = true) : isSpace b = false := by
  simp only [isDigit, isSpace, Bool.and_eq_true, decide_eq_true_eq, UInt8.le_iff_toNat_le,
    Bool.or_eq_false_iff, Bool.and_eq_false_iff, beq_eq_false_iff_ne, decide_eq_false_iff_not,
    ne_eq, ← UInt8.toNat_inj] at h ⊢
  have h48 : UInt8.toNat 48 = 48 := rfl
  have h32 : UInt8.toNat 32 = 32 := rfl
  have h13 : UInt8.toNat 13 = 13 := rfl
  omega

theorem splitSign_of_isDigit {b : UInt8} {s : Bytes} (h : isDigit b = true) :
    splitSign (b :: s) = (false, b :: s) := by
  unfold splitSign
  split
  · rename_i heq; obtain ⟨rfl, -⟩ := List.cons.inj heq; exact absurd h (by decide)
  · rename_i heq; obtain ⟨rfl, -⟩ := List.cons.inj heq; exact absurd h (by decide)
  · rfl

/-- What follows a number has to start with something other than a digit. -/
theorem takeWhile_isDigit_append {ds : Bytes} (hds : ∀ b ∈ ds, isDigit b = true) (rest : Bytes)
    (hrest : ∀ b ∈ rest.head?, isDigit b = false) :
    (ds ++ rest).takeWhile isDigit = ds ∧ (ds ++ rest).dropWhile isDigit = rest := by
  rw [List.takeWhile_append_of_pos hds, List.dropWhile_append_of_pos hds]
  cases rest with
  | nil => simp
  | cons b rest => simp [hrest b rfl]

theorem strtol_toStringInt (z : Int) (rest : Bytes)
    (hrest : ∀ b ∈ rest.head?, isDigit b = false) :
    strtol (toStringInt z ++ rest) = some (z, rest) := by
  obtain ⟨htake, hdrop⟩ := takeWhile_isDigit_append (toStringNat_isDigit (n := z.natAbs)) rest hrest
  have hvalue := digitsValue_toStringNat z.natAbs
  have hne := toStringNat_ne_nil (n := z.natAbs)
  by_cases hz : z < 0
  · have hskip : List.dropWhile isSpace (toStringInt z ++ rest)
        = 45 :: (toStringNat z.natAbs ++ rest) := by simp [toStringInt, hz]; rfl
    simp only [strtol, hskip, splitSign, htake, hdrop, hne, if_false, if_true, hvalue]
    simp only [Option.some.injEq, Prod.mk.injEq, and_true]
    omega
  · cases hds : toStringNat z.natAbs with
    | nil => exact absurd hds hne
    | cons b ds =>
        have hb : isDigit b = true := toStringNat_isDigit b (by rw [hds]; exact List.mem_cons_self)
        have hskip : List.dropWhile isSpace (toStringInt z ++ rest)
            = b :: (ds ++ rest) := by simp [toStringInt, hz, hds, isSpace_of_isDigit hb]
        rw [hds, List.cons_append] at htake hdrop
        rw [hds] at hvalue
        simp only [strtol, hskip, splitSign_of_isDigit hb, htake, hdrop, hvalue, reduceCtorEq,
          if_false, Bool.false_eq_true]
        simp only [Option.some.injEq, Prod.mk.injEq, and_true]
        omega

/-- `std::stoi` reads back what `std::to_string` printed. -/
theorem stoi_toStringInt (n : Int32) (rest : Bytes)
    (hrest : ∀ b ∈ rest.head?, isDigit b = false) :
    stoi (toStringInt n.toInt ++ rest) = .ok n := by
  have hlow := n.le_toInt
  have hhigh := n.toInt_lt
  simp only [stoi, strtol_toStringInt _ rest hrest]
  rw [if_pos ⟨by omega, by omega⟩, Int32.ofInt_toInt]

@[simp] theorem stoi_toStringInt_self (n : Int32) : stoi (toStringInt n.toInt) = .ok n := by
  simpa using stoi_toStringInt n [] (by simp)

theorem toStringInt_ne_nil {z : Int} : toStringInt z ≠ [] := by
  unfold toStringInt
  split
  · exact List.cons_ne_nil _ _
  · exact toStringNat_ne_nil

theorem toStringInt_injective : Function.Injective toStringInt := by
  intro z w h
  have hz := strtol_toStringInt z [] (by simp)
  have hw := strtol_toStringInt w [] (by simp)
  rw [List.append_nil] at hz hw
  rw [h, hw] at hz
  exact (Prod.mk.inj (Option.some.inj hz)).1.symm

/-- Every character of a printed number is a digit or the sign. -/
theorem toStringInt_chars {z : Int} : ∀ b ∈ toStringInt z, isDigit b = true ∨ b = 45 := by
  intro b hb
  unfold toStringInt at hb
  split at hb
  · rcases List.mem_cons.mp hb with rfl | hb
    · exact .inr rfl
    · exact .inl (toStringNat_isDigit b hb)
  · exact .inl (toStringNat_isDigit b hb)

/-- A printed number does not contain a semicolon. -/
theorem not_mem_toStringInt (z : Int) : (59 : UInt8) ∉ toStringInt z := by
  intro h
  rcases toStringInt_chars _ h with h | h <;> exact absurd h (by decide)

end Cpp
