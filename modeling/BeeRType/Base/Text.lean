-- SUMMARY: Byte strings, the exceptions of the standard library, and the splitting loop around `std::getline`.
import Mathlib.Data.List.TakeWhile

/-!
# Text

A `std::string` is a list of bytes. Splitting is stated over any alphabet: the
segments that a `while (std::getline(stream, segment, delim))` loop collects.
-/

namespace Cpp

/-- A `std::string`: its bytes. -/
abbrev Bytes : Type := List UInt8

/-- The bytes of an ASCII literal. -/
def str (s : String) : Bytes := s.toList.map fun c => c.toNat.toUInt8

/-- The exceptions of the standard library that the program can meet, with the
text `what()` returns. -/
inductive StdException where
  | outOfRange (what : String)
  | invalidArgument (what : String)
  | runtimeError (what : String)
  deriving DecidableEq, Repr

section Getline

variable {α : Type*} [DecidableEq α] (delim : α)

/-- One call of `std::getline`: the segment up to the delimiter, and what is left
of the stream after it. It fails on an exhausted stream only. -/
def getline (s : List α) : Option (List α × List α) :=
  if s = [] then none
  else some (s.takeWhile (· ≠ delim), (s.dropWhile (· ≠ delim)).tail)

/-- The segments that repeated calls of `getline` return. A trailing delimiter
ends the last segment, it does not open an empty one. -/
def getlines : List α → List (List α)
  | [] => []
  | c :: s =>
    if c = delim then [] :: getlines s
    else match getlines s with
      | [] => [[c]]
      | seg :: segs => (c :: seg) :: segs

variable {delim} {seg s : List α} {segs : List (List α)}

@[simp] theorem getlines_nil : getlines delim ([] : List α) = [] := rfl

theorem getlines_delim_cons : getlines delim (delim :: s) = [] :: getlines delim s := by
  simp [getlines]

theorem getlines_of_not_mem (h : delim ∉ seg) (hne : seg ≠ []) : getlines delim seg = [seg] := by
  induction seg with
  | nil => exact absurd rfl hne
  | cons c seg ih =>
      have hc : c ≠ delim := fun hc => h (hc ▸ List.mem_cons_self)
      have hseg : delim ∉ seg := fun hm => h (List.mem_cons_of_mem _ hm)
      by_cases hnil : seg = []
      · simp [getlines, hnil, hc]
      · simp [getlines, hc, ih hseg hnil]

theorem getlines_append_delim (h : delim ∉ seg) :
    getlines delim (seg ++ delim :: s) = seg :: getlines delim s := by
  induction seg with
  | nil => exact getlines_delim_cons
  | cons c seg ih =>
      have hc : c ≠ delim := fun hc => h (hc ▸ List.mem_cons_self)
      have hseg : delim ∉ seg := fun hm => h (List.mem_cons_of_mem _ hm)
      simp [getlines, hc, ih hseg]

/-- `getlines` is the loop: it collects the segment of one call and goes on with
what that call left. -/
theorem getlines_eq : getlines delim s =
    match getline delim s with
    | none => []
    | some (seg, rest) => seg :: getlines delim rest := by
  by_cases hs : s = []
  · simp [hs, getline]
  · have hseg : delim ∉ s.takeWhile (· ≠ delim) := fun hm => by
      simpa using List.mem_takeWhile_imp hm
    have hsplit := List.takeWhile_append_dropWhile (p := (· ≠ delim)) (l := s)
    simp only [getline, hs, if_false]
    cases hdrop : s.dropWhile (· ≠ delim) with
    | nil =>
        rw [hdrop, List.append_nil] at hsplit
        rw [hsplit] at hseg ⊢
        simpa using getlines_of_not_mem hseg hs
    | cons d rest =>
        have hd : d = delim := by
          have hhead := List.head?_dropWhile_not (fun c => decide (c ≠ delim)) s
          rw [hdrop] at hhead
          simpa using hhead
        subst hd
        rw [hdrop] at hsplit
        calc getlines d s
            = getlines d (s.takeWhile (· ≠ d) ++ d :: rest) := by rw [hsplit]
          _ = s.takeWhile (· ≠ d) :: getlines d rest := getlines_append_delim hseg

/-- Joining segments with the delimiter and reading them back. An empty last
segment would be lost, so it has to be nonempty. -/
theorem getlines_intercalate (hsegs : ∀ seg ∈ segs, delim ∉ seg) {last : List α}
    (hlast : delim ∉ last) (hne : last ≠ []) :
    getlines delim (List.intercalate [delim] (segs ++ [last])) = segs ++ [last] := by
  induction segs with
  | nil => simpa [List.intercalate] using getlines_of_not_mem hlast hne
  | cons seg segs ih =>
      have hseg : delim ∉ seg := hsegs seg List.mem_cons_self
      have hcons : List.intercalate [delim] (seg :: segs ++ [last])
          = seg ++ delim :: List.intercalate [delim] (segs ++ [last]) := by
        cases segs <;> simp [List.intercalate]
      rw [hcons, getlines_append_delim hseg, ih fun t ht => hsegs t (List.mem_cons_of_mem _ ht)]
      rfl

/-! ## What the segments are -/

/-- The text ends with the delimiter. -/
def EndsWith (delim : α) (s : List α) : Prop := s.getLast? = some delim

instance : Decidable (EndsWith delim s) := inferInstanceAs (Decidable (_ = _))

omit [DecidableEq α] in
theorem endsWith_cons {c : α} (hs : s ≠ []) : EndsWith delim (c :: s) ↔ EndsWith delim s := by
  rw [EndsWith, List.getLast?_cons, EndsWith, List.getLast?_eq_some_getLast hs]
  rfl

theorem getlines_eq_nil : getlines delim s = [] ↔ s = [] := by
  cases s with
  | nil => simp
  | cons c s =>
      unfold getlines
      split
      · simp
      · split <;> simp

theorem not_mem_getlines (h : seg ∈ getlines delim s) : delim ∉ seg := by
  induction s generalizing seg with
  | nil => cases h
  | cons c s ih =>
      unfold getlines at h
      split at h
      · rcases List.mem_cons.mp h with rfl | h
        · exact List.not_mem_nil
        · exact ih h
      · rename_i hc
        split at h
        · rw [List.mem_singleton.mp h, List.mem_singleton]
          exact Ne.symm hc
        · rename_i first segs hsegs
          rw [hsegs] at ih
          rcases List.mem_cons.mp h with rfl | h
          · rw [List.mem_cons, not_or]
            exact ⟨Ne.symm hc, ih List.mem_cons_self⟩
          · exact ih (List.mem_cons_of_mem _ h)

/-- Each delimiter ends a segment, and so does the end of the text after anything else. -/
theorem length_getlines : (getlines delim s).length =
    s.count delim + if s = [] ∨ EndsWith delim s then 0 else 1 := by
  induction s with
  | nil => rfl
  | cons c s ih =>
      unfold getlines
      by_cases hs : s = []
      · subst hs
        by_cases hc : c = delim <;> simp [hc, EndsWith]
      · rw [if_congr (or_iff_right hs) rfl rfl] at ih
        rw [if_congr ((or_iff_right (List.cons_ne_nil c s)).trans (endsWith_cons hs)) rfl rfl]
        split
        · rename_i hc
          subst hc
          rw [List.length_cons, ih, List.count_cons_self]
          omega
        · rename_i hc
          rw [List.count_cons_of_ne hc]
          split
          · rename_i hnil
            exact absurd (getlines_eq_nil.mp hnil) hs
          · rename_i first segs hsegs
            rw [← ih, hsegs]
            rfl

omit [DecidableEq α] in
theorem intercalate_cons_nil (hsegs : segs ≠ []) :
    List.intercalate [delim] ([] :: segs) = delim :: List.intercalate [delim] segs := by
  cases segs with
  | nil => exact absurd rfl hsegs
  | cons seg segs => simp [List.intercalate]

omit [DecidableEq α] in
theorem intercalate_cons_cons {c : α} :
    List.intercalate [delim] ((c :: seg) :: segs) = c :: List.intercalate [delim] (seg :: segs) := by
  cases segs <;> simp [List.intercalate]

/-- Joining the segments gives the text, without a trailing delimiter. -/
theorem intercalate_getlines : List.intercalate [delim] (getlines delim s) =
    if EndsWith delim s then s.dropLast else s := by
  induction s with
  | nil => rfl
  | cons c s ih =>
      unfold getlines
      by_cases hs : s = []
      · subst hs
        by_cases hc : c = delim <;> simp [hc, EndsWith, List.intercalate]
      · have hcons : (if EndsWith delim (c :: s) then (c :: s).dropLast else c :: s) =
            c :: if EndsWith delim s then s.dropLast else s := by
          rw [if_congr (endsWith_cons hs) rfl rfl, List.dropLast_cons_of_ne_nil hs]
          split <;> rfl
        rw [hcons, ← ih]
        split
        · rename_i hc
          subst hc
          exact intercalate_cons_nil (mt getlines_eq_nil.mp hs)
        · split
          · rename_i hnil
            exact absurd (getlines_eq_nil.mp hnil) hs
          · rename_i first segs hsegs
            rw [hsegs]
            exact intercalate_cons_cons

end Getline

end Cpp
