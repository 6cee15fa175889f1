-- SUMMARY: The payloads that `deserialisePacket` accepts, and what it makes of them.
import BeeRType.Client.Client

/-!
# The splitter

`deserialisePacket` wants six segments. The segments of a payload are ended by its
delimiters and by its end, so that the sixth may or may not be followed by a delimiter
of its own.
-/

open Cpp

namespace BeeRType

namespace Client

variable {s : Bytes}

/-- Five delimiters that separate six segments, the last of them not empty, or six
delimiters of which the last ends the payload. -/
def HasSixFields (s : Bytes) : Prop :=
  s.count 59 = 5 ∧ ¬ EndsWith 59 s ∨ s.count 59 = 6 ∧ EndsWith 59 s

instance : Decidable (HasSixFields s) := inferInstanceAs (Decidable (_ ∨ _))

theorem length_getlines_eq_six : (getlines 59 s).length = 6 ↔ HasSixFields s := by
  rw [length_getlines]
  by_cases hs : s = []
  · subst hs
    simp [HasSixFields]
  · rw [if_congr (or_iff_right hs) rfl rfl]
    by_cases hend : EndsWith 59 s
    · simp [HasSixFields, hend]
    · simp [HasSixFields, hend]

theorem deserialisePacket_ne_nil : deserialisePacket s ≠ [] ↔ HasSixFields s := by
  rw [← length_getlines_eq_six, deserialisePacket]
  split
  · rename_i hlength
    simp [hlength]
  · rename_i hlength
    rw [not_not] at hlength
    refine iff_of_true (fun hnil => ?_) hlength
    rw [hnil] at hlength
    cases hlength

theorem deserialisePacket_cases (s : Bytes) :
    deserialisePacket s = [] ∨ deserialisePacket s = getlines 59 s ∧ (getlines 59 s).length = 6 := by
  rw [deserialisePacket]
  split
  · exact .inl rfl
  · rename_i hlength
    exact .inr ⟨rfl, not_not.mp hlength⟩

/-- `deserialisePacket` accepts the payloads with six fields, and takes them apart at
their delimiters. -/
theorem deserialisePacket_accepts (s : Bytes) :
    (deserialisePacket s ≠ [] ↔ HasSixFields s) ∧
      (deserialisePacket s = [] ∨
        (deserialisePacket s).length = 6 ∧ (∀ element ∈ deserialisePacket s, 59 ∉ element) ∧
          List.intercalate [59] (deserialisePacket s) = if EndsWith 59 s then s.dropLast else s) := by
  refine ⟨deserialisePacket_ne_nil, (deserialisePacket_cases s).imp_right ?_⟩
  rintro ⟨heq, hlength⟩
  rw [heq]
  exact ⟨hlength, fun _ => not_mem_getlines, intercalate_getlines⟩

end Client

end BeeRType
