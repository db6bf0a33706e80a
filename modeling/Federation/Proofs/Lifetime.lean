import Federation.Json.Basic
import Federation.Statement.Lifetime
import Mathlib.Tactic.Lemma

/-!
# Times of 64 bits

**Numbers.**  `Lifetime.Fits` holds of the numbers that are times.  They are the integers that are read as
such (`Lifetime.int64?_int_iff`), and wrapping around never leaves them (`Lifetime.wrap_eq`).

**Ends.**  A lifetime that begins early enough ends when its length has passed.  In the last day of all
times it ends before it begins (`Lifetime.endOf_eq`).
-/

namespace Federation.Lifetime

variable {n start : Int}

/-- The number is one of 64 bits with sign. -/
def Fits (n : Int) : Prop :=
  -0x8000000000000000 ≤ n ∧ n < 0x8000000000000000

instance (n : Int) : Decidable (Fits n) :=
  inferInstanceAs (Decidable (_ ∧ _))

lemma int64?_int_iff : (Json.int n).int64? = some n ↔ Fits n := by
  simp [Json.int, Json.int64?, Fits]

lemma eq_of_int64?_int {seconds : Int} (h : (Json.int n).int64? = some seconds) : n = seconds := by
  rw [Json.int, Json.int64?] at h
  split at h
  · exact Option.some.inj h
  · cases h

/-- Wrapping around takes whole turns and ends at a time. -/
lemma wrap_eq (n : Int) :
    ∃ turns : Int, wrap n = n + turns * 0x10000000000000000 ∧ Fits (wrap n) := by
  have modulus : (Int64.size : Int) = 0x10000000000000000 := by decide
  refine ⟨(wrap n - n) / 0x10000000000000000, ?_, ?_⟩
  · rw [wrap, Int.bmod_def, modulus]
    split <;> omega
  · rw [Fits, wrap, Int.bmod_def, modulus]
    split <;> omega

lemma fits_endOf (start : Int) : Fits (endOf start) := by
  obtain ⟨_, _, inside⟩ := wrap_eq (start + length)
  exact inside

/-- **A lifetime ends when its length has passed, unless it begins in the last day of all times**: then
its end wraps around. -/
theorem endOf_eq (fits : Fits start) : endOf start =
    if Fits (start + length) then start + length else start + length - 0x10000000000000000 := by
  obtain ⟨turns, wrapped, inside⟩ := wrap_eq (start + length)
  rw [wrapped] at inside
  rw [endOf, wrapped]
  by_cases inTime : Fits (start + length)
  · rw [if_pos inTime]
    unfold Fits length at *
    omega
  · rw [if_neg inTime]
    unfold Fits length at *
    omega

end Federation.Lifetime
