import Lanewise.Json.Token
import Lanewise.Number.Reader
import Mathlib.Data.List.TakeWhile

namespace Lanewise
set_option autoImplicit true

theorem toList_toString (n : Nat) : (toString n).toList = Nat.toDigits 10 n :=
  Nat.toList_repr

theorem isDigit_of_mem_decimal (h : c ∈ Nat.toDigits 10 n) : c.isDigit = true :=
  Nat.isDigit_of_mem_toDigits (by decide) (by decide) h

theorem all_isDigit_decimal (n : Nat) : (Nat.toDigits 10 n).all Char.isDigit = true :=
  List.all_eq_true.2 fun _ h => isDigit_of_mem_decimal h

/-- The digits of a number have its value. -/
theorem digitsValue_decimal (n : Nat) : digitsValue (Nat.toDigits 10 n) = n :=
  Nat.ofDigitChars_toDigits (by decide) (by decide)

/-- Only zero begins with a zero. -/
theorem eq_zero_of_head_decimal (h : (Nat.toDigits 10 n).head? = some '0') : n = 0 := by
  induction n using Nat.strongRecOn with
  | ind n ih =>
    rcases Nat.lt_or_ge n 10 with hn | hn
    · rw [Nat.toDigits_of_lt_base hn] at h
      have hc := congrArg Char.toNat (Option.some.inj h)
      rw [Nat.toNat_digitChar_of_lt_ten hn] at hc
      change 48 + n = 48 at hc
      omega
    · rw [Nat.toDigits_of_base_le (by decide) hn, List.head?_append, Option.or_of_isSome] at h
      · have hq := ih (n / 10) (by omega) h
        omega
      · exact List.isSome_head?.2 Nat.toDigits_ne_nil

theorem Numeral.read?_decimal (n : Nat) :
    Numeral.read? (Nat.toDigits 10 n) = some ⟨Nat.toDigits 10 n, none, 0⟩ := by
  have hd : ∀ c ∈ Nat.toDigits 10 n, c.isDigit = true := fun _ h => isDigit_of_mem_decimal h
  simp only [read?, List.takeWhile_eq_self_iff.2 hd, List.dropWhile_eq_nil_iff.2 hd]
  rfl

/-- Digits begin with no sign. -/
theorem splitSign_of_isDigit (h : ∀ c ∈ cs, c.isDigit = true) : splitSign cs = (false, cs) := by
  rw [splitSign.eq_def]
  split
  · have hc := h '+' List.mem_cons_self
    cases hc
  · have hc := h '-' List.mem_cons_self
    cases hc
  · rfl

namespace Json

theorem isNumber_decimal (n : Nat) : isNumber (Nat.toDigits 10 n) = true := by
  have hsign : ∀ cs, Nat.toDigits 10 n ≠ '-' :: cs := by
    intro cs h
    have hc : '-' ∈ Nat.toDigits 10 n := h ▸ List.mem_cons_self
    cases isDigit_of_mem_decimal hc
  have hwhole : (Nat.toDigits 10 n).isEmpty = false :=
    List.isEmpty_eq_false_iff.2 Nat.toDigits_ne_nil
  have hzero : (Nat.toDigits 10 n).length = 1 ∨ (Nat.toDigits 10 n).head? ≠ some '0' := by
    by_cases hh : (Nat.toDigits 10 n).head? = some '0'
    · rw [eq_zero_of_head_decimal hh]
      exact .inl rfl
    · exact .inr hh
  unfold isNumber
  split
  · rename_i cs h
    exact absurd h (hsign cs)
  · simp only [Numeral.read?_decimal, hwhole]
    simpa using hzero

theorem le_foldl_digits (cs : List Char) (k : Nat) :
    k ≤ cs.foldl (fun n c => 10 * n + digitValue c) k := by
  induction cs generalizing k with
  | nil => exact Nat.le_refl k
  | cons c cs ih =>
    have hk := ih (10 * k + digitValue c)
    rw [List.foldl_cons]
    omega

/-- A significand takes all digits of a number below its bound. -/
theorem takeDigits_eq (h : cs.foldl (fun n c => 10 * n + digitValue c) k < Nat.pow 2 64) :
    takeDigits k cs = (cs.foldl (fun n c => 10 * n + digitValue c) k, cs.length) := by
  induction cs generalizing k with
  | nil => rfl
  | cons c cs ih =>
    rw [List.foldl_cons] at h
    have hlt := Nat.lt_of_le_of_lt (le_foldl_digits cs _) h
    rw [takeDigits, if_pos hlt, ih h]
    rfl

theorem isFinite_decimal (h : n < Nat.pow 2 64) : isFinite (toString n) = true := by
  have hd : ∀ c ∈ Nat.toDigits 10 n, c.isDigit = true := fun _ hc => isDigit_of_mem_decimal hc
  have hv : (Nat.toDigits 10 n).foldl (fun n c => 10 * n + digitValue c) 0 = n :=
    digitsValue_decimal n
  have ht : takeDigits 0 (Nat.toDigits 10 n) = (n, (Nat.toDigits 10 n).length) := by
    rw [takeDigits_eq (by rw [hv]; exact h), hv]
  simp only [isFinite, toList_toString, splitSign_of_isDigit hd, Numeral.read?_decimal, ht]
  simp [takeDigits]

end Json

end Lanewise
