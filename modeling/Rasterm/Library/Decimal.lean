import Mathlib.Data.Nat.Digits.Lemmas

/-!
Contract: decimal numerals as ASCII bytes, and reading them back digit by digit.
-/

set_option autoImplicit false

namespace Decimal

/-- The shortest decimal numeral. -/
def numeral (value : Nat) : List UInt8 :=
  if value = 0 then [0x30]
  else (Nat.digits 10 value).reverse.map fun digit => UInt8.ofNat (0x30 + digit)

def isDigit (byte : UInt8) : Bool := 0x30 ≤ byte && byte ≤ 0x39

/-- The value read so far, continued by one more digit. -/
def readDigit (value : Nat) (byte : UInt8) : Nat := value * 10 + (byte.toNat - 0x30)

private theorem toNat_digitByte {digit : Nat} (small : digit < 10) :
    (UInt8.ofNat (0x30 + digit)).toNat = 0x30 + digit := by
  rw [UInt8.toNat_ofNat']
  exact Nat.mod_eq_of_lt (by omega)

private theorem isDigit_digitByte {digit : Nat} (small : digit < 10) :
    isDigit (UInt8.ofNat (0x30 + digit)) = true := by
  simp only [isDigit, Bool.and_eq_true, decide_eq_true_eq, UInt8.le_iff_toNat_le,
    toNat_digitByte small]
  exact ⟨by simp, by simp; omega⟩

theorem isDigit_of_mem_numeral {value : Nat} {byte : UInt8} (member : byte ∈ numeral value) :
    isDigit byte = true := by
  unfold numeral at member
  split_ifs at member with zero
  · rw [List.mem_singleton.mp member]
    decide
  · simp only [List.mem_map, List.mem_reverse] at member
    obtain ⟨digit, inDigits, rfl⟩ := member
    exact isDigit_digitByte (Nat.digits_lt_base (by decide) inDigits)

private theorem foldl_readDigit (digits : List Nat) (small : ∀ digit ∈ digits, digit < 10) :
    (digits.reverse.map fun digit => UInt8.ofNat (0x30 + digit)).foldl readDigit 0 =
      Nat.ofDigits 10 digits := by
  induction digits with
  | nil => rfl
  | cons digit digits inductionHypothesis =>
      have headSmall := small digit (by simp)
      simp only [List.reverse_cons, List.map_append, List.map_cons, List.map_nil,
        List.foldl_append, List.foldl_cons, List.foldl_nil]
      rw [inductionHypothesis fun later member => small later (by simp [member])]
      rw [readDigit, toNat_digitByte headSmall, Nat.ofDigits_cons]
      omega

/-- Reading a numeral back gives the number. -/
theorem foldl_numeral (value : Nat) : (numeral value).foldl readDigit 0 = value := by
  unfold numeral
  split_ifs with zero
  · rw [zero]
    decide
  · rw [foldl_readDigit _ fun digit member => Nat.digits_lt_base (by decide) member,
      Nat.ofDigits_digits]

example : numeral 1049 = [0x31, 0x30, 0x34, 0x39] := by decide

end Decimal
