import Mathlib.Data.List.TakeWhile
import Mathlib.Tactic.Common

/-!
Contract: a text in a buffer of fixed size, ended by a zero byte as in C.

Owns the store that cuts a text off at the capacity, and what is read back after it.
-/

set_option autoImplicit false

/-- A buffer of `limit + 1` bytes in which a text ends. -/
structure CString (limit : Nat) where
  bytes : List UInt8
  length_eq : bytes.length = limit + 1
  terminated : 0 ∈ bytes
deriving DecidableEq

namespace CString

variable {limit : Nat}

/-- What is left of a text of which a buffer keeps at most `limit` bytes. -/
def cut (limit : Nat) (text : List UInt8) : List UInt8 :=
  (text.take limit).takeWhile (· ≠ 0)

/-- Before the zero byte. -/
def text (buffer : CString limit) : List UInt8 := buffer.bytes.takeWhile (· ≠ 0)

/-- All zero. -/
def empty (limit : Nat) : CString limit where
  bytes := List.replicate (limit + 1) 0
  length_eq := List.length_replicate
  terminated := by simp

@[simp] theorem text_empty : (empty limit).text = [] := by
  simp [text, empty, List.replicate_succ]

/-- Bytes behind the new end stay. -/
def store (message : List UInt8) (buffer : CString limit) : CString limit :=
  let count := min message.length limit
  { bytes := message.take count ++ 0 :: buffer.bytes.drop (count + 1)
    length_eq := by
      have length := buffer.length_eq
      simp only [List.length_append, List.length_take, List.length_cons, List.length_drop]
      omega
    terminated := by simp }

theorem text_store (message : List UInt8) (buffer : CString limit) :
    (buffer.store message).text = cut limit message := by
  have taken : message.take (min message.length limit) = message.take limit := by
    rw [Nat.min_comm, ← List.take_take, List.take_length]
  simp only [text, store, cut, taken]
  rw [List.takeWhile_append]
  split_ifs with whole
  · -- no zero byte comes before the one that `store` sets
    have all : (message.take limit).takeWhile (· ≠ 0) = message.take limit :=
      (List.takeWhile_prefix _).eq_of_length whole
    rw [all, List.takeWhile_cons_of_neg (by simp), List.append_nil]
  · rfl

/-- The first byte is zero. -/
def isEmpty (buffer : CString limit) : Bool := buffer.bytes.head? == some 0

theorem isEmpty_iff (buffer : CString limit) : buffer.isEmpty = true ↔ buffer.text = [] := by
  obtain ⟨bytes, length, terminated⟩ := buffer
  cases bytes with
  | nil => simp at length
  | cons first rest =>
      simp only [isEmpty, text, List.head?_cons, beq_iff_eq, Option.some.injEq,
        List.takeWhile_cons]
      by_cases zero : first = 0
      · simp [zero]
      · simp [zero]

end CString
