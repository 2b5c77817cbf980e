/-!
# Decimal digits

Fixed-width decimal numerals, as calendar dates use them, and the number that a row of digits
denotes.

## Main definitions

* `Decimal.digit` - the character of a digit
* `Decimal.fixed` - a number in a given number of digits, with leading zeros
* `Decimal.value` - the number that digits denote
-/

namespace SignOn.Decimal

/-- The character of the last digit of a number. -/
def digit (n : Nat) : Char := Char.ofNat (48 + n % 10)

/-- The number in exactly `width` digits; higher digits are dropped. -/
def fixed : Nat → Nat → List Char
  | 0, _ => []
  | width + 1, n => fixed width (n / 10) ++ [digit n]

/-- The value of a digit character. -/
def digitValue (c : Char) : Nat := c.toNat - 48

/-- The number that a row of digits denotes. -/
def value (digits : List Char) : Nat := digits.foldl (fun n c => 10 * n + digitValue c) 0

@[simp] theorem isDigit_digit (n : Nat) : (digit n).isDigit = true := by
  have h : ∀ k, k < 10 → (Char.ofNat (48 + k)).isDigit = true := by decide
  exact h (n % 10) (Nat.mod_lt _ (by decide))

@[simp] theorem digitValue_digit (n : Nat) : digitValue (digit n) = n % 10 := by
  have h : ∀ k, k < 10 → digitValue (Char.ofNat (48 + k)) = k := by decide
  exact h (n % 10) (Nat.mod_lt _ (by decide))

@[simp] theorem length_fixed (width n : Nat) : (fixed width n).length = width := by
  induction width generalizing n with
  | zero => rfl
  | succ width ih => simp [fixed, ih]

theorem isDigit_of_mem_fixed {width n : Nat} {c : Char} (h : c ∈ fixed width n) :
    c.isDigit = true := by
  induction width generalizing n with
  | zero => simp [fixed] at h
  | succ width ih =>
    rcases List.mem_append.1 h with h | h
    · exact ih h
    · obtain rfl := List.mem_singleton.1 h
      exact isDigit_digit n

end SignOn.Decimal
