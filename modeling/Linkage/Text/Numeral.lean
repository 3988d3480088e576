/-!
# Decimal numerals

Writing natural numbers and integers in decimal digits, and reading signed numerals. A numeral is
an optional sign and at least one ASCII digit; leading zeros are allowed, blanks and separators
are not. `readNat_digits` says that reading undoes writing.
-/

namespace Linkage.Text

/-- Whether a character is one of `0` to `9`. -/
def isDigit (c : Char) : Bool := '0' ≤ c && c ≤ '9'

/-- The digit character of a number below ten. -/
def digitChar (n : Nat) : Char := Char.ofNat (48 + n)

/-- The number a digit character stands for. -/
def digitValue (c : Char) : Nat := c.toNat - 48

/-- The decimal digits of a number, most significant first. -/
def digits (n : Nat) : List Char :=
  if n < 10 then [digitChar n] else digits (n / 10) ++ [digitChar (n % 10)]

/-- The number a row of digits stands for. -/
def valueOf (row : List Char) : Nat :=
  row.foldl (fun value c => 10 * value + digitValue c) 0

/-- Read a non-empty row of digits. -/
def readNat (text : List Char) : Option Nat :=
  if text.isEmpty || !text.all isDigit then none else some (valueOf text)

/-- Take one leading sign off a text; the flag says whether it was a minus. -/
def takeSign : List Char → Bool × List Char
  | '-' :: rest => (true, rest)
  | '+' :: rest => (false, rest)
  | text => (false, text)

/-- Read an optional sign and a row of digits. -/
def readInt (text : List Char) : Option Int :=
  let (negative, row) := takeSign text
  (readNat row).map fun n => if negative then -(n : Int) else n

/-- The decimal form of an integer, with a minus sign when it is negative. -/
def ofInt : Int → List Char
  | .ofNat n => digits n
  | .negSucc n => '-' :: digits (n + 1)

theorem isDigit_digitChar {n : Nat} (h : n < 10) : isDigit (digitChar n) = true := by
  have key : ∀ k : Fin 10, isDigit (digitChar k) = true := by decide
  exact key ⟨n, h⟩

theorem digitValue_digitChar {n : Nat} (h : n < 10) : digitValue (digitChar n) = n := by
  have key : ∀ k : Fin 10, digitValue (digitChar k) = k := by decide
  exact key ⟨n, h⟩

/-- A numeral has a first digit. -/
theorem digits_ne_nil (n : Nat) : digits n ≠ [] := by
  rw [digits]; split <;> simp

/-- A numeral holds digits only. -/
theorem isDigit_of_mem_digits {n : Nat} {c : Char} (h : c ∈ digits n) : isDigit c = true := by
  induction n using digits.induct with
  | case1 n hn =>
    rw [digits, if_pos hn] at h
    obtain rfl : c = digitChar n := by simpa using h
    exact isDigit_digitChar hn
  | case2 n hn ih =>
    rw [digits, if_neg hn, List.mem_append] at h
    rcases h with h | h
    · exact ih h
    · obtain rfl : c = digitChar (n % 10) := by simpa using h
      exact isDigit_digitChar (Nat.mod_lt _ (by omega))

/-- The digits of a number stand for it. -/
theorem valueOf_digits (n : Nat) : valueOf (digits n) = n := by
  induction n using digits.induct with
  | case1 n hn => rw [digits, if_pos hn]; simp [valueOf, digitValue_digitChar hn]
  | case2 n hn ih =>
    rw [digits, if_neg hn, valueOf, List.foldl_append, ← valueOf, ih]
    simp [digitValue_digitChar (Nat.mod_lt n (by omega : 0 < 10))]
    omega

/-- Reading undoes writing. -/
theorem readNat_digits (n : Nat) : readNat (digits n) = some n := by
  have hall : (digits n).all isDigit = true :=
    List.all_eq_true.2 fun _ h => isDigit_of_mem_digits h
  simp [readNat, digits_ne_nil, hall, valueOf_digits]

end Linkage.Text
