/-
  CommandLang/Text/Digit.lean
  ===========================
  **Decimal digits of every script.**

  Unicode keeps the ten decimal digits of a script next to each other, in rising order, so a script
  is known by the code point of its zero.  Digits of different scripts may be mixed freely.
-/
import CommandLang.Text.Basic

namespace CommandLang

/-- The zeros of the scripts that have decimal digits. -/
def digitZeros : List Nat :=
  [0x30, 0x660, 0x6F0, 0x7C0, 0x966, 0x9E6, 0xA66, 0xAE6, 0xB66, 0xBE6, 0xC66, 0xCE6, 0xD66, 0xDE6,
   0xE50, 0xED0, 0xF20, 0x1040, 0x1090, 0x17E0, 0x1810, 0x1946, 0x19D0, 0x1A80, 0x1A90, 0x1B50,
   0x1BB0, 0x1C40, 0x1C50, 0xA620, 0xA8D0, 0xA900, 0xA9D0, 0xA9F0, 0xAA50, 0xABF0, 0xFF10, 0x104A0,
   0x10D30, 0x11066, 0x110F0, 0x11136, 0x111D0, 0x112F0, 0x11450, 0x114D0, 0x11650, 0x116C0,
   0x11730, 0x118E0, 0x11950, 0x11C50, 0x11D50, 0x11DA0, 0x16A60, 0x16AC0, 0x16B50, 0x1D7CE,
   0x1D7D8, 0x1D7E2, 0x1D7EC, 0x1D7F6, 0x1E140, 0x1E2F0, 0x1E950, 0x1FBF0]

/-- Every script's ten digits lie apart from the next script's. -/
theorem digitZeros_apart : digitZeros.Pairwise (fun z z' => z + 10 ≤ z') := by decide

/-- The value of a decimal digit. -/
def digitValue? (c : Char) : Option Nat :=
  digitZeros.findSome? fun z => if z ≤ c.toNat ∧ c.toNat < z + 10 then some (c.toNat - z) else none

/-- A decimal digit of some script. -/
def isDigit (c : Char) : Bool := (digitValue? c).isSome

/-- A digit is worth less than ten. -/
theorem digitValue?_lt {c : Char} {d : Nat} (h : digitValue? c = some d) : d < 10 := by
  obtain ⟨z, _, hz⟩ := List.exists_of_findSome?_eq_some h
  split at hz
  · cases hz; omega
  · cases hz

/-- The digits of core are digits, and worth what they are worth there. -/
theorem digitValue?_of_core {c : Char} (h : c.isDigit) : digitValue? c = some (c.toNat - 48) := by
  have h1 : 48 ≤ c.toNat ∧ c.toNat < 48 + 10 := by
    simp only [Char.isDigit, Bool.and_eq_true, decide_eq_true_eq, ge_iff_le,
      UInt32.le_iff_toNat_le] at h
    have h' : (48 : Nat) ≤ c.val.toNat ∧ c.val.toNat ≤ 57 := h
    change 48 ≤ c.val.toNat ∧ c.val.toNat < 58
    omega
  simp [digitValue?, digitZeros, h1]

theorem isDigit_of_core {c : Char} (h : c.isDigit) : isDigit c := by
  simp [isDigit, digitValue?_of_core h]

end CommandLang
