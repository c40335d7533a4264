import Mathlib.Data.Nat.Digits

/-! # Byte strings and decimal numerals

Every string of the source (`std::string`, `folly::StringPiece`) is a sequence of
bytes, and the writer, the configuration parsers and the JSON formatter all read
them byte by byte.  This module fixes that representation, the ASCII literals of
the source, and the decimal numerals that `folly::to<uint64_t>` reads and
`folly::format("{}", n)` writes.  The two are inverse (`decimalValue_decimal`).
-/
namespace Folly

/-- A byte string: `std::string` and `folly::StringPiece`. -/
abbrev Bytes := List UInt8

/-- The bytes of an ASCII literal of the source. -/
def ascii (s : String) : Bytes := s.toList.map fun c => c.toNat.toUInt8

/-- `std::isdigit` in the C locale. -/
def isDigit (c : UInt8) : Bool := 0x30 ≤ c && c ≤ 0x39

theorem toUInt8_toNat (c : UInt8) : c.toNat.toUInt8 = c := by
  cases c; simp [Nat.toUInt8, UInt8.ofNat, UInt8.toNat]

/-- The value of one decimal digit. -/
def digitValue (c : UInt8) : Nat := c.toNat - 0x30

/-- The ASCII digit of `d < 10`. -/
def digitChar (d : Nat) : UInt8 := (0x30 + d).toUInt8

/-- The value of a run of digits, read left to right as `folly::to` accumulates
it. -/
def decimalValue (ds : Bytes) : Nat := ds.foldl (fun acc c => 10 * acc + digitValue c) 0

/-- The decimal numeral of `n`, most significant digit first and without
leading zeros: what `folly::format("{}", n)` prints for an unsigned integer. -/
def decimal (n : Nat) : Bytes :=
  if n = 0 then [digitChar 0] else ((Nat.digits 10 n).map digitChar).reverse

theorem decimalValue_append_digit (ds : Bytes) (c : UInt8) :
    decimalValue (ds ++ [c]) = 10 * decimalValue ds + digitValue c := by
  simp [decimalValue, List.foldl_append]

theorem digitChar_toNat {d : Nat} (hd : d < 10) : (digitChar d).toNat = 0x30 + d := by
  simp only [digitChar, Nat.toUInt8, UInt8.toNat, UInt8.ofNat]
  simp [Fin.ofNat]
  omega

theorem isDigit_iff (c : UInt8) : isDigit c = true ↔ 0x30 ≤ c.toNat ∧ c.toNat ≤ 0x39 := by
  simp [isDigit, UInt8.le_def, BitVec.le_def]
  rfl

theorem isDigit_digitChar {d : Nat} (hd : d < 10) : isDigit (digitChar d) = true := by
  rw [isDigit_iff, digitChar_toNat hd]
  omega

theorem digitValue_digitChar {d : Nat} (hd : d < 10) : digitValue (digitChar d) = d := by
  simp [digitValue, digitChar_toNat hd]

/-- Reading back little-endian digits printed most significant first. -/
theorem decimalValue_digits_reverse :
    ∀ L : List Nat, (∀ d ∈ L, d < 10) →
      decimalValue ((L.map digitChar).reverse) = Nat.ofDigits 10 L
  | [], _ => rfl
  | d :: L, h => by
    rw [List.map_cons, List.reverse_cons, decimalValue_append_digit,
      decimalValue_digits_reverse L (fun x hx => h x (List.mem_cons_of_mem d hx)),
      digitValue_digitChar (h d (List.mem_cons_self d L)), Nat.ofDigits_cons]
    omega

/-- **`folly::to` reads back what `folly::format` prints.** -/
theorem decimalValue_decimal (n : Nat) : decimalValue (decimal n) = n := by
  unfold decimal
  split
  · subst n; rfl
  · rw [decimalValue_digits_reverse _ (fun d hd => Nat.digits_lt_base (by norm_num) hd),
      Nat.ofDigits_digits]

theorem decimal_all_digits (n : Nat) : ∀ c ∈ decimal n, isDigit c = true := by
  unfold decimal
  split
  · simp [isDigit_digitChar]
  · intro c hc
    obtain ⟨d, hd, rfl⟩ := List.mem_map.mp (List.mem_reverse.mp hc)
    exact isDigit_digitChar (Nat.digits_lt_base (by norm_num) hd)

/-- A numeral has no leading zero: it is `0` itself, or starts with another digit. -/
theorem decimal_no_leading_zero (n : Nat) : ∃ d ds, decimal n = d :: ds ∧ (d = 0x30 → ds = []) := by
  unfold decimal
  split
  · exact ⟨_, _, rfl, fun _ => rfl⟩
  · rename_i hn
    have hne : Nat.digits 10 n ≠ [] := Nat.digits_ne_nil_iff_ne_zero.mpr hn
    have hlast := Nat.getLast_digit_ne_zero 10 hn
    have hlt : (Nat.digits 10 n).getLast hne < 10 := Nat.digits_lt_base (by norm_num) (List.getLast_mem hne)
    rw [← List.dropLast_append_getLast hne, List.map_append, List.reverse_append]
    refine ⟨_, _, rfl, fun h => absurd ?_ hlast⟩
    have := digitChar_toNat hlt
    simp only [List.map_cons, List.map_nil, List.reverse_cons, List.reverse_nil, List.nil_append,
      List.head_cons] at h
    rw [h, show (0x30 : UInt8).toNat = 0x30 from rfl] at this
    omega

/-- Whether a string starts with a digit. -/
def startsWithDigit : Bytes → Bool
  | c :: _ => isDigit c
  | [] => false

/-- The digit loop stops where the run of digits ends. -/
theorem takeWhile_isDigit_append {d u : Bytes} (hd : d.all isDigit = true)
    (hu : startsWithDigit u = false) : (d ++ u).takeWhile isDigit = d := by
  rw [List.takeWhile_append_of_pos (by simpa using hd)]
  cases u with
  | nil => simp
  | cons c rest => simp only [startsWithDigit] at hu; simp [List.takeWhile_cons, hu]

end Folly
