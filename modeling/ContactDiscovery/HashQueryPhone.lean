import ContactDiscovery.Ffi

/- `hash_query_phone`, `hash_ascii_phone` and `hash_truncated`: a phone is rendered as 20 ASCII
   digits by 20 constant-time `divrem` steps, and the truncated SHA-1 of every suffix is computed,
   the one that starts at the first nonzero digit being selected by `conditional_assign`. SHA-1 is
   uninterpreted; `Choice` is `Bool` and `conditional_assign` copies exactly when it is set. -/

set_option autoImplicit false

namespace ContactDiscovery

def asciiDigit (remainder : UInt64) : UInt8 := 48 + remainder.toUInt8

def renderDigits (cttk : Cttk) : Nat → UInt64 → Bytes
  | 0, _ => []
  | count + 1, quotient =>
    asciiDigit (cttk.divrem quotient 10).2 :: renderDigits cttk count (cttk.divrem quotient 10).1

def asciiPhone (cttk : Cttk) (phone : Phone) : Bytes := (renderDigits cttk 20 phone).reverse

def conditionalAssign (dest src : UInt64) (choice : Bool) : UInt64 := if choice then src else dest

def hashTruncated (sha1 : Bytes → Bytes) (data : Bytes) (phone : Phone) (choice : Bool) : Phone :=
  conditionalAssign phone (u64FromNeBytes ((sha1 (43 :: data)).take 8)) choice

def hashAsciiPhone (sha1 : Bytes → Bytes) : Bytes → Bool → Phone → Phone
  | [], _, phone => phone
  | leadingDigit :: rest, leadingZeroes, phone =>
    hashAsciiPhone sha1 rest (leadingZeroes && leadingDigit == 48)
      (hashTruncated sha1 (leadingDigit :: rest) phone (leadingZeroes && !(leadingDigit == 48)))

def hashQueryPhone (cttk : Cttk) (sha1 : Bytes → Bytes) (phone : Phone) : Phone :=
  hashAsciiPhone sha1 (asciiPhone cttk phone) true phone

def decimal (n : Nat) : Bytes := (Nat.digits 10 n).reverse.map fun digit => 48 + digit.toUInt8

section Rendering

variable (cttk : Cttk)

theorem asciiDigit_eq (quotient : UInt64) :
    asciiDigit (quotient % 10) = 48 + (quotient.toNat % 10).toUInt8 := by
  simp [asciiDigit, UInt64.toUInt8, UInt64.toNat_mod, UInt64.size]

theorem decimal_of_pos (n : Nat) (pos : 0 < n) :
    decimal n = decimal (n / 10) ++ [48 + (n % 10).toUInt8] := by
  simp [decimal, Nat.digits_def' (by decide : 1 < 10) pos]

theorem render_digits_reverse (count : Nat) (quotient : UInt64) (small : quotient.toNat < 10 ^ count) :
    (renderDigits cttk count quotient).reverse =
      List.replicate (count - (decimal quotient.toNat).length) 48 ++ decimal quotient.toNat := by
  induction count generalizing quotient with
  | zero =>
    have zero : quotient.toNat = 0 := by simpa using small
    simp [renderDigits, zero, decimal]
  | succ count ih =>
    have divrem := cttk.divrem_of_ne_zero quotient 10 (by decide)
    have shifted : (quotient / 10).toNat = quotient.toNat / 10 := UInt64.toNat_div _ _
    have smaller : (quotient / 10).toNat < 10 ^ count := by rw [shifted, pow_succ] at *; omega
    rw [renderDigits, divrem, List.reverse_cons, ih _ smaller, shifted, asciiDigit_eq]
    rcases Nat.eq_zero_or_pos quotient.toNat with zero | pos
    · simp [zero, decimal, List.replicate_succ']
      rfl
    · have length : (decimal quotient.toNat).length = (decimal (quotient.toNat / 10)).length + 1 := by
        simp [decimal_of_pos _ pos]
      rw [length, decimal_of_pos _ pos, List.append_assoc]
      congr 2
      omega

theorem ascii_phone_eq (phone : Phone) :
    asciiPhone cttk phone = List.replicate (20 - (decimal phone.toNat).length) 48 ++ decimal phone.toNat :=
  render_digits_reverse cttk 20 phone (by have := phone.toNat_lt_size; simp only [UInt64.size] at this; omega)

theorem length_decimal_le (phone : Phone) : (decimal phone.toNat).length ≤ 20 := by
  have length := congrArg List.length (ascii_phone_eq Cttk.native phone)
  simp only [asciiPhone, List.length_reverse, List.length_append, List.length_replicate] at length
  have rendered : (renderDigits Cttk.native 20 phone).length = 20 := by simp [renderDigits]
  omega

end Rendering

/-! ## Selecting the suffix -/

section Selection

variable (sha1 : Bytes → Bytes)

theorem hash_ascii_phone_cleared (digits : Bytes) (phone : Phone) :
    hashAsciiPhone sha1 digits false phone = phone := by
  induction digits generalizing phone with
  | nil => rfl
  | cons digit rest ih => simp [hashAsciiPhone, hashTruncated, conditionalAssign, ih]

theorem hash_ascii_phone_zeros (zeros : Nat) (digits : Bytes) (phone : Phone) :
    hashAsciiPhone sha1 (List.replicate zeros 48 ++ digits) true phone = hashAsciiPhone sha1 digits true phone := by
  induction zeros with
  | zero => rfl
  | succ zeros ih => simpa [List.replicate_succ, hashAsciiPhone, hashTruncated, conditionalAssign] using ih

theorem hash_ascii_phone_leading (digit : UInt8) (rest : Bytes) (phone : Phone) (nonzero : digit ≠ 48) :
    hashAsciiPhone sha1 (digit :: rest) true phone = u64FromNeBytes ((sha1 (43 :: digit :: rest)).take 8) := by
  have differs : (digit == 48) = false := by simpa using nonzero
  simp [hashAsciiPhone, hashTruncated, conditionalAssign, differs, hash_ascii_phone_cleared]

theorem decimal_head_ne_zero (n : Nat) (nonzero : n ≠ 0) :
    ∃ digit rest, decimal n = digit :: rest ∧ digit ≠ 48 := by
  have digits : Nat.digits 10 n ≠ [] := Nat.digits_ne_nil_iff_ne_zero.mpr nonzero
  obtain ⟨lead, rest, split⟩ := List.exists_cons_of_ne_nil (List.reverse_ne_nil_iff.mpr digits)
  have last : lead = (Nat.digits 10 n).getLast digits := by
    simpa [split] using List.head_reverse (l := Nat.digits 10 n) (by simpa using digits)
  have small : lead < 10 :=
    Nat.digits_lt_base (by decide) (List.mem_reverse.mp (split ▸ List.mem_cons_self lead rest))
  have positive : lead ≠ 0 := last ▸ Nat.getLast_digit_ne_zero 10 nonzero
  refine ⟨48 + lead.toUInt8, rest.map fun digit => 48 + digit.toUInt8, by simp [decimal, split], ?_⟩
  have char : ∀ d, d < 10 → ((48 : UInt8) + d.toUInt8 = 48 ↔ d = 0) := by decide
  exact fun same => positive ((char lead small).mp same)

end Selection

/-- `hash_query_phone` renders the 20-digit zero-padded decimal of the phone and replaces a nonzero
phone by the first 8 bytes, read natively, of SHA-1 over `'+'` and its decimal form without leading
zeros (1 to 20 digits); the phone 0 is left unchanged. -/
theorem hash_query_phone_spec (cttk : Cttk) (sha1 : Bytes → Bytes) (phone : Phone) :
    asciiPhone cttk phone = List.replicate (20 - (decimal phone.toNat).length) 48 ++ decimal phone.toNat ∧
    (phone ≠ 0 → 1 ≤ (decimal phone.toNat).length ∧ (decimal phone.toNat).length ≤ 20 ∧
      hashQueryPhone cttk sha1 phone = u64FromNeBytes ((sha1 (43 :: decimal phone.toNat)).take 8)) ∧
    (phone = 0 → hashQueryPhone cttk sha1 phone = phone) := by
  refine ⟨ascii_phone_eq cttk phone, fun nonzero => ?_, fun zero => ?_⟩
  · have value : phone.toNat ≠ 0 := fun same => nonzero (UInt64.ext (by simpa using same))
    obtain ⟨digit, rest, split, lead⟩ := decimal_head_ne_zero phone.toNat value
    refine ⟨by simp [split], length_decimal_le phone, ?_⟩
    rw [hashQueryPhone, ascii_phone_eq, hash_ascii_phone_zeros, split, hash_ascii_phone_leading _ _ _ _ lead]
  · subst zero
    have padded : asciiPhone cttk 0 = List.replicate 20 48 := by
      simpa [decimal] using ascii_phone_eq cttk 0
    rw [hashQueryPhone, padded, ← List.append_nil (List.replicate 20 48), hash_ascii_phone_zeros]
    rfl

end ContactDiscovery
