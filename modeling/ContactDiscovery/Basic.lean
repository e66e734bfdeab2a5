import Mathlib

/- The byte-level vocabulary of the enclave service (cds_enclave/src/service/main.rs): byte
   strings, the little-endian integer encodings the code reads and writes, the status codes it
   returns, and how a call ends. Fixed-width Rust integers are `UInt8`, `UInt32` and `UInt64`;
   `usize` quantities (lengths and sizes) are `Nat`, with the 64-bit bound written out where an
   operation can overflow. The enclave runs on x86-64, so `from_ne_bytes` is `from_le_bytes`.
   Arithmetic overflow, a slice index out of range and a failed `unwrap` are panics, as in a
   build with overflow checks; a panic ends the call with no result. `Outcome.ofExcept`, `okOr`,
   `mapErr` and `errIf` are a library `Result` under `?`, `ok_or(status)?`, `map_err(|_| status)?` and
   `if condition { return Err(status); }`. -/

set_option autoImplicit false

namespace ContactDiscovery

abbrev Bytes := List UInt8

def usizeMax : Nat := 2 ^ 64 - 1

def isizeMax : Nat := 2 ^ 63 - 1

def checkedSub (a b : Nat) : Option Nat := if b ≤ a then some (a - b) else none

def checkedMul (a b : Nat) : Option Nat := if a * b ≤ usizeMax then some (a * b) else none

theorem checked_sub_eq_some (a b : Nat) (le : b ≤ a) : checkedSub a b = some (a - b) := by
  simp [checkedSub, le]

theorem checked_sub_eq_none (a b : Nat) (lt : a < b) : checkedSub a b = none := by
  simp [checkedSub, Nat.not_le.mpr lt]

theorem checkedSub_eq_some_iff (a b c : Nat) : checkedSub a b = some c ↔ b ≤ a ∧ a - b = c := by
  unfold checkedSub
  split <;> simp_all

theorem checked_mul_eq_some (a b : Nat) (le : a * b ≤ usizeMax) : checkedMul a b = some (a * b) := by
  simp [checkedMul, le]

theorem checkedMul_eq_some_iff (a b c : Nat) : checkedMul a b = some c ↔ a * b ≤ usizeMax ∧ a * b = c := by
  unfold checkedMul
  split <;> simp_all

/-! ## Little-endian integers -/

def leBytes : Nat → Nat → Bytes
  | 0, _ => []
  | width + 1, value => (value % 256).toUInt8 :: leBytes width (value / 256)

def leValue : Bytes → Nat
  | [] => 0
  | byte :: rest => byte.toNat + 256 * leValue rest

@[simp] theorem length_leBytes (width value : Nat) : (leBytes width value).length = width := by
  induction width generalizing value with
  | zero => rfl
  | succ width ih => simp [leBytes, ih]

theorem leValue_leBytes (width value : Nat) : leValue (leBytes width value) = value % 256 ^ width := by
  induction width generalizing value with
  | zero => simp [leBytes, leValue, Nat.mod_one]
  | succ width ih =>
    have low : ((value % 256).toUInt8).toNat = value % 256 :=
      UInt8.toNat_ofNat_of_lt (Nat.mod_lt _ (by decide))
    rw [leBytes, leValue, ih, low, pow_succ', Nat.mod_mul]

theorem leValue_lt (bytes : Bytes) : leValue bytes < 256 ^ bytes.length := by
  induction bytes with
  | nil => simp [leValue]
  | cons byte rest ih =>
    have small := byte.toNat_lt
    simp only [leValue, List.length_cons, pow_succ']
    omega

theorem leBytes_injective (width a b : Nat) (small : a < 256 ^ width) (small' : b < 256 ^ width)
    (same : leBytes width a = leBytes width b) : a = b := by
  have values := congrArg leValue same
  rwa [leValue_leBytes, leValue_leBytes, Nat.mod_eq_of_lt small, Nat.mod_eq_of_lt small'] at values

def u32ToLeBytes (value : UInt32) : Bytes := leBytes 4 value.toNat

def u32FromLeBytes (bytes : Bytes) : UInt32 := (leValue bytes).toUInt32

def u64FromNeBytes (bytes : Bytes) : UInt64 := (leValue bytes).toUInt64

@[simp] theorem length_u32ToLeBytes (value : UInt32) : (u32ToLeBytes value).length = 4 :=
  length_leBytes 4 _

theorem u32FromLeBytes_u32ToLeBytes (value : UInt32) : u32FromLeBytes (u32ToLeBytes value) = value := by
  have small : value.toNat < 256 ^ 4 := value.toNat_lt
  apply UInt32.ext
  rw [u32FromLeBytes, u32ToLeBytes, leValue_leBytes, Nat.mod_eq_of_lt small]
  exact UInt32.toNat_ofNat_of_lt value.toNat_lt

theorem u64FromNeBytes_leBytes (value : UInt64) : u64FromNeBytes (leBytes 8 value.toNat) = value := by
  have small : value.toNat < 256 ^ 8 := value.toNat_lt
  apply UInt64.ext
  rw [u64FromNeBytes, leValue_leBytes, Nat.mod_eq_of_lt small]
  exact UInt64.toNat_ofNat_of_lt value.toNat_lt

/-! ## Status codes and outcomes -/

-- The status codes `main.rs` names; `other` stands for a code that a library of the
-- enclave (AES-GCM, the reply channel, the lookup) returns and the service passes on.
inductive SgxStatus where
  | sgxErrorUnexpected
  | sgxErrorInvalidParameter
  | sgxErrorInvalidState
  | cdsErrorInvalidRequestSize
  | cdsErrorQueryCommitmentMismatch
  | cdsErrorInvalidRateLimitState
  | cdsErrorRateLimitExceeded
  | other (code : UInt32)
deriving DecidableEq, Repr

/-- How a call ends: the `Result` the Rust function returns, or a panic. -/
inductive Outcome (α : Type) where
  | ok (value : α)
  | err (status : SgxStatus)
  | panic
deriving DecidableEq, Repr

namespace Outcome

variable {α β : Type}

def bind (x : Outcome α) (f : α → Outcome β) : Outcome β :=
  match x with
  | .ok value => f value
  | .err status => .err status
  | .panic => .panic

instance : Monad Outcome where
  pure := .ok
  bind := Outcome.bind

def ofExcept : Except SgxStatus α → Outcome α
  | .ok value => .ok value
  | .error status => .err status

def okOr (status : SgxStatus) : Option α → Outcome α
  | some value => .ok value
  | none => .err status

def mapErr {ε : Type} (status : SgxStatus) : Except ε α → Outcome α
  | .ok value => .ok value
  | .error _ => .err status

def errIf (condition : Prop) [Decidable condition] (status : SgxStatus) : Outcome Unit :=
  if condition then .err status else .ok ()

@[simp] theorem pure_eq (a : α) : (pure a : Outcome α) = .ok a := rfl

@[simp] theorem ok_bind (a : α) (f : α → Outcome β) : (Outcome.ok a >>= f) = f a := rfl

@[simp] theorem err_bind (s : SgxStatus) (f : α → Outcome β) : (Outcome.err s >>= f) = .err s := rfl

@[simp] theorem panic_bind (f : α → Outcome β) : (Outcome.panic >>= f) = .panic := rfl

@[simp] theorem ofExcept_ok (a : α) : ofExcept (.ok a : Except SgxStatus α) = .ok a := rfl

@[simp] theorem ofExcept_error (s : SgxStatus) : ofExcept (.error s : Except SgxStatus α) = .err s := rfl

@[simp] theorem okOr_some (s : SgxStatus) (a : α) : okOr s (some a) = .ok a := rfl

@[simp] theorem okOr_none (s : SgxStatus) : okOr s (none : Option α) = .err s := rfl

@[simp] theorem mapErr_ok {ε : Type} (s : SgxStatus) (a : α) : mapErr s (.ok a : Except ε α) = .ok a := rfl

@[simp] theorem mapErr_error {ε : Type} (s : SgxStatus) (e : ε) : mapErr s (.error e : Except ε α) = .err s := rfl

@[simp] theorem errIf_eq_ok (c : Prop) [Decidable c] (s : SgxStatus) (u : Unit) : errIf c s = .ok u ↔ ¬c := by
  unfold errIf
  split <;> simp_all

@[simp] theorem okOr_eq_ok (s : SgxStatus) (o : Option α) (a : α) : okOr s o = .ok a ↔ o = some a := by
  cases o <;> simp

@[simp] theorem mapErr_eq_ok {ε : Type} (s : SgxStatus) (x : Except ε α) (a : α) :
    mapErr s x = .ok a ↔ x = .ok a := by
  cases x <;> simp

@[simp] theorem ofExcept_eq_ok (x : Except SgxStatus α) (a : α) : ofExcept x = .ok a ↔ x = .ok a := by
  cases x <;> simp

theorem bind_eq_ok {x : Outcome α} {f : α → Outcome β} {b : β} :
    (x >>= f) = .ok b ↔ ∃ a, x = .ok a ∧ f a = .ok b := by
  cases x <;> simp [Bind.bind, Outcome.bind]

theorem bind_ne_panic {x : Outcome α} {f : α → Outcome β} (first : x ≠ .panic) (rest : ∀ a, f a ≠ .panic) :
    (x >>= f) ≠ .panic := by
  cases x with
  | ok a => exact rest a
  | err s => exact fun stuck => Outcome.noConfusion stuck
  | panic => exact absurd rfl first

@[simp] theorem ofExcept_ne_panic (x : Except SgxStatus α) : ofExcept x ≠ .panic := by
  cases x <;> simp

@[simp] theorem okOr_ne_panic (s : SgxStatus) (o : Option α) : okOr s o ≠ .panic := by
  cases o <;> simp

@[simp] theorem mapErr_ne_panic {ε : Type} (s : SgxStatus) (x : Except ε α) : mapErr s x ≠ .panic := by
  cases x <;> simp

@[simp] theorem errIf_ne_panic (c : Prop) [Decidable c] (s : SgxStatus) : errIf c s ≠ .panic := by
  unfold errIf
  split <;> simp

end Outcome

end ContactDiscovery
