import ContactDiscovery.Basic

/- The libraries the service calls and this development does not model: AES-GCM and SHA-1/SHA-256
   from sgxsd_ffi, the constant-time integers of crate::ffi::cttk, and the ratelimit set of
   crate::ffi::ratelimit_set. Each is a parameter; AES-GCM works in place with an empty AAD. What the Rust types promise of it is a field
   of its structure: an operation on a `&mut [u8]` keeps the slice's length, a MAC is a
   `[u8; 16]`, and cttk's division agrees with `u64` division when the divisor is nonzero
   (what a zero divisor gives is left open). Laws that only one result needs, such as the
   correctness of AES-GCM or the contract of the ratelimit set, are stated beside it. -/

set_option autoImplicit false

namespace ContactDiscovery

abbrev Phone := UInt64

def aesGcmMacLen : Nat := 16

def aesGcmIvLen : Nat := 12

structure AesGcmKey where
  data : Bytes
deriving DecidableEq, Repr

structure AesGcmIv where
  data : Bytes
deriving DecidableEq, Repr

structure AesGcmMac where
  data : Bytes
  length_data : data.length = aesGcmMacLen
deriving DecidableEq

def AesGcmMac.ofBytes (data : Bytes) : Option AesGcmMac :=
  if h : data.length = aesGcmMacLen then some ⟨data, h⟩ else none

theorem AesGcmMac.ofBytes_of_length {data : Bytes} (sized : data.length = aesGcmMacLen) :
    AesGcmMac.ofBytes data = some ⟨data, sized⟩ :=
  dif_pos sized

theorem AesGcmMac.ofBytes_data (mac : AesGcmMac) : AesGcmMac.ofBytes mac.data = some mac :=
  AesGcmMac.ofBytes_of_length mac.length_data

structure AesGcm where
  encrypt : AesGcmKey → AesGcmIv → Bytes → Except SgxStatus (Bytes × AesGcmMac)
  decrypt : AesGcmKey → AesGcmIv → AesGcmMac → Bytes → Except SgxStatus Bytes
  length_encrypt : ∀ {key iv data out}, encrypt key iv data = .ok out → out.1.length = data.length
  length_decrypt : ∀ {key iv mac data out}, decrypt key iv mac data = .ok out → out.length = data.length

/-- `CtU64::divrem_assign` (quotient, remainder) and `CtU64::rem_assign` of crate::ffi::cttk, each
read back with `u64::from`. `rem_zero` is modelled from the spec: its §4.3 has the default size-limit
draw land in `[slots/2, slots)`, which for one effective slot is `0` alone, so a remainder modulo zero
(cttk's NaN) reads back as `0`. -/
structure Cttk where
  divrem : UInt64 → UInt64 → UInt64 × UInt64
  rem : UInt64 → UInt64 → UInt64
  divrem_of_ne_zero : ∀ a b, b ≠ 0 → divrem a b = (a / b, a % b)
  rem_of_ne_zero : ∀ a b, b ≠ 0 → rem a b = a % b
  rem_zero : ∀ a, rem a 0 = 0

structure RatelimitSet where
  add : Bytes → List Phone → Bytes
  size : Bytes → UInt32
  length_add : ∀ slots phones, (add slots phones).length = slots.length

structure Ffi where
  aesGcm : AesGcm
  cttk : Cttk
  ratelimitSet : RatelimitSet
  sha1 : Bytes → Bytes
  sha256 : Bytes → Bytes

/-! ## Stand-ins for running the model on concrete inputs -/

def AesGcmMac.zero : AesGcmMac := ⟨List.replicate aesGcmMacLen 0, List.length_replicate _ _⟩

def AesGcm.identity : AesGcm where
  encrypt _ _ data := .ok (data, AesGcmMac.zero)
  decrypt _ _ _ data := .ok data
  length_encrypt done := by cases done; rfl
  length_decrypt done := by cases done; rfl

def Cttk.native : Cttk where
  divrem a b := (a / b, a % b)
  rem a b := if b = 0 then 0 else a % b
  divrem_of_ne_zero _ _ _ := rfl
  rem_of_ne_zero _ _ nonzero := if_neg nonzero
  rem_zero _ := rfl

def RatelimitSet.inert : RatelimitSet where
  add slots _ := slots
  size _ := 0
  length_add _ _ := rfl

def Ffi.inert : Ffi where
  aesGcm := AesGcm.identity
  cttk := Cttk.native
  ratelimitSet := RatelimitSet.inert
  sha1 _ := List.replicate 20 0
  sha256 _ := List.replicate 32 0

end ContactDiscovery
