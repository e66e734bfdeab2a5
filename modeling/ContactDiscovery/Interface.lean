import ContactDiscovery.Ffi

/- The enclave's side of the sealed-call surface: untrusted memory and the slices that point into
   it, UUIDs, callers, and the argument records of `init`, `handle_call` and `terminate`.
   `sgx_ffi::untrusted_slice` is not among the sources modelled here; an `UntrustedSlice` follows the
   spec's words: a pointer and a length that `new` has checked to lie outside the enclave (the SDK's
   `sgx_is_outside_enclave`, a parameter here), whose reads copy bytes into the enclave and whose
   writes store them, both within the slice's length. Untrusted memory is a byte at each address;
   the host does not change it while a call runs. -/

set_option autoImplicit false

namespace ContactDiscovery

abbrev Memory := Nat → UInt8

def readAt (memory : Memory) (ptr length : Nat) : Bytes :=
  (List.range length).map fun index => memory (ptr + index)

def writeAt (memory : Memory) (ptr : Nat) (data : Bytes) : Memory := fun address =>
  if ptr ≤ address ∧ address < ptr + data.length then data.getD (address - ptr) 0 else memory address

@[simp] theorem length_readAt (memory : Memory) (ptr length : Nat) : (readAt memory ptr length).length = length := by
  simp [readAt]

theorem writeAt_append (memory : Memory) (ptr : Nat) (first second : Bytes) :
    writeAt (writeAt memory ptr first) (ptr + first.length) second = writeAt memory ptr (first ++ second) := by
  funext address
  simp only [writeAt, List.length_append]
  by_cases inFirst : ptr ≤ address ∧ address < ptr + first.length
  · rw [if_neg (by omega), if_pos inFirst, if_pos (by omega), List.getD_append _ _ _ _ (by omega)]
  · rw [if_neg inFirst]
    by_cases inSecond : ptr + first.length ≤ address ∧ address < ptr + first.length + second.length
    · rw [if_pos inSecond, if_pos (by omega), List.getD_append_right _ _ _ _ (by omega)]
      congr 1
      omega
    · rw [if_neg inSecond, if_neg (by omega)]

theorem writeAt_of_outside (memory : Memory) (ptr : Nat) (data : Bytes) {address : Nat}
    (outside : address < ptr ∨ ptr + data.length ≤ address) : writeAt memory ptr data address = memory address :=
  if_neg (by omega)

theorem writeAt_congr {memory memory' : Memory} (ptr : Nat) (data : Bytes) {address : Nat}
    (same : memory' address = memory address) : writeAt memory' ptr data address = writeAt memory ptr data address := by
  unfold writeAt
  split
  · rfl
  · exact same

theorem readAt_add (memory : Memory) (ptr first second : Nat) :
    readAt memory ptr (first + second) = readAt memory ptr first ++ readAt memory (ptr + first) second := by
  simp [readAt, List.range_add, Nat.add_assoc]

@[simp] theorem writeAt_readAt (memory : Memory) (ptr length : Nat) : writeAt memory ptr (readAt memory ptr length) = memory := by
  funext address
  simp only [writeAt, length_readAt]
  split
  · rename_i inside
    rw [readAt, List.getD_eq_getElem?_getD, List.getElem?_map, List.getElem?_range (by omega)]
    simp [Nat.add_sub_cancel' inside.1]
  · rfl

/-- Modelled from the spec: `sgx_ffi::untrusted_slice::UntrustedSlice`, "a pointer+length pair proven
to refer to memory outside the sealed region". -/
structure UntrustedSlice where
  ptr : Nat
  size : Nat
deriving DecidableEq, Repr

namespace UntrustedSlice

def new (isOutsideEnclave : Nat → Nat → Bool) (data size : Nat) : Except Unit UntrustedSlice :=
  if isOutsideEnclave data size then .ok ⟨data, size⟩ else .error ()

def offset (self : UntrustedSlice) (count : Nat) : UntrustedSlice := ⟨self.ptr + count, self.size - count⟩

def readBytes (self : UntrustedSlice) (memory : Memory) (length : Nat) : Except Unit Bytes :=
  if length ≤ self.size then .ok (readAt memory self.ptr length) else .error ()

def writeBytes (self : UntrustedSlice) (memory : Memory) (data : Bytes) : Except Unit Memory :=
  if data.length ≤ self.size then .ok (writeAt memory self.ptr data) else .error ()

@[simp] theorem offset_ptr (self : UntrustedSlice) (count : Nat) : (self.offset count).ptr = self.ptr + count := rfl

@[simp] theorem offset_size (self : UntrustedSlice) (count : Nat) : (self.offset count).size = self.size - count := rfl

theorem readBytes_of_le (self : UntrustedSlice) (memory : Memory) {length : Nat} (fits : length ≤ self.size) :
    self.readBytes memory length = .ok (readAt memory self.ptr length) :=
  if_pos fits

theorem writeBytes_of_le (self : UntrustedSlice) (memory : Memory) {data : Bytes} (fits : data.length ≤ self.size) :
    self.writeBytes memory data = .ok (writeAt memory self.ptr data) :=
  if_pos fits

theorem new_ok_iff (isOutsideEnclave : Nat → Nat → Bool) (data size : Nat) (slice : UntrustedSlice) :
    new isOutsideEnclave data size = .ok slice ↔ isOutsideEnclave data size = true ∧ ⟨data, size⟩ = slice := by
  unfold new
  by_cases outside : isOutsideEnclave data size = true
  · simp [outside]
  · simp [outside]

theorem readBytes_eq_ok (self : UntrustedSlice) (memory : Memory) (length : Nat) (data : Bytes) :
    self.readBytes memory length = .ok data ↔ length ≤ self.size ∧ readAt memory self.ptr length = data := by
  unfold readBytes
  by_cases fits : length ≤ self.size
  · simp [fits]
  · simp [fits]

end UntrustedSlice

abbrev Uuid := BitVec 128

abbrev NonZeroU128 := {uuid : Uuid // uuid ≠ 0}

def Uuid.toNonZero (uuid : Uuid) : Option NonZeroU128 := if nonzero : uuid = 0 then none else some ⟨uuid, nonzero⟩

@[simp] theorem Uuid.toNonZero_eq_none (uuid : Uuid) : uuid.toNonZero = none ↔ uuid = 0 := by
  unfold Uuid.toNonZero
  split
  · simpa
  · rename_i nonzero
    simpa only [reduceCtorEq, false_iff] using nonzero

@[simp] theorem Uuid.toNonZero_val (key : NonZeroU128) : key.val.toNonZero = some key := by
  unfold Uuid.toNonZero
  rw [dif_neg key.property]

theorem Uuid.isSome_toNonZero (uuid : Uuid) : uuid.toNonZero.isSome ↔ uuid ≠ 0 := by
  rw [Ne, ← Uuid.toNonZero_eq_none, Option.isSome_iff_ne_none]

abbrev SgxsdMsgFrom := Nat

structure StartArgs where
  maxQueryPhones : Nat
  maxRatelimitStates : Nat
deriving DecidableEq, Repr

structure CallArgsQuery where
  data : Nat
  size : Nat
  iv : AesGcmIv
  mac : AesGcmMac

structure CallArgs where
  query : CallArgsQuery
  queryCommitment : Bytes
  queryPhoneCount : UInt32
  ratelimitStateUuid : Uuid
  ratelimitStateData : Nat
  ratelimitStateSize : Nat

structure StopArgs where
  inPhones : Nat
  inUuids : Nat
  inPhoneCount : Nat
deriving DecidableEq, Repr

end ContactDiscovery
