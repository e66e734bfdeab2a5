import ContactDiscovery.RatelimitStateData

/- `RatelimitState`: a cell's nonce and key, `get_iv`, and `update`, which decrypts the slab (or
   initialises an all-zero one), moves the nonce, adds the phones and encrypts under the new IV.
   Besides its state and result, a call reports the calls it made to AES-GCM and to
   `RatelimitStateData::add`, in order, with the nonce whose IV it passed: what a mock of those
   collaborators records, and what the nonce discipline is a statement about. The fresh random key
   of `Default::default()` is the argument of `default`. -/

set_option autoImplicit false

namespace ContactDiscovery

structure RatelimitState where
  nonce : UInt32
  nonce_ne_zero : nonce ≠ 0
  key : AesGcmKey

namespace RatelimitState

def default (key : AesGcmKey) : RatelimitState := ⟨1, by decide, key⟩

def getIv (self : RatelimitState) : AesGcmIv :=
  ⟨u32ToLeBytes self.nonce ++ (List.replicate aesGcmIvLen 0).drop 4⟩

end RatelimitState

inductive RatelimitCall where
  | decrypt (nonce : UInt32) (ciphertext : Bytes) (mac : AesGcmMac)
  | add (plaintext : Bytes) (phones : List Phone)
  | encrypt (nonce : UInt32) (plaintext : Bytes)

namespace RatelimitCall

def decryptNonce : RatelimitCall → Option UInt32
  | .decrypt nonce _ _ => some nonce
  | _ => none

def encryptNonce : RatelimitCall → Option UInt32
  | .encrypt nonce _ => some nonce
  | _ => none

end RatelimitCall

structure Update where
  state : RatelimitState
  result : Outcome (Bytes × AesGcmMac)
  calls : List RatelimitCall

namespace Update

def decryptedUnder (u : Update) : Option UInt32 := u.calls.findSome? RatelimitCall.decryptNonce

def encryptedUnder (u : Update) : Option UInt32 := u.calls.findSome? RatelimitCall.encryptNonce

end Update

namespace RatelimitState

variable (ffi : Ffi)

def next (self : RatelimitState) (room : self.nonce.toNat + 1 < 2 ^ 32) : RatelimitState where
  nonce := self.nonce + 1
  nonce_ne_zero := fun zero => by
    have := congrArg UInt32.toNat zero
    rw [UInt32.toNat_add, Nat.mod_eq_of_lt (by simpa using room)] at this
    simp at this
  key := self.key

/-- Steps 3 to 6 of `update`, once the plaintext is in hand: the nonce moves before `add`, and
the result is encrypted under the new IV. -/
def addAndEncrypt (self : RatelimitState) (plaintext : Bytes) (phones : List Phone)
    (opened : List RatelimitCall) : Update :=
  if room : self.nonce.toNat + 1 < 2 ^ 32 then
    let moved := self.next room
    let added := opened ++ [.add plaintext phones]
    match RatelimitStateData.add ffi.ratelimitSet plaintext phones with
    | .ok data =>
      match ffi.aesGcm.encrypt moved.key moved.getIv data with
      | .ok sealed => ⟨moved, .ok sealed, added ++ [.encrypt moved.nonce data]⟩
      | .error status => ⟨moved, .err status, added ++ [.encrypt moved.nonce data]⟩
    | .err status => ⟨moved, .err status, added⟩
    | .panic => ⟨moved, .panic, added⟩
  else ⟨self, .err .cdsErrorInvalidRateLimitState, opened⟩

def update (self : RatelimitState) (data : Bytes) (mac : AesGcmMac) (phones : List Phone)
    (rand : Option UInt32) : Update :=
  if data.all (· == 0) then
    match RatelimitStateData.initialise ffi.cttk data rand with
    | .ok plaintext => self.addAndEncrypt ffi plaintext phones []
    | .err status => ⟨self, .err status, []⟩
    | .panic => ⟨self, .panic, []⟩
  else
    match ffi.aesGcm.decrypt self.key self.getIv mac data with
    | .ok plaintext => self.addAndEncrypt ffi plaintext phones [.decrypt self.nonce data mac]
    | .error _ => ⟨self, .err .cdsErrorInvalidRateLimitState, [.decrypt self.nonce data mac]⟩

/-- A slab of exactly 16 zero bytes gives `update` the empty plaintext: the fresh branch computes
`slot_count` before any length check, and its `len - 4` overflows. -/
theorem update_empty_plaintext_panics :
    (RatelimitState.default ⟨[]⟩ |>.update Ffi.inert [] AesGcmMac.zero [] none).result = .panic := rfl

/-- A fresh cell whose all-zero plaintext has 4 to 27 bytes holds fewer than two effective slots, and
nothing rejects it: the fresh branch draws the size limit 0 whatever the RNG word, and every call that
moves the nonce is refused as rate-limited, even one with no phones. -/
theorem update_short_fresh_slab_rate_limited (self : RatelimitState) (length : Nat) (mac : AesGcmMac)
    (phones : List Phone) (word : UInt32) (long : 4 ≤ length) (short : length < 28)
    (room : self.nonce.toNat + 1 < 2 ^ 32) :
    (self.update ffi (List.replicate length 0) mac phones (some word)).result = .err .cdsErrorRateLimitExceeded := by
  have zero : (List.replicate length (0 : UInt8)).all (· == 0) = true := by simp
  simp only [update, zero, if_true, RatelimitStateData.initialise_short ffi.cttk length word long short,
    addAndEncrypt, dif_pos room, RatelimitStateData.add_zero_limit]

theorem update_short_fresh_slab_rate_limited_at_4 :
    4 ≤ 4 ∧ 4 < 28 ∧ (default ⟨[]⟩).nonce.toNat + 1 < 2 ^ 32 ∧
      ((default ⟨[]⟩).update Ffi.inert (List.replicate 4 0) AesGcmMac.zero [] (some 5)).result =
        .err .cdsErrorRateLimitExceeded :=
  ⟨by decide, by decide, by decide,
    update_short_fresh_slab_rate_limited Ffi.inert _ 4 _ [] 5 (by decide) (by decide) (by decide)⟩

theorem addAndEncrypt_spec (self : RatelimitState) (plaintext : Bytes) (phones : List Phone)
    (opened : List RatelimitCall) :
    (self.nonce.toNat + 1 = 2 ^ 32 ∧
      self.addAndEncrypt ffi plaintext phones opened = ⟨self, .err .cdsErrorInvalidRateLimitState, opened⟩) ∨
    ∃ room, (∃ status, self.addAndEncrypt ffi plaintext phones opened =
        ⟨self.next room, .err status, opened ++ [.add plaintext phones]⟩) ∨
      ∃ data, RatelimitStateData.add ffi.ratelimitSet plaintext phones = .ok data ∧
        self.addAndEncrypt ffi plaintext phones opened = ⟨self.next room,
          Outcome.ofExcept (ffi.aesGcm.encrypt (self.next room).key (self.next room).getIv data),
          opened ++ [.add plaintext phones, .encrypt (self.next room).nonce data]⟩ := by
  unfold addAndEncrypt
  split
  · rename_i room
    refine .inr ⟨room, ?_⟩
    dsimp only
    cases added : RatelimitStateData.add ffi.ratelimitSet plaintext phones with
    | ok data =>
      refine .inr ⟨data, rfl, ?_⟩
      dsimp only
      split <;> rename_i encrypted <;> simp [encrypted]
    | err status => exact .inl ⟨status, rfl⟩
    | panic => exact absurd added (RatelimitStateData.add_ne_panic _ _ _)
  · exact .inl ⟨by have := self.nonce.toNat_lt; omega, rfl⟩

theorem length_addAndEncrypt (self : RatelimitState) (plaintext : Bytes) (phones : List Phone)
    (opened : List RatelimitCall) {ciphertext : Bytes} {mac : AesGcmMac}
    (done : (self.addAndEncrypt ffi plaintext phones opened).result = .ok (ciphertext, mac)) :
    ciphertext.length = plaintext.length := by
  rcases addAndEncrypt_spec ffi self plaintext phones opened with ⟨-, shape⟩ | ⟨_, ⟨_, shape⟩ | ⟨data, added, shape⟩⟩ <;>
    rw [shape] at done
  · cases done
  · cases done
  · rw [ffi.aesGcm.length_encrypt ((Outcome.ofExcept_eq_ok _ _).mp done), RatelimitStateData.length_add added]

theorem length_update (self : RatelimitState) (data : Bytes) (mac : AesGcmMac) (phones : List Phone)
    (rand : Option UInt32) {ciphertext : Bytes} {sealedMac : AesGcmMac}
    (done : (self.update ffi data mac phones rand).result = .ok (ciphertext, sealedMac)) :
    ciphertext.length = data.length := by
  unfold update at done
  split at done
  · split at done
    · rename_i initialised
      rw [length_addAndEncrypt ffi _ _ _ _ done, RatelimitStateData.length_initialise initialised]
    · cases done
    · cases done
  · split at done
    · rename_i opened
      rw [length_addAndEncrypt ffi _ _ _ _ done, ffi.aesGcm.length_decrypt opened]
    · cases done

theorem addAndEncrypt_ne_panic (self : RatelimitState) (plaintext : Bytes) (phones : List Phone)
    (opened : List RatelimitCall) : (self.addAndEncrypt ffi plaintext phones opened).result ≠ .panic := by
  rcases addAndEncrypt_spec ffi self plaintext phones opened with ⟨-, shape⟩ | ⟨_, ⟨_, shape⟩ | ⟨_, -, shape⟩⟩ <;>
    rw [shape]
  · exact fun stuck => Outcome.noConfusion stuck
  · exact fun stuck => Outcome.noConfusion stuck
  · exact Outcome.ofExcept_ne_panic _

theorem update_eq_panic (self : RatelimitState) (data : Bytes) (mac : AesGcmMac) (phones : List Phone)
    (rand : Option UInt32) :
    (self.update ffi data mac phones rand).result = .panic ↔
      data.all (· == 0) = true ∧ data.length < RatelimitStateData.sizeLimitDataLen := by
  unfold update
  split
  · rename_i zeros
    simp only [zeros, true_and]
    rw [← RatelimitStateData.initialise_eq_panic ffi.cttk data rand]
    cases RatelimitStateData.initialise ffi.cttk data rand with
    | ok plaintext => exact iff_of_false (addAndEncrypt_ne_panic ffi _ _ _ _) Outcome.noConfusion
    | err | panic => simp
  · rename_i nonzero
    simp only [nonzero, Bool.false_eq_true, false_and, iff_false]
    split
    · exact addAndEncrypt_ne_panic ffi _ _ _ _
    · exact Outcome.noConfusion

end RatelimitState

end ContactDiscovery
