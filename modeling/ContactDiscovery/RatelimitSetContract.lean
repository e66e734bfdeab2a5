import ContactDiscovery.RatelimitState

/- What a chain of `update` calls rests on besides the code: AES-GCM decrypts what it encrypted
   under the same key and IV, and the ratelimit set behaves as a set of at most its effective
   capacity. `ratelimit_set_add` works in place, so a slab of fixed length cannot hold every set of
   phones: the contract promises exact insertion only while the result fits, and a set that would
   overflow reports at least its capacity. `RatelimitSet.reference` is a slab encoding that meets
   the contract, so the contract can be met. -/

set_option autoImplicit false

namespace ContactDiscovery

def AesGcm.Correct (aes : AesGcm) : Prop :=
  ∀ key iv data ciphertext mac, aes.encrypt key iv data = .ok (ciphertext, mac) →
    aes.decrypt key iv mac ciphertext = .ok data

theorem AesGcm.identity_correct : AesGcm.identity.Correct := by
  intro key iv data ciphertext mac done
  cases done
  rfl

def effectiveSlots (length : Nat) : Nat := min (3 * (length / 8) / 4) (2 ^ 32 - 1)

/-- The contract of `ratelimit_set_add` and `ratelimit_set_size` over an abstraction `contents` of
the slot bytes: a zeroed slab is empty, the size counts the distinct entries, and `add` inserts the
given phones and nothing else, all of them unless the set would outgrow its capacity. -/
structure RatelimitSet.Contract (set : RatelimitSet) (contents : Bytes → Finset Phone) : Prop where
  zero : ∀ length, contents (List.replicate length 0) = ∅
  size : ∀ slots, (set.size slots).toNat = (contents slots).card
  add_subset : ∀ slots phones, contents (set.add slots phones) ⊆ contents slots ∪ phones.toFinset
  add_card : ∀ slots phones,
    min (contents slots ∪ phones.toFinset).card (effectiveSlots slots.length) ≤
      (contents (set.add slots phones)).card

namespace RatelimitSet

/-! ## A reference slab encoding: an 8-byte count, then the entries as 8-byte words -/

def readWords : Nat → Bytes → List Phone
  | 0, _ => []
  | count + 1, bytes => (leValue (bytes.take 8)).toUInt64 :: readWords count (bytes.drop 8)

def writeWords (words : List Phone) : Bytes := words.flatMap fun word => leBytes 8 word.toNat

def entries (slots : Bytes) : List Phone :=
  readWords (min (leValue (slots.take 8)) (effectiveSlots slots.length)) (slots.drop 8)

def encode (length : Nat) (words : List Phone) : Bytes :=
  leBytes 8 words.length ++ writeWords words ++ List.replicate (length - 8 - 8 * words.length) 0

theorem length_writeWords (words : List Phone) : (writeWords words).length = 8 * words.length := by
  induction words with
  | nil => rfl
  | cons word rest ih => simp [writeWords] at *; omega

theorem length_readWords (count : Nat) (bytes : Bytes) : (readWords count bytes).length = count := by
  induction count generalizing bytes with
  | zero => rfl
  | succ count ih => simp [readWords, ih]

theorem readWords_writeWords (words : List Phone) (rest : Bytes) :
    readWords words.length (writeWords words ++ rest) = words := by
  induction words with
  | nil => rfl
  | cons word tail ih =>
    have small : word.toNat < 256 ^ 8 := word.toNat_lt_size
    have bytes : writeWords (word :: tail) ++ rest = leBytes 8 word.toNat ++ (writeWords tail ++ rest) := by
      simp [writeWords]
    rw [List.length_cons, readWords, bytes, List.take_left' (length_leBytes _ _),
      List.drop_left' (length_leBytes _ _), leValue_leBytes, Nat.mod_eq_of_lt small, ih]
    exact congrArg (· :: tail) (UInt64.ext (UInt64.toNat_ofNat_of_lt word.toNat_lt_size))

theorem fits (length count : Nat) (long : 8 ≤ length) (room : count ≤ effectiveSlots length) :
    8 + 8 * count ≤ length := by
  simp only [effectiveSlots] at room
  omega

theorem length_encode (length : Nat) (words : List Phone) (long : 8 ≤ length)
    (room : words.length ≤ effectiveSlots length) : (encode length words).length = length := by
  have := fits length words.length long room
  simp [encode, length_writeWords]
  omega

theorem entries_encode (length : Nat) (words : List Phone) (long : 8 ≤ length)
    (room : words.length ≤ effectiveSlots length) : entries (encode length words) = words := by
  have count : words.length < 256 ^ 8 := by simp only [effectiveSlots] at room; omega
  rw [entries, length_encode length words long room, encode, List.append_assoc,
    List.take_left' (length_leBytes _ _), List.drop_left' (length_leBytes _ _), leValue_leBytes,
    Nat.mod_eq_of_lt count, Nat.min_eq_left room, readWords_writeWords]

theorem leValue_replicate_zero (count : Nat) : leValue (List.replicate count 0) = 0 := by
  induction count with
  | zero => rfl
  | succ count ih => simp [List.replicate_succ, leValue, ih]

def reference : RatelimitSet where
  add slots phones :=
    if slots.length < 8 then slots
    else encode slots.length (((entries slots ++ phones).dedup).take (effectiveSlots slots.length))
  size slots := (entries slots).dedup.length.toUInt32
  length_add slots phones := by
    dsimp only
    split
    · rfl
    · exact length_encode _ _ (by omega) (by simp)

theorem reference_contract : reference.Contract fun slots => (entries slots).toFinset where
  zero length := by
    simp [entries, List.take_replicate, leValue_replicate_zero, readWords]
  size slots := by
    have bound : (entries slots).dedup.length < 2 ^ 32 := by
      have := (List.dedup_sublist (entries slots)).length_le
      have : (entries slots).length ≤ effectiveSlots slots.length := by
        simp only [entries, length_readWords]; omega
      simp only [effectiveSlots] at this
      omega
    simp only [reference, List.card_toFinset, Nat.toUInt32, UInt32.toNat_ofNat_of_lt bound]
  add_subset slots phones := by
    simp only [reference]
    split
    · exact Finset.subset_union_left
    · rw [entries_encode _ _ (by omega) (by simp), ← List.toFinset_append]
      intro phone member
      simp only [List.mem_toFinset] at member ⊢
      exact List.dedup_subset _ (List.take_subset _ _ member)
  add_card slots phones := by
    simp only [reference]
    split
    · have empty : effectiveSlots slots.length = 0 := by simp only [effectiveSlots]; omega
      rw [empty, Nat.min_zero]
      exact Nat.zero_le _
    · rw [entries_encode _ _ (by omega) (by simp), ← List.toFinset_append, List.card_toFinset,
        List.toFinset_card_of_nodup ((List.nodup_dedup _).sublist (List.take_sublist _ _))]
      simp

end RatelimitSet

def Ffi.reference : Ffi := { Ffi.inert with ratelimitSet := RatelimitSet.reference }

end ContactDiscovery
