import ContactDiscovery.Ffi

/- `RatelimitStateData`: the plaintext of a rate-limit state, `[size_limit: u32 LE][slots]`, and the
   branch of `RatelimitState::update` that initialises it from an all-zero slab. The data is the
   plaintext byte string itself; `RdRand`'s four bytes are the `u32` they read as, `none` when the
   draw fails. -/

set_option autoImplicit false

namespace ContactDiscovery

namespace RatelimitStateData

def sizeLimitDataLen : Nat := 4

def saturatingMul (a b : Nat) : Nat := min (a * b) usizeMax

def u32SaturatingAdd (a b : UInt32) : UInt32 := (min (a.toNat + b.toNat) (2 ^ 32 - 1)).toUInt32

/-- `slot_count`; `none` is the panic of `len - size_limit_data_len()` on a shorter plaintext. -/
def slotCount (data : Bytes) : Option UInt32 :=
  (checkedSub data.length sizeLimitDataLen).map fun slotsDataLen =>
    (saturatingMul (slotsDataLen / 8) 3 / 4).toUInt32

def setSizeLimit (cttk : Cttk) (data : Bytes) (lowerLimitInclusive range : UInt32)
    (rand : Option UInt32) : Outcome Bytes :=
  match rand with
  | none => .err .sgxErrorUnexpected
  | some word =>
    let sizeLimit := u32SaturatingAdd (cttk.rem word.toUInt64 range.toUInt64).toUInt32 lowerLimitInclusive
    if data.length < sizeLimitDataLen then .err .cdsErrorInvalidRateLimitState
    else .ok (u32ToLeBytes sizeLimit ++ data.drop sizeLimitDataLen)

def add (set : RatelimitSet) (data : Bytes) (phones : List Phone) : Outcome Bytes :=
  if data.length < sizeLimitDataLen then .err .cdsErrorInvalidRateLimitState
  else
    let slots := set.add (data.drop sizeLimitDataLen) phones
    if set.size slots < u32FromLeBytes (data.take sizeLimitDataLen) then
      .ok (data.take sizeLimitDataLen ++ slots)
    else .err .cdsErrorRateLimitExceeded

/-- The fresh-state branch of `update`: `clear`, then
`set_size_limit(slot_count / 2, slot_count / 2)`. -/
def initialise (cttk : Cttk) (data : Bytes) (rand : Option UInt32) : Outcome Bytes :=
  let cleared := List.replicate data.length 0
  match slotCount cleared with
  | none => .panic
  | some slots => setSizeLimit cttk cleared (slots / 2) (slots / 2) rand

theorem slot_count_some {data : Bytes} {slots : UInt32} (counted : slotCount data = some slots) :
    sizeLimitDataLen ≤ data.length ∧ slots.toNat = saturatingMul ((data.length - 4) / 8) 3 / 4 % 2 ^ 32 := by
  unfold slotCount checkedSub at counted
  split at counted
  · rename_i long
    cases counted
    exact ⟨long, rfl⟩
  · cases counted

theorem saturatingMul_le (a b : Nat) : saturatingMul a b ≤ a * b := Nat.min_le_left _ _

theorem slot_count_le {data : Bytes} {slots : UInt32} (counted : slotCount data = some slots) :
    slots.toNat ≤ 3 * ((data.length - 4) / 8) / 4 :=
  calc slots.toNat = saturatingMul ((data.length - 4) / 8) 3 / 4 % 2 ^ 32 := (slot_count_some counted).2
    _ ≤ saturatingMul ((data.length - 4) / 8) 3 / 4 := Nat.mod_le _ _
    _ ≤ 3 * ((data.length - 4) / 8) / 4 :=
      Nat.div_le_div_right ((saturatingMul_le _ _).trans_eq (Nat.mul_comm _ _))

theorem slot_count_replicate (length : Nat) (long : sizeLimitDataLen ≤ length) :
    ∃ slots, slotCount (List.replicate length 0) = some slots := by
  simp [slotCount, checked_sub_eq_some _ _ (by simpa using long)]

theorem length_setSizeLimit {cttk : Cttk} {data out : Bytes} {lower range : UInt32} {rand : Option UInt32}
    (done : setSizeLimit cttk data lower range rand = .ok out) : out.length = data.length := by
  unfold setSizeLimit at done
  split at done
  · cases done
  · split at done
    · cases done
    · rename_i long
      cases done
      simp only [List.length_append, length_u32ToLeBytes, List.length_drop, sizeLimitDataLen] at long ⊢
      omega

theorem length_initialise {cttk : Cttk} {data out : Bytes} {rand : Option UInt32}
    (done : initialise cttk data rand = .ok out) : out.length = data.length := by
  unfold initialise at done
  dsimp only at done
  split at done
  · cases done
  · simpa using length_setSizeLimit done

theorem length_add {set : RatelimitSet} {data out : Bytes} {phones : List Phone}
    (done : add set data phones = .ok out) : out.length = data.length := by
  unfold add at done
  split at done
  · cases done
  · dsimp only at done
    split at done
    · cases done
      rename_i long _
      simp only [List.length_append, List.length_take, set.length_add, List.length_drop, sizeLimitDataLen] at long ⊢
      omega
    · cases done

theorem add_ne_panic (set : RatelimitSet) (data : Bytes) (phones : List Phone) : add set data phones ≠ .panic := by
  unfold add
  split
  · exact fun stuck => Outcome.noConfusion stuck
  · dsimp only
    split <;> exact fun stuck => Outcome.noConfusion stuck

theorem setSizeLimit_ne_panic (cttk : Cttk) (data : Bytes) (lowerLimitInclusive range : UInt32) (rand : Option UInt32) :
    setSizeLimit cttk data lowerLimitInclusive range rand ≠ .panic := by
  unfold setSizeLimit
  split
  · exact fun stuck => Outcome.noConfusion stuck
  · dsimp only
    split <;> exact fun stuck => Outcome.noConfusion stuck

theorem initialise_eq_panic (cttk : Cttk) (data : Bytes) (rand : Option UInt32) :
    initialise cttk data rand = .panic ↔ data.length < sizeLimitDataLen := by
  unfold initialise
  dsimp only
  cases counted : slotCount (List.replicate data.length 0) with
  | none =>
    refine iff_of_true rfl (Nat.lt_of_not_le fun long => ?_)
    obtain ⟨slots, some⟩ := slot_count_replicate data.length long
    rw [some] at counted
    cases counted
  | some slots =>
    have long := (slot_count_some counted).1
    rw [List.length_replicate] at long
    exact iff_of_false (setSizeLimit_ne_panic _ _ _ _ _) (Nat.not_lt_of_le long)

theorem drawn_limit (cttk : Cttk) (word slots : UInt32) :
    (2 ≤ slots.toNat →
      (cttk.rem word.toUInt64 (slots / 2).toUInt64).toUInt32.toNat =
          (cttk.rem word.toUInt64 (slots / 2).toUInt64).toNat ∧
        (cttk.rem word.toUInt64 (slots / 2).toUInt64).toNat = word.toNat % (slots.toNat / 2) ∧
        (cttk.rem word.toUInt64 (slots / 2).toUInt64).toUInt32.toNat + (slots / 2).toNat ≤ 2 ^ 32 - 1) ∧
    (u32SaturatingAdd (cttk.rem word.toUInt64 (slots / 2).toUInt64).toUInt32 (slots / 2)).toNat =
      if 2 ≤ slots.toNat then slots.toNat / 2 + word.toNat % (slots.toNat / 2) else 0 := by
  have half : (slots / 2).toNat = slots.toNat / 2 := UInt32.toNat_div _ _
  have widened : (slots / 2).toUInt64.toNat = slots.toNat / 2 := by simp [UInt32.toUInt64, UInt64.toNat, half]
  have small := slots.toNat_lt
  by_cases enough : 2 ≤ slots.toNat
  · have range : (slots / 2).toUInt64 ≠ 0 := fun zero => by
      have := congrArg UInt64.toNat zero
      rw [widened] at this
      simp at this
      omega
    have remainder : (cttk.rem word.toUInt64 (slots / 2).toUInt64).toNat = word.toNat % (slots.toNat / 2) := by
      rw [cttk.rem_of_ne_zero _ _ range, UInt64.toNat_mod, widened]
      simp [UInt32.toUInt64, UInt64.toNat]
    have below : word.toNat % (slots.toNat / 2) < slots.toNat / 2 := Nat.mod_lt _ (by omega)
    have cast : (cttk.rem word.toUInt64 (slots / 2).toUInt64).toUInt32.toNat =
        (cttk.rem word.toUInt64 (slots / 2).toUInt64).toNat := by
      rw [UInt64.toUInt32, Nat.toUInt32, UInt32.toNat_ofNat_of_lt (by simp only [UInt32.size]; omega)]
    refine ⟨fun _ => ⟨cast, remainder, by omega⟩, ?_⟩
    rw [if_pos enough, u32SaturatingAdd, Nat.toUInt32, UInt32.toNat_ofNat_of_lt (by simp only [UInt32.size]; omega),
      cast, remainder, half]
    omega
  · have range : (slots / 2).toUInt64 = 0 := UInt64.ext (by rw [widened]; simp; omega)
    refine ⟨fun short => absurd short enough, ?_⟩
    rw [if_neg enough, range, cttk.rem_zero, u32SaturatingAdd, half, Nat.div_eq_of_lt (by omega)]
    rfl

/-- The size limit a fresh state draws: for every all-zero plaintext with at least two effective
slots and every RNG word `r`, the limit is `s/2 + r % (s/2)`, written little-endian in bytes 0..4
with the slot bytes left zero, and `s/2 ≤ limit ≤ s - 1 < s ≤ 3·⌊(l-4)/8⌋/4`; the cast of the
remainder to `u32` loses nothing and the saturating add does not saturate. -/
theorem initialise_size_limit (cttk : Cttk) (length : Nat) (word slots : UInt32)
    (counted : slotCount (List.replicate length 0) = some slots) (enough : 2 ≤ slots.toNat) :
    let limit := slots.toNat / 2 + word.toNat % (slots.toNat / 2)
    initialise cttk (List.replicate length 0) (some word) =
        .ok (leBytes 4 limit ++ List.replicate (length - 4) 0) ∧
      slots.toNat / 2 ≤ limit ∧ limit ≤ slots.toNat - 1 ∧ slots.toNat - 1 < slots.toNat ∧
      slots.toNat ≤ 3 * ((length - 4) / 8) / 4 ∧
      (cttk.rem word.toUInt64 (slots / 2).toUInt64).toUInt32.toNat =
        (cttk.rem word.toUInt64 (slots / 2).toUInt64).toNat ∧
      (cttk.rem word.toUInt64 (slots / 2).toUInt64).toUInt32.toNat + (slots / 2).toNat ≤ 2 ^ 32 - 1 := by
  intro limit
  have long : ¬ length < 4 := by simpa [sizeLimitDataLen] using (slot_count_some counted).1
  obtain ⟨bounds, written⟩ := drawn_limit cttk word slots
  obtain ⟨cast, -, sum⟩ := bounds enough
  rw [if_pos enough] at written
  have below : word.toNat % (slots.toNat / 2) < slots.toNat / 2 := Nat.mod_lt _ (Nat.div_pos enough Nat.zero_lt_two)
  refine ⟨?_, Nat.le_add_right _ _, by omega, by omega, by simpa using slot_count_le counted, cast, sum⟩
  simp only [initialise, List.length_replicate, counted, setSizeLimit, sizeLimitDataLen, long, if_false,
    u32ToLeBytes, written, List.drop_replicate]

theorem initialise_size_limit_at_100 :
    slotCount (List.replicate 100 0) = some 9 ∧ 2 ≤ (9 : UInt32).toNat ∧
    let limit := (9 : UInt32).toNat / 2 + (7 : UInt32).toNat % ((9 : UInt32).toNat / 2)
    initialise Cttk.native (List.replicate 100 0) (some 7) =
        .ok (leBytes 4 limit ++ List.replicate (100 - 4) 0) ∧
      (9 : UInt32).toNat / 2 ≤ limit ∧ limit ≤ (9 : UInt32).toNat - 1 ∧
      (9 : UInt32).toNat - 1 < (9 : UInt32).toNat ∧ (9 : UInt32).toNat ≤ 3 * ((100 - 4) / 8) / 4 ∧
      (Cttk.native.rem (7 : UInt32).toUInt64 ((9 : UInt32) / 2).toUInt64).toUInt32.toNat =
        (Cttk.native.rem (7 : UInt32).toUInt64 ((9 : UInt32) / 2).toUInt64).toNat ∧
      (Cttk.native.rem (7 : UInt32).toUInt64 ((9 : UInt32) / 2).toUInt64).toUInt32.toNat +
        ((9 : UInt32) / 2).toNat ≤ 2 ^ 32 - 1 :=
  ⟨rfl, by decide, initialise_size_limit Cttk.native 100 7 9 rfl (by decide)⟩

/-- The fresh branch on an all-zero plaintext of at least 4 bytes: `slot_count` does not underflow
and `set_size_limit` gets the range `slot_count / 2`; no length check stands in between, so below
28 bytes (no two effective slots) the RNG word is reduced modulo a zero range, while from 28 bytes
on, as long as `slot_count` does not wrap past `u32`, the range is positive. -/
theorem initialise_range (cttk : Cttk) (length : Nat) (rand : Option UInt32) (long : 4 ≤ length) :
    ∃ slots, slotCount (List.replicate length 0) = some slots ∧
      initialise cttk (List.replicate length 0) rand =
        setSizeLimit cttk (List.replicate length 0) (slots / 2) (slots / 2) rand ∧
      slots.toNat = saturatingMul ((length - 4) / 8) 3 / 4 % 2 ^ 32 ∧
      (length < 28 → slots / 2 = 0) ∧
      (28 ≤ length → saturatingMul ((length - 4) / 8) 3 / 4 < 2 ^ 32 → slots / 2 ≠ 0) := by
  obtain ⟨slots, counted⟩ := slot_count_replicate length long
  obtain ⟨-, count⟩ := slot_count_some counted
  simp only [List.length_replicate] at count
  have half : (slots / 2).toNat = slots.toNat / 2 := UInt32.toNat_div _ _
  refine ⟨slots, counted, by simp [initialise, counted], count, fun short => UInt32.ext ?_, fun enough fits zero => ?_⟩
  · have bounded := slot_count_le counted
    simp only [List.length_replicate] at bounded
    rw [half, UInt32.toNat_zero, Nat.div_eq_zero_iff Nat.zero_lt_two]
    omega
  · have drawn : 2 ≤ saturatingMul ((length - 4) / 8) 3 / 4 := by
      simp only [saturatingMul, usizeMax]; omega
    have : slots.toNat / 2 = 0 := by rw [← half, zero]; rfl
    rw [Nat.mod_eq_of_lt fits] at count
    omega

theorem initialise_range_at_4_and_28 :
    (4 ≤ 4 ∧ ∃ slots, slotCount (List.replicate 4 0) = some slots ∧
      initialise Cttk.native (List.replicate 4 0) (some 5) =
        setSizeLimit Cttk.native (List.replicate 4 0) (slots / 2) (slots / 2) (some 5) ∧
      slots.toNat = saturatingMul ((4 - 4) / 8) 3 / 4 % 2 ^ 32 ∧
      (4 < 28 → slots / 2 = 0) ∧
      (28 ≤ 4 → saturatingMul ((4 - 4) / 8) 3 / 4 < 2 ^ 32 → slots / 2 ≠ 0)) ∧
    (4 ≤ 28 ∧ ∃ slots, slotCount (List.replicate 28 0) = some slots ∧
      initialise Cttk.native (List.replicate 28 0) none =
        setSizeLimit Cttk.native (List.replicate 28 0) (slots / 2) (slots / 2) none ∧
      slots.toNat = saturatingMul ((28 - 4) / 8) 3 / 4 % 2 ^ 32 ∧
      (28 < 28 → slots / 2 = 0) ∧
      (28 ≤ 28 → saturatingMul ((28 - 4) / 8) 3 / 4 < 2 ^ 32 → slots / 2 ≠ 0)) :=
  ⟨⟨by decide, initialise_range Cttk.native 4 (some 5) (by decide)⟩,
    ⟨by decide, initialise_range Cttk.native 28 none (by decide)⟩⟩

theorem initialise_short (cttk : Cttk) (length : Nat) (word : UInt32) (long : 4 ≤ length) (short : length < 28) :
    initialise cttk (List.replicate length 0) (some word) = .ok (u32ToLeBytes 0 ++ List.replicate (length - 4) 0) := by
  obtain ⟨slots, counted⟩ := slot_count_replicate length long
  have bounded := slot_count_le counted
  simp only [List.length_replicate] at bounded
  have half : slots / 2 = 0 := UInt32.ext (by rw [UInt32.toNat_div, UInt32.toNat_zero]; show slots.toNat / 2 = 0; omega)
  have drawn : u32SaturatingAdd (cttk.rem word.toUInt64 (0 : UInt32).toUInt64).toUInt32 0 = 0 := by
    rw [show (0 : UInt32).toUInt64 = 0 from rfl, cttk.rem_zero]
    rfl
  simp only [initialise, List.length_replicate, counted, half, setSizeLimit, drawn, sizeLimitDataLen,
    show ¬ length < 4 by omega, if_false, List.drop_replicate]

theorem add_zero_limit (set : RatelimitSet) (slots : Bytes) (phones : List Phone) :
    add set (u32ToLeBytes 0 ++ slots) phones = .err .cdsErrorRateLimitExceeded := by
  have prefixed : (u32ToLeBytes 0 ++ slots).take sizeLimitDataLen = u32ToLeBytes 0 :=
    List.take_left' (length_u32ToLeBytes 0)
  simp only [add, List.length_append, length_u32ToLeBytes, sizeLimitDataLen] at prefixed ⊢
  rw [if_neg (by omega), prefixed, u32FromLeBytes_u32ToLeBytes]
  exact if_neg fun below => Nat.not_lt_zero _ below

end RatelimitStateData

end ContactDiscovery
