import ContactDiscovery.DecodeRequest
import ContactDiscovery.HashQueryPhone
import ContactDiscovery.RatelimitState

/- The two ways into a rate-limit update, as one thread runs them: the free functions
   `update_ratelimit_state` and `delete_ratelimit_state`, on a slab in enclave memory, and
   `SgxsdServerState::update_ratelimit_state`, reached from `handle_call`, on a slab in untrusted
   memory. Both split the slab into ciphertext and MAC, take the UUID's cell from the process-wide map,
   run `update` on its state under the cell's lock (installing a default state first), and write the
   result back. The map here is the one the thread sees while it holds the map's lock and then the
   cell's; what other threads may do in between is the subject of `RatelimitStateMapInterleaving`. -/

set_option autoImplicit false

namespace ContactDiscovery

/-- The process-wide map: each entry maps a UUID to its cell, an `Arc<Mutex<Option<RatelimitState>>>`
named by its index in `cells`. -/
structure RatelimitStateMap where
  hashMap : List (NonZeroU128 × Nat)
  cells : List (Option RatelimitState)

namespace RatelimitStateMap

/-- `get(key)`: the entry's cell, or a new cell holding `None` under a new entry. The lookup
`from_key_hashed_nocheck(hash, key)`, with `hash` from `self.hasher`, finds the entry of `key`: the
map's own hasher is a clone of it. -/
def get (self : RatelimitStateMap) (key : NonZeroU128) : RatelimitStateMap × Nat :=
  match self.hashMap.lookup key with
  | some cell => (self, cell)
  | none => (⟨self.hashMap ++ [(key, self.cells.length)], self.cells ++ [none]⟩, self.cells.length)

def cell (self : RatelimitStateMap) (index : Nat) : Option RatelimitState := self.cells.getD index none

def setCell (self : RatelimitStateMap) (index : Nat) (value : Option RatelimitState) : RatelimitStateMap :=
  { self with cells := self.cells.set index value }

def lockedState (self : RatelimitStateMap) (key : NonZeroU128) (fresh : AesGcmKey) : RatelimitState :=
  ((self.get key).1.cell (self.get key).2).getD (RatelimitState.default fresh)

end RatelimitStateMap

/-- The randomness one rate-limit update may draw: the key of a fresh `RatelimitState`, and the
`RdRand` word of a size limit (`none` when the draw fails). -/
structure Draws where
  key : AesGcmKey
  rand : Option UInt32

/-- The critical section of both entry points: `get_or_insert_with(Default::default)`, then `update`.
The cell keeps the state `update` leaves, whatever it returns. -/
def RatelimitState.updateLocked (ffi : Ffi) (draws : Draws) (cell : Option RatelimitState) (data : Bytes)
    (mac : AesGcmMac) (phones : List Phone) : Option RatelimitState × Outcome (Bytes × AesGcmMac) :=
  let u := (cell.getD (RatelimitState.default draws.key)).update ffi data mac phones draws.rand
  (some u.state, u.result)

variable (ffi : Ffi)

def updateRatelimitState (map : RatelimitStateMap) (draws : Draws) (ratelimitStateUuid : Uuid)
    (encryptedRatelimitState : Bytes) (queryPhones : List Phone) : Outcome Unit × Bytes × RatelimitStateMap :=
  match ratelimitStateUuid.toNonZero with
  | none => (.err .sgxErrorInvalidParameter, encryptedRatelimitState, map)
  | some uuid =>
    match checkedSub encryptedRatelimitState.length aesGcmMacLen with
    | none => (.err .cdsErrorInvalidRateLimitState, encryptedRatelimitState, map)
    | some ratelimitStateDataLen =>
      match AesGcmMac.ofBytes (encryptedRatelimitState.drop ratelimitStateDataLen) with
      | none => (.panic, encryptedRatelimitState, map)
      | some ratelimitStateMac =>
        let (map, cell) := map.get uuid
        let (locked, result) := RatelimitState.updateLocked ffi draws (map.cell cell)
          (encryptedRatelimitState.take ratelimitStateDataLen) ratelimitStateMac queryPhones
        let map := map.setCell cell locked
        match result with
        | .ok (data, mac) =>
          if data.length = ratelimitStateDataLen then (.ok (), data ++ mac.data, map)
          else (.panic, encryptedRatelimitState, map)
        | .err status => (.err status, encryptedRatelimitState, map)
        | .panic => (.panic, encryptedRatelimitState, map)

def deleteRatelimitState (map : RatelimitStateMap) (ratelimitStateUuid : Uuid) : Outcome Unit × RatelimitStateMap :=
  match ratelimitStateUuid.toNonZero with
  | none => (.err .sgxErrorInvalidParameter, map)
  | some uuid =>
    let (map, cell) := map.get uuid
    (.ok (), map.setCell cell none)

theorem AesGcmMac.ofBytes_drop (slab : Bytes) (long : aesGcmMacLen ≤ slab.length) :
    ∃ mac, AesGcmMac.ofBytes (slab.drop (slab.length - aesGcmMacLen)) = some mac :=
  ⟨_, AesGcmMac.ofBytes_of_length (by rw [List.length_drop]; omega)⟩

theorem updateRatelimitState_cases (map : RatelimitStateMap) (draws : Draws) (uuid : Uuid) (slab : Bytes)
    (phones : List Phone) :
    (∃ key slabMac ciphertext mac, uuid.toNonZero = some key ∧ aesGcmMacLen ≤ slab.length ∧
      AesGcmMac.ofBytes (slab.drop (slab.length - aesGcmMacLen)) = some slabMac ∧
      ((map.lockedState key draws.key).update ffi (slab.take (slab.length - aesGcmMacLen)) slabMac phones
        draws.rand).result = .ok (ciphertext, mac) ∧
      ciphertext.length + aesGcmMacLen = slab.length ∧
      (updateRatelimitState ffi map draws uuid slab phones).1 = .ok () ∧
      (updateRatelimitState ffi map draws uuid slab phones).2.1 = ciphertext ++ mac.data) ∨
    ((updateRatelimitState ffi map draws uuid slab phones).1 ≠ .ok () ∧
      (updateRatelimitState ffi map draws uuid slab phones).2.1 = slab ∧
      ∀ key slabMac, uuid.toNonZero = some key → aesGcmMacLen ≤ slab.length →
        AesGcmMac.ofBytes (slab.drop (slab.length - aesGcmMacLen)) = some slabMac → ∀ ciphertext mac,
        ((map.lockedState key draws.key).update ffi (slab.take (slab.length - aesGcmMacLen)) slabMac phones
          draws.rand).result ≠ .ok (ciphertext, mac)) := by
  cases nonzero : uuid.toNonZero with
  | none =>
    refine .inr ⟨?_, ?_, fun _ _ absent => by cases absent⟩ <;> simp [updateRatelimitState, nonzero]
  | some key =>
    by_cases long : aesGcmMacLen ≤ slab.length
    · obtain ⟨slabMac, opened⟩ := AesGcmMac.ofBytes_drop slab long
      cases done : ((map.lockedState key draws.key).update ffi (slab.take (slab.length - aesGcmMacLen)) slabMac
          phones draws.rand).result with
      | ok sealed =>
        obtain ⟨ciphertext, mac⟩ := sealed
        have fits : ciphertext.length = slab.length - aesGcmMacLen := by
          simp [RatelimitState.length_update ffi _ _ _ _ _ done]
        simp only [RatelimitStateMap.lockedState] at done
        refine .inl ⟨key, slabMac, ciphertext, mac, rfl, long, opened, done, by omega, ?_⟩
        simp only [updateRatelimitState, nonzero, checked_sub_eq_some _ _ long, opened, RatelimitState.updateLocked,
          done, fits, ↓reduceIte, and_self]
      | err _ | panic =>
        simp only [RatelimitStateMap.lockedState] at done
        have failed : (updateRatelimitState ffi map draws uuid slab phones).1 ≠ .ok () ∧
            (updateRatelimitState ffi map draws uuid slab phones).2.1 = slab := by
          simp only [updateRatelimitState, nonzero, checked_sub_eq_some _ _ long, opened, RatelimitState.updateLocked,
            done, ne_eq, reduceCtorEq, not_false_eq_true, and_self]
        refine .inr ⟨failed.1, failed.2, fun _ _ same _ opened' => ?_⟩
        cases same
        cases opened.symm.trans opened'
        simp [RatelimitStateMap.lockedState, done]
    · have short := checked_sub_eq_none _ _ (Nat.lt_of_not_le long)
      refine .inr ⟨?_, ?_, fun _ _ _ short => absurd short long⟩ <;>
        simp only [updateRatelimitState, nonzero, short, ne_eq, reduceCtorEq, not_false_eq_true]

theorem AesGcmMac.ofBytes_readAt (memory : Memory) (ptr : Nat) :
    ∃ mac, AesGcmMac.ofBytes (readAt memory ptr aesGcmMacLen) = some mac :=
  ⟨_, AesGcmMac.ofBytes_of_length (length_readAt _ _ _)⟩

structure World where
  memory : Memory
  map : RatelimitStateMap

/-- A rate-limit update written for a slab in enclave memory, run on the slab `slice` points to in
untrusted memory: the update gets the map and the slab's bytes, and the slab it leaves is written back
over the old one. -/
def onUntrustedSlab (slice : UntrustedSlice) (world : World)
    (update : RatelimitStateMap → Bytes → Outcome Unit × Bytes × RatelimitStateMap) : Outcome Unit × World :=
  let (outcome, slab, map) := update world.map (readAt world.memory slice.ptr slice.size)
  (outcome, ⟨writeAt world.memory slice.ptr slab, map⟩)

namespace SgxsdServerState

def updateRatelimitState (self : SgxsdServerState) (world : World) (draws : Draws) (queryPhones : PhoneList)
    (requestRatelimitState : RequestRatelimitState) : Outcome Unit × World :=
  let slab := requestRatelimitState.data
  match checkedSub slab.size aesGcmMacLen with
  | none => (.err .cdsErrorInvalidRateLimitState, world)
  | some ratelimitStateDataLen =>
    match slab.readBytes world.memory ratelimitStateDataLen with
    | .error () => (.err .cdsErrorInvalidRateLimitState, world)
    | .ok ratelimitStateData =>
      match (slab.offset ratelimitStateDataLen).readBytes world.memory aesGcmMacLen with
      | .error () => (.err .cdsErrorInvalidRateLimitState, world)
      | .ok macData =>
        match AesGcmMac.ofBytes macData with
        | none => (.panic, world)
        | some ratelimitStateMac =>
          if !self.ratelimitStateMap then (.err .sgxErrorInvalidState, world)
          else
            let (map, cell) := world.map.get requestRatelimitState.uuid
            let phones := queryPhones.phones.map (hashQueryPhone ffi.cttk ffi.sha1)
            let (locked, result) :=
              RatelimitState.updateLocked ffi draws (map.cell cell) ratelimitStateData ratelimitStateMac phones
            let world := { world with map := map.setCell cell locked }
            match result with
            | .ok (data, mac) =>
              match slab.writeBytes world.memory data with
              | .error () => (.err .sgxErrorUnexpected, world)
              | .ok memory =>
                match (slab.offset ratelimitStateDataLen).writeBytes memory mac.data with
                | .error () => (.err .sgxErrorUnexpected, { world with memory })
                | .ok memory => (.ok (), { world with memory })
            | .err status => (.err status, world)
            | .panic => (.panic, world)

theorem readBytes_slab (memory : Memory) (slab : UntrustedSlice) (long : aesGcmMacLen ≤ slab.size) :
    slab.readBytes memory (slab.size - aesGcmMacLen) = .ok (readAt memory slab.ptr (slab.size - aesGcmMacLen)) ∧
    (slab.offset (slab.size - aesGcmMacLen)).readBytes memory aesGcmMacLen =
      .ok (readAt memory (slab.ptr + (slab.size - aesGcmMacLen)) aesGcmMacLen) :=
  ⟨slab.readBytes_of_le _ (Nat.sub_le _ _),
    UntrustedSlice.readBytes_of_le _ _ (by rw [UntrustedSlice.offset_size]; omega)⟩

theorem updateRatelimitState_cases (self : SgxsdServerState) (world : World) (draws : Draws)
    (queryPhones : PhoneList) (request : RequestRatelimitState) :
    (∃ slabMac ciphertext mac, aesGcmMacLen ≤ request.data.size ∧ self.ratelimitStateMap = true ∧
      AesGcmMac.ofBytes (readAt world.memory (request.data.ptr + (request.data.size - aesGcmMacLen)) aesGcmMacLen) =
        some slabMac ∧
      ((world.map.lockedState request.uuid draws.key).update ffi
        (readAt world.memory request.data.ptr (request.data.size - aesGcmMacLen)) slabMac
        (queryPhones.phones.map (hashQueryPhone ffi.cttk ffi.sha1)) draws.rand).result = .ok (ciphertext, mac) ∧
      ciphertext.length + aesGcmMacLen = request.data.size ∧
      (self.updateRatelimitState ffi world draws queryPhones request).1 = .ok () ∧
      (self.updateRatelimitState ffi world draws queryPhones request).2.memory =
        writeAt world.memory request.data.ptr (ciphertext ++ mac.data)) ∨
    ((self.updateRatelimitState ffi world draws queryPhones request).1 ≠ .ok () ∧
      (self.updateRatelimitState ffi world draws queryPhones request).2.memory = world.memory ∧
      ∀ slabMac, aesGcmMacLen ≤ request.data.size → self.ratelimitStateMap = true →
        AesGcmMac.ofBytes (readAt world.memory (request.data.ptr + (request.data.size - aesGcmMacLen)) aesGcmMacLen) =
          some slabMac → ∀ ciphertext mac,
        ((world.map.lockedState request.uuid draws.key).update ffi
          (readAt world.memory request.data.ptr (request.data.size - aesGcmMacLen)) slabMac
          (queryPhones.phones.map (hashQueryPhone ffi.cttk ffi.sha1)) draws.rand).result ≠ .ok (ciphertext, mac)) := by
  by_cases long : aesGcmMacLen ≤ request.data.size
  · have room : aesGcmMacLen ≤ request.data.size - (request.data.size - aesGcmMacLen) := by omega
    obtain ⟨data, macData⟩ := readBytes_slab world.memory request.data long
    obtain ⟨slabMac, opened⟩ := AesGcmMac.ofBytes_readAt world.memory (request.data.ptr + (request.data.size - aesGcmMacLen))
    cases enabled : self.ratelimitStateMap
    · refine .inr ⟨?_, ?_, fun _ _ absent => by cases absent⟩ <;>
        simp only [SgxsdServerState.updateRatelimitState, checked_sub_eq_some _ _ long, data, macData, opened, enabled, Bool.not_false,
          ↓reduceIte, ne_eq, reduceCtorEq, not_false_eq_true]
    · cases done : ((world.map.lockedState request.uuid draws.key).update ffi
          (readAt world.memory request.data.ptr (request.data.size - aesGcmMacLen)) slabMac
          (queryPhones.phones.map (hashQueryPhone ffi.cttk ffi.sha1)) draws.rand).result with
      | ok sealed =>
        obtain ⟨ciphertext, mac⟩ := sealed
        have fits : ciphertext.length = request.data.size - aesGcmMacLen := by
          simp [RatelimitState.length_update ffi _ _ _ _ _ done]
        simp only [RatelimitStateMap.lockedState] at done
        refine .inl ⟨slabMac, ciphertext, mac, long, rfl, opened, done, by omega, ?_⟩
        have dataWritten : request.data.writeBytes world.memory ciphertext =
            .ok (writeAt world.memory request.data.ptr ciphertext) :=
          request.data.writeBytes_of_le _ (fits.trans_le (Nat.sub_le _ _))
        have macWritten : (request.data.offset (request.data.size - aesGcmMacLen)).writeBytes
            (writeAt world.memory request.data.ptr ciphertext) mac.data =
            .ok (writeAt world.memory request.data.ptr (ciphertext ++ mac.data)) := by
          rw [← writeAt_append, fits]
          exact UntrustedSlice.writeBytes_of_le _ _ (mac.length_data.trans_le room)
        simp only [SgxsdServerState.updateRatelimitState, checked_sub_eq_some _ _ long, data, macData, opened, enabled, Bool.not_true,
          Bool.false_eq_true, ↓reduceIte, RatelimitState.updateLocked, done, dataWritten, macWritten, and_self]
      | err _ | panic =>
        simp only [RatelimitStateMap.lockedState] at done
        have failed : (self.updateRatelimitState ffi world draws queryPhones request).1 ≠ .ok () ∧
            (self.updateRatelimitState ffi world draws queryPhones request).2.memory = world.memory := by
          simp only [SgxsdServerState.updateRatelimitState, checked_sub_eq_some _ _ long, data, macData, opened, enabled, Bool.not_true,
            Bool.false_eq_true, ↓reduceIte, RatelimitState.updateLocked, done, ne_eq, reduceCtorEq, not_false_eq_true,
            and_self]
        refine .inr ⟨failed.1, failed.2, fun _ _ _ opened' => ?_⟩
        cases opened.symm.trans opened'
        simp [RatelimitStateMap.lockedState, done]
  · have short := checked_sub_eq_none _ _ (Nat.lt_of_not_le long)
    refine .inr ⟨?_, ?_, fun _ short => absurd short long⟩ <;>
      simp only [SgxsdServerState.updateRatelimitState, short, ne_eq, reduceCtorEq, not_false_eq_true]


theorem updateRatelimitState_eq_panic (self : SgxsdServerState) (world : World) (draws : Draws)
    (queryPhones : PhoneList) (request : RequestRatelimitState) :
    (self.updateRatelimitState ffi world draws queryPhones request).1 = .panic ↔
      aesGcmMacLen ≤ request.data.size ∧ self.ratelimitStateMap = true ∧
      (readAt world.memory request.data.ptr (request.data.size - aesGcmMacLen)).all (· == 0) = true ∧
      request.data.size - aesGcmMacLen < RatelimitStateData.sizeLimitDataLen := by
  by_cases long : aesGcmMacLen ≤ request.data.size
  · obtain ⟨data, macData⟩ := readBytes_slab world.memory request.data long
    obtain ⟨slabMac, opened⟩ :=
      AesGcmMac.ofBytes_readAt world.memory (request.data.ptr + (request.data.size - aesGcmMacLen))
    simp only [updateRatelimitState, checked_sub_eq_some _ _ long, data, macData, opened, long, true_and]
    cases enabled : self.ratelimitStateMap
    · simp
    · have panics := RatelimitState.update_eq_panic ffi (world.map.lockedState request.uuid draws.key)
        (readAt world.memory request.data.ptr (request.data.size - aesGcmMacLen)) slabMac
        (queryPhones.phones.map (hashQueryPhone ffi.cttk ffi.sha1)) draws.rand
      rw [length_readAt] at panics
      simp only [Bool.not_true, Bool.false_eq_true, ↓reduceIte, RatelimitState.updateLocked, true_and, ← panics,
        RatelimitStateMap.lockedState]
      split
      · exact iff_of_false (by split <;> (try split) <;> exact Outcome.noConfusion) (by simp_all)
      · simp_all
      · simp_all
  · simp only [updateRatelimitState, checked_sub_eq_none _ _ (Nat.lt_of_not_le long), long, false_and, iff_false]
    exact Outcome.noConfusion

theorem updateRatelimitState_world_cases (self : SgxsdServerState) (world : World) (draws : Draws)
    (queryPhones : PhoneList) (request : RequestRatelimitState) :
    (self.updateRatelimitState ffi world draws queryPhones request).2 = world ∨
      self.ratelimitStateMap = true ∧ ∃ locked, (self.updateRatelimitState ffi world draws queryPhones request).2.map =
        (world.map.get request.uuid).1.setCell (world.map.get request.uuid).2 locked := by
  unfold updateRatelimitState
  dsimp only
  split
  · exact .inl rfl
  split
  · exact .inl rfl
  split
  · exact .inl rfl
  split
  · exact .inl rfl
  split
  · exact .inl rfl
  rename_i data _ _ _ _ _ mac _ enabled
  refine .inr ⟨by simpa using enabled, (RatelimitState.updateLocked ffi draws
    ((world.map.get request.uuid).1.cell (world.map.get request.uuid).2) data mac
    (queryPhones.phones.map (hashQueryPhone ffi.cttk ffi.sha1))).1, ?_⟩
  split <;> (try split) <;> (try split) <;> rfl

end SgxsdServerState

/-- Through either entry point, a rate-limit update writes its slab exactly when it returns `Ok`: the
slab of `L` bytes then holds, in bytes `0 .. L - 16`, the ciphertext `update` returned for its cell, of
exactly that length, and in bytes `L - 16 .. L` the new MAC. Every failure leaves the slab as it was,
and comes from a check or from `update` itself: the write-back never fails or panics. -/
theorem update_ratelimit_state_write_back (map : RatelimitStateMap) (draws : Draws) (uuid : Uuid) (slab : Bytes)
    (phones : List Phone) (self : SgxsdServerState) (world : World) (queryPhones : PhoneList)
    (request : RequestRatelimitState) :
    ((∃ key slabMac ciphertext mac, uuid.toNonZero = some key ∧ aesGcmMacLen ≤ slab.length ∧
      AesGcmMac.ofBytes (slab.drop (slab.length - aesGcmMacLen)) = some slabMac ∧
      ((map.lockedState key draws.key).update ffi (slab.take (slab.length - aesGcmMacLen)) slabMac phones
        draws.rand).result = .ok (ciphertext, mac) ∧
      ciphertext.length + aesGcmMacLen = slab.length ∧
      (updateRatelimitState ffi map draws uuid slab phones).1 = .ok () ∧
      (updateRatelimitState ffi map draws uuid slab phones).2.1 = ciphertext ++ mac.data) ∨
    ((updateRatelimitState ffi map draws uuid slab phones).1 ≠ .ok () ∧
      (updateRatelimitState ffi map draws uuid slab phones).2.1 = slab ∧
      ∀ key slabMac, uuid.toNonZero = some key → aesGcmMacLen ≤ slab.length →
        AesGcmMac.ofBytes (slab.drop (slab.length - aesGcmMacLen)) = some slabMac → ∀ ciphertext mac,
        ((map.lockedState key draws.key).update ffi (slab.take (slab.length - aesGcmMacLen)) slabMac phones
          draws.rand).result ≠ .ok (ciphertext, mac))) ∧
    ((∃ slabMac ciphertext mac, aesGcmMacLen ≤ request.data.size ∧ self.ratelimitStateMap = true ∧
      AesGcmMac.ofBytes (readAt world.memory (request.data.ptr + (request.data.size - aesGcmMacLen)) aesGcmMacLen) =
        some slabMac ∧
      ((world.map.lockedState request.uuid draws.key).update ffi
        (readAt world.memory request.data.ptr (request.data.size - aesGcmMacLen)) slabMac
        (queryPhones.phones.map (hashQueryPhone ffi.cttk ffi.sha1)) draws.rand).result = .ok (ciphertext, mac) ∧
      ciphertext.length + aesGcmMacLen = request.data.size ∧
      (self.updateRatelimitState ffi world draws queryPhones request).1 = .ok () ∧
      (self.updateRatelimitState ffi world draws queryPhones request).2.memory =
        writeAt world.memory request.data.ptr (ciphertext ++ mac.data)) ∨
    ((self.updateRatelimitState ffi world draws queryPhones request).1 ≠ .ok () ∧
      (self.updateRatelimitState ffi world draws queryPhones request).2.memory = world.memory ∧
      ∀ slabMac, aesGcmMacLen ≤ request.data.size → self.ratelimitStateMap = true →
        AesGcmMac.ofBytes (readAt world.memory (request.data.ptr + (request.data.size - aesGcmMacLen)) aesGcmMacLen) =
          some slabMac → ∀ ciphertext mac,
        ((world.map.lockedState request.uuid draws.key).update ffi
          (readAt world.memory request.data.ptr (request.data.size - aesGcmMacLen)) slabMac
          (queryPhones.phones.map (hashQueryPhone ffi.cttk ffi.sha1)) draws.rand).result ≠ .ok (ciphertext, mac))) :=
  ⟨updateRatelimitState_cases ffi map draws uuid slab phones,
    self.updateRatelimitState_cases ffi world draws queryPhones request⟩

theorem updateRatelimitState_onUntrustedSlab (self : SgxsdServerState) (world : World) (draws : Draws) (queryPhones : PhoneList)
    (request : RequestRatelimitState) (enabled : self.ratelimitStateMap = true) :
    self.updateRatelimitState ffi world draws queryPhones request =
      onUntrustedSlab request.data world fun map slab =>
        updateRatelimitState ffi map draws request.uuid.val slab
          (queryPhones.phones.map (hashQueryPhone ffi.cttk ffi.sha1)) := by
  by_cases long : aesGcmMacLen ≤ request.data.size
  · have split : readAt world.memory request.data.ptr request.data.size =
        readAt world.memory request.data.ptr (request.data.size - aesGcmMacLen) ++
          readAt world.memory (request.data.ptr + (request.data.size - aesGcmMacLen)) aesGcmMacLen := by
      rw [← readAt_add, Nat.sub_add_cancel long]
    have taken : (readAt world.memory request.data.ptr request.data.size).take (request.data.size - aesGcmMacLen) =
        readAt world.memory request.data.ptr (request.data.size - aesGcmMacLen) := by
      rw [split]
      exact List.take_left' (length_readAt _ _ _)
    have dropped : (readAt world.memory request.data.ptr request.data.size).drop (request.data.size - aesGcmMacLen) =
        readAt world.memory (request.data.ptr + (request.data.size - aesGcmMacLen)) aesGcmMacLen := by
      rw [split]
      exact List.drop_left' (length_readAt _ _ _)
    have room : aesGcmMacLen ≤ request.data.size - (request.data.size - aesGcmMacLen) := by omega
    obtain ⟨data, macData⟩ := SgxsdServerState.readBytes_slab world.memory request.data long
    obtain ⟨mac, opened⟩ := AesGcmMac.ofBytes_readAt world.memory (request.data.ptr + (request.data.size - aesGcmMacLen))
    simp only [SgxsdServerState.updateRatelimitState, updateRatelimitState, onUntrustedSlab, Uuid.toNonZero_val,
      length_readAt, checked_sub_eq_some _ _ long, data, macData, opened, enabled, taken, dropped, Bool.not_true,
      Bool.false_eq_true, if_false]
    split
    · rename_i ciphertext sealedMac result
      have fits := RatelimitState.length_update ffi _ _ _ _ _ result
      simp only [length_readAt] at fits
      have written : writeAt (writeAt world.memory request.data.ptr ciphertext)
          (request.data.ptr + (request.data.size - aesGcmMacLen)) sealedMac.data =
          writeAt world.memory request.data.ptr (ciphertext ++ sealedMac.data) := by
        rw [← fits, writeAt_append]
      simp only [request.data.writeBytes_of_le _ (fits.trans_le (Nat.sub_le _ _)),
        (request.data.offset _).writeBytes_of_le _ (sealedMac.length_data.trans_le room),
        UntrustedSlice.offset_ptr, written, fits, if_true]
    · simp only [writeAt_readAt]
    · simp only [writeAt_readAt]
  · have short := checked_sub_eq_none _ _ (Nat.lt_of_not_le long)
    simp only [SgxsdServerState.updateRatelimitState, updateRatelimitState, onUntrustedSlab, short,
      Uuid.toNonZero_val, length_readAt, writeAt_readAt]

namespace SgxsdServerState

theorem updateRatelimitState_congr_phones {queryPhones queryPhones' : PhoneList} (self : SgxsdServerState)
    (world : World) (draws : Draws) (request : RequestRatelimitState) (same : queryPhones'.phones = queryPhones.phones) :
    self.updateRatelimitState ffi world draws queryPhones' request =
      self.updateRatelimitState ffi world draws queryPhones request := by
  unfold updateRatelimitState
  rw [same]

theorem updateRatelimitState_congr_memory {world world' : World} (self : SgxsdServerState) (draws : Draws)
    (queryPhones : PhoneList) (request : RequestRatelimitState) (sameMap : world'.map = world.map)
    (same : readAt world'.memory request.data.ptr request.data.size = readAt world.memory request.data.ptr request.data.size) :
    (self.updateRatelimitState ffi world' draws queryPhones request).1 = (self.updateRatelimitState ffi world draws queryPhones request).1 ∧
    (self.updateRatelimitState ffi world' draws queryPhones request).2.map = (self.updateRatelimitState ffi world draws queryPhones request).2.map ∧
    ∀ address, world'.memory address = world.memory address →
      (self.updateRatelimitState ffi world' draws queryPhones request).2.memory address =
        (self.updateRatelimitState ffi world draws queryPhones request).2.memory address := by
  cases enabled : self.ratelimitStateMap
  · by_cases long : aesGcmMacLen ≤ request.data.size
    · obtain ⟨data, macData⟩ := readBytes_slab world.memory request.data long
      obtain ⟨data', macData'⟩ := readBytes_slab world'.memory request.data long
      obtain ⟨mac, opened⟩ := AesGcmMac.ofBytes_readAt world.memory (request.data.ptr + (request.data.size - aesGcmMacLen))
      obtain ⟨mac', opened'⟩ :=
        AesGcmMac.ofBytes_readAt world'.memory (request.data.ptr + (request.data.size - aesGcmMacLen))
      simp only [updateRatelimitState, checked_sub_eq_some _ _ long, data, macData, data', macData', opened, opened',
        enabled, Bool.not_false, ↓reduceIte, sameMap, true_and]
      exact fun _ agreed => agreed
    · simp only [updateRatelimitState, checked_sub_eq_none _ _ (Nat.lt_of_not_le long), sameMap, true_and]
      exact fun _ agreed => agreed
  · simp only [updateRatelimitState_onUntrustedSlab ffi self _ draws queryPhones request enabled, onUntrustedSlab, same,
      sameMap, true_and]
    exact fun _ agreed => writeAt_congr _ _ agreed

end SgxsdServerState

end ContactDiscovery
