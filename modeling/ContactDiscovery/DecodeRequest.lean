import ContactDiscovery.ServerState

/- `SgxsdServerState::decode_request` and what it builds: the decrypted query (`RequestPhoneList`,
   whose iterator reads the phones after the 32-byte commitment nonce) and the untrusted slice of the
   rate-limit state. `AesGcmKey::new` is sgxsd_ffi's: a key of exactly `AesGcmKey::len()` bytes,
   32 for AES-256-GCM. -/

set_option autoImplicit false

namespace ContactDiscovery

def commitmentNonceSize : Nat := 32

def bytesPerPhone : Nat := 8

def aesGcmKeyLen : Nat := 32

/-- Modelled from the spec: `AesGcmKey::new(data)` of sgxsd_ffi, "construct an AES-GCM key from
`request_data`" (section 3, step 4). Step 3 has already checked the length, so the error, taken to be
`SGX_ERROR_INVALID_PARAMETER`, is never reached from `decode_request`. -/
def AesGcmKey.new (data : Bytes) : Except SgxStatus AesGcmKey :=
  if data.length = aesGcmKeyLen then .ok ⟨data⟩ else .error .sgxErrorInvalidParameter

theorem AesGcmKey.new_eq_ok (data : Bytes) (key : AesGcmKey) :
    AesGcmKey.new data = .ok key ↔ data.length = aesGcmKeyLen ∧ ⟨data⟩ = key := by
  unfold AesGcmKey.new
  split <;> simp_all

def chunksExact (size : Nat) (data : Bytes) : List Bytes :=
  (List.range (data.length / size)).map fun index => (data.drop (size * index)).take size

theorem chunksExact_append {size : Nat} (pos : 0 < size) {chunk : Bytes} (sized : chunk.length = size) (rest : Bytes) :
    chunksExact size (chunk ++ rest) = chunk :: chunksExact size rest := by
  have count : (chunk ++ rest).length / size = rest.length / size + 1 := by
    rw [List.length_append, sized, Nat.add_comm, Nat.add_div_right _ pos]
  rw [chunksExact, count, List.range_succ_eq_map, List.map_cons, List.map_map, chunksExact]
  refine congrArg₂ _ (by rw [Nat.mul_zero, List.drop_zero, List.take_left' sized]) (List.map_congr_left fun index _ => ?_)
  rw [Function.comp, Nat.mul_succ, Nat.add_comm, ← List.drop_drop, List.drop_left' sized]

theorem chunksExact_flatMap {size : Nat} (pos : 0 < size) (encode : Phone → Bytes)
    (sized : ∀ phone, (encode phone).length = size) (phones : List Phone) :
    chunksExact size (phones.flatMap encode) = phones.map encode := by
  induction phones with
  | nil => simp [chunksExact]
  | cons phone phones ih => rw [List.flatMap_cons, chunksExact_append pos (sized phone), ih, List.map_cons]

structure RequestPhoneList where
  data : Bytes

namespace RequestPhoneList

def decodePhone (data : Bytes) : Phone := u64FromNeBytes data

def iter (self : RequestPhoneList) : List Phone :=
  let phonesData := if commitmentNonceSize ≤ self.data.length then self.data.drop commitmentNonceSize else []
  (chunksExact bytesPerPhone phonesData).map decodePhone

theorem iter_eq (self : RequestPhoneList) (count : Nat)
    (sized : self.data.length = commitmentNonceSize + bytesPerPhone * count) :
    self.iter = (List.range count).map fun index =>
      u64FromNeBytes ((self.data.drop (commitmentNonceSize + bytesPerPhone * index)).take bytesPerPhone) := by
  have chunks : bytesPerPhone * count / bytesPerPhone = count := by simp [bytesPerPhone]
  simp [iter, chunksExact, sized, chunks, decodePhone, List.drop_drop, Nat.add_comm, Function.comp_def]

theorem iter_encoded {nonce : Bytes} (sized : nonce.length = commitmentNonceSize) (phones : List Phone) :
    iter ⟨nonce ++ phones.flatMap fun phone => leBytes bytesPerPhone phone.toNat⟩ = phones := by
  rw [iter, if_pos (by simp [sized]), List.drop_left' sized,
    chunksExact_flatMap (by decide) _ (fun _ => length_leBytes _ _), List.map_map]
  conv_rhs => rw [← List.map_id phones]
  exact List.map_congr_left fun phone _ => u64FromNeBytes_leBytes phone

end RequestPhoneList

structure RequestRatelimitState where
  uuid : NonZeroU128
  data : UntrustedSlice

structure Request where
  phones : RequestPhoneList
  ratelimitState : Option RequestRatelimitState

namespace SgxsdServerState

def verifyCommitment (sha256 : Bytes → Bytes) (data expectedCommitment : Bytes) : Outcome Unit :=
  if sha256 data = expectedCommitment then .ok () else .err .cdsErrorQueryCommitmentMismatch

theorem verifyCommitment_eq_ok (sha256 : Bytes → Bytes) (data expectedCommitment : Bytes) (u : Unit) :
    verifyCommitment sha256 data expectedCommitment = .ok u ↔ sha256 data = expectedCommitment := by
  unfold verifyCommitment
  split <;> simp_all

variable (ffi : Ffi) (isOutsideEnclave : Nat → Nat → Bool) (memory : Memory)

def requestRatelimitState (args : CallArgs) : Outcome (Option RequestRatelimitState) :=
  match args.ratelimitStateUuid.toNonZero with
  | some uuid => do
    let data ← Outcome.mapErr .sgxErrorInvalidParameter
      (UntrustedSlice.new isOutsideEnclave args.ratelimitStateData args.ratelimitStateSize)
    pure (some ⟨uuid, data⟩)
  | none => pure none

theorem requestRatelimitState_eq_ok (args : CallArgs) (ratelimitState : Option RequestRatelimitState) :
    requestRatelimitState isOutsideEnclave args = .ok ratelimitState ↔
      (args.ratelimitStateUuid ≠ 0 → isOutsideEnclave args.ratelimitStateData args.ratelimitStateSize) ∧
      (args.ratelimitStateUuid.toNonZero.map fun uuid =>
        ⟨uuid, ⟨args.ratelimitStateData, args.ratelimitStateSize⟩⟩) = ratelimitState := by
  unfold requestRatelimitState
  cases absent : args.ratelimitStateUuid.toNonZero with
  | none => simp_all
  | some uuid =>
    have nonzero : args.ratelimitStateUuid ≠ 0 := fun zero => by
      simp [(Uuid.toNonZero_eq_none _).mpr zero] at absent
    simp only [ne_eq, BitVec.ofNat_eq_ofNat] at nonzero
    simp [Outcome.bind_eq_ok, UntrustedSlice.new_ok_iff, nonzero, and_assoc]

def decodeRequest (self : SgxsdServerState) (args : CallArgs) (requestData : Bytes) : Outcome Request := do
  Outcome.errIf (args.queryPhoneCount = 0 ∨ self.queryPhones.capacity - self.queryPhones.len < args.queryPhoneCount.toNat)
    .sgxErrorInvalidParameter
  let querySlice ← Outcome.mapErr .sgxErrorInvalidParameter
    (UntrustedSlice.new isOutsideEnclave args.query.data args.query.size)
  let queryData ← Outcome.mapErr .sgxErrorInvalidParameter (querySlice.readBytes memory args.query.size)
  let queryPhonesDataLen ← Outcome.okOr .cdsErrorInvalidRequestSize
    (checkedSub queryData.length commitmentNonceSize)
  Outcome.errIf (requestData.length ≠ aesGcmKeyLen ∨ queryPhonesDataLen % bytesPerPhone ≠ 0 ∨
      queryPhonesDataLen / bytesPerPhone ≠ args.queryPhoneCount.toNat) .cdsErrorInvalidRequestSize
  let queryKey ← Outcome.ofExcept (AesGcmKey.new requestData)
  let queryPhones ← Outcome.ofExcept (ffi.aesGcm.decrypt queryKey args.query.iv args.query.mac queryData)
  verifyCommitment ffi.sha256 queryPhones args.queryCommitment
  let ratelimitState ← requestRatelimitState isOutsideEnclave args
  pure ⟨⟨queryPhones⟩, ratelimitState⟩

theorem decodeRequest_eq_ok (self : SgxsdServerState) (args : CallArgs) (requestData : Bytes) (request : Request) :
    self.decodeRequest ffi isOutsideEnclave memory args requestData = .ok request ↔
      args.queryPhoneCount ≠ 0 ∧ args.queryPhoneCount.toNat ≤ self.queryPhones.capacity - self.queryPhones.len ∧
      isOutsideEnclave args.query.data args.query.size ∧ requestData.length = aesGcmKeyLen ∧
      args.query.size = commitmentNonceSize + bytesPerPhone * args.queryPhoneCount.toNat ∧
      ∃ decrypted, ffi.aesGcm.decrypt ⟨requestData⟩ args.query.iv args.query.mac
          (readAt memory args.query.data args.query.size) = .ok decrypted ∧
        ffi.sha256 decrypted = args.queryCommitment ∧
        (args.ratelimitStateUuid ≠ 0 → isOutsideEnclave args.ratelimitStateData args.ratelimitStateSize) ∧
        ⟨⟨decrypted⟩, args.ratelimitStateUuid.toNonZero.map fun uuid =>
          ⟨uuid, ⟨args.ratelimitStateData, args.ratelimitStateSize⟩⟩⟩ = request := by
  have sized : commitmentNonceSize ≤ args.query.size ∧ (args.query.size - commitmentNonceSize) % bytesPerPhone = 0 ∧
      (args.query.size - commitmentNonceSize) / bytesPerPhone = args.queryPhoneCount.toNat ↔
      args.query.size = commitmentNonceSize + bytesPerPhone * args.queryPhoneCount.toNat := by
    simp only [commitmentNonceSize, bytesPerPhone]
    omega
  simp only [decodeRequest, Outcome.bind_eq_ok, Outcome.errIf_eq_ok, Outcome.mapErr_eq_ok, Outcome.okOr_eq_ok,
    Outcome.ofExcept_eq_ok, UntrustedSlice.new_ok_iff, UntrustedSlice.readBytes_eq_ok, checkedSub_eq_some_iff,
    AesGcmKey.new_eq_ok, verifyCommitment_eq_ok, requestRatelimitState_eq_ok, Outcome.pure_eq, Outcome.ok.injEq]
  simp only [not_or, not_lt, ne_eq, Decidable.not_not, BitVec.ofNat_eq_ofNat, and_assoc, exists_and_left,
    exists_eq_left', exists_const, length_readAt, le_refl, true_and, and_congr_right_iff]
  intro _ _ _
  constructor
  · rintro ⟨long, keyed, whole, phones, -, rest⟩
    exact ⟨keyed, sized.mp ⟨long, whole, phones⟩, rest⟩
  · rintro ⟨keyed, size, rest⟩
    obtain ⟨long, whole, phones⟩ := sized.mpr size
    exact ⟨long, keyed, whole, phones, keyed, rest⟩

theorem decodeRequest_ok_request {self : SgxsdServerState} {args : CallArgs} {requestData : Bytes}
    {request : Request} (done : self.decodeRequest ffi isOutsideEnclave memory args requestData = .ok request) :
    ffi.aesGcm.decrypt ⟨requestData⟩ args.query.iv args.query.mac
        (readAt memory args.query.data args.query.size) = .ok request.phones.data ∧
    request.phones.iter = (List.range args.queryPhoneCount.toNat).map (fun index =>
      u64FromNeBytes ((request.phones.data.drop (commitmentNonceSize + bytesPerPhone * index)).take bytesPerPhone)) ∧
    request.ratelimitState = args.ratelimitStateUuid.toNonZero.map fun uuid =>
      ⟨uuid, ⟨args.ratelimitStateData, args.ratelimitStateSize⟩⟩ := by
  obtain ⟨-, -, -, -, size, decrypted, opened, -, -, rfl⟩ :=
    (decodeRequest_eq_ok ffi isOutsideEnclave memory self args requestData request).mp done
  exact ⟨opened, RequestPhoneList.iter_eq ⟨decrypted⟩ _
    (by rw [ffi.aesGcm.length_decrypt opened, length_readAt, size]), rfl⟩

theorem decodeRequest_ne_panic (self : SgxsdServerState) (args : CallArgs) (requestData : Bytes) :
    self.decodeRequest ffi isOutsideEnclave memory args requestData ≠ .panic := by
  have committed : ∀ data, verifyCommitment ffi.sha256 data args.queryCommitment ≠ .panic := fun _ => by
    unfold verifyCommitment
    split <;> exact fun stuck => Outcome.noConfusion stuck
  have sliced : requestRatelimitState isOutsideEnclave args ≠ .panic := by
    unfold requestRatelimitState
    split
    · exact Outcome.bind_ne_panic (Outcome.mapErr_ne_panic _ _) fun _ stuck => Outcome.noConfusion stuck
    · exact fun stuck => Outcome.noConfusion stuck
  unfold decodeRequest
  repeat' first
    | exact fun stuck => Outcome.noConfusion stuck
    | refine Outcome.bind_ne_panic (by simp [committed, sliced]) fun _ => ?_

theorem decodeRequest_congr_memory {memory memory' : Memory} (self : SgxsdServerState) (args : CallArgs)
    (requestData : Bytes) (same : readAt memory' args.query.data args.query.size = readAt memory args.query.data args.query.size) :
    self.decodeRequest ffi isOutsideEnclave memory' args requestData =
      self.decodeRequest ffi isOutsideEnclave memory args requestData := by
  unfold decodeRequest
  cases sliced : UntrustedSlice.new isOutsideEnclave args.query.data args.query.size with
  | error => simp only [Outcome.mapErr_error, Outcome.err_bind]
  | ok slice =>
    obtain ⟨-, rfl⟩ := (UntrustedSlice.new_ok_iff _ _ _ _).mp sliced
    simp only [Outcome.mapErr_ok, Outcome.ok_bind, UntrustedSlice.readBytes_of_le _ _ (le_refl _), same]

/-- `decode_request` succeeds exactly when the phone count is nonzero and fits the spare capacity, the
query lies outside the enclave, the key has the AES-GCM length, the query holds the 32-byte nonce and
the announced phones, it decrypts, its SHA-256 (nonce included) is the commitment, and a nonzero
UUID comes with a slice outside the enclave. The request then holds the decrypted query, whose
iterator yields the announced phones read natively from the decrypted bytes `32 + 8i .. 40 + 8i`,
and a rate-limit state exactly when the UUID is nonzero. The function reads the server and returns
no new state, so it changes nothing. -/
theorem decode_request_spec (self : SgxsdServerState) (args : CallArgs) (requestData : Bytes) :
    ((∃ request, self.decodeRequest ffi isOutsideEnclave memory args requestData = .ok request) ↔
      args.queryPhoneCount ≠ 0 ∧ args.queryPhoneCount.toNat ≤ self.queryPhones.capacity - self.queryPhones.len ∧
      isOutsideEnclave args.query.data args.query.size ∧ requestData.length = aesGcmKeyLen ∧
      args.query.size = commitmentNonceSize + bytesPerPhone * args.queryPhoneCount.toNat ∧
      (∃ decrypted, ffi.aesGcm.decrypt ⟨requestData⟩ args.query.iv args.query.mac
          (readAt memory args.query.data args.query.size) = .ok decrypted ∧
        ffi.sha256 decrypted = args.queryCommitment) ∧
      (args.ratelimitStateUuid ≠ 0 → isOutsideEnclave args.ratelimitStateData args.ratelimitStateSize)) ∧
    ∀ request, self.decodeRequest ffi isOutsideEnclave memory args requestData = .ok request →
      ffi.aesGcm.decrypt ⟨requestData⟩ args.query.iv args.query.mac
          (readAt memory args.query.data args.query.size) = .ok request.phones.data ∧
      request.phones.iter.length = args.queryPhoneCount.toNat ∧
      request.phones.iter = (List.range args.queryPhoneCount.toNat).map (fun index =>
        u64FromNeBytes ((request.phones.data.drop (commitmentNonceSize + bytesPerPhone * index)).take bytesPerPhone)) ∧
      (request.ratelimitState.isSome ↔ args.ratelimitStateUuid ≠ 0) := by
  refine ⟨⟨fun ⟨request, done⟩ => ?_, fun ⟨count, room, outside, keyed, size, ⟨decrypted, opened, committed⟩, slice⟩ =>
    ⟨_, (decodeRequest_eq_ok ffi isOutsideEnclave memory self args requestData _).mpr
      ⟨count, room, outside, keyed, size, decrypted, opened, committed, slice, rfl⟩⟩⟩, fun request done => ?_⟩
  · obtain ⟨count, room, outside, keyed, size, decrypted, opened, committed, slice, -⟩ :=
      (decodeRequest_eq_ok ffi isOutsideEnclave memory self args requestData request).mp done
    exact ⟨count, room, outside, keyed, size, ⟨decrypted, opened, committed⟩, slice⟩
  · obtain ⟨opened, phones, slice⟩ := decodeRequest_ok_request ffi isOutsideEnclave memory done
    refine ⟨opened, by simp [phones], phones, ?_⟩
    simpa [slice] using Uuid.isSome_toNonZero args.ratelimitStateUuid

end SgxsdServerState

end ContactDiscovery
