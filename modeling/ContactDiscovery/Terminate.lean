import ContactDiscovery.HandleCall

/- `SgxsdServerState::terminate`: the phones of all parked calls are looked up in the directory, in
   chunks of `MAX_HASH_TABLE_SIZE`, into one buffer of 16-byte results, which is then cut by each
   pending request's phone count and sent to its caller, in order. `hash_lookup` and
   `MAX_HASH_TABLE_SIZE` come from crate::ffi::hash_lookup and are parameters: the lookup fills the
   result chunk it is given in place, and the table size is positive (`chunks(0)` would panic).
   `SgxsdMsgFrom::reply` is the transport's and is a parameter too; `terminate` reports the replies
   it made, the failed one included. The abstract reading is `deliver`: each parked caller, in order,
   gets the records of its own phones, until a reply fails. -/

set_option autoImplicit false

namespace ContactDiscovery

def bytesPerUuid : Nat := 16

structure HashLookup where
  maxHashTableSize : Nat
  maxHashTableSize_pos : 0 < maxHashTableSize
  hashLookup : Memory → Nat → Nat → Nat → List Phone → Bytes → Except SgxStatus Bytes
  length_hashLookup : ∀ {memory inPhones inUuids inPhoneCount queryPhones results out},
    hashLookup memory inPhones inUuids inPhoneCount queryPhones results = .ok out → out.length = results.length

def chunks {α : Type} (size : Nat) (items : List α) : List (List α) :=
  (List.range ((items.length + size - 1) / size)).map fun index => (items.drop (size * index)).take size

theorem flatten_map_range_chunk {α : Type} (size : Nat) (items : List α) (count : Nat) :
    ((List.range count).map fun index => (items.drop (size * index)).take size).flatten = items.take (size * count) := by
  induction count with
  | zero => simp
  | succ count ih => simp [List.range_succ, ih, Nat.mul_succ, List.take_add]

theorem flatten_chunks {α : Type} {size : Nat} (pos : 0 < size) (items : List α) : (chunks size items).flatten = items := by
  have covered := Nat.div_add_mod (items.length + size - 1) size
  have := Nat.mod_lt (items.length + size - 1) pos
  rw [chunks, flatten_map_range_chunk, List.take_of_length_le (by omega)]

theorem chunks_replicate {size : Nat} (pos : 0 < size) (phones : List Phone) :
    chunks (size * bytesPerUuid) (List.replicate (phones.length * bytesPerUuid) (0 : UInt8)) =
      (chunks size phones).map fun chunk => List.replicate (chunk.length * bytesPerUuid) 0 := by
  have count : (phones.length * bytesPerUuid + size * bytesPerUuid - 1) / (size * bytesPerUuid) =
      (phones.length + size - 1) / size := by
    rw [Nat.mul_comm size, ← Nat.div_div_eq_div_mul]
    congr 1
    simp only [bytesPerUuid]
    omega
  simp only [chunks, List.length_replicate, count, List.map_map]
  refine List.map_congr_left fun index _ => ?_
  simp only [Function.comp, List.drop_replicate, List.take_replicate, List.length_take, List.length_drop]
  congr 1
  simp only [bytesPerUuid, Nat.mul_right_comm size 16 index]
  omega

@[simp] theorem length_flatMap_records (records : Phone → Bytes) (sized : ∀ phone, (records phone).length = bytesPerUuid)
    (phones : List Phone) : (phones.flatMap records).length = phones.length * bytesPerUuid := by
  induction phones with
  | nil => rfl
  | cons phone phones ih => simp only [List.flatMap_cons, List.length_append, sized, ih, List.length_cons, Nat.succ_mul]; omega

/-- Replying to callers in order, each with its own bytes, until a reply fails: the outcome, and the
replies made. -/
def deliver (reply : SgxsdMsgFrom → Bytes → Except SgxStatus Unit) :
    List (SgxsdMsgFrom × Bytes) → Outcome Unit × List (SgxsdMsgFrom × Bytes)
  | [] => (.ok (), [])
  | (caller, bytes) :: rest =>
    match reply caller bytes with
    | .error status => (.err status, [(caller, bytes)])
    | .ok () =>
      let (outcome, replies) := deliver reply rest
      (outcome, (caller, bytes) :: replies)

theorem deliver_prefix (reply : SgxsdMsgFrom → Bytes → Except SgxStatus Unit) (calls : List (SgxsdMsgFrom × Bytes)) :
    (deliver reply calls).2 <+: calls := by
  induction calls with
  | nil => exact List.prefix_refl _
  | cons call rest ih =>
    obtain ⟨caller, bytes⟩ := call
    simp only [deliver]
    split
    · exact List.cons_prefix_cons.mpr ⟨rfl, List.nil_prefix⟩
    · exact List.cons_prefix_cons.mpr ⟨rfl, ih⟩

theorem deliver_ok (reply : SgxsdMsgFrom → Bytes → Except SgxStatus Unit) (calls : List (SgxsdMsgFrom × Bytes))
    (done : (deliver reply calls).1 = .ok ()) : (deliver reply calls).2 = calls := by
  induction calls with
  | nil => rfl
  | cons call rest ih =>
    obtain ⟨caller, bytes⟩ := call
    simp only [deliver] at done ⊢
    split at done
    · cases done
    · rename_i replied
      simp only [replied, ih done]

theorem deliver_ne_panic (reply : SgxsdMsgFrom → Bytes → Except SgxStatus Unit) (calls : List (SgxsdMsgFrom × Bytes)) :
    (deliver reply calls).1 ≠ .panic := by
  induction calls with
  | nil => exact fun stuck => Outcome.noConfusion stuck
  | cons call rest ih =>
    obtain ⟨caller, bytes⟩ := call
    simp only [deliver]
    split
    · exact fun stuck => Outcome.noConfusion stuck
    · exact ih

namespace SgxsdServerState

variable (ffi : Ffi) (lookup : HashLookup) (isOutsideEnclave : Nat → Nat → Bool) (memory : Memory)
  (reply : SgxsdMsgFrom → Bytes → Except SgxStatus Unit)

def lookupChunks (inPhones inUuids inPhoneCount : Nat) : List (List Phone × Bytes) → Outcome (List Bytes)
  | [] => .ok []
  | (queryPhonesChunk, resultChunk) :: rest => do
    let filled ← Outcome.ofExcept
      (lookup.hashLookup memory inPhones inUuids inPhoneCount queryPhonesChunk resultChunk)
    let others ← lookupChunks inPhones inUuids inPhoneCount rest
    pure (filled :: others)

theorem lookupChunks_zip (records : Phone → Bytes) (inPhones inUuids inPhoneCount : Nat)
    (contract : ∀ queryPhones results, results.length = queryPhones.length * bytesPerUuid →
      lookup.hashLookup memory inPhones inUuids inPhoneCount queryPhones results = .ok (queryPhones.flatMap records))
    (queryPhonesChunks : List (List Phone)) :
    lookupChunks lookup memory inPhones inUuids inPhoneCount
        (queryPhonesChunks.zip (queryPhonesChunks.map fun chunk => List.replicate (chunk.length * bytesPerUuid) 0)) =
      .ok (queryPhonesChunks.map fun chunk => chunk.flatMap records) := by
  induction queryPhonesChunks with
  | nil => rfl
  | cons chunk rest ih =>
    rw [List.map_cons, List.zip_cons_cons, lookupChunks, contract chunk _ (List.length_replicate _ _)]
    simp only [Outcome.ofExcept_ok, Outcome.ok_bind, ih, Outcome.pure_eq, List.map_cons]

/-- The reply loop: each pending request, in order, takes the next `request_phone_count · 16` bytes of
the results (`split_at_mut`, which panics past the end) and replies with them; a failed reply ends
it. The outcome, and the replies made. -/
def replyAll : List PendingRequest → Bytes → Outcome Unit × List (SgxsdMsgFrom × Bytes)
  | [], _ => (.ok (), [])
  | request :: rest, remaining =>
    let mid := request.requestPhoneCount.toNat * bytesPerUuid
    if mid ≤ remaining.length then
      match reply request.«from» (remaining.take mid) with
      | .error status => (.err status, [(request.«from», remaining.take mid)])
      | .ok () =>
        let (outcome, replies) := replyAll rest (remaining.drop mid)
        (outcome, (request.«from», remaining.take mid) :: replies)
    else (.panic, [])

theorem replyAll_parked (records : Phone → Bytes) (sized : ∀ phone, (records phone).length = bytesPerUuid)
    {requests : List PendingRequest} {parked : List (SgxsdMsgFrom × List Phone)}
    (matched : List.Forall₂ (fun request call => request.«from» = call.1 ∧
      request.requestPhoneCount.toNat = call.2.length) requests parked) :
    replyAll reply requests ((parked.map Prod.snd).flatten.flatMap records) =
      deliver reply (parked.map fun call => (call.1, call.2.flatMap records)) := by
  induction matched with
  | nil => rfl
  | @cons request call _ _ same _ ih =>
    have length : (call.2.flatMap records).length = request.requestPhoneCount.toNat * bytesPerUuid := by
      rw [length_flatMap_records records sized, same.2]
    simp only [List.map_cons, List.flatten_cons, List.flatMap_append, replyAll, deliver]
    rw [if_pos (by simp only [List.length_append, length]; omega), List.take_left' length,
      List.drop_left' length, ih, same.1]

/-- `terminate` up to its replies: the argument checks, and the result buffer the lookups fill.
`vec![0u8; len]` is taken to allocate, without the `isize::MAX` capacity check that `PhoneList::new`
keeps: `result_buffer_le` states the bound under which that check passes. -/
def lookupResults (self : SgxsdServerState) (args : Option StopArgs) : Outcome Bytes := do
  let args ← Outcome.okOr .sgxErrorInvalidParameter args
  let inPhonesSize ← Outcome.okOr .sgxErrorInvalidParameter (checkedMul args.inPhoneCount bytesPerPhone)
  let inUuidsSize ← Outcome.okOr .sgxErrorInvalidParameter (checkedMul args.inPhoneCount bytesPerUuid)
  let inPhones ← Outcome.mapErr .sgxErrorInvalidParameter
    (UntrustedSlice.new isOutsideEnclave args.inPhones inPhonesSize)
  let inUuids ← Outcome.mapErr .sgxErrorInvalidParameter
    (UntrustedSlice.new isOutsideEnclave args.inUuids inUuidsSize)
  let queryPhonesChunks := chunks lookup.maxHashTableSize self.queryPhones.phones
  let inQueryPhonesResultLen ← Outcome.okOr .sgxErrorInvalidParameter
    (checkedMul self.queryPhones.len bytesPerUuid)
  let inQueryPhonesResultChunks :=
    chunks (lookup.maxHashTableSize * bytesPerUuid) (List.replicate inQueryPhonesResultLen 0)
  let filled ← lookupChunks lookup memory inPhones.ptr inUuids.ptr args.inPhoneCount
    (queryPhonesChunks.zip inQueryPhonesResultChunks)
  pure (filled ++ inQueryPhonesResultChunks.drop filled.length).flatten

theorem flatten_map_flatMap (records : Phone → Bytes) (queryPhonesChunks : List (List Phone)) :
    (queryPhonesChunks.map fun chunk => chunk.flatMap records).flatten = queryPhonesChunks.flatten.flatMap records := by
  simp only [List.flatMap_def, List.map_flatten, List.flatten_flatten, List.map_map, Function.comp_def]

theorem lookupResults_eq (self : SgxsdServerState) (args : StopArgs) (records : Phone → Bytes)
    (contract : ∀ queryPhones results, results.length = queryPhones.length * bytesPerUuid →
      lookup.hashLookup memory args.inPhones args.inUuids args.inPhoneCount queryPhones results =
        .ok (queryPhones.flatMap records))
    (fits : args.inPhoneCount * bytesPerUuid ≤ usizeMax)
    (phonesOutside : isOutsideEnclave args.inPhones (args.inPhoneCount * bytesPerPhone) = true)
    (uuidsOutside : isOutsideEnclave args.inUuids (args.inPhoneCount * bytesPerUuid) = true) :
    self.lookupResults lookup isOutsideEnclave memory (some args) = .ok (self.queryPhones.phones.flatMap records) := by
  have phonesFit : args.inPhoneCount * bytesPerPhone ≤ usizeMax := by
    simp only [bytesPerPhone, bytesPerUuid] at fits ⊢
    omega
  have resultFits : self.queryPhones.phones.length * bytesPerUuid ≤ usizeMax := by
    have := self.queryPhones.length_le
    have := self.queryPhones.bytes_le
    simp only [bytesPerUuid, usizeMax, isizeMax] at *
    omega
  simp only [lookupResults, Outcome.okOr_some, checked_mul_eq_some _ _ phonesFit, checked_mul_eq_some _ _ fits,
    checked_mul_eq_some _ _ resultFits, UntrustedSlice.new, phonesOutside, uuidsOutside, if_true,
    Outcome.mapErr_ok, Outcome.ok_bind, PhoneList.len, chunks_replicate lookup.maxHashTableSize_pos,
    lookupChunks_zip lookup memory records _ _ _ contract, Outcome.pure_eq]
  rw [List.drop_eq_nil_of_le (by simp only [List.length_map, le_refl]), List.append_nil, flatten_map_flatMap,
    flatten_chunks lookup.maxHashTableSize_pos]

theorem lookupChunks_lengths {inPhones inUuids inPhoneCount : Nat} :
    ∀ {queryPhonesChunks : List (List Phone)} {resultChunks filled : List Bytes},
      queryPhonesChunks.length = resultChunks.length →
      lookupChunks lookup memory inPhones inUuids inPhoneCount (queryPhonesChunks.zip resultChunks) = .ok filled →
      filled.map List.length = resultChunks.map List.length
  | [], [], _, _, done => by cases done; rfl
  | queryPhones :: rest, results :: others, filled, sized, done => by
    rw [List.zip_cons_cons, lookupChunks] at done
    obtain ⟨chunk, looked, done⟩ := Outcome.bind_eq_ok.mp done
    obtain ⟨more, later, done⟩ := Outcome.bind_eq_ok.mp done
    cases done
    simp only [List.map_cons, lookup.length_hashLookup ((Outcome.ofExcept_eq_ok _ _).mp looked),
      lookupChunks_lengths (Nat.succ.inj sized) later]
  | [], _ :: _, _, sized, _ | _ :: _, [], _, sized, _ => absurd sized (by simp)

theorem lookupChunks_ne_panic (inPhones inUuids inPhoneCount : Nat) :
    ∀ pairs, lookupChunks lookup memory inPhones inUuids inPhoneCount pairs ≠ .panic
  | [] => fun stuck => Outcome.noConfusion stuck
  | _ :: rest => Outcome.bind_ne_panic (Outcome.ofExcept_ne_panic _) fun _ =>
      Outcome.bind_ne_panic (lookupChunks_ne_panic inPhones inUuids inPhoneCount rest) fun _ stuck =>
        Outcome.noConfusion stuck

theorem lookupResults_ne_panic (self : SgxsdServerState) (args : Option StopArgs) :
    self.lookupResults lookup isOutsideEnclave memory args ≠ .panic := by
  unfold lookupResults
  repeat' first
    | exact fun stuck => Outcome.noConfusion stuck
    | refine Outcome.bind_ne_panic (by simp [lookupChunks_ne_panic]) fun _ => ?_

theorem length_lookupResults {self : SgxsdServerState} {args : Option StopArgs} {results : Bytes}
    (done : self.lookupResults lookup isOutsideEnclave memory args = .ok results) :
    results.length = self.queryPhones.len * bytesPerUuid := by
  simp only [lookupResults, Outcome.bind_eq_ok, Outcome.okOr_eq_ok, checkedMul_eq_some_iff, Outcome.pure_eq,
    Outcome.ok.injEq] at done
  obtain ⟨_, -, _, -, _, -, _, -, _, -, _, ⟨-, rfl⟩, filled, looked, rfl⟩ := done
  have lined := chunks_replicate lookup.maxHashTableSize_pos self.queryPhones.phones
  rw [PhoneList.len, lined] at looked ⊢
  have lengths := lookupChunks_lengths lookup memory (List.length_map _ _).symm looked
  have count := congrArg List.length lengths
  simp only [List.length_map] at count
  rw [List.drop_eq_nil_of_le (by simp only [List.length_map, count, le_refl]), List.append_nil, List.length_flatten,
    lengths, ← List.length_flatten, ← lined, flatten_chunks (Nat.mul_pos lookup.maxHashTableSize_pos (by decide)),
    List.length_replicate]

/-- The zeroed buffer `terminate` allocates for the results, `16 · query_phones.len()` bytes, is at most
twice the phone buffer `init` allocated, so its `isize::MAX` capacity check passes on every server
whose phone buffer is below 2^62 bytes: the check could fail only after `init` allocated a phone
buffer larger than the x86-64 address space can hold. -/
theorem result_buffer_le (start : StartArgs) (initial : SgxsdServerState) (created : init (some start) = .ok initial)
    (inputs : List CallInput) :
    (initial.runCalls ffi isOutsideEnclave inputs).queryPhones.len * bytesPerUuid ≤
        2 * (start.maxQueryPhones * bytesPerPhone) ∧
      (start.maxQueryPhones * bytesPerPhone < 2 ^ 62 →
        (initial.runCalls ffi isOutsideEnclave inputs).queryPhones.len * bytesPerUuid ≤ isizeMax) := by
  obtain ⟨-, -, capacity⟩ := runCalls_parks ffi isOutsideEnclave inputs (init_parks created)
  obtain ⟨_, same, -, -, allocated⟩ := init_ok created
  cases same
  have within := (initial.runCalls ffi isOutsideEnclave inputs).queryPhones.length_le
  rw [capacity, allocated] at within
  simp only [PhoneList.len, bytesPerUuid, bytesPerPhone, isizeMax]
  omega

theorem replyAll_pieces :
    ∀ (requests : List PendingRequest) (results : Bytes),
      results.length = (requests.map fun request => request.requestPhoneCount.toNat * bytesPerUuid).sum →
      ∃ pieces : List Bytes, pieces.flatten = results ∧
        List.Forall₂ (fun request piece => piece.length = request.requestPhoneCount.toNat * bytesPerUuid)
          requests pieces ∧
        replyAll reply requests results = deliver reply ((requests.map (·.«from»)).zip pieces)
  | [], results, sized => ⟨[], (List.eq_nil_of_length_eq_zero sized).symm, .nil, rfl⟩
  | request :: rest, results, sized => by
    rw [List.map_cons, List.sum_cons] at sized
    obtain ⟨pieces, joined, cut, replied⟩ := replyAll_pieces rest (results.drop (request.requestPhoneCount.toNat * bytesPerUuid))
      (by rw [List.length_drop, sized, Nat.add_sub_cancel_left])
    refine ⟨results.take (request.requestPhoneCount.toNat * bytesPerUuid) :: pieces,
      by rw [List.flatten_cons, joined, List.take_append_drop], .cons (by rw [List.length_take]; omega) cut, ?_⟩
    simp only [replyAll, if_pos (by omega : request.requestPhoneCount.toNat * bytesPerUuid ≤ results.length),
      replied, List.map_cons, List.zip_cons_cons, deliver]
    rfl

def terminate (self : SgxsdServerState) (args : Option StopArgs) : Outcome Unit × List (SgxsdMsgFrom × Bytes) :=
  match self.lookupResults lookup isOutsideEnclave memory args with
  | .ok results => replyAll reply self.requests results
  | .err status => (.err status, [])
  | .panic => (.panic, [])

/-- Every caller that a call since `init` parked, in the order of the calls, is replied to once with
the records of its own phones, until a reply fails. -/
theorem terminate_replies (start : StartArgs) (initial : SgxsdServerState) (created : init (some start) = .ok initial)
    (inputs : List CallInput) (args : StopArgs) (records : Phone → Bytes)
    (sized : ∀ phone, (records phone).length = bytesPerUuid)
    (contract : ∀ queryPhones results, results.length = queryPhones.length * bytesPerUuid →
      lookup.hashLookup memory args.inPhones args.inUuids args.inPhoneCount queryPhones results =
        .ok (queryPhones.flatMap records))
    (fits : args.inPhoneCount * bytesPerUuid ≤ usizeMax)
    (phonesOutside : isOutsideEnclave args.inPhones (args.inPhoneCount * bytesPerPhone) = true)
    (uuidsOutside : isOutsideEnclave args.inUuids (args.inPhoneCount * bytesPerUuid) = true) :
    (initial.runCalls ffi isOutsideEnclave inputs).terminate lookup isOutsideEnclave memory reply (some args) =
      deliver reply ((initial.parkedCalls ffi isOutsideEnclave inputs).map fun call => (call.1, call.2.flatMap records)) := by
  have parked := (runCalls_parks ffi isOutsideEnclave inputs (init_parks created)).1
  rw [List.nil_append] at parked
  simp only [terminate, lookupResults_eq lookup isOutsideEnclave memory _ args records contract fits phonesOutside
    uuidsOutside, parked.phones]
  exact replyAll_parked reply records sized parked.requests

theorem terminate_pieces {server : SgxsdServerState} {parked : List (SgxsdMsgFrom × List Phone)}
    (standing : server.Parks parked) {args : Option StopArgs} {results : Bytes}
    (done : server.lookupResults lookup isOutsideEnclave memory args = .ok results) :
    ∃ pieces : List Bytes, pieces.flatten = results ∧
      List.Forall₂ (fun request piece => piece.length = request.requestPhoneCount.toNat * bytesPerUuid)
        server.requests pieces ∧
      server.terminate lookup isOutsideEnclave memory reply args =
        deliver reply ((server.requests.map (·.«from»)).zip pieces) := by
  obtain ⟨pieces, joined, sized, replied⟩ := replyAll_pieces reply _ results (by
    rw [length_lookupResults lookup isOutsideEnclave memory done, List.sum_map_mul_right, standing.sum_counts])
  exact ⟨pieces, joined, sized, by rw [terminate, done]; exact replied⟩

theorem terminate_ne_panic {server : SgxsdServerState} {parked : List (SgxsdMsgFrom × List Phone)}
    (standing : server.Parks parked) (args : Option StopArgs) :
    (server.terminate lookup isOutsideEnclave memory reply args).1 ≠ .panic := by
  cases looked : server.lookupResults lookup isOutsideEnclave memory args with
  | ok results =>
    obtain ⟨pieces, -, -, replied⟩ := terminate_pieces lookup isOutsideEnclave memory reply standing looked
    rw [replied]
    exact deliver_ne_panic reply _
  | err status =>
    rw [terminate, looked]
    exact fun stuck => Outcome.noConfusion stuck
  | panic => exact absurd looked (lookupResults_ne_panic lookup isOutsideEnclave memory server args)

/-- On every server that calls since `init` reached, `terminate` never panics, whatever the stop
arguments and whatever records the lookup writes: when the lookups succeed, the result buffer is cut
into consecutive pieces, one per pending request and as long as its records, delivered in order. -/
theorem terminate_never_panics (start : Option StartArgs) (initial : SgxsdServerState) (created : init start = .ok initial)
    (inputs : List CallInput) (args : Option StopArgs) :
    ((initial.runCalls ffi isOutsideEnclave inputs).terminate lookup isOutsideEnclave memory reply args).1 ≠ .panic ∧
    ∀ results, (initial.runCalls ffi isOutsideEnclave inputs).lookupResults lookup isOutsideEnclave memory args = .ok results →
      ∃ pieces : List Bytes, pieces.flatten = results ∧
        List.Forall₂ (fun request piece => piece.length = request.requestPhoneCount.toNat * bytesPerUuid)
          (initial.runCalls ffi isOutsideEnclave inputs).requests pieces ∧
        (initial.runCalls ffi isOutsideEnclave inputs).terminate lookup isOutsideEnclave memory reply args =
          deliver reply (((initial.runCalls ffi isOutsideEnclave inputs).requests.map (·.«from»)).zip pieces) :=
  have standing := (runCalls_parks ffi isOutsideEnclave inputs (init_parks created)).1
  ⟨terminate_ne_panic lookup isOutsideEnclave memory reply standing args,
    fun _ done => terminate_pieces lookup isOutsideEnclave memory reply standing done⟩

end SgxsdServerState

def HashLookup.zeroes : HashLookup where
  maxHashTableSize := 1
  maxHashTableSize_pos := Nat.one_pos
  hashLookup _ _ _ _ queryPhones results :=
    if results.length = queryPhones.length * bytesPerUuid then .ok (queryPhones.flatMap fun _ => List.replicate 16 0)
    else .ok results
  length_hashLookup := by
    intro _ _ _ _ queryPhones results out looked
    dsimp only at looked
    split at looked
    · rename_i sized
      cases looked
      rw [sized]
      exact length_flatMap_records _ (fun _ => List.length_replicate _ _) queryPhones
    · cases looked
      rfl

theorem terminate_replies_after_one_query :
    ∃ initial inputs, SgxsdServerState.init (some ⟨4, 0⟩) = .ok initial ∧
      inputs = [⟨some ⟨⟨0, 40, ⟨[]⟩, AesGcmMac.zero⟩, List.replicate 32 0, 1, 0, 0, 0⟩, List.replicate 32 0, 7,
        ⟨fun _ => 0, ⟨[], []⟩⟩, ⟨⟨[]⟩, none⟩⟩] ∧
      initial.parkedCalls Ffi.inert (fun _ _ => true) inputs = [(7, [0])] ∧
      (initial.runCalls Ffi.inert (fun _ _ => true) inputs).terminate HashLookup.zeroes (fun _ _ => true) (fun _ => 0)
          (fun _ _ => .ok ()) (some ⟨0, 0, 0⟩) =
        deliver (fun _ _ => .ok ()) ((initial.parkedCalls Ffi.inert (fun _ _ => true) inputs).map fun call =>
          (call.1, call.2.flatMap fun _ => List.replicate 16 0)) :=
  ⟨_, _, rfl, rfl, rfl, SgxsdServerState.terminate_replies Ffi.inert HashLookup.zeroes (fun _ _ => true) (fun _ => 0)
    (fun _ _ => .ok ()) ⟨4, 0⟩ _ rfl _ ⟨0, 0, 0⟩ _ (fun _ => List.length_replicate _ _)
    (fun _ _ sized => if_pos sized) (by decide) rfl rfl⟩

theorem terminate_never_panics_after_one_query :
    ∃ initial inputs, SgxsdServerState.init (some ⟨4, 0⟩) = .ok initial ∧
      inputs = [⟨some ⟨⟨0, 40, ⟨[]⟩, AesGcmMac.zero⟩, List.replicate 32 0, 1, 0, 0, 0⟩, List.replicate 32 0, 7,
        ⟨fun _ => 0, ⟨[], []⟩⟩, ⟨⟨[]⟩, none⟩⟩] ∧
      (initial.runCalls Ffi.inert (fun _ _ => true) inputs).requests = [⟨7, 1⟩] ∧
      ((initial.runCalls Ffi.inert (fun _ _ => true) inputs).terminate HashLookup.zeroes (fun _ _ => true) (fun _ => 0)
          (fun _ _ => .error .sgxErrorUnexpected) (some ⟨0, 0, 0⟩)).1 ≠ .panic ∧
      ∀ results, (initial.runCalls Ffi.inert (fun _ _ => true) inputs).lookupResults HashLookup.zeroes
          (fun _ _ => true) (fun _ => 0) (some ⟨0, 0, 0⟩) = .ok results →
        ∃ pieces : List Bytes, pieces.flatten = results ∧
          List.Forall₂ (fun request piece => piece.length = request.requestPhoneCount.toNat * bytesPerUuid)
            (initial.runCalls Ffi.inert (fun _ _ => true) inputs).requests pieces ∧
          (initial.runCalls Ffi.inert (fun _ _ => true) inputs).terminate HashLookup.zeroes (fun _ _ => true)
              (fun _ => 0) (fun _ _ => .error .sgxErrorUnexpected) (some ⟨0, 0, 0⟩) =
            deliver (fun _ _ => .error .sgxErrorUnexpected)
              (((initial.runCalls Ffi.inert (fun _ _ => true) inputs).requests.map (·.«from»)).zip pieces) :=
  ⟨_, _, rfl, rfl, rfl, SgxsdServerState.terminate_never_panics Ffi.inert HashLookup.zeroes (fun _ _ => true)
    (fun _ => 0) (fun _ _ => .error .sgxErrorUnexpected) (some ⟨4, 0⟩) _ rfl _ (some ⟨0, 0, 0⟩)⟩

theorem result_buffer_le_after_one_query :
    ∃ initial, SgxsdServerState.init (some ⟨4, 0⟩) = .ok initial ∧ (4 * bytesPerPhone < 2 ^ 62) ∧
      (initial.runCalls Ffi.inert (fun _ _ => true)
          [⟨some ⟨⟨0, 40, ⟨[]⟩, AesGcmMac.zero⟩, List.replicate 32 0, 1, 0, 0, 0⟩, List.replicate 32 0, 7,
            ⟨fun _ => 0, ⟨[], []⟩⟩, ⟨⟨[]⟩, none⟩⟩]).queryPhones.len * bytesPerUuid ≤ isizeMax :=
  ⟨_, rfl, by decide, (SgxsdServerState.result_buffer_le Ffi.inert (fun _ _ => true) ⟨4, 0⟩ _ rfl _).2 (by decide)⟩

end ContactDiscovery
