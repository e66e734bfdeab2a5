import ContactDiscovery.UpdateRatelimitState

/- `SgxsdServerState::handle_call`, and a server's life from `init` through any sequence of calls.
   A call that carries a rate-limit state updates it at once and leaves the instance alone; any other
   call that decodes parks its caller and its phones. Between two calls the host may rewrite
   untrusted memory and other threads may change the map, so each call brings the world it finds.
   What the instance stands for is the list of parked calls: each caller with the phones of its own
   query, in the order the calls were made. -/

set_option autoImplicit false

namespace ContactDiscovery

inductive CallOutcome where
  | ok
  | err (status : SgxStatus) (caller : SgxsdMsgFrom)
  | panic
deriving DecidableEq, Repr

def CallOutcome.ofOutcome (caller : SgxsdMsgFrom) : Outcome Unit → CallOutcome
  | .ok () => .ok
  | .err status => .err status caller
  | .panic => .panic

@[simp] theorem CallOutcome.ofOutcome_eq_panic (caller : SgxsdMsgFrom) (outcome : Outcome Unit) :
    CallOutcome.ofOutcome caller outcome = .panic ↔ outcome = .panic := by
  cases outcome <;> simp [CallOutcome.ofOutcome]

def usizeToU32 (n : Nat) : Option UInt32 := if n < 2 ^ 32 then some n.toUInt32 else none

structure CallInput where
  args : Option CallArgs
  requestData : Bytes
  «from» : SgxsdMsgFrom
  world : World
  draws : Draws

namespace SgxsdServerState

variable (ffi : Ffi) (isOutsideEnclave : Nat → Nat → Bool)

def handleCall (self : SgxsdServerState) (world : World) (draws : Draws) (args : Option CallArgs)
    (requestData : Bytes) («from» : SgxsdMsgFrom) : CallOutcome × SgxsdServerState × World :=
  match args with
  | none => (.err .sgxErrorInvalidParameter «from», self, world)
  | some args =>
    match self.decodeRequest ffi isOutsideEnclave world.memory args requestData with
    | .err error => (.err error «from», self, world)
    | .panic => (.panic, self, world)
    | .ok request =>
      match request.ratelimitState with
      | some ratelimitState =>
        let requestPhonesIter := request.phones.iter
        match PhoneList.new requestPhonesIter.length >>= (·.extend requestPhonesIter) with
        | .ok requestPhones =>
          let (outcome, world) := self.updateRatelimitState ffi world draws requestPhones ratelimitState
          (CallOutcome.ofOutcome «from» outcome, self, world)
        | .err error => (.err error «from», self, world)
        | .panic => (.panic, self, world)
      | none =>
        let requestPhonesIter := request.phones.iter
        match usizeToU32 requestPhonesIter.length with
        | none => (.err .sgxErrorInvalidParameter «from», self, world)
        | some requestPhoneCount =>
          match self.queryPhones.extend requestPhonesIter with
          | .ok queryPhones =>
            (.ok, { self with queryPhones, requests := self.requests ++ [⟨«from», requestPhoneCount⟩] }, world)
          | .err error => (.err error «from», self, world)
          | .panic => (.panic, self, world)

def call (self : SgxsdServerState) (input : CallInput) : CallOutcome × SgxsdServerState × World :=
  self.handleCall ffi isOutsideEnclave input.world input.draws input.args input.requestData input.«from»

def runCalls (self : SgxsdServerState) : List CallInput → SgxsdServerState
  | [] => self
  | input :: rest => (self.call ffi isOutsideEnclave input).2.1.runCalls rest

/-- What one call parks: its caller and the phones of its query, when it takes the path without rate
limiting (a zero UUID) and returns `Ok`. -/
def parks (self : SgxsdServerState) (input : CallInput) : List (SgxsdMsgFrom × List Phone) :=
  match input.args with
  | some args =>
    if (self.call ffi isOutsideEnclave input).1 = .ok ∧ args.ratelimitStateUuid = 0 then
      match self.decodeRequest ffi isOutsideEnclave input.world.memory args input.requestData with
      | .ok request => [(input.«from», request.phones.iter)]
      | _ => []
    else []
  | none => []

def parkedCalls (self : SgxsdServerState) : List CallInput → List (SgxsdMsgFrom × List Phone)
  | [] => []
  | input :: rest => self.parks ffi isOutsideEnclave input ++
      (self.call ffi isOutsideEnclave input).2.1.parkedCalls rest

structure Parks (server : SgxsdServerState) (parked : List (SgxsdMsgFrom × List Phone)) : Prop where
  requests : List.Forall₂ (fun request call => request.«from» = call.1 ∧ request.requestPhoneCount.toNat = call.2.length)
    server.requests parked
  phones : server.queryPhones.phones = (parked.map Prod.snd).flatten

theorem handleCall_unlimited (self : SgxsdServerState) (world : World) (draws : Draws) (args : CallArgs)
    (requestData : Bytes) («from» : SgxsdMsgFrom) {request : Request}
    (decoded : self.decodeRequest ffi isOutsideEnclave world.memory args requestData = .ok request)
    (absent : request.ratelimitState = none) :
    (self.handleCall ffi isOutsideEnclave world draws (some args) requestData «from»).1 = .ok ∧
    (self.handleCall ffi isOutsideEnclave world draws (some args) requestData «from»).2.1.requests =
      self.requests ++ [⟨«from», args.queryPhoneCount⟩] ∧
    (self.handleCall ffi isOutsideEnclave world draws (some args) requestData «from»).2.1.queryPhones.phones =
      self.queryPhones.phones ++ request.phones.iter ∧
    (self.handleCall ffi isOutsideEnclave world draws (some args) requestData «from»).2.1.queryPhones.capacity =
      self.queryPhones.capacity ∧
    (self.handleCall ffi isOutsideEnclave world draws (some args) requestData «from»).2.2 = world := by
  obtain ⟨-, phones, -⟩ := decodeRequest_ok_request ffi isOutsideEnclave world.memory decoded
  obtain ⟨-, room, -⟩ := (decodeRequest_eq_ok ffi isOutsideEnclave world.memory self args requestData request).mp decoded
  have counted : request.phones.iter.length = args.queryPhoneCount.toNat := by simp [phones]
  obtain ⟨next, extended, grown, same⟩ := self.queryPhones.extend_of_room request.phones.iter (counted ▸ room)
  have converted : usizeToU32 request.phones.iter.length = some args.queryPhoneCount := by
    rw [usizeToU32, counted, if_pos args.queryPhoneCount.toNat_lt]
    exact congrArg some (UInt32.ext (UInt32.toNat_ofNat_of_lt args.queryPhoneCount.toNat_lt))
  simp only [handleCall, decoded, absent, converted, extended, grown, same, and_self]

theorem handleCall_limited (self : SgxsdServerState) (world : World) (draws : Draws) (args : CallArgs)
    (requestData : Bytes) («from» : SgxsdMsgFrom) {request : Request} {ratelimitState : RequestRatelimitState}
    (decoded : self.decodeRequest ffi isOutsideEnclave world.memory args requestData = .ok request)
    (present : request.ratelimitState = some ratelimitState) :
    ∃ queryPhones : PhoneList, queryPhones.phones = request.phones.iter ∧
      self.handleCall ffi isOutsideEnclave world draws (some args) requestData «from» =
        (CallOutcome.ofOutcome «from» (self.updateRatelimitState ffi world draws queryPhones ratelimitState).1, self,
          (self.updateRatelimitState ffi world draws queryPhones ratelimitState).2) := by
  obtain ⟨-, phones, -⟩ := decodeRequest_ok_request ffi isOutsideEnclave world.memory decoded
  have bytes : request.phones.iter.length * 8 ≤ isizeMax := by
    have := args.queryPhoneCount.toNat_lt
    simp only [phones, List.length_map, List.length_range, isizeMax]
    omega
  obtain ⟨next, extended, grown, -⟩ := (⟨[], request.phones.iter.length, Nat.zero_le _, bytes⟩ : PhoneList).extend_of_room
    request.phones.iter (by simp [PhoneList.len])
  have built : (PhoneList.new request.phones.iter.length >>= (·.extend request.phones.iter)) = .ok next := by
    simp [PhoneList.new, bytes, extended]
  exact ⟨next, grown, by simp only [handleCall, decoded, present, built]⟩

theorem handleCall_cases (self : SgxsdServerState) (world : World) (draws : Draws) (args : Option CallArgs)
    (requestData : Bytes) («from» : SgxsdMsgFrom) :
    ((self.handleCall ffi isOutsideEnclave world draws args requestData «from»).2.1 = self ∧
      ((self.handleCall ffi isOutsideEnclave world draws args requestData «from»).1 = .ok →
        ∃ a, args = some a ∧ a.ratelimitStateUuid ≠ 0)) ∨
    (∃ a request count, args = some a ∧ a.ratelimitStateUuid = 0 ∧
      self.decodeRequest ffi isOutsideEnclave world.memory a requestData = .ok request ∧
      count.toNat = request.phones.iter.length ∧
      (self.handleCall ffi isOutsideEnclave world draws args requestData «from»).1 = .ok ∧
      (self.handleCall ffi isOutsideEnclave world draws args requestData «from»).2.1.requests =
        self.requests ++ [⟨«from», count⟩] ∧
      (self.handleCall ffi isOutsideEnclave world draws args requestData «from»).2.1.queryPhones.phones =
        self.queryPhones.phones ++ request.phones.iter ∧
      (self.handleCall ffi isOutsideEnclave world draws args requestData «from»).2.1.queryPhones.capacity =
        self.queryPhones.capacity) := by
  cases args with
  | none => exact .inl ⟨rfl, fun ok => by simp [handleCall] at ok⟩
  | some a =>
    cases decoded : self.decodeRequest ffi isOutsideEnclave world.memory a requestData with
    | err _ | panic => exact .inl ⟨by simp [handleCall, decoded], by simp [handleCall, decoded]⟩
    | ok request =>
      obtain ⟨-, phones, slice⟩ := decodeRequest_ok_request ffi isOutsideEnclave world.memory decoded
      cases present : request.ratelimitState with
      | none =>
        have zero : a.ratelimitStateUuid = 0 := by simpa [slice] using present
        obtain ⟨done, requests, grown, same, -⟩ :=
          handleCall_unlimited ffi isOutsideEnclave self world draws a requestData «from» decoded present
        exact .inr ⟨a, request, a.queryPhoneCount, rfl, zero, decoded, by simp [phones], done, requests, grown, same⟩
      | some ratelimitState =>
        have nonzero : a.ratelimitStateUuid ≠ 0 := fun zero => by
          simp [slice, (Uuid.toNonZero_eq_none _).mpr zero] at present
        obtain ⟨_, -, called⟩ :=
          handleCall_limited ffi isOutsideEnclave self world draws a requestData «from» decoded present
        exact .inl ⟨by rw [called], fun _ => ⟨a, rfl, nonzero⟩⟩

/-- `handle_call` panics on one kind of call only: one that decodes, names a nonzero rate-limit UUID
and reaches a server with rate limiting enabled, with a slab at least a MAC long whose bytes before the
MAC are fewer than four and all zero. `update` takes them for a fresh state, and `slot_count` subtracts
past zero. Every other call returns `Ok` or an error. -/
theorem call_panics_iff (self : SgxsdServerState) (world : World) (draws : Draws) (args : Option CallArgs)
    (requestData : Bytes) («from» : SgxsdMsgFrom) :
    (self.handleCall ffi isOutsideEnclave world draws args requestData «from»).1 = .panic ↔
      ∃ a, args = some a ∧ (∃ request, self.decodeRequest ffi isOutsideEnclave world.memory a requestData = .ok request) ∧
        a.ratelimitStateUuid ≠ 0 ∧ self.ratelimitStateMap = true ∧ aesGcmMacLen ≤ a.ratelimitStateSize ∧
        (readAt world.memory a.ratelimitStateData (a.ratelimitStateSize - aesGcmMacLen)).all (· == 0) = true ∧
        a.ratelimitStateSize - aesGcmMacLen < RatelimitStateData.sizeLimitDataLen := by
  cases args with
  | none => simp [handleCall]
  | some a =>
    cases decoded : self.decodeRequest ffi isOutsideEnclave world.memory a requestData with
    | err status => simp [handleCall, decoded]
    | panic => exact absurd decoded (decodeRequest_ne_panic ffi isOutsideEnclave world.memory self a requestData)
    | ok request =>
      obtain ⟨-, -, slice⟩ := decodeRequest_ok_request ffi isOutsideEnclave world.memory decoded
      cases present : request.ratelimitState with
      | none =>
        have zero : a.ratelimitStateUuid = 0 := by simpa [slice] using present
        rw [(handleCall_unlimited ffi isOutsideEnclave self world draws a requestData «from» decoded present).1]
        simp [zero]
      | some ratelimitState =>
        obtain ⟨queryPhones, -, called⟩ :=
          handleCall_limited ffi isOutsideEnclave self world draws a requestData «from» decoded present
        rw [called, CallOutcome.ofOutcome_eq_panic, updateRatelimitState_eq_panic]
        rw [present] at slice
        cases named : a.ratelimitStateUuid.toNonZero with
        | none =>
          rw [named] at slice
          cases slice
        | some key =>
          rw [named, Option.map_some'] at slice
          cases Option.some.inj slice
          have nonzero : a.ratelimitStateUuid ≠ 0 := (Uuid.isSome_toNonZero _).mp (by rw [named]; rfl)
          refine ⟨fun ⟨long, enabled, zeros, short⟩ =>
            ⟨a, rfl, ⟨request, decoded⟩, nonzero, enabled, long, zeros, short⟩, ?_⟩
          rintro ⟨_, same, -, -, enabled, long, zeros, short⟩
          cases same
          exact ⟨long, enabled, zeros, short⟩

/-- What a call returns, and what it leaves in the instance and in the map, depend on untrusted memory
only through the bytes of the two slices it names, the query and the rate-limit slab, and the call
writes the same bytes at the same places: on two worlds with the same map whose memories agree on
those bytes, it returns the same, leaves the same instance and the same map, and leaves the memories
agreeing wherever they agreed. -/
theorem call_reads_only_its_slices (self : SgxsdServerState) {world world' : World} (draws : Draws)
    (args : Option CallArgs) (requestData : Bytes) («from» : SgxsdMsgFrom) (sameMap : world'.map = world.map)
    (agree : ∀ a, args = some a →
      readAt world'.memory a.query.data a.query.size = readAt world.memory a.query.data a.query.size ∧
      readAt world'.memory a.ratelimitStateData a.ratelimitStateSize =
        readAt world.memory a.ratelimitStateData a.ratelimitStateSize) :
    (self.handleCall ffi isOutsideEnclave world' draws args requestData «from»).1 =
      (self.handleCall ffi isOutsideEnclave world draws args requestData «from»).1 ∧
    (self.handleCall ffi isOutsideEnclave world' draws args requestData «from»).2.1 =
      (self.handleCall ffi isOutsideEnclave world draws args requestData «from»).2.1 ∧
    (self.handleCall ffi isOutsideEnclave world' draws args requestData «from»).2.2.map =
      (self.handleCall ffi isOutsideEnclave world draws args requestData «from»).2.2.map ∧
    ∀ address, world'.memory address = world.memory address →
      (self.handleCall ffi isOutsideEnclave world' draws args requestData «from»).2.2.memory address =
        (self.handleCall ffi isOutsideEnclave world draws args requestData «from»).2.2.memory address := by
  cases args with
  | none => exact ⟨rfl, rfl, sameMap, fun _ agreed => agreed⟩
  | some a =>
    obtain ⟨query, slab⟩ := agree a rfl
    have decodedSame := decodeRequest_congr_memory ffi isOutsideEnclave self a requestData query
    cases decoded : self.decodeRequest ffi isOutsideEnclave world.memory a requestData with
    | err _ | panic =>
      simp only [handleCall, decodedSame, decoded, sameMap, true_and]
      exact fun _ agreed => agreed
    | ok request =>
      cases present : request.ratelimitState with
      | none =>
        simp only [handleCall, decodedSame, decoded, present]
        split
        · exact ⟨rfl, rfl, sameMap, fun _ agreed => agreed⟩
        · split <;> exact ⟨rfl, rfl, sameMap, fun _ agreed => agreed⟩
      | some ratelimitState =>
        obtain ⟨-, -, slice⟩ := decodeRequest_ok_request ffi isOutsideEnclave world.memory decoded
        obtain ⟨queryPhones, grown, called⟩ :=
          handleCall_limited ffi isOutsideEnclave self world draws a requestData «from» decoded present
        obtain ⟨queryPhones', grown', called'⟩ :=
          handleCall_limited ffi isOutsideEnclave self world' draws a requestData «from» (decodedSame.trans decoded) present
        have sliced : ratelimitState.data = ⟨a.ratelimitStateData, a.ratelimitStateSize⟩ := by
          rw [present] at slice
          cases named : a.ratelimitStateUuid.toNonZero with
          | none => simp [named] at slice
          | some key =>
            simp only [named, Option.map_some', Option.some.injEq] at slice
            rw [slice]
        obtain ⟨outcome, map, memory⟩ := updateRatelimitState_congr_memory ffi self draws queryPhones ratelimitState
          sameMap (by rw [sliced]; exact slab)
        rw [called, called', updateRatelimitState_congr_phones ffi self world' draws ratelimitState (grown'.trans grown.symm)]
        exact ⟨by rw [outcome], rfl, map, memory⟩

theorem call_reads_only_its_slices_past_query :
    ∃ initial, init (some ⟨4, 0⟩) = .ok initial ∧
      (∀ a, some (⟨⟨0, 40, ⟨[]⟩, AesGcmMac.zero⟩, List.replicate 32 0, 1, 0, 0, 0⟩ : CallArgs) = some a →
        readAt (fun address => if address < 100 then 0 else 1) a.query.data a.query.size =
          readAt (fun _ => 0) a.query.data a.query.size ∧
        readAt (fun address => if address < 100 then 0 else 1) a.ratelimitStateData a.ratelimitStateSize =
          readAt (fun _ => 0) a.ratelimitStateData a.ratelimitStateSize) ∧
      (initial.handleCall Ffi.inert (fun _ _ => true) ⟨fun address => if address < 100 then 0 else 1, ⟨[], []⟩⟩
          ⟨⟨[]⟩, none⟩ (some ⟨⟨0, 40, ⟨[]⟩, AesGcmMac.zero⟩, List.replicate 32 0, 1, 0, 0, 0⟩) (List.replicate 32 0) 7).1 =
        (initial.handleCall Ffi.inert (fun _ _ => true) ⟨fun _ => 0, ⟨[], []⟩⟩
          ⟨⟨[]⟩, none⟩ (some ⟨⟨0, 40, ⟨[]⟩, AesGcmMac.zero⟩, List.replicate 32 0, 1, 0, 0, 0⟩) (List.replicate 32 0) 7).1 ∧
      (initial.handleCall Ffi.inert (fun _ _ => true) ⟨fun address => if address < 100 then 0 else 1, ⟨[], []⟩⟩
          ⟨⟨[]⟩, none⟩ (some ⟨⟨0, 40, ⟨[]⟩, AesGcmMac.zero⟩, List.replicate 32 0, 1, 0, 0, 0⟩) (List.replicate 32 0) 7).2.1 =
        (initial.handleCall Ffi.inert (fun _ _ => true) ⟨fun _ => 0, ⟨[], []⟩⟩
          ⟨⟨[]⟩, none⟩ (some ⟨⟨0, 40, ⟨[]⟩, AesGcmMac.zero⟩, List.replicate 32 0, 1, 0, 0, 0⟩) (List.replicate 32 0) 7).2.1 :=
  have agree : ∀ a, some (⟨⟨0, 40, ⟨[]⟩, AesGcmMac.zero⟩, List.replicate 32 0, 1, 0, 0, 0⟩ : CallArgs) = some a →
      readAt (fun address => if address < 100 then 0 else 1) a.query.data a.query.size =
        readAt (fun _ => 0) a.query.data a.query.size ∧
      readAt (fun address => if address < 100 then 0 else 1) a.ratelimitStateData a.ratelimitStateSize =
        readAt (fun _ => 0) a.ratelimitStateData a.ratelimitStateSize := by
    rintro a ⟨⟩
    exact ⟨by decide, rfl⟩
  ⟨_, rfl, agree, And.imp_right And.left (call_reads_only_its_slices Ffi.inert (fun _ _ => true) _ ⟨⟨[]⟩, none⟩ _
    (List.replicate 32 0) 7 rfl agree)⟩

/-- A query that decrypts to a 32-byte nonce followed by phones, each as eight native-endian bytes,
and matches its SHA-256 commitment, with the zero UUID and phones that fit the spare capacity, is
parked: the call returns `Ok`, its caller joins the pending requests with the query's phone count,
its phones join the accumulator in order, and the world is left as it was. -/
theorem query_parked (self : SgxsdServerState) (world : World) (draws : Draws) (args : CallArgs)
    (requestData : Bytes) («from» : SgxsdMsgFrom) (nonce : Bytes) (phones : List Phone)
    (nonceSized : nonce.length = commitmentNonceSize) (keyed : requestData.length = aesGcmKeyLen)
    (outside : isOutsideEnclave args.query.data args.query.size = true)
    (opened : ffi.aesGcm.decrypt ⟨requestData⟩ args.query.iv args.query.mac
      (readAt world.memory args.query.data args.query.size) =
        .ok (nonce ++ phones.flatMap fun phone => leBytes bytesPerPhone phone.toNat))
    (committed : ffi.sha256 (nonce ++ phones.flatMap fun phone => leBytes bytesPerPhone phone.toNat) =
      args.queryCommitment)
    (counted : args.queryPhoneCount.toNat = phones.length) (nonempty : phones ≠ [])
    (room : phones.length ≤ self.queryPhones.capacity - self.queryPhones.len)
    (unlimited : args.ratelimitStateUuid = 0) :
    (self.handleCall ffi isOutsideEnclave world draws (some args) requestData «from»).1 = .ok ∧
    (self.handleCall ffi isOutsideEnclave world draws (some args) requestData «from»).2.1.requests =
      self.requests ++ [⟨«from», args.queryPhoneCount⟩] ∧
    (self.handleCall ffi isOutsideEnclave world draws (some args) requestData «from»).2.1.queryPhones.phones =
      self.queryPhones.phones ++ phones ∧
    (self.handleCall ffi isOutsideEnclave world draws (some args) requestData «from»).2.2 = world := by
  have sized : args.query.size = commitmentNonceSize + bytesPerPhone * args.queryPhoneCount.toNat := by
    rw [← length_readAt world.memory args.query.data args.query.size, ← ffi.aesGcm.length_decrypt opened]
    simp [nonceSized, counted, bytesPerPhone, Nat.mul_comm, Function.comp_def, List.sum_replicate]
  have decoded : self.decodeRequest ffi isOutsideEnclave world.memory args requestData =
      .ok ⟨⟨nonce ++ phones.flatMap fun phone => leBytes bytesPerPhone phone.toNat⟩, none⟩ :=
    (decodeRequest_eq_ok ffi isOutsideEnclave world.memory self args requestData _).mpr
      ⟨fun zero => nonempty (List.eq_nil_of_length_eq_zero (by rw [← counted, zero]; rfl)), counted ▸ room, outside,
        keyed, sized, _, opened, committed, fun nonzero => absurd unlimited nonzero,
        by rw [(Uuid.toNonZero_eq_none _).mpr unlimited]; rfl⟩
  obtain ⟨done, requests, grown, -, same⟩ :=
    handleCall_unlimited ffi isOutsideEnclave self world draws args requestData «from» decoded rfl
  rw [RequestPhoneList.iter_encoded nonceSized] at grown
  exact ⟨done, requests, grown, same⟩

theorem query_parked_after_init :
    ∃ initial, init (some ⟨4, 0⟩) = .ok initial ∧
      (initial.handleCall Ffi.inert (fun _ _ => true) ⟨fun _ => 0, ⟨[], []⟩⟩ ⟨⟨[]⟩, none⟩
          (some ⟨⟨0, 40, ⟨[]⟩, AesGcmMac.zero⟩, List.replicate 32 0, 1, 0, 0, 0⟩) (List.replicate 32 0) 7).1 = .ok ∧
      (initial.handleCall Ffi.inert (fun _ _ => true) ⟨fun _ => 0, ⟨[], []⟩⟩ ⟨⟨[]⟩, none⟩
          (some ⟨⟨0, 40, ⟨[]⟩, AesGcmMac.zero⟩, List.replicate 32 0, 1, 0, 0, 0⟩) (List.replicate 32 0) 7).2.1.requests =
        [⟨7, 1⟩] :=
  ⟨_, rfl, And.imp_right And.left (query_parked Ffi.inert (fun _ _ => true) _ ⟨fun _ => 0, ⟨[], []⟩⟩ ⟨⟨[]⟩, none⟩
    ⟨⟨0, 40, ⟨[]⟩, AesGcmMac.zero⟩, List.replicate 32 0, 1, 0, 0, 0⟩ (List.replicate 32 0) 7 (List.replicate 32 0) [0]
    rfl rfl rfl rfl rfl rfl (List.cons_ne_nil _ _) (by decide) rfl)⟩

theorem handleCall_ratelimited (self : SgxsdServerState) (world : World) (draws : Draws) (args : CallArgs)
    (requestData : Bytes) («from» : SgxsdMsgFrom) {request : Request} {ratelimitState : RequestRatelimitState}
    (decoded : self.decodeRequest ffi isOutsideEnclave world.memory args requestData = .ok request)
    (present : request.ratelimitState = some ratelimitState) (enabled : self.ratelimitStateMap = true) :
    self.handleCall ffi isOutsideEnclave world draws (some args) requestData «from» =
      let (outcome, world) := onUntrustedSlab ratelimitState.data world fun map slab =>
        ContactDiscovery.updateRatelimitState ffi map draws ratelimitState.uuid.val slab
          (request.phones.iter.map (hashQueryPhone ffi.cttk ffi.sha1))
      (CallOutcome.ofOutcome «from» outcome, self, world) := by
  obtain ⟨next, grown, called⟩ :=
    handleCall_limited ffi isOutsideEnclave self world draws args requestData «from» decoded present
  rw [called, updateRatelimitState_onUntrustedSlab ffi self world draws next ratelimitState enabled, grown]

theorem parks_of_unchanged (self : SgxsdServerState) (input : CallInput)
    (unparked : (self.call ffi isOutsideEnclave input).1 = .ok → ∃ a, input.args = some a ∧ a.ratelimitStateUuid ≠ 0) :
    self.parks ffi isOutsideEnclave input = [] := by
  unfold parks
  cases given : input.args with
  | none => rfl
  | some a =>
    refine if_neg fun ⟨done, zero⟩ => ?_
    obtain ⟨a', same, nonzero⟩ := unparked done
    cases given.symm.trans same
    exact nonzero zero

theorem call_parks {self : SgxsdServerState} {parked : List (SgxsdMsgFrom × List Phone)} (input : CallInput)
    (standing : self.Parks parked) :
    (self.call ffi isOutsideEnclave input).2.1.Parks (parked ++ self.parks ffi isOutsideEnclave input) ∧
    self.queryPhones.phones <+: (self.call ffi isOutsideEnclave input).2.1.queryPhones.phones ∧
    (self.call ffi isOutsideEnclave input).2.1.queryPhones.capacity = self.queryPhones.capacity := by
  rcases handleCall_cases ffi isOutsideEnclave self input.world input.draws input.args input.requestData input.«from»
    with ⟨same, unparked⟩ | ⟨a, request, count, given, zero, decoded, counted, done, requests, phones, capacity⟩
  · rw [parks_of_unchanged ffi isOutsideEnclave self input unparked, List.append_nil]
    simp only [call]
    rw [same]
    exact ⟨standing, List.prefix_refl _, rfl⟩
  · have parked' : self.parks ffi isOutsideEnclave input = [(input.«from», request.phones.iter)] := by
      rw [given] at done
      simp [parks, call, given, done, zero, decoded]
    rw [parked']
    simp only [call] at *
    refine ⟨⟨?_, ?_⟩, by rw [phones]; exact List.prefix_append _ _, capacity⟩
    · rw [requests]
      exact List.rel_append standing.requests (.cons ⟨rfl, counted⟩ .nil)
    · simp [phones, standing.phones]

theorem runCalls_append (self : SgxsdServerState) (earlier later : List CallInput) :
    self.runCalls ffi isOutsideEnclave (earlier ++ later) =
      (self.runCalls ffi isOutsideEnclave earlier).runCalls ffi isOutsideEnclave later := by
  induction earlier generalizing self with
  | nil => rfl
  | cons input rest ih => exact ih _

theorem runCalls_parks {self : SgxsdServerState} {parked : List (SgxsdMsgFrom × List Phone)}
    (inputs : List CallInput) (standing : self.Parks parked) :
    (self.runCalls ffi isOutsideEnclave inputs).Parks (parked ++ self.parkedCalls ffi isOutsideEnclave inputs) ∧
    self.queryPhones.phones <+: (self.runCalls ffi isOutsideEnclave inputs).queryPhones.phones ∧
    (self.runCalls ffi isOutsideEnclave inputs).queryPhones.capacity = self.queryPhones.capacity := by
  induction inputs generalizing self parked with
  | nil => exact ⟨by simpa [parkedCalls] using standing, List.prefix_refl _, rfl⟩
  | cons input rest ih =>
    obtain ⟨standing', kept, capacity⟩ := call_parks ffi isOutsideEnclave input standing
    obtain ⟨parks, kept', capacity'⟩ := ih standing'
    exact ⟨by simpa [parkedCalls, runCalls, List.append_assoc] using parks, kept.trans kept',
      capacity'.trans capacity⟩

theorem Parks.counts {server : SgxsdServerState} {parked : List (SgxsdMsgFrom × List Phone)}
    (standing : server.Parks parked) :
    server.requests.map (fun request => request.requestPhoneCount.toNat) = parked.map fun call => call.2.length := by
  rw [← List.forall₂_eq_eq_eq, List.forall₂_map_left_iff, List.forall₂_map_right_iff]
  exact standing.requests.imp fun _ _ same => same.2

theorem Parks.sum_counts {server : SgxsdServerState} {parked : List (SgxsdMsgFrom × List Phone)}
    (standing : server.Parks parked) :
    (server.requests.map fun request => request.requestPhoneCount.toNat).sum = server.queryPhones.len := by
  rw [standing.counts, PhoneList.len, standing.phones, List.length_flatten, List.map_map]
  rfl

theorem init_parks {args : Option StartArgs} {self : SgxsdServerState} (done : init args = .ok self) :
    self.Parks [] := by
  obtain ⟨-, -, requests, phones, -⟩ := init_ok done
  exact ⟨by rw [requests]; exact .nil, phones⟩

/-- What holds of an instance that `init` built and calls have run on since: the pending requests
count exactly the phones of the accumulator; these stay within the capacity `init` allocated, so that
`extend` never reallocated, and stay where they are whatever calls come next; a call that fails or
carries a rate-limit state leaves the requests and the accumulator alone; and a request that would
park has a phone count that fits a `u32`. -/
structure Invariant (start : StartArgs) (server : SgxsdServerState) : Prop where
  counted : (server.requests.map fun request => request.requestPhoneCount.toNat).sum = server.queryPhones.len
  within : server.queryPhones.len ≤ server.queryPhones.capacity
  allocated : server.queryPhones.capacity = start.maxQueryPhones
  kept : ∀ later, server.queryPhones.phones <+: (server.runCalls ffi isOutsideEnclave later).queryPhones.phones
  unchanged : ∀ world draws args requestData «from»,
    ((server.handleCall ffi isOutsideEnclave world draws args requestData «from»).1 ≠ .ok ∨
      ∃ a, args = some a ∧ a.ratelimitStateUuid ≠ 0) →
    (server.handleCall ffi isOutsideEnclave world draws args requestData «from»).2.1.requests = server.requests ∧
    (server.handleCall ffi isOutsideEnclave world draws args requestData «from»).2.1.queryPhones = server.queryPhones
  converts : ∀ memory args requestData request,
    server.decodeRequest ffi isOutsideEnclave memory args requestData = .ok request →
    request.ratelimitState = none → (usizeToU32 request.phones.iter.length).isSome

theorem handle_call_invariant (start : StartArgs) (initial : SgxsdServerState)
    (created : init (some start) = .ok initial) (inputs : List CallInput) :
    (initial.runCalls ffi isOutsideEnclave inputs).Invariant ffi isOutsideEnclave start := by
  obtain ⟨standing, -, capacity⟩ := runCalls_parks ffi isOutsideEnclave inputs (init_parks created)
  obtain ⟨_, same, -, -, allocated⟩ := init_ok created
  cases same
  refine ⟨standing.sum_counts, PhoneList.length_le _, capacity.trans allocated,
    fun later => (runCalls_parks ffi isOutsideEnclave later standing).2.1, fun world draws args requestData «from» => ?_,
    fun memory args requestData request decoded _ => ?_⟩
  · rcases handleCall_cases ffi isOutsideEnclave _ world draws args requestData «from»
      with ⟨same, -⟩ | ⟨a, -, -, given, zero, -, -, done, -⟩
    · exact fun _ => by rw [same]; exact ⟨rfl, rfl⟩
    · rintro (failed | ⟨a', given', nonzero⟩)
      · exact absurd done failed
      · cases given.symm.trans given'
        exact absurd zero nonzero
  · obtain ⟨-, phones, -⟩ := decodeRequest_ok_request ffi isOutsideEnclave memory decoded
    simp [usizeToU32, phones, args.queryPhoneCount.toNat_lt]

theorem handle_call_invariant_after_two_calls :
    ∃ initial inputs, init (some ⟨4, 0⟩) = .ok initial ∧
      inputs = [⟨some ⟨⟨0, 40, ⟨[]⟩, AesGcmMac.zero⟩, List.replicate 32 0, 1, 0, 0, 0⟩, List.replicate 32 0, 7,
          ⟨fun _ => 0, ⟨[], []⟩⟩, ⟨⟨[]⟩, none⟩⟩,
        ⟨some ⟨⟨0, 72, ⟨[]⟩, AesGcmMac.zero⟩, List.replicate 32 0, 5, 0, 0, 0⟩, List.replicate 32 0, 8,
          ⟨fun _ => 0, ⟨[], []⟩⟩, ⟨⟨[]⟩, none⟩⟩] ∧
      (initial.runCalls Ffi.inert (fun _ _ => true) inputs).requests = [⟨7, 1⟩] ∧
      (initial.runCalls Ffi.inert (fun _ _ => true) inputs).Invariant Ffi.inert (fun _ _ => true) ⟨4, 0⟩ :=
  ⟨_, _, rfl, rfl, rfl, handle_call_invariant Ffi.inert (fun _ _ => true) ⟨4, 0⟩ _ rfl _⟩

/-- On a server with rate limiting enabled, the server's update on any phones, and so the rate-limited
path of `handle_call` on the request's phones, is the free `update_ratelimit_state` on the same UUID,
the slab's bytes and the hashed phones: the same outcome, the same map, and the same new slab, written
over the old one in untrusted memory. -/
theorem update_paths_agree (self : SgxsdServerState) (world : World) (draws : Draws)
    (enabled : self.ratelimitStateMap = true) :
    (∀ queryPhones request, self.updateRatelimitState ffi world draws queryPhones request =
      onUntrustedSlab request.data world fun map slab =>
        ContactDiscovery.updateRatelimitState ffi map draws request.uuid.val slab
          (queryPhones.phones.map (hashQueryPhone ffi.cttk ffi.sha1))) ∧
    (∀ args requestData «from» request ratelimitState,
      self.decodeRequest ffi isOutsideEnclave world.memory args requestData = .ok request →
      request.ratelimitState = some ratelimitState →
      self.handleCall ffi isOutsideEnclave world draws (some args) requestData «from» =
        let (outcome, world) := onUntrustedSlab ratelimitState.data world fun map slab =>
          ContactDiscovery.updateRatelimitState ffi map draws ratelimitState.uuid.val slab
            (request.phones.iter.map (hashQueryPhone ffi.cttk ffi.sha1))
        (CallOutcome.ofOutcome «from» outcome, self, world)) :=
  ⟨fun queryPhones request => updateRatelimitState_onUntrustedSlab ffi self world draws queryPhones request enabled,
    fun _ _ «from» _ _ decoded present =>
      handleCall_ratelimited ffi isOutsideEnclave self world draws _ _ «from» decoded present enabled⟩

theorem update_paths_agree_after_init :
    ∃ server, init (some ⟨4, 1⟩) = .ok server ∧ server.ratelimitStateMap = true ∧
      (∀ queryPhones request,
        server.updateRatelimitState Ffi.inert ⟨fun _ => 0, ⟨[], []⟩⟩ ⟨⟨[]⟩, none⟩ queryPhones request =
          onUntrustedSlab request.data ⟨fun _ => 0, ⟨[], []⟩⟩ fun map slab =>
            ContactDiscovery.updateRatelimitState Ffi.inert map ⟨⟨[]⟩, none⟩ request.uuid.val slab
              (queryPhones.phones.map (hashQueryPhone Ffi.inert.cttk Ffi.inert.sha1))) ∧
      (∀ args requestData «from» request ratelimitState,
        server.decodeRequest Ffi.inert (fun _ _ => true) (fun _ => 0) args requestData = .ok request →
        request.ratelimitState = some ratelimitState →
        server.handleCall Ffi.inert (fun _ _ => true) ⟨fun _ => 0, ⟨[], []⟩⟩ ⟨⟨[]⟩, none⟩ (some args) requestData
            «from» =
          let (outcome, world) := onUntrustedSlab ratelimitState.data ⟨fun _ => 0, ⟨[], []⟩⟩ fun map slab =>
            ContactDiscovery.updateRatelimitState Ffi.inert map ⟨⟨[]⟩, none⟩ ratelimitState.uuid.val slab
              (request.phones.iter.map (hashQueryPhone Ffi.inert.cttk Ffi.inert.sha1))
          (CallOutcome.ofOutcome «from» outcome, server, world)) :=
  ⟨_, rfl, rfl, update_paths_agree Ffi.inert (fun _ _ => true) _ ⟨fun _ => 0, ⟨[], []⟩⟩ ⟨⟨[]⟩, none⟩ rfl⟩

end SgxsdServerState

end ContactDiscovery
