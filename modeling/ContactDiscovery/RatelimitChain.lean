import ContactDiscovery.RatelimitRun
import ContactDiscovery.RatelimitSetContract

/- A chain of successful `update` calls on one cell, each fed the previous call's output, refines
   an abstract machine that keeps a hidden limit and the set of phones seen so far. The chain's first
   call gets an all-zero slab; AES-GCM is modelled by its correctness law and the ratelimit set by its
   contract. -/

set_option autoImplicit false

namespace ContactDiscovery

/-- What a rate-limit state stands for: its hidden size limit and the phones it has seen. -/
structure RatelimitSpec where
  limit : Nat
  entries : Finset Phone

namespace RatelimitSpec

def add (spec : RatelimitSpec) (phones : List Phone) : Option RatelimitSpec :=
  if (spec.entries ∪ phones.toFinset).card < spec.limit then some ⟨spec.limit, spec.entries ∪ phones.toFinset⟩
  else none

def run : RatelimitSpec → List (List Phone) → List RatelimitSpec
  | _, [] => []
  | spec, phones :: rest =>
    match spec.add phones with
    | some next => next :: run next rest
    | none => []

theorem run_cons_of_add_some {spec next : RatelimitSpec} {phones : List Phone} (rest : List (List Phone))
    (accepted : spec.add phones = some next) : spec.run (phones :: rest) = next :: next.run rest := by
  simp only [run, accepted]

theorem run_cons_of_add_none {spec : RatelimitSpec} {phones : List Phone} (rest : List (List Phone))
    (rejected : spec.add phones = none) : spec.run (phones :: rest) = [] := by
  simp only [run, rejected]

theorem run_entries (limit : Nat) (lists : List (List Phone)) :
    ∀ (seen : Finset Phone) (index : Nat) (inRun : index < (run ⟨limit, seen⟩ lists).length),
      (run ⟨limit, seen⟩ lists)[index] = ⟨limit, seen ∪ ((lists.take (index + 1)).flatten).toFinset⟩ := by
  induction lists with
  | nil => intro seen index inRun; simp [run] at inRun
  | cons phones rest ih =>
    intro seen index inRun
    by_cases accepted : (seen ∪ phones.toFinset).card < limit
    · have step : add ⟨limit, seen⟩ phones = some ⟨limit, seen ∪ phones.toFinset⟩ := if_pos accepted
      simp only [run_cons_of_add_some rest step] at inRun ⊢
      cases index with
      | zero => simp
      | succ index =>
        rw [List.getElem_cons_succ, ih _ index (Nat.lt_of_succ_lt_succ inRun)]
        simp [Finset.union_assoc]
    · have stop : add ⟨limit, seen⟩ phones = none := if_neg accepted
      rw [run_cons_of_add_none rest stop] at inRun
      exact absurd inRun (Nat.not_lt_zero _)

end RatelimitSpec

structure Encodes (contents : Bytes → Finset Phone) (plaintext : Bytes) (spec : RatelimitSpec) : Prop where
  limit : plaintext.take 4 = leBytes 4 spec.limit
  entries : contents (plaintext.drop 4) = spec.entries
  room : spec.limit ≤ effectiveSlots (plaintext.length - 4)

namespace RatelimitCall

def added : RatelimitCall → Option Bytes
  | .add plaintext _ => some plaintext
  | _ => none

def encrypted : RatelimitCall → Option Bytes
  | .encrypt _ plaintext => some plaintext
  | _ => none

end RatelimitCall

namespace Update

def addedPlaintext (u : Update) : Option Bytes := u.calls.findSome? RatelimitCall.added

def encryptedPlaintext (u : Update) : Option Bytes := u.calls.findSome? RatelimitCall.encrypted

end Update

section Contract

variable {set : RatelimitSet} {contents : Bytes → Finset Phone}

theorem add_encodes (contract : set.Contract contents) {plaintext data : Bytes} {spec : RatelimitSpec}
    {phones : List Phone} (encoded : Encodes contents plaintext spec)
    (done : RatelimitStateData.add set plaintext phones = .ok data) :
    ∃ next, spec.add phones = some next ∧ Encodes contents data next ∧ next.entries.card < next.limit := by
  have room := encoded.room
  have fits : spec.limit < 2 ^ 32 := by simp only [effectiveSlots] at room; omega
  unfold RatelimitStateData.add at done
  split at done
  · cases done
  · rename_i long
    dsimp only at done
    split at done
    · rename_i below
      cases done
      simp only [RatelimitStateData.sizeLimitDataLen] at long below ⊢
      have limitValue : (u32FromLeBytes (plaintext.take 4)).toNat = spec.limit := by
        rw [encoded.limit, u32FromLeBytes, leValue_leBytes, Nat.mod_eq_of_lt (by norm_num; omega)]
        exact UInt32.toNat_ofNat_of_lt fits
      have counted : (contents (set.add (plaintext.drop 4) phones)).card < spec.limit := by
        rw [← contract.size, ← limitValue]
        exact below
      have grown := contract.add_card (plaintext.drop 4) phones
      have kept := contract.add_subset (plaintext.drop 4) phones
      rw [encoded.entries] at grown kept
      simp only [List.length_drop] at grown
      have all : (spec.entries ∪ phones.toFinset).card ≤ (contents (set.add (plaintext.drop 4) phones)).card := by
        omega
      have same := Finset.eq_of_subset_of_card_le kept all
      have accepted : (spec.entries ∪ phones.toFinset).card < spec.limit := by rw [← same]; exact counted
      have prefixLength : (plaintext.take 4).length = 4 := by simp; omega
      refine ⟨⟨spec.limit, spec.entries ∪ phones.toFinset⟩, if_pos accepted, ⟨?_, ?_, ?_⟩, accepted⟩
      · rw [List.take_left' prefixLength]
        exact encoded.limit
      · rw [List.drop_left' prefixLength, same]
      · rwa [List.length_append, prefixLength, set.length_add, List.length_drop, Nat.add_sub_cancel_left]
    · cases done

theorem initialise_encodes (contract : set.Contract contents) (cttk : Cttk) {length : Nat}
    {rand : Option UInt32} {plaintext : Bytes}
    (done : RatelimitStateData.initialise cttk (List.replicate length 0) rand = .ok plaintext) :
    ∃ limit, Encodes contents plaintext ⟨limit, ∅⟩ := by
  unfold RatelimitStateData.initialise at done
  simp only [List.length_replicate] at done
  split at done
  · cases done
  · rename_i slots counted
    have bounded := RatelimitStateData.slot_count_le counted
    simp only [List.length_replicate] at bounded
    unfold RatelimitStateData.setSizeLimit at done
    split at done
    · cases done
    · rename_i word
      dsimp only at done
      split at done
      · cases done
      · cases done
        have bound : (RatelimitStateData.u32SaturatingAdd (cttk.rem word.toUInt64 (slots / 2).toUInt64).toUInt32
            (slots / 2)).toNat ≤ slots.toNat - 1 := by
          rw [(RatelimitStateData.drawn_limit cttk word slots).2]
          split
          · rename_i enough
            have := Nat.mod_lt word.toNat (Nat.div_pos enough Nat.zero_lt_two)
            omega
          · omega
        refine ⟨(RatelimitStateData.u32SaturatingAdd (cttk.rem word.toUInt64 (slots / 2).toUInt64).toUInt32
          (slots / 2)).toNat, List.take_left' (length_u32ToLeBytes _), ?_, ?_⟩
        · rw [List.drop_left' (length_u32ToLeBytes _), RatelimitStateData.sizeLimitDataLen,
            List.drop_replicate, contract.zero]
        · simp only [List.length_append, length_u32ToLeBytes, RatelimitStateData.sizeLimitDataLen,
            List.length_drop, List.length_replicate, Nat.add_sub_cancel_left, effectiveSlots]
          have small := slots.toNat_lt
          omega

end Contract

namespace RatelimitState

variable (ffi : Ffi)

theorem addAndEncrypt_ok (self : RatelimitState) (plaintext : Bytes) (phones : List Phone)
    (opened : List RatelimitCall) {ciphertext : Bytes} {mac : AesGcmMac}
    (done : (self.addAndEncrypt ffi plaintext phones opened).result = .ok (ciphertext, mac)) :
    ∃ room data, RatelimitStateData.add ffi.ratelimitSet plaintext phones = .ok data ∧
      ffi.aesGcm.encrypt self.key (self.next room).getIv data = .ok (ciphertext, mac) ∧
      self.addAndEncrypt ffi plaintext phones opened =
        ⟨self.next room, .ok (ciphertext, mac), opened ++ [.add plaintext phones, .encrypt (self.next room).nonce data]⟩ := by
  rcases addAndEncrypt_spec ffi self plaintext phones opened with ⟨-, shape⟩ | ⟨room, ⟨_, shape⟩ | ⟨data, added, shape⟩⟩ <;>
    rw [shape] at done ⊢
  · cases done
  · cases done
  · have sealed := (Outcome.ofExcept_eq_ok _ _).mp done
    exact ⟨room, data, added, sealed, by rw [sealed]; rfl⟩

theorem update_of_decrypt (self : RatelimitState) (data : Bytes) (mac : AesGcmMac) (phones : List Phone)
    (rand : Option UInt32) {plaintext : Bytes} (nonzero : data.all (· == 0) = false)
    (opens : ffi.aesGcm.decrypt self.key self.getIv mac data = .ok plaintext) :
    self.update ffi data mac phones rand = self.addAndEncrypt ffi plaintext phones [.decrypt self.nonce data mac] := by
  simp [update, nonzero, opens]

theorem update_fresh_ok (self : RatelimitState) (length : Nat) (mac : AesGcmMac) (phones : List Phone)
    (rand : Option UInt32) {result : Bytes × AesGcmMac}
    (done : (self.update ffi (List.replicate length 0) mac phones rand).result = .ok result) :
    ∃ plaintext, RatelimitStateData.initialise ffi.cttk (List.replicate length 0) rand = .ok plaintext ∧
      self.update ffi (List.replicate length 0) mac phones rand = self.addAndEncrypt ffi plaintext phones [] := by
  have zero : (List.replicate length (0 : UInt8)).all (· == 0) = true := by simp
  unfold update at done ⊢
  rw [if_pos zero] at done ⊢
  cases opened : RatelimitStateData.initialise ffi.cttk (List.replicate length 0) rand with
  | ok plaintext => exact ⟨plaintext, rfl, by simp [opened]⟩
  | err status => simp [opened] at done
  | panic => simp [opened] at done

theorem sealed_step (correct : ffi.aesGcm.Correct) {contents : Bytes → Finset Phone}
    (contract : ffi.ratelimitSet.Contract contents) (self : RatelimitState) {plaintext : Bytes}
    {spec : RatelimitSpec} (phones : List Phone) (opened : List RatelimitCall)
    (encoded : Encodes contents plaintext spec) {ciphertext : Bytes} {mac : AesGcmMac}
    (done : (self.addAndEncrypt ffi plaintext phones opened).result = .ok (ciphertext, mac)) :
    ∃ room data next, spec.add phones = some next ∧ Encodes contents data next ∧ next.entries.card < next.limit ∧
      ffi.aesGcm.decrypt (self.next room).key (self.next room).getIv mac ciphertext = .ok data ∧
      self.addAndEncrypt ffi plaintext phones opened =
        ⟨self.next room, .ok (ciphertext, mac), opened ++ [.add plaintext phones, .encrypt (self.next room).nonce data]⟩ := by
  obtain ⟨room, data, added, sealed, shape⟩ := addAndEncrypt_ok ffi self plaintext phones opened done
  obtain ⟨next, accepted, encodes, below⟩ := add_encodes contract encoded added
  exact ⟨room, data, next, accepted, encodes, below, correct _ _ _ _ _ sealed, shape⟩

/-- A chain of calls on one cell: the first gets `data` and `mac`, and each later call gets the
previous call's output, with nothing else run on the cell in between. It stops after a failed call. -/
def chain : RatelimitState → Bytes → AesGcmMac → List (List Phone × Option UInt32) →
    List (RatelimitState × Update)
  | _, _, _, [] => []
  | self, data, mac, (phones, rand) :: rest =>
    let u := self.update ffi data mac phones rand
    (self, u) :: match u.result with
      | .ok (ciphertext, sealedMac) => chain u.state ciphertext sealedMac rest
      | _ => []

structure Linked (earlier later : RatelimitState × Update) : Prop where
  cell : later.1 = earlier.2.state
  decrypted : later.2.decryptedUnder = earlier.2.encryptedUnder
  decrypts : later.2.decryptedUnder.isSome
  recovered : later.2.addedPlaintext = earlier.2.encryptedPlaintext

def Simulates (contents : Bytes → Finset Phone) (step : RatelimitState × Update) (spec : RatelimitSpec) : Prop :=
  ∃ plaintext, step.2.encryptedPlaintext = some plaintext ∧ Encodes contents plaintext spec ∧
    spec.entries.card < spec.limit

def Succeeded (steps : List (RatelimitState × Update)) : Prop :=
  ∀ step ∈ steps, ∃ ciphertext mac, step.2.result = .ok (ciphertext, mac) ∧ ciphertext.all (· == 0) = false

theorem succeeded_of_all {steps : List (RatelimitState × Update)}
    (checked : steps.all (fun step => match step.2.result with
      | .ok (ciphertext, _) => !ciphertext.all (· == 0)
      | _ => false) = true) : Succeeded steps := by
  intro step member
  have sealed := List.all_eq_true.mp checked step member
  split at sealed
  · exact ⟨_, _, ‹_›, by simpa using sealed⟩
  · cases sealed

theorem length_chain (self : RatelimitState) (data : Bytes) (mac : AesGcmMac)
    (calls : List (List Phone × Option UInt32)) (succeeded : Succeeded (chain ffi self data mac calls)) :
    (chain ffi self data mac calls).length = calls.length := by
  induction calls generalizing self data mac with
  | nil => rfl
  | cons call rest ih =>
    obtain ⟨phones, rand⟩ := call
    obtain ⟨ciphertext, sealedMac, done, -⟩ := succeeded _ (List.mem_cons_self _ _)
    dsimp only at done
    simp only [chain, done] at succeeded ⊢
    rw [List.length_cons, ih _ _ _ fun step member => succeeded step (List.mem_cons_of_mem _ member)]
    rfl

theorem chain_continues (correct : ffi.aesGcm.Correct) {contents : Bytes → Finset Phone}
    (contract : ffi.ratelimitSet.Contract contents) (calls : List (List Phone × Option UInt32)) :
    ∀ (self : RatelimitState) (ciphertext : Bytes) (mac : AesGcmMac) (plaintext : Bytes) (spec : RatelimitSpec),
      ciphertext.all (· == 0) = false →
      ffi.aesGcm.decrypt self.key self.getIv mac ciphertext = .ok plaintext →
      Encodes contents plaintext spec →
      Succeeded (chain ffi self ciphertext mac calls) →
      (∀ first ∈ (chain ffi self ciphertext mac calls).head?,
        first.1 = self ∧ first.2.decryptedUnder = some self.nonce ∧ first.2.addedPlaintext = some plaintext) ∧
      (chain ffi self ciphertext mac calls).Chain' Linked ∧
      List.Forall₂ (Simulates contents) (chain ffi self ciphertext mac calls) (spec.run (calls.map Prod.fst)) := by
  induction calls with
  | nil => intros; simp [chain, RatelimitSpec.run]
  | cons call rest ih =>
    obtain ⟨phones, rand⟩ := call
    intro self ciphertext mac plaintext spec nonzero opens encoded succeeded
    have shape := update_of_decrypt ffi self ciphertext mac phones rand nonzero opens
    obtain ⟨ciphertext', mac', done, nonzero'⟩ := succeeded _ (List.mem_cons_self _ _)
    rw [shape] at done
    obtain ⟨room, data, next, accepted, encodes, below, opens', sealed⟩ :=
      sealed_step ffi correct contract self phones _ encoded done
    have unfolded : chain ffi self ciphertext mac ((phones, rand) :: rest) =
        (self, self.addAndEncrypt ffi plaintext phones [.decrypt self.nonce ciphertext mac]) ::
          chain ffi (self.next room) ciphertext' mac' rest := by
      simp only [chain, shape, sealed]
    have advanced : spec.run ((phones, rand) :: rest |>.map Prod.fst) = next :: next.run (rest.map Prod.fst) := by
      simp [RatelimitSpec.run, accepted]
    rw [unfolded] at succeeded ⊢
    rw [advanced]
    obtain ⟨head, linked, simulates⟩ := ih (self.next room) ciphertext' mac' data next nonzero' opens' encodes
      fun step member => succeeded step (List.mem_cons_of_mem _ member)
    refine ⟨?_, List.chain'_cons'.mpr ⟨fun later member => ?_, linked⟩, .cons ⟨data, ?_, encodes, below⟩ simulates⟩
    · simp [sealed, Update.decryptedUnder, Update.addedPlaintext, RatelimitCall.decryptNonce, RatelimitCall.added]
    · obtain ⟨cell, decrypted, recovered⟩ := head later member
      refine ⟨by rw [cell, sealed], ?_, by simp [decrypted], ?_⟩
      · simp [decrypted, sealed, Update.encryptedUnder, RatelimitCall.encryptNonce]
      · simp [recovered, sealed, Update.encryptedPlaintext, RatelimitCall.encrypted]
    · simp [sealed, Update.encryptedPlaintext, RatelimitCall.encrypted]

/-- What a chain's calls amount to: the first call initialises a limit and an empty set without
decrypting; consecutive calls are linked; every call's encrypted plaintext stands for the abstract
machine's state after it, which holds the initial limit and exactly the phones passed so far. -/
def Refines (contents : Bytes → Finset Phone) (steps : List (RatelimitState × Update))
    (lists : List (List Phone)) : Prop :=
  ∃ limit,
    (∀ first ∈ steps.head?, first.2.decryptedUnder = none ∧
      ∃ plaintext, first.2.addedPlaintext = some plaintext ∧ Encodes contents plaintext ⟨limit, ∅⟩) ∧
    steps.length = lists.length ∧ steps.Chain' Linked ∧
    List.Forall₂ (Simulates contents) steps (RatelimitSpec.run ⟨limit, ∅⟩ lists) ∧
    ∀ index (inRun : index < (RatelimitSpec.run ⟨limit, ∅⟩ lists).length),
      (RatelimitSpec.run ⟨limit, ∅⟩ lists)[index] = ⟨limit, ((lists.take (index + 1)).flatten).toFinset⟩

/-- A chain of successful `update` calls that starts from an all-zero slab and feeds every output
back in (none of them all zero) refines the bounded-set machine: the first call initialises a limit
and an empty set; every later call takes the decrypt path under the nonce the previous call encrypted
under and recovers the plaintext it encrypted; every call's encrypted plaintext keeps the initial
limit in bytes 0..4 and holds exactly the distinct phones passed so far, fewer than the limit. -/
theorem chain_refines (correct : ffi.aesGcm.Correct) (contents : Bytes → Finset Phone)
    (contract : ffi.ratelimitSet.Contract contents) (self : RatelimitState) (length : Nat) (mac : AesGcmMac)
    (calls : List (List Phone × Option UInt32))
    (succeeded : Succeeded (chain ffi self (List.replicate length 0) mac calls)) :
    Refines contents (chain ffi self (List.replicate length 0) mac calls) (calls.map Prod.fst) := by
  have entries : ∀ limit index (inRun : index < (RatelimitSpec.run ⟨limit, ∅⟩ (calls.map Prod.fst)).length),
      (RatelimitSpec.run ⟨limit, ∅⟩ (calls.map Prod.fst))[index] =
        ⟨limit, (((calls.map Prod.fst).take (index + 1)).flatten).toFinset⟩ := fun limit index inRun => by
    simpa using RatelimitSpec.run_entries limit _ ∅ index inRun
  have counted := (length_chain ffi self _ mac calls succeeded).trans (List.length_map calls Prod.fst).symm
  cases calls with
  | nil =>
    exact ⟨0, by simp only [chain, List.head?_nil, Option.mem_def, reduceCtorEq, IsEmpty.forall_iff, implies_true],
      rfl, by simp [chain], by simp [chain, RatelimitSpec.run], entries 0⟩
  | cons call rest =>
    obtain ⟨phones, rand⟩ := call
    obtain ⟨ciphertext, sealedMac, done, nonzero⟩ := succeeded _ (List.mem_cons_self _ _)
    obtain ⟨plaintext, initialised, shape⟩ := update_fresh_ok ffi self length mac phones rand done
    obtain ⟨limit, encoded⟩ := initialise_encodes contract ffi.cttk initialised
    rw [shape] at done
    obtain ⟨room, data, next, accepted, encodes, below, opens, sealed⟩ :=
      sealed_step ffi correct contract self phones [] encoded done
    have unfolded : chain ffi self (List.replicate length 0) mac ((phones, rand) :: rest) =
        (self, self.addAndEncrypt ffi plaintext phones []) :: chain ffi (self.next room) ciphertext sealedMac rest := by
      simp only [chain, shape, sealed]
    have advanced : RatelimitSpec.run ⟨limit, ∅⟩ ((phones, rand) :: rest |>.map Prod.fst) =
        next :: next.run (rest.map Prod.fst) :=
      RatelimitSpec.run_cons_of_add_some _ accepted
    rw [unfolded] at succeeded counted ⊢
    obtain ⟨head, linked, simulates⟩ := chain_continues ffi correct contract rest (self.next room) ciphertext
      sealedMac data next nonzero opens encodes fun step member => succeeded step (List.mem_cons_of_mem _ member)
    refine ⟨limit, ?_, counted, List.chain'_cons'.mpr ⟨fun later member => ?_, linked⟩, ?_, entries limit⟩
    · simp only [sealed, List.nil_append, List.head?_cons, Option.mem_def, Option.some.injEq, Update.decryptedUnder,
        List.findSome?_eq_none_iff, RatelimitCall.decryptNonce, Update.addedPlaintext, forall_eq', List.mem_cons,
        List.mem_singleton, forall_eq_or_imp, forall_eq, and_self, RatelimitCall.added, Option.isSome_some,
        List.findSome?_cons_of_isSome, exists_eq_left', encoded, List.not_mem_nil, false_implies, implies_true]
    · obtain ⟨cell, decrypted, recovered⟩ := head later member
      refine ⟨by rw [cell, sealed], ?_, by simp [decrypted], ?_⟩
      · simp [decrypted, sealed, Update.encryptedUnder, RatelimitCall.encryptNonce]
      · simp [recovered, sealed, Update.encryptedPlaintext, RatelimitCall.encrypted]
    · rw [advanced]
      exact .cons ⟨data, by simp [sealed, Update.encryptedPlaintext, RatelimitCall.encrypted], encodes, below⟩ simulates

theorem chain_refines_over_two_calls :
    Succeeded (chain Ffi.reference (default ⟨[]⟩) (List.replicate 68 0) AesGcmMac.zero
      [([5], some 0), ([6, 5], some 0)]) ∧
    Refines (fun slots => (RatelimitSet.entries slots).toFinset)
      (chain Ffi.reference (default ⟨[]⟩) (List.replicate 68 0) AesGcmMac.zero [([5], some 0), ([6, 5], some 0)])
      [[5], [6, 5]] :=
  have succeeded : Succeeded (chain Ffi.reference (default ⟨[]⟩) (List.replicate 68 0) AesGcmMac.zero
      [([5], some 0), ([6, 5], some 0)]) := succeeded_of_all rfl
  ⟨succeeded, chain_refines Ffi.reference AesGcm.identity_correct _ RatelimitSet.reference_contract _ 68 _ _ succeeded⟩

end RatelimitState

end ContactDiscovery
