import ContactDiscovery.Interface

/- `SgxsdServerState` and `init`. `PhoneList` is a `Vec<Phone>`, and its model keeps what a `Vec`
   keeps: its length within its capacity, and its buffer of `capacity · 8` bytes within `isize::MAX`,
   past which `Vec::with_capacity` and `reserve` panic with a capacity overflow. `extend` from an
   iterator of known length is `reserve(n)` and then the phones in order; `reserve` keeps the buffer
   when `n` fits in the spare capacity and otherwise grows it to `max(4, 2 · capacity, len + n)`, the
   standard library's amortised growth for 8-byte elements. `requests` is a list: the capacity
   `init` asks for it is a hint that no code reads back, and a `PendingRequest` is taken to be at most
   32 bytes, so that its allocation overflows only when the phone list's does. Whether the instance
   holds a handle on the process-wide `RatelimitStateMap` is a flag: the map is the same for every
   instance (`RatelimitStateMap::global`). -/

set_option autoImplicit false

namespace ContactDiscovery

structure PhoneList where
  phones : List Phone
  capacity : Nat
  length_le : phones.length ≤ capacity
  bytes_le : capacity * 8 ≤ isizeMax

namespace PhoneList

def len (self : PhoneList) : Nat := self.phones.length

def new (capacity : Nat) : Outcome PhoneList :=
  if bytes : capacity * 8 ≤ isizeMax then .ok ⟨[], capacity, Nat.zero_le _, bytes⟩ else .panic

/-- `Vec::extend` from an exact-size iterator: `reserve(phones.len())`, then the phones. -/
def extend (self : PhoneList) (phones : List Phone) : Outcome PhoneList :=
  if room : phones.length ≤ self.capacity - self.len then
    .ok ⟨self.phones ++ phones, self.capacity, by have := self.length_le; simp only [len] at room; simp; omega,
      self.bytes_le⟩
  else
    let capacity := max 4 (max (2 * self.capacity) (self.len + phones.length))
    if bytes : capacity * 8 ≤ isizeMax then
      .ok ⟨self.phones ++ phones, capacity, by simp only [len, capacity, List.length_append]; omega, bytes⟩
    else .panic

theorem extend_of_room (self : PhoneList) (phones : List Phone) (room : phones.length ≤ self.capacity - self.len) :
    ∃ next, self.extend phones = .ok next ∧ next.phones = self.phones ++ phones ∧ next.capacity = self.capacity := by
  simp [extend, room]

theorem extend_ok {self next : PhoneList} {phones : List Phone} (done : self.extend phones = .ok next) :
    next.phones = self.phones ++ phones := by
  unfold extend at done
  split at done
  · cases done; rfl
  · dsimp only at done
    split at done
    · cases done; rfl
    · cases done

theorem new_ok {capacity : Nat} {list : PhoneList} (done : new capacity = .ok list) :
    list.phones = [] ∧ list.capacity = capacity := by
  unfold new at done
  split at done
  · cases done; exact ⟨rfl, rfl⟩
  · cases done

end PhoneList

structure PendingRequest where
  «from» : SgxsdMsgFrom
  requestPhoneCount : UInt32
deriving DecidableEq, Repr

structure SgxsdServerState where
  requests : List PendingRequest
  queryPhones : PhoneList
  ratelimitStateMap : Bool

namespace SgxsdServerState

def init (args : Option StartArgs) : Outcome SgxsdServerState := do
  let args ← Outcome.okOr .sgxErrorInvalidParameter args
  let queryPhones ← PhoneList.new args.maxQueryPhones
  pure ⟨[], queryPhones, args.maxRatelimitStates != 0⟩

theorem init_ok {args : Option StartArgs} {self : SgxsdServerState} (done : init args = .ok self) :
    ∃ start, args = some start ∧ self.requests = [] ∧ self.queryPhones.phones = [] ∧
      self.queryPhones.capacity = start.maxQueryPhones := by
  cases args with
  | none => cases done
  | some start =>
    simp only [init, Outcome.okOr_some, Outcome.ok_bind, Outcome.pure_eq] at done
    obtain ⟨queryPhones, created, ⟨⟩⟩ := Outcome.bind_eq_ok.mp done
    obtain ⟨empty, capacity⟩ := PhoneList.new_ok created
    exact ⟨start, rfl, rfl, empty, capacity⟩

end SgxsdServerState

end ContactDiscovery
