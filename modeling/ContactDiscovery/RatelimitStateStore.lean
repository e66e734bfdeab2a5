import ContactDiscovery.HandleCall

/- The process-wide map read as a store: the state the cell of each UUID holds. `get` is invisible in
   this reading, and a write to the cell of a UUID changes the state of that UUID alone, on a map with
   one entry per UUID and a cell of its own for each entry, which `get` and every write keep. Through
   it, each entry point reads and writes the state of its own UUID only, and an update after
   `delete_ratelimit_state` does what it does on a UUID the map has never seen. Over any sequence of
   calls of the two entry points, the calls on one UUID see each other and nothing else; and a call
   of the server writes untrusted memory only inside the slab it names and changes the state of its
   own UUID alone. `RatelimitStateMap::new(capacity)` is the empty map: the capacity changes no
   content. -/

set_option autoImplicit false

namespace ContactDiscovery

namespace RatelimitStateMap

theorem mem_of_lookup {entries : List (NonZeroU128 × Nat)} {key : NonZeroU128} {cell : Nat}
    (found : entries.lookup key = some cell) : (key, cell) ∈ entries := by
  obtain ⟨_, _, rfl, _⟩ := List.lookup_eq_some_iff.mp found
  simp

theorem get_cases (self : RatelimitStateMap) (key : NonZeroU128) :
    (self.hashMap.lookup key = some (self.get key).2 ∧ (self.get key).1 = self) ∨
    (self.hashMap.lookup key = none ∧ (self.get key).2 = self.cells.length ∧
      (self.get key).1 = ⟨self.hashMap ++ [(key, self.cells.length)], self.cells ++ [none]⟩) := by
  unfold get
  cases self.hashMap.lookup key with
  | some cell => exact .inl ⟨rfl, rfl⟩
  | none => exact .inr ⟨rfl, rfl, rfl⟩

theorem lookup_get (self : RatelimitStateMap) (key other : NonZeroU128) (cell : Nat) :
    (self.get key).1.hashMap.lookup other = some cell ↔
      self.hashMap.lookup other = some cell ∨
        (self.hashMap.lookup other = none ∧ other = key ∧ cell = (self.get key).2) := by
  rcases self.get_cases key with ⟨found, same⟩ | ⟨missing, fresh, grown⟩
  · rw [same]
    refine ⟨.inl, ?_⟩
    rintro (kept | ⟨missing', rfl, -⟩)
    · exact kept
    · rw [missing'] at found
      cases found
  · rw [grown, fresh, List.lookup_append]
    cases self.hashMap.lookup other with
    | some _ => simp
    | none =>
      by_cases same : other = key
      · subst same
        simp [eq_comm]
      · simp [List.lookup_cons, beq_false_of_ne same, same]

theorem lookup_get_self (self : RatelimitStateMap) (key : NonZeroU128) :
    (self.get key).1.hashMap.lookup key = some (self.get key).2 := by
  rcases self.get_cases key with ⟨found, same⟩ | ⟨missing, fresh, grown⟩
  · rw [same, found]
  · exact (self.lookup_get key key _).mpr (.inr ⟨missing, rfl, rfl⟩)

@[simp] theorem cell_get (self : RatelimitStateMap) (key : NonZeroU128) (index : Nat) :
    (self.get key).1.cell index = self.cell index := by
  rcases self.get_cases key with ⟨-, same⟩ | ⟨-, -, grown⟩
  · rw [same]
  · rw [grown]
    unfold cell
    by_cases inside : index < self.cells.length
    · exact List.getD_append _ _ _ _ inside
    · simp only [List.getD_eq_getElem?_getD, List.getElem?_append_right (Nat.le_of_not_lt inside),
        List.getElem?_eq_none (Nat.le_of_not_lt inside)]
      generalize index - self.cells.length = past
      cases past <;> rfl

@[simp] theorem hashMap_setCell (self : RatelimitStateMap) (index : Nat) (value : Option RatelimitState) :
    (self.setCell index value).hashMap = self.hashMap := rfl

@[simp] theorem length_cells_setCell (self : RatelimitStateMap) (index : Nat) (value : Option RatelimitState) :
    (self.setCell index value).cells.length = self.cells.length := List.length_set ..

theorem cell_setCell_self (self : RatelimitStateMap) {index : Nat} (inside : index < self.cells.length)
    (value : Option RatelimitState) : (self.setCell index value).cell index = value := by
  simp [setCell, cell, inside]

theorem cell_setCell_of_ne (self : RatelimitStateMap) {index other : Nat} (apart : index ≠ other)
    (value : Option RatelimitState) : (self.setCell index value).cell other = self.cell other := by
  simp [setCell, cell, apart]

def new : RatelimitStateMap := ⟨[], []⟩

def states (self : RatelimitStateMap) (key : NonZeroU128) : Option RatelimitState :=
  match self.hashMap.lookup key with
  | some cell => self.cell cell
  | none => none

structure WellFormed (map : RatelimitStateMap) : Prop where
  keys_nodup : (map.hashMap.map Prod.fst).Nodup
  cells_indexed : map.hashMap.map Prod.snd = List.range map.cells.length

namespace WellFormed

variable {self : RatelimitStateMap}

theorem lt_of_lookup (wf : self.WellFormed) {key : NonZeroU128} {cell : Nat}
    (found : self.hashMap.lookup key = some cell) : cell < self.cells.length := by
  have member := List.mem_map_of_mem Prod.snd (mem_of_lookup found)
  rw [wf.cells_indexed] at member
  exact List.mem_range.mp member

theorem key_eq_of_lookup (wf : self.WellFormed) {key other : NonZeroU128} {cell : Nat}
    (found : self.hashMap.lookup key = some cell) (found' : self.hashMap.lookup other = some cell) :
    key = other := by
  have distinct : (self.hashMap.map Prod.snd).Nodup := wf.cells_indexed ▸ List.nodup_range _
  exact congrArg Prod.fst (List.inj_on_of_nodup_map distinct (mem_of_lookup found) (mem_of_lookup found') rfl)

theorem get (wf : self.WellFormed) (key : NonZeroU128) : (self.get key).1.WellFormed := by
  rcases self.get_cases key with ⟨-, same⟩ | ⟨missing, -, grown⟩
  · rw [same]
    exact wf
  · rw [grown]
    constructor
    · simp only [List.map_append, List.map_cons, List.map_nil, List.nodup_append, List.nodup_cons,
        List.not_mem_nil, not_false_eq_true, List.nodup_nil, and_self, List.disjoint_singleton, true_and]
      refine ⟨wf.keys_nodup, fun member => ?_⟩
      obtain ⟨⟨_, _⟩, entry, rfl⟩ := List.mem_map.mp member
      simpa using List.lookup_eq_none_iff.mp missing _ entry
    · simp [wf.cells_indexed, List.range_succ]

theorem setCell (wf : self.WellFormed) (index : Nat) (value : Option RatelimitState) :
    (self.setCell index value).WellFormed :=
  ⟨wf.keys_nodup, by rw [hashMap_setCell, length_cells_setCell]; exact wf.cells_indexed⟩

end WellFormed

theorem wellFormed_new : new.WellFormed := ⟨List.nodup_nil, rfl⟩

@[simp] theorem states_new (key : NonZeroU128) : new.states key = none := rfl

@[simp] theorem states_get (self : RatelimitStateMap) (key : NonZeroU128) : (self.get key).1.states = self.states := by
  funext other
  unfold states
  cases old : self.hashMap.lookup other with
  | some cell =>
    rw [(self.lookup_get key other cell).mpr (.inl old)]
    exact cell_get self key cell
  | none =>
    cases found : (self.get key).1.hashMap.lookup other with
    | none => rfl
    | some cell =>
      obtain found' | ⟨missing, rfl, rfl⟩ := (self.lookup_get key other cell).mp found
      · rw [old] at found'
        cases found'
      · rcases self.get_cases other with ⟨found', -⟩ | ⟨-, fresh, -⟩
        · rw [missing] at found'
          cases found'
        · show (self.get other).1.cell (self.get other).2 = none
          rw [cell_get, fresh]
          simp [cell]

theorem cell_get_self (self : RatelimitStateMap) (key : NonZeroU128) :
    (self.get key).1.cell (self.get key).2 = self.states key := by
  rw [← states_get self key]
  simp only [states, lookup_get_self]

theorem states_setCell {self : RatelimitStateMap} (wf : self.WellFormed) {key : NonZeroU128} {cell : Nat}
    (found : self.hashMap.lookup key = some cell) (value : Option RatelimitState) :
    (self.setCell cell value).states = Function.update self.states key value := by
  funext other
  by_cases same : other = key
  · subst same
    simp only [states, hashMap_setCell, found, Function.update_same]
    exact cell_setCell_self _ (wf.lt_of_lookup found) value
  · rw [Function.update_noteq same]
    simp only [states, hashMap_setCell]
    cases found' : self.hashMap.lookup other with
    | none => rfl
    | some cell' =>
      exact cell_setCell_of_ne _ (fun shared => same (wf.key_eq_of_lookup (shared ▸ found') found)) value

theorem states_setCell_get {self : RatelimitStateMap} (wf : self.WellFormed) (key : NonZeroU128)
    (value : Option RatelimitState) :
    ((self.get key).1.setCell (self.get key).2 value).states = Function.update self.states key value := by
  rw [states_setCell (wf.get key) (self.lookup_get_self key), states_get]

end RatelimitStateMap

open RatelimitStateMap

variable (ffi : Ffi) {map : RatelimitStateMap} {draws : Draws} {uuid : Uuid} {slab : Bytes} {phones : List Phone}
  {key : NonZeroU128}

theorem updateRatelimitState_map_cases (map : RatelimitStateMap) (draws : Draws) (uuid : Uuid) (slab : Bytes)
    (phones : List Phone) :
    (updateRatelimitState ffi map draws uuid slab phones).2.2 = map ∨
      ∃ key locked, uuid.toNonZero = some key ∧
        (updateRatelimitState ffi map draws uuid slab phones).2.2 = (map.get key).1.setCell (map.get key).2 locked := by
  unfold updateRatelimitState
  split
  · exact .inl rfl
  · rename_i key nonzero
    split
    · exact .inl rfl
    · rename_i length _
      split
      · exact .inl rfl
      · rename_i mac _
        refine .inr ⟨key, (RatelimitState.updateLocked ffi draws ((map.get key).1.cell (map.get key).2)
          (slab.take length) mac phones).1, nonzero, ?_⟩
        dsimp only
        split <;> (try split) <;> rfl

theorem wellFormed_updateRatelimitState (wf : map.WellFormed) :
    (updateRatelimitState ffi map draws uuid slab phones).2.2.WellFormed := by
  rcases updateRatelimitState_map_cases ffi map draws uuid slab phones with same | ⟨key, locked, -, written⟩
  · rw [same]
    exact wf
  · rw [written]
    exact (wf.get key).setCell _ locked

theorem states_updateRatelimitState_of_ne (wf : map.WellFormed) (nonzero : uuid.toNonZero = some key)
    {other : NonZeroU128} (apart : other ≠ key) :
    (updateRatelimitState ffi map draws uuid slab phones).2.2.states other = map.states other := by
  rcases updateRatelimitState_map_cases ffi map draws uuid slab phones with same | ⟨key', locked, named, written⟩
  · rw [same]
  · obtain rfl : key' = key := Option.some.inj (named.symm.trans nonzero)
    rw [written, states_setCell_get wf, Function.update_noteq apart]

theorem updateRatelimitState_congr {map' : RatelimitStateMap} (wf : map.WellFormed) (wf' : map'.WellFormed)
    (nonzero : uuid.toNonZero = some key) (same : map.states key = map'.states key) :
    (updateRatelimitState ffi map draws uuid slab phones).1 = (updateRatelimitState ffi map' draws uuid slab phones).1 ∧
    (updateRatelimitState ffi map draws uuid slab phones).2.1 =
      (updateRatelimitState ffi map' draws uuid slab phones).2.1 ∧
    (updateRatelimitState ffi map draws uuid slab phones).2.2.states key =
      (updateRatelimitState ffi map' draws uuid slab phones).2.2.states key := by
  unfold updateRatelimitState
  rw [nonzero]
  dsimp only
  split
  · exact ⟨rfl, rfl, same⟩
  · split
    · exact ⟨rfl, rfl, same⟩
    · simp only [cell_get_self, same]
      split <;> (try split) <;>
        exact ⟨rfl, rfl, by rw [states_setCell_get wf, states_setCell_get wf', Function.update_same, Function.update_same]⟩

theorem states_deleteRatelimitState (wf : map.WellFormed) (nonzero : uuid.toNonZero = some key) :
    (deleteRatelimitState map uuid).2.states = Function.update map.states key none := by
  simp only [deleteRatelimitState, nonzero]
  exact states_setCell_get wf key none

theorem wellFormed_deleteRatelimitState (wf : map.WellFormed) : (deleteRatelimitState map uuid).2.WellFormed := by
  unfold deleteRatelimitState
  split
  · exact wf
  · exact (wf.get _).setCell _ none

/-- After `delete_ratelimit_state(uuid)`, `update_ratelimit_state` on the same UUID returns, and writes
into the slab, what it does on a map that has never seen the UUID, and of all the UUIDs' states it
changes only that UUID's, to the state it leaves there. -/
theorem update_after_delete (wf : map.WellFormed) (nonzero : uuid.toNonZero = some key) :
    (updateRatelimitState ffi (deleteRatelimitState map uuid).2 draws uuid slab phones).1 =
      (updateRatelimitState ffi new draws uuid slab phones).1 ∧
    (updateRatelimitState ffi (deleteRatelimitState map uuid).2 draws uuid slab phones).2.1 =
      (updateRatelimitState ffi new draws uuid slab phones).2.1 ∧
    (updateRatelimitState ffi (deleteRatelimitState map uuid).2 draws uuid slab phones).2.2.states =
      Function.update map.states key ((updateRatelimitState ffi new draws uuid slab phones).2.2.states key) := by
  have deleted : (deleteRatelimitState map uuid).2.WellFormed := wellFormed_deleteRatelimitState wf
  have cleared : (deleteRatelimitState map uuid).2.states key = new.states key := by
    rw [states_deleteRatelimitState wf nonzero, Function.update_same, states_new]
  refine ⟨(updateRatelimitState_congr ffi deleted wellFormed_new nonzero cleared).1,
    (updateRatelimitState_congr ffi deleted wellFormed_new nonzero cleared).2.1, funext fun other => ?_⟩
  by_cases same : other = key
  · subst same
    rw [Function.update_same]
    exact (updateRatelimitState_congr ffi deleted wellFormed_new nonzero cleared).2.2
  · rw [Function.update_noteq same, states_updateRatelimitState_of_ne ffi deleted nonzero same,
      states_deleteRatelimitState wf nonzero, Function.update_noteq same]

theorem update_after_delete_once_updated :
    (updateRatelimitState Ffi.inert new ⟨⟨[]⟩, some 5⟩ 1 (List.replicate 52 0) []).2.2.WellFormed ∧ (1 : Uuid).toNonZero = some ⟨1, by decide⟩ ∧
    (updateRatelimitState Ffi.inert (deleteRatelimitState (updateRatelimitState Ffi.inert new ⟨⟨[]⟩, some 5⟩ 1 (List.replicate 52 0) []).2.2 1).2 ⟨⟨[1]⟩, some 7⟩ 1 (List.replicate 52 0) [3]).1 = (updateRatelimitState Ffi.inert new ⟨⟨[1]⟩, some 7⟩ 1 (List.replicate 52 0) [3]).1 ∧
    (updateRatelimitState Ffi.inert (deleteRatelimitState (updateRatelimitState Ffi.inert new ⟨⟨[]⟩, some 5⟩ 1 (List.replicate 52 0) []).2.2 1).2 ⟨⟨[1]⟩, some 7⟩ 1 (List.replicate 52 0) [3]).2.1 = (updateRatelimitState Ffi.inert new ⟨⟨[1]⟩, some 7⟩ 1 (List.replicate 52 0) [3]).2.1 ∧
    (updateRatelimitState Ffi.inert (deleteRatelimitState (updateRatelimitState Ffi.inert new ⟨⟨[]⟩, some 5⟩ 1 (List.replicate 52 0) []).2.2 1).2 ⟨⟨[1]⟩, some 7⟩ 1 (List.replicate 52 0) [3]).2.2.states =
      Function.update (updateRatelimitState Ffi.inert new ⟨⟨[]⟩, some 5⟩ 1 (List.replicate 52 0) []).2.2.states ⟨1, by decide⟩ ((updateRatelimitState Ffi.inert new ⟨⟨[1]⟩, some 7⟩ 1 (List.replicate 52 0) [3]).2.2.states ⟨1, by decide⟩) :=
  ⟨wellFormed_updateRatelimitState Ffi.inert wellFormed_new, Uuid.toNonZero_val ⟨1, by decide⟩,
    update_after_delete Ffi.inert (wellFormed_updateRatelimitState Ffi.inert wellFormed_new)
      (Uuid.toNonZero_val ⟨1, by decide⟩)⟩

/-! ## Sequences of calls on the two entry points -/

theorem Uuid.val_of_toNonZero {uuid : Uuid} {key : NonZeroU128} (named : uuid.toNonZero = some key) : key.val = uuid := by
  unfold Uuid.toNonZero at named
  split at named
  · cases named
  · cases named
    rfl

inductive StoreCall where
  | update (draws : Draws) (ratelimitStateUuid : Uuid) (encryptedRatelimitState : Bytes) (queryPhones : List Phone)
  | delete (ratelimitStateUuid : Uuid)

namespace StoreCall

def ratelimitStateUuid : StoreCall → Uuid
  | update _ named _ _ => named
  | delete named => named

def apply (map : RatelimitStateMap) : StoreCall → (Outcome Unit × Option Bytes) × RatelimitStateMap
  | update draws named slab phones =>
    (((updateRatelimitState ffi map draws named slab phones).1, some (updateRatelimitState ffi map draws named slab phones).2.1),
      (updateRatelimitState ffi map draws named slab phones).2.2)
  | delete named => (((deleteRatelimitState map named).1, none), (deleteRatelimitState map named).2)

theorem wellFormed_apply (wf : map.WellFormed) (call : StoreCall) : (call.apply ffi map).2.WellFormed := by
  cases call with
  | update => exact wellFormed_updateRatelimitState ffi wf
  | delete => exact wellFormed_deleteRatelimitState wf

theorem states_apply_of_ne (wf : map.WellFormed) {call : StoreCall} (apart : call.ratelimitStateUuid ≠ key.val) :
    (call.apply ffi map).2.states key = map.states key := by
  cases named : call.ratelimitStateUuid.toNonZero with
  | none =>
    cases call <;> simp only [ratelimitStateUuid] at named <;>
      simp only [apply, updateRatelimitState, deleteRatelimitState, named]
  | some other =>
    have distinct : key ≠ other := fun same => apart (same ▸ Uuid.val_of_toNonZero named).symm
    cases call <;> simp only [ratelimitStateUuid] at named <;> dsimp only [apply]
    · exact states_updateRatelimitState_of_ne ffi wf named distinct
    · rw [states_deleteRatelimitState wf named, Function.update_noteq distinct]

theorem apply_congr {map' : RatelimitStateMap} (wf : map.WellFormed) (wf' : map'.WellFormed) {call : StoreCall}
    (named : call.ratelimitStateUuid = key.val) (same : map.states key = map'.states key) :
    (call.apply ffi map).1 = (call.apply ffi map').1 ∧
      (call.apply ffi map).2.states key = (call.apply ffi map').2.states key := by
  have nonzero : call.ratelimitStateUuid.toNonZero = some key := by rw [named, Uuid.toNonZero_val]
  cases call <;> simp only [ratelimitStateUuid] at nonzero <;> dsimp only [apply]
  · obtain ⟨outcome, slab, state⟩ := updateRatelimitState_congr ffi wf wf' nonzero same
    exact ⟨by rw [outcome, slab], state⟩
  · rw [states_deleteRatelimitState wf nonzero, states_deleteRatelimitState wf' nonzero]
    simp only [deleteRatelimitState, nonzero, Function.update_same, and_self]

end StoreCall

def runStore (map : RatelimitStateMap) : List StoreCall → List (Outcome Unit × Option Bytes) × RatelimitStateMap
  | [] => ([], map)
  | call :: rest =>
    ((call.apply ffi map).1 :: (runStore (call.apply ffi map).2 rest).1, (runStore (call.apply ffi map).2 rest).2)

/-- Whatever calls on other UUIDs are made between them, the calls on one UUID return, and leave in
their slabs, what they would if they were the only calls made, on any map where the UUID holds the
same state; and they leave the UUID in the same state. -/
theorem uuids_isolated (key : NonZeroU128) :
    ∀ (calls : List StoreCall) {map map' : RatelimitStateMap}, map.WellFormed → map'.WellFormed →
      map.states key = map'.states key →
      ((calls.zip (runStore ffi map calls).1).filter fun pair => pair.1.ratelimitStateUuid = key.val).map Prod.snd =
        (runStore ffi map' (calls.filter (·.ratelimitStateUuid = key.val))).1 ∧
      (runStore ffi map calls).2.states key =
        (runStore ffi map' (calls.filter (·.ratelimitStateUuid = key.val))).2.states key
  | [], _, _, _, _, same => ⟨rfl, same⟩
  | call :: rest, map, map', wf, wf', same => by
    by_cases named : call.ratelimitStateUuid = key.val
    · obtain ⟨reply, state⟩ := StoreCall.apply_congr ffi wf wf' named same
      obtain ⟨replies, final⟩ := uuids_isolated key rest (StoreCall.wellFormed_apply ffi wf call)
        (StoreCall.wellFormed_apply ffi wf' call) state
      simp only [runStore, List.zip_cons_cons, List.filter_cons, named, decide_True, if_true, List.map_cons, reply,
        replies, final, and_self]
    · obtain ⟨replies, final⟩ := uuids_isolated key rest (StoreCall.wellFormed_apply ffi wf call) wf'
        ((StoreCall.states_apply_of_ne ffi wf named).trans same)
      simp only [runStore, List.zip_cons_cons, List.filter_cons, named, decide_False, Bool.false_eq_true, if_false, replies, final,
        and_self]

theorem uuids_isolated_across_delete :
    (updateRatelimitState Ffi.inert new ⟨⟨[]⟩, some 5⟩ 2 (List.replicate 52 0) []).2.2.WellFormed ∧ new.WellFormed ∧
    (updateRatelimitState Ffi.inert new ⟨⟨[]⟩, some 5⟩ 2 (List.replicate 52 0) []).2.2.states ⟨1, by decide⟩ =
      new.states ⟨1, by decide⟩ ∧
    ((([.delete 2, .update ⟨⟨[1]⟩, some 7⟩ 1 (List.replicate 52 0) [3]] : List StoreCall).zip
        (runStore Ffi.inert (updateRatelimitState Ffi.inert new ⟨⟨[]⟩, some 5⟩ 2 (List.replicate 52 0) []).2.2
          [.delete 2, .update ⟨⟨[1]⟩, some 7⟩ 1 (List.replicate 52 0) [3]]).1).filter
        fun pair => pair.1.ratelimitStateUuid = 1).map Prod.snd =
      (runStore Ffi.inert new ([.delete 2, .update ⟨⟨[1]⟩, some 7⟩ 1 (List.replicate 52 0) [3]].filter
        (·.ratelimitStateUuid = 1))).1 ∧
    (runStore Ffi.inert (updateRatelimitState Ffi.inert new ⟨⟨[]⟩, some 5⟩ 2 (List.replicate 52 0) []).2.2
        [.delete 2, .update ⟨⟨[1]⟩, some 7⟩ 1 (List.replicate 52 0) [3]]).2.states ⟨1, by decide⟩ =
      (runStore Ffi.inert new ([.delete 2, .update ⟨⟨[1]⟩, some 7⟩ 1 (List.replicate 52 0) [3]].filter
        (·.ratelimitStateUuid = 1))).2.states ⟨1, by decide⟩ :=
  ⟨wellFormed_updateRatelimitState Ffi.inert wellFormed_new, wellFormed_new,
    states_updateRatelimitState_of_ne Ffi.inert wellFormed_new (Uuid.toNonZero_val ⟨2, by decide⟩) (by decide),
    uuids_isolated Ffi.inert ⟨1, by decide⟩ _ (wellFormed_updateRatelimitState Ffi.inert wellFormed_new) wellFormed_new
      (states_updateRatelimitState_of_ne Ffi.inert wellFormed_new (Uuid.toNonZero_val ⟨2, by decide⟩) (by decide))⟩

/-! ## What one call of the server touches -/

/-- A call of the server either leaves the world as it was, or is a rate-limited call on a server with
rate limiting enabled: it writes untrusted memory only inside the slab it names, changes the state of
no UUID but the one it names, and keeps the map well formed. -/
theorem call_frame (isOutsideEnclave : Nat → Nat → Bool) (self : SgxsdServerState) (world : World) (draws : Draws)
    (args : Option CallArgs) (requestData : Bytes) («from» : SgxsdMsgFrom) (wf : world.map.WellFormed) :
    (self.handleCall ffi isOutsideEnclave world draws args requestData «from»).2.2 = world ∨
    ∃ a key, args = some a ∧ a.ratelimitStateUuid.toNonZero = some key ∧ self.ratelimitStateMap = true ∧
      (∀ address, address < a.ratelimitStateData ∨ a.ratelimitStateData + a.ratelimitStateSize ≤ address →
        (self.handleCall ffi isOutsideEnclave world draws args requestData «from»).2.2.memory address =
          world.memory address) ∧
      (∀ other, other ≠ key →
        (self.handleCall ffi isOutsideEnclave world draws args requestData «from»).2.2.map.states other =
          world.map.states other) ∧
      (self.handleCall ffi isOutsideEnclave world draws args requestData «from»).2.2.map.WellFormed := by
  cases args with
  | none => exact .inl rfl
  | some a =>
    cases decoded : self.decodeRequest ffi isOutsideEnclave world.memory a requestData with
    | err _ | panic => exact .inl (by simp [SgxsdServerState.handleCall, decoded])
    | ok request =>
      obtain ⟨-, -, slice⟩ := SgxsdServerState.decodeRequest_ok_request ffi isOutsideEnclave world.memory decoded
      cases present : request.ratelimitState with
      | none =>
        exact .inl (SgxsdServerState.handleCall_unlimited ffi isOutsideEnclave self world draws a requestData «from»
          decoded present).2.2.2.2
      | some ratelimitState =>
        obtain ⟨queryPhones, -, called⟩ :=
          SgxsdServerState.handleCall_limited ffi isOutsideEnclave self world draws a requestData «from» decoded present
        rw [called]
        rw [present] at slice
        cases named : a.ratelimitStateUuid.toNonZero with
        | none =>
          rw [named] at slice
          cases slice
        | some key =>
          rw [named, Option.map_some'] at slice
          cases Option.some.inj slice
          rcases SgxsdServerState.updateRatelimitState_world_cases ffi self world draws queryPhones
              ⟨key, ⟨a.ratelimitStateData, a.ratelimitStateSize⟩⟩ with same | ⟨enabled, locked, written⟩
          · exact .inl same
          refine .inr ⟨a, key, rfl, named, enabled, fun address outside => ?_, ?_⟩
          · rcases SgxsdServerState.updateRatelimitState_cases ffi self world draws queryPhones
              ⟨key, ⟨a.ratelimitStateData, a.ratelimitStateSize⟩⟩ with
              ⟨_, ciphertext, mac, -, -, -, -, sized, -, written⟩ | ⟨-, same, -⟩
            · dsimp only at sized
              rw [written]
              exact writeAt_of_outside _ _ _ (by simp only [List.length_append, mac.length_data]; omega)
            · rw [same]
          · rw [written, states_setCell_get wf]
            exact ⟨fun _ apart => Function.update_noteq apart _ _, (wf.get key).setCell _ locked⟩

theorem call_frame_rate_limited :
    ∃ initial map args, SgxsdServerState.init (some ⟨4, 1⟩) = .ok initial ∧
      map = (updateRatelimitState Ffi.inert new ⟨⟨[]⟩, some 5⟩ 2 (List.replicate 52 0) []).2.2 ∧ map.WellFormed ∧
      (map.states ⟨2, by decide⟩).isSome ∧
      args = some ⟨⟨0, 40, ⟨[]⟩, AesGcmMac.zero⟩, List.replicate 32 0, 1, 1, 100, 52⟩ ∧
      ((initial.handleCall Ffi.inert (fun _ _ => true) ⟨fun _ => 0, map⟩ ⟨⟨[]⟩, some 5⟩ args (List.replicate 32 0)
        7).2.2.map.states ⟨1, by decide⟩).isSome ∧
      ((initial.handleCall Ffi.inert (fun _ _ => true) ⟨fun _ => 0, map⟩ ⟨⟨[]⟩, some 5⟩ args (List.replicate 32 0) 7).2.2 =
          ⟨fun _ => 0, map⟩ ∨
        ∃ a key, args = some a ∧ a.ratelimitStateUuid.toNonZero = some key ∧ initial.ratelimitStateMap = true ∧
          (∀ address, address < a.ratelimitStateData ∨ a.ratelimitStateData + a.ratelimitStateSize ≤ address →
            (initial.handleCall Ffi.inert (fun _ _ => true) ⟨fun _ => 0, map⟩ ⟨⟨[]⟩, some 5⟩ args (List.replicate 32 0)
              7).2.2.memory address = 0) ∧
          (∀ other, other ≠ key →
            (initial.handleCall Ffi.inert (fun _ _ => true) ⟨fun _ => 0, map⟩ ⟨⟨[]⟩, some 5⟩ args (List.replicate 32 0)
              7).2.2.map.states other = map.states other) ∧
          (initial.handleCall Ffi.inert (fun _ _ => true) ⟨fun _ => 0, map⟩ ⟨⟨[]⟩, some 5⟩ args (List.replicate 32 0)
            7).2.2.map.WellFormed) :=
  ⟨_, _, _, rfl, rfl, wellFormed_updateRatelimitState Ffi.inert wellFormed_new, rfl, rfl, rfl,
    call_frame Ffi.inert (fun _ _ => true) _ _ ⟨⟨[]⟩, some 5⟩ _ (List.replicate 32 0) 7
      (wellFormed_updateRatelimitState Ffi.inert wellFormed_new)⟩

end ContactDiscovery
