import ContactDiscovery.RatelimitStateStore

/- The process-wide `RatelimitStateMap` under concurrent calls. Every call that reaches the map, the
   free functions `update_ratelimit_state` and `delete_ratelimit_state` and the rate-limited path of
   `handle_call` of any server instance, goes through `RatelimitStateMap::global`, so there is one map.
   Each call runs `get` and then a critical section under the mutex of the cell `get` returned. A
   thread runs one call; the calls a thread makes one after another are threads scheduled one after
   another. In `get` the thread takes the map's upgradeable read guard, looks the UUID up, and when it
   is missing upgrades the guard and runs `or_insert_with`, which looks it up again; it drops the
   guard when it returns the cell. No caller takes a plain read guard, so the upgrade never waits. The
   thread then locks the cell, reads it, and when it unlocks writes what its critical section makes of
   what it read: between the two only the holder touches the cell, which the invariant below shows.
   Each spin lock is a word naming its holder, and a step of a thread that has to wait changes
   nothing; a schedule is any list of thread numbers. `acquired`, the order in which threads took a
   cell's mutex, is a ghost field. The lookup by key stands for `from_key_hashed_nocheck` with a hash
   from `self.hasher`, the clone of the map's own hasher. -/

set_option autoImplicit false

namespace ContactDiscovery

/-- One call's use of the map: the UUID it passes to `get`, and what its critical section makes of the
cell's contents. -/
structure MapCall where
  key : NonZeroU128
  critical : Option RatelimitState → Option RatelimitState

def MapCall.update (ffi : Ffi) (draws : Draws) (data : Bytes) (mac : AesGcmMac) (phones : List Phone)
    (key : NonZeroU128) : MapCall :=
  ⟨key, fun cell => (RatelimitState.updateLocked ffi draws cell data mac phones).1⟩

def MapCall.delete (key : NonZeroU128) : MapCall := ⟨key, fun _ => none⟩

/-- Where a thread is in its call: before `upgradeable_read`; holding the map's guard, before the
lookup (`reading`) or, upgraded, before `or_insert_with` (`inserting`); with the cell `get` returned,
before `lock`; holding the cell's mutex, with what it read from the cell; or done. -/
inductive Pc where
  | start
  | reading
  | inserting
  | locking (cell : Nat)
  | holding (cell : Nat) (seen : Option RatelimitState)
  | finished

namespace Pc

def insideGet : Pc → Bool
  | .reading | .inserting => true
  | _ => false

def handle : Pc → Option Nat
  | .locking cell | .holding cell _ => some cell
  | _ => none

def held : Pc → Option Nat
  | .holding cell _ => some cell
  | _ => none

def pastLock : Pc → Bool
  | .holding _ _ | .finished => true
  | _ => false

theorem handle_of_held {pc : Pc} {cell : Nat} (holds : pc.held = some cell) : pc.handle = some cell := by
  cases pc <;> simp_all [held, handle]

end Pc

structure Machine where
  map : RatelimitStateMap
  mapGuard : Option Nat
  cellGuard : Nat → Option Nat
  pc : Nat → Pc
  acquired : List Nat

namespace Machine

def init : Machine := ⟨⟨[], []⟩, none, fun _ => none, fun _ => .start, []⟩

variable (calls : Nat → MapCall)

def step (s : Machine) (t : Nat) : Machine :=
  match s.pc t with
  | .start =>
    match s.mapGuard with
    | none => { s with mapGuard := some t, pc := Function.update s.pc t .reading }
    | some _ => s
  | .reading =>
    match s.map.hashMap.lookup (calls t).key with
    | some cell => { s with mapGuard := none, pc := Function.update s.pc t (.locking cell) }
    | none => { s with pc := Function.update s.pc t .inserting }
  | .inserting =>
    { s with map := (s.map.get (calls t).key).1, mapGuard := none,
             pc := Function.update s.pc t (.locking (s.map.get (calls t).key).2) }
  | .locking cell =>
    match s.cellGuard cell with
    | none => { s with cellGuard := Function.update s.cellGuard cell (some t),
                       pc := Function.update s.pc t (.holding cell (s.map.cell cell)),
                       acquired := s.acquired ++ [t] }
    | some _ => s
  | .holding cell seen =>
    { s with map := s.map.setCell cell ((calls t).critical seen),
             cellGuard := Function.update s.cellGuard cell none,
             pc := Function.update s.pc t .finished }
  | .finished => s

def run (s : Machine) (schedule : List Nat) : Machine := schedule.foldl (step calls) s

def log (s : Machine) (key : NonZeroU128) : List Nat := s.acquired.filter fun t => (calls t).key = key

end Machine

def applyAll (calls : Nat → MapCall) (log : List Nat) : Option RatelimitState :=
  log.foldl (fun cell t => (calls t).critical cell) none

@[simp] theorem applyAll_nil (calls : Nat → MapCall) : applyAll calls [] = none := rfl

@[simp] theorem applyAll_concat (calls : Nat → MapCall) (log : List Nat) (t : Nat) :
    applyAll calls (log ++ [t]) = (calls t).critical (applyAll calls log) := by
  simp [applyAll]

namespace Machine

variable {calls : Nat → MapCall}

variable (calls) in
/-- What holds of every machine a schedule reaches from `init`. -/
structure Invariant (s : Machine) : Prop where
  keys_nodup : (s.map.hashMap.map Prod.fst).Nodup
  cells_indexed : s.map.hashMap.map Prod.snd = List.range s.map.cells.length
  map_guard : ∀ t, s.mapGuard = some t ↔ (s.pc t).insideGet = true
  cell_guard : ∀ t cell, s.cellGuard cell = some t ↔ (s.pc t).held = some cell
  handle : ∀ t cell, (s.pc t).handle = some cell → s.map.hashMap.lookup (calls t).key = some cell
  logged : ∀ t, t ∈ s.acquired ↔ (s.pc t).pastLock = true
  acquired_nodup : s.acquired.Nodup
  unlogged : ∀ key, s.map.hashMap.lookup key = none → s.log calls key = []
  history : ∀ key cell, s.map.hashMap.lookup key = some cell →
    (s.cellGuard cell = none ∧ s.map.cell cell = applyAll calls (s.log calls key)) ∨
    (∃ t pre, s.cellGuard cell = some t ∧ s.log calls key = pre ++ [t] ∧
      s.pc t = .holding cell (applyAll calls pre) ∧ s.map.cell cell = applyAll calls pre)

namespace Invariant

variable {s : Machine}

theorem wellFormed (inv : s.Invariant calls) : s.map.WellFormed := ⟨inv.keys_nodup, inv.cells_indexed⟩

theorem lt_of_lookup (inv : s.Invariant calls) {key : NonZeroU128} {cell : Nat}
    (found : s.map.hashMap.lookup key = some cell) : cell < s.map.cells.length :=
  inv.wellFormed.lt_of_lookup found

theorem key_eq_of_lookup (inv : s.Invariant calls) {key other : NonZeroU128} {cell : Nat}
    (found : s.map.hashMap.lookup key = some cell) (found' : s.map.hashMap.lookup other = some cell) :
    key = other :=
  inv.wellFormed.key_eq_of_lookup found found'

theorem cellGuard_of_le (inv : s.Invariant calls) {cell : Nat} (past : s.map.cells.length ≤ cell) :
    s.cellGuard cell = none := by
  cases guard : s.cellGuard cell with
  | none => rfl
  | some t =>
    have found := inv.handle t cell (Pc.handle_of_held ((inv.cell_guard t cell).mp guard))
    exact absurd (inv.lt_of_lookup found) (Nat.not_lt.mpr past)

theorem map_guard_update (inv : s.Invariant calls) {t : Nat} {next : Pc} {guard : Option Nat}
    (after : guard = some t ↔ next.insideGet = true)
    (others : ∀ u, u ≠ t → (guard = some u ↔ s.mapGuard = some u)) (u : Nat) :
    guard = some u ↔ (Function.update s.pc t next u).insideGet = true := by
  by_cases same : u = t
  · subst same
    rw [Function.update_same, after]
  · rw [Function.update_noteq same, others u same]
    exact inv.map_guard u

theorem cell_guard_update (inv : s.Invariant calls) {t cell : Nat} {next : Pc} {guard : Option Nat}
    (before : ∀ other, (s.pc t).held = some other → other = cell)
    (after : ∀ other, next.held = some other ↔ other = cell ∧ guard = some t)
    (owner : ∀ u, guard = some u → u = t) (alone : ∀ u, s.cellGuard cell = some u → u = t) (u other : Nat) :
    Function.update s.cellGuard cell guard other = some u ↔ (Function.update s.pc t next u).held = some other := by
  by_cases same : u = t
  · subst same
    rw [Function.update_same, after]
    by_cases here : other = cell
    · subst here
      simp
    · rw [Function.update_noteq here, inv.cell_guard]
      exact ⟨fun held => absurd (before other held) here, fun both => absurd both.1 here⟩
  · rw [Function.update_noteq same]
    by_cases here : other = cell
    · subst here
      rw [Function.update_same, ← inv.cell_guard]
      exact ⟨fun named => absurd (owner u named) same, fun named => absurd (alone u named) same⟩
    · rw [Function.update_noteq here]
      exact inv.cell_guard u other

theorem in_get {s' : Machine} {t : Nat} (inv : s.Invariant calls) (map : s'.map = s.map)
    (cellGuard : s'.cellGuard = s.cellGuard) (acquired : s'.acquired = s.acquired)
    (others : ∀ u, u ≠ t → s'.pc u = s.pc u) (before : (s.pc t).handle = none)
    (beforeLock : (s.pc t).pastLock = false) (after : (s'.pc t).held = none)
    (afterLock : (s'.pc t).pastLock = false)
    (returned : ∀ cell, (s'.pc t).handle = some cell → s.map.hashMap.lookup (calls t).key = some cell)
    (mapGuard : ∀ u, s'.mapGuard = some u ↔ (s'.pc u).insideGet = true) : s'.Invariant calls := by
  have heldBefore : (s.pc t).held = none := by
    cases holds : (s.pc t).held with
    | none => rfl
    | some cell => rw [Pc.handle_of_held holds] at before; cases before
  have log : ∀ key, s'.log calls key = s.log calls key := fun key => by simp only [log, acquired]
  refine ⟨by rw [map]; exact inv.keys_nodup, by rw [map]; exact inv.cells_indexed, mapGuard,
    fun u cell => ?_, fun u cell => ?_, fun u => ?_, by rw [acquired]; exact inv.acquired_nodup,
    fun key => ?_, fun key cell => ?_⟩
  · rw [cellGuard, inv.cell_guard]
    by_cases same : u = t
    · subst same
      rw [after, heldBefore]
    · rw [others u same]
  · rw [map]
    by_cases same : u = t
    · subst same
      exact returned cell
    · rw [others u same]
      exact inv.handle u cell
  · rw [acquired, inv.logged]
    by_cases same : u = t
    · subst same
      rw [afterLock, beforeLock]
    · rw [others u same]
  · rw [map, log]
    exact inv.unlogged key
  · rw [map, log, cellGuard]
    intro found
    rcases inv.history key cell found with free | ⟨u, pre, holder, logged, holding, value⟩
    · exact .inl free
    · have apart : u ≠ t := by
        rintro rfl
        rw [holding] at heldBefore
        cases heldBefore
      exact .inr ⟨u, pre, holder, logged, (others u apart).trans holding, value⟩

theorem grow (inv : s.Invariant calls) (key : NonZeroU128) :
    Invariant calls { s with map := (s.map.get key).1 } := by
  have kept : ∀ other cell, s.map.hashMap.lookup other = some cell →
      (s.map.get key).1.hashMap.lookup other = some cell :=
    fun other cell found => (s.map.lookup_get key other cell).mpr (.inl found)
  have grown := inv.wellFormed.get key
  refine ⟨grown.keys_nodup, grown.cells_indexed, inv.map_guard, inv.cell_guard,
    fun t cell returned => kept _ _ (inv.handle t cell returned), inv.logged, inv.acquired_nodup,
    fun other missing => inv.unlogged other ?_, fun other cell found => ?_⟩
  · cases old : s.map.hashMap.lookup other with
    | none => rfl
    | some cell => rw [kept other cell old] at missing; cases missing
  · rcases (s.map.lookup_get key other cell).mp found with old | ⟨missing, rfl, rfl⟩
    · simp only [RatelimitStateMap.cell_get]
      exact inv.history other cell old
    · have fresh : (s.map.get other).2 = s.map.cells.length := by
        rcases s.map.get_cases other with ⟨found', -⟩ | ⟨-, fresh, -⟩
        · rw [missing] at found'
          cases found'
        · exact fresh
      refine .inl ⟨fresh ▸ inv.cellGuard_of_le (le_refl _), ?_⟩
      show (s.map.get other).1.cell (s.map.get other).2 = applyAll calls (s.log calls other)
      rw [inv.unlogged other missing, RatelimitStateMap.cell_get, fresh]
      simp [RatelimitStateMap.cell]

theorem acquire {s' : Machine} {t cell : Nat} (inv : s.Invariant calls) (waiting : s.pc t = .locking cell)
    (free : s.cellGuard cell = none) (map : s'.map = s.map) (mapGuard : s'.mapGuard = s.mapGuard)
    (cellGuard : s'.cellGuard = Function.update s.cellGuard cell (some t))
    (pc : s'.pc = Function.update s.pc t (.holding cell (s.map.cell cell)))
    (acquired : s'.acquired = s.acquired ++ [t]) : s'.Invariant calls := by
  have found : s.map.hashMap.lookup (calls t).key = some cell := inv.handle t cell (by rw [waiting]; rfl)
  have fresh : t ∉ s.acquired := by
    rw [inv.logged, waiting]
    exact Bool.false_ne_true
  have log : ∀ key, s'.log calls key = s.log calls key ++ if (calls t).key = key then [t] else [] := by
    intro key
    by_cases same : (calls t).key = key <;> simp [Machine.log, acquired, List.filter_append, same]
  refine ⟨by rw [map]; exact inv.keys_nodup, by rw [map]; exact inv.cells_indexed, fun u => ?_,
    fun u other => ?_, fun u other => ?_, fun u => ?_, ?_, fun key missing => ?_, fun key other found' => ?_⟩
  · rw [mapGuard, pc]
    exact inv.map_guard_update (by rw [inv.map_guard, waiting]; rfl) (fun _ _ => Iff.rfl) u
  · rw [cellGuard, pc]
    refine inv.cell_guard_update (fun other held => ?_) (fun other => ?_)
      (fun _ named => (Option.some.inj named).symm) (fun u held => ?_) u other
    · rw [waiting] at held
      cases held
    · simp [Pc.held, eq_comm]
    · rw [free] at held
      cases held
  · rw [pc, map]
    by_cases same : u = t
    · subst same
      rw [Function.update_same]
      rintro ⟨⟩
      exact found
    · rw [Function.update_noteq same]
      exact inv.handle u other
  · rw [acquired, pc, List.mem_append, List.mem_singleton]
    by_cases same : u = t
    · subst same
      simp [Pc.pastLock]
    · rw [Function.update_noteq same, or_iff_left same]
      exact inv.logged u
  · rw [acquired]
    exact List.nodup_append.mpr ⟨inv.acquired_nodup, List.nodup_singleton t, List.disjoint_singleton.mpr fresh⟩
  · rw [map] at missing
    have apart : (calls t).key ≠ key := fun same => by rw [same, missing] at found; cases found
    rw [log, if_neg apart, List.append_nil]
    exact inv.unlogged key missing
  · rw [map] at found'
    rw [log, cellGuard, map, pc]
    by_cases here : other = cell
    · subst here
      have same := inv.key_eq_of_lookup found found'
      rcases inv.history key other found' with ⟨-, value⟩ | ⟨u, -, holder, -⟩
      · refine .inr ⟨t, s.log calls key, Function.update_same .., by rw [if_pos same], ?_, value⟩
        rw [Function.update_same, value]
      · rw [free] at holder
        cases holder
    · have apart : (calls t).key ≠ key := fun same => here (Option.some.inj (found'.symm.trans (same ▸ found)))
      rw [Function.update_noteq here, if_neg apart, List.append_nil]
      rcases inv.history key other found' with kept | ⟨u, pre, holder, logged, holding, value⟩
      · exact .inl kept
      · have other' : u ≠ t := by
          rintro rfl
          rw [waiting] at holding
          cases holding
        exact .inr ⟨u, pre, holder, logged, by rw [Function.update_noteq other']; exact holding, value⟩

theorem release {s' : Machine} {t cell : Nat} {seen : Option RatelimitState} (inv : s.Invariant calls)
    (holding : s.pc t = .holding cell seen) (map : s'.map = s.map.setCell cell ((calls t).critical seen))
    (mapGuard : s'.mapGuard = s.mapGuard) (cellGuard : s'.cellGuard = Function.update s.cellGuard cell none)
    (pc : s'.pc = Function.update s.pc t .finished) (acquired : s'.acquired = s.acquired) :
    s'.Invariant calls := by
  have found : s.map.hashMap.lookup (calls t).key = some cell := inv.handle t cell (by rw [holding]; rfl)
  have holder : s.cellGuard cell = some t := (inv.cell_guard t cell).mpr (by rw [holding]; rfl)
  have log : ∀ key, s'.log calls key = s.log calls key := fun key => by simp only [Machine.log, acquired]
  refine ⟨by rw [map]; exact inv.keys_nodup, by rw [map, RatelimitStateMap.length_cells_setCell]; exact inv.cells_indexed,
    fun u => ?_, fun u other => ?_, fun u other => ?_, fun u => ?_, by rw [acquired]; exact inv.acquired_nodup,
    fun key missing => ?_, fun key other found' => ?_⟩
  · rw [mapGuard, pc]
    exact inv.map_guard_update (by rw [inv.map_guard, holding]; rfl) (fun _ _ => Iff.rfl) u
  · rw [cellGuard, pc]
    refine inv.cell_guard_update (fun other held => ?_) (fun other => ?_) (fun _ named => Option.noConfusion named)
      (fun u held => Option.some.inj (held.symm.trans holder)) u other
    · rw [holding] at held
      exact (Option.some.inj held).symm
    · simp [Pc.held]
  · rw [pc, map, RatelimitStateMap.hashMap_setCell]
    by_cases same : u = t
    · subst same
      rw [Function.update_same]
      rintro ⟨⟩
    · rw [Function.update_noteq same]
      exact inv.handle u other
  · rw [acquired, pc, inv.logged]
    by_cases same : u = t
    · subst same
      rw [Function.update_same, holding]
      rfl
    · rw [Function.update_noteq same]
  · rw [map, RatelimitStateMap.hashMap_setCell] at missing
    rw [log]
    exact inv.unlogged key missing
  · rw [map, RatelimitStateMap.hashMap_setCell] at found'
    rw [log, cellGuard, map, pc]
    by_cases here : other = cell
    · subst here
      rcases inv.history key other found' with ⟨free, -⟩ | ⟨u, pre, holder', logged, holding', -⟩
      · rw [free] at holder
        cases holder
      · obtain rfl : u = t := Option.some.inj (holder'.symm.trans holder)
        rw [holding] at holding'
        cases holding'
        refine .inl ⟨Function.update_same .., ?_⟩
        rw [RatelimitStateMap.cell_setCell_self _ (inv.lt_of_lookup found), logged, applyAll_concat]
    · rw [Function.update_noteq here, RatelimitStateMap.cell_setCell_of_ne _ (Ne.symm here)]
      rcases inv.history key other found' with kept | ⟨u, pre, holder', logged, holding', value⟩
      · exact .inl kept
      · have apart : u ≠ t := by
          rintro rfl
          rw [holding] at holding'
          cases holding'
          exact here rfl
        exact .inr ⟨u, pre, holder', logged, by rw [Function.update_noteq apart]; exact holding', value⟩

theorem init : Machine.init.Invariant calls := by
  refine ⟨List.nodup_nil, rfl, fun _ => ?_, fun _ _ => ?_, fun _ _ returned => ?_, fun _ => ?_, List.nodup_nil,
    fun _ _ => rfl, fun _ _ found => ?_⟩
  · simp [Machine.init, Pc.insideGet]
  · simp [Machine.init, Pc.held]
  · cases returned
  · simp [Machine.init, Pc.pastLock]
  · cases found

theorem step (inv : s.Invariant calls) (t : Nat) : (s.step calls t).Invariant calls := by
  cases place : s.pc t with
  | start =>
    cases guard : s.mapGuard with
    | none =>
      simp only [Machine.step, place, guard]
      exact inv.in_get rfl rfl rfl (fun u apart => Function.update_noteq apart _ _) (by rw [place]; rfl)
        (by rw [place]; rfl) (by simp [Pc.held]) (by simp [Pc.pastLock]) (by simp [Pc.handle])
        (inv.map_guard_update (by simp [Pc.insideGet]) fun u apart => by simp [guard, Ne.symm apart])
    | some _ =>
      simp only [Machine.step, place, guard]
      exact inv
  | reading =>
    have inside : s.mapGuard = some t := (inv.map_guard t).mpr (by rw [place]; rfl)
    cases found : s.map.hashMap.lookup (calls t).key with
    | some cell =>
      simp only [Machine.step, place, found]
      refine inv.in_get rfl rfl rfl (fun u apart => Function.update_noteq apart _ _) (by rw [place]; rfl)
        (by rw [place]; rfl) (by simp [Pc.held]) (by simp [Pc.pastLock]) (fun _ returned => ?_)
        (inv.map_guard_update (by simp [Pc.insideGet]) fun u apart => by simp [inside, Ne.symm apart])
      simp only [Function.update_same, Pc.handle, Option.some.injEq] at returned
      rw [← returned, found]
    | none =>
      simp only [Machine.step, place, found]
      exact inv.in_get rfl rfl rfl (fun u apart => Function.update_noteq apart _ _) (by rw [place]; rfl)
        (by rw [place]; rfl) (by simp [Pc.held]) (by simp [Pc.pastLock]) (by simp [Pc.handle])
        (inv.map_guard_update (by simp [inside, Pc.insideGet]) fun _ _ => Iff.rfl)
  | inserting =>
    have inside : s.mapGuard = some t := (inv.map_guard t).mpr (by rw [place]; rfl)
    simp only [Machine.step, place]
    refine (inv.grow (calls t).key).in_get rfl rfl rfl (fun u apart => Function.update_noteq apart _ _)
      (by show (s.pc t).handle = none; rw [place]; rfl) (by show (s.pc t).pastLock = false; rw [place]; rfl)
      (by simp [Pc.held]) (by simp [Pc.pastLock]) (fun _ returned => ?_)
      (inv.map_guard_update (by simp [Pc.insideGet]) fun u apart => by simp [inside, Ne.symm apart])
    simp only [Function.update_same, Pc.handle, Option.some.injEq] at returned
    rw [← returned]
    exact s.map.lookup_get_self (calls t).key
  | locking cell =>
    cases guard : s.cellGuard cell with
    | none =>
      simp only [Machine.step, place, guard]
      exact inv.acquire place guard rfl rfl rfl rfl rfl
    | some _ =>
      simp only [Machine.step, place, guard]
      exact inv
  | holding cell seen =>
    simp only [Machine.step, place]
    exact inv.release place rfl rfl rfl rfl rfl
  | finished =>
    simp only [Machine.step, place]
    exact inv

theorem run (inv : s.Invariant calls) (schedule : List Nat) : (s.run calls schedule).Invariant calls := by
  induction schedule generalizing s with
  | nil => exact inv
  | cons t rest ih => exact ih (inv.step t)

end Invariant

variable (calls)

theorem run_append (s : Machine) (schedule later : List Nat) :
    s.run calls (schedule ++ later) = (s.run calls schedule).run calls later :=
  List.foldl_append _ _ _ _

theorem step_grows (s : Machine) (t : Nat) :
    s.map.hashMap <+: (s.step calls t).map.hashMap ∧ s.acquired <+: (s.step calls t).acquired := by
  cases place : s.pc t with
  | start => cases guard : s.mapGuard <;> simp [step, place, guard]
  | reading => cases found : s.map.hashMap.lookup (calls t).key <;> simp [step, place, found]
  | inserting =>
    simp only [step, place, List.prefix_refl, and_true]
    rcases s.map.get_cases (calls t).key with ⟨-, same⟩ | ⟨-, -, grown⟩
    · rw [same]
    · rw [grown]
      exact List.prefix_append _ _
  | locking cell => cases guard : s.cellGuard cell <;> simp [step, place, guard]
  | holding cell seen => simp [step, place]
  | finished => simp [step, place]

theorem run_grows (s : Machine) (schedule : List Nat) :
    s.map.hashMap <+: (s.run calls schedule).map.hashMap ∧ s.acquired <+: (s.run calls schedule).acquired := by
  induction schedule generalizing s with
  | nil => exact ⟨List.prefix_refl _, List.prefix_refl _⟩
  | cons t rest ih =>
    have first := s.step_grows calls t
    have later := ih (s.step calls t)
    exact ⟨first.1.trans later.1, first.2.trans later.2⟩

/-- Under every schedule of any calls on the map: at most one entry per UUID, entries that are never
removed, the cell of a thread's UUID as the handle `get` gives it, and each cell holding the critical
sections applied one at a time in the order of mutex acquisition, with the holder, if any, working on
what the sections before it left. -/
theorem map_calls_serialised (schedule later : List Nat) :
    (init.run calls schedule).Invariant calls ∧
      (init.run calls schedule).map.hashMap <+: (init.run calls (schedule ++ later)).map.hashMap ∧
      (init.run calls schedule).acquired <+: (init.run calls (schedule ++ later)).acquired := by
  rw [run_append]
  exact ⟨Invariant.init.run schedule, run_grows calls _ later⟩

example : (init.run (fun _ => MapCall.delete ⟨1, by decide⟩) [0, 1, 0, 1, 0, 1, 0, 1, 0, 1]).acquired = [0, 1] ∧
    (init.run (fun _ => MapCall.delete ⟨1, by decide⟩) [0, 1, 0, 1, 0, 1, 0, 1, 0, 1]).map.hashMap.length = 1 := by
  decide

theorem run_alone (s : Machine) (t : Nat) (start : s.pc t = .start) (free : s.mapGuard = none)
    (unheld : ∀ cell, s.cellGuard cell = none) :
    (s.run calls [t, t, t, t, t]).map =
      (s.map.get (calls t).key).1.setCell (s.map.get (calls t).key).2
        ((calls t).critical ((s.map.get (calls t).key).1.cell (s.map.get (calls t).key).2)) := by
  rcases s.map.get_cases (calls t).key with ⟨found, same⟩ | ⟨missing, -, -⟩
  · simp [run, step, start, free, found, unheld, same]
  · simp [run, step, start, free, missing, unheld]

theorem updateRatelimitState_run_alone (ffi : Ffi) (draws : Draws) (uuid : Uuid) (slab : Bytes)
    (phones : List Phone) (key : NonZeroU128) (mac : AesGcmMac) (nonzero : uuid.toNonZero = some key)
    (long : aesGcmMacLen ≤ slab.length) (opened : AesGcmMac.ofBytes (slab.drop (slab.length - aesGcmMacLen)) = some mac)
    (s : Machine) (t : Nat)
    (called : calls t = MapCall.update ffi draws (slab.take (slab.length - aesGcmMacLen)) mac phones key)
    (start : s.pc t = .start) (free : s.mapGuard = none) (unheld : ∀ cell, s.cellGuard cell = none) :
    (s.run calls [t, t, t, t, t]).map = (updateRatelimitState ffi s.map draws uuid slab phones).2.2 := by
  rw [run_alone calls s t start free unheld, called]
  simp only [updateRatelimitState, nonzero, checked_sub_eq_some _ _ long, opened, MapCall.update]
  split <;> (try split) <;> rfl

theorem deleteRatelimitState_run_alone (uuid : Uuid) (key : NonZeroU128) (nonzero : uuid.toNonZero = some key)
    (s : Machine) (t : Nat) (called : calls t = MapCall.delete key) (start : s.pc t = .start)
    (free : s.mapGuard = none) (unheld : ∀ cell, s.cellGuard cell = none) :
    (s.run calls [t, t, t, t, t]).map = (deleteRatelimitState s.map uuid).2 := by
  rw [run_alone calls s t start free unheld, called]
  simp [deleteRatelimitState, nonzero, MapCall.delete]

theorem serverUpdateRatelimitState_run_alone (ffi : Ffi) (server : SgxsdServerState) (world : World)
    (draws : Draws) (queryPhones : PhoneList) (request : RequestRatelimitState) (length : Nat) (data macData : Bytes)
    (mac : AesGcmMac) (sized : checkedSub request.data.size aesGcmMacLen = some length)
    (read : request.data.readBytes world.memory length = .ok data)
    (macRead : (request.data.offset length).readBytes world.memory aesGcmMacLen = .ok macData)
    (opened : AesGcmMac.ofBytes macData = some mac) (enabled : server.ratelimitStateMap = true)
    (s : Machine) (t : Nat) (mapped : world.map = s.map)
    (called : calls t =
      MapCall.update ffi draws data mac (queryPhones.phones.map (hashQueryPhone ffi.cttk ffi.sha1)) request.uuid)
    (start : s.pc t = .start) (free : s.mapGuard = none) (unheld : ∀ cell, s.cellGuard cell = none) :
    (s.run calls [t, t, t, t, t]).map = (server.updateRatelimitState ffi world draws queryPhones request).2.map := by
  rw [run_alone calls s t start free unheld, called, ← mapped]
  simp only [SgxsdServerState.updateRatelimitState, sized, read, macRead, opened, enabled, Bool.not_true,
    Bool.false_eq_true, if_false, MapCall.update]
  repeat' split
  all_goals rfl

end Machine

end ContactDiscovery
