import ContactDiscovery.RatelimitStateMapInterleaving

/- What every run of the interleaved map guarantees beyond its invariant.

   Progress. A thread waits only at two places: before the map's upgradeable read guard, held by the
   thread inside `get`, and before a cell's mutex, held by the thread in that cell's critical section.
   Neither holder waits: inside `get` a thread takes no other lock (the upgrade never waits), and a
   critical section takes none. So waits never chain, some thread can always move while any is
   unfinished, and every call ends after at most five of its own steps.

   Agreement with the sequential map. When no thread is inside a critical section, the map holds, for
   every UUID, the state the calls that took a mutex leave when each runs alone, `get` and then its
   critical section, in the order they took it. -/

set_option autoImplicit false

namespace ContactDiscovery

namespace Pc

def remaining : Pc → Nat
  | .start => 5
  | .reading => 4
  | .inserting => 3
  | .locking _ => 2
  | .holding _ _ => 1
  | .finished => 0

theorem remaining_le_five (pc : Pc) : pc.remaining ≤ 5 := by
  cases pc <;> simp [remaining]

end Pc

/-- A call run alone on the map: `get`, then its critical section on the cell `get` hands back, which
is what `Machine.run_alone` shows a thread alone does. -/
def MapCall.apply (map : RatelimitStateMap) (call : MapCall) : RatelimitStateMap :=
  (map.get call.key).1.setCell (map.get call.key).2 (call.critical ((map.get call.key).1.cell (map.get call.key).2))

namespace MapCall

variable {map : RatelimitStateMap}

theorem wellFormed_apply (wf : map.WellFormed) (call : MapCall) : (apply map call).WellFormed :=
  (wf.get call.key).setCell _ _

theorem states_apply (wf : map.WellFormed) (call : MapCall) :
    (apply map call).states = Function.update map.states call.key (call.critical (map.states call.key)) := by
  rw [apply, RatelimitStateMap.cell_get_self, RatelimitStateMap.states_setCell_get wf]

theorem states_foldl_apply (calls : List MapCall) (wf : map.WellFormed) (key : NonZeroU128) :
    (calls.foldl apply map).states key =
      (calls.filter fun call => call.key = key).foldl (fun cell call => call.critical cell) (map.states key) := by
  induction calls generalizing map with
  | nil => rfl
  | cons call rest ih =>
    rw [List.foldl_cons, ih (wellFormed_apply wf call), states_apply wf]
    by_cases same : call.key = key
    · subst same
      rw [Function.update_same, List.filter_cons_of_pos (by simp), List.foldl_cons]
    · rw [List.filter_cons_of_neg (by simpa using same), Function.update_noteq (Ne.symm same)]

end MapCall

namespace Machine

variable (calls : Nat → MapCall)

def waitsFor (s : Machine) (t : Nat) : Option Nat :=
  match s.pc t with
  | .start => s.mapGuard
  | .locking cell => s.cellGuard cell
  | _ => none

def remaining (s : Machine) (threads : List Nat) : Nat := (threads.map fun t => (s.pc t).remaining).sum

theorem step_pc_of_ne (s : Machine) {t u : Nat} (apart : u ≠ t) : (s.step calls t).pc u = s.pc u := by
  cases place : s.pc t with
  | start => cases guard : s.mapGuard <;> simp [step, place, guard, Function.update_noteq apart]
  | reading => cases found : s.map.hashMap.lookup (calls t).key <;> simp [step, place, found, Function.update_noteq apart]
  | inserting => simp [step, place, Function.update_noteq apart]
  | locking cell => cases guard : s.cellGuard cell <;> simp [step, place, guard, Function.update_noteq apart]
  | holding cell seen => simp [step, place, Function.update_noteq apart]
  | finished => simp [step, place]

theorem run_pc_of_not_mem (s : Machine) {t : Nat} {schedule : List Nat} (absent : t ∉ schedule) :
    (s.run calls schedule).pc t = s.pc t := by
  induction schedule generalizing s with
  | nil => rfl
  | cons u rest ih =>
    rw [List.mem_cons, not_or] at absent
    exact (ih _ absent.2).trans (step_pc_of_ne calls s absent.1)

theorem remaining_step_lt (s : Machine) {t : Nat} (free : s.waitsFor t = none) (active : s.pc t ≠ .finished) :
    ((s.step calls t).pc t).remaining < (s.pc t).remaining := by
  cases place : s.pc t with
  | start =>
    simp only [waitsFor, place] at free
    simp [step, place, free, Pc.remaining]
  | reading => cases found : s.map.hashMap.lookup (calls t).key <;> simp [step, place, found, Pc.remaining]
  | inserting => simp [step, place, Pc.remaining]
  | locking cell =>
    simp only [waitsFor, place] at free
    simp [step, place, free, Pc.remaining]
  | holding cell seen => simp [step, place, Pc.remaining]
  | finished => exact absurd place active

variable {calls} {s : Machine}

theorem Invariant.holder_free (inv : s.Invariant calls) {t u : Nat} (waiting : s.waitsFor t = some u) :
    s.waitsFor u = none ∧ s.pc u ≠ .start ∧ s.pc u ≠ .finished := by
  unfold waitsFor at waiting
  split at waiting
  · have inside := (inv.map_guard u).mp waiting
    cases place : s.pc u <;> simp_all [Pc.insideGet, waitsFor]
  · have held := (inv.cell_guard u _).mp waiting
    cases place : s.pc u <;> simp_all [Pc.held, waitsFor]
  · cases waiting

theorem Invariant.some_moves (inv : s.Invariant calls) {t : Nat} (active : s.pc t ≠ .finished) :
    ∃ u, (u = t ∨ s.waitsFor t = some u) ∧ ((s.step calls u).pc u).remaining < (s.pc u).remaining := by
  cases waiting : s.waitsFor t with
  | none => exact ⟨t, .inl rfl, remaining_step_lt calls _ waiting active⟩
  | some u =>
    obtain ⟨free, -, moving⟩ := inv.holder_free waiting
    exact ⟨u, .inr rfl, remaining_step_lt calls _ free moving⟩

/-- In every machine a schedule reaches, each unfinished thread either moves when scheduled or waits
for a thread that does: waits never form a cycle, and the machine is never stuck while a call is
unfinished. -/
theorem deadlock_free (schedule : List Nat) (t : Nat) (active : (init.run calls schedule).pc t ≠ .finished) :
    ∃ u, (u = t ∨ (init.run calls schedule).waitsFor t = some u) ∧
      (((init.run calls schedule).step calls u).pc u).remaining < ((init.run calls schedule).pc u).remaining :=
  (Invariant.init.run schedule).some_moves active

theorem deadlock_free_while_inserting :
    (init.run (fun _ => MapCall.delete ⟨1, by decide⟩) [0, 1, 0]).pc 1 ≠ .finished ∧
      ∃ u, (u = 1 ∨ (init.run (fun _ => MapCall.delete ⟨1, by decide⟩) [0, 1, 0]).waitsFor 1 = some u) ∧
        (((init.run (fun _ => MapCall.delete ⟨1, by decide⟩) [0, 1, 0]).step
          (fun _ => MapCall.delete ⟨1, by decide⟩) u).pc u).remaining <
          ((init.run (fun _ => MapCall.delete ⟨1, by decide⟩) [0, 1, 0]).pc u).remaining :=
  ⟨(fun stuck => by cases stuck), deadlock_free [0, 1, 0] 1 (fun stuck => by cases stuck)⟩

theorem remaining_step_lt_of_mem {threads : List Nat} {u : Nat} (member : u ∈ threads)
    (moves : ((s.step calls u).pc u).remaining < (s.pc u).remaining) :
    (s.step calls u).remaining threads < s.remaining threads := by
  refine List.sum_lt_sum _ _ (fun v _ => ?_) ⟨u, member, moves⟩
  by_cases same : v = u
  · subst same
    exact moves.le
  · rw [step_pc_of_ne calls s same]

theorem Invariant.complete (inv : s.Invariant calls) (threads : List Nat)
    (covers : ∀ t, s.pc t ≠ .start → s.pc t ≠ .finished → t ∈ threads) :
    ∃ more, more.length ≤ s.remaining threads ∧ (∀ u ∈ more, u ∈ threads) ∧
      ∀ t ∈ threads, (s.run calls more).pc t = .finished := by
  generalize hleft : s.remaining threads = left
  induction left using Nat.strong_induction_on generalizing s with
  | _ left ih =>
    by_cases done : ∀ t ∈ threads, s.pc t = .finished
    · exact ⟨[], Nat.zero_le _, fun _ absent => absurd absent (List.not_mem_nil _), done⟩
    push_neg at done
    obtain ⟨t, member, active⟩ := done
    obtain ⟨u, chosen, moves⟩ := inv.some_moves active
    have scheduled : u ∈ threads := by
      rcases chosen with rfl | waiting
      · exact member
      · obtain ⟨-, started, moving⟩ := inv.holder_free waiting
        exact covers u started moving
    have lower := remaining_step_lt_of_mem scheduled moves
    obtain ⟨more, short, within, finished⟩ := ih _ (hleft ▸ lower) (inv.step u) (fun v started moving => by
      by_cases same : v = u
      · exact same ▸ scheduled
      · rw [step_pc_of_ne calls s same] at started moving
        exact covers v started moving) rfl
    exact ⟨u :: more, by simp only [List.length_cons]; omega, List.forall_mem_cons.mpr ⟨scheduled, within⟩,
      finished⟩

theorem remaining_le (s : Machine) (threads : List Nat) : s.remaining threads ≤ 5 * threads.length := by
  have bounded := List.sum_le_card_nsmul (threads.map fun t => (s.pc t).remaining) 5
    (fun _ member => by
      obtain ⟨t, -, rfl⟩ := List.mem_map.mp member
      exact Pc.remaining_le_five _)
  simpa [remaining, Nat.mul_comm] using bounded

/-- From every machine a schedule reaches, any threads that include every thread in the middle of a
call can all be run to the end of their calls by a schedule of only them, with at most five steps
each: no interleaving strands a call. -/
theorem calls_complete (schedule threads : List Nat)
    (covers : ∀ t, (init.run calls schedule).pc t ≠ .start → (init.run calls schedule).pc t ≠ .finished →
      t ∈ threads) :
    ∃ more, more.length ≤ 5 * threads.length ∧ (∀ u ∈ more, u ∈ threads) ∧
      ∀ t ∈ threads, (init.run calls (schedule ++ more)).pc t = .finished := by
  obtain ⟨more, short, within, finished⟩ := (Invariant.init.run schedule).complete threads covers
  exact ⟨more, short.trans (remaining_le _ threads), within, fun t member => by
    rw [run_append]
    exact finished t member⟩

theorem calls_complete_while_inserting :
    (∀ t, (init.run (fun _ => MapCall.delete ⟨1, by decide⟩) [0, 1, 0]).pc t ≠ .start →
      (init.run (fun _ => MapCall.delete ⟨1, by decide⟩) [0, 1, 0]).pc t ≠ .finished → t ∈ [0, 1]) ∧
    ∃ more, more.length ≤ 5 * [0, 1].length ∧ (∀ u ∈ more, u ∈ [0, 1]) ∧
      ∀ t ∈ [0, 1], (init.run (fun _ => MapCall.delete ⟨1, by decide⟩) ([0, 1, 0] ++ more)).pc t = .finished := by
  have covers : ∀ t, (init.run (fun _ => MapCall.delete ⟨1, by decide⟩) [0, 1, 0]).pc t ≠ .start →
      (init.run (fun _ => MapCall.delete ⟨1, by decide⟩) [0, 1, 0]).pc t ≠ .finished → t ∈ [0, 1] :=
    fun t started _ => by
      by_contra absent
      refine started (run_pc_of_not_mem _ _ fun scheduled => absent ?_)
      simp only [List.mem_cons, List.mem_singleton, List.not_mem_nil, or_false] at scheduled ⊢
      omega
  exact ⟨covers, calls_complete [0, 1, 0] [0, 1] covers⟩

/-- At every machine a schedule reaches in which no cell's mutex is held, each UUID's state in the map
is the one the sequential map reaches from `new` when the calls that took a mutex run alone, one after
another, in the order they took it: the interleaving loses, repeats and reorders no critical section. -/
theorem quiescent_sequential (schedule : List Nat)
    (quiet : ∀ cell, (init.run calls schedule).cellGuard cell = none) :
    (init.run calls schedule).map.states =
      (((init.run calls schedule).acquired.map calls).foldl MapCall.apply RatelimitStateMap.new).states := by
  have inv : (init.run calls schedule).Invariant calls := Invariant.init.run schedule
  funext key
  rw [MapCall.states_foldl_apply _ RatelimitStateMap.wellFormed_new, RatelimitStateMap.states_new, List.filter_map,
    List.foldl_map]
  show _ = applyAll calls ((init.run calls schedule).log calls key)
  unfold RatelimitStateMap.states
  cases found : (init.run calls schedule).map.hashMap.lookup key with
  | some cell =>
    rcases inv.history key cell found with ⟨-, value⟩ | ⟨t, -, held, -⟩
    · exact value
    · rw [quiet] at held
      cases held
  | none => rw [inv.unlogged key found, applyAll_nil]

theorem quiescent_sequential_delete_then_update :
    ∃ calls : Nat → MapCall, calls = (fun t => if t = 0 then
        MapCall.update Ffi.inert ⟨⟨[]⟩, some 5⟩ (List.replicate 36 0) AesGcmMac.zero [3] ⟨1, by decide⟩
      else MapCall.delete ⟨1, by decide⟩) ∧
      (init.run calls [0, 0, 0, 1, 1, 1, 1, 0, 0]).acquired = [1, 0] ∧
      (∀ cell, (init.run calls [0, 0, 0, 1, 1, 1, 1, 0, 0]).cellGuard cell = none) ∧
      (init.run calls [0, 0, 0, 1, 1, 1, 1, 0, 0]).map.states =
        (((init.run calls [0, 0, 0, 1, 1, 1, 1, 0, 0]).acquired.map calls).foldl MapCall.apply
          RatelimitStateMap.new).states := by
  refine ⟨_, rfl, rfl, ?_⟩
  have quiet : ∀ cell, (init.run (fun t => if t = 0 then
      MapCall.update Ffi.inert ⟨⟨[]⟩, some 5⟩ (List.replicate 36 0) AesGcmMac.zero [3] ⟨1, by decide⟩
    else MapCall.delete ⟨1, by decide⟩) [0, 0, 0, 1, 1, 1, 1, 0, 0]).cellGuard cell = none := fun cell => by
    cases guard : (init.run (fun t => if t = 0 then
        MapCall.update Ffi.inert ⟨⟨[]⟩, some 5⟩ (List.replicate 36 0) AesGcmMac.zero [3] ⟨1, by decide⟩
      else MapCall.delete ⟨1, by decide⟩) [0, 0, 0, 1, 1, 1, 1, 0, 0]).cellGuard cell with
    | none => rfl
    | some t =>
      have held := ((Invariant.init.run [0, 0, 0, 1, 1, 1, 1, 0, 0]).cell_guard t cell).mp guard
      by_cases scheduled : t ∈ [0, 0, 0, 1, 1, 1, 1, 0, 0]
      · obtain rfl | rfl : t = 0 ∨ t = 1 := by simp only [List.mem_cons, List.not_mem_nil, or_false] at scheduled; omega
        · cases held
        · cases held
      · rw [run_pc_of_not_mem _ _ scheduled] at held
        cases held
  exact ⟨quiet, quiescent_sequential [0, 0, 0, 1, 1, 1, 1, 0, 0] quiet⟩

end Machine

end ContactDiscovery
