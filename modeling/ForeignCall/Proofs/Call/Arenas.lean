import ForeignCall.Proofs.Call.Acceptance
import Mathlib.Algebra.GroupWithZero.Nat
import Mathlib.Data.List.ReduceOption
import Mathlib.Data.List.TakeDrop

/-!
# Many arenas

Calls may be under way at the same time, each with its own arena, over one pool. Arenas are created,
take arguments and are dropped in any order.

* `Arenas.run` is a run of such steps on arenas that go by the order of their creation.
* `Accounted` ties the pool and the buffers to what happened: `Accounted.step` for one step.
* `Arenas.run_accounted`: it holds after every run, and says what the next step does.
-/

namespace ForeignCall

/-! ## 1. Arenas side by side -/

/-- What is done with arenas. An arena goes by its place in the order of creation. -/
inductive ArenaStep where
  | create
  | lower (id : Nat) (a : ManagedArg)
  | drop (id : Nat)

/-- A step, and what came of the argument if one was lowered. -/
structure ArenaEvent where
  step : ArenaStep
  result : Option (Except BindError NativeValue)

/-- The arenas that were created, in order, where a dropped one leaves its place empty, and the pool
they share. -/
structure Arenas where
  places : List (Option Arena)
  pool : Pool

namespace Arenas

def start : Arenas := ⟨[], .empty⟩

/-- The arena with this number, if it is alive. -/
def arena? (s : Arenas) (id : Nat) : Option Arena := s.places[id]?.join

def alive (s : Arenas) : List Arena := s.places.reduceOption

def size (s : Arenas) : Nat := (s.alive.map Arena.size).sum

def put (s : Arenas) (id : Nat) (place : Option Arena) (pool : Pool) : Arenas :=
  ⟨s.places.set id place, pool⟩

/-- One step; nothing can be done with an arena that is not alive. -/
def step (s : Arenas) : ArenaStep → Option (Except BindError NativeValue) × Arenas
  | .create => (none, ⟨s.places ++ [some .empty], s.pool⟩)
  | .lower id a =>
    match s.arena? id with
    | none => (none, s)
    | some arena =>
      let (result, frame) := ForeignCall.lower a ⟨arena, s.pool⟩
      (some result, s.put id (some frame.arena) frame.pool)
  | .drop id =>
    match s.arena? id with
    | none => (none, s)
    | some arena => (none, s.put id none (Frame.release ⟨arena, s.pool⟩))

/-- A run of steps: what happened, and the arenas after it. -/
def run (s : Arenas) : List ArenaStep → List ArenaEvent × Arenas
  | [] => ([], s)
  | step :: rest =>
    let (result, next) := s.step step
    let (events, last) := next.run rest
    (⟨step, result⟩ :: events, last)

/-! ## 2. Places -/

section Places

variable {s : Arenas} {id : Nat} {arena : Arena}

theorem arena?_eq_some_iff : s.arena? id = some arena ↔ s.places[id]? = some (some arena) :=
  Option.join_eq_some_iff

theorem lt_of_arena? (h : s.arena? id = some arena) : id < s.places.length :=
  (List.getElem?_eq_some_iff.1 (arena?_eq_some_iff.1 h)).1

theorem length_put (s : Arenas) (id : Nat) (place : Option Arena) (pool : Pool) :
    (s.put id place pool).places.length = s.places.length := List.length_set

theorem exists_of_arena? (h : s.arena? id = some arena) :
    ∃ before after, s.places = before ++ some arena :: after ∧ before.length = id := by
  obtain ⟨hid, hat⟩ := List.getElem?_eq_some_iff.1 (arena?_eq_some_iff.1 h)
  refine ⟨s.places.take id, s.places.drop (id + 1), ?_, List.length_take_of_le (Nat.le_of_lt hid)⟩
  rw [← hat, List.cons_getElem_drop_succ, List.take_append_drop]

/-- A change of one place leaves the buffers of the other arenas. -/
theorem size_put (h : s.arena? id = some arena) (place : Option Arena) (pool : Pool) :
    (s.put id place pool).size + arena.size = s.size + (place.map Arena.size).getD 0 := by
  obtain ⟨before, after, hplaces, rfl⟩ := exists_of_arena? h
  cases place <;>
    simp [put, size, alive, hplaces, List.reduceOption_append, List.reduceOption_cons_of_some,
      List.reduceOption_cons_of_none] <;> omega

theorem size_le (h : s.arena? id = some arena) : arena.size ≤ s.size := by
  have hput := size_put h none s.pool
  simp only [Option.map_none, Option.getD_none] at hput
  omega

theorem arena?_put (h : s.arena? id = some arena) (place : Option Arena) (pool : Pool) (j : Nat) :
    (s.put id place pool).arena? j = if j = id then place else s.arena? j := by
  rw [put, arena?, arena?, List.getElem?_set]
  by_cases hj : j = id
  · rw [if_pos hj.symm, if_pos (lt_of_arena? h), if_pos hj, Option.join_some]
  · rw [if_neg (Ne.symm hj), if_neg hj]

/-- Putting back what is there changes nothing. -/
theorem put_self (h : s.arena? id = some arena) : s.put id (some arena) s.pool = s := by
  obtain ⟨hid, hat⟩ := List.getElem?_eq_some_iff.1 (arena?_eq_some_iff.1 h)
  rw [put, ← hat, List.set_getElem_self]

/-- The arena that is created gets the next number. -/
theorem arena?_create (j : Nat) :
    (s.step .create).2.arena? j = if j = s.places.length then some .empty else s.arena? j := by
  rw [step, arena?, arena?]
  by_cases hj : j = s.places.length
  · rw [if_pos hj, hj, List.getElem?_concat_length, Option.join_some]
  · rw [if_neg hj, List.getElem?_append]
    by_cases hlt : j < s.places.length
    · rw [if_pos hlt]
    · rw [if_neg hlt, List.getElem?_eq_none (by simp; omega),
        List.getElem?_eq_none (Nat.le_of_not_lt hlt)]

theorem size_create : (s.step .create).2.size = s.size := by
  simp [step, size, alive, List.reduceOption_append, Arena.size, Arena.empty]

end Places

/-! ## 3. Steps -/

section Steps

variable {s : Arenas} {id : Nat} {arena : Arena}

theorem step_lower (h : s.arena? id = some arena) (a : ManagedArg) :
    s.step (.lower id a) =
      (some (ForeignCall.lower a ⟨arena, s.pool⟩).1,
        s.put id (some (ForeignCall.lower a ⟨arena, s.pool⟩).2.arena)
          (ForeignCall.lower a ⟨arena, s.pool⟩).2.pool) := by
  rw [step, h]

theorem step_drop (h : s.arena? id = some arena) :
    s.step (.drop id) = (none, s.put id none (Frame.release ⟨arena, s.pool⟩)) := by
  rw [step, h]

/-- A step on an arena that is not alive changes nothing. -/
theorem step_dead (h : s.arena? id = none) :
    (∀ a, s.step (.lower id a) = (none, s)) ∧ s.step (.drop id) = (none, s) := by
  simp [step, h]

end Steps
end Arenas

/-! ## 4. Accounts -/

/-- The text that was lowered into the arena, if the event is that. -/
def ArenaEvent.textInto? (id : Nat) : ArenaEvent → Option Text
  | ⟨.lower id' a, some (.ok _)⟩ => if id' = id then a.value.string? else none
  | _ => none

/-- The texts that were lowered into the arena, in order. -/
def textsInto (id : Nat) (events : List ArenaEvent) : List Text :=
  events.filterMap (ArenaEvent.textInto? id)

/-- The bytes of a text with a zero byte after them. -/
def terminated (t : Text) : Bytes := Utf8.encode t ++ [0]

/-- What is true of arenas after the events. -/
structure Accounted (events : List ArenaEvent) (s : Arenas) : Prop where
  /-- The pool counts the buffers of the arenas that are alive. -/
  live : s.pool.live = s.size
  /-- An arena has a buffer for each text that was lowered into it, in order, and no other. -/
  buffers : ∀ id arena, s.arena? id = some arena →
    arena.buffers.map Buffer.bytes = (textsInto id events).map terminated
  /-- Nothing was lowered into an arena that is not created yet. -/
  later : ∀ id, s.places.length ≤ id → textsInto id events = []

theorem Accounted.start : Accounted [] .start where
  live := rfl
  buffers id arena h := by
    rw [Arenas.arena?_eq_some_iff] at h
    cases h
  later id _ := rfl

section Account

variable {events : List ArenaEvent} {s : Arenas} {id : Nat} {arena : Arena}

theorem textsInto_concat (id : Nat) (event : ArenaEvent) :
    textsInto id (events ++ [event]) = textsInto id events ++ (event.textInto? id).toList := by
  rw [textsInto, List.filterMap_append]
  cases h : event.textInto? id <;> simp [h, textsInto]

namespace Accounted

/-- An event without a text that changes nothing. -/
theorem of_idle (h : Accounted events s) {event : ArenaEvent}
    (hevent : ∀ id, event.textInto? id = none) : Accounted (events ++ [event]) s := by
  have htexts (id : Nat) : textsInto id (events ++ [event]) = textsInto id events := by
    rw [textsInto_concat, hevent, Option.toList_none, List.append_nil]
  exact ⟨h.live, fun id arena ha => htexts id ▸ h.buffers id arena ha,
    fun id hid => htexts id ▸ h.later id hid⟩

theorem create (h : Accounted events s) :
    Accounted (events ++ [⟨.create, none⟩]) (s.step .create).2 := by
  refine of_idle ?_ fun id => rfl
  refine ⟨by rw [Arenas.size_create]; exact h.live, fun id arena ha => ?_, fun id hid => ?_⟩
  · rw [Arenas.arena?_create] at ha
    split at ha
    · next hid =>
      cases ha
      rw [h.later id (Nat.le_of_eq hid.symm)]
      rfl
    · exact h.buffers id arena ha
  · refine h.later id (Nat.le_trans ?_ hid)
    simp [Arenas.step]

/-- A text that is lowered gets a buffer in its arena, and the pool counts it. -/
theorem push (h : Accounted events s) (ha : s.arena? id = some arena) {a : ManagedArg} {t : Text}
    {n : NativeValue} (ht : a.value = .string t) :
    Accounted (events ++ [⟨.lower id a, some (.ok n)⟩])
      (s.put id (some (Frame.push ⟨arena, s.pool⟩ (terminated t)).arena)
        (Frame.push ⟨arena, s.pool⟩ (terminated t)).pool) := by
  have htext (j : Nat) : ArenaEvent.textInto? j ⟨.lower id a, some (.ok n)⟩ =
      if id = j then some t else none := by
    rw [ArenaEvent.textInto?, ht]
    rfl
  refine ⟨?_, fun j arena' hj => ?_, fun j hj => ?_⟩
  · have hsize := Arenas.size_put ha (some (Frame.push ⟨arena, s.pool⟩ (terminated t)).arena)
      (Frame.push ⟨arena, s.pool⟩ (terminated t)).pool
    have hlive := h.live
    simp only [Option.map_some, Option.getD_some, Frame.push, Arena.size, List.length_append,
      List.length_singleton] at hsize
    simp only [Arenas.put, Frame.push] at hsize ⊢
    omega
  · rw [Arenas.arena?_put ha] at hj
    rw [textsInto_concat, htext, List.map_append]
    split at hj
    · next hid =>
      subst hid
      cases hj
      rw [if_pos rfl, Frame.push, List.map_append, h.buffers j arena ha]
      rfl
    · next hid =>
      rw [if_neg (Ne.symm hid), h.buffers j arena' hj]
      exact (List.append_nil _).symm
  · rw [Arenas.length_put] at hj
    have hid : id ≠ j := Nat.ne_of_lt (Nat.lt_of_lt_of_le (Arenas.lt_of_arena? ha) hj)
    rw [textsInto_concat, htext, if_neg hid, h.later j hj]
    rfl

theorem drop (h : Accounted events s) (ha : s.arena? id = some arena) :
    Accounted (events ++ [⟨.drop id, none⟩]) (s.put id none (Frame.release ⟨arena, s.pool⟩)) := by
  refine of_idle ?_ fun id => rfl
  refine ⟨?_, fun j arena' hj => ?_, fun j hj => ?_⟩
  · have hsize := Arenas.size_put ha none (Frame.release ⟨arena, s.pool⟩)
    have hlive := h.live
    simp only [Option.map_none, Option.getD_none] at hsize
    simp only [Arenas.put, Frame.release] at hsize ⊢
    omega
  · rw [Arenas.arena?_put ha] at hj
    split at hj
    · cases hj
    · exact h.buffers j arena' hj
  · exact h.later j (Arenas.length_put s id none _ ▸ hj)

/-- Each step keeps the accounts. -/
theorem step (h : Accounted events s) (step : ArenaStep) :
    Accounted (events ++ [⟨step, (s.step step).1⟩]) (s.step step).2 := by
  cases step with
  | create => exact h.create
  | lower id a =>
    cases ha : s.arena? id with
    | none =>
      rw [(Arenas.step_dead ha).1 a]
      exact h.of_idle fun id => rfl
    | some arena =>
      rw [Arenas.step_lower ha]
      rcases lower_cases a ⟨arena, s.pool⟩ with
        ⟨t, offset, ht, hzero, hl⟩ | ⟨t, n, ht, hfree, hl⟩ | ⟨n, hnone, hl⟩
      · rw [hl, Arenas.put_self ha]
        exact h.of_idle fun id => rfl
      · rw [hl]
        exact h.push ha ht
      · rw [hl, Arenas.put_self ha]
        refine h.of_idle fun j => ?_
        rw [ArenaEvent.textInto?, hnone, ite_self]
  | drop id =>
    cases ha : s.arena? id with
    | none =>
      rw [(Arenas.step_dead ha).2]
      exact h.of_idle fun id => rfl
    | some arena =>
      rw [Arenas.step_drop ha]
      exact h.drop ha

end Accounted

theorem Accounted.run (h : Accounted events s) (steps : List ArenaStep) :
    Accounted (events ++ (s.run steps).1) (s.run steps).2 := by
  induction steps generalizing events s with
  | nil =>
    rw [Arenas.run, List.append_nil]
    exact h
  | cons step rest ih =>
    have hrest := ih (h.step step)
    rw [List.append_assoc, List.singleton_append] at hrest
    rw [Arenas.run]
    exact hrest

theorem Arenas.map_step_run (s : Arenas) (steps : List ArenaStep) :
    (s.run steps).1.map ArenaEvent.step = steps := by
  induction steps generalizing s with
  | nil => rfl
  | cons step rest ih =>
    rw [run, List.map_cons, ih]

/-! ## 5. Arenas that are alive -/

theorem Arena.allocatedBytes_eq (arena : Arena) :
    arena.allocatedBytes = (arena.buffers.map fun b => b.bytes.length).sum := by
  rw [allocatedBytes, List.sum_eq_foldl, List.foldl_map]

theorem length_terminated (t : Text) : (terminated t).length = (Utf8.encode t).length + 1 :=
  List.length_append

theorem Accounted.allocatedBytes_eq (h : Accounted events s) (ha : s.arena? id = some arena) :
    arena.allocatedBytes =
      ((textsInto id events).map fun t => (Utf8.encode t).length + 1).sum := by
  calc arena.allocatedBytes
    _ = ((arena.buffers.map Buffer.bytes).map List.length).sum := by
      rw [Arena.allocatedBytes_eq, List.map_map]
      rfl
    _ = ((textsInto id events).map fun t => (terminated t).length).sum := by
      rw [h.buffers id arena ha, List.map_map]
      rfl
    _ = ((textsInto id events).map fun t => (Utf8.encode t).length + 1).sum := by
      simp only [length_terminated]

/-- Dropping an arena takes all its buffers off the pool. -/
theorem Accounted.live_drop (h : Accounted events s) (ha : s.arena? id = some arena) :
    (s.step (.drop id)).2.pool.live + arena.size = s.pool.live := by
  have hle := h.live ▸ Arenas.size_le ha
  rw [Arenas.step_drop ha]
  simp only [Arenas.put, Frame.release]
  omega

end Account

namespace Arenas

variable {s : Arenas} {id : Nat} {arena : Arena} {t : Text}

theorem step_lower_of_nulFree (ha : s.arena? id = some arena) (ht : 0 ∉ Utf8.encode t) :
    ∃ p, (s.step (.lower id (.string (some t)))).1 = some (.ok (.pointer p)) := by
  rw [step_lower ha, ForeignCall.lower, downString, Frame.allocate_of_nulFree ht]
  exact ⟨_, rfl⟩

theorem step_lower_of_firstZero (ha : s.arena? id = some arena) {offset : Nat}
    (ht : FirstZero (Utf8.encode t) offset) :
    s.step (.lower id (.string (some t))) = (some (.error (.interiorNul offset)), s) := by
  rw [step_lower ha, lower_of_firstZero ht, put_self ha]

/-- However many arenas are created, filled and dropped in whatever order: the pool counts the
buffers of those that are alive, and an arena that is alive has one buffer for each text that was
lowered into it. Dropping it takes off as many buffers as it has. A text is lowered unless it has a
zero byte, and then it is refused with the offset of the first one and nothing changes. -/
theorem run_accounted (steps : List ArenaStep) :
    ∃ events s, start.run steps = (events, s) ∧ events.map ArenaEvent.step = steps ∧
      s.pool.live = (s.alive.map Arena.size).sum ∧
      ∀ id arena, s.arena? id = some arena →
        arena.buffers.map Buffer.bytes = (textsInto id events).map (Utf8.encode · ++ [0]) ∧
        arena.allocatedBytes =
          ((textsInto id events).map fun t => (Utf8.encode t).length + 1).sum ∧
        arena.size ≤ s.pool.live ∧
        (s.step (.drop id)).2.pool.live + arena.size = s.pool.live ∧
        (∀ t, 0 ∉ Utf8.encode t →
          ∃ p, (s.step (.lower id (.string (some t)))).1 = some (.ok (.pointer p))) ∧
        ∀ t offset, FirstZero (Utf8.encode t) offset →
          s.step (.lower id (.string (some t))) = (some (.error (.interiorNul offset)), s) := by
  have h : Accounted (start.run steps).1 (start.run steps).2 := Accounted.start.run steps
  refine ⟨_, _, rfl, map_step_run start steps, h.live, fun id arena ha => ?_⟩
  exact ⟨h.buffers id arena ha, h.allocatedBytes_eq ha, h.live ▸ size_le ha, h.live_drop ha,
    fun t ht => step_lower_of_nulFree ha ht, fun t offset ht => step_lower_of_firstZero ha ht⟩

end Arenas
end ForeignCall
