import ForeignCall.Proofs.Binding.Client
import ForeignCall.Sample.Code

/-!
# Pointer slots over many calls

A slot is changed behind the back of whoever holds it: its address goes to native code as a handle,
through the checks and conversions of a call, and native code stores a number there.

* `Stores`: what is asked of native code, which functions store and by which of their arguments.
* `SlotSession.run`: a program makes slots, clears and reads them, and uses an interface in all
  three ways, in any order.
* `SlotSession.exists_step`: one step leaves each slot with what the step stored there, or as it
  was.
* `SlotSession.run_holds_last`: in every run a slot reads as the last number that was stored into it
  since it was made or cleared, and no step changes a slot it does not aim at.
-/

namespace ForeignCall

/-! ## 1. Slots -/

/-- A slot. Slots that are in use at one time lie at different addresses, so a slot goes by its
address; a slot made where an earlier one lay takes its place. -/
@[ext]
structure Slot where
  address : UInt64
  ne : address ≠ 0

instance : DecidableEq Slot := fun slot other =>
  decidable_of_iff (slot.address = other.address) Slot.ext_iff.symm

def Slot.asHandle (slot : Slot) : Handle := Cells.handle slot.address

theorem Slot.asHandle_eq (slot : Slot) : slot.asHandle = .address slot.address slot.ne := by
  rw [asHandle, Cells.handle, Handle.ofNumber?_address _ slot.ne, Option.getD_some]

theorem Slot.asHandle_inj {slot other : Slot} : slot.asHandle = other.asHandle ↔ slot = other := by
  rw [asHandle_eq, asHandle_eq, Handle.address.injEq, Slot.mk.injEq]

/-- Where the cells of the slots are in the state of native code. -/
structure SlotMemory (σ : Type) where
  cells : σ → Cells
  withCells : σ → Cells → σ
  cells_withCells : ∀ s c, cells (withCells s c) = c

/-! ## 2. Functions that store -/

/-- The arguments by which a function stores: the positions of the handle it stores through and of
the number. -/
structure StorePlace where
  target : Nat
  value : Nat

/-- The functions of an interface store as `places` says, and only so. -/
structure Stores {σ : Type} (d : Description) (lookup : SymbolLookup) (memory : SlotMemory σ)
    (code : NativeCode σ) (places : Text → Option StorePlace) : Prop where
  /-- A method of a function that stores has a handle and a 64-bit number in these places. -/
  declared : ∀ p, Plan.analyze d = .ok p → ∀ m ∈ p.methods, ∀ place,
    places m.symbol = some place →
    m.params[place.target]? = some .handle ∧ m.params[place.value]? = some .int64
  /-- Given a slot, the function stores the number there. -/
  slot : ∀ symbol place entry, places symbol = some place →
    lookup.find symbol = some entry → entry.isNull = false →
    ∀ natives frame s (slot : Slot) v,
      natives[place.target]? = some (.pointer (some slot.asHandle)) →
      natives[place.value]? = some (.int64 v) →
      memory.cells (code.run entry.address natives frame s).2 =
        (memory.cells s).store slot.address v.toUInt64
  /-- Given null, it stores nothing. -/
  null : ∀ symbol place entry, places symbol = some place →
    lookup.find symbol = some entry → entry.isNull = false →
    ∀ natives frame s, natives[place.target]? = some (.pointer none) →
      memory.cells (code.run entry.address natives frame s).2 = memory.cells s
  /-- Other functions store nothing. -/
  other : ∀ symbol entry, places symbol = none →
    lookup.find symbol = some entry → entry.isNull = false →
    ∀ natives frame s, memory.cells (code.run entry.address natives frame s).2 = memory.cells s

/-- What a function stores if it is called with these arguments, and through which handle. -/
def storeOf (places : Text → Option StorePlace) (symbol : Text) (args : List Value) :
    Option (Handle × Int64) := do
  let place ← places symbol
  let target ← args[place.target]?
  let value ← args[place.value]?
  return (← target.handle?, ← value.int64?)

namespace Access

def symbol? (d : Description) (a : Access) : Option Text := do
  let p ← (Plan.analyze d).toOption
  let m ← a.method? p
  return m.symbol

/-- What the access stores if it succeeds, and through which handle. -/
def store? (d : Description) (places : Text → Option StorePlace) (a : Access) :
    Option (Handle × Int64) := do
  storeOf places (← a.symbol? d) a.args

/-- A function that stores is given null in place of a slot. -/
def GivesNull (d : Description) (places : Text → Option StorePlace) (a : Access) : Prop :=
  ∃ symbol place, a.symbol? d = some symbol ∧ places symbol = some place ∧
    a.args[place.target]? = some .null

end Access

/-! ## 3. Sessions -/

/-- What a program does with slots and with an interface. -/
inductive SlotStep where
  | create (slot : Slot)
  | clear (slot : Slot)
  | read (slot : Slot)
  | access (a : Access)

/-- What the program sees of a step. -/
inductive SlotSeen where
  | done
  | held (handle : Option Handle)
  | access (seen : Seen)

/-- A step and what was seen of it. -/
structure SlotEvent where
  step : SlotStep
  seen : SlotSeen

/-- A program with an interface, and what its calls act on. -/
structure SlotSession (σ : Type) where
  client : Client
  world : World σ

namespace SlotSession

variable {σ : Type}

def start (d : Description) (lookup : SymbolLookup) (w : World σ) : SlotSession σ :=
  ⟨.start d lookup, w⟩

def cells (s : SlotSession σ) (memory : SlotMemory σ) : Cells := memory.cells s.world.native

def withCells (s : SlotSession σ) (memory : SlotMemory σ) (c : Cells) : SlotSession σ :=
  { s with world.native := memory.withCells s.world.native c }

def held (s : SlotSession σ) (memory : SlotMemory σ) (slot : Slot) : Option Handle :=
  (s.cells memory).read slot.address

/-- What is seen of a step, and what it leaves. -/
def step (s : SlotSession σ) (lookup : SymbolLookup) (memory : SlotMemory σ)
    (code : NativeCode σ) : SlotStep → Option (SlotSeen × SlotSession σ)
  | .create slot => some (.done, s.withCells memory ((s.cells memory).create slot.address))
  | .clear slot => some (.done, s.withCells memory ((s.cells memory).clear slot.address))
  | .read slot => some (.held (s.held memory slot), s)
  | .access a => do
    let (seen, client, world) ← s.client.access lookup code s.world a
    return (.access seen, ⟨client, world⟩)

def run (s : SlotSession σ) (lookup : SymbolLookup) (memory : SlotMemory σ)
    (code : NativeCode σ) : List SlotStep → Option (List SlotEvent × SlotSession σ)
  | [] => some ([], s)
  | step :: rest => do
    let (seen, s) ← s.step lookup memory code step
    let (events, s) ← s.run lookup memory code rest
    return (⟨step, seen⟩ :: events, s)

end SlotSession

/-! ## 4. What is stored -/

section Stored

variable (d : Description) (lookup : SymbolLookup) (places : Text → Option StorePlace)

namespace SlotStep

/-- The step can be taken after these: a slot has to be there before it is cleared or read or
something is stored through its handle, and nothing is stored through other handles. -/
def Allowed (before : List SlotStep) : SlotStep → Prop
  | create _ => True
  | clear slot => create slot ∈ before
  | read slot => create slot ∈ before
  | access a => (Client.start d lookup).Admits a ∧
    ∀ h v, a.store? d places = some (h, v) → ∃ slot, create slot ∈ before ∧ h = slot.asHandle

/-- The steps can be taken one after another, after `before`. -/
def AllAllowed (before : List SlotStep) : List SlotStep → Prop
  | [] => True
  | step :: rest => step.Allowed d lookup places before ∧ AllAllowed (before ++ [step]) rest

/-- The step is meant to change the slot. -/
def AimsAt (slot : Slot) : SlotStep → Prop
  | create other => other = slot
  | clear other => other = slot
  | read _ => False
  | access a => ∃ v, a.store? d places = some (slot.asHandle, v)

end SlotStep

/-- What an event leaves in a slot, if it is aimed at it: a number or nothing. -/
def SlotEvent.touch? (slot : Slot) : SlotEvent → Option (Option Int64)
  | ⟨.create other, _⟩ => if other = slot then some none else none
  | ⟨.clear other, _⟩ => if other = slot then some none else none
  | ⟨.access a, .access (.reply (.value (.ok _)))⟩ =>
    (a.store? d places).bind fun (h, v) => if h = slot.asHandle then some (some v) else none
  | _ => none

/-- The last number stored into the slot since it was made or cleared. -/
def lastStored (slot : Slot) (events : List SlotEvent) : Option Int64 :=
  (events.filterMap (SlotEvent.touch? d places slot)).getLast?.join

end Stored

/-- The handle to the address that a number is without its sign; zero is null. -/
def pointed (number : Option Int64) : Option Handle :=
  number.bind fun v => Handle.ofNumber? v.toUInt64

/-! ## 5. One call -/

/-- What becomes of the cells in a call that is to store `store?`, as far as `seen` tells how it
ended. -/
structure StoresAtMost {σ : Type} (memory : SlotMemory σ) (store? : Option (Handle × Int64))
    (s s' : σ) (seen : Seen) : Prop where
  failed : (∀ value, seen ≠ .reply (.value (.ok value))) → memory.cells s' = memory.cells s
  nothing : store? = none → memory.cells s' = memory.cells s
  stored : ∀ (slot : Slot) v value, store? = some (slot.asHandle, v) →
    seen = .reply (.value (.ok value)) →
    memory.cells s' = (memory.cells s).store slot.address v.toUInt64

theorem exists_getElem?_of_forall₂ {α β : Type} {R : α → β → Prop} {l : List α} {l' : List β}
    (h : List.Forall₂ R l l') {i : Nat} {a : α} (ha : l[i]? = some a) :
    ∃ b, l'[i]? = some b ∧ R a b := by
  obtain ⟨hi, rfl⟩ := List.getElem?_eq_some_iff.1 ha
  have hi' : i < l'.length := h.length_eq ▸ hi
  exact ⟨l'[i], List.getElem?_eq_getElem hi', h.get hi hi'⟩

section OneCall

variable {σ : Type} {d : Description} {lookup : SymbolLookup} {memory : SlotMemory σ}
  {code : NativeCode σ} {places : Text → Option StorePlace}

/-- Arguments that fit have null or a handle, and a number, where the function stores by them. -/
theorem Stores.args_of_fits (h : Stores d lookup memory code places) {p : Plan}
    (hp : Plan.analyze d = .ok p) {m : MethodPlan} (hm : m ∈ p.methods) {place : StorePlace}
    (hplace : places m.symbol = some place) {args : List Value} (hfits : Fits m.params args) :
    ∃ target v, args[place.target]? = some (.ofHandle? target) ∧
      args[place.value]? = some (.int64 v) ∧
      storeOf places m.symbol args = target.map fun handle => (handle, v) := by
  obtain ⟨htarget, hvalue⟩ := h.declared p hp m hm place hplace
  obtain ⟨t, ht, htfits⟩ := exists_getElem?_of_forall₂ hfits htarget
  obtain ⟨n, hn, hnfits⟩ := exists_getElem?_of_forall₂ hfits hvalue
  obtain ⟨v, rfl⟩ : ∃ v, n = .int64 v := by
    cases n with
    | int64 v => exact ⟨v, rfl⟩
    | _ => cases hnfits
  obtain ⟨target, rfl⟩ : ∃ target, t = .ofHandle? target := by
    cases t with
    | null => exact ⟨none, rfl⟩
    | handle handle => exact ⟨some handle, rfl⟩
    | _ => cases htfits
  refine ⟨target, v, ht, hn, ?_⟩
  simp only [storeOf, hplace, ht, hn, Option.bind_eq_bind, Option.bind_some]
  cases target <;> rfl

/-- A call that returns an error stores nothing, and one that returns a value stores what its
arguments say. -/
theorem Stores.invoke (h : Stores d lookup memory code places) {p : Plan}
    (hp : Plan.analyze d = .ok p) {b : MethodBinding} (hb : b.plan ∈ p.methods)
    (hfind : lookup.find b.plan.symbol = some b.entry) (args : List Value) (w : World σ) :
    StoresAtMost memory (storeOf places b.plan.symbol args) w.native
      (b.invoke code args w).2.native (.reply (.value (b.invoke code args w).1)) := by
  rcases b.invoke_cases args w.pool with
    ⟨e, pool, -, hinvoke⟩ | ⟨natives, frame, hfits, -, hnull, hlowered, -, -, hinvoke⟩
  · rw [hinvoke code w.native]
    exact ⟨fun _ => rfl, fun _ => rfl, fun slot v value _ hseen => by cases hseen⟩
  rcases hrun : code.run b.entry.address natives frame w.native with ⟨register, native⟩
  obtain ⟨result, hresult⟩ :=
    raise_ofRegister b.plan.symbol b.plan.ret register (code.read frame.arena native)
  have hnative : native = (code.run b.entry.address natives frame w.native).2 := by rw [hrun]
  rw [hinvoke code w.native native register hrun, hresult]
  refine ⟨fun hfailed => absurd rfl (hfailed result), ?_, ?_⟩
  · intro hnothing
    cases hplace : places b.plan.symbol with
    | none =>
      rw [hnative]
      exact h.other _ b.entry hplace hfind hnull natives frame w.native
    | some place =>
      obtain ⟨target, v, htarget, -, hstore⟩ := h.args_of_fits hp hb hplace hfits
      obtain rfl : target = none := by simpa [hstore] using hnothing
      obtain ⟨n, hn, hln⟩ := exists_getElem?_of_forall₂ hlowered htarget
      cases hln
      rw [hnative]
      exact h.null _ place b.entry hplace hfind hnull natives frame w.native hn
  · intro slot v value hstored _
    cases hplace : places b.plan.symbol with
    | none => simp [storeOf, hplace] at hstored
    | some place =>
      obtain ⟨target, v', htarget, hvalue, hstore⟩ := h.args_of_fits hp hb hplace hfits
      rw [hstore, Option.map_eq_some_iff] at hstored
      obtain ⟨handle, rfl, hpair⟩ := hstored
      cases hpair
      obtain ⟨t, ht, hlt⟩ := exists_getElem?_of_forall₂ hlowered htarget
      obtain ⟨n, hn, hln⟩ := exists_getElem?_of_forall₂ hlowered hvalue
      cases hlt
      cases hln
      rw [hnative]
      exact h.slot _ place b.entry hplace hfind hnull natives frame w.native slot v ht hn

/-- An access stores what its arguments say if it returns a value, and else nothing. -/
theorem Stores.access (h : Stores d lookup memory code places) {c : Client} (hc : c.Of d lookup)
    {a : Access} (ha : (Client.start d lookup).Admits a) (w : World σ) :
    ∃ seen c' w', c.access lookup code w a = some (seen, c', w') ∧ c'.Of d lookup ∧
      StoresAtMost memory (a.store? d places) w.native w'.native seen := by
  obtain ⟨e, c', hserves, hresolved, hc', heffect⟩ := hc.access_effect (hc.admits_iff.2 ha)
  refine ⟨_, c', _, heffect code w, hc', ?_⟩
  cases e with
  | idle seen =>
    refine ⟨fun _ => rfl, fun _ => rfl, fun slot v value _ hseen => ?_⟩
    exact absurd hseen (hresolved.idle seen rfl value)
  | call b args =>
    obtain ⟨rfl, p, hp, hm⟩ := hserves b args rfl
    have hstore : a.store? d places = storeOf places b.plan.symbol a.args := by
      simp [Access.store?, Access.symbol?, hp, Except.toOption, hm]
    rw [hstore]
    exact h.invoke hp (a.mem_of_method? hm) (hresolved.entry b a.args rfl) a.args w

end OneCall

/-! ## 6. One step -/

theorem Cells.read_store (c : Cells) (slot other : Slot) (w : UInt64) :
    (c.store other.address w).read slot.address =
      if other = slot then Handle.ofNumber? w else c.read slot.address := by
  split
  case isTrue h => rw [h, read, word_store_self]
  case isFalse h =>
    have hne : other.address ≠ slot.address := fun he => h (Slot.ext he)
    rw [read, word_store_of_ne c w hne, read]

section Touch

variable {d : Description} {places : Text → Option StorePlace} {slot : Slot} {a : Access}

theorem SlotEvent.touch?_of_failed {seen : Seen}
    (h : ∀ value, seen ≠ .reply (.value (.ok value))) :
    touch? d places slot ⟨.access a, .access seen⟩ = none := by
  rcases seen with (_ | _ | value) | _ | _ | _
  case reply.value.ok => exact absurd rfl (h value)
  all_goals rfl

/-- A step that is not aimed at a slot does not touch it. -/
theorem SlotEvent.touch?_of_not_aimsAt {step : SlotStep} (h : ¬ step.AimsAt d places slot)
    (seen : SlotSeen) : touch? d places slot ⟨step, seen⟩ = none := by
  cases step with
  | create other => exact if_neg h
  | clear other => exact if_neg h
  | read other => rfl
  | access a =>
    cases seen with
    | done => rfl
    | held handle => rfl
    | access seen =>
      by_cases hok : ∃ value, seen = .reply (.value (.ok value))
      · obtain ⟨value, rfl⟩ := hok
        refine Option.bind_eq_none_iff.2 fun (handle, v) hstore => if_neg fun hhandle => ?_
        exact h ⟨v, hhandle ▸ hstore⟩
      · exact touch?_of_failed (not_exists.1 hok)

theorem Access.store?_eq_none_of_givesNull (h : a.GivesNull d places) :
    a.store? d places = none := by
  obtain ⟨symbol, place, hsymbol, hplace, hnull⟩ := h
  simp only [store?, hsymbol, storeOf, hplace, hnull, Option.bind_eq_bind, Option.bind_some,
    Value.handle?, Option.bind_none, Option.bind_fun_none]

/-- An event changes what was stored last exactly if it touches the slot. -/
theorem lastStored_concat (past : List SlotEvent) (e : SlotEvent) :
    lastStored d places slot (past ++ [e]) =
      (e.touch? d places slot).getD (lastStored d places slot past) := by
  rw [lastStored, List.filterMap_append]
  cases h : e.touch? d places slot with
  | none => simp [h, lastStored]
  | some x => simp [h]

end Touch

namespace SlotSession

variable {σ : Type} {d : Description} {lookup : SymbolLookup} {memory : SlotMemory σ}
  {code : NativeCode σ} {places : Text → Option StorePlace} {s : SlotSession σ}

theorem held_withCells_store (s : SlotSession σ) (memory : SlotMemory σ) (slot other : Slot)
    (w : UInt64) :
    (s.withCells memory ((s.cells memory).store other.address w)).held memory slot =
      if other = slot then Handle.ofNumber? w else s.held memory slot := by
  rw [held, cells, withCells, memory.cells_withCells, Cells.read_store, held]

/-- A step that is allowed can be made, and leaves in each slot what it stores there, or what was
there before. -/
theorem exists_step (h : Stores d lookup memory code places) (hs : s.client.Of d lookup)
    {before : List SlotStep} {step : SlotStep} (ha : step.Allowed d lookup places before) :
    ∃ seen s', s.step lookup memory code step = some (seen, s') ∧ s'.client.Of d lookup ∧
      (∀ slot, step = .read slot → seen = .held (s.held memory slot)) ∧
      ∀ slot, s'.held memory slot =
        ((SlotEvent.touch? d places slot ⟨step, seen⟩).map pointed).getD (s.held memory slot) := by
  cases step with
  | create other =>
    refine ⟨_, _, rfl, hs, nofun, fun slot => ?_⟩
    rw [Cells.create, held_withCells_store, SlotEvent.touch?]
    split <;> rfl
  | clear other =>
    refine ⟨_, _, rfl, hs, nofun, fun slot => ?_⟩
    rw [Cells.clear, held_withCells_store, SlotEvent.touch?]
    split <;> rfl
  | read other =>
    refine ⟨_, s, rfl, hs, fun slot hslot => ?_, fun slot => rfl⟩
    cases hslot
    rfl
  | access a =>
    obtain ⟨hadmits, hslots⟩ := ha
    obtain ⟨seen, c', w', haccess, hc', hstores⟩ := h.access hs hadmits s.world
    refine ⟨.access seen, ⟨c', w'⟩, ?_, hc', nofun, fun slot => ?_⟩
    · rw [step, haccess]
      rfl
    simp only [held, cells]
    by_cases hok : ∃ value, seen = .reply (.value (.ok value))
    case neg =>
      rw [SlotEvent.touch?_of_failed (not_exists.1 hok), hstores.failed (not_exists.1 hok)]
      rfl
    obtain ⟨value, rfl⟩ := hok
    rw [SlotEvent.touch?]
    cases hstore : a.store? d places with
    | none =>
      rw [hstores.nothing hstore]
      rfl
    | some stored =>
      obtain ⟨handle, v⟩ := stored
      obtain ⟨other, -, rfl⟩ := hslots handle v hstore
      rw [hstores.stored other v value hstore rfl, Cells.read_store, Option.bind_some]
      simp only [Slot.asHandle_inj]
      split <;> rfl

end SlotSession

/-! ## 7. Runs -/

section Runs

variable {σ : Type} {d : Description} {lookup : SymbolLookup} {memory : SlotMemory σ}
  {code : NativeCode σ} {places : Text → Option StorePlace} {s : SlotSession σ}
  {past : List SlotEvent} {next : SlotStep} {steps : List SlotStep}

/-- How a session stands after these events: every slot that was made holds the last number that was
stored into it. -/
structure SlotSession.After (d : Description) (lookup : SymbolLookup) (memory : SlotMemory σ)
    (places : Text → Option StorePlace) (past : List SlotEvent) (s : SlotSession σ) : Prop where
  client : s.client.Of d lookup
  held : ∀ slot, .create slot ∈ past.map SlotEvent.step →
    s.held memory slot = pointed (lastStored d places slot past)

/-- What one more step shows and changes: `s` and `s'` are the sessions before and after it. -/
structure SlotStep.KeepsSlots (d : Description) (memory : SlotMemory σ)
    (places : Text → Option StorePlace) (past : List SlotEvent) (step : SlotStep)
    (s : SlotSession σ) (seen : SlotSeen) (s' : SlotSession σ) : Prop where
  /-- A slot reads as the last number that was stored into it. -/
  read : ∀ slot, step = .read slot → seen = .held (pointed (lastStored d places slot past))
  /-- A call that returns an error changes no slot. -/
  failed : ∀ a e, step = .access a → seen = .access (.reply (.value (.error e))) →
    ∀ slot, s'.held memory slot = s.held memory slot
  /-- A call that is given null changes no slot. -/
  null : ∀ a, step = .access a → a.GivesNull d places →
    ∀ slot, s'.held memory slot = s.held memory slot
  /-- A slot is changed only by what is aimed at it. -/
  others : ∀ slot, ¬ step.AimsAt d places slot → s'.held memory slot = s.held memory slot

namespace SlotSession

theorem start_after (d : Description) (lookup : SymbolLookup) (memory : SlotMemory σ)
    (places : Text → Option StorePlace) (w : World σ) :
    After d lookup memory places [] (start d lookup w) :=
  ⟨Client.start_of d lookup, fun _ h => absurd h List.not_mem_nil⟩

/-- One step goes on with the last number stored into each slot. -/
theorem After.step (h : Stores d lookup memory code places)
    (hs : After d lookup memory places past s)
    (ha : next.Allowed d lookup places (past.map SlotEvent.step)) :
    ∃ seen s', s.step lookup memory code next = some (seen, s') ∧
      After d lookup memory places (past ++ [⟨next, seen⟩]) s' ∧
      next.KeepsSlots d memory places past s seen s' := by
  obtain ⟨seen, s', hstep, hc', hread, hheld⟩ := exists_step h hs.client ha
  have hkept : ∀ slot, SlotEvent.touch? d places slot ⟨next, seen⟩ = none →
      s'.held memory slot = s.held memory slot := by
    intro slot htouch
    rw [hheld slot, htouch, Option.map_none, Option.getD_none]
  refine ⟨seen, s', hstep, ⟨hc', fun slot hslot => ?_⟩, ⟨?_, ?_, ?_, ?_⟩⟩
  · rw [hheld slot, lastStored_concat]
    cases htouch : SlotEvent.touch? d places slot ⟨next, seen⟩ with
    | some x => rfl
    | none =>
      refine hs.held slot ?_
      rw [List.map_append, List.mem_append] at hslot
      refine hslot.resolve_right fun hlast => ?_
      obtain rfl : SlotStep.create slot = next := List.mem_singleton.1 hlast
      simp [SlotEvent.touch?] at htouch
  · rintro slot rfl
    rw [hread slot rfl, hs.held slot ha]
  · rintro a e rfl rfl slot
    exact hkept slot (SlotEvent.touch?_of_failed (by simp))
  · rintro a rfl hnull slot
    have haims : ¬ (SlotStep.access a).AimsAt d places slot := by
      rintro ⟨v, hstore⟩
      rw [Access.store?_eq_none_of_givesNull hnull] at hstore
      cases hstore
    exact hkept slot (SlotEvent.touch?_of_not_aimsAt haims seen)
  · exact fun slot haims => hkept slot (SlotEvent.touch?_of_not_aimsAt haims seen)

/-- A run goes on with the last number stored into each slot, and every slot that is read in it
holds the number that was the last one then. -/
theorem After.run (h : Stores d lookup memory code places)
    (hs : After d lookup memory places past s)
    (ha : SlotStep.AllAllowed d lookup places (past.map SlotEvent.step) steps) :
    ∃ events s', s.run lookup memory code steps = some (events, s') ∧
      events.map SlotEvent.step = steps ∧
      After d lookup memory places (past ++ events) s' ∧
      ∀ earlier slot seen later, events = earlier ++ ⟨.read slot, seen⟩ :: later →
        seen = .held (pointed (lastStored d places slot (past ++ earlier))) := by
  induction steps generalizing past s with
  | nil =>
    refine ⟨[], s, rfl, rfl, ?_, fun earlier slot seen later hevents => ?_⟩
    · rwa [List.append_nil]
    · simp at hevents
  | cons step rest ih =>
    obtain ⟨hfirst, hrest⟩ := ha
    obtain ⟨seen, s₁, hstep, hs₁, hkeeps⟩ := hs.step h hfirst
    obtain ⟨events, s', hrun, hsteps, hs', hreads⟩ := ih hs₁ (by simpa using hrest)
    refine ⟨⟨step, seen⟩ :: events, s', ?_, ?_, ?_, fun earlier slot seen' later hevents => ?_⟩
    · simp only [SlotSession.run, hstep, hrun, Option.bind_eq_bind, Option.bind_some]
      rfl
    · rw [List.map_cons, hsteps]
    · simpa using hs'
    · cases earlier with
      | nil =>
        obtain ⟨heq, -⟩ := List.cons.inj hevents
        cases heq
        rw [List.append_nil]
        exact hkeeps.read slot rfl
      | cons e earlier =>
        obtain ⟨rfl, hmore⟩ := List.cons.inj hevents
        have hread := hreads earlier slot seen' later hmore
        rwa [List.append_assoc, List.singleton_append] at hread

/-- A program may make slots, clear and read them and use an interface in all three ways, in any
order: a slot reads as the handle to the last number that was stored into it since it was made or
cleared, or as none if there is no such number or it is zero. What is done next keeps the slots as
`KeepsSlots` says. -/
theorem run_holds_last (h : Stores d lookup memory code places) (w : World σ)
    (ha : SlotStep.AllAllowed d lookup places [] steps) :
    ∃ events s, (start d lookup w).run lookup memory code steps = some (events, s) ∧
      events.map SlotEvent.step = steps ∧
      (∀ earlier slot seen later, events = earlier ++ ⟨.read slot, seen⟩ :: later →
        seen = .held (pointed (lastStored d places slot earlier))) ∧
      (∀ slot, .create slot ∈ steps →
        s.held memory slot = pointed (lastStored d places slot events)) ∧
      ∀ next : SlotStep, next.Allowed d lookup places steps →
        ∃ seen s', s.step lookup memory code next = some (seen, s') ∧
          next.KeepsSlots d memory places events s seen s' := by
  obtain ⟨events, s, hrun, rfl, hs, hreads⟩ := (start_after d lookup memory places w).run h ha
  refine ⟨events, s, hrun, rfl, hreads, hs.held, fun next hnext => ?_⟩
  obtain ⟨seen, s', hstep, -, hkeeps⟩ := hs.step h hnext
  exact ⟨seen, s', hstep, hkeeps⟩

end SlotSession
end Runs

/-! ## 8. An instance -/

/-- Two functions, one of which stores. -/
def filling : Description :=
  ⟨"Filling", [Sample.signature "nb_fill" [.handle, .int64] .int32,
    Sample.signature "nb_identity" [.handle] .handle]⟩

def fillingPlan : Plan :=
  ⟨"Filling", [⟨⟨0⟩, "nb_fill", [.handle, .int64], .int32⟩,
    ⟨⟨1⟩, "nb_identity", [.handle], .handle⟩]⟩

def fillLookup : SymbolLookup := (Sample.table "sample" ["nb_fill", "nb_identity"]).lookup

def fillPlaces (symbol : Text) : Option StorePlace :=
  if symbol = "nb_fill".toList then some ⟨0, 1⟩ else none

def Sample.slotMemory : SlotMemory Sample.State where
  cells s := s.cells
  withCells s c := { s with cells := c }
  cells_withCells _ _ := rfl

theorem analyze_filling : Plan.analyze filling = .ok fillingPlan := by
  have hsorted : filling.sorted = filling.signatures := List.mergeSort_of_pairwise (by decide)
  rw [Plan.analyze_eq_ok_iff, hsorted]
  decide

theorem SymbolTable.mem_of_find {t : SymbolTable} {symbol : Text} {entry : EntryPoint}
    (h : t.find symbol = some entry) : (symbol, entry) ∈ t.symbols := by
  obtain ⟨pair, hpair, rfl⟩ := Option.map_eq_some_iff.1 h
  have hsymbol : pair.1 = symbol := by simpa using List.find?_some hpair
  exact hsymbol ▸ List.mem_of_find?_eq_some hpair

theorem fillLookup_cases {symbol : Text} {entry : EntryPoint}
    (h : fillLookup.find symbol = some entry) :
    symbol = "nb_identity" ∧ entry = ⟨0x40000005⟩ ∨ symbol = "nb_fill" ∧ entry = ⟨0x40000008⟩ := by
  have htable : Sample.table "sample" ["nb_fill", "nb_identity"] =
      ⟨"sample", [("nb_identity", ⟨0x40000005⟩), ("nb_fill", ⟨0x40000008⟩)]⟩ := by decide
  have hfind : (Sample.table "sample" ["nb_fill", "nb_identity"]).find symbol = some entry := h
  rw [htable] at hfind
  simpa using SymbolTable.mem_of_find hfind

theorem Sample.run_fill (natives : List NativeValue) (frame : Frame) (s : Sample.State) :
    Sample.code.run 0x40000008 natives frame s =
      let c : Sample.Call := ⟨natives.map Register.ofArg, frame, s⟩
      if (c.arg 0).word = 0 then c.give (.ofInt32 (-1))
      else (.ofInt32 0, { s with cells := s.cells.store (c.arg 0).word (c.arg 1).word }) := rfl

theorem stores_filling :
    Stores filling fillLookup Sample.slotMemory Sample.code fillPlaces where
  declared p hp m hm place hplace := by
    obtain rfl : fillingPlan = p := Except.ok.inj (analyze_filling.symm.trans hp)
    rcases List.mem_cons.1 hm with rfl | hm
    · cases hplace
      exact ⟨rfl, rfl⟩
    · rw [List.mem_singleton.1 hm] at hplace
      cases hplace
  slot symbol place entry hplace hfind _ natives frame s slot v htarget hvalue := by
    rcases fillLookup_cases hfind with ⟨rfl, rfl⟩ | ⟨rfl, rfl⟩
    · cases hplace
    cases hplace
    have htarget' : (natives.map Register.ofArg)[0]? = some (.bits slot.address) := by
      rw [List.getElem?_map, htarget, slot.asHandle_eq]
      rfl
    have hvalue' : (natives.map Register.ofArg)[1]? = some (.bits v.toUInt64) := by
      rw [List.getElem?_map, hvalue]
      rfl
    simp only [Sample.run_fill, Sample.Call.arg, htarget', hvalue', Option.getD_some, Register.word]
    rw [if_neg slot.ne]
    rfl
  null symbol place entry hplace hfind _ natives frame s htarget := by
    rcases fillLookup_cases hfind with ⟨rfl, rfl⟩ | ⟨rfl, rfl⟩
    · cases hplace
    cases hplace
    have htarget' : (natives.map Register.ofArg)[0]? = some (.bits 0) := by
      rw [List.getElem?_map, htarget]
      rfl
    simp only [Sample.run_fill, Sample.Call.arg, htarget', Option.getD_some, Register.word]
    rfl
  other symbol entry hplace hfind _ natives frame s := by
    rcases fillLookup_cases hfind with ⟨rfl, rfl⟩ | ⟨rfl, rfl⟩
    · rfl
    · cases hplace

theorem Access.store?_filling (a : Access) :
    a.store? filling fillPlaces =
      (a.method? fillingPlan).bind fun m => storeOf fillPlaces m.symbol a.args := by
  simp only [store?, symbol?, analyze_filling, Except.toOption, Option.bind_eq_bind,
    Option.bind_some, Option.bind_assoc, Option.pure_def]

def firstSlot : Slot := ⟨0x1000, by decide⟩

def secondSlot : Slot := ⟨0x2000, by decide⟩

/-- Two slots are filled in different ways, with a call in between that is given null and one that
fails; the first is cleared, and both are read. -/
def fillSteps : List SlotStep := [
  .create firstSlot, .create secondSlot,
  .access (.dynamic (.need (.operation
    (.callByName "nb_fill" [.handle firstSlot.asHandle, .int64 5])))),
  .access (.generated (.call ⟨0⟩ [.handle secondSlot.asHandle, .int64 (-1)])),
  .access (.stub (identOf "nb_fill") [.handle none, .int64 7]),
  .access (.generated (.call ⟨0⟩ [.int64 1])),
  .clear firstSlot, .read firstSlot, .read secondSlot]

theorem fillSteps_allowed : SlotStep.AllAllowed filling fillLookup fillPlaces [] fillSteps := by
  have htype : typeIdent fillingPlan.interface = .ok ⟨"Filling", false⟩ :=
    typeIdent_of_capital (by decide) (by decide_cbv) (by decide)
  have hnames : methodNames fillingPlan.symbols = .ok _ :=
    methodNames_eq_ok_iff.2 ⟨rfl, by decide, by decide, by decide⟩
  obtain ⟨t, ht⟩ : ∃ t, (BindingTable.fromPlan fillingPlan fillLookup).1 = .ok t := ⟨_, rfl⟩
  obtain ⟨b, hgen, hgenerated⟩ :=
    Client.exists_start_generated analyze_filling htype hnames ht
  have hstub := hgen.stub?_eq (m := ⟨⟨0⟩, "nb_fill", [.handle, .int64], .int32⟩) List.mem_cons_self
  -- What is stored goes through the handle of a slot that was made first.
  have hstored {a : Access} {before : List SlotStep} (slot : Slot) {v : Int64}
      (hslot : .create slot ∈ before)
      (hs : a.store? filling fillPlaces = some (slot.asHandle, v)) :
      ∀ h v, a.store? filling fillPlaces = some (h, v) →
        ∃ slot, .create slot ∈ before ∧ h = slot.asHandle := by
    intro h v' hstore
    cases hs.symm.trans hstore
    exact ⟨slot, hslot, rfl⟩
  have hnothing {a : Access} {before : List SlotStep} (hs : a.store? filling fillPlaces = none) :
      ∀ h v, a.store? filling fillPlaces = some (h, v) →
        ∃ slot, .create slot ∈ before ∧ h = slot.asHandle := by
    intro h v hstore
    cases hs.symm.trans hstore
  refine ⟨trivial, trivial, ⟨trivial, ?_⟩, ⟨⟨b, t.toBound, hgenerated⟩, ?_⟩,
    ⟨⟨b, t.toBound, _, hgenerated, hstub, rfl⟩, ?_⟩, ⟨⟨b, t.toBound, hgenerated⟩, ?_⟩,
    .head _, .head _, .tail _ (.head _), trivial⟩
  · exact hstored firstSlot (.head _) (Access.store?_filling _)
  · exact hstored secondSlot (.tail _ (.head _)) (Access.store?_filling _)
  · exact hnothing (Access.store?_filling _)
  · exact hnothing (Access.store?_filling _)

theorem run_holds_last_filled :
    Stores filling fillLookup Sample.slotMemory Sample.code fillPlaces ∧
    SlotStep.AllAllowed filling fillLookup fillPlaces [] fillSteps ∧
    ∃ events s, (SlotSession.start filling fillLookup ⟨Pool.empty, Sample.State.fresh⟩).run
        fillLookup Sample.slotMemory Sample.code fillSteps = some (events, s) ∧
      events.map SlotEvent.step = fillSteps ∧
      (∀ earlier slot seen later, events = earlier ++ ⟨.read slot, seen⟩ :: later →
        seen = .held (pointed (lastStored filling fillPlaces slot earlier))) ∧
      (∀ slot, .create slot ∈ fillSteps →
        s.held Sample.slotMemory slot = pointed (lastStored filling fillPlaces slot events)) ∧
      ∀ next : SlotStep, next.Allowed filling fillLookup fillPlaces fillSteps →
        ∃ seen s', s.step fillLookup Sample.slotMemory Sample.code next = some (seen, s') ∧
          next.KeepsSlots filling Sample.slotMemory fillPlaces events s seen s' :=
  ⟨stores_filling, fillSteps_allowed, SlotSession.run_holds_last stores_filling
    ⟨Pool.empty, Sample.State.fresh⟩ fillSteps_allowed⟩

end ForeignCall
