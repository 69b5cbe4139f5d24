import ForeignCall.Proofs.Binding.Client

/-!
# Buffers over many calls

Whatever a program does with an interface, in which of the three ways and with what outcome, no
buffer outlives the call it was made for, and none is gone before the result was read.

* `Effect.keeps`: what one call does to the buffers.
* `Client.run_keeps`: after every run of accesses as many buffers are alive as before it, and the
  next access, whatever it is, keeps them too.
-/

namespace ForeignCall

/-- What becomes of the buffers in an access: `seen` is what comes of it, `w` and `w'` are the
worlds before and after it, and `calls` are the native functions it ran. -/
structure KeepsBuffers {σ : Type} (d : Description) (code : NativeCode σ) (a : Access)
    (w : World σ) (seen : Seen) (w' : World σ) (calls : List NativeCall) : Prop where
  /-- As many are alive afterwards as before. -/
  after : w'.pool.live = w.pool.live
  /-- While native code runs there is one more for each text that is passed. -/
  during : ∀ call ∈ calls, call.frame.pool.live = w.pool.live + (textsOf a.args).length
  /-- A text that native code returns where it lies is read before its buffer is released. -/
  echo : ∀ p m, Plan.analyze d = .ok p → a.method? p = some m → m.ret = .string →
    ∀ call ∈ calls, ∀ (i : Nat) (t : Text) (n : NativeValue),
      a.args[i]? = some (.string t) → call.args[i]? = some n →
      (code.run call.address call.args call.frame w.native).1.Holds n →
      seen = .reply (.value (.ok (.string t)))

theorem KeepsBuffers.of_no_calls {σ : Type} {d : Description} {code : NativeCode σ} {a : Access}
    {w w' : World σ} {seen : Seen} (h : w'.pool.live = w.pool.live) :
    KeepsBuffers d code a w seen w' [] := by
  refine ⟨h, fun call hcall => ?_, fun _ _ _ _ _ call hcall => ?_⟩
  · exact absurd hcall List.not_mem_nil
  · exact absurd hcall List.not_mem_nil

/-- One access keeps the buffers, and recording its native calls does not change it. -/
theorem Effect.keeps {σ : Type} {d : Description} {a : Access} {e : Effect}
    (h : e.Serves d a) (code : NativeCode σ) (w : World σ) :
    ∃ seen w' calls, e.run code w = (seen, w') ∧
      e.run code.recorded w.recording = (seen, ⟨w'.pool, (w'.native, calls)⟩) ∧
      KeepsBuffers d code a w seen w' calls := by
  cases e with
  | idle seen => exact ⟨seen, w, [], rfl, rfl, .of_no_calls rfl⟩
  | call b args =>
    obtain ⟨rfl, p, hp, hm⟩ := h b args rfl
    rcases b.invoke_cases a.args w.pool with
      ⟨e, pool, hlive, hinvoke⟩ |
      ⟨natives, frame, -, hfree, -, hlowered, hduring, hlive, hinvoke⟩
    · refine ⟨.reply (.value (.error e)), ⟨pool, w.native⟩, [], ?_, ?_, .of_no_calls hlive⟩
      · rw [run, hinvoke code w.native]
      · rw [run, World.recording, hinvoke code.recorded (w.native, [])]
    rcases hrun : code.run b.entry.address natives frame w.native with ⟨register, native⟩
    have hrecorded : code.recorded.run b.entry.address natives frame (w.native, []) =
        (register, (native, [⟨b.entry.address, natives, frame⟩])) := by
      simp only [NativeCode.recorded, hrun, List.nil_append]
    refine ⟨.reply (.value (raise b.plan.symbol b.plan.ret
      (.ofRegister b.plan.ret.layout register) (code.read frame.arena native))),
      ⟨frame.release, native⟩, [⟨b.entry.address, natives, frame⟩], ?_, ?_, hlive, ?_, ?_⟩
    · rw [run, hinvoke code w.native native register hrun]
    · rw [run, World.recording, hinvoke code.recorded _ _ register hrecorded]
      rfl
    · intro call hcall
      rw [List.mem_singleton.1 hcall]
      exact hduring
    · intro p' m hp' hm' hret call hcall i t n harg hnative hholds
      obtain rfl := List.mem_singleton.1 hcall
      rw [hp] at hp'
      cases hp'
      rw [hm] at hm'
      cases hm'
      rw [hrun] at hholds
      rw [hret]
      exact congrArg (fun result => Seen.reply (.value result))
        (raise_of_lowered_text b.plan.symbol hfree hlowered harg hnative hholds)

namespace Client

variable {σ : Type} {d : Description} {lookup : SymbolLookup} {c : Client}

theorem Of.access_keeps (h : c.Of d lookup) {a : Access} (ha : (start d lookup).Admits a)
    (code : NativeCode σ) (w : World σ) :
    ∃ seen c' w' calls, c.access lookup code w a = some (seen, c', w') ∧
      c.access lookup code.recorded w.recording a =
        some (seen, c', ⟨w'.pool, (w'.native, calls)⟩) ∧
      c'.Of d lookup ∧ KeepsBuffers d code a w seen w' calls := by
  obtain ⟨e, c', hserves, -, hc', heffect⟩ := h.access_effect (h.admits_iff.2 ha)
  obtain ⟨seen, w', calls, hrun, hrecorded, hkeeps⟩ := e.keeps hserves code w
  refine ⟨seen, c', w', calls, ?_, ?_, hc', hkeeps⟩
  · rw [heffect code w, hrun]
  · rw [heffect code.recorded w.recording, hrecorded]

theorem Of.run_live (h : c.Of d lookup) (code : NativeCode σ) {accesses : List Access}
    (ha : ∀ a ∈ accesses, (start d lookup).Admits a) (w : World σ) :
    ∃ seen c' w', c.run lookup code accesses w = some (seen, c', w') ∧ c'.Of d lookup ∧
      w'.pool.live = w.pool.live := by
  induction accesses generalizing c w with
  | nil => exact ⟨[], c, w, rfl, h, rfl⟩
  | cons a rest ih =>
    obtain ⟨hfirst, hrest⟩ := List.forall_mem_cons.1 ha
    obtain ⟨seen, c₁, w₁, _, haccess, _, hc₁, hkeeps⟩ := h.access_keeps hfirst code w
    obtain ⟨more, c', w', hrun, hc', hlive⟩ := ih hc₁ hrest w₁
    refine ⟨seen :: more, c', w', ?_, hc', hlive.trans hkeeps.after⟩
    simp only [run, haccess, hrun, Option.bind_eq_bind, Option.bind_some]
    rfl

/-- A program may use an interface in all three ways, in any order, as often as it likes and with
any arguments: as many buffers are alive afterwards as before, and every further access keeps the
buffers as `KeepsBuffers` says, also while native code runs. -/
theorem run_keeps (d : Description) (lookup : SymbolLookup) (code : NativeCode σ)
    {accesses : List Access} (ha : ∀ a ∈ accesses, (start d lookup).Admits a) (w : World σ) :
    ∃ seen c w', (start d lookup).run lookup code accesses w = some (seen, c, w') ∧
      w'.pool.live = w.pool.live ∧
      ∀ a, (start d lookup).Admits a →
        ∃ next c' w'' calls, c.access lookup code w' a = some (next, c', w'') ∧
          c.access lookup code.recorded w'.recording a =
            some (next, c', ⟨w''.pool, (w''.native, calls)⟩) ∧
          KeepsBuffers d code a w' next w'' calls := by
  obtain ⟨seen, c, w', hrun, hc, hlive⟩ := (start_of d lookup).run_live code ha w
  refine ⟨seen, c, w', hrun, hlive, fun a hadmits => ?_⟩
  obtain ⟨next, c', w'', calls, haccess, hrecorded, _, hkeeps⟩ := hc.access_keeps hadmits code w'
  exact ⟨next, c', w'', calls, haccess, hrecorded, hkeeps⟩

end Client

/-- An interface of one function, which returns its argument. -/
def echoing : Description := ⟨"Echoing", [Sample.signature "nb_echo" [.string] .string]⟩

def echoingPlan : Plan := ⟨"Echoing", [⟨⟨0⟩, "nb_echo", [.string], .string⟩]⟩

def echoLookup : SymbolLookup := (Sample.table "sample" ["nb_echo"]).lookup

/-- Accesses of all three kinds. The first succeeds, the others fail: there is no argument, and
there is a zero byte. -/
def echoAccesses : List Access := [
  .dynamic (.need (.operation (.callByName "nb_echo" [.string "é"]))),
  .generated (.call ⟨0⟩ []),
  .stub (identOf "nb_echo") [.string (some "a\x00")]]

theorem echoAccesses_admitted : ∀ a ∈ echoAccesses, (Client.start echoing echoLookup).Admits a := by
  have hsorted : echoing.sorted = echoing.signatures := List.mergeSort_of_pairwise (by decide)
  have hp : Plan.analyze echoing = .ok echoingPlan := by
    rw [Plan.analyze_eq_ok_iff, hsorted]
    decide
  have ht : typeIdent echoingPlan.interface = .ok ⟨"Echoing", false⟩ :=
    typeIdent_of_capital (by decide) (by decide_cbv) (by decide)
  have hn : methodNames echoingPlan.symbols = .ok _ :=
    methodNames_eq_ok_iff.2 ⟨rfl, by decide, by decide, by decide⟩
  obtain ⟨t, hplan⟩ : ∃ t, (BindingTable.fromPlan echoingPlan echoLookup).1 = .ok t := ⟨_, rfl⟩
  obtain ⟨b, hgen, hgenerated⟩ := Client.exists_start_generated hp ht hn hplan
  have hstub := hgen.stub?_eq (m := ⟨⟨0⟩, "nb_echo", [.string], .string⟩) List.mem_cons_self
  intro a ha
  simp only [echoAccesses, List.mem_cons, List.not_mem_nil, or_false] at ha
  rcases ha with rfl | rfl | rfl
  · trivial
  · exact ⟨b, t.toBound, hgenerated⟩
  · exact ⟨b, t.toBound, _, hgenerated, hstub, rfl⟩

theorem run_keeps_echo :
    (∀ a ∈ echoAccesses, (Client.start echoing echoLookup).Admits a) ∧
    ∃ seen c w', (Client.start echoing echoLookup).run echoLookup Sample.code echoAccesses
        ⟨Pool.empty, Sample.State.fresh⟩ = some (seen, c, w') ∧
      w'.pool.live = 0 ∧
      ∀ a, (Client.start echoing echoLookup).Admits a →
        ∃ next c' w'' calls, c.access echoLookup Sample.code w' a = some (next, c', w'') ∧
          c.access echoLookup Sample.code.recorded w'.recording a =
            some (next, c', ⟨w''.pool, (w''.native, calls)⟩) ∧
          KeepsBuffers echoing Sample.code a w' next w'' calls :=
  ⟨echoAccesses_admitted,
    Client.run_keeps echoing echoLookup Sample.code echoAccesses_admitted
      ⟨Pool.empty, Sample.State.fresh⟩⟩

end ForeignCall
