import ForeignCall.Proofs.Binding.Entry

/-!
# The three source files

The typed binding of an interface, its entry-point module, and the file with both. The file with
both is made exactly if the two others are, and it is the first of them with the items of the second
behind it.

* `renderFile_eq_append`: a file is the file without items, and its items behind that.
* `EntryModule.Beside.backed`: a module finds what it refers to in the binding of its plan.
* `generators_agree`: the three files agree, and where there is a module there is its binding.
-/

namespace ForeignCall

/-! ## 1. Files -/

/-- The lines of an item in a file. -/
def itemLines (item : List Token) : Text := '\n' :: (Token.render item ++ ['\n'])

theorem renderFile_eq_append (interface : Text) (items : List (List Token)) :
    renderFile interface items = renderFile interface [] ++ items.flatMap itemLines := by
  have hlines : itemLines = fun item => '\n' :: (Token.render item ++ ['\n']) := rfl
  rw [renderFile, renderFile, List.flatMap_nil, List.append_nil, hlines]

/-- Files of one interface are put together by leaving out the beginning of the second. -/
theorem renderFile_append (interface : Text) (items more : List (List Token)) :
    renderFile interface (items ++ more) = renderFile interface items ++
      (renderFile interface more).drop (renderFile interface []).length := by
  rw [renderFile_eq_append interface (items ++ more), renderFile_eq_append interface items,
    renderFile_eq_append interface more, List.drop_left, List.flatMap_append, List.append_assoc]

/-! ## 2. What a module refers to -/

/-- The code `b` has what the module refers to outside itself: the type that it binds, and for each
of its functions a stub of this name with the same parameters and the same result. -/
structure EntryModule.BackedBy (m : EntryModule) (b : TypedBinding) : Prop where
  type : m.type = b.type
  stub : ∀ f ∈ m.functions, ∃ s, b.stub? f.ident = some s ∧ s.params = f.params ∧ s.ret = f.ret

theorem EntryModule.Beside.backed {p : Plan} {m : EntryModule} {b : TypedBinding}
    (h : m.Beside p b) : m.BackedBy b := by
  refine ⟨h.type, fun f hf => ?_⟩
  obtain ⟨plan, hplan, rfl⟩ := List.mem_map.1 (h.functions ▸ hf)
  exact ⟨_, h.generated.stub?_eq hplan, rfl, rfl⟩

/-- Where a module is made, the binding is made, and the module refers to nothing else. -/
theorem exists_backed_of_entryModule {p : Plan} (hp : p.WellFormed) {resolver : Text}
    {m : EntryModule} (h : entryModule p resolver = .ok m) :
    ∃ b, typedBinding p = .ok b ∧ m.BackedBy b := by
  obtain ⟨b, hb, hbeside⟩ := exists_beside_of_entryModule hp h
  exact ⟨b, hb, hbeside.backed⟩

/-! ## 3. The files -/

/-- The file with both, part by part. -/
theorem generateBoth_eq (d : Description) (resolver : Text) :
    generateBoth d resolver = (do
      let own ← generate d
      let entry ← generateEntry d resolver
      return own ++ entry.drop (renderFile d.name []).length) := by
  rw [generateBoth, generate, generateEntry]
  cases hp : planFor d with
  | error e => rfl
  | ok p =>
    cases hb : typedBinding p with
    | error e => simp [hb, bind, Except.bind]
    | ok b =>
      cases hm : entryModule p resolver with
      | error e => simp [hb, hm, bind, Except.bind, pure, Except.pure]
      | ok m =>
        simp [hb, hm, bind, Except.bind, pure, Except.pure, renderFile_append,
          Plan.interface_eq (planFor_eq_ok_iff.1 hp)]

/-- For every interface and resolver, the file with both fails with the error of the binding if the
binding fails, else with the error of the module if that fails; else it is the file of the binding
followed by what the file of the module has after the beginning that both have. If the module is
made, so is the binding, and it has the type and each stub that the module refers to. -/
theorem generators_agree (d : Description) (resolver : Text) :
    (∀ e, generate d = .error e → generateBoth d resolver = .error e) ∧
    (∀ own e, generate d = .ok own → generateEntry d resolver = .error e →
      generateBoth d resolver = .error e) ∧
    (∀ own entry, generate d = .ok own → generateEntry d resolver = .ok entry →
      ∃ items module, own = renderFile d.name [] ++ items ∧
        entry = renderFile d.name [] ++ module ∧
        generateBoth d resolver = .ok (own ++ module)) ∧
    ∀ entry, generateEntry d resolver = .ok entry →
      ∃ p b m, Plan.analyze d = .ok p ∧ typedBinding p = .ok b ∧ entryModule p resolver = .ok m ∧
        generate d = .ok (renderFile d.name b.items) ∧ entry = renderFile d.name [m.item] ∧
        m.BackedBy b := by
  rw [generateBoth_eq]
  refine ⟨fun e hown => ?_, fun own e hown hentry => ?_, fun own entry hown hentry => ?_,
    fun entry hentry => ?_⟩
  · rw [hown]
    rfl
  · rw [hown, hentry]
    rfl
  · obtain ⟨p, b, hp, hb, rfl⟩ := generate_eq_ok_iff.1 hown
    obtain ⟨p', m, hp', hm, rfl⟩ := generateEntry_eq_ok_iff.1 hentry
    rw [hp] at hp'
    cases hp'
    rw [hown, hentry, Plan.interface_eq hp]
    refine ⟨_, _, renderFile_eq_append d.name b.items, renderFile_eq_append d.name [m.item], ?_⟩
    rw [renderFile_eq_append d.name [m.item]]
    exact congrArg (fun module => Except.ok (renderFile d.name b.items ++ module)) List.drop_left
  · obtain ⟨p, m, hp, hm, rfl⟩ := generateEntry_eq_ok_iff.1 hentry
    obtain ⟨b, hb, hbacked⟩ := exists_backed_of_entryModule (Plan.analyze_wellFormed hp) hm
    have hname := Plan.interface_eq hp
    exact ⟨p, b, m, hp, hb, hm, generate_eq_ok_iff.2 ⟨p, b, hp, hb, hname ▸ rfl⟩, hname ▸ rfl,
      hbacked⟩

end ForeignCall
