import ForeignCall.Binding.Declaration
import ForeignCall.Proofs.Binding.Printed

/-!
# Entries of declarations

A declaration is a list of entries with commas between them and perhaps one at the end. It is read
if every key is known, a name is given, and signatures are given once.

* `Declaration.Listed` are the lists of entries, `Declaration.ofTokens_listed` says what is read of
  them.
* `Declaration.settled`: which entries are a declaration, and what it is expanded to.
-/

namespace ForeignCall

/-- What may stand behind a value of a declaration. -/
def EndsValue (rest : List Token) : Prop :=
  rest = [] ∨ ∃ glued more, rest = .mark ',' glued :: more

/-- The tokens are read as one expression, whatever stands behind them. -/
def Expression.Reads (v printed : List Token) : Prop :=
  ∀ rest, EndsValue rest → Expression.front? (v ++ rest) = some (printed, rest)

namespace Declaration

/-! ## 1. Entries -/

inductive Entry where
  | name (name : Text)
  | inline (text : Text)
  | file (path : Text)
  /-- An expression, as it is printed. -/
  | resolver (expr : Text)
  | other (key : Text)
deriving DecidableEq

namespace Entry

def key : Entry → Text
  | name _ => "name"
  | inline _ => "source"
  | file _ => "path"
  | resolver _ => "entry"
  | other key => key

theorem key_name (given : Text) : (name given).key = "name" := rfl

theorem key_inline (text : Text) : (inline text).key = "source" := rfl

theorem key_file (path : Text) : (file path).key = "path" := rfl

theorem key_resolver (expr : Text) : (resolver expr).key = "entry" := rfl

def keys : List Text := ["name", "source", "path", "entry"]

/-- The entry gives signatures. -/
def givesSignatures (e : Entry) : Bool := e.key ∈ (["source", "path"] : List Text)

/-- The tokens are a value that the key of the entry asks for, and stand for what it gives. -/
inductive Value : Entry → List Token → Prop
  | name {w : Text} : w ∉ strictKeywords → Value (.name w) [.word w]
  | inline {t text suffix : Text} :
      Literal.text? t = some (text, suffix) → Value (.inline text) [.literal t]
  | file {t path suffix : Text} :
      Literal.text? t = some (path, suffix) → Value (.file path) [.literal t]
  | resolver {v printed : List Token} :
      Expression.Reads v printed → Value (.resolver (Token.render printed)) v
  | other {key : Text} {v : List Token} : key ∉ keys → Value (.other key) v

/-- A call for a library is a value, however its reference is written. -/
theorem value_library (glued : Bool) (spec : LibrarySpec) :
    Value (.resolver (Token.render (resolverCall false spec))) (resolverCall glued spec) := by
  refine .resolver fun rest hends => ?_
  refine IsOperand.front?_append (isOperand_resolverCall glued spec) (by decide) ?_
  obtain rfl | ⟨before, more, rfl⟩ := hends
  · exact .nothing
  · exact .comma before more

def name? : Entry → Option Text
  | name given => some given
  | _ => none

def source? : Entry → Option SignatureSource
  | inline text => some (.inline text)
  | file path => some (.file path)
  | _ => none

def resolver? : Entry → Option Text
  | resolver expr => some expr
  | _ => none

end Entry

/-- The tokens are these entries with commas between them, and perhaps one at the end. -/
inductive Listed : List Entry → List Token → Prop
  | nil : Listed [] []
  | last {e : Entry} {v : List Token} (glued : Bool) :
      e.Value v → Listed [e] (.word e.key :: .mark '=' glued :: v)
  | cons {e : Entry} {v : List Token} {es : List Entry} {ts : List Token} (glued before : Bool) :
      e.Value v → Listed es ts →
        Listed (e :: es) (.word e.key :: .mark '=' glued :: (v ++ .mark ',' before :: ts))

/-! ## 2. Reading an entry -/

section Reading

variable {e : Entry} {v rest : List Token} {acc acc' : DeclarationEntries}

/-- The entries so far with one more. -/
structure Adds (e : Entry) (acc acc' : DeclarationEntries) : Prop where
  name : acc'.name = e.name?.or acc.name
  source : acc'.source = e.source?.or acc.source
  resolver : acc'.resolver.map Token.render = e.resolver?.or (acc.resolver.map Token.render)

theorem key_ne :
    ("source" : Text) ≠ "name" ∧ ("path" : Text) ≠ "name" ∧ ("entry" : Text) ≠ "name" ∧
    ("path" : Text) ≠ "source" ∧ ("entry" : Text) ≠ "source" ∧ ("entry" : Text) ≠ "path" := by
  decide_cbv

theorem value_name (ts : List Token) : acc.value "name" ts =
    (DeclarationEntries.nameValue ts).map fun r => ({ acc with name := some r.1 }, r.2) := by
  rw [DeclarationEntries.value, if_pos rfl]
  cases DeclarationEntries.nameValue ts <;> rfl

theorem ne_name {key : Text} (hkey : key = "source" ∨ key = "path") : key ≠ "name" := by
  rcases hkey with rfl | rfl
  · exact key_ne.1
  · exact key_ne.2.1

theorem value_first {key : Text} (hkey : key = "source" ∨ key = "path") (h : acc.source = none)
    (ts : List Token) : acc.value key ts =
      (DeclarationEntries.textValue ts).map fun r =>
        ({ acc with source := some (if key = "source" then .inline r.1 else .file r.1) }, r.2) := by
  rw [DeclarationEntries.value, if_neg (ne_name hkey), if_pos hkey, h]
  cases DeclarationEntries.textValue ts <;> rfl

theorem value_second {key : Text} (hkey : key = "source" ∨ key = "path")
    (h : acc.source.isSome) (ts : List Token) :
    acc.value key ts = .error .secondSource := by
  rw [DeclarationEntries.value, if_neg (ne_name hkey), if_pos hkey, if_pos h]
  rfl

theorem value_entry (ts : List Token) : acc.value "entry" ts =
    (orError .malformed (Expression.front? ts)).map fun r =>
      ({ acc with resolver := some r.1 }, r.2) := by
  obtain ⟨-, -, hname, -, hsource, hpath⟩ := key_ne
  rw [DeclarationEntries.value, if_neg hname, if_neg (not_or.2 ⟨hsource, hpath⟩), if_pos rfl]
  cases Expression.front? ts <;> rfl

theorem value_other {key : Text} (h : key ∉ Entry.keys) (ts : List Token) :
    acc.value key ts = .error (.unknownKey key) := by
  simp only [Entry.keys, List.mem_cons, List.not_mem_nil, or_false, not_or] at h
  obtain ⟨hname, hsource, hpath, hentry⟩ := h
  rw [DeclarationEntries.value, if_neg hname, if_neg (not_or.2 ⟨hsource, hpath⟩), if_neg hentry]
  rfl

theorem entry_eq (key : Text) (glued : Bool) (ts : List Token) :
    acc.entry (.word key :: .mark '=' glued :: ts) =
      if key ∈ strictKeywords then .error .malformed else acc.value key ts := by
  rw [DeclarationEntries.entry, DeclarationEntries.nameValue]
  split <;> rfl

theorem not_mem_strictKeywords {key : Text} (h : key ∈ Entry.keys) : key ∉ strictKeywords := by
  have hall : ∀ key ∈ Entry.keys, key ∉ strictKeywords := by
    unfold Entry.keys strictKeywords
    repeat rw [String.toList_ofList]
    decide +kernel
  exact hall key h

theorem exists_entry_ok (hv : e.Value v) (hrest : EndsValue rest) (hkey : e.key ∈ Entry.keys)
    (hsource : e.source? = none ∨ acc.source = none) (glued : Bool) :
    ∃ acc', acc.entry (.word e.key :: .mark '=' glued :: (v ++ rest)) = .ok (acc', rest) ∧
      Adds e acc acc' := by
  rw [entry_eq, if_neg (not_mem_strictKeywords hkey)]
  cases hv with
  | @name w hw =>
    refine ⟨{ acc with name := some w }, ?_, rfl, rfl, rfl⟩
    rw [Entry.key_name, value_name, List.singleton_append, DeclarationEntries.nameValue, if_neg hw]
    rfl
  | @inline t text _ ht =>
    have hnone : acc.source = none := hsource.resolve_left (Option.some_ne_none _)
    refine ⟨{ acc with source := some (.inline text) }, ?_, rfl, rfl, rfl⟩
    rw [Entry.key_inline, value_first (.inl rfl) hnone, List.singleton_append,
      DeclarationEntries.textValue, ht]
    rfl
  | @file t path _ ht =>
    have hnone : acc.source = none := hsource.resolve_left (Option.some_ne_none _)
    refine ⟨{ acc with source := some (.file path) }, ?_, rfl, rfl, rfl⟩
    rw [Entry.key_file, value_first (.inr rfl) hnone, List.singleton_append,
      DeclarationEntries.textValue, ht]
    rfl
  | @resolver v printed hreads =>
    refine ⟨{ acc with resolver := some printed }, ?_, rfl, rfl, rfl⟩
    rw [Entry.key_resolver, value_entry, hreads rest hrest]
    rfl
  | other hother => exact absurd hkey hother

theorem exists_entry_error (hv : e.Value v)
    (h : e.key ∉ Entry.keys ∨ (e.source?.isSome ∧ acc.source.isSome)) (glued : Bool) :
    ∃ fault, acc.entry (.word e.key :: .mark '=' glued :: (v ++ rest)) = .error fault := by
  rw [entry_eq]
  split
  case isTrue => exact ⟨_, rfl⟩
  case isFalse =>
    rcases h with hkey | ⟨hgives, hsource⟩
    · exact ⟨_, value_other hkey _⟩
    · cases hv with
      | inline => exact ⟨_, value_second (.inl rfl) hsource _⟩
      | file => exact ⟨_, value_second (.inr rfl) hsource _⟩
      | _ => cases hgives

end Reading

/-! ## 3. Reading all entries -/

section Entries

variable {α : Type} {e : Entry} {es : List Entry} {ts : List Token} {acc acc' : DeclarationEntries}

/-- The last one that is given. -/
def lastOf (given : Entry → Option α) (es : List Entry) : Option α := (es.filterMap given).getLast?

theorem lastOf_cons (given : Entry → Option α) (e : Entry) (es : List Entry) :
    lastOf given (e :: es) = (lastOf given es).or (given e) := by
  rw [lastOf, lastOf, List.filterMap_cons]
  cases given e with
  | none => simp
  | some a =>
    dsimp only
    rw [List.getLast?_cons]
    cases (es.filterMap given).getLast? <;> rfl

/-- The entries so far with more of them. -/
structure AddsAll (es : List Entry) (acc acc' : DeclarationEntries) : Prop where
  name : acc'.name = (lastOf Entry.name? es).or acc.name
  source : acc'.source = (lastOf Entry.source? es).or acc.source
  resolver : acc'.resolver.map Token.render =
    (lastOf Entry.resolver? es).or (acc.resolver.map Token.render)

theorem Adds.addsAll (h : Adds e acc acc') : AddsAll [e] acc acc' := by
  have hsingle {α : Type} (given : Entry → Option α) : lastOf given [e] = given e := lastOf_cons ..
  exact ⟨hsingle _ ▸ h.name, hsingle _ ▸ h.source, hsingle _ ▸ h.resolver⟩

theorem AddsAll.cons {acc'' : DeclarationEntries} (h : Adds e acc acc')
    (hes : AddsAll es acc' acc'') : AddsAll (e :: es) acc acc'' := by
  constructor
  · rw [hes.name, h.name, lastOf_cons, Option.or_assoc]
  · rw [hes.source, h.source, lastOf_cons, Option.or_assoc]
  · rw [hes.resolver, h.resolver, lastOf_cons, Option.or_assoc]

/-- Every key is known, and signatures are given at most once, here or before. -/
def Admitted (es : List Entry) (acc : DeclarationEntries) : Prop :=
  (∀ e ∈ es, e.key ∈ Entry.keys) ∧
    (es.filterMap Entry.source?).length + acc.source.toList.length ≤ 1

/-- The entry can be read behind those before. -/
def Next (e : Entry) (acc : DeclarationEntries) : Prop :=
  e.key ∈ Entry.keys ∧ (e.source? = none ∨ acc.source = none)

theorem Admitted.next (h : Admitted (e :: es) acc) : Next e acc := by
  obtain ⟨hkeys, hsource⟩ := h
  refine ⟨hkeys e List.mem_cons_self, ?_⟩
  cases hgiven : e.source? with
  | none => exact .inl rfl
  | some s =>
    rw [List.filterMap_cons, hgiven] at hsource
    cases hacc : acc.source with
    | none => exact .inr rfl
    | some t =>
      rw [hacc] at hsource
      simp only [List.length_cons, Option.toList_some, List.length_nil] at hsource
      omega

theorem admitted_cons_iff (hnext : Next e acc) (h : Adds e acc acc') :
    Admitted (e :: es) acc ↔ Admitted es acc' := by
  obtain ⟨hkey, hsource⟩ := hnext
  rw [Admitted, Admitted, List.forall_mem_cons, h.source, List.filterMap_cons]
  cases hgiven : e.source? with
  | none => simp [hkey]
  | some s =>
    have hnone : acc.source = none := hsource.resolve_left (hgiven ▸ Option.some_ne_none s)
    simp [hkey, hnone]

theorem admitted_nil (acc : DeclarationEntries) : Admitted [] acc := by
  refine ⟨List.forall_mem_nil _, ?_⟩
  cases acc.source with
  | none => exact Nat.zero_le 1
  | some s => exact Nat.le_refl 1

theorem not_admitted_of_not_next (h : ¬ Next e acc) :
    e.key ∉ Entry.keys ∨ (e.source?.isSome ∧ acc.source.isSome) := by
  rw [Next, Classical.not_and_iff_not_or_not, not_or] at h
  exact h.imp_right (And.imp Option.isSome_iff_ne_none.2 Option.isSome_iff_ne_none.2)

section Steps

variable {n : Nat} {t : Token} {rest : List Token}

theorem readUpTo_of_error {fault : DeclarationFault} (h : acc.entry (t :: ts) = .error fault) :
    DeclarationEntries.readUpTo (n + 1) acc (t :: ts) = .error fault := by
  simp only [DeclarationEntries.readUpTo, h]

theorem readUpTo_of_last (h : acc.entry (t :: ts) = .ok (acc', [])) :
    DeclarationEntries.readUpTo (n + 1) acc (t :: ts) = .ok acc' := by
  simp only [DeclarationEntries.readUpTo, h]

theorem readUpTo_of_comma {glued : Bool}
    (h : acc.entry (t :: ts) = .ok (acc', .mark ',' glued :: rest)) :
    DeclarationEntries.readUpTo (n + 1) acc (t :: ts) =
      DeclarationEntries.readUpTo n acc' rest := by
  simp only [DeclarationEntries.readUpTo, h]

end Steps

/-- Entries are read exactly if they are admitted. -/
theorem readUpTo_listed (h : Listed es ts) {n : Nat} (hn : es.length ≤ n)
    (acc : DeclarationEntries) :
    (Admitted es acc → ∃ acc', DeclarationEntries.readUpTo n acc ts = .ok acc' ∧
      AddsAll es acc acc') ∧
    (¬ Admitted es acc → ∃ fault, DeclarationEntries.readUpTo n acc ts = .error fault) := by
  induction h generalizing n acc with
  | nil =>
    refine ⟨fun _ => ⟨acc, ?_, rfl, rfl, rfl⟩, fun hnot => absurd (admitted_nil acc) hnot⟩
    cases n <;> rfl
  | @last e v glued hv =>
    obtain ⟨n, rfl⟩ := Nat.exists_eq_add_of_le' hn
    by_cases hnext : Next e acc
    · obtain ⟨acc', hentry, hadds⟩ := exists_entry_ok hv (.inl rfl) hnext.1 hnext.2 glued
      rw [List.append_nil] at hentry
      refine ⟨fun _ => ⟨acc', readUpTo_of_last hentry, hadds.addsAll⟩, fun hnot => ?_⟩
      exact absurd ((admitted_cons_iff hnext hadds).2 (admitted_nil acc')) hnot
    · obtain ⟨fault, hentry⟩ :=
        exists_entry_error hv (not_admitted_of_not_next hnext) glued
      rw [List.append_nil] at hentry
      exact ⟨fun h => absurd h.next hnext, fun _ => ⟨fault, readUpTo_of_error hentry⟩⟩
  | @cons e v es ts glued before hv hes ih =>
    obtain ⟨n, rfl⟩ := Nat.exists_eq_add_of_le' (Nat.le_of_add_left_le hn)
    by_cases hnext : Next e acc
    · obtain ⟨acc', hentry, hadds⟩ :=
        exists_entry_ok hv (.inr ⟨before, ts, rfl⟩) hnext.1 hnext.2 glued
      rw [readUpTo_of_comma hentry, admitted_cons_iff hnext hadds]
      obtain ⟨hread, hfails⟩ := ih (Nat.le_of_succ_le_succ hn) acc'
      refine ⟨fun h => ?_, hfails⟩
      obtain ⟨acc'', hrest, hall⟩ := hread h
      exact ⟨acc'', hrest, hall.cons hadds⟩
    · obtain ⟨fault, hentry⟩ :=
        exists_entry_error hv (not_admitted_of_not_next hnext) glued
      exact ⟨fun h => absurd h.next hnext, fun _ => ⟨fault, readUpTo_of_error hentry⟩⟩

end Entries

/-! ## 4. Declarations -/

section Whole

variable {α : Type} {e : Entry} {es es' : List Entry} {ts : List Token}

theorem Listed.length_le (h : Listed es ts) : es.length ≤ ts.length := by
  induction h with
  | nil => exact Nat.zero_le 0
  | last glued hv =>
    simp only [List.length_cons, List.length_nil]
    omega
  | cons glued before hv hes ih =>
    simp only [List.length_cons, List.length_append]
    omega

theorem Listed.exists_value (h : Listed es ts) : ∀ e ∈ es, ∃ v, e.Value v := by
  induction h with
  | nil => exact List.forall_mem_nil _
  | @last e v glued hv => exact List.forall_mem_singleton.2 ⟨v, hv⟩
  | @cons e v es ts glued before hv hes ih => exact List.forall_mem_cons.2 ⟨⟨v, hv⟩, ih⟩

theorem eq_nil_or_singleton {l : List α} (h : l.length ≤ 1) : l = [] ∨ ∃ a, l = [a] := by
  cases l with
  | nil => exact .inl rfl
  | cons a l =>
    have hnil : l = [] := List.eq_nil_of_length_eq_zero (Nat.le_zero.1 (Nat.le_of_succ_le_succ h))
    exact .inr ⟨a, by rw [hnil]⟩

/-- A list of at most one element is its last one. -/
theorem eq_singleton_of_getLast? {l : List α} {a : α} (hlength : l.length ≤ 1)
    (h : l.getLast? = some a) : l = [a] := by
  rcases eq_nil_or_singleton hlength with rfl | ⟨b, rfl⟩
  · cases h
  · exact congrArg (fun c => [c]) (Option.some.inj h)

theorem declaration_eq_ok_iff {acc : DeclarationEntries} {d : Declaration} :
    acc.declaration = .ok d ↔
      acc.name = some d.name ∧ acc.source = some d.source ∧ acc.resolver = d.resolver := by
  simp only [DeclarationEntries.declaration, bind_eq_ok_iff, orError_eq_ok_iff, pure_eq_ok_iff]
  constructor
  · rintro ⟨name, hname, source, hsource, rfl⟩
    exact ⟨hname, hsource, rfl⟩
  · rintro ⟨hname, hsource, hresolver⟩
    exact ⟨_, hname, _, hsource, congrArg _ hresolver⟩

/-- The tokens of entries are a declaration exactly if every key is known, there is a name, and
signatures are given once. What is given last counts. -/
theorem ofTokens_listed (h : Listed es ts) :
    (∀ d, ofTokens ts = .ok d → (∀ e ∈ es, e.key ∈ Entry.keys) ∧
      lastOf Entry.name? es = some d.name ∧ es.filterMap Entry.source? = [d.source] ∧
      lastOf Entry.resolver? es = d.resolver.map Token.render) ∧
    ∀ name source, (∀ e ∈ es, e.key ∈ Entry.keys) → lastOf Entry.name? es = some name →
      es.filterMap Entry.source? = [source] → ∃ d, ofTokens ts = .ok d := by
  obtain ⟨hreads, hfails⟩ := readUpTo_listed h h.length_le .empty
  constructor
  · intro d hd
    by_cases hadmitted : Admitted es .empty
    · obtain ⟨acc, hread, hadds⟩ := hreads hadmitted
      rw [ofTokens, hread] at hd
      obtain ⟨hname, hsource, hresolver⟩ := declaration_eq_ok_iff.1 hd
      have hname' : lastOf Entry.name? es = some d.name :=
        (Option.or_none ..).symm.trans (hadds.name.symm.trans hname)
      have hsource' : lastOf Entry.source? es = some d.source :=
        (Option.or_none ..).symm.trans (hadds.source.symm.trans hsource)
      have hresolver' : lastOf Entry.resolver? es = d.resolver.map Token.render :=
        (Option.or_none ..).symm.trans (hadds.resolver.symm.trans (by rw [hresolver]))
      refine ⟨hadmitted.1, hname', ?_, hresolver'⟩
      exact eq_singleton_of_getLast? hadmitted.2 hsource'
    · obtain ⟨fault, hread⟩ := hfails hadmitted
      rw [ofTokens, hread] at hd
      cases hd
  · intro name source hkeys hname hsource
    have hadmitted : Admitted es .empty := ⟨hkeys, by rw [hsource]; exact Nat.le_refl 1⟩
    obtain ⟨acc, hread, hadds⟩ := hreads hadmitted
    have hname' : acc.name = some name := hadds.name.trans (by rw [hname]; rfl)
    have hsource' : acc.source = some source := hadds.source.trans (by rw [lastOf, hsource]; rfl)
    refine ⟨⟨name, source, acc.resolver⟩, ?_⟩
    rw [ofTokens, hread]
    exact declaration_eq_ok_iff.2 ⟨hname', hsource', rfl⟩

end Whole

/-! ## 5. Keys and order -/

section Keys

variable {α : Type} {e : Entry} {v : List Token} {es es' : List Entry} {ts : List Token}

theorem Entry.Value.key_eq_name_iff (h : e.Value v) : e.key = "name" ↔ e.name?.isSome := by
  obtain ⟨hsource, hpath, hentry, -⟩ := key_ne
  cases h with
  | name => exact iff_of_true rfl rfl
  | inline => exact iff_of_false hsource Bool.false_ne_true
  | file => exact iff_of_false hpath Bool.false_ne_true
  | resolver => exact iff_of_false hentry Bool.false_ne_true
  | other hkey =>
    refine iff_of_false (fun hname => hkey (List.mem_cons.2 (.inl hname))) Bool.false_ne_true

theorem Entry.Value.givesSignatures_eq (h : e.Value v) :
    e.givesSignatures = e.source?.isSome := by
  have hplain : decide (("name" : Text) ∈ (["source", "path"] : List Text)) = false ∧
      decide (("entry" : Text) ∈ (["source", "path"] : List Text)) = false := by decide_cbv
  have hgiven : decide (("source" : Text) ∈ (["source", "path"] : List Text)) = true ∧
      decide (("path" : Text) ∈ (["source", "path"] : List Text)) = true := by decide_cbv
  cases h with
  | @other key v hkey =>
    refine decide_eq_false fun hmem => hkey (List.mem_cons_of_mem _ ?_)
    exact List.Sublist.mem hmem (.cons_cons _ (.cons_cons _ (List.nil_sublist _)))
  | name w => exact hplain.1
  | resolver => exact hplain.2
  | inline => exact hgiven.1
  | file => exact hgiven.2

theorem exists_lastOf_iff {given : Entry → Option α} :
    (∃ a, lastOf given es = some a) ↔ ∃ e ∈ es, (given e).isSome := by
  constructor
  · rintro ⟨a, ha⟩
    obtain ⟨e, he, hgiven⟩ := List.mem_filterMap.1 (List.mem_of_getLast? ha)
    exact ⟨e, he, Option.isSome_of_eq_some hgiven⟩
  · rintro ⟨e, he, hgiven⟩
    obtain ⟨a, ha⟩ := Option.isSome_iff_exists.1 hgiven
    have hne : es.filterMap given ≠ [] := List.ne_nil_of_mem (List.mem_filterMap.2 ⟨e, he, ha⟩)
    exact ⟨_, List.getLast?_eq_some_getLast hne⟩

theorem Listed.exists_name_iff (h : Listed es ts) :
    (∃ name, lastOf Entry.name? es = some name) ↔ ∃ e ∈ es, e.key = "name" := by
  rw [exists_lastOf_iff]
  refine exists_congr fun e => and_congr_right fun he => ?_
  obtain ⟨v, hv⟩ := h.exists_value e he
  exact hv.key_eq_name_iff.symm

theorem Listed.countP_eq (h : Listed es ts) :
    es.countP Entry.givesSignatures = (es.filterMap Entry.source?).length := by
  rw [List.length_filterMap_eq_countP]
  refine List.countP_congr fun e he => ?_
  obtain ⟨v, hv⟩ := h.exists_value e he
  rw [hv.givesSignatures_eq]

/-- Where no key is there twice, what only one key gives is given at most once. -/
theorem length_filterMap_le_one {given : Entry → Option α} {key : Text}
    (hgiven : ∀ e, (given e).isSome → e.key = key) (h : (es.map Entry.key).Nodup) :
    (es.filterMap given).length ≤ 1 := by
  rw [List.length_filterMap_eq_countP]
  calc es.countP (fun e => (given e).isSome) ≤ es.countP (fun e => e.key == key) :=
        List.countP_mono_left fun e _ he => beq_iff_eq.2 (hgiven e he)
    _ = (es.map Entry.key).count key := by rw [List.count, List.countP_map]; rfl
    _ ≤ 1 := List.nodup_iff_count.1 h key

theorem key_of_name? (e : Entry) (h : e.name?.isSome) : e.key = "name" := by
  cases e with
  | name => rfl
  | _ => cases h

theorem key_of_resolver? (e : Entry) (h : e.resolver?.isSome) : e.key = "entry" := by
  cases e with
  | resolver => rfl
  | _ => cases h

theorem lastOf_eq_of_perm {given : Entry → Option α} (hperm : es'.Perm es)
    (h : (es.filterMap given).length ≤ 1) : lastOf given es' = lastOf given es := by
  have hgiven := hperm.filterMap given
  rw [lastOf, lastOf]
  rcases eq_nil_or_singleton h with hes | ⟨a, hes⟩
  · rw [hes] at hgiven ⊢
    rw [hgiven.eq_nil]
  · rw [hes] at hgiven ⊢
    rw [List.perm_singleton.1 hgiven]

theorem lastOf_eq_of_mem {given : Entry → Option α} (h : (es.filterMap given).length ≤ 1)
    (he : e ∈ es) {a : α} (ha : given e = some a) : lastOf given es = some a := by
  have hmem : a ∈ es.filterMap given := List.mem_filterMap.2 ⟨e, he, ha⟩
  rw [lastOf]
  rcases eq_nil_or_singleton h with hes | ⟨b, hes⟩
  · rw [hes] at hmem
    cases hmem
  · rw [hes, List.mem_singleton] at hmem
    rw [hes, hmem]
    rfl

end Keys

/-! ## 6. The code of a declaration -/

/-- The file with the binding of an interface, and with the entry-point module if there is a
resolver. -/
def fileFor (resolver : Option Text) (interface : Description) : Except GenerateError Text :=
  match resolver with
  | some expr => generateBoth interface expr
  | none => generate interface

theorem sourceText_eq (d : Declaration) :
    d.sourceText = fileFor (d.resolver.map Token.render) := by
  funext interface
  rw [sourceText]
  cases d.resolver <;> rfl

/-- The code depends on the name, the signatures and the printed resolver. -/
theorem expand_congr {d d' : Declaration} (hname : d.name = d'.name)
    (hsource : d.source = d'.source)
    (hresolver : d.resolver.map Token.render = d'.resolver.map Token.render) :
    d.expand = d'.expand := by
  funext base read
  simp only [expand, describe, file?, sourceText_eq, hname, hsource, hresolver]

/-- The tokens of a generated file, or the error that stands in their place. -/
def tokensOf (made : Except GenerateError Text) : Except ExpandError (List Token) :=
  (made.mapError .generate).bind fun file => orError .notTokens (Token.lex file)

theorem tokensOf_eq {made : Except GenerateError Text} {file : Text} {tokens : List Token}
    (h : made = .ok file) (hlex : Token.lex file = some tokens) : tokensOf made = .ok tokens := by
  rw [h]
  exact congrArg (orError ExpandError.notTokens) hlex

theorem expand_eq_error {d : Declaration} {text : Text} (hsource : d.source = .inline text)
    {e : ParseError} (h : Description.parse d.name text = .error e) (base : Text)
    (read : Text → Except Text Text) : d.expand base read = .error (.signatures e) := by
  rw [expand, describe, hsource]
  dsimp only
  rw [h]
  rfl

theorem expand_eq_tokensOf {d : Declaration} {text : Text} (hsource : d.source = .inline text)
    {interface : Description} (h : Description.parse d.name text = .ok interface) (base : Text)
    (read : Text → Except Text Text) :
    d.expand base read = tokensOf (fileFor (d.resolver.map Token.render) interface) := by
  rw [expand, describe, file?, hsource, sourceText_eq, tokensOf]
  dsimp only
  rw [h]
  change (_ >>= fun text => orError ExpandError.notTokens (Token.lex text) >>= _) = _
  cases fileFor (d.resolver.map Token.render) interface with
  | error e => rfl
  | ok file =>
    change (orError ExpandError.notTokens (Token.lex file) >>= _) = orError _ (Token.lex file)
    cases Token.lex file <;> rfl

section Distinct

variable {es es' : List Entry} {ts ts' : List Token} {d : Declaration}

/-- What a declaration gives, where no key is there twice. -/
theorem mem_of_ofTokens (h : Listed es ts) (hd : ofTokens ts = .ok d)
    (hkeys : (es.map Entry.key).Nodup) :
    (∀ name, .name name ∈ es → d.name = name) ∧
    (∀ text, .inline text ∈ es → d.source = .inline text) ∧
    (∀ expr, .resolver expr ∈ es → d.resolver.map Token.render = some expr) ∧
    ((∀ expr, .resolver expr ∉ es) → d.resolver = none) := by
  obtain ⟨-, hname, hsource, hresolver⟩ := (ofTokens_listed h).1 d hd
  refine ⟨fun name hmem => ?_, fun text hmem => ?_, fun expr hmem => ?_, fun hnone => ?_⟩
  · have hlast := lastOf_eq_of_mem (length_filterMap_le_one key_of_name? hkeys) hmem rfl
    exact Option.some.inj (hname.symm.trans hlast)
  · have hmem : .inline text ∈ es.filterMap Entry.source? := List.mem_filterMap.2 ⟨_, hmem, rfl⟩
    rw [hsource, List.mem_singleton] at hmem
    exact hmem.symm
  · rw [← hresolver]
    exact lastOf_eq_of_mem (length_filterMap_le_one key_of_resolver? hkeys) hmem rfl
  · cases hgiven : d.resolver with
    | none => rfl
    | some printed =>
      rw [hgiven] at hresolver
      obtain ⟨e, he, hsome⟩ := exists_lastOf_iff.1 ⟨_, hresolver⟩
      cases e with
      | resolver expr => exact absurd he (hnone expr)
      | _ => cases hsome

/-- Entries in another order are the same declaration, as far as its code goes. -/
theorem exists_expand_eq_of_perm (h : Listed es ts) (hd : ofTokens ts = .ok d)
    (hkeys : (es.map Entry.key).Nodup) (hperm : es'.Perm es) (h' : Listed es' ts') :
    ∃ d', ofTokens ts' = .ok d' ∧ d'.expand = d.expand := by
  obtain ⟨hknown, hname, hsource, hresolver⟩ := (ofTokens_listed h).1 d hd
  have hknown' : ∀ e ∈ es', e.key ∈ Entry.keys := fun e he => hknown e (hperm.mem_iff.1 he)
  have hname' : lastOf Entry.name? es' = some d.name :=
    (lastOf_eq_of_perm hperm (length_filterMap_le_one key_of_name? hkeys)).trans hname
  have hsource' : es'.filterMap Entry.source? = [d.source] :=
    List.perm_singleton.1 (hsource ▸ hperm.filterMap Entry.source?)
  have hresolver' : lastOf Entry.resolver? es' = d.resolver.map Token.render :=
    (lastOf_eq_of_perm hperm (length_filterMap_le_one key_of_resolver? hkeys)).trans hresolver
  obtain ⟨hgives, hreads⟩ := ofTokens_listed h'
  obtain ⟨d', hd'⟩ := hreads d.name d.source hknown' hname' hsource'
  obtain ⟨-, hname'', hsource'', hresolver''⟩ := hgives d' hd'
  refine ⟨d', hd', expand_congr ?_ ?_ ?_⟩
  · exact Option.some.inj (hname''.symm.trans hname')
  · exact (List.cons.inj (hsource''.symm.trans hsource')).1
  · exact hresolver''.symm.trans hresolver'

end Distinct

/-- Entries are a declaration if every key is known, there is a name, and signatures are given once.
Where no key is there twice, its code depends neither on the order of the entries nor on a comma at
the end. With signatures in place it is the tokens of what is generated for them, and these are the
tokens of the items if no resolver is given, or a legible one, as a call for a library is. -/
theorem settled {es : List Entry} {ts : List Token} (h : Listed es ts) :
    ((∃ d, ofTokens ts = .ok d) ↔ (∀ e ∈ es, e.key ∈ Entry.keys) ∧
      (∃ e ∈ es, e.key = "name") ∧ es.countP Entry.givesSignatures = 1) ∧
    ∀ d, ofTokens ts = .ok d → (es.map Entry.key).Nodup →
      (∀ es' ts', es'.Perm es → Listed es' ts' →
        ∃ d', ofTokens ts' = .ok d' ∧ ∀ base read, d'.expand base read = d.expand base read) ∧
      ∀ name text, .name name ∈ es → .inline text ∈ es → ∀ base read,
        (∀ e, Description.parse name text = .error e →
          d.expand base read = .error (.signatures e)) ∧
        ∀ interface, Description.parse name text = .ok interface →
          ((∀ expr, .resolver expr ∉ es) →
            d.expand base read = tokensOf (generate interface) ∧
            ∀ file, generate interface = .ok file →
              ∃ p b, Plan.analyze interface = .ok p ∧ typedBinding p = .ok b ∧
                Token.lex file = some b.items.flatten ∧
                d.expand base read = .ok b.items.flatten) ∧
          ∀ expr, .resolver expr ∈ es →
            d.expand base read = tokensOf (generateBoth interface expr) ∧
            ∀ file, generateBoth interface expr = .ok file →
              ∃ p b m, Plan.analyze interface = .ok p ∧ typedBinding p = .ok b ∧
                entryModule p expr = .ok m ∧
                (∀ spec, expr = Token.render (resolverCall false spec) → Piece m.resolver) ∧
                (Piece m.resolver →
                  Token.lex file = some (b.items.flatten ++ m.item) ∧
                  d.expand base read = .ok (b.items.flatten ++ m.item)) := by
  refine ⟨?accepted, fun d hd hkeys => ⟨?order, fun name text hname hinline base read => ?code⟩⟩
  case accepted =>
    rw [h.countP_eq, ← h.exists_name_iff, List.length_eq_one_iff]
    obtain ⟨hgives, hreads⟩ := ofTokens_listed h
    constructor
    · rintro ⟨d, hd⟩
      obtain ⟨hknown, hname, hsource, -⟩ := hgives d hd
      exact ⟨hknown, ⟨_, hname⟩, ⟨_, hsource⟩⟩
    · rintro ⟨hknown, ⟨name, hname⟩, ⟨source, hsource⟩⟩
      exact hreads name source hknown hname hsource
  case order =>
    intro es' ts' hperm h'
    obtain ⟨d', hd', heq⟩ := exists_expand_eq_of_perm h hd hkeys hperm h'
    exact ⟨d', hd', fun base read => congrFun (congrFun heq base) read⟩
  case code =>
    obtain ⟨hnames, htexts, hresolvers, hnone⟩ := mem_of_ofTokens h hd hkeys
    have hsource := htexts text hinline
    rw [← hnames name hname]
    refine ⟨fun e he => expand_eq_error hsource he base read, fun interface hparse => ?_⟩
    have hexpand := expand_eq_tokensOf hsource hparse base read
    constructor
    · intro hno
      rw [hnone hno] at hexpand
      refine ⟨hexpand, fun file hfile => ?_⟩
      obtain ⟨p, b, hp, hb, -, hlex⟩ := lex_generate hfile
      exact ⟨p, b, hp, hb, hlex, hexpand.trans (tokensOf_eq hfile hlex)⟩
    · intro expr hmem
      rw [hresolvers expr hmem] at hexpand
      refine ⟨hexpand, fun file hfile => ?_⟩
      obtain ⟨p, b, m, hp, hb, hm, -, hlex⟩ := lex_generateBoth hfile
      refine ⟨p, b, m, hp, hb, hm, ?_, fun hresolver => ⟨hlex hresolver, ?_⟩⟩
      · rintro spec rfl
        exact EntryModule.piece_resolver hm (resolverTokens_render spec)
      · exact hexpand.trans (tokensOf_eq hfile (hlex hresolver))

/-- A name and signatures, with a comma at the end. -/
def hostTokens : List Token := [
  .word "name", .mark '=' false, .word "Host", .mark ',' false,
  .word "source", .mark '=' false, .literal "\"labs: (long) -> long\"", .mark ',' false]

theorem listed_host {es : List Entry} {ts : List Token} (h : Listed es ts) :
    Listed (.name "Host" :: .inline "labs: (long) -> long" :: es) (hostTokens ++ ts) := by
  have hname : Entry.Value (.name "Host") [.word "Host"] := by
    refine .name ?_
    unfold strictKeywords
    repeat rw [String.toList_ofList]
    decide +kernel
  have htext : Literal.text? "\"labs: (long) -> long\"" =
      some ("labs: (long) -> long".toList, []) := by
    decide_cbv
  exact .cons false false hname (.cons false false (.inline htext) h)

/-- The expression of a call for the process. -/
def processCall : Text := Token.render (resolverCall false .currentProcess)

theorem settled_host :
    (Listed [.name "Host", .inline "labs: (long) -> long"] hostTokens ∧
      ∃ d, ofTokens hostTokens = .ok d ∧
        ∀ base read, ∃ tokens, d.expand base read = .ok tokens) ∧
    ∃ ts, Listed [.name "Host", .inline "labs: (long) -> long", .resolver processCall] ts ∧
      ∃ d, ofTokens ts = .ok d ∧ ∀ base read, ∃ tokens, d.expand base read = .ok tokens := by
  have hentry : Listed [.resolver processCall] _ :=
    .last false (Entry.value_library true .currentProcess)
  have hkeys : ([.name "Host", .inline "labs: (long) -> long", .resolver processCall].map
      Entry.key).Nodup := by
    rw [List.map_cons, List.map_cons, List.map_singleton, Entry.key_name, Entry.key_inline,
      Entry.key_resolver]
    decide_cbv
  have hknown : ("name" : Text) ∈ Entry.keys ∧ ("source" : Text) ∈ Entry.keys ∧
      ("entry" : Text) ∈ Entry.keys := by
    decide_cbv
  have hparse : Description.parse "Host" "labs: (long) -> long" =
      .ok ⟨"Host", [⟨"labs", [.named "long"], .named "long"⟩]⟩ := by
    decide_cbv
  have hsome : (generateBoth ⟨"Host", [⟨"labs", [.named "long"], .named "long"⟩]⟩
      processCall).toOption.isSome := by
    decide +kernel
  obtain ⟨file, hboth⟩ : ∃ file, generateBoth ⟨"Host", [⟨"labs", [.named "long"], .named "long"⟩]⟩
      processCall = .ok file := by
    revert hsome
    cases generateBoth ⟨"Host", [⟨"labs", [.named "long"], .named "long"⟩]⟩ processCall with
    | error e => rintro ⟨⟩
    | ok file => exact fun _ => ⟨file, rfl⟩
  refine ⟨⟨listed_host .nil, ?alone⟩, _, listed_host hentry, ?withEntry⟩
  case alone =>
    obtain ⟨haccepted, hcode⟩ := settled (listed_host .nil)
    obtain ⟨d, hd⟩ := haccepted.2 ⟨by simpa [Entry.key_name, Entry.key_inline]
      using ⟨hknown.1, hknown.2.1⟩, ⟨_, List.mem_cons_self, Entry.key_name _⟩,
      (listed_host .nil).countP_eq.trans rfl⟩
    refine ⟨d, hd, fun base read => ?_⟩
    obtain ⟨-, hinterface⟩ := (hcode d hd (hkeys.sublist (by simp))).2 "Host"
      "labs: (long) -> long" (by simp) (by simp) base read
    obtain ⟨-, hfile⟩ := (hinterface _ hparse).1 (by simp)
    obtain ⟨p, b, m, hp, hb, -, -⟩ := generateBoth_eq_ok_iff.1 hboth
    obtain ⟨p, b, -, -, -, hexpand⟩ := hfile _ (generate_eq_ok_iff.2 ⟨p, b, hp, hb, rfl⟩)
    exact ⟨b.items.flatten, hexpand⟩
  case withEntry =>
    obtain ⟨haccepted, hcode⟩ := settled (listed_host hentry)
    obtain ⟨d, hd⟩ := haccepted.2 ⟨by simpa [Entry.key_name, Entry.key_inline, Entry.key_resolver]
      using hknown, ⟨_, List.mem_cons_self, Entry.key_name _⟩,
      (listed_host hentry).countP_eq.trans rfl⟩
    refine ⟨d, hd, fun base read => ?_⟩
    obtain ⟨-, hinterface⟩ := (hcode d hd hkeys).2 "Host" "labs: (long) -> long" (by simp)
      (by simp) base read
    obtain ⟨-, hfile⟩ := (hinterface _ hparse).2 processCall (by simp)
    obtain ⟨p, b, m, -, -, -, hlegible, hexpand⟩ := hfile file hboth
    exact ⟨b.items.flatten ++ m.item, (hexpand (hlegible .currentProcess rfl)).2⟩

end Declaration
end ForeignCall
