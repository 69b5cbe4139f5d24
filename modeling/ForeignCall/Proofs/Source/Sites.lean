import ForeignCall.Proofs.Source.Templates
import Mathlib.Data.List.Forall2

/-!
# Sites of words

Where a word of generated code stands tells what it is for. After `fn` or `struct` it names an item,
after `::`, `.` or `'` it belongs to a path, a field or a lifetime, and before a colon it is a label
or begins a path. Any other word stands for itself.

* `Site.spots` lists the words that name items, and those of some given words that stand for
  themselves.
* `Takes` says which of them a piece of code has whatever follows it, `Reads` which it has if no
  colon follows; both are put together piece by piece.
* `spots_nil`: the words that name items do not depend on the given words.
-/

namespace ForeignCall

/-! ## 1. Sites -/

/-- Where a token stands. -/
inductive Site where
  | free
  /-- After a word that the name of an item follows. -/
  | named (keyword : Text)
  /-- Between two colons that are glued together. -/
  | colons
  /-- Inside a path, or after the mark of a field or a lifetime. -/
  | inner
deriving DecidableEq, Repr

/-- A word at its site. -/
structure Spot where
  site : Site
  word : Text
deriving DecidableEq, Repr

/-- The words that the name of an item follows. -/
def naming : List Text := ["fn", "const", "static", "struct", "mod", "impl", "for"]

namespace Site

def next (p : Site) : Token → Site
  | .word w => if p = free ∧ w ∈ naming then named w else free
  | .mark ':' true => colons
  | .mark ':' false => if p = colons then inner else free
  | .mark c _ => if c = '.' ∨ c = '\'' then inner else free
  | _ => free

def after (p : Site) (ts : List Token) : Site := ts.foldl next p

/-- A colon is in front of the tokens; if there are none, `colon` tells what follows them. -/
def colonAhead (colon : Bool) : List Token → Bool
  | [] => colon
  | .mark c _ :: _ => c = ':'
  | _ :: _ => false

/-- A word at this site names an item, or is one of `names` and stands for itself; `colon` tells
whether a colon follows it. -/
def tells (names : List Text) (p : Site) (word : Text) (colon : Bool) : Bool :=
  match p with
  | named _ => true
  | free => word ∈ names && !colon
  | _ => false

/-- The spot of a token, if it is a word that tells something. -/
def spot? (names : List Text) (p : Site) (colon : Bool) : Token → Option Spot
  | .word w => if p.tells names w colon then some ⟨p, w⟩ else none
  | _ => none

def spots (names : List Text) (p : Site) (colon : Bool) : List Token → List Spot
  | [] => []
  | t :: rest =>
    (p.spot? names (colonAhead colon rest) t).toList ++ spots names (p.next t) colon rest

variable {names : List Text} {p : Site}

theorem after_append (p : Site) (s t : List Token) : p.after (s ++ t) = (p.after s).after t :=
  List.foldl_append

theorem colonAhead_append (colon : Bool) (s t : List Token) :
    colonAhead colon (s ++ t) = colonAhead (colonAhead colon t) s := by
  cases s with
  | nil => rfl
  | cons a s => cases a <;> rfl

/-- What follows a piece matters to it only as far as a colon is in front. -/
theorem spots_append (names : List Text) (p : Site) (colon : Bool) (s t : List Token) :
    spots names p colon (s ++ t) =
      spots names p (colonAhead colon t) s ++ spots names (p.after s) colon t := by
  induction s generalizing p with
  | nil => rfl
  | cons a s ih =>
    rw [List.cons_append, spots, spots, ih, colonAhead_append, List.append_assoc]
    rfl

/-- The words that name items are the same, whatever the given words are. -/
theorem spots_nil (names : List Text) (p : Site) (colon : Bool) (ts : List Token) :
    spots [] p colon ts = (spots names p colon ts).filter (·.site ≠ .free) := by
  induction ts generalizing p with
  | nil => rfl
  | cons t ts ih =>
    rw [spots, spots, ih, List.filter_append]
    congr 1
    cases t with
    | word w => cases p <;> simp [spot?, tells]
    | _ => rfl

end Site

/-! ## 2. Pieces -/

/-- At the site `p` the tokens have these spots and lead to the site `q`, whatever follows. -/
structure Takes (names : List Text) (p : Site) (ts : List Token) (spots : List Spot) (q : Site) :
    Prop where
  spots : ∀ colon, p.spots names colon ts = spots
  after : p.after ts = q

/-- The tokens have no spots, whatever follows. -/
abbrev Spotless (names : List Text) (ts : List Token) : Prop := Takes names .free ts [] .free

/-- Whether the tokens have these spots and lead to the site `q`. -/
def Site.takes (names : List Text) (p : Site) (ts : List Token) (spots : List Spot) (q : Site) :
    Bool :=
  (p.spots names true ts = spots && p.spots names false ts = spots) && p.after ts = q

theorem takes_iff {names : List Text} {p q : Site} {ts : List Token} {spots : List Spot} :
    Takes names p ts spots q ↔ p.takes names ts spots q = true := by
  simp only [Site.takes, Bool.and_eq_true, decide_eq_true_eq]
  refine ⟨fun h => ⟨⟨h.spots true, h.spots false⟩, h.after⟩, fun h => ⟨?_, h.2⟩⟩
  rintro (_ | _)
  exacts [h.1.2, h.1.1]

/-- The tokens have these spots if no colon follows. -/
structure Reads (names : List Text) (ts : List Token) (spots : List Spot) : Prop where
  spots : Site.free.spots names false ts = spots
  after : Site.free.after ts = .free

instance (names : List Text) (ts : List Token) (spots : List Spot) :
    Decidable (Reads names ts spots) :=
  decidable_of_iff (Site.free.spots names false ts = spots ∧ Site.free.after ts = .free)
    ⟨fun h => ⟨h.1, h.2⟩, fun h => ⟨h.spots, h.after⟩⟩

section Pieces

variable {α : Type} {names : List Text} {p q r : Site} {s t : List Token} {a b : List Spot}
  {w : Text}

theorem Takes.nil : Takes names p [] [] p := ⟨fun _ => rfl, rfl⟩

theorem Takes.of_eq (h : Takes names p s a q) (hspots : a = b) : Takes names p s b q := hspots ▸ h

theorem Takes.append (hs : Takes names p s a q) (ht : Takes names q t b r) :
    Takes names p (s ++ t) (a ++ b) r where
  spots colon := by rw [Site.spots_append, hs.spots, hs.after, ht.spots]
  after := by rw [Site.after_append, hs.after, ht.after]

/-- A piece that must not be followed by a colon, in front of one that does not begin with one. -/
theorem Reads.append (hs : Reads names s a) (ht : Takes names .free t b r)
    (hcolon : ∀ colon, Site.colonAhead colon t = false) :
    Takes names .free (s ++ t) (a ++ b) r where
  spots colon := by rw [Site.spots_append, hcolon, hs.spots, hs.after, ht.spots]
  after := by rw [Site.after_append, hs.after, ht.after]

theorem Takes.reads (h : Takes names .free s a .free) : Reads names s a :=
  ⟨h.spots false, h.after⟩

theorem Takes.append_reads (hs : Takes names .free s a .free) (ht : Reads names t b) :
    Reads names (s ++ t) (a ++ b) where
  spots := by rw [Site.spots_append, hs.spots, hs.after, ht.spots]
  after := by rw [Site.after_append, hs.after, ht.after]

theorem Takes.literal (p : Site) (text : Text) : Takes names p [.literal text] [] .free :=
  ⟨fun _ => rfl, rfl⟩

/-- The name of an item. -/
theorem Takes.name (keyword w : Text) :
    Takes names (.named keyword) [.word w] [⟨.named keyword, w⟩] .free :=
  ⟨fun _ => rfl, by simp [Site.after, Site.next]⟩

/-- A name in a path, or after a point. -/
theorem Takes.member (w : Text) : Takes names .inner [.word w] [] .free :=
  ⟨fun _ => rfl, by simp [Site.after, Site.next]⟩

/-- A word that stands for itself and is none of the given ones. -/
theorem Takes.other (hnaming : w ∉ naming) (hnames : w ∉ names) : Spotless names [.word w] where
  spots colon := by simp [Site.spots, Site.spot?, Site.tells, hnames]
  after := if_neg fun h => hnaming h.2

/-- A label may be any word. -/
theorem Takes.label (w : Text) : Spotless names [.word w, .mark ':' false] where
  spots colon := by simp [Site.spots, Site.spot?, Site.tells, Site.colonAhead]
  after := by
    by_cases hw : w ∈ naming <;> simp [Site.after, Site.next, hw]

/-- Brackets may stand anywhere, and what stands in them may end anywhere. -/
theorem Takes.group (p : Site) (b : Bracket) (s : List Token) :
    Takes names p (bracketed b s) (Site.free.spots names false s) .free where
  spots colon := by
    rw [ForeignCall.bracketed, Site.spots, Site.spots_append]
    exact (List.nil_append _).trans (List.append_nil _)
  after := by
    rw [ForeignCall.bracketed, Site.after, List.foldl_cons, List.foldl_append]
    rfl

theorem Reads.bracketed (h : Reads names s a) (p : Site) (b : Bracket) :
    Takes names p (bracketed b s) a .free :=
  (Takes.group p b s).of_eq h.spots

theorem Takes.flatMap {f : α → List Token} {g : α → List Spot} {as : List α}
    (h : ∀ a ∈ as, Takes names .free (f a) (g a) .free) :
    Takes names .free (as.flatMap f) (as.flatMap g) .free := by
  induction as with
  | nil => exact .nil
  | cons a as ih =>
    obtain ⟨ha, has⟩ := List.forall_mem_cons.1 h
    rw [List.flatMap_cons, List.flatMap_cons]
    exact ha.append (ih has)

/-- Pieces without spots. -/
theorem Takes.flatMap_nil {f : α → List Token} {as : List α}
    (h : ∀ a ∈ as, Spotless names (f a)) : Spotless names (as.flatMap f) :=
  (Takes.flatMap h).of_eq (List.flatMap_eq_nil_iff.2 fun _ _ => rfl)

/-- No colon follows a piece of a list. -/
theorem Reads.commaSeparated {pieces : List (List Token)} {spots : List (List Spot)}
    (h : List.Forall₂ (Reads names) pieces spots) :
    Reads names (commaSeparated pieces) spots.flatten := by
  have hcomma : Takes names .free [.mark ',' false] [] .free := ⟨fun _ => rfl, rfl⟩
  induction h with
  | nil => exact Takes.nil.reads
  | cons hpiece hrest ih =>
    cases hrest with
    | nil => rwa [List.flatten_singleton]
    | cons hnext hmore =>
      have happend := (hpiece.append hcomma fun _ => rfl).append_reads ih
      rw [List.append_nil, List.append_assoc] at happend
      exact happend

theorem Reads.commaSeparated_map {f : α → List Token} {g : α → List Spot} {as : List α}
    (h : ∀ a ∈ as, Reads names (f a) (g a)) :
    Reads names (ForeignCall.commaSeparated (as.map f)) (as.flatMap g) := by
  refine .commaSeparated ?_
  rw [List.forall₂_map_left_iff, List.forall₂_map_right_iff, List.forall₂_same]
  exact h

theorem Reads.commaSeparated_nil {f : α → List Token} {as : List α}
    (h : ∀ a ∈ as, Reads names (f a) []) :
    Reads names (ForeignCall.commaSeparated (as.map f)) [] := by
  have hnil : as.flatMap (fun _ => ([] : List Spot)) = [] :=
    List.flatMap_eq_nil_iff.2 fun _ _ => rfl
  exact hnil ▸ Reads.commaSeparated_map h

end Pieces
end ForeignCall
