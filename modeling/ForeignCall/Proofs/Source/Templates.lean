import ForeignCall.Binding.Source
import ForeignCall.Proofs.Text.Pieces

/-!
# Templates of generated code

Templates are written with blanks between tokens, so the tokens of a template are those of its
parts.

* `code_append`: the tokens of two templates with a blank between them.
* `supportPath_eq`: a path of the support library begins with the name of the library.
-/

namespace ForeignCall

theorem code_append (s t : Text) : code (s ++ ' ' :: t) = code s ++ code t := by
  rw [code, Text.splitAll_append_sep, List.flatMap_append]
  rfl

theorem supportPath_eq (item : Text) :
    supportPath item = code ":: natbind_runtime ::" ++ code item := by
  have hpath : ":: natbind_runtime :: ".toList = ":: natbind_runtime ::".toList ++ [' '] := by
    decide
  rw [supportPath, hpath, List.append_assoc, ← code_append]
  rfl

end ForeignCall
