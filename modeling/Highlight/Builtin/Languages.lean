import Highlight.Language

/-!
The two languages: SBSS, a language of style sheets, and SBML, a language of marked blocks.
-/

namespace Highlight.Builtin

def sbss : Except Error Language :=
  (Language.addSlots ⟨"sbss".toList, [], false⟩ [.pairs .list, .pairs .group, .expressions]).map
    Language.addConfiguration

def sbml : Except Error Language :=
  (Language.addSlots ⟨"sbml".toList, [], false⟩
    [.pairs .list, .pairs .inlineList, .expressions]).map Language.addConfiguration

def languages : Except Error (List Language) := do
  return [← sbss, ← sbml]

end Highlight.Builtin
