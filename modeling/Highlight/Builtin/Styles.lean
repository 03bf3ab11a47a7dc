import Highlight.Style

/-!
The classifications of the style tags in both languages' templates and in the generated rules.
-/

namespace Highlight.Builtin

def stylePairs : List (String × String) := [
  ("SBSS_IMPORT", "keyword.other"),
  ("SBSS_IF_ELIF", "keyword.control"),
  ("SBSS_ELSE_END", "keyword.control"),
  ("SBSS_SELECTOR", "entity.name.tag"),
  ("SBML_IMPORT", "keyword.other"),
  ("SBML_BEGIN", "keyword.other"),
  ("SBML_END", "keyword.other"),
  ("SBML_SECTION_NAME", "entity.name.type markup.italic"),
  ("SBML_IF_ELIF", "keyword.other"),
  ("SBML_ELSE", "keyword.other"),
  ("SBML_BLOCK_OBJECT", "keyword.control"),
  ("SBML_STYLE", "keyword.control"),
  ("SBML_INLINE_OBJECT", "keyword.other"),
  ("SBML_OBJECT_TYPE", "entity.name.type"),
  ("SBML_STYLE_MARK", "keyword.other"),
  ("SBML_STYLE_NAME", "entity.name.type"),
  ("SBML_ANCHOR_MARK", "keyword.other"),
  ("SBML_ANCHOR_NAME", "string"),
  ("COMMENT", "comment.line"),
  ("PROP_NAME", "entity.other.attribute-name"),
  ("PROP_VALUE", "string"),
  ("PROP_SEP", "keyword.operator"),
  ("INVALID", "invalid.illegal"),
  ("VARIABLE", "string markup.italic"),
  ("FILENAME", "string"),
  ("LENGTH", "constant.numeric"),
  ("OPERATOR", "keyword.operator")
]

def styleMap : Except Error StyleMap :=
  StyleMap.ofPairs (stylePairs.map fun (tag, classification) =>
    (tag.toList, classification.toList))

end Highlight.Builtin
