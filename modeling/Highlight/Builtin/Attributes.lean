import Highlight.Attribute

/-!
The attributes that both languages share, each with the pattern of the values it accepts.
-/

namespace Highlight.Builtin

def attributePairs : List (String × String) := [
  ("begin-new-page", "yes|no"),
  ("pack", "yes|no"),
  ("clear", "none|left|right|both"),
  ("writing-mode", "horizontal\\-tb|vertical\\-rl"),
  ("display", "none|block|list|list\\-item|table"),
  ("shut-in-adaptives", "yes|no"),
  ("page-side", "auto|verso|recto"),
  ("font-weight", "normal|bold"),
  ("font-style", "normal|italic"),
  ("font-no-scale", "yes|no"),
  ("bullet-text-align", "left|right|center"),
  ("bullet-font-weight", "normal|bold"),
  ("bullet-font-style", "normal|italic"),
  ("bullet-font-no-scale", "yes|no"),
  ("vertical-align", "baseline|top|middle|bottom"),
  ("line-break-mode", "auto|word\\-wrap|character\\-wrap"),
  ("text-align", "justify|center|right|left"),
  ("text-justify", "auto|distribute\\-all\\-lines"),
  ("text-orientation", "mixed|upright|sideways|sideways\\-right"),
  ("text-combine-horizontal", "none|all|digits [1-4]"),
  ("position", "static|absolute|abs"),
  ("adaptive", "yes|no"),
  ("flow", "yes|no"),
  ("flow-mode", "content\\-wrap|object\\-wrap"),
  ("align", "top|bottom|left|right|center"),
  ("avoid-bottom", "yes|no"),
  ("border-collapse", "none|collapse"),
  ("background-image-type", "stretch|pattern"),
  ("page-header-hidden", "yes|no"),
  ("page-footer-hidden", "yes|no"),
  ("page-background-image-type", "stretch|pattern"),
  ("text-decoration",
    "(underline|overline|line\\-through|cross\\-out|sidedot|side\\-dot)" ++
    "(\\s+(underline|overline|line\\-through|cross\\-out|sidedot|side\\-dot))*"),
  ("gravity",
    "center|left|top|right|bottom|left\\-top|top\\-left|left\\-bottom|bottom\\-left|" ++
    "right\\-top|top\\-right|right\\-bottom|bottom\\-right")
]

def attributeTable : Except Error AttributeTable :=
  AttributeTable.ofPairs (attributePairs.map fun (name, grammar) => (name.toList, grammar.toList))

end Highlight.Builtin
