import Highlight.Text

/-!
Paths as they are written: names between slashes. Nothing is simplified, because messages show paths
the way they were put together.
-/

namespace Highlight.Path

/-- The path of a file in a directory; the empty directory is the one at hand. -/
def join (directory name : Text) : Text :=
  if directory.isEmpty || directory.getLast? = some '/' then directory ++ name
  else directory ++ '/' :: name

/-- The name that a file has until it is complete. -/
def temporary (name : Text) : Text := '.' :: name ++ ".tmp".toList

/-- A path read backwards without the slashes and dots in front that lead nowhere. -/
def dropStill : Text → Text
  | '/' :: c :: path => dropStill (c :: path)
  | '.' :: '/' :: path => dropStill ('/' :: path)
  | path => path

/-- The path of the file that a file in a directory is, until it is complete. -/
def joinTemporary (directory name : Text) : Text :=
  join (dropStill directory.reverse).reverse (temporary name)

def names (path : Text) : List Text :=
  (Text.split '/' path).filter fun name => !name.isEmpty && name ≠ ['.']

/-- The paths to the directories above, from the longest to the shortest. -/
def above (path : Text) : List Text :=
  (List.range ((names path).length - 1)).reverse.map fun n =>
    (if path.head? = some '/' then ['/'] else []) ++ Text.join ['/'] ((names path).take (n + 1))

/-- A path without the slashes at its end; a slash in front stays. -/
def trim : Text → Text
  | [] => []
  | c :: path => c :: (path.reverse.dropWhile (· = '/')).reverse

end Highlight.Path
