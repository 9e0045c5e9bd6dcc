import DumpTopology.Regex.Pattern
import DumpTopology.Fault

/-!
# Path globs

A path glob describes relative paths and names parts of them. After leading `/` are
dropped it reads:

* `**/` is any run of whole directories, possibly none;
* `**` not followed by `/` is any run of characters;
* `*` is a run without `/`, and `?` one character other than `/`;
* `{name}` is a run without `/`, captured as the group `name`, taking as little as it
  can; a name is one or more ASCII letters, digits or `_`;
* every other character stands for itself.

The glob is written as an anchored pattern. A brace that starts no well-formed
placeholder is refused.
-/
namespace DumpTopology

/-- Why a path glob is refused. -/
inductive PathGlobFault
  | badPlaceholderName
  | unclosedPlaceholder
  | emptyPlaceholder
  deriving BEq, Repr, Inhabited

/-- The text of a path glob fault. -/
def PathGlobFault.message : PathGlobFault → String
  | .badPlaceholderName => "placeholder names must be alphanumeric"
  | .unclosedPlaceholder => "unclosed placeholder"
  | .emptyPlaceholder => "empty placeholder"

/-- A character that may stand in a placeholder name. -/
def isPlaceholderChar (c : Char) : Bool := c.isAlphanum || c == '_'

/-- Writes the characters of a glob as pattern text. `name` holds the placeholder being
read, last character first. -/
def globPatternChars : List Char → Option (List Char) → Except PathGlobFault (List Char)
  | [], none => .ok []
  | [], some _ => .error .unclosedPlaceholder
  | '}' :: rest, some name =>
    if name.isEmpty then .error .emptyPlaceholder
    else (fun out => "(?P<".toList ++ name.reverse ++ ">[^/]*?)".toList ++ out) <$>
      globPatternChars rest none
  | c :: rest, some name =>
    if isPlaceholderChar c then globPatternChars rest (some (c :: name))
    else .error .badPlaceholderName
  | '*' :: '*' :: '/' :: rest, none => ("(?:[^/]*/)*".toList ++ ·) <$> globPatternChars rest none
  | '*' :: '*' :: rest, none => (".*".toList ++ ·) <$> globPatternChars rest none
  | '*' :: rest, none => ("[^/]*".toList ++ ·) <$> globPatternChars rest none
  | '?' :: rest, none => ("[^/]".toList ++ ·) <$> globPatternChars rest none
  | '{' :: rest, none => globPatternChars rest (some [])
  | c :: rest, none => ((Regex.escapeText (String.singleton c)).toList ++ ·) <$> globPatternChars rest none

/-- The anchored pattern of a path glob. -/
def pathGlobPattern (glob : String) : Except RuleFault String :=
  match globPatternChars (glob.toList.dropWhile (· == '/')) none with
  | .ok out => .ok ("^" ++ String.ofList out ++ "$")
  | .error e => .error (.invalidPattern glob e.message)

end DumpTopology
