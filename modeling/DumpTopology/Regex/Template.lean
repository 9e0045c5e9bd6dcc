import DumpTopology.Regex.Pattern

/-!
# Templates over a match

A template is text in which `$` refers to a capture group of a match:

* `$$` is a literal `$`;
* `$name` takes the longest run of ASCII letters, digits and `_` after the `$`;
* `${name}` takes everything up to the next `}`.

A reference that reads as a count (digits, and in braces an optional leading `+`) is a
group number; any other is a group name. A group that did not take part, or does not
exist, gives the empty text. A `$` that starts no reference stands for itself, so `$1x`
refers to the group named `1x`.
-/
namespace DumpTopology.Regex

/-- A character that may stand in an unbraced reference. -/
def isRefChar (c : Char) : Bool := c.isAlphanum || c == '_'

/-- The count written by a reference, if it is one: decimal digits with an optional
leading `+`, below 2^64. -/
def refNumber? (name : List Char) : Option Nat :=
  let digits := match name with
    | '+' :: r => r
    | r => r
  if digits.isEmpty || !digits.all Char.isDigit then none
  else
    let v := digits.foldl (fun acc c => acc * 10 + (c.toNat - 48)) 0
    if v < Nat.pow 2 64 then some v else none

/-- The text a reference stands for. -/
def Captures.resolve (c : Captures) (name : List Char) : List Char :=
  let found := match refNumber? name with
    | some i => c.get? i
    | none => c.named? (String.ofList name)
  (found.getD "").toList

/-- Expands the references of a template, at most `fuel` characters of it. -/
def Captures.expandChars (c : Captures) : Nat → List Char → List Char
  | 0, _ => []
  | _ + 1, [] => []
  | fuel + 1, '$' :: '$' :: rest => '$' :: c.expandChars fuel rest
  | fuel + 1, '$' :: '{' :: rest =>
    match rest.findIdx? (· == '}') with
    | some k => c.resolve (rest.take k) ++ c.expandChars fuel (rest.drop (k + 1))
    | none => '$' :: c.expandChars fuel ('{' :: rest)
  | fuel + 1, '$' :: rest =>
    let name := rest.takeWhile isRefChar
    if name.isEmpty then '$' :: c.expandChars fuel rest
    else c.resolve name ++ c.expandChars fuel (rest.drop name.length)
  | fuel + 1, ch :: rest => ch :: c.expandChars fuel rest

/-- Expands the references of a template. -/
def Captures.expand (c : Captures) (template : String) : String :=
  String.ofList (c.expandChars (template.length + 1) template.toList)

end DumpTopology.Regex
