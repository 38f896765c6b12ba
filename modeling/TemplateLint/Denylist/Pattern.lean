import TemplateLint.Text.Basic

/-!
# Forbidden patterns

A pattern is written as a value with anchors. `^` in front asks for a token that starts with the
value, `$` at the end for a token that ends with it, both for a token equal to it. Without anchors
the value may stand anywhere in the text, also across tokens.

## Main definitions

* `Pattern`: a mode and a value
* `Pattern.parse`, `Pattern.render`: from and to the written form
* `Pattern.isMatch`: whether a text contains what the pattern forbids
-/

namespace TemplateLint.Denylist

/-- Where the value of a pattern has to stand. -/
inductive Mode where
  /-- Some token is the value. -/
  | exact
  /-- Some token starts with the value. -/
  | opening
  /-- Some token ends with the value. -/
  | closing
  /-- The value stands anywhere in the text. -/
  | anywhere
  deriving DecidableEq, Repr

/-- A value and where it has to stand. -/
structure Pattern where
  mode : Mode
  value : List Char
  deriving DecidableEq, Repr

namespace Pattern

/-- The text after the opening anchor, if there is one. -/
def afterOpening? : List Char → Option (List Char)
  | '^' :: rest => some rest
  | _ => none

/-- The text before the closing anchor, if there is one. -/
def beforeClosing? (cs : List Char) : Option (List Char) :=
  if cs.getLast? = some '$' then some cs.dropLast else none

/-- The pattern that is written as `cs`. With both anchors, the text after the opening one still
ends with the closing one. -/
def ofChars (cs : List Char) : Pattern :=
  match afterOpening? cs, beforeClosing? cs with
  | some rest, some _ => ⟨.exact, (beforeClosing? rest).getD rest⟩
  | some rest, none => ⟨.opening, rest⟩
  | none, some rest => ⟨.closing, rest⟩
  | none, none => ⟨.anywhere, cs⟩

/-- The pattern that is written as `raw`. -/
def parse (raw : String) : Pattern :=
  ofChars raw.toList

/-- The written form of a pattern. -/
def toChars (p : Pattern) : List Char :=
  match p.mode with
  | .exact => '^' :: p.value ++ ['$']
  | .opening => '^' :: p.value
  | .closing => p.value ++ ['$']
  | .anywhere => p.value

/-- The written form of a pattern. -/
def render (p : Pattern) : String :=
  String.ofList p.toChars

/-- Whether `part` stands somewhere in a text. -/
def occursIn (part : List Char) : List Char → Bool
  | [] => part.isEmpty
  | c :: cs => part.isPrefixOf (c :: cs) || occursIn part cs

/-- Whether a text contains what the pattern forbids. -/
def isMatchIn (p : Pattern) (text : List Char) : Bool :=
  match p.mode with
  | .exact => (Text.tokens text).any (· == p.value)
  | .opening => (Text.tokens text).any (p.value.isPrefixOf ·)
  | .closing => (Text.tokens text).any (p.value.isSuffixOf ·)
  | .anywhere => occursIn p.value text

/-- Whether a text contains what the pattern forbids. -/
def isMatch (p : Pattern) (text : String) : Bool :=
  p.isMatchIn text.toList

end Pattern

/-- Whether a text contains what the pattern written as `raw` forbids. -/
def forbids (raw text : String) : Bool :=
  (Pattern.parse raw).isMatch text

/-- The patterns of a list that a text contains, in the order of the list. -/
def forbiddenIn (text : String) (patterns : List String) : List String :=
  patterns.filter (forbids · text)

end TemplateLint.Denylist
