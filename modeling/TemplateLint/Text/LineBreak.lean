import TemplateLint.Text.BreakClass

/-!
# Where a line may be broken

A line may be broken between two characters unless a rule of the line breaking algorithm of Unicode
15.1 forbids it. The rules look at the classes of the two characters, at what stands before spaces,
a little further back, and one character ahead. A combining character belongs to the character
before it and has its class; one that has nothing to belong to counts as a letter.

A quotation mark that as a rule opens a quotation does so after a space, an opening bracket and the
like, and then holds on to what comes after it, also behind spaces. One that as a rule closes a
quotation does so before a space, a closing bracket and the like, and then holds on to what stands
before it. Other quotation marks hold on to both neighbours, but not across spaces.

## Main definitions

* `Text.BreakState`: what has been read of a text
* `Text.BreakState.mayBreak`: whether a line may be broken before the next character
* `Text.breaks`: for every character of a text, whether a line may be broken before it
-/

namespace TemplateLint.Text

namespace BreakClass

/-- Whether a line always ends behind a character of this class. -/
def isHard : BreakClass → Bool
  | hardBreak => true
  | carriageReturn => true
  | lineFeed => true
  | _ => false

/-- Whether characters of this class belong to the character before them. -/
def isCombining : BreakClass → Bool
  | combining => true
  | joiner => true
  | _ => false

/-- Letters of any alphabet. -/
def isLetter : BreakClass → Bool
  | letter => true
  | hebrew => true
  | dottedCircle => true
  | _ => false

/-- Ideographs and pictures. -/
def isPicture : BreakClass → Bool
  | ideographic => true
  | reserved => true
  | emojiBase => true
  | emojiModifier => true
  | _ => false

/-- Signs before or after numbers. -/
def isNumberSign : BreakClass → Bool
  | prefixMark => true
  | postfixMark => true
  | _ => false

/-- Opening punctuation of any width. -/
def isOpening : BreakClass → Bool
  | opening => true
  | wideOpening => true
  | _ => false

/-- Closing punctuation of any kind. -/
def isClosing : BreakClass → Bool
  | closing => true
  | parenthesis => true
  | _ => false

/-- Quotation marks of any direction. -/
def isQuotation : BreakClass → Bool
  | quotation => true
  | openingQuote => true
  | closingQuote => true
  | _ => false

/-- Consonants, vowels and syllables of Hangul. -/
def isHangul : BreakClass → Bool
  | leadingJamo => true
  | vowelJamo => true
  | trailingJamo => true
  | openSyllable => true
  | closedSyllable => true
  | _ => false

/-- Letters of Brahmic scripts that form conjuncts, and what stands for them. -/
def isConjoining : BreakClass → Bool
  | aksara => true
  | dottedCircle => true
  | _ => false

/-- Letters of Brahmic scripts. -/
def isBrahmic (k : BreakClass) : Bool :=
  k.isConjoining || k = aksaraStart

/-- Whether no line is broken before a character of this class, even after spaces. -/
def clings : BreakClass → Bool
  | wordJoiner => true
  | closing => true
  | parenthesis => true
  | exclamation => true
  | infixMark => true
  | slash => true
  | closingQuote => true
  | _ => false

/-- Whether a character of class `a` holds on to one of class `b` that comes after it or after
spaces. -/
def reaches (a b : BreakClass) : Bool :=
  a.isOpening || a = openingQuote || (a.isClosing && b = nonstarter) || (a = both && b = both)

/-- Whether characters next to each other stick together so strongly that even a character about
which nothing is known cannot part them. -/
def sticks (a b : BreakClass) : Bool :=
  b.clings || a = wordJoiner || a = glue || (b = glue && a ≠ after && a ≠ hyphen) ||
    a.reaches b || a.isQuotation || b.isQuotation

/-- Whether letters, numbers and the signs around them stay together. -/
def keepsNumber (a b : BreakClass) : Bool :=
  (a.isLetter && b = numeric) || (a = numeric && b.isLetter) ||
    (a = prefixMark && b.isPicture) || (a.isPicture && b = postfixMark) ||
    (a.isNumberSign && b.isLetter) || (a.isLetter && b.isNumberSign) ||
    ((a.isClosing || a = numeric) && b.isNumberSign) ||
    (a.isNumberSign && (b.isOpening || b = numeric)) ||
    ((a = hyphen || a = infixMark || a = numeric || a = slash) && b = numeric)

/-- Whether parts of a syllable of Hangul, and the signs around it, stay together. -/
def keepsHangul (a b : BreakClass) : Bool :=
  (a = leadingJamo && b.isHangul && b ≠ trailingJamo) ||
    ((a = vowelJamo || a = openSyllable) && (b = vowelJamo || b = trailingJamo)) ||
    ((a = trailingJamo || a = closedSyllable) && b = trailingJamo) ||
    (a.isHangul && b = postfixMark) || (a = prefixMark && b.isHangul)

/-- Whether letters stay together with each other and with brackets in words. -/
def keepsWord (a b : BreakClass) : Bool :=
  (a.isLetter && b.isLetter) || (a = infixMark && b.isLetter) ||
    ((a.isLetter || a = numeric) && b = opening) ||
    (a = parenthesis && (b.isLetter || b = numeric))

/-- Whether parts of a syllable of a Brahmic script stay together. -/
def keepsSyllable (a b : BreakClass) : Bool :=
  (a = aksaraBefore && b.isBrahmic) || (a.isBrahmic && (b = virama || b = finalVirama))

/-- Whether characters next to each other stay together. -/
def keeps (a b : BreakClass) : Bool :=
  b = after || b = hyphen || b = nonstarter || a = before || (a = slash && b = hebrew) ||
    b = inseparable || a.keepsNumber b || a.keepsHangul b || a.keepsWord b ||
    a.keepsSyllable b || ((a = emojiBase || a = reserved) && b = emojiModifier)

/-- Whether a quotation mark that as a rule opens a quotation does so behind a character of class
`k`. -/
def precedesQuotation (k : BreakClass) : Bool :=
  k.isHard || k.isOpening || k.isQuotation || k = glue || k = zeroSpace

/-- Whether a quotation mark that as a rule closes a quotation does so before a character of class
`k`. -/
def followsQuotation (k : BreakClass) : Bool :=
  k.isHard || k = space || k = glue || k = zeroSpace || k.isQuotation || k.clings

/-- The class that a character of class `k` has before a character of class `next`, or at the end
of a text. -/
def facing (k : BreakClass) (next : Option BreakClass) : BreakClass :=
  if k = closingQuote ∧ ¬ next.all followsQuotation then quotation else k

end BreakClass

/-- What has been read of a text, as far as it matters for the next break. -/
structure BreakState where
  /-- The class of the last character that is neither a space nor combining. -/
  last : Option BreakClass := none
  /-- The class of the character right before `last`. -/
  earlier : Option BreakClass := none
  /-- Whether there are spaces behind `last`. -/
  spaced : Bool := false
  /-- Whether the text ends with a joiner. -/
  joined : Bool := false
  /-- Whether the text ends with the first letter of a flag. -/
  halfFlag : Bool := false
  deriving DecidableEq, Repr

namespace BreakState

open BreakClass

/-- Whether the next character, of class `k`, belongs to the one before it. -/
def absorbs (s : BreakState) (k : BreakClass) : Bool :=
  k.isCombining && ! s.spaced &&
    match s.last with
    | none => false
    | some a => ! a.isHard && a ≠ zeroSpace

/-- The class that a character of class `k` has when it belongs to no other one. -/
def alone (k : BreakClass) : BreakClass :=
  if k.isCombining then letter else k

/-- The class of the character right before the next one. -/
def neighbour (s : BreakState) : Option BreakClass :=
  if s.spaced then none else s.last

/-- The class of the next character, of class `k`, for those after it. A quotation mark that does
not open a quotation is like any other one. -/
def settled (s : BreakState) (k : BreakClass) : BreakClass :=
  if k = openingQuote ∧ ¬ s.neighbour.all precedesQuotation then quotation else alone k

/-- The state one character of class `k` later. -/
def step (s : BreakState) (k : BreakClass) : BreakState :=
  if k = space then
    { last := if ! s.spaced && s.last.any isHard then none else s.last, spaced := true }
  else if s.absorbs k then { s with joined := k = joiner }
  else
    { last := some (s.settled k)
      earlier := s.neighbour
      joined := k = joiner
      halfFlag := k = regional && ! s.halfFlag }

/-- Whether a line may be broken before a character of class `b` after spaces, given the class of
what stands before the spaces. -/
def mayBreakAfterSpaces (last : Option BreakClass) (b : BreakClass) : Bool :=
  match last with
  | none => ! b.clings
  | some a => a = zeroSpace || ! (b.clings || a.reaches b)

/-- Whether what stands around neighbours of the classes `a` and `b` keeps them together: a hyphen
after a Hebrew letter, the first half of a flag, and a syllable of a Brahmic script that goes on
over more than two characters. -/
def keepsAround (s : BreakState) (a b : BreakClass) (next : Option BreakClass) : Bool :=
  (s.earlier = some hebrew && (a = hyphen || a = after)) || (s.halfFlag && b = regional) ||
    (s.earlier.any isBrahmic && a = virama && b.isConjoining) ||
    (a.isBrahmic && b.isBrahmic && next = some finalVirama)

/-- Whether a line may be broken between neighbours of the classes `a` and `b`, of which neither is
a space, before a character of class `next`. -/
def mayBreakBetween (s : BreakState) (a b : BreakClass) (next : Option BreakClass) : Bool :=
  if a.sticks b then false
  else if a = contingent || b = contingent then true
  else ! (a.keeps b || s.keepsAround a b next)

/-- Whether a line may be broken before the next character, of class `k`, when the one after it has
the class `next`. -/
def mayBreak (s : BreakState) (k : BreakClass) (next : Option BreakClass) : Bool :=
  if s.spaced then
    if k.isHard || k = space || k = zeroSpace then false
    else mayBreakAfterSpaces s.last (alone (k.facing next))
  else
    match s.last with
    | none => false
    | some a =>
      if a.isHard then ! (a = carriageReturn && k = lineFeed)
      else if k.isHard || k = space || k = zeroSpace then false
      else if a = zeroSpace then true
      else if s.joined || s.absorbs k then false
      else s.mayBreakBetween a (alone (k.facing next)) next

end BreakState

/-- The class of the first of some characters, without those that belong to a character before
them. -/
def nextClass (cs : List Char) : Option BreakClass :=
  (cs.map breakClass).find? (! ·.isCombining)

/-- For every character of the rest of a text, whether a line may be broken before it. -/
def breaksFrom (s : BreakState) : List Char → List Bool
  | [] => []
  | c :: cs =>
    s.mayBreak (breakClass c) (nextClass cs) :: breaksFrom (s.step (breakClass c)) cs

/-- For every character of a text, whether a line may be broken before it. -/
def breaks (cs : List Char) : List Bool :=
  breaksFrom {} cs

end TemplateLint.Text
