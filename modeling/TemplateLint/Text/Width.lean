import TemplateLint.Text.Extending

/-!
# Columns of characters

How many columns of a terminal a character takes. Characters that extend the one before them, that
combine with it, or that are ignored in display take none, and neither do control characters. Wide
and fullwidth characters of East Asian scripts take two.

The classes that this depends on change from one edition of Unicode to the next. Messages are
wrapped by the columns of Unicode 17, and the rows of a source are measured by those of Unicode
15.1.

## Main definitions

* `Text.Edition`: an edition of Unicode
* `Text.charWidth`: the columns of a character in an edition
-/

namespace TemplateLint.Text

/-- The editions of Unicode by which columns are counted. -/
inductive Edition where
  /-- Unicode 15.1. -/
  | unicode15
  /-- Unicode 17. -/
  | unicode17
  deriving DecidableEq, Repr

/-! ### No columns -/

/-- Characters without a column of their own beside the extending ones: those that are ignored in
display, vowels and final consonants of Hangul, and signs written around the characters after
them. -/
def columnless : CharSet := .ofText "
    AD 605 61C 70F 890-891 8E2 D4E 1160-11FF 180E 200B 200D-200F 202A-202E 2060-206F 3164 A8FA
    D7B0-D7C6 D7CB-D7FB FEFF FFA0 FFF0-FFF8 111C2-111C3 113D1 1193F 11941 11A84-11A89 11D46 11F02
    1BCA0-1BCA3 1D173-1D17A E0000-E001F E0080-E00FF E01F0-E0FFF"

/-- Characters without a column that had one, or did not exist, up to Unicode 15.1. -/
def columnlessLater : CharSet := .ofText "
    897 1715 1734 1ACF-1ADD 1AE0-1AEB 1B44 1BAA 1BF2-1BF3 A953 A9C0 10D69-10D6D 10EFA-10EFC 111C0
    11235 1134D 113B8 113BB-113C0 113C2 113C5 113C7-113C9 113CE-113D2 113E1-113E2 116B6 1193D
    11B60 11B62-11B64 11B66 11F41 11F5A 1611E-16129 1612D-1612F 16FF0-16FF1 1D166 1D16D
    1E5EE-1E5EF 1E6E3 1E6E6 1E6EE-1E6EF 1E6F5"

/-- Characters that were without a column up to Unicode 15.1 and have one in Unicode 17. -/
def columnlessBefore : CharSet := .ofText "
    FF9E-FF9F 1171E 11A3A"

/-- Whether a character has no column of its own. -/
def isColumnless (e : Edition) (c : Char) : Bool :=
  let latest := extending.contains c || columnless.contains c
  match e with
  | .unicode17 => latest
  | .unicode15 => columnlessBefore.contains c || (latest && ! columnlessLater.contains c)

/-! ### Two columns -/

/-- The wide characters: those of East Asian scripts, and pictures. -/
def wide : CharSet := .ofText "
    1100-115F 17A4 231A-231B 2329-232A 23E9-23EC 23F0 23F3 25FD-25FE 2614-2615 2630-2637 2648-2653
    267F 268A-268F 2693 26A1 26AA-26AB 26BD-26BE 26C4-26C5 26CE 26D4 26EA 26F2-26F3 26F5 26FA 26FD
    2705 270A-270B 2728 274C 274E 2753-2755 2757 2795-2797 27B0 27BF 2B1B-2B1C 2B50 2B55 2E80-2E99
    2E9B-2EF3 2F00-2FD5 2FF0-3029 3030-303E 3041-3096 309B-30FF 3105-312F 3131-3163 3165-318E
    3190-31E5 31EF-321E 3220-3247 3250-A48C A490-A4C6 A960-A97C AC00-D7A3 F900-FAFF FE10-FE19
    FE30-FE52 FE54-FE66 FE68-FE6B FF01-FF60 FFE0-FFE6 16FE0-16FE3 16FF0-16FF6 17000-18CD5
    18CFF-18D1E 18D80-18DF2 1AFF0-1AFF3 1AFF5-1AFFB 1AFFD-1AFFE 1B000-1B122 1B132 1B150-1B152
    1B155 1B164-1B167 1B170-1B2FB 1D300-1D356 1D360-1D376 1F004 1F0CF 1F18E 1F191-1F19A
    1F200-1F202 1F210-1F23B 1F240-1F248 1F250-1F251 1F260-1F265 1F300-1F320 1F32D-1F335
    1F337-1F37C 1F37E-1F393 1F3A0-1F3CA 1F3CF-1F3D3 1F3E0-1F3F0 1F3F4 1F3F8-1F43E 1F440
    1F442-1F4FC 1F4FF-1F53D 1F54B-1F54E 1F550-1F567 1F57A 1F595-1F596 1F5A4 1F5FB-1F64F
    1F680-1F6C5 1F6CC 1F6D0-1F6D2 1F6D5-1F6D8 1F6DC-1F6DF 1F6EB-1F6EC 1F6F4-1F6FC 1F7E0-1F7EB
    1F7F0 1F90C-1F93A 1F93C-1F945 1F947-1F9FF 1FA70-1FA7C 1FA80-1FA8A 1FA8E-1FAC6 1FAC8
    1FACD-1FADC 1FADF-1FAEA 1FAEF-1FAF8 20000-2FFFD 30000-3FFFD"

/-- Wide characters that were narrow, or did not exist, up to Unicode 15.1. -/
def wideLater : CharSet := .ofText "
    2630-2637 268A-268F 31E4-31E5 4DC0-4DFF 16FF2-16FF6 187F8-187FF 18CFF 18D09-18D1E 18D80-18DF2
    1D300-1D356 1D360-1D376 1F6D8 1FA89-1FA8A 1FA8E-1FA8F 1FABE 1FAC6 1FAC8 1FACD 1FADC 1FADF
    1FAE9-1FAEA 1FAEF"

/-- Whether a character is wide. -/
def isWide (e : Edition) (c : Char) : Bool :=
  match e with
  | .unicode17 => wide.contains c
  | .unicode15 => wide.contains c && ! wideLater.contains c

/-! ### The columns of a character -/

/-- The control characters. -/
def isControl (c : Char) : Bool :=
  c.toNat < 0x20 || (0x7F ≤ c.toNat && c.toNat < 0xA0)

/-- How many columns a character takes. The Khmer sign beyyal is written like three letters; the
joiner of consonants in Tifinagh shows unless it joins. -/
def charWidth (e : Edition) (c : Char) : Nat :=
  if c.toNat < 0x7F then if c.toNat < 0x20 then 0 else 1
  else if c = '\u17D8' then 3
  else if c = '\u2D7F' then 1
  else if isControl c || isColumnless e c then 0
  else if isWide e c then 2
  else 1

end TemplateLint.Text
