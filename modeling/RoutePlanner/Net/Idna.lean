import RoutePlanner.Net.Punycode
import RoutePlanner.Text.Unicode.Idna
import RoutePlanner.Text.Unicode.Normalization
import RoutePlanner.Text.Unicode.BidiClass
import RoutePlanner.Text.Unicode.Mark
import RoutePlanner.Text.Unicode.Joining

/-!
# Internationalized domain names in ASCII

A domain name written with any Unicode characters is brought to the ASCII form that name
servers know, by the processing of Unicode Technical Standard #46 with the settings of the
URL standard (non-transitional, hyphens and lengths not checked, joiners and bidirectional
text checked):

* **Map** every character (`idnaStatus`): valid ones stay, mapped ones are replaced, ignored
  ones vanish, and a disallowed one makes the name invalid.
* **Normalize** the result to composed form (`nfc`) and split it into labels at each `.`.
* A label starting with `xn--` is **Punycode**: it must be ASCII and read back to a label that
  has a character beyond ASCII, is already mapped and normalized, and holds no `.`; it is kept
  as written.
* **Every label** must not start with `xn--` once read, nor with a combining mark, and may
  hold a zero width joiner only after a virama and a zero width non-joiner only after a virama
  or between two letters that join across it (`joinersAllowed`).
* When any label holds a right-to-left character or an Arabic digit, **every label** must
  read one way (`readsOneWay`): a left-to-right label starts with a left-to-right letter, holds
  no right-to-left character and ends, before any marks, in a left-to-right letter or a
  European digit; a right-to-left label starts with a right-to-left letter, holds no
  left-to-right letter, ends in a right-to-left letter or a digit, and does not mix European
  and Arabic digits.
* A label with characters beyond ASCII is written as `xn--` and its Punycode.
-/

namespace RoutePlanner.Net

open RoutePlanner.Unicode

/-- **A domain name mapped character by character**, or `none` when a character is
disallowed. -/
def mapDomain : List Char → Option (List Char)
  | [] => some []
  | c :: rest =>
    match idnaStatus c, mapDomain rest with
    | .valid, some r => some (c :: r)
    | .mapped m, some r => some (m ++ r)
    | _, _ => none

/-- A label after mapping: its characters, read back from Punycode when it was written so, and
the text it was written in that case. -/
structure DomainLabel where
  chars : List Char
  written : Option String

/-- Whether a text starts with `xn--`. -/
def hasPunycodePrefix (cs : List Char) : Bool := cs.take 4 == ['x', 'n', '-', '-']

/-- **A label read**: a Punycode label must be ASCII and read back to a mapped, normalized
label with a character beyond ASCII and no `.`. -/
def readLabel (label : List Char) : Option DomainLabel :=
  if !hasPunycodePrefix label then some ⟨label, none⟩
  else if label.any (0x80 ≤ ·.toNat) then none
  else
    match punycodeDecode (label.drop 4) with
    | none => none
    | some u =>
      if u.isEmpty || u.all (·.toNat < 0x80) || nfc u != u || !u.all isIdnaValid || u.contains '.'
      then none
      else some ⟨u, some (String.ofList label)⟩

/-- Whether a character is the zero width non-joiner. -/
def isNonJoiner (c : Char) : Bool := c.toNat = 0x200C

/-- Whether a character is the zero width joiner. -/
def isJoiner (c : Char) : Bool := c.toNat = 0x200D

/-- The first character, past transparent ones, that joins on the side of the list. -/
def joinsOnward (cs : List Char) (side : JoiningType) : Bool :=
  match cs.dropWhile (joiningType · == .transparent) with
  | c :: _ => joiningType c == side || joiningType c == .dual
  | [] => false

/-- **Whether a joiner may stand** between `before` (nearest first) and `after`: a joiner only
after a virama; a non-joiner also between a letter joining on the left and one joining on the
right, with transparent characters between. Other characters always may. -/
def joinerAllowed (before : List Char) (c : Char) (after : List Char) : Bool :=
  let afterVirama := (before.head?.map isVirama).getD false
  if isJoiner c then afterVirama
  else if isNonJoiner c then afterVirama || (joinsOnward before .left && joinsOnward after .right)
  else true

/-- **Whether every joiner of a label may stand where it does**; `before` are the characters
before the rest, nearest first. -/
def joinersAllowed : List Char → List Char → Bool
  | _, [] => true
  | before, c :: rest => joinerAllowed before c rest && joinersAllowed (c :: before) rest

/-- **Whether a label is well formed** once read: it does not start with `xn--` or a combining
mark, and its joiners stand where they may. -/
def labelValid (label : DomainLabel) : Bool :=
  !hasPunycodePrefix label.chars && !((label.chars.head?.map isMark).getD false) &&
    joinersAllowed [] label.chars

/-- Whether a class is right-to-left for the bidirectional rule: a right-to-left or Arabic
letter, or an Arabic digit. -/
def BidiClass.isRightToLeft (b : BidiClass) : Bool :=
  b == .rightToLeft || b == .arabicLetter || b == .arabicNumber

/-- The classes that may follow the first character of a left-to-right label. -/
def BidiClass.inLeftToRight (b : BidiClass) : Bool :=
  b == .leftToRight || b == .europeanNumber || b == .europeanSeparator || b == .commonSeparator ||
    b == .europeanTerminator || b == .otherNeutral || b == .boundaryNeutral || b == .nonspacingMark

/-- The classes that may follow the first character of a right-to-left label. -/
def BidiClass.inRightToLeft (b : BidiClass) : Bool :=
  b == .rightToLeft || b == .arabicLetter || b == .arabicNumber || b == .europeanNumber ||
    b == .europeanSeparator || b == .commonSeparator || b == .europeanTerminator ||
    b == .otherNeutral || b == .boundaryNeutral || b == .nonspacingMark

/-- **Whether a label reads one way**, by the bidirectional rule for domain names. An empty
label does. -/
def readsOneWay (label : List Char) : Bool :=
  let classes := label.map bidiClass
  let last := ((classes.reverse.dropWhile (· == .nonspacingMark)).head?).getD .other
  match classes with
  | [] => true
  | first :: rest =>
    if first == .leftToRight then
      rest.all BidiClass.inLeftToRight && (last == .leftToRight || last == .europeanNumber)
    else if first == .rightToLeft || first == .arabicLetter then
      rest.all BidiClass.inRightToLeft &&
        (last == .rightToLeft || last == .arabicLetter || last == .europeanNumber ||
          last == .arabicNumber) &&
        !(classes.contains .europeanNumber && classes.contains .arabicNumber)
    else false

/-- The ASCII form of a label: as written when it came in Punycode, as it is when it is
ASCII, else `xn--` and its Punycode. -/
def DomainLabel.ascii (label : DomainLabel) : String :=
  match label.written with
  | some text => text
  | none =>
    if label.chars.all (·.toNat < 0x80) then String.ofList label.chars
    else "xn--" ++ String.ofList (punycode label.chars)

/-- **A domain name in ASCII**, or `none` when it is not a valid name. -/
def domainToAscii (domain : String) : Option String := do
  let mapped ← mapDomain domain.toList
  let labels ← ((String.ofList (nfc mapped)).splitOn ".").mapM fun l => readLabel l.toList
  if !labels.all labelValid then none
  else if labels.any (·.chars.any (BidiClass.isRightToLeft ∘ bidiClass)) &&
      !labels.all (readsOneWay ·.chars) then none
  else some (".".intercalate (labels.map DomainLabel.ascii))

end RoutePlanner.Net
