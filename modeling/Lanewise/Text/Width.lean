import Lanewise.Text.Emoji
import Lanewise.Text.Joining

namespace Lanewise.Text

/-- What makes one shape with the characters before it. The flag tells whether a joiner has been
met in between. -/
inductive Ligature where
  | arabicAlef
  | hebrewLamed (joined : Bool)
  | khmerLetter
  | bugineseYa (joined : Bool)
  | bugineseVowel
  | tifinaghConsonant (joined : Bool)
  | tifinaghJoiner
  | lisuTone
  | turkicVowel (joined : Bool)
  deriving DecidableEq, Repr

/-- A character that chooses a form of the one before it. -/
inductive Selector where
  | fullwidth
  | text
  | picture
  deriving DecidableEq, Repr

/-- What a character has behind it, as far as that changes its width. -/
inductive Follower where
  | plain
  | selector (s : Selector)
  /-- With the selectors before it, which it does not end. -/
  | ligature (l : Ligature) (selectors : List Selector)
  /-- The vowel signs of Kirat Rai that are also written as several. -/
  | kiratE
  | kiratAi
  | picture
  | tone
  | flagLetter
  | flagLetters
  /-- A joiner before a picture, with a keycap or a picture selector between them and the
  character. -/
  | joiner (keycap selected : Bool)
  | joinedFlagLetter
  | joinedFlagLetters (even : Bool)
  /-- The end of a tagged flag before a joiner: so many letters, or so many digits. -/
  | tagLetters (count : Nat)
  | tagDigits (count : Nat)
  deriving DecidableEq, Repr

def Selector.ofChar? (c : Char) : Option Selector :=
  if c.toNat = 0xFE01 then some .fullwidth
  else if c.toNat = 0xFE0E then some .text
  else if c.toNat = 0xFE0F then some .picture
  else none

/-- The single and double quotation marks that have a fullwidth form. -/
def isQuotation (c : Char) : Bool := inRanges [(0x2018, 0x2019), (0x201C, 0x201D)] c

def isJoiner (c : Char) : Bool := c.toNat == 0x200D

def isTifinaghConsonant (c : Char) : Bool := inRanges [(0x2D31, 0x2D65), (0x2D6F, 0x2D6F)] c

/-- The Khmer letters that have a form below the line. -/
def isKhmerLetter (c : Char) : Bool :=
  inRanges [(0x1780, 0x1782), (0x1784, 0x1787), (0x1789, 0x178C), (0x178E, 0x1793),
    (0x1795, 0x1798), (0x179B, 0x179D), (0x17A0, 0x17A0), (0x17A2, 0x17A2), (0x17A7, 0x17A7),
    (0x17AB, 0x17AC), (0x17AF, 0x17AF)] c

def Ligature.ofChar? (c : Char) : Option Ligature :=
  if isAlef c then some .arabicAlef
  else if c.toNat = 0x5DC then some (.hebrewLamed false)
  else if isKhmerLetter c then some .khmerLetter
  else if c.toNat = 0x1A10 then some (.bugineseYa false)
  else if isTifinaghConsonant c then some (.tifinaghConsonant false)
  else if inRanges [(0xA4FC, 0xA4FD)] c then some .lisuTone
  else if c.toNat = 0x10C03 then some (.turkicVowel false)
  else none

/-- The ligature with a joiner before it. -/
def Ligature.join : Ligature → Ligature
  | .hebrewLamed _ => .hebrewLamed true
  | .bugineseYa _ => .bugineseYa true
  | .tifinaghConsonant _ => .tifinaghConsonant true
  | .turkicVowel _ => .turkicVowel true
  | l => l

/-- What a character adds to the width when it joins the ligature behind it, and what it leaves
for the next one. A negative number takes back what the ligature saves. -/
def Ligature.add? (l : Ligature) (c : Char) : Option (Int × Follower) :=
  if l = .arabicAlef then
    if isLam c then some (0, .plain)
    else if isJoinedAcross c then some (0, .ligature l [])
    else none
  else if isJoiner c then some (0, .ligature l.join [])
  else if isTransparent c then some (0, .ligature l [])
  else match l with
    | .hebrewLamed true => if c.toNat = 0x5D0 then some (0, .plain) else none
    | .khmerLetter => if c.toNat = 0x17D2 then some (-1, .plain) else none
    | .bugineseYa true =>
      if c.toNat = 0x1A17 then some (0, .ligature .bugineseVowel []) else none
    | .bugineseVowel => if c.toNat = 0x1A15 then some (0, .plain) else none
    | .tifinaghConsonant joined =>
      if c.toNat = 0x2D7F then some (1, .ligature .tifinaghJoiner [])
      else if joined && isTifinaghConsonant c then some (0, .plain)
      else none
    | .tifinaghJoiner => if isTifinaghConsonant c then some (-1, .plain) else none
    | .lisuTone => if inRanges [(0xA4F8, 0xA4FB)] c then some (0, .plain) else none
    | .turkicVowel true => if c.toNat = 0x10C32 then some (0, .plain) else none
    | _ => none

namespace Follower

/-- What a character is to the one before it. -/
def ofChar (c : Char) : Follower :=
  if isEmoji c then .picture
  else if isTone c then .tone
  else if isFlagLetter c then .flagLetter
  else if c.toNat = 0x16D67 then .kiratE
  else if c.toNat = 0x16D68 then .kiratAi
  else match Ligature.ofChar? c with
    | some l => .ligature l []
    | none => .plain

/-- Whether the selector stands before all this. -/
def selects (s : Selector) : Follower → Bool
  | .selector t => t = s
  | .ligature _ selectors => selectors.contains s
  | .joiner _ selected => selected && s = .picture
  | _ => false

/-- The same without a selector that has found nothing to select. -/
def unselect (s : Selector) : Follower → Follower
  | .selector t => if t = s then .plain else .selector t
  | .ligature l selectors => .ligature l (selectors.filter (· != s))
  | .joiner keycap selected => if selected && s = .picture then .plain else .joiner keycap selected
  | f => f

def select (s : Selector) : Follower → Follower
  | .ligature l selectors => .ligature l (s :: selectors)
  | .joiner keycap _ => if s = .picture then .joiner keycap true else .selector s
  | _ => .selector s

/-- A joiner before a picture makes one picture of what stands on both sides. -/
def addToJoiner? (c : Char) : Option (Int × Follower) :=
  if c.toNat = 0x20E3 then some (0, .joiner true false)
  else if isFlagLetter c then some (1, .joinedFlagLetter)
  else if isTone c then some (0, .tone)
  else if c.toNat = 0xE007F then some (0, .tagLetters 0)
  else if isEmoji c then some (0, .picture)
  else none

/-- The tags of a flag are letters, digits, or up to four letters behind three digits. -/
def addToTag? (letters digits : Nat) (c : Char) : Option (Int × Follower) :=
  if digits = 0 && letters < 6 && inRanges [(0xE0061, 0xE007A)] c then
    some (0, .tagLetters (letters + 1))
  else if letters ≤ 4 && digits < 3 && inRanges [(0xE0030, 0xE0039)] c then
    some (0, .tagDigits (digits + 1))
  else if (3 ≤ letters || digits = 3) && c.toNat = 0x1F3F4 then some (0, .picture)
  else none

/-- What a character adds to the width where it makes one shape with what is behind it. -/
def add? (f : Follower) (c : Char) : Option (Int × Follower) :=
  match f with
  | .ligature l _ => l.add? c
  | .kiratE =>
    if c.toNat = 0x16D63 || c.toNat = 0x16D69 then some (0, .plain)
    else if c.toNat = 0x16D67 then some (0, .kiratAi)
    else if c.toNat = 0x16D68 then some (1, .kiratE)
    else none
  | .kiratAi => if c.toNat = 0x16D63 then some (0, .plain) else none
  | .tone =>
    if isToned c then some (0, .picture)
    else if isJoiner c then some (0, .joiner false false)
    else none
  | .picture => if isJoiner c then some (0, .joiner false false) else none
  | .flagLetter => if isFlagLetter c then some (1, .flagLetters) else none
  | .flagLetters =>
    if isFlagLetter c then some (1, .flagLetters)
    else if isJoiner c then some (0, .joiner false false)
    else none
  | .joiner false _ => addToJoiner? c
  | .joinedFlagLetter => if isFlagLetter c then some (-1, .joinedFlagLetters true) else none
  | .joinedFlagLetters even =>
    if isFlagLetter c then some (if even then 3 else -1, .joinedFlagLetters !even)
    else if isJoiner c then some (0, .joiner false false)
    else none
  | .tagLetters count => addToTag? count 0 c
  | .tagDigits count => addToTag? 0 count c
  | _ => none

/-- What a character adds to the width of the text behind it. -/
def add (f : Follower) (c : Char) : Int × Follower :=
  if f.selects .picture && isSelectable c then
    (if f matches .joiner .. then 0 else 2, .picture)
  else if c.toNat ≤ 0xA0 then (1, .plain)
  else
    let f := f.unselect .picture
    match Selector.ofChar? c with
    | some s => (0, f.select s)
    | none =>
      if f.selects .text && isNarrowable c then (1, .plain)
      else if f.selects .fullwidth && isQuotation c then (2, .plain)
      else (((f.unselect .text).unselect .fullwidth).add? c).getD (columns c, ofChar c)

end Follower

/-- The columns that a line takes in a terminal, counted from its end. -/
def width (line : String) : Nat :=
  (line.toList.foldr (fun c (total, f) =>
    let (n, f) := f.add c
    (total + n, f)) ((0 : Int), Follower.plain)).1.toNat

end Lanewise.Text
