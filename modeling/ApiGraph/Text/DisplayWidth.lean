import ApiGraph.Text.CharWidth
import ApiGraph.Text.Emoji

namespace ApiGraph.Text

/-! How many columns of a terminal a text takes. Characters may melt into those behind them, so the
text is followed from its end, and what a character adds depends on what follows it. -/

/-! ## What follows -/

/-- The last letters of ligatures. -/
inductive LigatureEnd where
  | hebrewLamed
  | buginese
  /-- The Buginese letter with the vowel that stands before it. -/
  | bugineseVowel
  | tifinagh
  /-- A Tifinagh consonant with the joiner that stands before it. -/
  | tifinaghJoiner
  | lisuTone
  | oldTurkic
  | khmer
  deriving DecidableEq, Repr

/-- What the text behind a character begins with. -/
inductive Following where
  | ordinary
  | lineBreak
  /-- An Arabic Alef, perhaps behind marks. -/
  | alef
  /-- The last letter of a ligature, and whether a joiner stands before it. -/
  | ligature (last : LigatureEnd) (joined : Bool)
  | kiratRaiE
  | kiratRaiAi
  | picture
  | tone
  /-- So many letters of flags. -/
  | flagLetters (count : Nat)
  /-- A joiner and a picture. -/
  | joinedPicture
  /-- A key cap, a joiner and a picture. -/
  | joinedKey
  /-- So many letters of flags, a joiner and a picture. -/
  | joinedFlagLetters (count : Nat)
  /-- So many letters in tags, the end of tags, a joiner and a picture. -/
  | joinedTagLetters (count : Nat)
  /-- So many digits in tags, perhaps letters in tags, the end of tags, a joiner and a picture. -/
  | joinedTagDigits (count : Nat)
  deriving DecidableEq, Repr

/-- How the character before a selector is to be shown. -/
inductive Selector where
  | picture
  | text
  | wide
  deriving DecidableEq, Repr

/-- What follows a character, and the selector that stands between them. -/
structure Context where
  following : Following := .ordinary
  selector : Option Selector := none
  deriving DecidableEq, Repr

/-! ## Selectors -/

def selector? (c : Char) : Option Selector :=
  if c = '\ufe0f' then some .picture
  else if c = '\ufe0e' then some .text
  else if c = '\ufe01' then some .wide
  else none

def isQuotationMark (c : Char) : Bool := "\u2018\u2019\u201c\u201d".toList.contains c

/-- Whether a selector leaves what follows it in sight of the character before it. -/
def Following.shows : Selector → Following → Bool
  | _, .alef => true
  | _, .ligature _ _ => true
  | .picture, .joinedPicture => true
  | .picture, .joinedKey => true
  | _, _ => false

/-- What follows the character before a selector. -/
def Context.select (context : Context) (selector : Selector) : Context where
  following := if context.following.shows selector then context.following else .ordinary
  selector := some selector

/-- The width that a selector gives to the character before it. -/
def Context.selectedWidth? (context : Context) (c : Char) : Option (Int × Context) :=
  match context.selector with
  | some .picture =>
      if !isSelectablePicture c then none
      else if context.following = .joinedPicture || context.following = .joinedKey then
        some (0, ⟨.picture, none⟩)
      else some (2, ⟨.picture, none⟩)
  | some .text => if isSelectableText c then some (1, {}) else none
  | some .wide => if isQuotationMark c then some (2, {}) else none
  | none => none

/-- What follows a character that takes no notice of the selector behind it. -/
def Context.unselected (context : Context) : Following :=
  match context.selector, context.following with
  | some .picture, .joinedPicture => .ordinary
  | some .picture, .joinedKey => .ordinary
  | _, following => following

/-! ## Ligatures -/

def joiner : Char := '\u200d'

/-- Marks that stand within ligatures without a trace. -/
def tracelessRanges : List CodeRange := [
  (0x34f, 0x34f), (0x17b4, 0x17b5), (0x180b, 0x180d), (0x180f, 0x180f), (0xfe00, 0xfe0f),
  (0xe0100, 0xe01ef)]

def alefRanges : List CodeRange := [
  (0x622, 0x623), (0x625, 0x625), (0x627, 0x627), (0x671, 0x673), (0x675, 0x675), (0x773, 0x774),
  (0x870, 0x882)]

def lamRanges : List CodeRange := [
  (0x644, 0x644), (0x6b5, 0x6b8), (0x76a, 0x76a), (0x8a6, 0x8a6), (0x8c7, 0x8c7)]

/-- The Khmer letters that may be set below another one. -/
def subscriptRanges : List CodeRange := [
  (0x1780, 0x1782), (0x1784, 0x1787), (0x1789, 0x178c), (0x178e, 0x1793), (0x1795, 0x1798),
  (0x179b, 0x179d), (0x17a0, 0x17a0), (0x17a2, 0x17a2), (0x17a7, 0x17a7), (0x17ab, 0x17ac),
  (0x17af, 0x17af)]

def tifinaghRanges : List CodeRange := [(0x2d31, 0x2d65), (0x2d6f, 0x2d6f)]

/-- The ligature that a letter may be the last one of. -/
def ligatureEnd? (c : Char) : Option Following :=
  if c = '\u05dc' then some (.ligature .hebrewLamed false)
  else if c = '\u1a10' then some (.ligature .buginese false)
  else if isWithin tifinaghRanges c then some (.ligature .tifinagh false)
  else if c = '\ua4fc' || c = '\ua4fd' then some (.ligature .lisuTone false)
  else if c.toNat = 0x10c03 then some (.ligature .oldTurkic false)
  else if isWithin subscriptRanges c then some (.ligature .khmer false)
  else if isWithin alefRanges c then some .alef
  else none

/-- What a character adds that goes into a ligature. -/
def ligatureWidth? (c : Char) : Following → Option (Int × Following)
  | .alef =>
      if isWithin lamRanges c then some (0, .ordinary)
      else if isTransparent c then some (0, .alef)
      else none
  | .ligature .hebrewLamed true => if c = '\u05d0' then some (0, .ordinary) else none
  | .ligature .buginese true =>
      if c = '\u1a17' then some (0, .ligature .bugineseVowel true) else none
  | .ligature .bugineseVowel _ => if c = '\u1a15' then some (0, .ordinary) else none
  | .ligature .tifinagh joined =>
      if c = '\u2d7f' then some (1, .ligature .tifinaghJoiner true)
      else if joined && isWithin tifinaghRanges c then some (0, .ordinary)
      else none
  | .ligature .tifinaghJoiner _ =>
      if isWithin tifinaghRanges c then some (-1, .ordinary) else none
  | .ligature .lisuTone _ =>
      if CodeRange.holds (0xa4f8, 0xa4fb) c.toNat then some (0, .ordinary) else none
  | .ligature .oldTurkic true => if c.toNat = 0x10c32 then some (0, .ordinary) else none
  | .ligature .khmer _ => if c = '\u17d2' then some (-1, .ordinary) else none
  | _ => none

/-- What a sign adds that makes one vowel with the sign behind it. -/
def kiratRaiWidth? (c : Char) : Following → Option (Int × Following)
  | .kiratRaiE =>
      if c.toNat = 0x16d63 || c.toNat = 0x16d69 then some (0, .ordinary)
      else if c.toNat = 0x16d67 then some (0, .kiratRaiAi)
      else if c.toNat = 0x16d68 then some (1, .kiratRaiE)
      else none
  | .kiratRaiAi => if c.toNat = 0x16d63 then some (0, .ordinary) else none
  | _ => none

/-! ## Pictures -/

/-- Whether a joiner binds the picture that follows it to the one before. -/
def Following.isJoinable : Following → Bool
  | .picture => true
  | .tone => true
  | .flagLetters count => 2 ≤ count
  | .joinedFlagLetters count => 2 ≤ count
  | _ => false

/-- What a character adds that goes into a picture, together with those behind it. -/
def pictureWidth? (c : Char) : Following → Option (Int × Following)
  | .tone => if isTonable c then some (0, .picture) else none
  | .flagLetters count => if isFlagLetter c then some (1, .flagLetters (count + 1)) else none
  | .joinedPicture =>
      if c = '\u20e3' then some (0, .joinedKey)
      else if isFlagLetter c then some (1, .joinedFlagLetters 1)
      else if isTone c then some (0, .tone)
      else if c.toNat = 0xe007f then some (0, .joinedTagLetters 0)
      else if isPicture c then some (0, .picture)
      else none
  | .joinedFlagLetters count =>
      if isFlagLetter c then
        some (if count % 2 = 0 then 3 else -1, .joinedFlagLetters (count + 1))
      else none
  | .joinedTagLetters count =>
      if isTagLetter c && count < 6 then some (0, .joinedTagLetters (count + 1))
      else if isTagDigit c && count < 5 then some (0, .joinedTagDigits 1)
      else if c = blackFlag && 3 ≤ count then some (0, .picture)
      else none
  | .joinedTagDigits count =>
      if isTagDigit c && count < 3 then some (0, .joinedTagDigits (count + 1))
      else if c = blackFlag && count = 3 then some (0, .picture)
      else none
  | _ => none

/-! ## Text -/

/-- What a character is for the one before it. -/
def followingOf (c : Char) : Following :=
  match ligatureEnd? c with
  | some following => following
  | none =>
      if c.toNat = 0x16d67 then .kiratRaiE
      else if c.toNat = 0x16d68 then .kiratRaiAi
      else if isFlagLetter c then .flagLetters 1
      else if isTone c then .tone
      else if isPicture c then .picture
      else .ordinary

/-- What a control or an ASCII character adds, and what it is for the one before it. Only a carriage
return takes notice of what follows. -/
def basicWidth (c : Char) (following : Following) : Int × Following :=
  if c = '\n' then (1, .lineBreak)
  else if c = '\r' ∧ following = .lineBreak then (0, .ordinary)
  else (1, .ordinary)

/-- What a character adds that no selector shows otherwise, and what it is for the one before it. -/
def joinedWidth (c : Char) (following : Following) : Int × Following :=
  if c = joiner && following.isJoinable then (0, .joinedPicture)
  else
    (ligatureWidth? c following <|> kiratRaiWidth? c following <|> pictureWidth? c following).getD
      (charWidth c, followingOf c)

/-- What a character within or in front of a ligature adds, and what it is for the one before it. -/
def unbrokenWidth (c : Char) : Following → Int × Following
  | .ligature last joined =>
      if c = joiner then (0, .ligature last true)
      else if isWithin tracelessRanges c then (0, .ligature last joined)
      else joinedWidth c (.ligature last joined)
  | following => joinedWidth c following

/-- What a character adds to the width, and what follows the character before it. -/
def widthIn (context : Context) (c : Char) : Int × Context :=
  match context.selectedWidth? c with
  | some found => found
  | none =>
      let following := context.unselected
      if c.toNat ≤ 0xA0 then
        let (width, following) := basicWidth c following
        (width, ⟨following, none⟩)
      else
        match selector? c with
        | some selector => (0, Context.select ⟨following, none⟩ selector)
        | none =>
            let (width, following) := unbrokenWidth c following
            (width, ⟨following, none⟩)

/-- The number of columns that a text takes. -/
def displayWidth (text : List Char) : Nat :=
  (text.foldr (fun c (width, context) =>
    let (added, context) := widthIn context c
    (width + added, context)) ((0 : Int), ({} : Context))).1.toNat

example : displayWidth "日本 é".toList = 6 := by decide +kernel
example : displayWidth "a\u00adb".toList = 2 := by decide +kernel
example : displayWidth "\u0644\u064e\u0627".toList = 1 := by decide +kernel
example : displayWidth "👩\u200d👩\u200d👧".toList = 2 := by decide +kernel
example : displayWidth "1\ufe0f\u20e3 \u231a\ufe0e".toList = 4 := by decide +kernel

end ApiGraph.Text
