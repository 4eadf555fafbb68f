import ApiGraph.Yaml.ScalarText
import ApiGraph.Yaml.Token

namespace ApiGraph.Yaml

/-! Directives, and the anchors and tags that stand before a node. -/

/-! ## Anchors -/

/-- Whether the name of an anchor ends before a character. -/
def endsAnchor (c : Char) : Bool :=
  isGap c || "?:,]\x7d%@\x60".toList.contains c

/-- The name of an anchor or alias, from behind its mark on. -/
def scanAnchor (input : Input) : Option (List Char × Input) :=
  let name := (input.span isWord).text
  let rest := input.skip isWord
  if name.isEmpty || !endsAnchor (rest.charAt 0) then none else some (name, rest)

/-! ## Tags -/

/-- A handle. Inside a declaration, a handle that is longer than its mark is closed by another
one. -/
def scanHandle (declared : Bool) (input : Input) : Option (List Char × Input) :=
  if input.charAt 0 != '!' then none
  else
    let name := '!' :: ((input.advance 1).span isWord).text
    let rest := (input.advance 1).skip isWord
    if rest.charAt 0 == '!' then some (name ++ ['!'], rest.advance 1)
    else if declared && name != ['!'] then none
    else some (name, rest)

def isUriChar (c : Char) : Bool := isWord c || ";/?:@&=+$.!~*'()".toList.contains c

/-- How many octets follow an octet that begins a character. -/
def followers? (octet : UInt8) : Option Nat :=
  if octet < 0x80 then some 0
  else if octet < 0xC0 then none
  else if octet < 0xE0 then some 1
  else if octet < 0xF0 then some 2
  else if octet < 0xF8 then some 3
  else none

def isFollower (octet : UInt8) : Bool := 0x80 ≤ octet && octet < 0xC0

/-- An octet in two hexadecimal digits. -/
def octet? (high low : Char) : Option UInt8 := (hexCode? [high, low]).map (·.toUInt8)

/-- The octets of a URI as they are written. An octet that is written in digits is taken for itself;
`due` is how many are still to come of a character that has begun. -/
def scanUri (flowMarks : Bool) (due : Nat) : Input → Option (List UInt8 × Input)
  | [] => if due = 0 then some ([], []) else none
  | place :: rest =>
      if place.char = '%' then
        match rest with
        | high :: low :: rest =>
            match octet? high.char low.char with
            | none => none
            | some octet =>
                let follow (due : Nat) := (scanUri flowMarks due rest).map fun (octets, rest) =>
                  (octet :: octets, rest)
                match due with
                | 0 => (followers? octet).bind follow
                | due + 1 => if isFollower octet then follow due else none
        | _ => none
      else if due ≠ 0 then none
      else if isUriChar place.char || (flowMarks && ",[]".toList.contains place.char) then
        (scanUri flowMarks 0 rest).map fun (octets, rest) =>
          (place.char.toNat.toUInt8 :: octets, rest)
      else some ([], place :: rest)

/-- What octets say: those from the octet zero on do not count. -/
def significant (octets : List UInt8) : List UInt8 := octets.takeWhile (· != 0)

/-- What a URI says that is not written empty. -/
def scanWholeUri (flowMarks : Bool) (input : Input) : Option (List UInt8 × Input) :=
  match scanUri flowMarks 0 input with
  | some ([], _) => none
  | scanned => scanned.map fun (octets, rest) => (significant octets, rest)

/-- Whether a handle is closed, so that a suffix follows it. -/
def isClosedHandle (handle : List Char) : Bool :=
  2 ≤ handle.length && handle.getLast? == some '!'

/-- The octets of a text. -/
def octets (text : List Char) : List UInt8 := text.flatMap String.utf8EncodeChar

/-- The mark that tags begin with. -/
def tagMark : UInt8 := 0x21

/-- A tag without regard to what follows it. What stands behind a handle that is not closed belongs
to the suffix. -/
def scanTagText (input : Input) : Option (TagText × Input) := do
  if input.charAt 0 == '!' && input.charAt 1 == '<' then
    let (uri, rest) ← scanWholeUri true (input.advance 2)
    if rest.charAt 0 == '>' then return (⟨[], uri⟩, rest.advance 1) else none
  else
    let (handle, rest) ← scanHandle false input
    if isClosedHandle handle then
      let (suffix, rest) ← scanWholeUri false rest
      return (⟨handle, suffix⟩, rest)
    else
      let (suffix, rest) ← scanUri false 0 rest
      match octets handle.tail ++ significant suffix with
      | [] => return (⟨[], [tagMark]⟩, rest)
      | suffix => return (⟨['!'], suffix⟩, rest)

def scanTag (inFlow : Bool) (input : Input) : Option (TagText × Input) := do
  let (tag, rest) ← scanTagText input
  if (inFlow && rest.charAt 0 == ',') || isGap (rest.charAt 0) then return (tag, rest) else none

/-! ## Directives -/

/-- Numbers of versions have at most so many digits. -/
def versionDigits : Nat := 9

def scanVersionNumber (input : Input) : Option (Nat × Input) :=
  let digits := (input.span Char.isDigit).text
  if digits.isEmpty || versionDigits < digits.length then none
  else
    let value := digits.foldl (fun value digit => 10 * value + (digit.toNat - '0'.toNat)) 0
    some (value, input.skip Char.isDigit)

def scanVersion (input : Input) : Option (Token × Input) := do
  let (major, rest) ← scanVersionNumber (input.skip isBlank)
  if rest.charAt 0 != '.' then none
  let (minor, rest) ← scanVersionNumber (rest.advance 1)
  return (.version major minor, rest)

def scanHandleDeclaration (input : Input) : Option (Token × Input) := do
  let (handle, rest) ← scanHandle true (input.skip isBlank)
  if !isBlank (rest.charAt 0) then none
  let (lead, rest) ← scanWholeUri true (rest.skip isBlank)
  if !isGap (rest.charAt 0) then none
  return (.handle handle lead, rest)

/-- A directive, from behind its mark on. -/
def scanDirective (input : Input) : Option (Token × Input) := do
  let name := (input.span isWord).text
  let rest := input.skip isWord
  if !isGap (rest.charAt 0) then none
  let (token, rest) ←
    if name = "YAML".toList then scanVersion rest
    else if name = "TAG".toList then scanHandleDeclaration rest
    else none
  return (token, ← rest.skipLineEnd?)

end ApiGraph.Yaml
