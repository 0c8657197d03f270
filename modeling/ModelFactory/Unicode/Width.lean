import ModelFactory.Unicode.WidthTable

/-!
# Width of text on a terminal

`width` counts the columns that a text takes. A character takes none, one or two columns, and some
characters count together: a line feed after a carriage return adds nothing, a selector after an
emoji says which of its two forms is shown, and a joiner between emoji makes one picture of them.
-/

set_option autoImplicit false

namespace ModelFactory.Unicode

/-- The columns of a character on its own. -/
def charWidth (char : Char) : Nat :=
  let code := char.toNat
  if code < 0x7f then 1
  else if code = 0x115f ∨ code = 0x17a4 then 2
  else if code = 0x17d8 then 3
  else if code = 0x2d7f then 1
  else if zeroWidth.has code then 0
  else if doubleWidth.has code then 2
  else 1

/-- The joiner of emoji. -/
def joiner : Char := Char.ofNat 0x200d

/-- The selector of the form of text. -/
def textSelector : Char := Char.ofNat 0xfe0e

/-- The selector of the form of a picture. -/
def pictureSelector : Char := Char.ofNat 0xfe0f

/-- A modifier of the colour of skin. -/
def isModifier (char : Char) : Bool := 0x1f3fb ≤ char.toNat && char.toNat ≤ 0x1f3ff

/-- The character shows a picture, because of what it is or of what follows it. -/
def showsPicture (char : Char) (rest : List Char) : Bool :=
  if char.toNat < 0x80 then emoji.hasChar char && rest.head? == some pictureSelector
  else
    match rest with
    | next :: _ =>
      if next = pictureSelector then emoji.hasChar char
      else if next = textSelector then false
      else emojiPresentation.hasChar char || isModifier next && emojiModifierBase.hasChar char
    | [] => emojiPresentation.hasChar char

/-- What stands before a character as far as its columns depend on it. -/
inductive Before where
  | nothing
  | carriageReturn
  /-- A picture, to which a selector belongs, and a modifier if the picture can have one. -/
  | picture (modifiable : Bool)
  /-- An emoji that is shown as text. -/
  | textForm
  /-- A picture and a joiner. -/
  | joined
deriving DecidableEq

/-- A picture stands before. -/
def Before.isPicture : Before → Bool
  | picture _ => true
  | _ => false

/-- The columns of a text after what stands before it. -/
def widthAfter : Before → List Char → Nat
  | _, [] => 0
  | before, char :: rest =>
    if before = .carriageReturn ∧ char = '\n' then widthAfter .nothing rest
    else if before.isPicture && char = pictureSelector
        || before = .picture true && isModifier char then
      widthAfter (.picture false) rest
    else if before.isPicture && char = joiner then widthAfter .joined rest
    else if showsPicture char rest then
      (if before = .joined then 0 else 2)
        + widthAfter (.picture (emojiModifierBase.hasChar char)) rest
    else if rest.head? = some textSelector ∧ emojiPresentation.hasChar char then
      1 + widthAfter .textForm rest
    else
      charWidth char + widthAfter (if char = '\r' then .carriageReturn else .nothing) rest

/-- The columns of a text. -/
def width (text : String) : Nat := widthAfter .nothing text.toList

end ModelFactory.Unicode
