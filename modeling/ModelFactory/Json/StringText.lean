import ModelFactory.Json.Flaw
import ModelFactory.Text.Digits

/-!
# Strings as they are written

A `StringText` keeps a string as the pieces it is written with and the way it stops. Two readers
look at it. `StringText.decoded` gives the characters and refuses escapes that are half a pair;
`StringText.skipFlaw` only asks whether the string is written to its closing quote.
-/

set_option autoImplicit false

namespace ModelFactory.Json

/-- A piece of a written string. -/
inductive StringPiece where
  /-- A character, written as it is or with a short escape. -/
  | plain (char : Char)
  /-- A code unit written with four hexadecimal digits. -/
  | unit (code : Nat)
deriving DecidableEq

/-- How a written string stops. -/
inductive StringStop where
  | closed
  | textEnds
  | controlCharacter
  | badEscape
  | badDigits
deriving DecidableEq

/-- A string as it is written, without its opening quote. -/
structure StringText where
  pieces : List StringPiece
  stop : StringStop
deriving DecidableEq

/-- The value of four hexadecimal digits. -/
def hexUnit? (a b c d : Char) : Option Nat :=
  ([a, b, c, d].mapM Text.hexDigit?).map (Text.digitsNumber 16)

/-- The character of a short escape. -/
def shortEscape? : Char → Option Char
  | '"' => some '"'
  | '\\' => some '\\'
  | '/' => some '/'
  | 'b' => some '\x08'
  | 'f' => some '\x0c'
  | 'n' => some '\n'
  | 'r' => some '\r'
  | 't' => some '\t'
  | _ => none

/-- Fewer than four octets are left, so that four digits cannot be told from the end of the text. -/
def endsWithinDigits (chars : List Char) : Bool :=
  (String.ofList (chars.take 4)).utf8ByteSize < 4

namespace StringText

/-- One more piece in front. -/
def cons (piece : StringPiece) (text : StringText) : StringText :=
  { text with pieces := piece :: text.pieces }

/-- Reads a string after its opening quote, with what stands after its closing quote. -/
def read : List Char → StringText × Option (List Char)
  | [] => (⟨[], .textEnds⟩, none)
  | '"' :: rest => (⟨[], .closed⟩, some rest)
  | ['\\'] => (⟨[], .textEnds⟩, none)
  | '\\' :: 'u' :: a :: b :: c :: d :: rest =>
    match hexUnit? a b c d with
    | some code =>
      let (text, after) := read rest
      (text.cons (.unit code), after)
    | none => (⟨[], .badDigits⟩, none)
  | '\\' :: 'u' :: rest => (⟨[], if endsWithinDigits rest then .textEnds else .badDigits⟩, none)
  | '\\' :: escape :: rest =>
    match shortEscape? escape with
    | some char =>
      let (text, after) := read rest
      (text.cons (.plain char), after)
    | none => (⟨[], .badEscape⟩, none)
  | char :: rest =>
    if char.toNat < 0x20 then (⟨[], .controlCharacter⟩, none)
    else
      let (text, after) := read rest
      (text.cons (.plain char), after)

/-- The flaw that a reader meets who only looks for the closing quote. -/
def skipFlaw (text : StringText) : Option Flaw :=
  match text.stop with
  | .closed => none
  | .textEnds => some .endInString
  | .controlCharacter => some .controlCharacter
  | .badEscape => some .invalidEscape
  | .badDigits => some .invalidEscape

/-- A code unit that starts a surrogate pair. -/
def isHighSurrogate (code : Nat) : Bool := 0xd800 ≤ code && code ≤ 0xdbff

/-- A code unit that ends a surrogate pair. -/
def isLowSurrogate (code : Nat) : Bool := 0xdc00 ≤ code && code ≤ 0xdfff

/-- The character of a surrogate pair. -/
def pairedChar (high low : Nat) : Char :=
  Char.ofNat (0x10000 + (high - 0xd800) * 0x400 + (low - 0xdc00))

/-- The flaw of a string that stops right after the first half of a pair. -/
def halfPairFlaw : StringStop → Flaw
  | .textEnds => .endInString
  | .badDigits => .invalidEscape
  | .closed | .controlCharacter | .badEscape => .unfinishedSurrogatePair

/-- The characters of the pieces, or the first flaw among them and at the stop. -/
def decodePieces (stop : StringStop) : List StringPiece → Except Flaw (List Char)
  | [] =>
    match skipFlaw ⟨[], stop⟩ with
    | none => .ok []
    | some flaw => .error flaw
  | .plain char :: rest => (decodePieces stop rest).map (char :: ·)
  | .unit code :: rest =>
    if isLowSurrogate code then .error .loneSurrogate
    else if isHighSurrogate code then
      match rest with
      | [] => .error (halfPairFlaw stop)
      | .plain _ :: _ => .error .unfinishedSurrogatePair
      | .unit low :: rest =>
        if isLowSurrogate low then (decodePieces stop rest).map (pairedChar code low :: ·)
        else .error .loneSurrogate
    else (decodePieces stop rest).map (Char.ofNat code :: ·)

/-- The string that is written, or the first flaw in it. -/
def decoded (text : StringText) : Except Flaw String :=
  (decodePieces text.stop text.pieces).map String.ofList

end StringText

end ModelFactory.Json
