/-!
# Text in UTF-8

`Text.ofUtf8` reads octets as text. Octets that are no text are told by the place of the first one
that cannot be read and by how many octets go with it, or by the place from which more octets are
needed.
-/

set_option autoImplicit false

namespace ModelFactory.Text

/-- Why octets are no text. -/
inductive Utf8Flaw where
  /-- So many octets from `index` on begin no character. -/
  | invalid (count index : Nat)
  /-- The octets end within the character that begins at `index`. -/
  | incomplete (index : Nat)
deriving DecidableEq

/-- The message to the user. -/
def Utf8Flaw.message : Utf8Flaw → String
  | invalid count index =>
    "invalid utf-8 sequence of " ++ toString count ++ " bytes from index " ++ toString index
  | incomplete index => "incomplete utf-8 byte sequence from index " ++ toString index

/-- An octet that goes on with a character. -/
def isTail (octet : Nat) : Bool := 0x80 ≤ octet && octet ≤ 0xbf

/-- The bounds of the second octet of a character of three or four, which keep out long forms,
surrogates and numbers that are too large. -/
def secondBounds (first : Nat) : Nat × Nat :=
  if first = 0xe0 then (0xa0, 0xbf)
  else if first = 0xed then (0x80, 0x9f)
  else if first = 0xf0 then (0x90, 0xbf)
  else if first = 0xf4 then (0x80, 0x8f)
  else (0x80, 0xbf)

/-- The second octet fits the first. -/
def fitsSecond (first second : Nat) : Bool :=
  (secondBounds first).1 ≤ second && second ≤ (secondBounds first).2

/-- Reads characters from octets, the first of which stands at `index`. -/
def readUtf8 : (index : Nat) → List Nat → Except Utf8Flaw (List Char)
  | _, [] => .ok []
  | index, a :: rest =>
    if a < 0x80 then (readUtf8 (index + 1) rest).map (Char.ofNat a :: ·)
    else if a < 0xc2 || 0xf4 < a then .error (.invalid 1 index)
    else if a < 0xe0 then
      match rest with
      | [] => .error (.incomplete index)
      | b :: rest =>
        if !isTail b then .error (.invalid 1 index)
        else (readUtf8 (index + 2) rest).map (Char.ofNat (a % 32 * 64 + b % 64) :: ·)
    else if a < 0xf0 then
      match rest with
      | [] => .error (.incomplete index)
      | b :: rest =>
        if !fitsSecond a b then .error (.invalid 1 index)
        else
          match rest with
          | [] => .error (.incomplete index)
          | c :: rest =>
            if !isTail c then .error (.invalid 2 index)
            else
              (readUtf8 (index + 3) rest).map
                (Char.ofNat ((a % 16 * 64 + b % 64) * 64 + c % 64) :: ·)
    else
      match rest with
      | [] => .error (.incomplete index)
      | b :: rest =>
        if !fitsSecond a b then .error (.invalid 1 index)
        else
          match rest with
          | [] => .error (.incomplete index)
          | c :: rest =>
            if !isTail c then .error (.invalid 2 index)
            else
              match rest with
              | [] => .error (.incomplete index)
              | d :: rest =>
                if !isTail d then .error (.invalid 3 index)
                else
                  (readUtf8 (index + 4) rest).map
                    (Char.ofNat (((a % 8 * 64 + b % 64) * 64 + c % 64) * 64 + d % 64) :: ·)

/-- The text that octets stand for. -/
def ofUtf8 (octets : ByteArray) : Except Utf8Flaw String :=
  (readUtf8 0 (octets.toList.map UInt8.toNat)).map String.ofList

end ModelFactory.Text
