/-!
# Text in bytes

Bytes are read as UTF-8 character by character.  A byte that starts no character
is kept as it is, and reading goes on behind it.
-/

namespace Triage.Text

/-- What bytes hold: characters, and bytes that belong to none. -/
inductive Piece where
  | character (c : Char)
  | stray (byte : UInt8)
deriving DecidableEq, Repr

/-- The six low bits of a byte that continues a character. -/
def continuation? (low high : Nat) (byte : UInt8) : Option Nat :=
  if low ≤ byte.toNat ∧ byte.toNat ≤ high then some (byte.toNat % 64) else none

/-- The character that starts with two bytes, with the number of its bytes. -/
def twoBytes? (first second : UInt8) : Option Char :=
  if 0xC2 ≤ first ∧ first ≤ 0xDF then
    (continuation? 0x80 0xBF second).map fun low =>
      Char.ofNat (first.toNat % 32 * 64 + low)
  else
    none

/-- The character of three bytes. -/
def threeBytes? (first second third : UInt8) : Option Char :=
  if 0xE0 ≤ first ∧ first ≤ 0xEF then do
    let middle ← continuation? (if first = 0xE0 then 0xA0 else 0x80)
      (if first = 0xED then 0x9F else 0xBF) second
    let low ← continuation? 0x80 0xBF third
    return Char.ofNat (first.toNat % 16 * 4096 + middle * 64 + low)
  else
    none

/-- The character of four bytes. -/
def fourBytes? (first second third fourth : UInt8) : Option Char :=
  if 0xF0 ≤ first ∧ first ≤ 0xF4 then do
    let high ← continuation? (if first = 0xF0 then 0x90 else 0x80)
      (if first = 0xF4 then 0x8F else 0xBF) second
    let middle ← continuation? 0x80 0xBF third
    let low ← continuation? 0x80 0xBF fourth
    return Char.ofNat (first.toNat % 8 * 262144 + high * 4096 + middle * 64 + low)
  else
    none

/-- The character at the front of some bytes, with the bytes behind it. -/
def character? : List UInt8 → Option (Char × List UInt8)
  | [] => none
  | first :: rest =>
      if first < 0x80 then
        some (Char.ofNat first.toNat, rest)
      else
        (match rest with
          | second :: later => (twoBytes? first second).map (·, later)
          | [] => none) <|>
        (match rest with
          | second :: third :: later => (threeBytes? first second third).map (·, later)
          | _ => none) <|>
        (match rest with
          | second :: third :: fourth :: later =>
              (fourBytes? first second third fourth).map (·, later)
          | _ => none)

/-- The pieces of some bytes, at most `fuel` of them. -/
def piecesUpTo : (fuel : Nat) → List UInt8 → List Piece
  | 0, _ => []
  | _ + 1, [] => []
  | fuel + 1, first :: rest =>
      match character? (first :: rest) with
      | some (c, later) => .character c :: piecesUpTo fuel later
      | none => .stray first :: piecesUpTo fuel rest

/-- The pieces of some bytes. -/
def pieces (bytes : List UInt8) : List Piece := piecesUpTo bytes.length bytes

/-- The text of some pieces, when all of them are characters. -/
def Piece.text? : List Piece → Option (List Char)
  | [] => some []
  | .character c :: rest => (text? rest).map (c :: ·)
  | .stray _ :: _ => none

/-- The text that bytes hold, when they hold nothing else. -/
def textOfBytes? (bytes : List UInt8) : Option String :=
  (Piece.text? (pieces bytes)).map String.ofList

/-- The text that bytes hold, with a sign of replacement for every stray byte. -/
def textWithReplacements (bytes : List UInt8) : String :=
  String.ofList ((pieces bytes).map fun
    | .character c => c
    | .stray _ => '\uFFFD')

end Triage.Text
