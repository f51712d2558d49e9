import SolidityAtlas.Text.Quoted

/-! Text from bytes: UTF-8 decoding that says where and why bytes are no text, and line ends of
every sort read as line feeds.
-/

namespace SolidityAtlas.Text

/-- Why bytes are not UTF-8. -/
inductive DecodeCause where
  /-- A byte that starts no character. -/
  | invalidStart
  /-- A character is broken off by a byte that does not continue it. -/
  | invalidContinuation
  /-- The bytes end inside a character. -/
  | unexpectedEnd
  deriving DecidableEq, Repr

/-- The bytes that are not UTF-8: the first one, how many of them belong together, and where they
stand.
-/
structure DecodeError where
  cause : DecodeCause
  position : Nat
  length : Nat
  byte : UInt8
  deriving DecidableEq, Repr

/-- The words for a cause. -/
def DecodeCause.message : DecodeCause → String
  | .invalidStart => "invalid start byte"
  | .invalidContinuation => "invalid continuation byte"
  | .unexpectedEnd => "unexpected end of data"

/-- The words for the place of the bytes. -/
def DecodeError.place (error : DecodeError) : String :=
  if error.length = 1 then
    "byte 0x" ++ String.ofList (hexDigits 2 error.byte.toNat) ++ " in position " ++
      toString error.position
  else
    "bytes in position " ++ toString error.position ++ "-" ++
      toString (error.position + error.length - 1)

/-- The words for bytes that are not UTF-8. -/
def DecodeError.message (error : DecodeError) : String :=
  "'utf-8' codec can't decode " ++ error.place ++ ": " ++ error.cause.message

/-- How a character goes on after its first byte: how many bytes follow, the range of the first of
them, and the bits that the first byte gives.
-/
structure Lead where
  following : Nat
  low : Nat
  high : Nat
  bits : Nat

/-- What a first byte outside ASCII announces. -/
def lead? (byte : Nat) : Option Lead :=
  if 0xc2 ≤ byte ∧ byte ≤ 0xdf then some ⟨1, 0x80, 0xbf, byte - 0xc0⟩
  else if byte = 0xe0 then some ⟨2, 0xa0, 0xbf, 0⟩
  else if byte = 0xed then some ⟨2, 0x80, 0x9f, 0xd⟩
  else if 0xe1 ≤ byte ∧ byte ≤ 0xef then some ⟨2, 0x80, 0xbf, byte - 0xe0⟩
  else if byte = 0xf0 then some ⟨3, 0x90, 0xbf, 0⟩
  else if 0xf1 ≤ byte ∧ byte ≤ 0xf3 then some ⟨3, 0x80, 0xbf, byte - 0xf0⟩
  else if byte = 0xf4 then some ⟨3, 0x80, 0x8f, 4⟩
  else none

/-- A character that is being decoded: where it starts and with which byte, how many of its bytes
were read, what may come next and the bits so far.
-/
structure Pending where
  start : Nat
  first : UInt8
  read : Nat
  next : Lead

/-- Decodes bytes from a position on; `done` holds the characters so far, last first. -/
def decodeFrom (position : Nat) (pending : Option Pending) (done : List Char)
    : List UInt8 → Except DecodeError (List Char)
  | [] =>
      match pending with
      | none => .ok done.reverse
      | some partly => .error ⟨.unexpectedEnd, partly.start, partly.read, partly.first⟩
  | byte :: rest =>
      match pending with
      | none =>
          if byte.toNat < 0x80 then
            decodeFrom (position + 1) none (Char.ofNat byte.toNat :: done) rest
          else
            match lead? byte.toNat with
            | none => .error ⟨.invalidStart, position, 1, byte⟩
            | some next =>
                decodeFrom (position + 1)
                  (some { start := position, first := byte, read := 1, next := next }) done rest
      | some partly =>
          if byte.toNat < partly.next.low ∨ partly.next.high < byte.toNat then
            .error ⟨.invalidContinuation, partly.start, partly.read, partly.first⟩
          else
            let bits := partly.next.bits * 64 + (byte.toNat - 0x80)
            if partly.next.following = 1 then
              decodeFrom (position + 1) none (Char.ofNat bits :: done) rest
            else
              decodeFrom (position + 1)
                (some { partly with
                  read := partly.read + 1
                  next := ⟨partly.next.following - 1, 0x80, 0xbf, bits⟩ })
                done rest

/-- The text that bytes encode. -/
def decode (bytes : List UInt8) : Except DecodeError (List Char) :=
  decodeFrom 0 none [] bytes

/-- Text with every carriage return, alone or in front of a line feed, read as a line feed. -/
def uniformLines : List Char → List Char
  | [] => []
  | '\r' :: '\n' :: rest => '\n' :: uniformLines rest
  | '\r' :: rest => '\n' :: uniformLines rest
  | c :: rest => c :: uniformLines rest

end SolidityAtlas.Text
