/-!
Reading bytes as UTF-8 when they may be no text at all. Each longest beginning of a character that
breaks off, and each byte that can begin none, reads as one replacement character.
-/

namespace BoundSql.Text

/-- A character of which some bytes have been read: the bits so far, the number of bytes that are
still to come, and the range in which the next of them has to lie. -/
structure PartialChar where
  bits : Nat
  missing : Nat
  low : Nat
  high : Nat

def replacement : Char := '\uFFFD'

/-- What a byte at the start of a character stands for: a whole character or the first part of a
longer one. The range of the second byte keeps out forms that are too long, surrogates, and code
points past the last. -/
def startChar (byte : Nat) : List Char × Option PartialChar :=
  if byte < 0x80 then ([Char.ofNat byte], none)
  else if byte < 0xc2 then ([replacement], none)
  else if byte < 0xe0 then ([], some ⟨byte % 32, 1, 0x80, 0xbf⟩)
  else if byte = 0xe0 then ([], some ⟨byte % 16, 2, 0xa0, 0xbf⟩)
  else if byte = 0xed then ([], some ⟨byte % 16, 2, 0x80, 0x9f⟩)
  else if byte < 0xf0 then ([], some ⟨byte % 16, 2, 0x80, 0xbf⟩)
  else if byte = 0xf0 then ([], some ⟨byte % 8, 3, 0x90, 0xbf⟩)
  else if byte < 0xf4 then ([], some ⟨byte % 8, 3, 0x80, 0xbf⟩)
  else if byte = 0xf4 then ([], some ⟨byte % 8, 3, 0x80, 0x8f⟩)
  else ([replacement], none)

/-- Reads one more byte. A byte that does not continue the character breaks it off and starts
another. -/
def nextByte (byte : Nat) : Option PartialChar → List Char × Option PartialChar
  | none => startChar byte
  | some p =>
      if p.low ≤ byte && byte ≤ p.high then
        let bits := p.bits * 64 + byte % 64
        if p.missing ≤ 1 then ([Char.ofNat bits], none)
        else ([], some ⟨bits, p.missing - 1, 0x80, 0xbf⟩)
      else
        let (chars, next) := startChar byte
        (replacement :: chars, next)

/-- The characters of the bytes that follow a character read in part. -/
def decodeFrom (started : Option PartialChar) : List UInt8 → List Char
  | [] => if started.isSome then [replacement] else []
  | byte :: rest =>
      let (chars, next) := nextByte byte.toNat started
      chars ++ decodeFrom next rest

/-- The text of some bytes, with replacement characters where they are not UTF-8. -/
def decodeUtf8 (bytes : List UInt8) : String :=
  String.ofList (decodeFrom none bytes)

end BoundSql.Text
