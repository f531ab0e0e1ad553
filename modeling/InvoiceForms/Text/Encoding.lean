/-!
# Encodings

The encodings of text as bytes, and why bytes encode none. `decode` reads UTF-8: it gives the text
that bytes encode, and otherwise the first bytes that cannot be read, and a reason. The text is that
of the standard library; only the fault is computed here.
-/

namespace InvoiceForms.Text

/-- Which of several bytes comes first. -/
inductive ByteOrder
  | bigEndian
  | littleEndian
deriving DecidableEq, Repr

/-- An encoding of text as bytes. -/
inductive Encoding
  | utf8
  | utf16 (order : ByteOrder)
  | utf32 (order : ByteOrder)
deriving DecidableEq, Repr

/-- The short name of a byte order. -/
def ByteOrder.name : ByteOrder → String
  | bigEndian => "be"
  | littleEndian => "le"

/-- The name of an encoding. -/
def Encoding.name : Encoding → String
  | utf8 => "utf-8"
  | utf16 order => "utf-16-" ++ order.name
  | utf32 order => "utf-32-" ++ order.name

/-- Why bytes cannot be read as a character. -/
inductive DecodeReason
  | badStart
  | badContinuation
  | unexpectedEnd
  | truncated
  | outOfRange
  | malformed
deriving DecidableEq, Repr

/-- The first bytes that cannot be read: the first one, its place, how many they are, and why. -/
structure DecodeFault where
  encoding : Encoding
  byte : UInt8
  position : Nat
  length : Nat
  reason : DecodeReason
deriving DecidableEq, Repr

/-- The reason in words. -/
def DecodeReason.message : DecodeReason → String
  | badStart => "invalid start byte"
  | badContinuation => "invalid continuation byte"
  | unexpectedEnd => "unexpected end of data"
  | truncated => "truncated data"
  | outOfRange => "code point not in range(0x110000)"
  | malformed => "invalid utf-8"

/-- Two hexadecimal digits. -/
def hexByte (b : UInt8) : String :=
  String.ofList [Nat.digitChar (b.toNat / 16), Nat.digitChar (b.toNat % 16)]

/-- A fault in words. -/
def DecodeFault.message (e : DecodeFault) : String :=
  "'" ++ e.encoding.name ++ "' codec can't decode " ++
    (if e.length = 1 then "byte 0x" ++ hexByte e.byte ++ " in position " ++ toString e.position
     else "bytes in position " ++ toString e.position ++ "-" ++
      toString (e.position + e.length - 1)) ++
    ": " ++ e.reason.message

/-- How many bytes follow a first byte, and the range of the second one. -/
def continuation? (first : Nat) : Option (Nat × Nat × Nat) :=
  if first < 0x80 then some (0, 0, 0)
  else if first < 0xC2 then none
  else if first < 0xE0 then some (1, 0x80, 0xBF)
  else if first = 0xE0 then some (2, 0xA0, 0xBF)
  else if first = 0xED then some (2, 0x80, 0x9F)
  else if first < 0xF0 then some (2, 0x80, 0xBF)
  else if first = 0xF0 then some (3, 0x90, 0xBF)
  else if first < 0xF4 then some (3, 0x80, 0xBF)
  else if first = 0xF4 then some (3, 0x80, 0x8F)
  else none

/-- Checks the bytes that follow `taken` others; gives the number of all, or the fault's length and
reason. -/
def checkContinuation (low high taken : Nat) :
    Nat → List UInt8 → Except (Nat × DecodeReason) Nat
  | 0, _ => .ok taken
  | _ + 1, [] => .error (taken, .unexpectedEnd)
  | n + 1, b :: bs =>
    if low ≤ b.toNat ∧ b.toNat ≤ high then checkContinuation 0x80 0xBF (taken + 1) n bs
    else .error (taken, .badContinuation)

/-- The length of the first character. -/
def characterLength (b : UInt8) (bs : List UInt8) : Except (Nat × DecodeReason) Nat :=
  match continuation? b.toNat with
  | none => .error (1, .badStart)
  | some (n, low, high) => checkContinuation low high 1 n bs

/-- The first fault in bytes; `skip` of them belong to a character that is read already. -/
def firstFault? (position skip : Nat) : List UInt8 → Option DecodeFault
  | [] => none
  | b :: bs =>
    match skip with
    | n + 1 => firstFault? (position + 1) n bs
    | 0 =>
      match characterLength b bs with
      | .ok n => firstFault? (position + 1) (n - 1) bs
      | .error (length, reason) => some ⟨.utf8, b, position, length, reason⟩

/-- Where bytes stop being text, whatever the reason is. -/
def malformed? (bytes : List UInt8) : Option DecodeFault :=
  (firstFault? 0 0 bytes).map fun e => { e with length := 1, reason := .malformed }

/-- The text that bytes encode. -/
def decode (bytes : ByteArray) : Except DecodeFault String :=
  match String.fromUTF8? bytes with
  | some s => .ok s
  | none => .error ((firstFault? 0 0 bytes.data.toList).getD ⟨.utf8, 0, 0, 1, .badStart⟩)

/-- The bytes that encode a text. -/
def encode (s : String) : ByteArray := s.toUTF8

/-- Line ends of every kind as line feeds. -/
def unifyLineEnds : List Char → List Char
  | '\r' :: '\n' :: cs => '\n' :: unifyLineEnds cs
  | '\r' :: cs => '\n' :: unifyLineEnds cs
  | c :: cs => c :: unifyLineEnds cs
  | [] => []

/-- The text of a file. -/
def decodeLines (bytes : ByteArray) : Except DecodeFault String :=
  (decode bytes).map fun s => String.ofList (unifyLineEnds s.toList)

end InvoiceForms.Text
