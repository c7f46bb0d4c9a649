/-!
# Text in UTF-8

Bytes that are no UTF-8 can still be shown: a sequence that breaks off or cannot
be continued is shown as one replacement character, and reading goes on with the
byte that did not fit.
-/

namespace PadCapture.Text

def encode (text : String) : ByteArray := text.toUTF8

/-- The text of which `bytes` are the bytes. -/
def decode? (bytes : ByteArray) : Option String := String.fromUTF8? bytes

theorem decode?_encode (text : String) : decode? (encode text) = some text := by
  have valid : text.toByteArray.IsValidUTF8 := text.isValidUTF8
  simp [decode?, encode, String.fromUTF8?, valid]
  rfl

/-- The character that stands for what is no text. -/
def replacement : Char := .ofNat 0xfffd

/-- A sequence that has begun: the bits so far, the number of bytes still missing
and the range of the next one. -/
structure OpenSequence where
  bits : Nat
  missing : Nat
  low : Nat
  high : Nat

/-- The sequence that a first byte begins.  The range of the second byte leaves out
what could be written in fewer bytes, the surrogates and what is too large. -/
def OpenSequence.ofFirst? (byte : Nat) : Option OpenSequence :=
  if 0xc2 ≤ byte && byte ≤ 0xdf then some ⟨byte - 0xc0, 1, 0x80, 0xbf⟩
  else if byte = 0xe0 then some ⟨0, 2, 0xa0, 0xbf⟩
  else if byte = 0xed then some ⟨0xd, 2, 0x80, 0x9f⟩
  else if 0xe1 ≤ byte && byte ≤ 0xef then some ⟨byte - 0xe0, 2, 0x80, 0xbf⟩
  else if byte = 0xf0 then some ⟨0, 3, 0x90, 0xbf⟩
  else if 0xf1 ≤ byte && byte ≤ 0xf3 then some ⟨byte - 0xf0, 3, 0x80, 0xbf⟩
  else if byte = 0xf4 then some ⟨4, 3, 0x80, 0x8f⟩
  else none

def OpenSequence.extend (sequence : OpenSequence) (byte : Nat) : OpenSequence :=
  ⟨sequence.bits * 64 + (byte - 0x80), sequence.missing - 1, 0x80, 0xbf⟩

/-- What a byte that begins a character shows at once, and the sequence that it
begins. -/
def readFirst (byte : Nat) : List Char × Option OpenSequence :=
  if byte < 0x80 then ([.ofNat byte], none)
  else
    match OpenSequence.ofFirst? byte with
    | some sequence => ([], some sequence)
    | none => ([replacement], none)

/-- What a byte shows after the sequence that is open, and the sequence open after
it. -/
def readByte (byte : Nat) : Option OpenSequence → List Char × Option OpenSequence
  | none => readFirst byte
  | some sequence =>
      if sequence.low ≤ byte && byte ≤ sequence.high then
        let sequence := sequence.extend byte
        if sequence.missing = 0 then ([.ofNat sequence.bits], none) else ([], some sequence)
      else
        let (shown, sequence) := readFirst byte
        (replacement :: shown, sequence)

/-- The characters that bytes show after the sequence that is open. -/
def shownAfter (current : Option OpenSequence) : List UInt8 → List Char
  | [] => if current.isSome then [replacement] else []
  | byte :: rest =>
      let (shown, next) := readByte byte.toNat current
      shown ++ shownAfter next rest

/-- Bytes as text, with replacement characters for what is no UTF-8. -/
def decodeLossy (bytes : ByteArray) : String := String.ofList (shownAfter none bytes.toList)

end PadCapture.Text
