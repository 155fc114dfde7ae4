/-!
Text as UTF-8 bytes. Encoding is exact; decoding is defined on all byte strings and writes
U+FFFD for each longest part that could have started a character but does not finish one.
-/
namespace Docbase

abbrev Bytes := List UInt8

namespace Utf8

def encodeChars (cs : List Char) : Bytes := cs.flatMap String.utf8EncodeChar

def encode (text : String) : Bytes := encodeChars text.toList

def replacement : Char := Char.ofNat 0xFFFD

def between (low high : UInt8) (b : UInt8) : Bool := low ≤ b && b ≤ high

def isContinuation : UInt8 → Bool := between 0x80 0xBF

def payload (b : UInt8) : Nat := b.toNat % 64

/-- The bytes that may follow the first byte of a character of three or four bytes. -/
def secondRange (first : UInt8) : UInt8 → Bool :=
  if first = 0xE0 then between 0xA0 0xBF
  else if first = 0xED then between 0x80 0x9F
  else if first = 0xF0 then between 0x90 0xBF
  else if first = 0xF4 then between 0x80 0x8F
  else isContinuation

/-- The character that starts with a byte, and how many of the bytes after it belong to it. -/
def decodeFirst (b : UInt8) (rest : Bytes) : Char × Nat :=
  if b < 0x80 then (Char.ofNat b.toNat, 0)
  else if between 0xC2 0xDF b then
    match rest with
    | c :: _ =>
      if isContinuation c then (Char.ofNat (b.toNat % 32 * 64 + payload c), 1)
      else (replacement, 0)
    | [] => (replacement, 0)
  else if between 0xE0 0xEF b then
    match rest with
    | c :: tail =>
      if secondRange b c then
        match tail with
        | d :: _ =>
          if isContinuation d then
            (Char.ofNat ((b.toNat % 16 * 64 + payload c) * 64 + payload d), 2)
          else (replacement, 1)
        | [] => (replacement, 1)
      else (replacement, 0)
    | [] => (replacement, 0)
  else if between 0xF0 0xF4 b then
    match rest with
    | c :: tail =>
      if secondRange b c then
        match tail with
        | d :: last =>
          if isContinuation d then
            match last with
            | e :: _ =>
              if isContinuation e then
                (Char.ofNat (((b.toNat % 8 * 64 + payload c) * 64 + payload d) * 64 + payload e), 3)
              else (replacement, 2)
            | [] => (replacement, 2)
          else (replacement, 1)
        | [] => (replacement, 1)
      else (replacement, 0)
    | [] => (replacement, 0)
  else (replacement, 0)

def decodeFrom : Nat → Bytes → List Char
  | _, [] => []
  | skip + 1, _ :: rest => decodeFrom skip rest
  | 0, b :: rest =>
    let (c, taken) := decodeFirst b rest
    c :: decodeFrom taken rest

def decodeChars (bytes : Bytes) : List Char := decodeFrom 0 bytes

def decode (bytes : Bytes) : String := String.ofList (decodeChars bytes)

end Utf8

end Docbase
