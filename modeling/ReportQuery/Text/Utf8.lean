/-!
# Bytes as text

Bytes are a text when they are UTF-8. Otherwise they are shown with a
replacement character for every longest beginning of a character that does not
go on as one.
-/

namespace ReportQuery.Text

/-- Whether a byte continues a character, within narrower bounds for some
second bytes. -/
def continues (low high : UInt8) (b : UInt8) : Bool :=
  low ≤ b && b ≤ high

/-- The number of bytes that a first byte calls for, and the bounds of the
second. -/
def leadingByte? (b : UInt8) : Option (Nat × UInt8 × UInt8) :=
  if b < 0x80 then some (1, 0x80, 0xBF)
  else if b < 0xC2 then none
  else if b ≤ 0xDF then some (2, 0x80, 0xBF)
  else if b = 0xE0 then some (3, 0xA0, 0xBF)
  else if b = 0xED then some (3, 0x80, 0x9F)
  else if b ≤ 0xEF then some (3, 0x80, 0xBF)
  else if b = 0xF0 then some (4, 0x90, 0xBF)
  else if b ≤ 0xF3 then some (4, 0x80, 0xBF)
  else if b = 0xF4 then some (4, 0x80, 0x8F)
  else none

/-- The continuation bytes at the front, at most `n` of them, the first within
its bounds. -/
def takeContinuation : Nat → UInt8 → UInt8 → List UInt8 → List UInt8
  | 0, _, _, _ => []
  | _, _, _, [] => []
  | n + 1, low, high, b :: bs =>
    if continues low high b then b :: takeContinuation n 0x80 0xBF bs else []

/-- The code point of a first byte and its continuation. -/
def codePoint (length : Nat) (lead : UInt8) (continuation : List UInt8) : Nat :=
  let start := match length with
    | 1 => lead.toNat
    | 2 => lead.toNat % 32
    | 3 => lead.toNat % 16
    | _ => lead.toNat % 8
  continuation.foldl (fun n b => n * 64 + b.toNat % 64) start

/-- The characters of bytes, each longest malformed beginning replaced. -/
def decodeLossy : List UInt8 → List Char
  | [] => []
  | lead :: rest =>
    match leadingByte? lead with
    | none => '\uFFFD' :: decodeLossy rest
    | some (length, low, high) =>
      let continuation := takeContinuation (length - 1) low high rest
      let c :=
        if continuation.length = length - 1 then
          Char.ofNat (codePoint length lead continuation)
        else '\uFFFD'
      c :: decodeLossy (rest.drop continuation.length)
termination_by bytes => bytes.length
decreasing_by all_goals simp only [List.length_drop, List.length_cons]; omega

/-- The text of bytes that are UTF-8. -/
def utf8Text? (bytes : List UInt8) : Option String :=
  String.fromUTF8? ⟨bytes.toArray⟩

/-- The text of bytes, each longest malformed beginning replaced. -/
def lossyText (bytes : List UInt8) : String :=
  String.ofList (decodeLossy bytes)

end ReportQuery.Text
