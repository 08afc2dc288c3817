import Morphotactics.Text

/-! Texts as bytes in UTF-8. -/
namespace Morphotactics

abbrev Bytes := List UInt8

/-- Bytes that are no UTF-8. They reach from `start` up to, and not with, `stop`. -/
structure EncodingFault where
  lead : Nat
  start : Nat
  stop : Nat
  reason : String
  deriving DecidableEq

def EncodingFault.message (fault : EncodingFault) : Text :=
  let place :=
    if fault.stop = fault.start + 1 then
      "byte 0x".toList ++ Text.hex 2 fault.lead ++ " in position ".toList ++
        Text.ofNat fault.start
    else
      "bytes in position ".toList ++ Text.ofNat fault.start ++ '-' :: Text.ofNat (fault.stop - 1)
  "'utf-8' codec can't decode ".toList ++ place ++ ": ".toList ++ fault.reason.toList

/-- What a leading byte announces: the bits it gives, the number of bytes to come, and the bounds
of the first of them. -/
def leadByte? (b : Nat) : Option (Nat × Nat × Nat × Nat) :=
  if b < 0x80 then some (b, 0, 0x80, 0xbf)
  else if b < 0xc2 then none
  else if b < 0xe0 then some (b - 0xc0, 1, 0x80, 0xbf)
  else if b < 0xf0 then
    some (b - 0xe0, 2, if b = 0xe0 then 0xa0 else 0x80, if b = 0xed then 0x9f else 0xbf)
  else if b < 0xf5 then
    some (b - 0xf0, 3, if b = 0xf0 then 0x90 else 0x80, if b = 0xf4 then 0x8f else 0xbf)
  else none

/-- Reads the bytes that a leading byte announces. On failure it gives the number of bytes that
were read, and whether the text ended there. -/
def continuation (value : Nat) : (count lower upper : Nat) → Bytes → Except (Nat × Bool) Nat
  | 0, _, _, _ => .ok value
  | _ + 1, _, _, [] => .error (0, true)
  | count + 1, lower, upper, b :: rest =>
    if lower ≤ b.toNat && b.toNat ≤ upper then
      match continuation (value * 64 + (b.toNat - 0x80)) count 0x80 0xbf rest with
      | .ok code => .ok code
      | .error (read, ended) => .error (read + 1, ended)
    else .error (0, false)

def decodeUtf8 (position : Nat) (bytes : Bytes) : Except EncodingFault Text :=
  match bytes with
  | [] => .ok []
  | b :: rest =>
    match leadByte? b.toNat with
    | none => .error ⟨b.toNat, position, position + 1, "invalid start byte"⟩
    | some (value, count, lower, upper) =>
      match continuation value count lower upper rest with
      | .error (read, ended) =>
        .error ⟨b.toNat, position, position + read + 1,
          if ended then "unexpected end of data" else "invalid continuation byte"⟩
      | .ok code => do
        return Char.ofNat code :: (← decodeUtf8 (position + count + 1) (rest.drop count))
termination_by bytes.length
decreasing_by
  simp only [List.length_cons, List.length_drop]
  omega

def encodeUtf8 (text : Text) : Bytes :=
  (String.ofList text).toUTF8.toList

/-- A text in which every line ends in a line feed alone. -/
def unifyLineEnds : Text → Text
  | [] => []
  | [c] => if c = '\r' then ['\n'] else [c]
  | c :: d :: rest =>
    if c = '\r' then
      if d = '\n' then '\n' :: unifyLineEnds rest else '\n' :: unifyLineEnds (d :: rest)
    else c :: unifyLineEnds (d :: rest)

end Morphotactics
