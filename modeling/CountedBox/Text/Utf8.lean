namespace CountedBox.Text

/-- The bytes of a text. -/
def utf8 (s : String) : List UInt8 := s.toList.flatMap String.utf8EncodeChar

/-- What must follow a lead byte: how many bytes, and the range of the first of them. The later
ones are in `0x80` to `0xbf`. Ranges leave out longer spellings than needed, surrogates and numbers
that are too large; other bytes lead nothing. -/
def continuation? (lead : UInt8) : Option (Nat × UInt8 × UInt8) :=
  if lead < 0xc2 then none
  else if lead < 0xe0 then some (1, 0x80, 0xbf)
  else if lead = 0xe0 then some (2, 0xa0, 0xbf)
  else if lead = 0xed then some (2, 0x80, 0x9f)
  else if lead < 0xf0 then some (2, 0x80, 0xbf)
  else if lead = 0xf0 then some (3, 0x90, 0xbf)
  else if lead < 0xf4 then some (3, 0x80, 0xbf)
  else if lead = 0xf4 then some (3, 0x80, 0x8f)
  else none

/-- The longest start of the bytes that continues a character: at most `count` bytes, the first
from `low` to `high`. -/
def continues : Nat → UInt8 → UInt8 → List UInt8 → List UInt8
  | count + 1, low, high, b :: rest =>
    if low ≤ b ∧ b ≤ high then b :: continues count 0x80 0xbf rest else []
  | _, _, _, _ => []

/-- The character that a lead byte and the bytes after it stand for. -/
def assemble (lead : UInt8) (tail : List UInt8) : Char :=
  Char.ofNat (tail.foldl (fun n b => n * 64 + b.toNat % 64) (lead.toNat % Nat.pow 2 (6 - tail.length)))

/-- Read bytes as UTF-8. A start of a character that is not completed, and each other byte that
cannot be there, becomes one replacement character. -/
def decodeLossy (bytes : List UInt8) : List Char :=
  match bytes with
  | [] => []
  | b :: rest =>
    if b < 0x80 then Char.ofNat b.toNat :: decodeLossy rest
    else match continuation? b with
      | none => '\ufffd' :: decodeLossy rest
      | some (count, low, high) =>
        let tail := continues count low high rest
        (if tail.length = count then assemble b tail else '\ufffd') ::
          decodeLossy (rest.drop tail.length)
termination_by bytes.length
decreasing_by
  all_goals simp only [List.length_cons, List.length_drop]; omega

/-- The text of bytes that may not be UTF-8. -/
def lossy (bytes : List UInt8) : String := String.ofList (decodeLossy bytes)

/-- The text of bytes that are UTF-8. -/
def decode? (bytes : List UInt8) : Option String := String.fromUTF8? ⟨bytes.toArray⟩

/-- What is left when a text ends before its first zero byte. -/
def untilZero (bytes : List UInt8) : List UInt8 := bytes.takeWhile (fun b => b != 0)

end CountedBox.Text
