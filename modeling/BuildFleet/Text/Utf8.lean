/-!
# UTF-8 with faults

Output of builds is mostly UTF-8 but need not be. What does not decode is shown
as one replacement character for each longest stretch of bytes that starts a
character and does not complete it.
-/

namespace BuildFleet.Text

/-- The bytes that follow a lead byte, and the range of the first of them. -/
def continuation? (lead : Nat) : Option (Nat × Nat × Nat) :=
  if 0xC2 ≤ lead ∧ lead ≤ 0xDF then some (1, 0x80, 0xBF)
  else if lead = 0xE0 then some (2, 0xA0, 0xBF)
  else if lead = 0xED then some (2, 0x80, 0x9F)
  else if 0xE1 ≤ lead ∧ lead ≤ 0xEF then some (2, 0x80, 0xBF)
  else if lead = 0xF0 then some (3, 0x90, 0xBF)
  else if 0xF1 ≤ lead ∧ lead ≤ 0xF3 then some (3, 0x80, 0xBF)
  else if lead = 0xF4 then some (3, 0x80, 0x8F)
  else none

/-- The bits that a lead byte gives to its character, where so many bytes follow. -/
def leadBits (lead following : Nat) : Nat :=
  match following with
  | 1 => lead - 0xC0
  | 2 => lead - 0xE0
  | _ => lead - 0xF0

/-- A character that is not complete: its value so far, how many bytes it lacks,
and the range of the next one. -/
structure PartialCharacter where
  value : Nat
  missing : Nat
  least : Nat
  greatest : Nat

/-- Decode bytes after what may be the start of a character. -/
def decodeFrom : Option PartialCharacter → List UInt8 → List Char
  | none, [] => []
  | some _, [] => ['\ufffd']
  | none, byte :: rest => startCharacter byte.toNat rest
  | some started, byte :: rest =>
    if started.least ≤ byte.toNat ∧ byte.toNat ≤ started.greatest then
      let value := started.value * 64 + (byte.toNat - 0x80)
      if started.missing ≤ 1 then Char.ofNat value :: decodeFrom none rest
      else decodeFrom (some ⟨value, started.missing - 1, 0x80, 0xBF⟩) rest
    else '\ufffd' :: startCharacter byte.toNat rest
where
  /-- Decode bytes of which the first starts a character. -/
  startCharacter (lead : Nat) (rest : List UInt8) : List Char :=
    if lead < 0x80 then Char.ofNat lead :: decodeFrom none rest
    else
      match continuation? lead with
      | some (following, least, greatest) =>
        decodeFrom (some ⟨leadBits lead following, following, least, greatest⟩) rest
      | none => '\ufffd' :: decodeFrom none rest

/-- The text that bytes hold. -/
def decodeBytes (bytes : List UInt8) : String := String.ofList (decodeFrom none bytes)

/-- The text that bytes hold, if all of them decode. -/
def decodeBytes? (bytes : List UInt8) : Option String := String.fromUTF8? ⟨bytes.toArray⟩

end BuildFleet.Text
