/-!
# Punycode

A label of a domain name that is not ASCII is written as `xn--`, its ASCII
characters, and a series of letters and digits that says where the others stand.
-/

namespace BuildFleet.Text

/-- How far differences are scaled down after a character has been placed. -/
def punycodeBias (difference count : Nat) (first : Bool) : Nat :=
  let scaled := if first then difference / 700 else difference / 2
  let start := scaled + scaled / count
  let rec reduce : Nat → Nat → Nat → Nat
    | 0, steps, value => steps + 36 * value / (value + 38)
    | fuel + 1, steps, value =>
      if value > 455 then reduce fuel (steps + 36) (value / 35)
      else steps + 36 * value / (value + 38)
  reduce start 0 start

def punycodeDigit (value : Nat) : Char :=
  if value < 26 then Char.ofNat (97 + value) else Char.ofNat (22 + value)

/-- A difference in digits whose weights depend on the bias. -/
def punycodeDigits (bias : Nat) : Nat → Nat → Nat → List Char
  | 0, _, _ => []
  | fuel + 1, position, value =>
    let threshold := min 26 (max 1 (position - bias))
    if value < threshold then [punycodeDigit value]
    else
      punycodeDigit (threshold + (value - threshold) % (36 - threshold)) ::
        punycodeDigits bias fuel (position + 36) ((value - threshold) / (36 - threshold))

/-- The state of an encoding: the difference to the last character placed, the
bias, how many characters have been placed, and the digits so far. -/
structure PunycodeState where
  difference : Nat
  bias : Nat
  placed : Nat
  first : Bool
  digits : List Char

/-- Place the characters of one number, in their order in the label. -/
def placeAll (code : Nat) : List Char → PunycodeState → PunycodeState
  | [], state => state
  | character :: rest, state =>
    if character.toNat < code then
      placeAll code rest { state with difference := state.difference + 1 }
    else if character.toNat = code then
      placeAll code rest
        { difference := 0
          bias := punycodeBias state.difference (state.placed + 1) state.first
          placed := state.placed + 1
          first := false
          digits := state.digits ++
            punycodeDigits state.bias (state.difference + 1) 36 state.difference }
    else placeAll code rest state

/-- Place the characters with these numbers, which ascend. -/
def placeFrom (label : List Char) : Nat → List Nat → PunycodeState → PunycodeState
  | _, [], state => state
  | previous, code :: codes, state =>
    let skipped := (code - previous) * (state.placed + 1)
    let state := placeAll code label { state with difference := state.difference + skipped }
    placeFrom label (code + 1) codes { state with difference := state.difference + 1 }

/-- A label in ASCII. -/
def punycode (label : List Char) : List Char :=
  let ascii := label.filter (·.toNat < 128)
  if ascii.length = label.length then label
  else
    let codes := ((label.map Char.toNat).filter (128 ≤ ·)).mergeSort.eraseDups
    let state := placeFrom label 128 codes ⟨0, 72, ascii.length, true, []⟩
    "xn--".toList ++ ascii ++ (if ascii.isEmpty then [] else ['-']) ++ state.digits

end BuildFleet.Text
