import BuildFleet.Text.Utf8

/-!
# Lines of output

Output arrives in chunks and is passed on line by line. A line ends at a line
feed, and a carriage return before it belongs to the end. What comes after the
last line feed is a line too unless it is empty. A line that is not UTF-8 ends the
reading: nothing after it is passed on.
-/

namespace BuildFleet

structure LineReader where
  /-- The bytes of the line that has not ended yet, the latest first. -/
  pending : List UInt8
  /-- The lines so far, the latest first. -/
  sent : List String
  /-- Whether the output is still read. -/
  reading : Bool
deriving DecidableEq, Repr

namespace LineReader

def start : LineReader := ⟨[], [], true⟩

/-- A line, the latest byte first, without the carriage return of its end. -/
def withoutReturn : List UInt8 → List UInt8
  | 13 :: rest => rest
  | line => line

/-- Pass on a line, the latest byte first, or stop reading if it does not decode. -/
def send (reader : LineReader) (line : List UInt8) : LineReader :=
  match Text.decodeBytes? line.reverse with
  | some text => { reader with pending := [], sent := text :: reader.sent }
  | none => { reader with pending := [], reading := false }

def feedByte (reader : LineReader) (byte : UInt8) : LineReader :=
  if !reader.reading then reader
  else if byte = 10 then reader.send (withoutReturn reader.pending)
  else { reader with pending := byte :: reader.pending }

/-- Read a chunk of output. -/
def feed (reader : LineReader) (chunk : List UInt8) : LineReader := chunk.foldl feedByte reader

/-- The output has ended. -/
def finish (reader : LineReader) : LineReader :=
  if reader.reading && !reader.pending.isEmpty then reader.send reader.pending else reader

/-- The lines that were passed on, in order. -/
def lines (reader : LineReader) : List String := reader.sent.reverse

/-- The lines of an output that arrived in these chunks. -/
def linesOf (chunks : List (List UInt8)) : List String :=
  (chunks.foldl feed start).finish.lines

end LineReader

end BuildFleet
