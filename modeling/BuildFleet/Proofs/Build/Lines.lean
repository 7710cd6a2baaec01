import Mathlib.Data.List.Induction
import Mathlib.Data.List.TakeWhile
import BuildFleet.Build.LineReader

/-!
# The lines of an output

An output is cut into lines at its line feeds, as a whole and without a look at how
it arrives. The reader of lines is measured by them: after any bytes it is where the
lines of these bytes say, and it has stopped if one of the ended ones does not decode.
-/

namespace BuildFleet

/-- A line without the carriage return of its end. -/
def chomp (line : List UInt8) : List UInt8 :=
  if line.getLast? = some 13 then line.dropLast else line

/-- The lines of an output that have come to their ends. -/
def endedLines (output : List UInt8) : List (List UInt8) := (output.splitOn 10).dropLast.map chomp

/-- What comes after the last line feed of an output. -/
def openLine (output : List UInt8) : List UInt8 := (output.splitOn 10).getLastD []

/-- All lines of an output. What comes after the last line feed is one unless it is empty. -/
def outputLines (output : List UInt8) : List (List UInt8) :=
  endedLines output ++ if openLine output = [] then [] else [openLine output]

/-- A line that is UTF-8. -/
def Legible (line : List UInt8) : Prop := (Text.decodeBytes? line).isSome = true

instance (line : List UInt8) : Decidable (Legible line) :=
  inferInstanceAs (Decidable (_ = true))

/-- The texts of lines up to the first one that is not UTF-8. -/
def legibleTexts (lines : List (List UInt8)) : List String :=
  (lines.takeWhile fun line => Legible line).filterMap Text.decodeBytes?

variable {output line last : List UInt8} {byte : UInt8} {lines others earlier : List (List UInt8)}

theorem endedLines_nil : endedLines [] = [] := by simp [endedLines]

theorem openLine_nil : openLine [] = [] := by simp [openLine]

/-! ## One more byte -/

theorem exists_splitOn_eq (output : List UInt8) :
    ∃ earlier last, output.splitOn 10 = earlier ++ [last] := by
  rcases List.eq_nil_or_concat (output.splitOn 10) with empty | ⟨earlier, last, cut⟩
  · exact absurd empty (List.splitOn_ne_nil 10 output)
  · exact ⟨earlier, last, cut.trans List.concat_eq_append⟩

theorem splitOn_snoc (cut : output.splitOn 10 = earlier ++ [last]) (different : byte ≠ 10) :
    (output ++ [byte]).splitOn 10 = earlier ++ [last ++ [byte]] := by
  induction output generalizing earlier last with
  | nil =>
      have parts : [] ++ [[]] = earlier ++ [last] := cut
      rcases List.append_inj' parts rfl with ⟨rfl, same⟩
      cases same
      simp [List.splitOn_cons_eq_if_modifyHead, different]
  | cons first rest induction =>
      rcases exists_splitOn_eq rest with ⟨before, final, restCut⟩
      have longer := induction restCut
      rw [List.splitOn_cons_eq_if_modifyHead, restCut] at cut
      rw [List.cons_append, List.splitOn_cons_eq_if_modifyHead, longer]
      by_cases feed : (first == 10) = true
      · rw [if_pos feed] at cut ⊢
        have parts : ([] :: before) ++ [final] = earlier ++ [last] := cut
        rcases List.append_inj' parts rfl with ⟨rfl, same⟩
        cases same
        rfl
      · rw [if_neg feed] at cut ⊢
        cases before with
        | nil =>
            have parts : [] ++ [first :: final] = earlier ++ [last] := cut
            rcases List.append_inj' parts rfl with ⟨rfl, same⟩
            cases same
            rfl
        | cons head tail =>
            have parts : ((first :: head) :: tail) ++ [final] = earlier ++ [last] := cut
            rcases List.append_inj' parts rfl with ⟨rfl, same⟩
            cases same
            rfl

theorem endedLines_feed (output : List UInt8) :
    endedLines (output ++ [10]) = endedLines output ++ [chomp (openLine output)] := by
  rcases exists_splitOn_eq output with ⟨earlier, last, cut⟩
  simp [endedLines, openLine, List.splitOn_append_cons_self, cut]

theorem openLine_feed (output : List UInt8) : openLine (output ++ [10]) = [] := by
  simp [openLine, List.splitOn_append_cons_self]

theorem endedLines_snoc (different : byte ≠ 10) :
    endedLines (output ++ [byte]) = endedLines output := by
  rcases exists_splitOn_eq output with ⟨earlier, last, cut⟩
  simp [endedLines, splitOn_snoc cut different, cut]

theorem openLine_snoc (different : byte ≠ 10) :
    openLine (output ++ [byte]) = openLine output ++ [byte] := by
  rcases exists_splitOn_eq output with ⟨earlier, last, cut⟩
  simp [openLine, splitOn_snoc cut different, cut]

/-- What has come to its end stays as it is, whatever follows. -/
theorem endedLines_grow (output more : List UInt8) :
    endedLines output <+: endedLines (output ++ more) := by
  induction more using List.reverseRec with
  | nil => simp only [List.append_nil, List.prefix_rfl]
  | append_singleton more byte induction =>
      rw [← List.append_assoc]
      by_cases feed : byte = 10
      · subst feed
        rw [endedLines_feed]
        exact induction.trans (List.prefix_append _ _)
      · rw [endedLines_snoc feed]
        exact induction

theorem endedLines_prefix_outputLines (output more : List UInt8) :
    endedLines output <+: outputLines (output ++ more) :=
  (endedLines_grow output more).trans (List.prefix_append _ _)

/-! ## Texts -/

theorem legibleTexts_append (all : ∀ line ∈ lines, Legible line) :
    legibleTexts (lines ++ others) = legibleTexts lines ++ legibleTexts others := by
  have legible : ∀ line ∈ lines, decide (Legible line) = true := by simpa using all
  have whole : lines.takeWhile (fun line => Legible line) = lines :=
    List.takeWhile_eq_self_iff.mpr legible
  rw [legibleTexts, List.takeWhile_append_of_pos legible, List.filterMap_append, legibleTexts,
    whole, legibleTexts]

/-- Nothing counts after a line that is not UTF-8. -/
theorem legibleTexts_append_of_not (some : ∃ line ∈ lines, ¬ Legible line) :
    legibleTexts (lines ++ others) = legibleTexts lines := by
  rcases some with ⟨line, member, illegible⟩
  have cut : (lines.takeWhile fun line => Legible line).length ≠ lines.length := by
    intro same
    have whole := (List.takeWhile_prefix fun line => decide (Legible line)).eq_of_length same
    rw [← whole] at member
    exact illegible (by simpa using List.mem_takeWhile_imp member)
  rw [legibleTexts, List.takeWhile_append, if_neg cut, legibleTexts]

theorem legibleTexts_singleton (line : List UInt8) :
    legibleTexts [line] = (Text.decodeBytes? line).toList := by
  cases decoded : Text.decodeBytes? line <;> simp [legibleTexts, Legible, decoded]

theorem map_some_legibleTexts : (legibleTexts lines).map some = lines.map Text.decodeBytes? ↔
    ∀ line ∈ lines, Legible line := by
  induction lines with
  | nil => simp [legibleTexts]
  | cons line rest induction =>
      cases decoded : Text.decodeBytes? line with
      | none => simp [legibleTexts, Legible, decoded]
      | some text =>
          have head : legibleTexts (line :: rest) = text :: legibleTexts rest := by
            simp [legibleTexts, Legible, decoded]
          rw [head, List.map_cons, List.map_cons, decoded, List.cons.injEq, induction]
          simp [Legible, decoded]

/-! ## The reader -/

namespace LineReader

/-- The reader is where it is after these bytes: it goes on as long as the ended lines
are UTF-8, and it has passed on their texts up to the first one that is not. -/
structure Reads (reader : LineReader) (bytes : List UInt8) : Prop where
  reading_iff : reader.reading = true ↔ ∀ line ∈ endedLines bytes, Legible line
  lines : reader.lines = legibleTexts (endedLines bytes)
  pending : reader.reading = true → reader.pending.reverse = openLine bytes

variable {reader : LineReader} {bytes : List UInt8}

theorem reads_start : start.Reads [] where
  reading_iff := by simp [start, endedLines_nil]
  lines := by simp [start, LineReader.lines, endedLines_nil, legibleTexts]
  pending _ := by simp [start, openLine_nil]

theorem reverse_withoutReturn (line : List UInt8) :
    (withoutReturn line).reverse = chomp line.reverse := by
  cases line with
  | nil => rfl
  | cons last rest =>
      by_cases return' : last = 13
      · subst return'
        simp [withoutReturn, chomp]
      · have kept : withoutReturn (last :: rest) = last :: rest := by
          unfold withoutReturn
          split
          · rename_i same
            exact absurd (List.cons.inj same).1 return'
          · rfl
        simp [kept, chomp, return']

/-- Passing on a line, or stopping at it. -/
theorem send_line (reader : LineReader) (line : List UInt8) :
    (reader.send line).lines = reader.lines ++ legibleTexts [line.reverse] ∧
      ((reader.send line).reading = true ↔ reader.reading = true ∧ Legible line.reverse) ∧
      (reader.send line).pending = [] := by
  rw [legibleTexts_singleton]
  unfold send
  cases decoded : Text.decodeBytes? line.reverse <;>
    simp [LineReader.lines, Legible, decoded]

theorem feedByte_stopped (stopped : reader.reading = false) (byte : UInt8) :
    reader.feedByte byte = reader := by
  simp [feedByte, stopped]

theorem feedByte_feed (reading : reader.reading = true) :
    reader.feedByte 10 = reader.send (withoutReturn reader.pending) := by
  simp [feedByte, reading]

theorem feedByte_other (reading : reader.reading = true) (different : byte ≠ 10) :
    reader.feedByte byte = { reader with pending := byte :: reader.pending } := by
  simp [feedByte, reading, different]

theorem lines_prefix_send (reader : LineReader) (line : List UInt8) :
    reader.lines <+: (reader.send line).lines := by
  rw [(reader.send_line line).1]
  exact List.prefix_append _ _

/-- What has been passed on stays so. -/
theorem lines_prefix_feed (reader : LineReader) (chunk : List UInt8) :
    reader.lines <+: (reader.feed chunk).lines := by
  induction chunk generalizing reader with
  | nil => exact List.prefix_rfl
  | cons byte rest induction =>
      refine List.IsPrefix.trans ?_ (induction (reader.feedByte byte))
      unfold feedByte
      split
      · exact List.prefix_rfl
      · split
        · exact reader.lines_prefix_send _
        · exact List.prefix_rfl

theorem lines_prefix_finish (reader : LineReader) : reader.lines <+: reader.finish.lines := by
  unfold finish
  split
  · exact reader.lines_prefix_send _
  · exact List.prefix_rfl

/-- The line that ends a line feed is passed on, or the reading ends. -/
theorem Reads.feed_line (reads : reader.Reads bytes) (reading : reader.reading = true) :
    (reader.feedByte 10).Reads (bytes ++ [10]) := by
  have all := reads.reading_iff.mp reading
  have line : (withoutReturn reader.pending).reverse = chomp (openLine bytes) := by
    rw [reverse_withoutReturn, reads.pending reading]
  rcases reader.send_line (withoutReturn reader.pending) with ⟨lines, stays, pending⟩
  rw [line] at lines stays
  rw [feedByte_feed reading]
  constructor
  case reading_iff =>
    rw [stays, reads.reading_iff, endedLines_feed, List.forall_mem_append,
      List.forall_mem_singleton]
  case lines => rw [lines, reads.lines, endedLines_feed, legibleTexts_append all]
  case pending =>
    intro _
    rw [pending, openLine_feed, List.reverse_nil]

theorem Reads.feedByte (reads : reader.Reads bytes) (byte : UInt8) :
    (reader.feedByte byte).Reads (bytes ++ [byte]) := by
  by_cases reading : reader.reading = true
  · by_cases feed : byte = 10
    · subst feed
      exact reads.feed_line reading
    · rw [feedByte_other reading feed]
      constructor
      case reading_iff =>
        rw [endedLines_snoc feed]
        exact reads.reading_iff
      case lines =>
        rw [endedLines_snoc feed]
        exact reads.lines
      case pending =>
        intro _
        rw [openLine_snoc feed, List.reverse_cons, reads.pending reading]
  · -- A reader that has stopped has stopped at one of the lines that had ended before.
    have stopped : reader.reading = false := by simpa using reading
    have illegible : ∃ line ∈ endedLines bytes, ¬ Legible line := by
      simpa using mt reads.reading_iff.mpr reading
    rcases endedLines_grow bytes [byte] with ⟨others, parts⟩
    rw [feedByte_stopped stopped byte]
    constructor
    case reading_iff =>
      rw [← parts, List.forall_mem_append, ← reads.reading_iff]
      simp [stopped]
    case lines => rw [reads.lines, ← parts, legibleTexts_append_of_not illegible]
    case pending => exact fun impossible => absurd impossible reading

/-- However the bytes are cut into chunks, the reader goes by all of them. -/
theorem Reads.feed (reads : reader.Reads bytes) (chunk : List UInt8) :
    (reader.feed chunk).Reads (bytes ++ chunk) := by
  induction chunk generalizing reader bytes with
  | nil =>
      rw [List.append_nil]
      exact reads
  | cons byte rest induction =>
      have rest := induction (reads.feedByte byte)
      rw [List.append_assoc, List.singleton_append] at rest
      exact rest

/-- When the output ends, all its lines have been passed on up to the first one that is
not UTF-8. -/
theorem Reads.finish (reads : reader.Reads bytes) (reading : reader.reading = true) :
    reader.finish.lines = legibleTexts (outputLines bytes) := by
  have all := reads.reading_iff.mp reading
  have open' := reads.pending reading
  rw [outputLines, legibleTexts_append all, ← reads.lines]
  unfold LineReader.finish
  cases pending : reader.pending with
  | nil =>
      rw [pending, List.reverse_nil] at open'
      simp [← open', legibleTexts]
  | cons byte rest =>
      rw [pending] at open'
      have filled : openLine bytes ≠ [] := by simp [← open']
      simp [reading, send_line, open', filled]

/-- A reader that has stopped has passed on what there is to pass on, whatever follows. -/
theorem Reads.stopped (reads : reader.Reads bytes) (stopped : reader.reading = false)
    (more : List UInt8) : reader.finish.lines = legibleTexts (outputLines (bytes ++ more)) := by
  have illegible : ∃ line ∈ endedLines bytes, ¬ Legible line := by
    simpa using mt reads.reading_iff.mpr (by simp [stopped])
  rcases endedLines_prefix_outputLines bytes more with ⟨others, parts⟩
  rw [← parts, legibleTexts_append_of_not illegible, ← reads.lines]
  simp [LineReader.finish, stopped]

/-- The lines of an output do not depend on the chunks that it arrives in. -/
theorem linesOf_eq (chunks : List (List UInt8)) :
    linesOf chunks = legibleTexts (outputLines chunks.flatten) := by
  have fed : (chunks.foldl LineReader.feed start).Reads chunks.flatten := by
    induction chunks using List.reverseRec with
    | nil => exact reads_start
    | append_singleton chunks chunk induction =>
        simpa using induction.feed chunk
  cases reading : (chunks.foldl LineReader.feed start).reading with
  | true => exact fed.finish reading
  | false => simpa [linesOf] using fed.stopped reading []

end LineReader

end BuildFleet
