import BuildFleet.Proofs.Build.Lines

/-!
# Draining the output of a build

A build writes to a pipe, and a forwarder reads from it in pieces of any size and passes
on the lines, whether or not somebody listens. A build that writes to a pipe from which
nobody reads any more fails. An output is drained, however it is written and read, if and
only if each of its lines is UTF-8: at an ended line that is not, the forwarder stops and
the pipe is closed.
-/

namespace BuildFleet

/-- A pipe from a build, with the forwarder that reads from it. -/
structure Pipe where
  /-- What has been written and not been read yet. -/
  unread : List UInt8
  reader : LineReader
  /-- Whether the forwarder has come to the end of the output. -/
  ended : Bool
  /-- Whether somebody listens to the lines. -/
  attended : Bool
  /-- The lines that somebody has listened to, in order. -/
  heard : List String
deriving DecidableEq

namespace Pipe

def start : Pipe := ⟨[], .start, false, true, []⟩

/-- The pipe is open as long as the forwarder reads from it. -/
def Open (pipe : Pipe) : Prop := pipe.reader.reading = true

instance (pipe : Pipe) : Decidable pipe.Open := inferInstanceAs (Decidable (_ = true))

/-- The lines that the forwarder has passed on, in order. -/
def sent (pipe : Pipe) : List String := pipe.reader.lines

inductive Event where
  /-- The build writes. -/
  | wrote (bytes : List UInt8)
  /-- The build writes and fails, since the pipe is closed. -/
  | refused (bytes : List UInt8)
  /-- The forwarder reads some of what there is. -/
  | read (bytes : List UInt8)
  /-- The build has closed its end of the pipe, and all of its output has been read. -/
  | ended
  /-- Nobody listens to the lines any more. -/
  | left
deriving DecidableEq

/-- The forwarder goes on to another state. Its lines are heard if somebody listens. -/
def forward (pipe : Pipe) (reader : LineReader) : Pipe :=
  { pipe with
    reader
    heard := if pipe.attended then pipe.heard ++ reader.lines.drop pipe.sent.length
      else pipe.heard }

inductive Step (pipe : Pipe) : Event → Pipe → Prop
  | wrote (bytes : List UInt8) (goesOn : pipe.ended = false) (isOpen : pipe.Open) :
      Step pipe (.wrote bytes) { pipe with unread := pipe.unread ++ bytes }
  | refused (bytes : List UInt8) (goesOn : pipe.ended = false) (closed : ¬ pipe.Open) :
      Step pipe (.refused bytes) pipe
  | read (bytes rest : List UInt8) (goesOn : pipe.ended = false) (isOpen : pipe.Open)
      (there : pipe.unread = bytes ++ rest) :
      Step pipe (.read bytes) { pipe.forward (pipe.reader.feed bytes) with unread := rest }
  | ended (goesOn : pipe.ended = false) (isOpen : pipe.Open) (nothing : pipe.unread = []) :
      Step pipe .ended { pipe.forward pipe.reader.finish with ended := true }
  | left : Step pipe .left { pipe with attended := false }

/-- Events, the oldest first, that lead from one state to another. -/
inductive Run (first : Pipe) : List Event → Pipe → Prop
  | start : Run first [] first
  | goesOn {past : List Event} {pipe next : Pipe} {event : Event}
      (run : Run first past pipe) (step : Step pipe event next) :
      Run first (past ++ [event]) next

/-- What the build writes in an event, or tries to. -/
def Event.output : Event → List UInt8
  | wrote bytes | refused bytes => bytes
  | read _ | ended | left => []

/-- What the forwarder reads in an event. -/
def Event.taken : Event → List UInt8
  | read bytes => bytes
  | wrote _ | refused _ | ended | left => []

/-- All that a build writes, or tries to. -/
def output (events : List Event) : List UInt8 := events.flatMap Event.output

/-- All that the forwarder has read. -/
def taken (events : List Event) : List UInt8 := events.flatMap Event.taken

/-- An output is drained: no write of the build fails, the forwarder reads until the end,
and there it has passed on each line, in order and as it is. -/
def Drains (written : List UInt8) : Prop :=
  ∀ {events pipe}, Run .start events pipe → output events = written →
    (∀ bytes, .refused bytes ∉ events) ∧ (pipe.ended = false → pipe.Open) ∧
      (pipe.ended = true → pipe.sent.map some = (outputLines written).map Text.decodeBytes?)

/-- What a forwarder does in the course of these events, whatever is written. -/
structure Forwards (pipe : Pipe) (events : List Event) : Prop where
  /-- It reads on as long as the lines are UTF-8. -/
  open_iff : pipe.ended = false →
    (pipe.Open ↔ ∀ line ∈ endedLines (taken events), Legible line)
  /-- When it reads no more it has passed on the lines up to the first that is not. -/
  sent : pipe.ended = true ∨ ¬ pipe.Open → pipe.sent = legibleTexts (outputLines (output events))
  /-- A write fails only if it has stopped at a line before. -/
  refused : ∀ bytes, .refused bytes ∈ events → ∃ line ∈ endedLines (taken events), ¬ Legible line
  /-- Whoever listens hears everything, and nothing changes when nobody does. -/
  heard : pipe.heard <+: pipe.sent ∧ (.left ∉ events → pipe.heard = pipe.sent)

variable {pipe next : Pipe} {events past : List Event} {event : Event} {bytes : List UInt8}

/-! ## What always holds -/

/-- Up to the end the forwarder is where the bytes that it has read put it. A pipe that
has not been closed before the end has taken in all that was written. -/
structure Sound (pipe : Pipe) (events : List Event) : Prop where
  reads : pipe.ended = false → pipe.reader.Reads (taken events)
  finished : pipe.ended = true → pipe.sent = legibleTexts (outputLines (output events))
  kept : pipe.ended = true ∨ pipe.Open →
    (∀ bytes, .refused bytes ∉ events) ∧ output events = taken events ++ pipe.unread
  part : taken events <+: output events
  heard : pipe.heard <+: pipe.sent
  /-- A listener has heard all of it. -/
  attending : pipe.attended = true → pipe.heard = pipe.sent
  stays : .left ∉ events → pipe.attended = true

theorem sound_start : Sound .start [] where
  reads _ := LineReader.reads_start
  finished impossible := nomatch impossible
  kept _ := ⟨fun _ => List.not_mem_nil, rfl⟩
  part := List.prefix_rfl
  heard := List.prefix_rfl
  attending _ := rfl
  stays _ := rfl

theorem output_append (past : List Event) (event : Event) :
    output (past ++ [event]) = output past ++ event.output := by
  simp [output]

theorem taken_append (past : List Event) (event : Event) :
    taken (past ++ [event]) = taken past ++ event.taken := by
  simp [taken]

/-- Whoever listens hears what is new. -/
theorem heard_forward {reader : LineReader} (heard : pipe.heard <+: pipe.sent)
    (attending : pipe.attended = true → pipe.heard = pipe.sent)
    (more : pipe.sent <+: reader.lines) :
    (pipe.forward reader).heard <+: reader.lines ∧
      (pipe.attended = true → (pipe.forward reader).heard = reader.lines) := by
  cases attended : pipe.attended with
  | false => simpa [forward, attended] using heard.trans more
  | true =>
      rcases more with ⟨new, grown⟩
      simp [forward, attended, attending attended, ← grown]

theorem Sound.step (sound : pipe.Sound past) (step : Step pipe event next) :
    next.Sound (past ++ [event]) := by
  have output := output_append past event
  have taken := taken_append past event
  cases step with
  | wrote bytes goesOn isOpen =>
      rcases sound.kept (.inr isOpen) with ⟨accepted, all⟩
      have written : Pipe.output (past ++ [.wrote bytes]) =
          Pipe.taken past ++ (pipe.unread ++ bytes) := by
        rw [output, all, List.append_assoc]
        rfl
      rw [Event.taken, List.append_nil] at taken
      exact {
        reads := fun _ => taken ▸ sound.reads goesOn
        finished := by simp [goesOn]
        kept := fun _ => ⟨by simpa using accepted, taken ▸ written⟩
        part := by rw [taken, written]; exact List.prefix_append _ _
        heard := sound.heard
        attending := sound.attending
        stays := fun never => sound.stays (by simpa using never) }
  | refused bytes goesOn closed =>
      rw [Event.taken, List.append_nil] at taken
      exact {
        reads := fun _ => taken ▸ sound.reads goesOn
        finished := by simp [goesOn]
        kept := by simp [goesOn, closed]
        part := by rw [taken, output]; exact sound.part.trans (List.prefix_append _ _)
        heard := sound.heard
        attending := sound.attending
        stays := fun never => sound.stays (by simpa using never) }
  | read bytes rest goesOn isOpen there =>
      rcases sound.kept (.inr isOpen) with ⟨accepted, all⟩
      rcases heard_forward sound.heard sound.attending (pipe.reader.lines_prefix_feed bytes)
        with ⟨heard, attending⟩
      have written : Pipe.output (past ++ [.read bytes]) =
          Pipe.taken (past ++ [.read bytes]) ++ rest := by
        rw [output, taken, all, there]
        simp [Event.output, Event.taken]
      exact {
        reads := fun _ => taken ▸ (sound.reads goesOn).feed bytes
        finished := by simp [forward, goesOn]
        kept := fun _ => ⟨by simpa using accepted, written⟩
        part := by rw [written]; exact List.prefix_append _ _
        heard, attending
        stays := fun never => sound.stays (by simpa using never) }
  | ended goesOn isOpen nothing =>
      rcases sound.kept (.inr isOpen) with ⟨accepted, all⟩
      rcases heard_forward sound.heard sound.attending pipe.reader.lines_prefix_finish
        with ⟨heard, attending⟩
      rw [Event.taken, List.append_nil] at taken
      rw [Event.output, List.append_nil] at output
      rw [nothing, List.append_nil] at all
      exact {
        reads := nofun
        finished := fun _ => by
          rw [output, all]
          exact (sound.reads goesOn).finish isOpen
        kept := fun _ => ⟨by simpa using accepted, by
          rw [output, taken, all]
          simp [forward, nothing]⟩
        part := by rw [taken, output]; exact sound.part
        heard, attending
        stays := fun never => sound.stays (by simpa using never) }
  | left =>
      rw [Event.taken, List.append_nil] at taken
      rw [Event.output, List.append_nil] at output
      exact {
        reads := fun goesOn => taken ▸ sound.reads goesOn
        finished := fun ended => output ▸ sound.finished ended
        kept := fun either => ⟨by simpa using (sound.kept either).1, by
          rw [output, taken]; exact (sound.kept either).2⟩
        part := by rw [taken, output]; exact sound.part
        heard := sound.heard
        attending := nofun
        stays := fun never => absurd (List.mem_append_right _ (List.mem_singleton_self _)) never }

theorem Run.sound (run : Run .start events pipe) : pipe.Sound events := by
  induction run with
  | start => exact sound_start
  | goesOn _ step induction => exact induction.step step

/-! ## What is passed on -/

theorem Sound.forwards (sound : pipe.Sound events) : pipe.Forwards events := by
  have stopped (goesOn : pipe.ended = false) (closed : ¬ pipe.Open) :
      pipe.sent = legibleTexts (outputLines (output events)) := by
    have reading : pipe.reader.reading = false := (Bool.not_eq_true _).mp closed
    rcases sound.part with ⟨more, all⟩
    have lines := (sound.reads goesOn).stopped reading more
    rw [all] at lines
    simpa [sent, LineReader.finish, reading] using lines
  exact {
    open_iff := fun goesOn => (sound.reads goesOn).reading_iff
    sent := fun either => by
      cases ended : pipe.ended with
      | true => exact sound.finished ended
      | false => exact stopped ended (by simpa [ended] using either)
    refused := fun bytes refused => by
      have closed : ¬ (pipe.ended = true ∨ pipe.Open) := fun either =>
        (sound.kept either).1 bytes refused
      rw [not_or, Bool.not_eq_true] at closed
      simpa using mt (sound.reads closed.1).reading_iff.mpr closed.2
    heard := ⟨sound.heard, fun never => sound.attending (sound.stays never)⟩ }

/-- An output is drained if and only if all its lines are UTF-8. -/
theorem drains_iff_legible (written : List UInt8) :
    (Drains written ↔ ∀ line ∈ outputLines written, Legible line) ∧
      ∀ {events pipe}, Run .start events pipe → output events = written → pipe.Forwards events := by
  refine ⟨⟨fun drains => ?_, fun legible events pipe run same => ?_⟩,
    fun run _ => run.sound.forwards⟩
  · -- All is written at once, all is read at once, and the build ends.
    have writes : Run .start [.wrote written] { start with unread := written } :=
      .goesOn .start (.wrote written rfl rfl)
    have reads := writes.goesOn (.read written [] rfl rfl (List.append_nil written).symm)
    have isOpen := (drains reads (by simp [output, Event.output])).2.1 rfl
    have ends := reads.goesOn (.ended rfl isOpen rfl)
    have same : output [.wrote written, .read written, .ended] = written := by
      simp [output, Event.output]
    have all := (drains ends same).2.2 rfl
    rw [ends.sound.finished rfl] at all
    simp only [List.cons_append, List.nil_append, same] at all
    exact map_some_legibleTexts.mp all
  · subst same
    have ended : ∀ line ∈ endedLines (taken events), Legible line := by
      rcases run.sound.part with ⟨more, parts⟩
      rw [← parts] at legible
      exact fun line member =>
        legible line ((endedLines_prefix_outputLines _ more).subset member)
    have forwards := run.sound.forwards
    refine ⟨fun bytes refused => ?_, fun goesOn => (forwards.open_iff goesOn).mpr ended,
      fun finished => ?_⟩
    · rcases forwards.refused bytes refused with ⟨line, member, illegible⟩
      exact illegible (ended line member)
    · rw [forwards.sent (.inl finished)]
      exact map_some_legibleTexts.mpr legible

/-- A line in pieces that cut a character, and an empty one that nobody listens to. -/
theorem sample_drains_in_pieces :
    Drains [195, 188, 10, 13, 10] ∧
      ∃ pipe, Run .start [.wrote [195], .read [195], .wrote [188, 10, 13, 10],
        .read [188, 10], .left, .read [13, 10], .ended] pipe ∧ pipe.Forwards
          [.wrote [195], .read [195], .wrote [188, 10, 13, 10], .read [188, 10], .left,
            .read [13, 10], .ended] ∧ pipe.sent = ["ü", ""] ∧ pipe.heard = ["ü"] := by
  have begins : Run start [] start := .start
  have first := (begins.goesOn (.wrote [195] rfl rfl)).goesOn (.read [195] [] rfl rfl rfl)
  have second := (first.goesOn (.wrote [188, 10, 13, 10] rfl rfl)).goesOn
    (.read [188, 10] [13, 10] rfl rfl rfl)
  have run := ((second.goesOn .left).goesOn (.read [13, 10] [] rfl rfl rfl)).goesOn
    (.ended rfl rfl rfl)
  have drains := drains_iff_legible [195, 188, 10, 13, 10]
  exact ⟨drains.1.mpr (by decide), _, run, drains.2 run rfl, by decide, by decide⟩

/-- After a line that is not UTF-8 the build fails at its next write, and what it writes
after that line is lost. -/
theorem sample_line_closes_pipe :
    ¬ Drains [255, 10, 97, 10] ∧ ∃ pipe, Run .start [.wrote [255, 10], .read [255, 10],
      .refused [97, 10]] pipe ∧ pipe.sent = [] := by
  have begins : Run start [] start := .start
  have reads := (begins.goesOn (.wrote [255, 10] rfl rfl)).goesOn (.read [255, 10] [] rfl rfl rfl)
  have run := reads.goesOn (.refused [97, 10] rfl (by decide))
  exact ⟨fun drains => (drains run rfl).1 [97, 10] (by decide), _, run, by decide⟩

end Pipe

end BuildFleet
