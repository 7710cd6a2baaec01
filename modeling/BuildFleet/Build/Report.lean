import BuildFleet.Build.Basic

/-!
# Reports on builds
-/

namespace BuildFleet

/-- An output with whether the build succeeded. -/
def BuildOutput.reportJson (output : BuildOutput) : Json :=
  .object [("output", output.toJson), ("success", .bool output.success)]

/-- The lines of each stream, in order. -/
def logReportJson (lines : List (LogStream × String)) : Json :=
  let ofStream (stream : LogStream) : Json :=
    .array ((lines.filter fun line => line.1 = stream).map fun line => .string line.2)
  .object [("stdout", ofStream .standardOutput), ("stderr", ofStream .standardError)]

end BuildFleet
