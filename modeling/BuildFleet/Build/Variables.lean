import BuildFleet.Build.Basic
import BuildFleet.Json.Writer

/-!
# What a build is told

Every build finds its job, its target and its payload in environment variables.
-/

namespace BuildFleet.BuildSpec

/-- The payload as builds read it. -/
def payloadText (spec : BuildSpec) : String := spec.payload.compact

/-- The variables of a build. The extra ones come last, in the order of their
names: of two variables with one name the later one counts. -/
def environmentValues (spec : BuildSpec) : List (String × String) :=
  [("BUILDIT_JOB_ID", spec.jobId.text), ("BUILDIT_TARGET", spec.target.name),
    ("BUILDIT_PAYLOAD", spec.payloadText)] ++ spec.environment

end BuildFleet.BuildSpec
