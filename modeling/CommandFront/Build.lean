import CommandFront.CompilerVersion

/-!
# How the program was built

- `Build`: what is known of the build of a program.
- `Build.oldestCompiler`: the oldest compiler that the program may be built with.
-/

namespace CommandFront

/-- What is known of the build of a program. -/
structure Build where
  /-- The version of the program. -/
  version : String := "0.1.0"
  /-- The tag of the release. -/
  releaseTag : String := "DEVELOPMENT"
  /-- The revision that was built. -/
  commitId : String := "unknown"
  /-- When it was built. -/
  timestamp : String := "unknown"
  /-- What the compiler says of its version. -/
  compiler : String := "unknown"
deriving DecidableEq, Repr

/-- The oldest compiler that the program may be built with. -/
def Build.oldestCompiler : CompilerVersion :=
  ⟨1, 70, 0⟩

end CommandFront
