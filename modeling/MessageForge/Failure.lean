import MessageForge.Diagnostic

/-!
# Failures

All the ways in which a run can end early. A diagnostic is about what somebody
declared and is reported as such; the others are about the workspace, the
bytes of a file or an external program.
-/

namespace MessageForge

inductive FileFault where
  | missing
  | notDirectory
  | isDirectory
  | alreadyThere
  | nullCharacter
  deriving DecidableEq, Repr

/-- What of the machine gives out. -/
inductive Exhaustion where
  | memory
  | recursion
  deriving DecidableEq, Repr

inductive Failure where
  | refused (diagnostic : Diagnostic)
  | checkRefused (message : Text)
  | file (fault : FileFault)
  | schemaUnreadable
  | compilerBroken (fault : Text)
  | exhausted (cause : Exhaustion)
  | notUtf8
  | unprintable
  | programBroken (fault : Text)
  | programFailed (fault : Text)
  deriving DecidableEq, Repr

end MessageForge
