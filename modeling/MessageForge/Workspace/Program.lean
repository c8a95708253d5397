import MessageForge.Text.Utf8

/-!
# External programs

A run starts three programs: one that sorts imports, one that lays out code
and one that checks types. What each of them will do is known beforehand, as a
behaviour; what was started is kept as a list of calls. The first two are
started for every module, and what they do depends on the file they are given.
-/

namespace MessageForge

/-- Why a program does not start. -/
inductive SpawnFault where
  | missing
  | system (fault : Text)
  | process (fault : Text)
  deriving DecidableEq, Repr

/-- How a program ends. -/
structure Exit where
  exitCode : Int := 0
  output : Text := []
  errors : Bytes := []
  deriving DecidableEq, Repr

/-- What a formatter does to its file. -/
inductive Effect where
  | untouched
  | written (content : Bytes)
  | removed
  deriving DecidableEq, Repr

/-- The file after the effect, if there is one. -/
def Effect.apply : Effect → Option Bytes → Option Bytes
  | .untouched, file => file
  | .written content, _ => some content
  | .removed, _ => none

structure Formatting extends Exit where
  effect : Effect := .untouched
  deriving DecidableEq, Repr

/-- How the checker ends, and what it leaves in the last file it is given. -/
structure Outcome extends Exit where
  written : Option Bytes := none
  deriving DecidableEq, Repr

inductive Behaviour (Result : Type) where
  | refuses (fault : SpawnFault)
  | ends (result : Result)
  deriving DecidableEq, Repr

/-- A formatter is given a file that holds something or is not there any more. -/
abbrev Formatter := Option Bytes → Behaviour Formatting

/-- A formatter may do the same whatever it is given. -/
instance : Coe (Behaviour Formatting) Formatter :=
  ⟨fun behaviour _ => behaviour⟩

structure Programs where
  sorter : Formatter := fun _ => .refuses .missing
  layouter : Formatter := fun _ => .refuses .missing
  checker : Behaviour Outcome := .refuses .missing

inductive Call where
  | sorting
  | laying
  | checking (files : List Text)
  deriving DecidableEq, Repr

end MessageForge
