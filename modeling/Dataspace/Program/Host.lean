/-
Running other programs.

A host starts a program with arguments, hands it all of its input, and gives what
it wrote and how it ended.  Only an exit with code zero is a success.
-/
import Dataspace.Text.Utf8

namespace Dataspace

open Text

/-- How a program ended. -/
inductive ExitState where
  | code (value : Nat)
  | signal (number : Nat)
deriving DecidableEq

/-- A program that has ended. -/
structure ProgramResult where
  exit : ExitState
  stdout : Bytes
  stderr : Bytes

/-- Why a program did not start. -/
inductive StartFault where
  | notFound
  /-- The program's name or an argument holds a NUL character. -/
  | nulInArgument
deriving DecidableEq

/-- What starts programs; the input, if there is any, is given to the program whole. -/
structure ProgramHost (η : Type) where
  start : (program : String) → (args : List String) → (input : Option String) →
    η → Except StartFault ProgramResult × η

namespace ExitState

def isSuccess (e : ExitState) : Bool :=
  e == .code 0

/-- The names of the signals, from number one on. -/
def signalNames : List String :=
  ["SIGHUP", "SIGINT", "SIGQUIT", "SIGILL", "SIGTRAP", "SIGABRT", "SIGBUS", "SIGFPE", "SIGKILL",
   "SIGUSR1", "SIGSEGV", "SIGUSR2", "SIGPIPE", "SIGALRM", "SIGTERM", "SIGSTKFLT", "SIGCHLD",
   "SIGCONT", "SIGSTOP", "SIGTSTP", "SIGTTIN", "SIGTTOU", "SIGURG", "SIGXCPU", "SIGXFSZ",
   "SIGVTALRM", "SIGPROF", "SIGWINCH", "SIGIO", "SIGPWR", "SIGSYS"]

/-- The name of a signal in brackets, if it has one. -/
def signalSuffix (number : Nat) : String :=
  match number with
  | 0 => ""
  | n + 1 =>
    match signalNames[n]? with
    | some name => s!" ({name})"
    | none => ""

def text : ExitState → String
  | code value => s!"exit status: {value}"
  | signal number => s!"signal: {number}" ++ signalSuffix number

end ExitState

namespace StartFault

def message : StartFault → String
  | notFound => "No such file or directory (os error 2)"
  | nulInArgument => "nul byte found in provided data"

end StartFault

namespace ProgramHost

/-- The host on which no program is to be found. -/
def none : ProgramHost Unit where
  start _ _ _ s := (.error .notFound, s)

end ProgramHost

end Dataspace
