/-
  How a process ended.

  Key definitions include:
    * `PluginStudio.ExitStatus`
    * `PluginStudio.ExitStatus.ofWait`
    * `PluginStudio.ExitStatus.success`
    * `PluginStudio.ExitStatus.message`
-/

------------------------------------------------------------
-- Signals
------------------------------------------------------------

namespace PluginStudio

namespace Signal

/- Names of the signals from 1 on. -/
def names : List String :=
  ["SIGHUP", "SIGINT", "SIGQUIT", "SIGILL", "SIGTRAP", "SIGABRT",
    "SIGBUS", "SIGFPE", "SIGKILL", "SIGUSR1", "SIGSEGV", "SIGUSR2",
    "SIGPIPE", "SIGALRM", "SIGTERM", "SIGSTKFLT", "SIGCHLD",
    "SIGCONT", "SIGSTOP", "SIGTSTP", "SIGTTIN", "SIGTTOU", "SIGURG",
    "SIGXCPU", "SIGXFSZ", "SIGVTALRM", "SIGPROF", "SIGWINCH",
    "SIGIO", "SIGPWR", "SIGSYS"]

/- The name of a signal. -/
def name? (signal : Nat) : Option String :=
  if signal = 0 then none else names[signal - 1]?

/- A signal in words. -/
def message (signal : Nat) : String :=
  match name? signal with
  | some name => toString signal ++ " (" ++ name ++ ")"
  | none => toString signal

end Signal

end PluginStudio

------------------------------------------------------------
-- Exit Statuses
------------------------------------------------------------

namespace PluginStudio

/- How a process ended, or why it is waited for no longer. -/
inductive ExitStatus where
  | exited (code : Nat)
  | killed (signal : Nat) (dumped : Bool)
  | stopped (signal : Nat)
  | continued
  | unrecognised (raw : Int)
deriving DecidableEq, Repr

namespace ExitStatus

/- The 32 bits of a wait status, which has a sign. -/
def bits (raw : Int) : Nat :=
  (raw % 4294967296).toNat

/- The status that the system's wait status encodes. -/
def ofWait (raw : Int) : ExitStatus :=
  let word := bits raw
  let low := word % 128
  if low = 0 then
    .exited (word / 256 % 256)
  else if low ≠ 127 then
    .killed low (word / 128 % 2 = 1)
  else if word % 256 = 127 then
    .stopped (word / 256 % 256)
  else if word = 0xFFFF then
    .continued
  else
    .unrecognised raw

/- Did the process end well? -/
def success (status : ExitStatus) : Bool :=
  status = .exited 0

/- The exit code of a process that ended by itself. -/
def code? : ExitStatus → Option Nat
  | exited code => some code
  | _ => none

/- The signal that ended a process. -/
def signal? : ExitStatus → Option Nat
  | killed signal _ => some signal
  | _ => none

/- Hexadecimal digits of a number. -/
def hexText (n : Nat) : String :=
  "0x" ++ String.ofList (Nat.toDigits 16 n)

/- The status in words. -/
def message : ExitStatus → String
  | exited code => "exit status: " ++ toString code
  | killed signal false => "signal: " ++ Signal.message signal
  | killed signal true =>
    "signal: " ++ Signal.message signal ++ " (core dumped)"
  | stopped signal =>
    "stopped (not terminated) by signal: " ++ Signal.message signal
  | continued => "continued (WIFCONTINUED)"
  | unrecognised raw =>
    "unrecognised wait status: " ++ toString raw ++ " " ++
      hexText (bits raw)

end ExitStatus

end PluginStudio
