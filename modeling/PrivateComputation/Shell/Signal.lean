import PrivateComputation.Text.Decimal

/-!
Signals, and the times that commands wait.
-/

namespace PrivateComputation.Shell

inductive SignalAction where
  | terminate
  | ignore
  | suspend
  deriving DecidableEq

def signalAction (number : Nat) : SignalAction :=
  if [0, 17, 18, 23, 28].contains number then .ignore
  else if [19, 20, 21, 22].contains number then .suspend
  else .terminate

def signalNames : List String :=
  ["HUP", "INT", "QUIT", "ILL", "TRAP", "ABRT", "BUS", "FPE", "KILL", "USR1", "SEGV", "USR2",
    "PIPE", "ALRM", "TERM", "STKFLT", "CHLD", "CONT", "STOP", "TSTP", "TTIN", "TTOU", "URG", "XCPU",
    "XFSZ", "VTALRM", "PROF", "WINCH", "IO", "PWR", "SYS"]

def interruptSignal : Nat := 2

def terminationSignal : Nat := 15

def signalNumber? (text : String) : Option Nat :=
  match readDecimal text.toList with
  | some number => if number ≤ 64 then some number else none
  | none =>
      let name := text.toUpper
      if name = "EXIT" then some 0
      else (signalNames.findIdx? (· == name)).map (· + 1)

def killTargets? : List String → Option (Nat × List String)
  | "-s" :: signal :: targets => (signalNumber? signal).map (·, targets)
  | "--" :: targets => some (terminationSignal, targets)
  | argument :: targets =>
      match argument.toList with
      | '-' :: name => (signalNumber? (String.ofList name)).map (·, targets)
      | _ => some (terminationSignal, argument :: targets)
  | [] => none

/-- A time to wait, in microseconds. -/
inductive Delay where
  | finite (microseconds : Nat)
  | forever
  deriving DecidableEq

def unitSeconds? (suffix : List Char) : Option Nat :=
  match suffix with
  | [] => some 1
  | ['s'] => some 1
  | ['m'] => some 60
  | ['h'] => some 3600
  | ['d'] => some 86400
  | _ => none

def delay? (text : String) : Option Delay :=
  if ["inf", "infinity"].contains text.toLower then some .forever
  else
    let characters := text.toList
    let whole := characters.takeWhile Char.isDigit
    let rest := characters.dropWhile Char.isDigit
    let (fraction, suffix) := match rest with
      | '.' :: rest => (rest.takeWhile Char.isDigit, rest.dropWhile Char.isDigit)
      | rest => ([], rest)
    if whole.isEmpty && fraction.isEmpty then none
    else do
      let unit ← unitSeconds? suffix
      let value := (readDecimal (whole ++ fraction)).getD 0
      some (.finite (value * unit * 1000000 / Nat.pow 10 fraction.length))

def totalDelay : List Delay → Delay
  | [] => .finite 0
  | .forever :: _ => .forever
  | .finite time :: delays =>
      match totalDelay delays with
      | .finite others => .finite (time + others)
      | .forever => .forever

end PrivateComputation.Shell
