import PrivateComputation.Workflow.Definition

/-!
The shell commands that launch the containers of a state.
-/

namespace PrivateComputation

structure LaunchCommand where
  runner : String
  packageName : String
  version : Option String
  timeout : Option UInt32
  arguments : String
  deriving DecidableEq

def defaultRunner : String := "onedocker-runner"

/-- A character between double quotes: those that stay special there get a backslash. -/
def escapeArgument (c : Char) : List Char :=
  if c = '"' ∨ c = '\\' ∨ c = '$' ∨ c.toNat = 96 then ['\\', c] else [c]

/-- A text in double quotes that a shell reads back as it is. -/
def quoteArgument (text : List Char) : List Char := '"' :: text.flatMap escapeArgument ++ ['"']

namespace LaunchCommand

def ofState (runner : String) (state : StateDefinition) (arguments : String) : LaunchCommand :=
  ⟨runner, state.packageName, state.version, state.timeout, arguments⟩

def render (command : LaunchCommand) : String :=
  command.runner ++ " " ++ command.packageName ++
    (command.version.map (" --version=" ++ ·)).getD "" ++
    (command.timeout.map (fun seconds => " --timeout=" ++ toString seconds)).getD "" ++
    " --exe_args=" ++ String.ofList (quoteArgument command.arguments.toList)

end LaunchCommand

def StateDefinition.commands (state : StateDefinition) (runner : String) : List String :=
  state.arguments.map (fun arguments => (LaunchCommand.ofState runner state arguments).render)

end PrivateComputation
