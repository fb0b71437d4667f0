import CommandShell.Table
import CommandShell.Value

/-! # Problems

A problem is what is reported when a command cannot be run or fails: a code for its type, the message
for the user, and data for diagnosis. The functions of `Problem` are the catalogue of problems. -/

namespace CommandShell

structure Problem where
  type : String
  message : String
  details : Table Value := []
  hint : Option String := none
  needsDecision : Bool := false
deriving Repr, Inhabited

namespace Problem

/-- Codes of types. -/
def commandUnknown : String := "COMMAND_UNKNOWN"
def commandMissingArgument : String := "COMMAND_MISSING_ARGUMENT"
def commandInvalidArgument : String := "COMMAND_INVALID_ARGUMENT"
def commandMissingFlag : String := "COMMAND_MISSING_FLAG"
def commandInvalidFlag : String := "COMMAND_INVALID_FLAG"
def commandDefinitionError : String := "COMMAND_DEFINITION_ERROR"
def commandHandlerError : String := "COMMAND_HANDLER_ERROR"
def executionInterrupted : String := "EXECUTION_INTERRUPTED"
def engineExecutionError : String := "ENGINE_EXECUTION_ERROR"
def engineConfigurationError : String := "ENGINE_CONFIGURATION_ERROR"

/-- What the user sees of a fault that no command reports. -/
def unexpectedMessage : String := "An unexpected error occurred while executing command"

/-- What the user sees of an interruption. -/
def interruptedMessage : String := "Execution interrupted"

/-- The problem as a value. -/
def toValue (p : Problem) : Value := .record [
  ("type", .str p.type),
  ("message", .str p.message),
  ("details", .record p.details),
  ("hint", .ofOption p.hint),
  ("decision_required", .bool p.needsDecision)]

/-- Texts in double quotes with commas between them. -/
def quotedList (values : List String) : String := "\"" ++ "\", \"".intercalate values ++ "\""

def unknownCommand (command : String) : Problem :=
  { type := commandUnknown
    message := s!"Unknown command: \"{command}\""
    details := [("command", .str command)]
    hint := some "Use \"help\" para listar os comandos disponíveis." }

def missingArgument (command parameter : String) (position : Int) : Problem :=
  { type := commandMissingArgument
    message := s!"Missing required argument: \"{parameter}\""
    details := [("command", .str command), ("parameter", .str parameter), ("position", .int position)]
    hint := some s!"Use \"help {command}\" para ver a sintaxe do comando." }

def invalidArgument (command parameter : String) (allowed : List Scalar) (received : String) :
    Problem :=
  { type := commandInvalidArgument
    message := s!"Invalid value for argument \"{parameter}\": " ++
      s!"expected one of {quotedList (allowed.map Scalar.text)}, got \"{received}\""
    details := [("command", .str command), ("parameter", .str parameter),
      ("allowed_values", .list (allowed.map .scalar)), ("received", .str received)] }

def missingFlag (command flag : String) : Problem :=
  { type := commandMissingFlag
    message := s!"Missing required flag: \"--{flag}\""
    details := [("command", .str command), ("flag", .str flag)] }

def invalidFlag (command flag expected actual : String) : Problem :=
  { type := commandInvalidFlag
    message := s!"Invalid value for flag \"--{flag}\": expected {expected}, got {actual}"
    details := [("command", .str command), ("flag", .str flag), ("expected", .str expected),
      ("actual", .str actual)] }

def definitionError (command message : String) (flag : Option String) : Problem :=
  { type := commandDefinitionError
    message
    details := [("command", .str command), ("flag", .ofOption flag), ("unregistered", .bool true)]
    hint := some "Corrija a definição do comando e registre-o novamente." }

def missingDatatype (command flag : String) : Problem :=
  definitionError command
    s!"Flag definition for \"--{flag}\" is missing datatype (string, number, boolean)" (some flag)

def invalidDefault (command flag : String) : Problem :=
  definitionError command s!"Invalid default value for flag \"--{flag}\"" (some flag)

def handlerError (command message : String) : Problem :=
  { type := commandHandlerError, message, details := [("command", .str command)] }

def interrupted (reason : Option String) : Problem :=
  { type := executionInterrupted
    message := interruptedMessage
    details := [("reason", .ofOption reason)] }

/-- The hint of an execution error unless it has one of its own. -/
def executionHint : String :=
  "Verifique o log técnico (ShellContext.events). Nenhum fallback é aplicado automaticamente."

def executionError (chain kind message hint : Option String) : Problem :=
  { type := engineExecutionError
    message := unexpectedMessage
    details := [("chain", .ofOption chain), ("exc_type", .ofOption kind),
      ("exc_message", .ofOption message)]
    hint }

/-- The message of a configuration error unless it has one of its own. -/
def configurationMessage : String := "Configuração inválida para execução de comandos"

/-- The hint of a configuration error unless it has one of its own. -/
def configurationHint : String :=
  "Revise a definição do comando ou a inicialização do Shell antes de reexecutar."

def configurationError (message : String) (details : Table Value) (hint : Option String) : Problem :=
  { type := engineConfigurationError, message, details, hint }

/-- The problem of a chain that comes before the engine is initialised. -/
def engineNotReady (chain : String) : Problem :=
  configurationError "ExecutionEngine usado antes de init()" [("chain", .str chain)]
    (some configurationHint)

/-- The problem of a handler that answers with something that is no result. -/
def invalidResult (chain command received : String) : Problem :=
  configurationError "Handler retornou tipo inválido"
    [("chain", .str chain), ("expected", .str "CommandResult"), ("command", .str command),
      ("received", .str received)]
    (some "Ajuste o handler para retornar SingleLine, MultiLine, ErrorResult ou Empty")

/-- The command's own definition is at fault. -/
def isDefinitionError (p : Problem) : Bool := p.type == commandDefinitionError

end Problem

end CommandShell
