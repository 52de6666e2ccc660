/-!
# Log records

All that the shell reports about itself, with the form in which it is written.
-/

namespace CommandShell

inductive Severity where
  | trace
  | debug
  | info
  | warn
  | error
  deriving DecidableEq, Repr

namespace Severity

def name : Severity → String
  | .trace => "TRACE"
  | .debug => "DEBUG"
  | .info => "INFO"
  | .warn => "WARN"
  | .error => "ERROR"

def levelName : Severity → String
  | .trace => "trace"
  | .debug => "debug"
  | .info => "info"
  | .warn => "warn"
  | .error => "error"

def all : List Severity := [.trace, .debug, .info, .warn, .error]

/-- The weight of a severity; a log shows the records that weigh at least as
much as its level. -/
def weight : Severity → Nat
  | .trace => 0
  | .debug => 1
  | .info => 2
  | .warn => 3
  | .error => 4

end Severity

inductive LogRecord where
  | addingCommand (command : String)
  | commandRegistered (command : String)
  | commandReplaced (command : String)
  | sourceLoaded (source : String) (count : Nat)
  | sourceFailed (source : String) (error : String)
  | tableBuilt (size : Nat)
  | sessionStarted
  | unknownCommand (command : String)
  | handling (command : String)
  | greeted
  | promptChanged (prompt : String)
  | exiting (code : Int)
  | commandFailed (command : String) (error : String)
  | sessionStopping
  | sessionFailed (error : String)
  | sessionStopped
  | exitRequested (code : Int)
  | shutdownSignal
  deriving DecidableEq, Repr

inductive FieldValue where
  | text (value : String)
  | number (value : Int)
  deriving DecidableEq, Repr

namespace LogRecord

def severity : LogRecord → Severity
  | addingCommand _ => .debug
  | commandRegistered _ => .debug
  | commandReplaced _ => .warn
  | sourceLoaded _ _ => .info
  | sourceFailed _ _ => .error
  | tableBuilt _ => .debug
  | sessionStarted => .debug
  | unknownCommand _ => .debug
  | handling _ => .debug
  | greeted => .debug
  | promptChanged _ => .debug
  | exiting _ => .info
  | commandFailed _ _ => .error
  | sessionStopping => .debug
  | sessionFailed _ => .error
  | sessionStopped => .debug
  | exitRequested _ => .info
  | shutdownSignal => .info

def message : LogRecord → String
  | addingCommand command => "Add '" ++ command ++ "' to command table"
  | commandRegistered command => "Handler for Command '" ++ command ++ "' registered"
  | commandReplaced command =>
    "command '" ++ command ++ "' registered more than once; the last registration wins"
  | sourceLoaded _ _ => "command source loaded"
  | sourceFailed source _ => "Failed to load command source '" ++ source ++ "'"
  | tableBuilt _ => "command table built"
  | sessionStarted => "ReplService started"
  | unknownCommand _ => "unknown command"
  | handling command => "Handle " ++ command ++ " command"
  | greeted => "Hello responded with greeting message."
  | promptChanged _ => "prompt changed"
  | exiting _ => "exiting"
  | commandFailed _ _ => "command failed"
  | sessionStopping => "ReplService stopping"
  | sessionFailed _ => "shell loop terminated"
  | sessionStopped => "ReplService stopped"
  | exitRequested _ => "process exit requested"
  | shutdownSignal => "shutdown signal received (Ctrl+C)"

def fields : LogRecord → List (String × FieldValue)
  | addingCommand command => [("command", .text command)]
  | commandRegistered command => [("command", .text command)]
  | commandReplaced command => [("command", .text command)]
  | sourceLoaded source count => [("source", .text source), ("count", .number count)]
  | sourceFailed source error => [("source", .text source), ("error", .text error)]
  | tableBuilt size => [("commands", .number size)]
  | sessionStarted => []
  | unknownCommand command => [("command", .text command)]
  | handling command => [("command", .text command)]
  | greeted => []
  | promptChanged prompt => [("prompt", .text prompt)]
  | exiting code => [("code", .number code)]
  | commandFailed command error => [("command", .text command), ("error", .text error)]
  | sessionStopping => []
  | sessionFailed error => [("error", .text error)]
  | sessionStopped => []
  | exitRequested code => [("code", .number code)]
  | shutdownSignal => []

end LogRecord
end CommandShell
