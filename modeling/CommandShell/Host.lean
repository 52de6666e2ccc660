import CommandShell.Log

/-!
# Hosts

A host has a token that an interrupt cancels while the host listens.  An interrupt reaches
all waits that are pending, of every host.
-/

namespace CommandShell

/-- The token of a host and the waits that are pending for it. -/
structure Host where
  cancelled : Bool := false
  waits : Nat := 0
  deriving DecidableEq, Repr

namespace Host

/-- Begins to wait for an interrupt; with a cancelled token the wait is over at
once. -/
def listen (host : Host) : Host :=
  if host.cancelled then host else { host with waits := host.waits + 1 }

def cancel (_ : Host) : Host :=
  ⟨true, 0⟩

/-- An interrupt: each pending wait logs it and cancels the token. -/
def interrupt (host : Host) : Host × List LogRecord :=
  if host.waits = 0 then (host, [])
  else (host.cancel, List.replicate host.waits .shutdownSignal)

end Host

inductive HostStep where
  | listen (index : Nat)
  | cancel (index : Nat)
  | interrupt
  deriving DecidableEq, Repr

abbrev Hosts := List Host

namespace Hosts

def step (hosts : Hosts) : HostStep → Hosts × List LogRecord
  | .listen index => (hosts.modify index Host.listen, [])
  | .cancel index => (hosts.modify index Host.cancel, [])
  | .interrupt =>
    (hosts.map fun host => host.interrupt.1, hosts.flatMap fun host => host.interrupt.2)

def after (hosts : Hosts) (steps : List HostStep) : Hosts :=
  steps.foldl (fun hosts next => (hosts.step next).1) hosts

def tokens (hosts : Hosts) : List Bool :=
  hosts.map Host.cancelled

end Hosts
end CommandShell
