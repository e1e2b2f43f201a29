import LogForwarding.Error

/-!
# Errors of a command

A command ends in one of these errors or well. Each error has a text and an exit code,
by which a script can tell unusable settings from a rejected specification.
-/

namespace LogForwarding

/-- Why a command did not end well. -/
inductive CommandError where
  /-- The settings were checked and found unusable. -/
  | settings (reason : String)
  /-- The command was asked for something that it does not do. -/
  | request (reason : String)
  /-- Some entities of the specification are not used as declared. -/
  | rejected (reason : String)
  /-- The specification could not be read or normalized. -/
  | forwarding (source : ForwardingError)
  /-- Reading or writing failed. -/
  | inputOutput (reason : String)
  /-- A service around the specification failed. -/
  | service (source : ServiceError)
  deriving DecidableEq, Repr, Inhabited

namespace CommandError

/-- The text of an error. -/
def message : CommandError → String
  | settings reason => s!"configuration error: {reason}"
  | request reason => reason
  | rejected reason => s!"spec rejected: {reason}"
  | forwarding source => source.message
  | inputOutput reason => s!"io error: {reason}"
  | service source => source.message

/-- The exit code of a command that ends in an error: 2 for unusable settings, 3 for a
rejected specification, 10 for reading and writing, 1 for anything else. -/
def exitCode : CommandError → Nat
  | settings _ => 2
  | rejected _ => 3
  | inputOutput _ => 10
  | service (.settings _) => 2
  | service _ => 1
  | request _ => 1
  | forwarding _ => 1

end CommandError

end LogForwarding
