/-
Module: SecureShell.Proxy
Purpose: How a destination is reached through a proxy: by a shell command whose input and output carry the
  stream, or by way of a jump host, for which such a command is put together.
Main exports: Proxy, Proxy.jumpCommand, Proxy.command
-/
import SecureShell.Config.Failure
import SecureShell.Verbs

namespace SecureShell

/-- A proxy as the configuration names it. -/
inductive Proxy where
  | command (line : Text)
  | jump (host : Text)
deriving DecidableEq, Repr

namespace Proxy

/-- The port of a jump host that names none. -/
def defaultJumpPort : Text := "22".toList

/-- The text before the first colon, and the text behind it if there is a colon. -/
def splitAtColon : Text → Text × Option Text
  | [] => ([], none)
  | c :: rest =>
      if c = ':' then ([], some rest)
      else
        let later := splitAtColon rest
        (c :: later.1, later.2)

/-- The command that connects by way of a jump host, its verbs still in place. A port has to be numeric
and is written as it was given. -/
def jumpCommand (jump : Text) : Except ConfigFailure Text :=
  let parts := splitAtColon jump
  match parts.2 with
  | some port =>
      if (Port.read? port).isSome then
        .ok ("ssh -l %r -W %h:%p  ".toList ++ parts.1 ++ " -p ".toList ++ port)
      else .error (.invalidJump jump)
  | none => .ok ("ssh -l %r -W %h:%p  ".toList ++ parts.1 ++ " -p ".toList ++ defaultJumpPort)

/-- The shell command of a proxy for a destination. -/
def commandFor (proxy : Proxy) (user : Text) (port : Port) (hostname : Text) :
    Except ConfigFailure Text :=
  match proxy with
  | .command line => .ok (Verbs.expand line user port.text hostname)
  | .jump host => (jumpCommand host).map fun line => Verbs.expand line user port.text hostname

end Proxy

end SecureShell
