/-
Module: SecureShell.Connection.CallerMethod
Purpose: What the caller supplies for a connection: authentication methods, which are tried after all others,
  and a dialer, which takes the place of the network. A method has a name and says what it does when its
  turn comes; a dialer is known by its name.
Main exports: CallerMethod, CallerAction, CustomDialer
-/
import SecureShell.Text.Basic

namespace SecureShell

/-- What a caller's method does: it tries a password at the peer, or it settles the matter by itself. -/
inductive CallerAction where
  | tryPassword (password : Text)
  | accept
  | reject
  | fail
deriving DecidableEq, Repr

/-- An authentication method supplied by the caller. -/
structure CallerMethod where
  name : Text
  action : CallerAction
deriving DecidableEq, Repr

/-- A dialer supplied by the caller. -/
structure CustomDialer where
  name : Text
deriving DecidableEq, Repr

end SecureShell
