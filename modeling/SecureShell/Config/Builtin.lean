/-
Module: SecureShell.Config.Builtin
Purpose: The values that keywords have when no source gives one.
Main exports: builtinValues, builtinValue
-/
import SecureShell.Text.Basic

namespace SecureShell

/-- Keywords in small letters with their built-in values. -/
def builtinValues : List (Text × Text) :=
  [ ("port".toList, "22".toList),
    ("identityfile".toList, "~/.ssh/identity".toList),
    ("addressfamily".toList, "any".toList),
    ("batchmode".toList, "no".toList),
    ("checkhostip".toList, "yes".toList),
    ("compression".toList, "no".toList),
    ("connectionattempts".toList, "1".toList),
    ("forwardagent".toList, "no".toList),
    ("hashknownhosts".toList, "no".toList),
    ("identitiesonly".toList, "no".toList),
    ("passwordauthentication".toList, "yes".toList),
    ("pubkeyauthentication".toList, "yes".toList),
    ("stricthostkeychecking".toList, "ask".toList),
    ("tcpkeepalive".toList, "yes".toList),
    ("userknownhostsfile".toList, "~/.ssh/known_hosts ~/.ssh/known_hosts2".toList),
    ("globalknownhostsfile".toList, "/etc/ssh/ssh_known_hosts /etc/ssh/ssh_known_hosts2".toList) ]

/-- The built-in value of a keyword, whatever its case; a keyword without one has the empty value. -/
def builtinValue (keyword : Text) : Text :=
  (builtinValues.lookup (Text.lower keyword)).getD []

end SecureShell
