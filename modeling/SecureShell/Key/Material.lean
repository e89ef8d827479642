/-
Module: SecureShell.Key.Material
Purpose: Private keys before and after they are decoded. Key material is the content of a key file, or
  bytes that the caller hands over, with the passphrase that belongs to it. What a summary shows of it is
  where it came from and whether there is a passphrase.
Main exports: KeyMaterial, KeyMaterial.label, KeyFault, KeyFault.message, SigningKey
-/
import SecureShell.Key.PublicKey
import SecureShell.Path.Basic

namespace SecureShell

/-- An undecoded private key, the file it was read from if there is one, and the passphrase to try. -/
structure KeyMaterial where
  content : Bytes
  path : Option Path
  passphrase : Option Text
deriving DecidableEq, Repr

/-- What key material is called in messages and prompts. -/
def KeyMaterial.label (key : KeyMaterial) : Text :=
  match key.path with
  | some path => path.text
  | none => "(inline key)".toList

/-- A key from a file is called by the path of the file, any other by words of its own. -/
theorem KeyMaterial.label_eq (key : KeyMaterial) :
    key.label = key.path.elim "(inline key)".toList Path.text := by
  unfold label
  cases key.path <;> rfl

/-- Reasons for which the text of a key does not decode. -/
inductive KeyFault where
  | unrecognized
  | encrypted
  | wrongPassphrase
deriving DecidableEq, Repr

/-- The wording of a reason. -/
def KeyFault.message : KeyFault → Text
  | .unrecognized => "Could not read key".toList
  | .encrypted => "The key is encrypted".toList
  | .wrongPassphrase => "SshKey: cryptographic error".toList

/-- A decoded private key, known by the public key that belongs to it. -/
structure SigningKey where
  publicKey : PublicKey
deriving DecidableEq, Repr

end SecureShell
