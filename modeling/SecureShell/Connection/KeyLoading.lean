/-
Module: SecureShell.Connection.KeyLoading
Purpose: Private keys are decoded in order. A key that does not decode with its own passphrase gets one
  more chance, with an answer from the terminal, if prompting is on. The first key that fails for good
  ends the run.
Main exports: KeyMaterial.load, loadKeys
-/
import SecureShell.Connection.Run

namespace SecureShell

variable {σ : Type}

/-- The question for the passphrase of a key. -/
def KeyMaterial.question (key : KeyMaterial) : Text :=
  "Enter passphrase for key '".toList ++ key.label ++ "': ".toList

/-- The question names a key by the path of its file, or as one without a file. -/
theorem KeyMaterial.question_eq (key : KeyMaterial) :
    key.question = "Enter passphrase for key '".toList
      ++ key.path.elim "(inline key)".toList Path.text ++ "': ".toList :=
  congrArg (fun label => "Enter passphrase for key '".toList ++ label ++ "': ".toList) key.label_eq

/-- The end of a run by a key that cannot be used. -/
def KeyMaterial.refuse {α : Type} (key : KeyMaterial) (refusal : KeyRefusal) : Run σ α :=
  Run.fail (.unusableKey key.label refusal)

/-- A key that has been decoded. -/
def acceptKey (decoded : SigningKey) : Run σ SigningKey := do
  Run.record (.keyDecoded decoded)
  pure decoded

/-- Asks for the passphrase of a key. -/
def KeyMaterial.askPassphrase (around : Surroundings σ) (key : KeyMaterial) : Run σ Text := do
  Run.record (.passphraseAsked key.label)
  match ← Run.ask (around.askPassphrase key.question) with
  | .error cause => key.refuse (.passphraseUnread cause)
  | .ok answer => pure answer

/-- Decodes the text of a key with an answer from the terminal. -/
def KeyMaterial.retry (around : Surroundings σ) (key : KeyMaterial) (text : Text) :
    Run σ SigningKey := do
  let answer ← key.askPassphrase around
  match around.decodeKey text (some answer) with
  | .ok decoded => acceptKey decoded
  | .error fault => key.refuse (.undecodable fault)

/-- Decodes one key, if need be with an answer from the terminal. -/
def KeyMaterial.load (around : Surroundings σ) (prompting : Bool) (key : KeyMaterial) :
    Run σ SigningKey :=
  match Utf8.decode key.content with
  | .error _ => key.refuse .notText
  | .ok text =>
      match around.decodeKey text key.passphrase with
      | .ok decoded => acceptKey decoded
      | .error fault =>
          if prompting then key.retry around text else key.refuse (.undecodable fault)

/-- Decodes keys in order until one fails for good. -/
def loadKeys (around : Surroundings σ) (prompting : Bool) :
    List KeyMaterial → Run σ (List SigningKey)
  | [] => pure []
  | key :: rest => do
      let decoded ← key.load around prompting
      let others ← loadKeys around prompting rest
      pure (decoded :: others)

end SecureShell
