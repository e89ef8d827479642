/-
Module: SecureShell.Key.PublicKey
Purpose: Public keys as they are exchanged: counted runs of which the first names the algorithm and the
  others hold the key. The algorithm says which parts follow and what they may hold; bytes behind the last
  part mean nothing. Several names of an algorithm stand for the same kind of key, and an algorithm with a
  domain in its name has one part of any content.
Main exports: PublicKey, PublicKey.ofBlob?, PublicKey.ofBase64?, PublicKey.ofLine?
-/
import SecureShell.Bytes.Base64
import SecureShell.Bytes.Counted

namespace SecureShell

/-- A public key: the algorithm that it belongs to, and its parts. -/
structure PublicKey where
  algorithm : Text
  parts : List Bytes
deriving DecidableEq, Repr

namespace PublicKey

/-- What a part of a key holds. -/
inductive Part where
  | fixed (width : Nat)
  | number
  | curve (name : Text)
  | point (width : Nat)
  | sealedPoint (width : Nat)
  | text
  | data
deriving DecidableEq, Repr

/-- Whole numbers have no zero byte in front, except one that keeps the sign positive. -/
def isNumber : Bytes → Bool
  | [] => true
  | 0 :: [] => false
  | 0 :: next :: _ => 0x80 ≤ next
  | _ => true

/-- Points of a curve whose coordinates have a width: both coordinates, or one with a sign. -/
def isPoint (width : Nat) : Bytes → Bool
  | [] => false
  | tag :: coordinates =>
      (tag = 4 && coordinates.length = 2 * width)
        || ((tag = 2 || tag = 3) && coordinates.length = width)

/-- Points in every form that a point can be written in: also the one at infinity, and one coordinate
without a sign. -/
def isSealedPoint (width : Nat) (bytes : Bytes) : Bool :=
  isPoint width bytes
    || match bytes with
      | [] => false
      | tag :: coordinates =>
          (tag = 0 && coordinates = []) || (tag = 5 && coordinates.length = width)

/-- Whether a run may be a part of its kind. -/
def Part.accepts : Part → Bytes → Bool
  | .fixed width, run => run.length = width
  | .number, run => isNumber run
  | .curve name, run => run = Text.utf8 name
  | .point width, run => isPoint width run
  | .sealedPoint width, run => isSealedPoint width run
  | .text, run => (Utf8.decode run).isOk
  | .data, _ => true

/-- Reads a part and tells what stands behind it. -/
def Part.read? (part : Part) (bytes : Bytes) : Option (Bytes × Bytes) :=
  let run := match part with
    | .fixed width => Counted.readHead? width bytes
    | _ => Counted.read? bytes
  run.filter fun found => part.accepts found.1

/-- Reads parts one after the other. -/
def readParts? : List Part → Bytes → Option (List Bytes)
  | [], _ => some []
  | part :: rest, bytes => do
      let (run, behind) ← part.read? bytes
      pure (run :: (← readParts? rest behind))

/-- The kind of key that an algorithm has: the name under which it is known, and its parts. -/
structure Kind where
  name : Text
  parts : List Part
deriving DecidableEq, Repr

/-- The kind of an algorithm whose own name it is known under. -/
def Kind.named (name : String) (parts : List Part) : Text × Kind :=
  (name.toList, ⟨name.toList, parts⟩)

/-- The kind of an algorithm that signs with keys of two numbers. -/
def numberPair : Kind := ⟨"ssh-rsa".toList, [.number, .number]⟩

/-- The algorithms that say what their keys hold. -/
def kinds : List (Text × Kind) :=
  [ ("ssh-rsa".toList, numberPair),
    ("rsa-sha2-256".toList, numberPair),
    ("rsa-sha2-512".toList, numberPair),
    Kind.named "ssh-dss" [.number, .number, .number, .number],
    Kind.named "ssh-ed25519" [.fixed 32],
    Kind.named "ecdsa-sha2-nistp256" [.curve "nistp256".toList, .point 32],
    Kind.named "ecdsa-sha2-nistp384" [.curve "nistp384".toList, .point 48],
    Kind.named "ecdsa-sha2-nistp521" [.curve "nistp521".toList, .point 66],
    Kind.named "sk-ssh-ed25519@openssh.com" [.fixed 32, .text],
    Kind.named "sk-ecdsa-sha2-nistp256@openssh.com"
      [.curve "nistp256".toList, .sealedPoint 32, .text] ]

/-- Names with a domain: ASCII characters with one at sign, which stands inside. -/
def isExtension (name : Text) : Bool :=
  name.all (fun c => c.toNat < 128)
    && match Text.segments '@' name with
      | [own, domain] => own ≠ [] && domain ≠ []
      | _ => false

/-- The kind of key that belongs to an algorithm, if there is such an algorithm. -/
def kindOf? (algorithm : Text) : Option Kind :=
  match kinds.lookup algorithm with
  | some kind => some kind
  | none => if isExtension algorithm then some ⟨algorithm, [.data]⟩ else none

/-- The most bytes that the name of an algorithm may have. -/
def nameLimit : Nat := 48

/-- Reads the name of an algorithm and tells what stands behind it. -/
def readName? (bytes : Bytes) : Option (Text × Bytes) := do
  let (name, rest) ← Counted.read? bytes
  if name.length ≤ nameLimit then pure (← (Utf8.decode name).toOption, rest) else none

/-- Reads the bytes that a key is exchanged as. -/
def ofBlob? (blob : Bytes) : Option PublicKey := do
  let (algorithm, rest) ← readName? blob
  let kind ← kindOf? algorithm
  pure ⟨kind.name, ← readParts? kind.parts rest⟩

/-- Reads a key from base64. -/
def ofBase64? (text : Text) : Option PublicKey :=
  (Base64.decode? text).bind ofBlob?

/-- Reads a line with the algorithm, the key in base64 and any comment, a blank between them. -/
def ofLine? (line : Text) : Option PublicKey :=
  match Text.segments ' ' line with
  | algorithm :: encoded :: _ => (ofBase64? encoded).filter (·.algorithm = algorithm)
  | _ => none

end PublicKey

end SecureShell
