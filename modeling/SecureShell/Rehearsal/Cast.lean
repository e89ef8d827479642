/-
Module: SecureShell.Rehearsal.Cast
Purpose: The parts that others play when a connection is rehearsed: the peer, the agent, the dialer and the
  owner of the keys, each with the lines it has to say, and the record of what they are asked.
Main exports: Peer, Agent, Dialer, RingKey, LogEntry, Scene
-/
import SecureShell.Connection.Surroundings
import SecureShell.FileSystem.Tree

namespace SecureShell.Rehearsal

/-- How a peer behaves towards a new connection. -/
inductive Conduct where
  | serves
  | hangs
  | drops
deriving DecidableEq, Repr

/-- A peer: the host key that it presents, whom it lets in, and what it answers to commands. Without a
user everybody may try; the answers without a command are for every other command. -/
structure Peer where
  conduct : Conduct
  hostKey : PublicKey
  user : Option Text
  password : Option Text
  keys : List PublicKey
  grantsSessions : Bool
  answers : List (Text × List ChannelMessage)
deriving DecidableEq, Repr

namespace Peer

/-- The name under which the answer to all other commands stands. -/
def otherCommands : Text := ['*']

/-- The messages that answer a command. -/
def answer (peer : Peer) (line : Text) : List ChannelMessage :=
  ((peer.answers.lookup line).or (peer.answers.lookup otherCommands)).getD []

/-- Whether a user may come in at all. -/
def knows (peer : Peer) (user : Text) : Bool :=
  peer.user.all (· = user)

/-- Whether a password lets a user in. -/
def acceptsPassword (peer : Peer) (user password : Text) : Bool :=
  peer.knows user && peer.password = some password

/-- Whether a key lets a user in. -/
def acceptsKey (peer : Peer) (user : Text) (key : PublicKey) : Bool :=
  peer.knows user && peer.keys.contains key

end Peer

/-- How an agent answers the question for its keys. -/
inductive Listing where
  | lists
  | fails
  | hangsUp
deriving DecidableEq, Repr

/-- An agent: the keys that it has, and those with which it refuses to sign. -/
structure Agent where
  listing : Listing
  keys : List PublicKey
  refused : List PublicKey
deriving DecidableEq, Repr

/-- How the network or a custom dialer behaves. -/
inductive Dialer where
  | connects
  | hangs
  | refuses (cause : SystemError)
deriving DecidableEq, Repr

/-- A private key that can be decoded: its text, the passphrase that it needs if it is encrypted, and the
public key that belongs to it. -/
structure RingKey where
  text : Text
  passphrase : Option Text
  publicKey : PublicKey
deriving DecidableEq, Repr

/-- Decodes the text of a key that is on a ring. -/
def decodeOnRing (ring : List RingKey) (text : Text) (passphrase : Option Text) :
    Except KeyFault SigningKey :=
  match ring.find? (·.text = text) with
  | none => .error .unrecognized
  | some key =>
      match key.passphrase, passphrase with
      | none, _ => .ok ⟨key.publicKey⟩
      | some _, none => .error .encrypted
      | some needed, some given =>
          if given = needed then .ok ⟨key.publicKey⟩ else .error .wrongPassphrase

/-- What the others have been asked, as they tell it. -/
inductive LogEntry where
  | dialed (host : Text) (port : Port)
  | proxied (words : List Text) (directory : Path)
  | agentListed
  | agentSigned (key : PublicKey) (signed : Bool)
  | passwordTried (user password : Text) (accepted : Bool)
  | keyTried (user : Text) (key : PublicKey) (accepted : Bool)
  | methodCalled (name user : Text)
  | sessionRequested (granted : Bool)
  | commandRun (line : Text)
deriving DecidableEq, Repr

/-- Everything about a rehearsal that does not change while it goes on. -/
structure Scene where
  tree : FileSystem.Tree
  working : FileSystem.Place
  parameters : List (Text × Text)
  ring : List RingKey
  peer : Peer
  agent : Agent
  dialer : Dialer
  network : Dialer

/-- The files of a scene. -/
def Scene.files (scene : Scene) : FileSystem :=
  scene.tree.toFileSystem scene.working

end SecureShell.Rehearsal
