/-
Module: SecureShell.Connection.Channel
Purpose: What a command on the other side answers. The messages of its channel are collected in order until
  the command is over: its channel is closed, or both its exit status and the end of its data have come.
  Output is text in which malformed bytes are replaced; a command without an exit status has failed.
Main exports: Transcript, Transcript.take, Transcript.collect, CommandOutput, execute
-/
import SecureShell.Connection.Run

namespace SecureShell

/-- What has been received on the channel of a command. -/
structure Transcript where
  output : Bytes
  errors : Bytes
  exitStatus : Option UInt32
  dataEnded : Bool
deriving DecidableEq, Repr

namespace Transcript

/-- Before the first message. -/
def empty : Transcript := ⟨[], [], none, false⟩

/-- The transcript with a message added. Extended data of an unknown kind is not kept. -/
def take (transcript : Transcript) : ChannelMessage → Transcript
  | .data bytes => { transcript with output := transcript.output ++ bytes }
  | .extendedData kind bytes =>
      if kind = errorStream then { transcript with errors := transcript.errors ++ bytes }
      else transcript
  | .exitStatus status => { transcript with exitStatus := some status }
  | .endOfData => { transcript with dataEnded := true }
  | .close => transcript
  | .other => transcript

/-- Whether a command is over with a message, the transcript including that message. -/
def isOver (transcript : Transcript) : ChannelMessage → Bool
  | .close => true
  | .exitStatus _ => transcript.dataEnded
  | .endOfData => transcript.exitStatus.isSome
  | _ => false

/-- The transcript up to the message with which the command is over, and whether there is one. -/
def collect (transcript : Transcript) : List ChannelMessage → Transcript × Bool
  | [] => (transcript, false)
  | message :: rest =>
      let taken := transcript.take message
      if taken.isOver message then (taken, true) else collect taken rest

end Transcript

/-- The result of a command. -/
structure CommandOutput where
  exitCode : UInt32
  output : Text
  errors : Text
deriving DecidableEq, Repr

namespace CommandOutput

/-- Whether a command has succeeded. -/
def succeeded (result : CommandOutput) : Bool :=
  result.exitCode = 0

/-- The result that a finished transcript gives. -/
def ofTranscript (transcript : Transcript) : Except ConnectionFailure CommandOutput :=
  match transcript.exitStatus with
  | none => .error .channelClosed
  | some status =>
      .ok ⟨status, Utf8.decodeLeniently transcript.output,
        Utf8.decodeLeniently transcript.errors⟩

/-- The result of a channel: its messages in order, and what comes behind the last of them. -/
def ofMessages (limit : Span) (messages : List ChannelMessage) (ending : StreamEnd) :
    Except ConnectionFailure CommandOutput :=
  match Transcript.empty.collect messages, ending with
  | (transcript, true), _ => ofTranscript transcript
  | (transcript, false), .ended => ofTranscript transcript
  | (_, false), .silent => .error (.commandTimeout limit)

end CommandOutput

/-- How long a command may take unless the caller says otherwise. -/
def defaultCommandLimit : Span := .ofSeconds 300

variable {σ : Type}

/-- Runs a command on a new channel. -/
def execute (around : Surroundings σ) (line : Text) (limit : Span) :
    Run σ CommandOutput := do
  match ← Run.ask around.requestChannel with
  | .faulty fault => Run.fail (.channelUnopened fault)
  | .silent => Run.fail (.commandTimeout limit)
  | .granted => do
      match ← Run.ask (around.runCommand line) with
      | .error fault => Run.fail (.commandUnsent fault)
      | .ok channel => Run.ofExcept (CommandOutput.ofMessages limit channel.1 channel.2)

/-- Opens a channel and leaves it to the caller. There is no limit here: who asks for a channel and never
gets an answer is left with nothing. -/
def openChannel (around : Surroundings σ) : Run σ (Option Unit) := do
  match ← Run.ask around.requestChannel with
  | .granted => pure (some ())
  | .faulty fault => Run.fail (.brokenSession fault)
  | .silent => pure none

/-- Takes leave of the peer. -/
def disconnect (around : Surroundings σ) : Run σ Unit := do
  match ← Run.ask around.leave with
  | .error fault => Run.fail (.brokenSession fault)
  | .ok _ => pure ()

end SecureShell
