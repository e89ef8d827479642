/-
Module: SecureShell.Proofs.CommandOutput
Purpose: No output of a command is lost, however it is cut into messages and wherever the exit status, the end
  of the data and other messages stand among it. While messages are collected the transcript tells exactly
  what has been heard, and collecting does not stop before a close, or before both the exit status and the
  end of the data have come, behind which there is no more data.
Main exports: outputOf, errorsOf, statusesOf, Complete, Transcript.Sound, Transcript.collect_cases,
  CommandOutput.ofMessages_of_complete, CommandOutput.ofMessages_eq_channelClosed_iff, execute_collects
-/
import SecureShell.Connection.Channel

namespace SecureShell

namespace ChannelMessage

/-- The output that a message carries. -/
def output : ChannelMessage → Bytes
  | .data bytes => bytes
  | _ => []

/-- The error output that a message carries. -/
def errors : ChannelMessage → Bytes
  | .extendedData kind bytes => if kind = errorStream then bytes else []
  | _ => []

/-- The exit status that a message carries. -/
def status? : ChannelMessage → Option UInt32
  | .exitStatus status => some status
  | _ => none

/-- Data of any kind. -/
def isData : ChannelMessage → Bool
  | .data _ => true
  | .extendedData _ _ => true
  | _ => false

end ChannelMessage

/-- All output that messages carry, in order. -/
def outputOf (messages : List ChannelMessage) : Bytes :=
  messages.flatMap ChannelMessage.output

/-- All error output that messages carry, in order. -/
def errorsOf (messages : List ChannelMessage) : Bytes :=
  messages.flatMap ChannelMessage.errors

/-- The exit statuses among messages, in order. -/
def statusesOf (messages : List ChannelMessage) : List UInt32 :=
  messages.filterMap ChannelMessage.status?

/-- The messages of a command that has come to its end, with one exit status. -/
structure Complete (messages : List ChannelMessage) (ending : StreamEnd) (status : UInt32) :
    Prop where
  oneStatus : statusesOf messages = [status]
  dataFirst : ∀ before after, messages = before ++ .endOfData :: after →
    ∀ message ∈ after, message.isData = false
  closeLast : ∀ before after, messages = before ++ .close :: after → after = []
  concluded : .endOfData ∈ messages ∨ .close ∈ messages ∨ ending = .ended

/-- Both the exit status and the end of the data have been heard. -/
def Concluded (heard : List ChannelMessage) : Prop :=
  statusesOf heard ≠ [] ∧ .endOfData ∈ heard

@[simp] theorem outputOf_append (front back : List ChannelMessage) :
    outputOf (front ++ back) = outputOf front ++ outputOf back :=
  List.flatMap_append

@[simp] theorem errorsOf_append (front back : List ChannelMessage) :
    errorsOf (front ++ back) = errorsOf front ++ errorsOf back :=
  List.flatMap_append

@[simp] theorem statusesOf_append (front back : List ChannelMessage) :
    statusesOf (front ++ back) = statusesOf front ++ statusesOf back :=
  List.filterMap_append

theorem outputOf_eq_nil {messages : List ChannelMessage}
    (dataless : ∀ message ∈ messages, message.isData = false) : outputOf messages = [] := by
  refine List.flatMap_eq_nil_iff.mpr fun message member => ?_
  have plain := dataless message member
  cases message <;> simp_all [ChannelMessage.output, ChannelMessage.isData]

theorem errorsOf_eq_nil {messages : List ChannelMessage}
    (dataless : ∀ message ∈ messages, message.isData = false) : errorsOf messages = [] := by
  refine List.flatMap_eq_nil_iff.mpr fun message member => ?_
  have plain := dataless message member
  cases message <;> simp_all [ChannelMessage.errors, ChannelMessage.isData]

theorem mem_statusesOf {messages : List ChannelMessage} {status : UInt32} :
    status ∈ statusesOf messages ↔ .exitStatus status ∈ messages := by
  rw [statusesOf, List.mem_filterMap]
  constructor
  · rintro ⟨message, member, carried⟩
    cases message with
    | exitStatus other =>
        cases carried
        exact member
    | _ => cases carried
  · intro member
    exact ⟨_, member, rfl⟩

namespace Transcript

/-- A transcript tells exactly what has been heard. -/
structure Sound (transcript : Transcript) (heard : List ChannelMessage) : Prop where
  output : transcript.output = outputOf heard
  errors : transcript.errors = errorsOf heard
  exitStatus : transcript.exitStatus = (statusesOf heard).getLast?
  dataEnded : transcript.dataEnded = true ↔ .endOfData ∈ heard

theorem empty_sound : empty.Sound [] := by
  constructor <;> simp [empty, outputOf, errorsOf, statusesOf]

/-- Taking a message adds it to what has been heard. -/
theorem Sound.take {transcript : Transcript} {heard : List ChannelMessage}
    (sound : transcript.Sound heard) (message : ChannelMessage) :
    (transcript.take message).Sound (heard ++ [message]) := by
  obtain ⟨output, errors, exitStatus, dataEnded⟩ := sound
  cases message with
  | extendedData kind bytes =>
      by_cases shown : kind = errorStream <;> constructor <;>
        simp [Transcript.take, shown, output, errors, exitStatus, dataEnded, outputOf, errorsOf,
          statusesOf, ChannelMessage.output, ChannelMessage.errors, ChannelMessage.status?]
  | _ =>
      constructor <;>
        simp [Transcript.take, output, errors, exitStatus, dataEnded, outputOf, errorsOf,
          statusesOf, ChannelMessage.output, ChannelMessage.errors, ChannelMessage.status?]

theorem Sound.isOver_iff {transcript : Transcript} {heard : List ChannelMessage}
    (sound : transcript.Sound heard) (running : ¬ Concluded heard) (message : ChannelMessage) :
    (transcript.take message).isOver message = true ↔
      message = .close ∨ Concluded (heard ++ [message]) := by
  unfold Concluded at running ⊢
  unfold isOver
  cases message with
  | exitStatus status =>
      simp [Transcript.take, sound.dataEnded, statusesOf, ChannelMessage.status?]
  | endOfData =>
      have last : (statusesOf heard).getLast?.isSome = true ↔ statusesOf heard ≠ [] := by
        rw [Option.isSome_iff_ne_none, ne_eq, ne_eq, List.getLast?_eq_none_iff]
      have same : statusesOf (heard ++ [.endOfData]) = statusesOf heard := by
        simp [statusesOf, ChannelMessage.status?]
      simp only [Transcript.take, sound.exitStatus, last, same]
      simp
  | close => simp
  | _ => simpa [statusesOf, ChannelMessage.status?] using running

/-- How collecting ends, told by the messages that have been read and those that have not: all have been
read, or the last one read is the first close, or the command was concluded. -/
inductive Ends (heard : List ChannelMessage) :
    (read rest : List ChannelMessage) → (finished : Bool) → Prop where
  | exhausted {read : List ChannelMessage} (unclosed : .close ∉ read)
      (running : ¬ Concluded (heard ++ read)) : Ends heard read [] false
  | closed {front rest : List ChannelMessage} (unclosed : .close ∉ front) :
      Ends heard (front ++ [.close]) rest true
  | concluded {read rest : List ChannelMessage} (unclosed : .close ∉ read)
      (reached : Concluded (heard ++ read)) : Ends heard read rest true

theorem Ends.cons {heard read rest : List ChannelMessage} {finished : Bool}
    {message : ChannelMessage} (later : Ends (heard ++ [message]) read rest finished)
    (unclosed : message ≠ .close) : Ends heard (message :: read) rest finished := by
  cases later with
  | exhausted none running =>
      refine .exhausted (by simp [unclosed.symm, none]) ?_
      rwa [List.append_assoc] at running
  | @closed front _ none =>
      have clear : ChannelMessage.close ∉ message :: front := by simp [unclosed.symm, none]
      exact .closed clear
  | concluded none reached =>
      refine .concluded (by simp [unclosed.symm, none]) ?_
      rwa [List.append_assoc] at reached

/-- Collecting reads messages from the front, and tells exactly what it has read. -/
theorem collect_cases {transcript : Transcript} {heard : List ChannelMessage}
    (sound : transcript.Sound heard) (running : ¬ Concluded heard)
    (messages : List ChannelMessage) :
    ∃ read rest, messages = read ++ rest ∧
      (transcript.collect messages).1.Sound (heard ++ read) ∧
        Ends heard read rest (transcript.collect messages).2 := by
  induction messages generalizing transcript heard with
  | nil =>
      refine ⟨[], [], rfl, ?_, .exhausted (by simp) ?_⟩
      · simpa [collect] using sound
      · simpa using running
  | cons message rest ih =>
      have taken := sound.take message
      have finished := sound.isOver_iff running message
      by_cases stops : (transcript.take message).isOver message = true
      · simp only [collect, stops, if_true]
        refine ⟨[message], rest, rfl, taken, ?_⟩
        by_cases close : message = .close
        · subst close
          have clear : ChannelMessage.close ∉ ([] : List ChannelMessage) := by simp
          exact .closed clear
        · rcases finished.mp stops with same | reached
          · exact absurd same close
          · exact .concluded (by simpa using Ne.symm close) reached
      · simp only [collect, stops]
        rw [finished, not_or] at stops
        obtain ⟨read, left, rfl, told, ends⟩ := ih taken stops.2
        refine ⟨message :: read, left, rfl, ?_, ends.cons stops.1⟩
        rwa [List.append_assoc] at told

end Transcript

namespace CommandOutput

/-- The result that has been heard, if an exit status was among it. -/
theorem ofTranscript_eq_ok_iff {transcript : Transcript} {heard : List ChannelMessage}
    (sound : transcript.Sound heard) (result : CommandOutput) :
    ofTranscript transcript = .ok result ↔
      (statusesOf heard).getLast? = some result.exitCode ∧
        result.output = Utf8.decodeLeniently (outputOf heard) ∧
          result.errors = Utf8.decodeLeniently (errorsOf heard) := by
  unfold ofTranscript
  rw [sound.exitStatus, sound.output, sound.errors]
  cases (statusesOf heard).getLast? with
  | none => simp
  | some status =>
      rcases result with ⟨exitCode, output, errors⟩
      simp only [Except.ok.injEq, CommandOutput.mk.injEq, Option.some.injEq]
      constructor
      · rintro ⟨rfl, rfl, rfl⟩
        exact ⟨rfl, rfl, rfl⟩
      · rintro ⟨rfl, rfl, rfl⟩
        exact ⟨rfl, rfl, rfl⟩

theorem ofTranscript_eq_channelClosed_iff {transcript : Transcript}
    {heard : List ChannelMessage} (sound : transcript.Sound heard) :
    ofTranscript transcript = .error .channelClosed ↔ statusesOf heard = [] := by
  unfold ofTranscript
  rw [sound.exitStatus, ← List.getLast?_eq_none_iff]
  cases (statusesOf heard).getLast? with
  | none => simp
  | some status => simp

/-- Of the messages of a finished command, those that are left unread carry nothing, and the rest do not
leave the end open. -/
theorem unread_of_complete {read rest : List ChannelMessage} {ending : StreamEnd}
    {status : UInt32} {finished : Bool} (complete : Complete (read ++ rest) ending status)
    (ends : Transcript.Ends [] read rest finished) :
    statusesOf read = [status] ∧ outputOf rest = [] ∧ errorsOf rest = [] ∧
      (finished = true ∨ ending = .ended) := by
  obtain ⟨oneStatus, dataFirst, closeLast, concluded⟩ := complete
  cases ends with
  | exhausted unclosed running =>
      simp only [List.append_nil, List.nil_append] at oneStatus concluded running
      refine ⟨oneStatus, rfl, rfl, .inr ?_⟩
      rcases concluded with ended | closed | ended
      · exact absurd ⟨by simp [oneStatus], ended⟩ running
      · exact absurd closed unclosed
      · exact ended
  | @closed front _ _ =>
      obtain rfl := closeLast front rest (by simp)
      exact ⟨by simpa using oneStatus, rfl, rfl, .inl rfl⟩
  | concluded _ reached =>
      obtain ⟨heardStatus, heardEnd⟩ := reached
      obtain ⟨before, after, split⟩ := List.append_of_mem heardEnd
      simp only [List.nil_append] at heardStatus split
      have dataless : ∀ message ∈ rest, message.isData = false := by
        intro message member
        exact dataFirst before (after ++ rest) (by simp [split]) message (by simp [member])
      -- the only status stands among the messages that have been read
      rw [statusesOf_append] at oneStatus
      rcases List.append_eq_singleton_iff.mp oneStatus with ⟨none, _⟩ | ⟨one, _⟩
      · exact absurd none heardStatus
      · exact ⟨one, outputOf_eq_nil dataless, errorsOf_eq_nil dataless, .inl rfl⟩

/-- What a finished command says is the whole of its output. -/
theorem ofMessages_of_complete {messages : List ChannelMessage} {ending : StreamEnd}
    {status : UInt32} (limit : Span) (complete : Complete messages ending status) :
    ofMessages limit messages ending =
      .ok ⟨status, Utf8.decodeLeniently (outputOf messages),
        Utf8.decodeLeniently (errorsOf messages)⟩ := by
  obtain ⟨read, rest, rfl, sound, ends⟩ :=
    Transcript.collect_cases Transcript.empty_sound (by simp [Concluded]) messages
  obtain ⟨oneStatus, noOutput, noErrors, settled⟩ := unread_of_complete complete ends
  have whole : ofTranscript (Transcript.empty.collect (read ++ rest)).1 = .ok ⟨status,
      Utf8.decodeLeniently (outputOf (read ++ rest)),
      Utf8.decodeLeniently (errorsOf (read ++ rest))⟩ := by
    rw [ofTranscript_eq_ok_iff sound]
    simp [oneStatus, noOutput, noErrors]
  rcases collected : Transcript.empty.collect (read ++ rest) with ⟨transcript, finished⟩
  rw [collected] at whole settled
  unfold ofMessages
  rw [collected]
  rcases settled with finished | ended
  · cases finished
    exact whole
  · subst ended
    cases finished <;> exact whole

/-- A result comes only of an exit status that was received. -/
theorem status_of_ofMessages {limit : Span} {messages : List ChannelMessage}
    {ending : StreamEnd} {result : CommandOutput}
    (ended : ofMessages limit messages ending = .ok result) :
    .exitStatus result.exitCode ∈ messages := by
  obtain ⟨read, rest, rfl, sound, _⟩ :=
    Transcript.collect_cases Transcript.empty_sound (by simp [Concluded]) messages
  unfold ofMessages at ended
  rcases collected : Transcript.empty.collect (read ++ rest) with ⟨transcript, finished⟩
  rw [collected] at ended sound
  have told : ofTranscript transcript = .ok result := by
    cases finished with
    | true => exact ended
    | false =>
        cases ending with
        | ended => exact ended
        | silent => cases ended
  have last := ((ofTranscript_eq_ok_iff sound result).mp told).1
  exact List.mem_append_left _ (mem_statusesOf.mp (List.mem_of_getLast? last))

/-- What was read without a close stands in front of every close. -/
theorem exists_of_unclosed {read rest before after : List ChannelMessage}
    (unclosed : .close ∉ read) (split : read ++ rest = before ++ .close :: after) :
    ∃ between, before = read ++ between := by
  rcases List.append_eq_append_iff.mp split with ⟨between, whole, _⟩ | ⟨between, whole, tail⟩
  · exact ⟨between, whole⟩
  · cases between with
    | nil => exact ⟨[], by simpa using whole.symm⟩
    | cons head between =>
        obtain ⟨rfl, _⟩ := List.cons.inj tail
        exact absurd (by simp [whole]) unclosed

/-- A channel counts as closed exactly when its close or the end of the stream comes without an exit status
in front of it. -/
theorem ofMessages_eq_channelClosed_iff (limit : Span) (messages : List ChannelMessage)
    (ending : StreamEnd) :
    ofMessages limit messages ending = .error .channelClosed ↔
      (∃ before after, messages = before ++ .close :: after ∧ statusesOf before = []) ∨
        (ending = .ended ∧ .close ∉ messages ∧ statusesOf messages = []) := by
  obtain ⟨read, rest, rfl, sound, ends⟩ :=
    Transcript.collect_cases Transcript.empty_sound (by simp [Concluded]) messages
  have told := ofTranscript_eq_channelClosed_iff sound
  unfold ofMessages
  rcases collected : Transcript.empty.collect (read ++ rest) with ⟨transcript, finished⟩
  rw [collected] at told ends
  simp only [List.nil_append] at told
  cases ends with
  | exhausted unclosed _ =>
      rw [List.append_nil]
      have apart : ¬ ∃ before after, read = before ++ .close :: after ∧
          statusesOf before = [] := by
        rintro ⟨before, after, rfl, _⟩
        simp at unclosed
      cases ending with
      | ended =>
          refine told.trans ⟨fun none => .inr ⟨rfl, unclosed, none⟩, ?_⟩
          rintro (opened | ⟨_, _, none⟩)
          · exact absurd opened apart
          · exact none
      | silent =>
          constructor
          · intro failed
            cases failed
          · rintro (opened | ⟨ended, _⟩)
            · exact absurd opened apart
            · cases ended
  | @closed front _ unclosed =>
      have same : statusesOf (front ++ [.close]) = statusesOf front := by
        rw [statusesOf_append]
        exact List.append_nil _
      rw [same] at told
      refine told.trans ⟨fun none => .inl ⟨front, rest, by simp, none⟩, ?_⟩
      rintro (⟨before, after, split, none⟩ | ⟨_, absent, _⟩)
      · rw [List.append_assoc] at split
        obtain ⟨between, rfl⟩ := exists_of_unclosed unclosed split
        rw [statusesOf_append, List.append_eq_nil_iff] at none
        exact none.1
      · simp at absent
  | concluded unclosed reached =>
      refine told.trans ⟨fun none => absurd none reached.1, ?_⟩
      rintro (⟨before, after, split, none⟩ | ⟨_, _, none⟩)
      · obtain ⟨between, rfl⟩ := exists_of_unclosed unclosed split
        rw [statusesOf_append, List.append_eq_nil_iff] at none
        exact none.1
      · rw [statusesOf_append, List.append_eq_nil_iff] at none
        exact none.1

end CommandOutput

variable {σ : Type}

/-- How the request for a command ends on a channel that is granted in a state: with what comes on the
channel, or with a fault. -/
def channelOf (around : Surroundings σ) (line : Text) (state : σ) :
    Except SessionFault (List ChannelMessage × StreamEnd) :=
  (around.runCommand line (around.requestChannel state).2).1

/-- A command whose request fails is told to be unsent, with the fault; any other answers as its messages
say. -/
theorem execute_of_granted {around : Surroundings σ} {line : Text} {limit : Span} {state : σ}
    (granted : (around.requestChannel state).1 = .granted) :
    (execute around line limit state).result =
      match channelOf around line state with
      | .error fault => .error (.commandUnsent fault)
      | .ok (messages, ending) => CommandOutput.ofMessages limit messages ending := by
  simp only [execute, Run.ask_bind, granted, channelOf]
  rcases (around.runCommand line (around.requestChannel state).2).1 with fault | ⟨messages, ending⟩
  · rfl
  · simp only
    cases CommandOutput.ofMessages limit messages ending <;> rfl

/-- A failure of a command with messages has a cause in them, never in the request. -/
theorem CommandOutput.ofMessages_ne_commandUnsent (limit : Span) (messages : List ChannelMessage)
    (ending : StreamEnd) (fault : SessionFault) :
    ofMessages limit messages ending ≠ .error (.commandUnsent fault) := by
  have told (transcript : Transcript) : ofTranscript transcript ≠ .error (.commandUnsent fault) := by
    unfold ofTranscript
    cases transcript.exitStatus <;> simp
  unfold ofMessages
  rcases Transcript.empty.collect messages with ⟨transcript, _ | _⟩
  · cases ending with
    | ended => exact told transcript
    | silent => simp
  · exact told transcript

/-- A command on a channel that is granted. It is told to be unsent exactly when its request fails. When
messages come, and it has finished, its result is its exit status with the whole of its output, and depends
on nothing else that its messages are; there is no result without an exit status; and the channel counts as
closed exactly when its close, or the end of the stream, comes without an exit status in front of it. -/
theorem execute_collects (around : Surroundings σ) (line : Text) (limit : Span)
    (state : σ) (granted : (around.requestChannel state).1 = .granted) :
    let result := (execute around line limit state).result
    (∀ fault, result = .error (.commandUnsent fault) ↔
      channelOf around line state = .error fault) ∧
    ∀ messages ending, channelOf around line state = .ok (messages, ending) →
      (∀ status, Complete messages ending status →
        result = .ok ⟨status, Utf8.decodeLeniently (outputOf messages),
          Utf8.decodeLeniently (errorsOf messages)⟩) ∧
      (∀ status others otherEnding otherLimit, Complete messages ending status →
        Complete others otherEnding status → outputOf others = outputOf messages →
          errorsOf others = errorsOf messages →
            CommandOutput.ofMessages otherLimit others otherEnding = result) ∧
      (∀ output, result = .ok output → .exitStatus output.exitCode ∈ messages) ∧
      (result = .error .channelClosed ↔
        (∃ before after, messages = before ++ .close :: after ∧ statusesOf before = []) ∨
          (ending = .ended ∧ .close ∉ messages ∧ statusesOf messages = [])) := by
  intro result
  have same : result = _ := execute_of_granted granted
  rw [same]
  constructor
  · intro fault
    rcases channelOf around line state with cause | ⟨messages, ending⟩
    · simp
    · simpa using CommandOutput.ofMessages_ne_commandUnsent limit messages ending fault
  intro messages ending reply
  simp only [reply]
  refine ⟨?_, ?_, ?_, ?_⟩
  · intro status complete
    exact CommandOutput.ofMessages_of_complete limit complete
  · intro status others otherEnding otherLimit complete otherComplete output errors
    rw [CommandOutput.ofMessages_of_complete limit complete,
      CommandOutput.ofMessages_of_complete otherLimit otherComplete, output, errors]
  · intro output ended
    exact CommandOutput.status_of_ofMessages ended
  · exact CommandOutput.ofMessages_eq_channelClosed_iff limit messages ending

/-- The messages of a command whose exit status comes early and one of whose characters is cut in two. -/
def interleaved : List ChannelMessage :=
  [.data [0xC3], .exitStatus 3, .extendedData 1 [0x78], .other, .data [0xA9],
    .extendedData 2 [0x79], .endOfData]

/-- Surroundings in which every command answers with such messages. -/
def interleaving : Surroundings Unit :=
  { Surroundings.deserted with
    requestChannel := fun state => (.granted, state)
    runCommand := fun _ state => (.ok (interleaved, .silent), state) }

theorem interleaved_complete : Complete interleaved .silent 3 where
  oneStatus := rfl
  dataFirst := by
    intro before after split
    simp [interleaved, List.cons_eq_append_iff] at split
    obtain ⟨_, _, _, _, _, _, _, _, _, _, _, _, _, rfl⟩ := split
    simp
  closeLast := by
    intro before after split
    have closed : .close ∈ interleaved := by simp [split]
    simp [interleaved] at closed
  concluded := by simp [interleaved]

theorem execute_interleaving :
    (interleaving.requestChannel ()).1 = .granted ∧
      channelOf interleaving [] () = .ok (interleaved, .silent) ∧
      (execute interleaving [] .zero ()).result = .ok ⟨3, "é".toList, "x".toList⟩ :=
  ⟨rfl, rfl, ((execute_collects interleaving [] .zero () rfl).2 _ _ rfl).1 3 interleaved_complete⟩

end SecureShell
