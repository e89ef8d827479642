/-
Module: SecureShell.Proofs.PeerCommands
Purpose: What becomes of a script that calls the peer when it is rehearsed. A line of plain words whose first one is a
  command of the peer is read, filled in, looked up and run, and the one thing that the script does is the call with
  just these words; from then on the stream of the caller leads to the peer. So the command of a jump host makes the
  call that the directive stands for. A shell changes much on the way, but nothing on which the call depends.
Main exports: unspelled_spelled, Connects, IsPoised, IsPoised.of_front, connectPeer_connects, fillCommand_bare,
  runSimple_connects, runLines_connects, perform_peer, startProxy_jump
-/
import SecureShell.Proofs.EncodedText
import SecureShell.Proofs.JumpCommand
import SecureShell.Rehearsal.Stage

namespace SecureShell.Rehearsal.Shell

open FileSystem (Tree Place)

variable {α β : Type} {shell : ShellState} {calls : List Call}

/-! ### Spelled texts -/

theorem toNat_ofByte (byte : UInt8) : (Char.ofNat byte.toNat).toNat = byte.toNat := by
  have small : byte.toNat < 256 := byte.toNat_lt
  have valid : byte.toNat.isValidChar := .inl (by omega)
  rw [Char.ofNat, dif_pos valid]
  rfl

theorem bytesOf_ofBytes (bytes : Bytes) : bytesOf (ofBytes bytes) = bytes := by
  simp [bytesOf, ofBytes, List.map_map, Function.comp_def, toNat_ofByte]

/-- A text is told as it was before it was spelled. -/
@[simp] theorem unspelled_spelled (text : Text) : unspelled (spelled text) = text := by
  rw [unspelled, spelled, bytesOf_ofBytes, Utf8.decodeLeniently_text]

theorem spelled_append (front behind : Text) : spelled (front ++ behind) = spelled front ++ spelled behind := by
  simp [spelled, ofBytes, Text.utf8]

theorem spelled_cons_slash (text : Text) : spelled ('/' :: text) = '/' :: spelled text :=
  spelled_append ['/'] text

theorem spelled_eq_nil {text : Text} : spelled text = [] ↔ text = [] :=
  ⟨fun empty => by rw [← unspelled_spelled text, empty]; rfl, fun empty => by rw [empty]; rfl⟩

/-- A character in ASCII is written by itself, and others by bytes that are none in ASCII. -/
theorem mem_utf8EncodeChar {c : Char} {byte : UInt8} (member : byte ∈ String.utf8EncodeChar c) :
    Char.ofNat byte.toNat = c ∨ 0x80 ≤ byte.toNat := by
  obtain ⟨v, value⟩ : ∃ v, c.val.toNat = v := ⟨_, rfl⟩
  have same : Char.ofNat v = c := value ▸ Char.ofNat_toNat c
  have above {n : Nat} (low : 128 ≤ n) (high : n < 256) : 0x80 ≤ (UInt8.ofNat n).toNat := by
    rwa [UInt8.toNat_ofNat_of_lt' high]
  simp only [String.utf8EncodeChar, value] at member
  split_ifs at member with one two three <;> simp only [List.mem_cons, List.not_mem_nil, or_false] at member
  · rw [member, UInt8.toNat_ofNat_of_lt' (show v < 256 by omega)]
    exact .inl same
  · rcases member with rfl | rfl <;> exact .inr (above (by omega) (by omega))
  · rcases member with rfl | rfl | rfl <;> exact .inr (above (by omega) (by omega))
  · rcases member with rfl | rfl | rfl | rfl <;> exact .inr (above (by omega) (by omega))

/-- A spelled text has no other characters in ASCII than the text itself. -/
theorem mem_spelled {text : Text} {c : Char} (member : c ∈ spelled text) : c ∈ text ∨ 0x80 ≤ c.toNat := by
  obtain ⟨byte, written, rfl⟩ := List.mem_map.mp member
  obtain ⟨d, held, inside⟩ := List.mem_flatMap.mp written
  rw [toNat_ofByte]
  rcases mem_utf8EncodeChar inside with same | outside
  · exact .inl (same.symm ▸ held)
  · exact .inr outside

theorem spelled_spaced (words : List Text) : spelled (spaced words) = spaced (words.map spelled) := by
  induction words with
  | nil => rfl
  | cons word words ih =>
      rw [spaced_cons, List.map_cons, spaced_cons, ← ih, ← spelled_append]
      exact spelled_append [' '] _

theorem spelled_intercalate (parts : List Text) :
    spelled (List.intercalate ['/'] parts) = List.intercalate ['/'] (parts.map spelled) := by
  induction parts with
  | nil => rfl
  | cons part parts ih =>
      cases parts with
      | nil => simp [List.intercalate]
      | cons next rest =>
          rw [List.map_cons, List.map_cons, List.intercalate_cons_cons, List.intercalate_cons_cons, spelled_append,
            spelled_append, ih]
          rfl

/-- The spelled path of a place is that of the place with spelled names. -/
theorem spelled_path (place : Place) :
    spelled (Tree.Place.path place).text = (Tree.Place.path (place.map spelled)).text := by
  show spelled ('/' :: _) = '/' :: _
  rw [spelled_cons_slash, spelled_intercalate, List.map_map, List.map_map, List.map_map, List.map_map]
  rfl

/-! ### Actions that stop because the peer is connected -/

/-- An action stops because the peer is connected, when certain calls have been made. -/
def Connects (action : Run α) (shell : ShellState) (calls : List Call) : Prop :=
  ∃ later, action.run shell = .error .connected later ∧ later.calls = calls

theorem connects_get {next : ShellState → Run α} :
    Connects (get >>= next) shell calls ↔ Connects (next shell) shell calls := Iff.rfl

theorem connects_set {next : PUnit → Run α} {own : ShellState} :
    Connects (set own >>= next) shell calls ↔ Connects (next ⟨⟩) own calls := Iff.rfl

theorem connects_modify {next : PUnit → Run α} {change : ShellState → ShellState} :
    Connects (modify change >>= next) shell calls ↔ Connects (next ⟨⟩) (change shell) calls := Iff.rfl

theorem connects_pure {next : α → Run β} {value : α} :
    Connects (pure value >>= next) shell calls ↔ Connects (next value) shell calls := Iff.rfl

/-- What comes behind is not reached. -/
theorem Connects.bind {action : Run α} {next : α → Run β} (connects : Connects action shell calls) :
    Connects (action >>= next) shell calls := by
  obtain ⟨later, ran, told⟩ := connects
  refine ⟨later, ?_, told⟩
  show EStateM.bind action next shell = _
  rw [EStateM.bind, show action shell = _ from ran]

theorem Connects.attempt {action : Run Unit} (connects : Connects action shell calls) :
    ∃ later, (attempt action).run shell = .ok (some .connected) later ∧ later.calls = calls := by
  have goesOn : Connects (action >>= fun _ => pure (none : Option Stop)) shell calls := connects.bind
  obtain ⟨later, ran, told⟩ := goesOn
  refine ⟨later, ?_, told⟩
  show EStateM.tryCatch (action >>= fun _ => pure none) _ shell = _
  rw [EStateM.tryCatch, show (action >>= fun _ => pure none) shell = _ from ran]
  rfl

/-- What is done when an action has stopped decides whether that is told to others. -/
theorem Connects.caught {action : Run Unit} {next : Option Stop → Run α} (connects : Connects action shell calls)
    (goesOn : ∀ later, later.calls = calls → Connects (next (some .connected)) later calls) :
    Connects (Shell.attempt action >>= next) shell calls := by
  obtain ⟨later, ran, told⟩ := connects.attempt
  obtain ⟨last, stopped, kept⟩ := goesOn later told
  refine ⟨last, ?_, kept⟩
  show EStateM.bind (Shell.attempt action) next shell = _
  rw [EStateM.bind, show Shell.attempt action shell = _ from ran]
  exact stopped

theorem connects_throw (told : shell.calls = calls) : Connects (throw .connected : Run α) shell calls :=
  ⟨shell, rfl, told⟩

/-- What is taken back afterwards makes no difference unless it is a call. -/
theorem Connects.takingBack {action : Run Unit} {restore : ShellState → ShellState}
    (connects : Connects action shell calls) (kept : ∀ shell, (restore shell).calls = shell.calls) :
    Connects (takingBack restore action) shell calls :=
  connects.caught fun later told => connects_throw ((kept later).trans told)

/-- An action that only comes to its end may stand in front. -/
theorem Connects.behind {action : Run α} {next : α → Run β} {value : α} {between : ShellState}
    (ran : action.run shell = .ok value between) (connects : Connects (next value) between calls) :
    Connects (action >>= next) shell calls := by
  obtain ⟨later, stopped, told⟩ := connects
  refine ⟨later, ?_, told⟩
  show EStateM.bind action next shell = _
  rw [EStateM.bind, show action shell = _ from ran]
  exact stopped

/-! ### The command that connects -/

/-- What of a shell decides about a command that connects to the peer. -/
structure Front where
  streams : List (Nat × Stream)
  sources : List (Nat × Source)
  preamble : Preamble
  functions : List (Text × Script)
  parameters : List (Text × Parameter)
  options : Options
  place : Place
  calls : List Call

/-- The front of a shell. -/
def ShellState.front (shell : ShellState) : Front :=
  ⟨shell.streams, shell.sources, shell.preamble, shell.functions, shell.parameters, shell.options, shell.place,
    shell.calls⟩

/-- A shell between the caller and the peer that has not said or defined anything so far: the caller is at its input,
its output leads to the caller, and it looks for commands where they usually are. With the command of some words it
will have made certain calls. -/
structure IsPoised (shell : ShellState) (words : List Text) (calls : List Call) : Prop where
  input : ∃ number origin, shell.stream? 0 = some (.input number origin) ∧
    shell.sources.lookup number = some ⟨[], .caller⟩
  output : shell.stream? 1 = some .toCaller
  clear : shell.preamble.isClear = true
  undefined : shell.functions = []
  path : shell.value? "PATH" = some usualSearchPath
  quiet : shell.options.has 'x' = false
  fits : shell.canHandDown words = true
  told : calls = shell.calls ++ [⟨words, shell.directory⟩]

/-- Nothing else about a shell makes a difference. -/
theorem IsPoised.of_front {words : List Text} (poised : IsPoised shell words calls) {later : ShellState}
    (same : later.front = shell.front) : IsPoised later words calls := by
  simp only [ShellState.front, Front.mk.injEq] at same
  obtain ⟨streams, sources, preamble, functions, parameters, options, place, made⟩ := same
  obtain ⟨input, output, clear, undefined, path, quiet, fits, told⟩ := poised
  simp only [ShellState.stream?, ShellState.value?, ShellState.parameter?, ShellState.canHandDown,
    ShellState.directory, ← streams, ← sources, ← preamble, ← functions, ← parameters, ← options, ← place, ← made]
    at input output clear undefined path quiet fits told
  exact ⟨input, output, clear, undefined, path, quiet, fits, told⟩

/-- When nothing is left at the input, only the sources have changed. -/
theorem leaveInput_run {number : Nat} {origin : Origin} (input : shell.stream? 0 = some (.input number origin))
    (source : shell.source? 0 = some ⟨[], .caller⟩) :
    ∃ sources, (leaveInput []).run shell = .ok ⟨⟩ { shell with sources } := by
  have long : callerGreeting.isSuffixOf [] = false := by decide
  have left : ∃ sources, shell.withInput ⟨[], .remains⟩ = { shell with sources } := by
    rw [ShellState.withInput, input]
    exact ⟨_, rfl⟩
  refine left.imp fun sources left => ?_
  show EStateM.Result.ok _ _ = _
  simp only [source, long]
  exact congrArg _ left

theorem handOn_connects (output : shell.stream? 1 = some .toCaller) (clear : shell.preamble.isClear = true)
    (told : shell.calls = calls) : Connects (handOn .peer : Run α) shell calls := by
  unfold handOn
  rw [connects_get, output]
  simp only [clear, and_self, if_true]
  exact connects_throw told

section

variable {words : List Text} (poised : IsPoised shell words calls)

include poised

theorem IsPoised.source? : shell.source? 0 = some ⟨[], .caller⟩ := by
  obtain ⟨number, origin, input, source⟩ := poised.input
  simp only [ShellState.source?, input, Option.bind_some, ShellState.sourceOf?, source]

theorem IsPoised.isHeard : shell.isHeard = true := by
  have speaks : shell.speaksToCaller = true := by
    obtain ⟨before, behind, held, -⟩ := List.lookup_eq_some_iff.mp poised.output
    simp [ShellState.speaksToCaller, held]
  simp [ShellState.isHeard, speaks]

/-- A command of the peer makes its call and connects. -/
theorem connectPeer_connects {name : Text} {arguments : List Text} (same : words = name :: arguments) :
    Connects (connectPeer name arguments) shell calls := by
  have nothing : (Preamble.empty.feed (bytesOf [])).isClear = true := by decide
  unfold connectPeer
  rw [connects_get]
  simp only [poised.isHeard, Bool.not_true, Bool.false_eq_true, if_false, poised.source?, nothing, if_true, ← same,
    ← poised.told]
  obtain ⟨number, origin, input, -⟩ := poised.input
  have source := poised.source?
  obtain ⟨sources, left⟩ :
      ∃ sources, (leaveInput []).run { shell with calls } = .ok ⟨⟩ { shell with calls, sources } :=
    leaveInput_run input source
  exact connects_set.mpr (Connects.behind left (handOn_connects poised.output poised.clear rfl))

end

/-! ### Words that stand for themselves -/

/-- Where each step only gives a value, the steps together give the values. -/
theorem mapM_map_pure {ι γ δ : Type} {h : ι → γ} {f : γ → Run δ} {g : ι → δ} {items : List ι}
    (same : ∀ item ∈ items, f (h item) = pure (g item)) : (items.map h).mapM f = pure (items.map g) := by
  induction items with
  | nil => rfl
  | cons item items ih =>
      obtain ⟨first, rest⟩ := List.forall_mem_cons.mp same
      rw [List.map_cons, List.mapM_cons, first, pure_bind, ih rest, pure_bind, List.map_cons]

theorem fillPieces_bare (collector : Collector) (word : Text) :
    fillPieces collector (Word.bare word) = pure (word.map fun c => .char c false false) := by
  rw [fillPieces, Word.bare, mapM_map_pure (g := fun c => [Piece.char c false false]), pure_bind,
    ← List.flatMap_def, List.map_eq_flatMap]
  exact fun c _ => rfl

theorem splitFrom_unsplit (separators : Text) (word : Text) (begun : List Cell) (inBlanks keepsAll isLast : Bool) :
    splitFrom separators ⟨some begun, inBlanks, keepsAll, isLast⟩ (word.map fun c => .char c false false) =
      [begun.reverse ++ word.map fun c => ⟨c, false⟩] := by
  induction word generalizing begun inBlanks with
  | nil => simp [splitFrom]
  | cons c word ih => simp [splitFrom, Begun.add, ih]

theorem splitFields_unsplit (separators : Text) {word : Text} (nonempty : word ≠ []) :
    splitFields separators (word.map fun c => .char c false false) = [word.map fun c => ⟨c, false⟩] := by
  obtain ⟨c, rest, rfl⟩ := List.exists_cons_of_ne_nil nonempty
  simp [splitFields, splitFrom, Begun.add, splitFrom_unsplit]

/-- A word stands for itself if it has characters, none of which belongs to a pattern, and begins with no tilde. -/
structure IsLiteral (word : Text) : Prop where
  nonempty : word ≠ []
  plain : ∀ c ∈ word, c ∉ ['~', '*', '?', '[']

section

variable {word : Text} (literal : IsLiteral word)

include literal

/-- No home directory stands in for a part of the word. -/
theorem IsLiteral.withHome : withHome shell false (Word.bare word) = Word.bare word := by
  obtain ⟨c, rest, rfl⟩ := List.exists_cons_of_ne_nil literal.nonempty
  have other : c ≠ '~' := fun same => literal.plain c List.mem_cons_self (by simp [same])
  have none : tildeHome? shell false (Word.bare (c :: rest)) = none := by
    rw [Word.bare, List.map_cons]
    unfold tildeHome?
    split
    · next same => cases same; exact absurd rfl other
    · rfl
  rw [Shell.withHome, none]

/-- No file stands in for the word. -/
theorem IsLiteral.fileNames : fileNames shell (word.map fun c => ⟨c, false⟩) = [word] := by
  have noPattern : mayBePattern (word.map fun c => ⟨c, false⟩) = false := by
    simp only [mayBePattern, List.any_map, List.any_eq_false]
    intro c member
    have plain := literal.plain c member
    simp only [List.mem_cons, not_or] at plain
    simp [plain]
  have text : Cell.text (word.map fun c => ⟨c, false⟩) = word := by
    simp [Cell.text, Function.comp_def]
  simp [Shell.fileNames, noPattern, text]

theorem IsLiteral.fillFields (collector : Collector) : fillFields collector (Word.bare word) = pure [word] := by
  funext shell
  show (fillPieces collector (Shell.withHome shell false (Word.bare word)) >>= _) shell = _
  rw [literal.withHome, fillPieces_bare, pure_bind]
  show EStateM.Result.ok _ shell = _
  rw [splitFields_unsplit _ literal.nonempty, List.flatMap_singleton, literal.fileNames]
  rfl

end

theorem fillArguments_bare (collector : Collector) {words : List Text}
    (literal : ∀ word ∈ words, IsLiteral word) :
    fillArguments collector false (words.map Word.bare) = pure words := by
  rw [fillArguments, mapM_map_pure (g := fun word => [word]), pure_bind, ← List.flatMap_def, List.flatMap_singleton']
  exact fun word member => (literal word member).fillFields collector

theorem fillCommand_bare (collector : Collector) {name : Text} {words : List Text}
    (literal : ∀ word ∈ name :: words, IsLiteral word) (other : name ≠ "command".toList)
    (noOption : name.head? ≠ some '-') (declares : declaringNames.contains name = false) :
    fillCommand collector ((name :: words).map Word.bare) = pure (name :: words) := by
  obtain ⟨first, rest⟩ := List.forall_mem_cons.mp literal
  rw [List.map_cons, fillCommand, first.fillFields, pure_bind]
  simp only [other, noOption, or_self, and_false, if_false, declares, fillArguments_bare collector rest, pure_bind,
    List.singleton_append]

/-! ### The commands of the peer -/

theorem segments_usualSearchPath : Text.segments ':' usualSearchPath = peerDirectory :: systemDirectories := by
  decide

/-- What a name of a command of the peer has in common with the other ones: it is no name of anything else. -/
structure IsPeerName (name : Text) : Prop where
  member : name ∈ peerCommands
  literal : IsLiteral name
  noCommand : name ≠ "command".toList
  noType : name ≠ "type".toList
  noExec : name ≠ "exec".toList
  noOption : name.head? ≠ some '-'
  declares : declaringNames.contains name = false
  special : isSpecial name = false
  outside : ∀ run, builtin? run name = none
  noPath : '/' ∉ name

/-- A command of the peer is none of the shell. -/
theorem builtin?_peer (run : Runner) {name : Text} (peer : name ∈ peerCommands) : builtin? run name = none := by
  have names : ∀ held ∈ (builtins run).map (·.1.toList), held ∉ peerCommands := by
    simp only [builtins, specialBuiltins, plainBuiltins, idleNames, List.map_cons, List.map_nil, List.cons_append,
      List.nil_append]
    decide
  rw [builtin?, Option.map_eq_none_iff, List.find?_eq_none]
  intro entry member same
  have own : entry.1.toList ∈ (builtins run).map (·.1.toList) := List.mem_map_of_mem member
  exact names _ own (of_decide_eq_true same ▸ peer)

theorem isPeerName {name : Text} (peer : name ∈ peerCommands) : IsPeerName name := by
  have member := peer
  have outside (run : Runner) := builtin?_peer run peer
  simp only [peerCommands, List.mem_cons, List.not_mem_nil, or_false] at peer
  rcases peer with rfl | rfl <;>
    exact
      { member
        literal := ⟨by decide, by simp⟩
        noCommand := by decide
        noType := by decide
        noExec := by decide
        noOption := by decide
        declares := by decide
        special := by decide
        outside
        noPath := by decide }

section

variable {name : Text} (peer : IsPeerName name)

include peer

theorem find_peer (path : shell.value? "PATH" = some usualSearchPath) : shell.find false name = .peer name := by
  have found : shell.findIn peerDirectory name = .peer name := by
    simp [ShellState.findIn, peer.member]
  have directories : shell.searchPath false = peerDirectory :: systemDirectories := by
    simp [ShellState.searchPath, path, segments_usualSearchPath]
  simp only [ShellState.find, peer.noPath, peer.literal.nonempty, if_false, directories, ShellState.findAmong, found]

theorem order_peer (undefined : shell.functions = []) (arguments : List Text) :
    shell.order (name :: arguments) = ⟨name :: arguments, false, false⟩ := by
  have other := peer.noCommand
  simp only [ShellState.order, undefined, List.lookup_nil, Option.isSome_none, Bool.false_eq_true, if_false,
    List.length_cons, orderFrom, other]

variable (run : Runner) {arguments : List Text} (poised : IsPoised shell (name :: arguments) calls)

include poised

theorem runCalled_connects : Connects (runCalled run false false (name :: arguments)) shell calls := by
  refine connects_get.mpr ?_
  rw [find_peer peer poised.path, List.length_cons, show arguments.length + 1 + 8 = arguments.length + 8 + 1 from rfl,
    runWhatIsFound]
  refine connects_get.mpr (connects_set.mpr ?_)
  simp only [poised.fits, Bool.not_true, Bool.false_eq_true, if_false]
  refine connects_get.mpr (connects_modify.mpr (Connects.bind (connectPeer_connects ?_ rfl)))
  exact poised.of_front rfl

theorem runOrder_connects : Connects (runOrder run ⟨name :: arguments, false, false⟩) shell calls := by
  refine connects_get.mpr ?_
  simp only [poised.undefined, List.lookup_nil, peer.outside, peer.noCommand, peer.noType, if_false,
    Bool.false_eq_true]
  exact runCalled_connects peer run poised

end

/-! ### A simple command that connects -/

/-- Without redirections the streams of a command stay as they are. -/
theorem Connects.withRedirections {action : Run Unit} (collector : Collector) (otherwise : Run Unit)
    (connects : Connects action shell calls) :
    Connects (withRedirections collector [] otherwise action) shell calls := by
  refine connects_get.mpr (connects_pure.mpr (Connects.caught connects fun later told => ?_))
  exact connects_modify.mpr (connects_throw told)

theorem trace_quiet (quiet : shell.options.has 'x' = false) (collector : Collector) (before : ShellState)
    (assigned : List (Text × Text)) (fields : List Text) :
    (trace collector before assigned fields).run shell = .ok ⟨⟩ shell := by
  unfold trace
  show EStateM.run (if shell.options.has 'x' = true then _ else _) shell = _
  rw [quiet]
  rfl

section

variable {name : Text} (peer : IsPeerName name) (run : Runner) {arguments : List Text}
  (literal : ∀ argument ∈ arguments, IsLiteral argument)

include peer literal

theorem runSimple_connects (poised : IsPoised shell (name :: arguments) calls) :
    Connects (runSimple run [] ((name :: arguments).map Word.bare) []) shell calls := by
  have filled := fillCommand_bare (collector run) (List.forall_mem_cons.mpr ⟨peer.literal, literal⟩) peer.noCommand
    peer.noOption peer.declares
  refine connects_modify.mpr (Connects.behind (congrFun filled _) (connects_get.mpr ?_))
  obtain ⟨own, same, poised⟩ : ∃ own : ShellState, own = { shell with substituted := none } ∧
    IsPoised own (name :: arguments) calls := ⟨_, rfl, poised.of_front rfl⟩
  rw [← same]
  simp only [order_peer peer poised.undefined, peer.noExec, peer.special, if_false, Bool.false_and, Bool.false_eq_true]
  refine connects_modify.mpr (Connects.takingBack (Connects.withRedirections _ _ ?_) fun _ => rfl)
  have assigned : assignAll (collector run) true [] = pure [] := rfl
  rw [assigned]
  refine connects_pure.mpr (Connects.behind (trace_quiet ?_ _ _ _ _) (runOrder_connects peer run ?_))
  · exact poised.quiet
  · exact poised.of_front rfl

/-- A command in a shell that may still run some connects. -/
theorem run_connects (poised : IsPoised shell (name :: arguments) calls) {levels : Nat} (line : Unit → Nat)
    (within : shell.budget ≠ 0) (runs : shell.options.runsNothing = false) :
    Connects (Shell.run (levels + 1) (commandOf line (name :: arguments))) shell calls := by
  refine connects_get.mpr ?_
  simp only [within, if_false, runs, Bool.false_eq_true]
  refine connects_set.mpr ?_
  refine connects_modify.mpr (Connects.bind ?_)
  exact runSimple_connects peer _ literal (poised.of_front rfl)

end

/-! ### A line that connects -/

/-- A word that a shell takes as it is: its characters mean themselves, and none of them belongs to a pattern or stands
for a home directory. -/
def IsPlainWord (word : Text) : Prop :=
  ∀ c ∈ word, isOrdinary c = true ∧ c ∉ ['~', '*', '?', '[']

theorem isPlain_of_namePart {c : Char} (part : isNamePart c = true) :
    isOrdinary c = true ∧ c ∉ ['~', '*', '?', '['] := by
  refine ⟨isOrdinary_of_namePart part, fun sign => ?_⟩
  simp only [List.mem_cons, List.not_mem_nil, or_false] at sign
  rcases sign with rfl | rfl | rfl | rfl <;> cases part

/-- A spelled word is as plain as the word itself. -/
theorem IsPlainWord.spelled {word : Text} (plain : IsPlainWord word) : IsPlainWord (spelled word) := by
  intro c member
  rcases mem_spelled member with held | outside
  · exact plain c held
  · exact isPlain_of_namePart (by simp [isNamePart, outside])

/-- A line of plain words whose first one is a command of the peer connects, with its words that are not empty. -/
theorem runLines_connects {name : Text} {others : List Text} (peer : IsPeerName name) (named : IsCommandName name)
    (plain : ∀ word ∈ others, IsPlainWord word)
    (poised : IsPoised shell (name :: others.filter (· ≠ [])) calls) {levels : Nat} (within : shell.budget ≠ 0)
    (runs : shell.options.runsNothing = false) (unaliased : shell.aliases = []) :
    Connects (runLines (Shell.run (levels + 1)) (name ++ spaced others)) shell calls := by
  have ordinary : ∀ word ∈ others, IsOrdinary word := fun word member c inside => (plain word member c inside).1
  have literal : ∀ word ∈ others.filter (· ≠ []), IsLiteral word := by
    intro word member
    obtain ⟨held, nonempty⟩ := List.mem_filter.mp member
    exact ⟨of_decide_eq_true nonempty, fun c inside => (plain word held c inside).2⟩
  refine connects_get.mpr (Connects.takingBack (connects_get.mpr ?_) fun _ => rfl)
  rw [unaliased, readLine_line _ named ordinary]
  exact run_connects peer literal poised _ within runs

theorem Connects.endingWith (run : Runner) {action : Run Unit} (connects : Connects action shell calls) :
    Connects (endingWith run action) shell calls :=
  connects.caught fun _ told => connects_get.mpr (connects_throw told)

/-! ### The first shell -/

theorem bind_parameter?_of_ne {name other : Text} (different : name ≠ other) (parameter : Parameter) :
    (shell.bind other (some parameter)).parameter? name = shell.parameter? name := by
  have beq : (name == other) = false := beq_eq_false_iff_ne.mpr different
  simp only [ShellState.bind, ShellState.parameter?]
  cases shell.parameters.lookup other with
  | none => simp [List.lookup_append, List.lookup_cons, beq]
  | some old =>
      simp only
      induction shell.parameters with
      | nil => rfl
      | cons entry entries ih =>
          obtain ⟨key, held⟩ := entry
          by_cases same : key = other
          · simp [List.lookup_cons, same, beq, ih]
          · simp [List.lookup_cons, same, ih]

theorem initial_path (tree : Tree) (place : Place) (parameters : List (Text × Text)) (limit : Milliseconds) :
    (ShellState.initial tree place parameters limit).value? "PATH" = some usualSearchPath := by
  rw [ShellState.value?, ShellState.initial, bind_parameter?_of_ne (by decide), ShellState.inDirectory,
    bind_parameter?_of_ne (by decide)]
  rfl

theorem initial_poised (tree : Tree) (place : Place) (parameters : List (Text × Text)) (limit : Milliseconds)
    {words : List Text} (fits : (ShellState.initial tree place parameters limit).canHandDown words = true) :
    IsPoised (ShellState.initial tree place parameters limit) words [⟨words, Tree.Place.path place⟩] where
  input := ⟨0, .pipe, rfl, rfl⟩
  output := rfl
  clear := rfl
  undefined := rfl
  path := initial_path tree place parameters limit
  quiet := rfl
  fits := fits
  told := rfl

/-! ### A script of one line -/

/-- The shell that runs a script for a caller in a directory, before it has done anything. -/
def firstShell (tree : Tree) (place : Place) (parameters : List (Text × Text)) (limit : Span) : ShellState :=
  ShellState.initial (tree.renamed spelled) (place.map spelled)
    (parameters.map fun (name, value) => (spelled name, spelled value)) (ticks limit)

/-- A script that connects does nothing but the calls that it has made until then. -/
theorem perform_of_connects {tree : Tree} {place : Place} {parameters : List (Text × Text)} {limit : Span}
    {text : Text}
    (connects : Connects (runLines (run levelLimit) (spelled text)) (firstShell tree place parameters limit) calls) :
    perform tree place parameters limit text = ⟨calls.map Call.told, .connected⟩ := by
  obtain ⟨later, ran, told⟩ := (connects.endingWith (run levelLimit)).attempt
  rw [firstShell] at ran
  simp only [perform, ran, performanceOf, told]
  rfl

/-- A script that is a line of plain words, of which the first is a command of the peer, calls the peer with just these
words in its directory, and the stream leads there from then on. Empty words are none. -/
theorem perform_peer {tree : Tree} {place : Place} {parameters : List (Text × Text)} {limit : Span} {name : Text}
    {others : List Text} (peer : name ∈ peerCommands) (plain : ∀ word ∈ others, IsPlainWord word)
    (fits : (firstShell tree place parameters limit).canHandDown
      ((name :: others.filter (· ≠ [])).map spelled) = true) :
    perform tree place parameters limit (name ++ spaced others) =
      ⟨[⟨name :: others.filter (· ≠ []), Tree.Place.path place⟩], .connected⟩ := by
  have own : Shell.spelled name = name ∧ IsCommandName name := by
    simp only [peerCommands, List.mem_cons, List.not_mem_nil, or_false] at peer
    rcases peer with rfl | rfl <;> exact ⟨by decide, ⟨by decide, by decide, by decide, by decide⟩⟩
  have kept : (others.map Shell.spelled).filter (· ≠ []) = (others.filter (· ≠ [])).map Shell.spelled := by
    simp [List.filter_map, Function.comp_def, spelled_eq_nil]
  have line : Shell.spelled (name ++ spaced others) = name ++ spaced (others.map Shell.spelled) := by
    rw [spelled_append, spelled_spaced, own.1]
  have words : ∀ word ∈ others.map Shell.spelled, IsPlainWord word := by
    intro word member
    obtain ⟨written, held, rfl⟩ := List.mem_map.mp member
    exact (plain written held).spelled
  rw [List.map_cons, own.1, ← kept] at fits
  have connects : Connects (runLines (run levelLimit) (Shell.spelled (name ++ spaced others)))
      (firstShell tree place parameters limit) _ :=
    line ▸ runLines_connects (isPeerName peer) own.2 words (initial_poised _ _ _ _ fits)
      (show commandLimit ≠ 0 by decide) rfl rfl
  have told : ((name :: others.filter (· ≠ [])).map Shell.spelled).map unspelled = name :: others.filter (· ≠ []) := by
    rw [List.map_map, show unspelled ∘ Shell.spelled = id from funext unspelled_spelled, List.map_id]
  rw [List.map_cons, own.1, ← kept] at told
  rw [perform_of_connects connects, List.map_singleton, Call.told, told, ← spelled_path, unspelled_spelled]

example : perform ⟨[]⟩ [['h']] [] .zero "ssh  -p é".toList =
    ⟨[⟨["ssh".toList, "-p".toList, "é".toList], ⟨"/h".toList⟩⟩], .connected⟩ := by
  decide +kernel

end SecureShell.Rehearsal.Shell

namespace SecureShell.Rehearsal

open FileSystem (Tree Place)
open Shell JumpHost

/-! ### A jump host on the stage -/

/-- The proxy command of a jump host calls the peer with the words that the directive stands for, those that are not
empty, and the stream leads there. -/
theorem startProxy_jump {scene : Scene} {jump : JumpHost} {user hostname : Text} {port : Port} {command : Text}
    {directory : Path} {place : Place} (usable : jump.IsUsable) (login : IsNameText user)
    (name : IsNameText hostname) (written : (Proxy.jump jump.written).commandFor user port hostname = .ok command)
    (entered : scene.tree.enter scene.working directory = .ok place)
    (short : (Text.utf8 command).length < argumentLimit) (limit : Span)
    (fits : (firstShell scene.tree place scene.parameters limit).canHandDown
      (((jump.words user port hostname).filter (· ≠ [])).map spelled) = true) (stage : Stage) :
    startProxy scene command directory limit stage =
      (.ok proxyProcess, { stage with
        log := stage.log ++
          [.proxied ((jump.words user port hostname).filter (· ≠ [])) (Tree.Place.path place)]
        line := .peer }) := by
  obtain rfl : "ssh".toList ++ spaced (jump.pieces user port hostname) = command :=
    Except.ok.inj ((commandFor_written usable name).symm.trans written)
  have parts : ∀ piece ∈ jump.pieces user port hostname, ∀ c ∈ piece, c = ':' ∨ c = '+' ∨ isNamePart c = true :=
    part_of_pieces usable login name
  have plain : ∀ piece ∈ jump.pieces user port hostname, IsPlainWord piece := fun piece held c inside => by
    rcases parts piece held c inside with rfl | rfl | part
    · exact ⟨rfl, by decide⟩
    · exact ⟨rfl, by decide⟩
    · exact isPlain_of_namePart part
  have printable : '\x00' ∉ "ssh".toList ++ spaced (jump.pieces user port hostname) := by
    intro member
    rcases List.mem_append.mp member with inName | inside
    · exact absurd inName (by decide)
    · obtain ⟨piece, held, inside⟩ := List.mem_flatMap.mp inside
      rcases List.mem_cons.mp inside with space | inside
      · cases space
      · rcases parts piece held _ inside with colon | plus | part
        · cases colon
        · cases plus
        · cases part
  rw [← filter_pieces] at fits ⊢
  have performed := perform_peer (by decide) plain fits
  simp only [startProxy, printable, if_false, entered, Nat.not_le.mpr short, performed, afterScript, lineAfter,
    List.map_cons, List.map_nil]

end SecureShell.Rehearsal
