/-
Module: SecureShell.Proofs.JumpCommand
Purpose: The command that is put together for a jump host. Character by character it is a line in which the user,
  the name, the port and the jump host stand at their places, unless the port of the jump host is no number. Where the
  names in it are made of letters, digits, dots, underscores, hyphens and at signs, the shell finds in it the words
  that the directive stands for, each option with its own argument; but an empty user leaves no word behind, and then
  the option for the user takes the next option for its argument.
Main exports: Verbs.replace_append, Verbs.expand_command, JumpHost, JumpHost.Names, JumpHost.line,
  JumpHost.commandFor_line, Proxy.commandFor_jump, JumpHost.words, JumpHost.commandFor_written,
  Configuration.proxyCommand, Configuration.proxyCommand_of_destination, Configuration.proxyCommand_words
-/
import SecureShell.Config.Resolution
import SecureShell.Proofs.EveryHost
import SecureShell.Proofs.PortNumbers
import SecureShell.Proofs.ShellWords
import SecureShell.Proofs.VerbValues
import SecureShell.Proxy

namespace SecureShell

/-! ### Putting in the values of verbs -/

namespace Verbs

theorem replace_cons_of_ne (verb : Char) (value : Text) {c : Char} (other : c ≠ '%') (rest : Text) :
    replace verb value (c :: rest) = c :: replace verb value rest :=
  replace_plain value fun percent => absurd percent other

/-- A text without percent signs stays as it is. -/
theorem replace_append (verb : Char) (value : Text) {front : Text} (free : '%' ∉ front) (rest : Text) :
    replace verb value (front ++ rest) = front ++ replace verb value rest :=
  replace_append_of_uses value (uses_append_of_not_mem free rest)

theorem replace_of_not_mem (verb : Char) (value : Text) {text : Text} (free : '%' ∉ text) :
    replace verb value text = text := by
  have whole := replace_append verb value free []
  rwa [List.append_nil, replace, List.append_nil] at whole

theorem replace_other {verb other : Char} (different : other ≠ verb) (shown : other ≠ '%') (value rest : Text) :
    replace verb value ('%' :: other :: rest) = '%' :: other :: replace verb value rest := by
  have first : (other :: rest).head? ≠ some verb := fun same => different (Option.some.inj same)
  rw [replace_plain value fun _ => first, replace_cons_of_ne verb value shown]

/-- A command with one place for the user, one for the name and one for the port is filled in at these places and
nowhere else. The user is put in last, so that percent signs in it stay as they are. -/
theorem expand_command {before between after port hostname : Text} (user : Text) (freeBefore : '%' ∉ before)
    (freeBetween : '%' ∉ between) (freeAfter : '%' ∉ after) (freePort : '%' ∉ port)
    (freeName : '%' ∉ hostname) :
    expand (before ++ '%' :: 'r' :: (between ++ '%' :: 'h' :: ':' :: '%' :: 'p' :: after)) user port hostname =
      before ++ user ++ between ++ hostname ++ ':' :: port ++ after := by
  have named : replace 'h' hostname
      (before ++ '%' :: 'r' :: (between ++ '%' :: 'h' :: ':' :: '%' :: 'p' :: after)) =
        before ++ '%' :: 'r' :: (between ++ hostname ++ ':' :: '%' :: 'p' :: after) := by
    rw [replace_append _ _ freeBefore, replace_other (by decide) (by decide), replace_append _ _ freeBetween,
      replace_verb, replace_cons_of_ne _ _ (by decide), replace_other (by decide) (by decide),
      replace_of_not_mem _ _ freeAfter, List.append_assoc]
  have numbered : replace 'p' port (before ++ '%' :: 'r' :: (between ++ hostname ++ ':' :: '%' :: 'p' :: after)) =
      before ++ '%' :: 'r' :: (between ++ hostname ++ ':' :: (port ++ after)) := by
    rw [replace_append _ _ freeBefore, replace_other (by decide) (by decide), List.append_assoc,
      replace_append _ _ freeBetween, replace_append _ _ freeName, replace_cons_of_ne _ _ (by decide),
      replace_verb, replace_of_not_mem _ _ freeAfter, List.append_assoc]
  have free : '%' ∉ between ++ hostname ++ ':' :: (port ++ after) := by
    simp [freeBetween, freeName, freePort, freeAfter]
  rw [expand, named, numbered, replace_append _ _ freeBefore, replace_verb, replace_of_not_mem _ _ free]
  simp

end Verbs

/-! ### Characters of names -/

/-- Whether a character may stand in the name of a user or of a host: a letter, a digit, a dot, an underscore, a
hyphen or an at sign. Outside of ASCII every character counts as a letter here. -/
def isNamePart (c : Char) : Bool :=
  c.isAlphanum || c ∈ ['.', '_', '-', '@'] || 0x80 ≤ c.toNat

/-- A name of a user or of a host, which may be empty. -/
def IsNameText (text : Text) : Prop :=
  ∀ c ∈ text, isNamePart c = true

instance (text : Text) : Decidable (IsNameText text) :=
  decidable_of_iff (text.all isNamePart = true) List.all_eq_true

theorem ne_of_namePart {c d : Char} (part : isNamePart c = true) (other : isNamePart d = false) : c ≠ d := by
  rintro rfl
  rw [part] at other
  cases other

open Rehearsal.Shell in
theorem isOrdinary_of_namePart {c : Char} (part : isNamePart c = true) : isOrdinary c = true := by
  have different : ∀ d, isNamePart d = false → c ≠ d := fun d => ne_of_namePart part
  simp [isOrdinary, endsWord, isActiveSign, different ' ' rfl, different '\t' rfl, different '\n' rfl,
    different ';' rfl, different '&' rfl, different '|' rfl, different '<' rfl, different '>' rfl,
    different '(' rfl, different ')' rfl, different '\'' rfl, different '"' rfl, different '\\' rfl,
    different '$' rfl, different '\u0060' rfl, different '#' rfl]

theorem IsNameText.not_mem {text : Text} (name : IsNameText text) {d : Char} (other : isNamePart d = false) :
    d ∉ text :=
  fun member => ne_of_namePart (name d member) other rfl

theorem isNamePart_of_isDigit {c : Char} (digit : c.isDigit = true) : isNamePart c = true := by
  simp [isNamePart, Char.isAlphanum, digit]

theorem Port.isNameText_text (port : Port) : IsNameText (Port.text port) := fun _ member =>
  isNamePart_of_isDigit (Nat.isDigit_of_mem_toDigits (by decide) (by decide) member)

/-- A port that can be read is written with digits, and perhaps a plus sign in front. -/
theorem Port.mem_of_read {written : Text} (numeric : (Port.read? written).isSome = true) :
    written ≠ [] ∧ ∀ c ∈ written, c = '+' ∨ isNamePart c = true := by
  simp only [Port.read?] at numeric
  split at numeric
  · next digits =>
    obtain ⟨nonempty, all⟩ := digits
    cases written with
    | nil => exact absurd rfl nonempty
    | cons first rest =>
        have digit : ∀ c ∈ Text.afterOptional '+' (first :: rest), isNamePart c = true := fun c member =>
          isNamePart_of_isDigit (List.all_eq_true.mp all c member)
        refine ⟨List.cons_ne_nil _ _, fun c member => ?_⟩
        by_cases plus : first = '+'
        · rcases List.mem_cons.mp member with same | later
          · exact .inl (same.trans plus)
          · exact .inr (digit c (by simpa [Text.afterOptional, plus] using later))
        · exact .inr (digit c (by simpa [Text.afterOptional, plus] using member))
  · cases numeric

/-! ### Jump hosts -/

/-- A jump host as a directive names it: a destination and perhaps a port. -/
structure JumpHost where
  destination : Text
  port : Option Text

namespace JumpHost

/-- The value of the directive. -/
def written (jump : JumpHost) : Text :=
  jump.destination ++ jump.port.elim [] (':' :: ·)

/-- The port that is meant, as it is written. -/
def portText (jump : JumpHost) : Text :=
  jump.port.getD "22".toList

/-- A jump host that a directive can name: its destination is a name, and its port is a number. -/
structure IsUsable (jump : JumpHost) : Prop where
  nonempty : jump.destination ≠ []
  name : IsNameText jump.destination
  numeric : ∀ given ∈ jump.port, (Port.read? given).isSome = true

/-- The words of the command that a jump host stands for: the options for the user and for the stream, each with
its argument, and then the jump host with its port. -/
def words (jump : JumpHost) (user : Text) (port : Port) (hostname : Text) : List Text :=
  ["ssh".toList, "-l".toList, user, "-W".toList, hostname ++ ':' :: port.text, jump.destination, "-p".toList,
    jump.portText]

/-- The texts between the spaces of the command behind its name. There are two spaces in front of the jump host. -/
def pieces (jump : JumpHost) (user : Text) (port : Port) (hostname : Text) : List Text :=
  ["-l".toList, user, "-W".toList, hostname ++ ':' :: port.text, [], jump.destination, "-p".toList, jump.portText]

theorem splitAtColon_append {front : Text} (free : ':' ∉ front) (rest : Option Text) :
    Proxy.splitAtColon (front ++ rest.elim [] (':' :: ·)) = (front, rest) := by
  induction front with
  | nil => cases rest <;> rfl
  | cons c front ih =>
      obtain ⟨other, free⟩ := List.ne_and_not_mem_of_not_mem_cons free
      rw [List.cons_append, Proxy.splitAtColon, if_neg other.symm, ih free]

theorem mem_portText {jump : JumpHost} (numeric : ∀ given ∈ jump.port, (Port.read? given).isSome = true) :
    jump.portText ≠ [] ∧ ∀ c ∈ jump.portText, c = '+' ∨ isNamePart c = true := by
  unfold portText
  cases given : jump.port with
  | none => exact Port.mem_of_read (by decide)
  | some port => exact Port.mem_of_read (numeric port given)

/-- A directive names a jump host: it is cut at its first colon, if it has one. -/
structure Names (jump : JumpHost) (directive : Text) : Prop where
  written : jump.written = directive
  plain : ':' ∉ jump.destination

/-- Every directive names a jump host. -/
theorem exists_names (directive : Text) : ∃ jump : JumpHost, jump.Names directive := by
  induction directive with
  | nil => exact ⟨⟨[], none⟩, rfl, List.not_mem_nil⟩
  | cons c rest ih =>
      by_cases colon : c = ':'
      · exact ⟨⟨[], some rest⟩, by rw [colon]; rfl, List.not_mem_nil⟩
      · obtain ⟨jump, written, plain⟩ := ih
        refine ⟨⟨c :: jump.destination, jump.port⟩, congrArg (c :: ·) written, ?_⟩
        intro member
        rcases List.mem_cons.mp member with same | later
        · exact colon same.symm
        · exact plain later

/-- The jump host of a directive is found by looking for the colon. -/
theorem Names.splitAtColon {jump : JumpHost} {directive : Text} (names : jump.Names directive) :
    Proxy.splitAtColon directive = (jump.destination, jump.port) := by
  rw [← names.written]
  exact splitAtColon_append names.plain jump.port

/-- The line that is put together for a jump host with a numeric port, or with none, its verbs still in place. -/
theorem jumpCommand_written {jump : JumpHost} (plain : ':' ∉ jump.destination)
    (numeric : ∀ given ∈ jump.port, (Port.read? given).isSome = true) :
    Proxy.jumpCommand jump.written = .ok ("ssh -l ".toList ++ '%' :: 'r' :: (" -W ".toList
      ++ '%' :: 'h' :: ':' :: '%' :: 'p' :: ("  ".toList ++ jump.destination ++ " -p ".toList ++ jump.portText))) := by
  have parts := splitAtColon_append plain jump.port
  simp only [Proxy.jumpCommand, written, parts, portText]
  cases given : jump.port with
  | none => rfl
  | some port =>
      simp only [numeric port given, if_true, Option.getD_some]
      rfl

/-- A port that is no number is refused. -/
theorem jumpCommand_refused {jump : JumpHost} (plain : ':' ∉ jump.destination) {given : Text}
    (named : jump.port = some given) (other : (Port.read? given).isSome = false) :
    Proxy.jumpCommand jump.written = .error (.invalidJump jump.written) := by
  have parts := splitAtColon_append plain jump.port
  simp only [Proxy.jumpCommand, written, parts]
  simp [named, other]

/-- The line of the command, with everything in its place. -/
def line (jump : JumpHost) (user : Text) (port : Port) (hostname : Text) : Text :=
  "ssh -l ".toList ++ user ++ " -W ".toList ++ hostname ++ ':' :: port.text ++ ("  ".toList
    ++ jump.destination ++ " -p ".toList ++ jump.portText)

/-- The values are put in at their places and nowhere else, as long as neither the jump host nor the name of the host
has a percent sign. The user, which is put in last, may be any text. -/
theorem commandFor_line {jump : JumpHost} {hostname : Text} (plain : ':' ∉ jump.destination)
    (numeric : ∀ given ∈ jump.port, (Port.read? given).isSome = true) (freeDestination : '%' ∉ jump.destination)
    (freeName : '%' ∉ hostname) (user : Text) (port : Port) :
    (Proxy.jump jump.written).commandFor user port hostname = .ok (jump.line user port hostname) := by
  have freePort : '%' ∉ jump.portText := by
    intro member
    rcases (mem_portText numeric).2 _ member with plus | part
    · cases plus
    · cases part
  -- the only verbs are those of the line itself, and each is put in where it stands
  have behind : '%' ∉ "  ".toList ++ jump.destination ++ " -p ".toList ++ jump.portText := by
    simp [freeDestination, freePort]
  have inFront : '%' ∉ "ssh -l ".toList := by decide
  have between : '%' ∉ " -W ".toList := by decide
  have filled := Verbs.expand_command user inFront between behind (port.isNameText_text.not_mem rfl) freeName
  rw [Proxy.commandFor, jumpCommand_written plain numeric]
  exact congrArg Except.ok filled

end JumpHost

/-- For every directive the command of its jump host, which is cut off at the first colon, is refused exactly if there
is a port that is no numeral in sixteen bits. Otherwise, if neither the directive nor the name of the host has a
percent sign, it is the line of the jump host, whatever the user is. -/
theorem Proxy.commandFor_jump (directive user hostname : Text) (port : Port) :
    ∃ jump : JumpHost, jump.Names directive ∧
      (∀ failure, (Proxy.jump directive).commandFor user port hostname = .error failure ↔
        failure = .invalidJump directive ∧ ∃ given, jump.port = some given ∧ ¬ Port.IsNumeral given) ∧
      ((∀ given, jump.port = some given → Port.IsNumeral given) → '%' ∉ directive → '%' ∉ hostname →
        (Proxy.jump directive).commandFor user port hostname = .ok (jump.line user port hostname)) := by
  obtain ⟨jump, rfl, plain⟩ := JumpHost.exists_names directive
  refine ⟨jump, ⟨rfl, plain⟩, fun failure => ?_, fun numeral freeDirective freeName => ?_⟩
  · by_cases refused : ∃ given, jump.port = some given ∧ ¬ Port.IsNumeral given
    · obtain ⟨given, named, other⟩ := refused
      have unread : (Port.read? given).isSome = false := by
        rw [Bool.eq_false_iff, Ne, Port.read?_isSome_iff]
        exact other
      rw [Proxy.commandFor, JumpHost.jumpCommand_refused plain named unread]
      constructor
      · rintro ⟨⟩
        exact ⟨rfl, given, named, other⟩
      · rintro ⟨rfl, -⟩
        rfl
    · have numeric : ∀ given ∈ jump.port, (Port.read? given).isSome = true := by
        intro given named
        rw [Port.read?_isSome_iff]
        exact not_not.mp fun other => refused ⟨given, named, other⟩
      rw [Proxy.commandFor, JumpHost.jumpCommand_written plain numeric]
      constructor
      · intro failed
        cases failed
      · rintro ⟨-, other⟩
        exact absurd other refused
  · have freeDestination : '%' ∉ jump.destination := fun member => freeDirective (List.mem_append_left _ member)
    exact JumpHost.commandFor_line plain (fun given named => Port.read?_isSome_iff.mpr (numeral given named))
      freeDestination freeName user port

/-- A sign and leading zeros belong to a port and are kept, and the verbs in the name of a user are no verbs. A port
with one more than sixteen bits is refused. -/
theorem Proxy.commandFor_jump_signed :
    (Proxy.jump "bob@bastion:+02222".toList).commandFor "%h%r".toList 2200 "h".toList =
        .ok "ssh -l %h%r -W h:2200  bob@bastion -p +02222".toList ∧
      (Proxy.jump "bastion:65536".toList).commandFor [] 22 "h".toList =
        .error (.invalidJump "bastion:65536".toList) := by
  constructor
  · obtain ⟨jump, names, -, line⟩ :=
      Proxy.commandFor_jump "bob@bastion:+02222".toList "%h%r".toList "h".toList 2200
    have found : jump = ⟨"bob@bastion".toList, some "+02222".toList⟩ := by
      have parts := names.splitAtColon
      cases jump
      cases parts
      rfl
    subst found
    refine line ?_ (by decide) (by decide)
    rintro given ⟨⟩
    exact Port.read?_isSome_iff.mp (by decide)
  · obtain ⟨jump, names, refused, -⟩ := Proxy.commandFor_jump "bastion:65536".toList [] "h".toList 22
    have port : jump.port = some "65536".toList := (congrArg Prod.snd names.splitAtColon).symm
    refine (refused _).mpr ⟨rfl, _, port, ?_⟩
    rw [← Port.read?_isSome_iff]
    decide

namespace JumpHost

open Rehearsal.Shell

section

variable {jump : JumpHost} {user hostname : Text} {port : Port}

/-- The line is that of the pieces. -/
theorem line_pieces : jump.line user port hostname = "ssh".toList ++ spaced (jump.pieces user port hostname) := by
  delta line
  simp [spaced, pieces]

/-- The command for a usable jump host and a name is the line of the pieces. -/
theorem commandFor_written (usable : jump.IsUsable) (name : IsNameText hostname) :
    (Proxy.jump jump.written).commandFor user port hostname =
      .ok ("ssh".toList ++ spaced (jump.pieces user port hostname)) := by
  have free : '%' ∉ jump.destination := usable.name.not_mem rfl
  rw [commandFor_line (usable.name.not_mem rfl) usable.numeric free (name.not_mem rfl), line_pieces]

/-- The pieces are made of the characters of names, but for the colon and the sign of a port. -/
theorem part_of_pieces (usable : jump.IsUsable) (login : IsNameText user) (name : IsNameText hostname) :
    ∀ piece ∈ jump.pieces user port hostname, ∀ c ∈ piece, c = ':' ∨ c = '+' ∨ isNamePart c = true := by
  have ofName {text : Text} (name : IsNameText text) : ∀ c ∈ text, c = ':' ∨ c = '+' ∨ isNamePart c = true :=
    fun c member => .inr (.inr (name c member))
  have ofStream : ∀ c ∈ hostname ++ ':' :: port.text, c = ':' ∨ c = '+' ∨ isNamePart c = true := by
    intro c member
    rcases List.mem_append.mp member with inside | inside
    · exact ofName name c inside
    · rcases List.mem_cons.mp inside with colon | digit
      · exact .inl colon
      · exact ofName port.isNameText_text c digit
  simp only [pieces, List.forall_mem_cons]
  exact ⟨ofName (by decide), ofName login, ofName (by decide), ofStream, ofName (by decide), ofName usable.name,
    ofName (by decide), fun c member => .inr ((mem_portText usable.numeric).2 c member), List.forall_mem_nil _⟩

theorem ordinary_pieces (usable : jump.IsUsable) (login : IsNameText user) (name : IsNameText hostname) :
    ∀ piece ∈ jump.pieces user port hostname, IsOrdinary piece := by
  intro piece held c member
  rcases part_of_pieces usable login name piece held c member with rfl | rfl | part
  · rfl
  · rfl
  · exact isOrdinary_of_namePart part

theorem isCommandName_ssh : IsCommandName "ssh".toList where
  nonempty := by decide
  ordinary := by decide
  unassigned := by decide
  unreserved := by decide

/-- The pieces that are not empty are the words of the command that are not empty. -/
theorem filter_pieces :
    "ssh".toList :: (jump.pieces user port hostname).filter (· ≠ []) =
      (jump.words user port hostname).filter (· ≠ []) := by
  simp [pieces, words, List.filter_cons]

/-- The command is split into the words that it stands for, without those that are empty. -/
theorem splitAtSpaces_command (usable : jump.IsUsable) (login : IsNameText user) (name : IsNameText hostname) :
    splitAtSpaces ("ssh".toList ++ spaced (jump.pieces user port hostname)) =
      (jump.words user port hostname).filter (· ≠ []) := by
  rw [splitAtSpaces_line isCommandName_ssh.ordinary (ordinary_pieces usable login name), ← filter_pieces]
  exact List.filter_cons_of_pos (by decide)

/-- Of the words that the command stands for only the user can be empty. -/
theorem filter_words (usable : jump.IsUsable) (given : user ≠ []) :
    (jump.words user port hostname).filter (· ≠ []) = jump.words user port hostname := by
  have inPort := (mem_portText usable.numeric).1
  simp [words, given, usable.nonempty, inPort]

end

end JumpHost

/-! ### The command of a configuration -/

namespace Configuration

/-- The command by which a configuration reaches a host, if it names a proxy for it. -/
def proxyCommand (configuration : Configuration) (host : Text) : Option (Except ConfigFailure Text) :=
  (configuration.proxy host).1.map fun proxy => do
    proxy.commandFor (configuration.user host) (← configuration.port host) (configuration.hostname host)

/-- It is the command that a connection to the host is opened with. -/
theorem proxyCommand_of_destination {configuration : Configuration} {files : FileSystem} {host : Text}
    {destination : Destination} (resolved : configuration.destination files host = .ok destination) :
    configuration.proxyCommand host = destination.proxy.map fun proxy =>
      proxy.commandFor destination.user destination.port destination.hostname := by
  obtain ⟨port, keys, settled, -, rfl⟩ := destination_eq_ok_iff.mp resolved
  simp only [proxyCommand, settled]
  rfl

open Rehearsal.Shell JumpHost

/-- The command for a jump host is split by a shell into the words that the directive stands for, each option with
its own argument, if there is a user to log in as. Without one, the word for the user is missing. -/
theorem proxyCommand_words {configuration : Configuration} {host : Text} {jump : JumpHost} {port : Port}
    (directive : (configuration.proxy host).1 = some (.jump jump.written)) (usable : jump.IsUsable)
    (settled : configuration.port host = .ok port) (login : IsNameText (configuration.user host))
    (name : IsNameText (configuration.hostname host)) :
    ∃ command, configuration.proxyCommand host = some (.ok command) ∧
      shellWords command = some (splitAtSpaces command) ∧
      splitAtSpaces command =
        (jump.words (configuration.user host) port (configuration.hostname host)).filter (· ≠ []) ∧
      (configuration.user host ≠ [] →
        splitAtSpaces command = jump.words (configuration.user host) port (configuration.hostname host)) := by
  refine ⟨_, ?_, shellWords_line isCommandName_ssh (ordinary_pieces usable login name),
    splitAtSpaces_command usable login name, fun given => ?_⟩
  · rw [proxyCommand, directive, settled]
    exact congrArg some (commandFor_written usable name)
  · rw [splitAtSpaces_command usable login name, filter_words usable given]

end Configuration

/-! ### A jump host with a user and without one -/

/-- A file system whose only file is a configuration with the line `ProxyJump bastion`. -/
def jumpFiles : FileSystem :=
  .holding ⟨"/c".toList⟩ (.ok [0x50, 0x72, 0x6F, 0x78, 0x79, 0x4A, 0x75, 0x6D, 0x70, 0x20, 0x62, 0x61, 0x73, 0x74,
    0x69, 0x6F, 0x6E])

/-- The preferences of a caller who names that file and perhaps a user. -/
def jumpPreferences (user : Option Text) : List Preference :=
  settledAt "/h".toList "/w".toList (.appendFile "/c".toList :: user.toList.map .user)

/-- The jump host that the file names. -/
def bastion : JumpHost := ⟨"bastion".toList, none⟩

theorem bastion_usable : bastion.IsUsable where
  nonempty := by decide
  name := by decide
  numeric := fun _ member => by cases member

/-- The file says nothing but the jump host. -/
theorem jump_found {configuration : Configuration} {user : Option Text}
    (built : Configuration.build jumpFiles .bare (jumpPreferences user) = .ok configuration) (keyword : Text) :
    configuration.store.getWithBase "h".toList keyword =
      if Text.SameLetters "ProxyJump".toList keyword then ("bastion".toList, some ⟨"/".toList⟩)
      else (builtinValue keyword, none) := by
  have selected : HostPattern.selects [.any] "h".toList = true := HostPattern.selects_any _
  have store : configuration.store =
      ⟨[⟨⟨"/c".toList⟩, ⟨[.scoped [.any] [.setting "ProxyJump".toList "bastion".toList]]⟩⟩]⟩ := by
    cases user <;> cases built <;> rfl
  rw [store, Store.getWithBase_single selected (by decide)]
  rfl

namespace Configuration

open Rehearsal.Shell

/-- The configuration reaches a host by way of the jump host. -/
theorem jump_route {configuration : Configuration} {user : Option Text}
    (built : build jumpFiles .bare (jumpPreferences user) = .ok configuration) :
    (configuration.proxy "h".toList).1 = some (.jump bastion.written) ∧
      configuration.port "h".toList = .ok 22 ∧ configuration.user "h".toList = user.getD [] ∧
      configuration.hostname "h".toList = "h".toList := by
  have overrides : configuration.settings.overrides = ⟨user, none, none⟩ := by
    cases user <;> cases built <;> rfl
  refine ⟨?_, ?_, ?_, ?_⟩
  · simp only [proxy, jump_found built]
    rfl
  · simp only [port, overrides, Store.get, jump_found built]
    rfl
  · simp only [Configuration.user, overrides, Store.get, jump_found built]
    rfl
  · simp only [hostname, overrides, Store.get, jump_found built]
    rfl

/-- With a user the command has eight words. -/
theorem proxyCommand_words_user :
    ∃ configuration command,
      build jumpFiles .bare (jumpPreferences (some "al".toList)) = .ok configuration ∧
      configuration.proxyCommand "h".toList = some (.ok command) ∧
      splitAtSpaces command = bastion.words "al".toList 22 "h".toList := by
  obtain ⟨configuration, built⟩ : ∃ configuration,
      build jumpFiles .bare (jumpPreferences (some "al".toList)) = .ok configuration := ⟨_, rfl⟩
  obtain ⟨directive, settled, user, hostname⟩ := jump_route built
  obtain ⟨command, given, _, _, words⟩ := proxyCommand_words directive bastion_usable settled
    (by rw [user]; decide) (by rw [hostname]; decide)
  rw [user, hostname] at words
  exact ⟨configuration, command, built, given, words (by decide)⟩

/-- Without a user it has seven, and the option for the user takes the next option for its argument. -/
theorem proxyCommand_words_no_user :
    ¬ ∀ files environment preferences configuration host jump port,
      build files environment preferences = .ok configuration →
      (configuration.proxy host).1 = some (.jump (JumpHost.written jump)) → jump.IsUsable →
      configuration.port host = .ok port → IsNameText (configuration.user host) →
      IsNameText (configuration.hostname host) →
      ∃ command, configuration.proxyCommand host = some (.ok command) ∧
        splitAtSpaces command = jump.words (configuration.user host) port (configuration.hostname host) := by
  intro eight
  obtain ⟨configuration, built⟩ : ∃ configuration,
      build jumpFiles .bare (jumpPreferences none) = .ok configuration := ⟨_, rfl⟩
  obtain ⟨directive, settled, user, hostname⟩ := jump_route built
  obtain ⟨command, same, words⟩ := eight _ _ _ configuration _ bastion 22 built directive bastion_usable settled
    (by rw [user]; decide) (by rw [hostname]; decide)
  have written : configuration.proxyCommand "h".toList =
      some (.ok ("ssh".toList ++ spaced (bastion.pieces [] 22 "h".toList))) := by
    rw [proxyCommand, directive, settled, user, hostname]
    rfl
  obtain rfl := Except.ok.inj (Option.some.inj (written.symm.trans same))
  rw [user, hostname] at words
  have seven : splitAtSpaces ("ssh".toList ++ spaced (bastion.pieces [] 22 "h".toList))
      ≠ bastion.words [] 22 "h".toList := by decide
  exact seven words

end Configuration

end SecureShell
