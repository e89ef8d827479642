/-
Module: SecureShell.Rehearsal.Shell.Transfers
Purpose: Programs that give files further names, copy them, or move them. All of them are told a target: a new
  name, or a directory in which the names stay.
Main exports: runCp, runMv, runLn
-/
import SecureShell.Rehearsal.Shell.Entries

namespace SecureShell.Rehearsal.Shell

open FileSystem (Tree Place Node)

/-- A way from a source to a target, both as they are told. -/
structure Transfer where
  source : Text
  target : Text

/-- A name inside a directory. -/
def inside (directory name : Text) : Text :=
  if endsInSlash directory then directory ++ name else directory ++ '/' :: name

/-- Where things are to be brought: the target is a directory, is a name, or cannot be used. -/
inductive Target where
  | into (directory : Text)
  | as (name : Text)
  | unusable (words : Text) (cause : SystemError)

/-- What a target is for so many sources. A link to a directory counts as one unless it is to be taken for a
name. -/
def ShellState.target (shell : ShellState) (keepsLinks : Bool) (sources : Nat) (name : Text) : Target :=
  let several (cause : SystemError) : Target :=
    .unusable ("target ".toList ++ singleQuoted name) cause
  if keepsLinks ∧ shell.isLink name = true ∧ sources = 1 then .as name
  else
    match shell.resolve name with
    | .ok place =>
        if shell.tree.node? place = some .directory then .into name
        else if sources = 1 then .as name
        else several .notDirectory
    | .error cause =>
        if sources ≠ 1 then several cause
        else if cause = .notFound then .as name
        else .unusable ("cannot stat ".toList ++ singleQuoted name) cause

/-- The transfers that operands ask for, or what is wrong with them. -/
def transfers (shell : ShellState) (options : Arguments) (keepsLinks : Bool) :
    Except Misuse (Except (Text × SystemError) (List Transfer)) :=
  let into (directory : Text) (sources : List Text) : List Transfer :=
    sources.map fun source => ⟨source, inside directory (lastPart source)⟩
  match options.value? 't', options.operands with
  | some directory, sources =>
      if sources.isEmpty then .error ⟨"missing file operand".toList, true⟩
      else
        match shell.target false 2 directory with
        | .into directory => .ok (.ok (into directory sources))
        | .as _ => .ok (.ok [])
        | .unusable words cause => .ok (.error (("target directory ".toList ++ words.drop 7), cause))
  | none, [] => .error ⟨"missing file operand".toList, true⟩
  | none, [source] =>
      .error ⟨"missing destination file operand after ".toList ++ singleQuoted source, true⟩
  | none, first :: second :: rest =>
      let operands := first :: second :: rest
      let sources := operands.dropLast
      let target := operands.getLastD []
      if options.has 'T' then
        match rest with
        | [] => .ok (.ok [⟨first, second⟩])
        | extra :: _ => .error (.extraOperand extra)
      else
        match shell.target keepsLinks sources.length target with
        | .into directory => .ok (.ok (into directory sources))
        | .as name => .ok (.ok (sources.map fun source => ⟨source, name⟩))
        | .unusable words cause => .ok (.error (words, cause))

/-- Carries out the transfers that operands ask for. -/
def runTransfers (called : Text) (options : Arguments) (keepsLinks : Bool) (carry : Transfer → Run Bool) :
    Run Unit := do
  understood called 1 (transfers (← get) options keepsLinks) fun found =>
    match found with
    | .error (words, cause) => complainOf called words cause 1
    | .ok transfers => do
        let done ← transfers.mapM carry
        finish (if done.all id then 0 else 1)

/-- Says something that is no reason of the system. It could not be done. -/
def refusing (called words : Text) : Run Bool := do
  tell (called ++ ": ".toList ++ words ++ ['\n'])
  pure false

/-- The names of a transfer in a message. -/
def Transfer.told (transfer : Transfer) (between : String) : Text :=
  singleQuoted transfer.source ++ between.toList ++ singleQuoted transfer.target

/-- Whether two places are those of one file. -/
def ShellState.areSame (shell : ShellState) (left right : Place) : Bool :=
  (shell.placesOf left).contains right

/-- The options of the program that copies. -/
def copyOptions : OptionTable where
  plain := ['a', 'b', 'd', 'f', 'H', 'i', 'l', 'L', 'n', 'P', 'p', 'r', 'R', 's', 'T', 'u', 'v', 'x', '↯', '⊗']
  valued := ['t', 'S', '⁑']
  optional := ['⁇', '⁈']
  names := [("archive", 'a'), ("force", 'f'), ("interactive", 'i'), ("link", 'l'), ("dereference", 'L'),
    ("no-clobber", 'n'), ("no-dereference", 'P'), ("preserve", '⁇'), ("recursive", 'r'),
    ("symbolic-link", 's'), ("no-target-directory", 'T'), ("target-directory", 't'), ("verbose", 'v'),
    ("one-file-system", 'x'), ("strip-trailing-slashes", '↯'), ("remove-destination", '⊗'), ("update", '⁈'),
    ("no-preserve", '⁑'), ("suffix", 'S')]

/-- Whether links are copied as such. -/
def keepsLinks (options : Arguments) (isInside : Bool) : Bool :=
  match options.lastOf? ['a', 'd', 'P', 'L', 'H'] with
  | some 'L' => false
  | some 'H' => isInside
  | some _ => true
  | none => options.has 'r' || options.has 'R'

/-- Whether rights and times are kept. -/
def keepsDetails (options : Arguments) : Bool :=
  options.has 'a' || options.has 'p' || options.has '⁇'

/-- Puts a copy of a file at a place that is free, with as many of its rights as the mask leaves. -/
def ShellState.withCopy (shell : ShellState) (options : Arguments) (source goal : Place) (node : Node) :
    ShellState :=
  let details := shell.detailsOf source
  let made := shell.withNode goal node
  if keepsDetails options then made.withDetails goal details
  else
    match node with
    | .link _ => made
    | _ =>
        let rights := Nat.land details.mode 0o777
        made.withMode goal (Nat.xor rights (Nat.land rights shell.mask))

/-- The shell with one more place for a file. -/
def ShellState.withTwin (shell : ShellState) (source goal : Place) : ShellState :=
  match shell.tree.node? source with
  | none => shell
  | some node =>
      let places := shell.placesOf source ++ [goal]
      let cleared := shell.withoutNode goal
      let made := { cleared with tree := cleared.tree.put goal node }
      { made with
        details := (goal, shell.detailsOf source) :: made.details
        twins := places :: made.twins.filter fun others => !others.contains source }

/-- Whether something may take the place of what is at a target. -/
def mayReplace (called : Text) (options : Arguments) (transfer : Transfer) (isNewer : Bool) :
    Run (Option Bool) := do
  let choice := options.lastOf? ['f', 'i', 'n']
  if choice = some 'n' then pure (some (called ≠ "mv".toList))
  else if (options.has 'u' || options.has '⁈') && !isNewer then pure (some true)
  else if choice = some 'i' then
    if ← confirms (called ++ ": overwrite ".toList ++ singleQuoted transfer.target ++ "? ".toList) then pure none
    else pure (some false)
  else pure none

/-- Copies a file that is no directory. -/
def copyFile (called : Text) (options : Arguments) (transfer : Transfer) (source : Place) (node : Node) :
    Run Bool := do
  let shell ← get
  let existing := (shell.resolve transfer.target).toOption
  let isLink := match node with
    | .link _ => true
    | _ => false
  let creating : Text := (if isLink || options.has 's' then "cannot create symbolic link "
    else if options.has 'l' then "cannot create hard link " else "cannot create regular file ").toList
  let done : Run Bool := do
    if options.has 'v' then write (transfer.told " -> " ++ ['\n'])
    pure true
  let make (node : Node) : Run Bool := do
    let shell ← get
    match shell.newPlace transfer.target with
    | .error .isDirectory =>
        failing called (creating ++ singleQuoted transfer.target) .notDirectory
    | .error cause => failing called (creating ++ singleQuoted transfer.target) cause
    | .ok goal => do
        set (if options.has 'l' then shell.withTwin source goal else shell.withCopy options source goal node)
        done
  let node := if options.has 's' then .link transfer.source else node
  let replaces := options.has 'f' || options.has '⊗'
  let unreadable : Run Bool :=
    failing called ("cannot open ".toList ++ singleQuoted transfer.source ++ " for reading".toList) .noSuchDevice
  let makeAnew (node : Node) : Run Bool := do
    if let .ok place := (← get).placeOfName transfer.target then modify (·.withoutNode place)
    make node
  match existing with
  | some goal =>
      if shell.tree.node? goal = some .directory then
        refusing called ("cannot overwrite directory ".toList ++ singleQuoted transfer.target
          ++ " with non-directory".toList)
      else if shell.areSame source goal && !(isLink && shell.isTaken transfer.target) then
        if options.has 'l' then done else refusing called (transfer.told " and " ++ " are the same file".toList)
      else
        let isNewer := (shell.detailsOf goal).time < (shell.detailsOf source).time
        match ← mayReplace called options transfer isNewer with
        | some answer => pure answer
        | none =>
            if options.has 's' || options.has 'l' then
              if replaces then makeAnew node
              else
                failing called (creating ++ singleQuoted transfer.target ++ " to ".toList
                  ++ singleQuoted transfer.source) .exists
            else if isLink || options.has '⊗' then makeAnew node
            else
              match node with
              | .file content => do
                  let written := shell.withFile goal content
                  set (if keepsDetails options then written.withDetails goal (shell.detailsOf source) else written)
                  done
              | _ => unreadable
  | none =>
      if shell.isTaken transfer.target && !isLink then
        if replaces then makeAnew node
        else
          refusing called ("not writing through dangling symlink ".toList ++ singleQuoted transfer.target)
      else
        match node with
        | .socket =>
            if options.has 'r' || options.has 'R' || options.has 'a' then make node else unreadable
        | node => make node

/-- The copy of a directory that is being made inside of it: its place, and the transfer that it belongs to. -/
abbrev CopyInside := Option (Place × Transfer)

/-- Finds or makes the directory into which another one is copied, and does something with its place. -/
def withGoal (called : Text) (options : Arguments) (transfer : Transfer) (source : Place)
    (next : Place → Run Bool) : Run Bool := do
  let shell ← get
  match shell.resolve transfer.target with
  | .ok goal =>
      if shell.tree.node? goal = some .directory then next goal
      else refusing called ("cannot overwrite non-directory ".toList ++ singleQuoted transfer.target
        ++ " with directory ".toList ++ singleQuoted transfer.source)
  | .error _ =>
      match shell.placeForDirectory transfer.target with
      | .error cause => failing called ("cannot create directory ".toList ++ singleQuoted transfer.target) cause
      | .ok goal => do
          set (shell.withCopy options source goal .directory)
          if options.has 'v' then write (transfer.told " -> " ++ ['\n'])
          next goal

/-- Copies what a name stands for: a file, or a directory with all that is in it if this is asked. `fuel` bounds
how deep directories stand in one another, and `isInside` tells whether the source is in a directory that is
copied. -/
def copy (called : Text) (options : Arguments) : (fuel : Nat) → CopyInside → (isInside : Bool) → Transfer →
    Run Bool
  | 0, _, _, _ => pure true
  | fuel + 1, begun, isInside, transfer => do
      let shell ← get
      let found := if keepsLinks options isInside then shell.placeOfName transfer.source
        else shell.resolve transfer.source
      match found with
      | .error cause => failing called ("cannot stat ".toList ++ singleQuoted transfer.source) cause
      | .ok source =>
          match (shell.tree.node? source).getD .directory with
          | .directory =>
              if !options.has 'r' && !options.has 'R' && !options.has 'a' then
                refusing called ("-r not specified; omitting directory ".toList ++ singleQuoted transfer.source)
              else
                match begun with
                | some (place, whole) =>
                    if place = source then
                      refusing called ("cannot copy a directory, ".toList ++ whole.told ", into itself, ")
                    else copyAll fuel begun transfer source
                | none => copyAll fuel begun transfer source
          | node => copyFile called options transfer source node
where
  /-- Copies all that is in a directory. -/
  copyAll (fuel : Nat) (begun : CopyInside) (transfer : Transfer) (source : Place) : Run Bool :=
    withGoal called options transfer source fun goal => do
      let begun := begun.or (if source.isPrefixOf goal then some (goal, transfer) else none)
      let done ← (inOrder (childNames (← get).tree source)).mapM fun name =>
        copy called options fuel begun true ⟨inside transfer.source name, inside transfer.target name⟩
      pure (done.all id)

/-- The program that copies. -/
def runCp (called : Text) (arguments : List Text) : Run Unit :=
  understood called 1 (copyOptions.read arguments) fun options => do
    if options.lastOf? ['f', 'i', 'n'] = some 'n' then
      tell (called ++ ": warning: behavior of -n is non-portable and may change in future;".toList
        ++ " use --update=none instead\n".toList)
    let depth := (← get).tree.entries.length + 2
    runTransfers called options false (copy called options depth none false)

/-- The options of the program that moves. -/
def moveOptions : OptionTable where
  plain := ['b', 'f', 'i', 'n', 'T', 'u', 'v', 'Z', '↯']
  valued := ['t', 'S']
  optional := ['⁈']
  names := [("force", 'f'), ("interactive", 'i'), ("no-clobber", 'n'), ("no-target-directory", 'T'),
    ("target-directory", 't'), ("verbose", 'v'), ("update", '⁈'), ("strip-trailing-slashes", '↯'),
    ("suffix", 'S')]

/-- Gives what a name stands for another name. -/
def move (called : Text) (options : Arguments) (transfer : Transfer) : Run Bool := do
  let shell ← get
  let blockedBy (cause : SystemError) : Run Bool :=
    failing called ("cannot move ".toList ++ transfer.told " to ") cause
  match shell.placeOfName transfer.source with
  | .error cause => failing called ("cannot stat ".toList ++ singleQuoted transfer.source) cause
  | .ok source =>
      let isDirectory := shell.tree.node? source = some .directory
      let target := if isDirectory then withoutSlashes transfer.target else transfer.target
      let goal : Except SystemError Place := match shell.placeOfName transfer.target with
        | .ok goal => .ok goal
        | .error _ => shell.newPlace target
      if shell.isLinkWithSlash transfer.source then blockedBy .notDirectory
      else
        match goal with
        | .error .isDirectory => blockedBy .notDirectory
        | .error cause => blockedBy cause
        | .ok goal =>
            let relocate : Run Bool := do
              if options.has 'v' then write ("renamed ".toList ++ transfer.told " -> " ++ ['\n'])
              modify fun shell => if shell.areSame source goal then shell.withoutNode source
                else shell.relocated source goal
              pure true
            if source = goal then
              refusing called (transfer.told " and " ++ " are the same file".toList)
            else if isDirectory && source.isPrefixOf goal then
              if source = [] ∨ shell.place = source ∧ lastPart transfer.source = ['.'] then
                blockedBy (.reported "Device or resource busy".toList)
              else
                refusing called ("cannot move ".toList ++ singleQuoted transfer.source
                  ++ " to a subdirectory of itself, ".toList ++ singleQuoted transfer.target)
            else if [['.'], ['.', '.']].contains (lastPart transfer.source) then
              blockedBy (.reported "Device or resource busy".toList)
            else
              match shell.tree.node? goal with
              | none => relocate
              | some .directory =>
                  if !isDirectory then
                    refusing called ("cannot overwrite directory ".toList ++ singleQuoted transfer.target
                      ++ " with non-directory".toList)
                  else if childNames shell.tree goal ≠ [] then
                    failing called ("cannot overwrite ".toList ++ singleQuoted transfer.target) .notEmpty
                  else relocate
              | some _ =>
                  if options.lastOf? ['f', 'i', 'n'] = some 'n' then
                    refusing called ("not replacing ".toList ++ singleQuoted transfer.target)
                  else if isDirectory then
                    refusing called ("cannot overwrite non-directory ".toList ++ singleQuoted transfer.target
                      ++ " with directory ".toList ++ singleQuoted transfer.source)
                  else
                    let isNewer := (shell.detailsOf goal).time < (shell.detailsOf source).time
                    match ← mayReplace called options transfer isNewer with
                    | some answer => pure answer
                    | none => relocate

/-- The program that moves. -/
def runMv (called : Text) (arguments : List Text) : Run Unit :=
  understood called 1 (moveOptions.read arguments) fun options =>
    runTransfers called options false (move called options)

/-- The options of the program that makes links. -/
def linkOptions : OptionTable where
  plain := ['b', 'd', 'f', 'F', 'i', 'L', 'n', 'P', 'r', 's', 'T', 'v']
  valued := ['t', 'S']
  names := [("directory", 'd'), ("force", 'f'), ("interactive", 'i'), ("logical", 'L'),
    ("no-dereference", 'n'), ("physical", 'P'), ("relative", 'r'), ("symbolic", 's'),
    ("target-directory", 't'), ("no-target-directory", 'T'), ("verbose", 'v')]

/-- The way from one place to another in writing. -/
def wayBetween (start goal : Place) : Text :=
  let shared := ((start.zip goal).takeWhile fun pair => pair.1 = pair.2).length
  let steps := List.replicate (start.length - shared) ['.', '.'] ++ goal.drop shared
  if steps = [] then ['.'] else List.intercalate ['/'] steps

/-- Makes a link. -/
def makeLink (called : Text) (options : Arguments) (transfer : Transfer) : Run Bool := do
  let shell ← get
  let isSymbolic := options.has 's'
  let kind : Text := "failed to create ".toList ++ (if isSymbolic then "symbolic link " else "hard link ").toList
  let complaint (cause : SystemError) : Run Bool :=
    let isShort := cause = .exists || (isSymbolic && transfer.source ≠ [])
    failing called (kind ++ singleQuoted transfer.target ++ (if isShort then []
      else (if isSymbolic then " -> " else " => ").toList ++ singleQuoted transfer.source)) cause
  let make (change : ShellState → Place → ShellState) : Run Bool := do
    let shell ← get
    match shell.newPlace transfer.target with
    | .error .isDirectory => complaint (if shell.isTaken (withoutSlashes transfer.target) then .exists
        else .notFound)
    | .error cause => complaint cause
    | .ok goal => do
        set (change shell goal)
        if options.has 'v' then
          write (singleQuoted transfer.target ++ (if isSymbolic then " -> " else " => ").toList
            ++ singleQuoted transfer.source ++ ['\n'])
        pure true
  let source := if options.has 'L' then shell.resolve transfer.source else shell.placeOfName transfer.source
  let found : Except (Run Bool) (Option Place) :=
    if isSymbolic then (if transfer.source = [] then .error (complaint .notFound) else .ok none)
    else
      match source with
      | .error cause => .error (failing called ("failed to access ".toList ++ singleQuoted transfer.source) cause)
      | .ok place =>
          if shell.tree.node? place = some .directory then
            .error (refusing called (transfer.source ++ ": hard link not allowed for directory".toList))
          else .ok (some place)
  match found with
  | .error refusal => refusal
  | .ok source =>
      let change (shell : ShellState) (goal : Place) : ShellState :=
        match source with
        | some source => shell.withTwin source goal
        | none =>
            let way := match options.has 'r', shell.placeFor transfer.source with
              | true, .ok place => wayBetween goal.dropLast place
              | _, _ => transfer.source
            shell.withNode goal (.link way)
      if !shell.isTaken transfer.target then make change
      else if options.has 'f' || options.has 'i' then
        match shell.placeOfName transfer.target with
        | .error cause => complaint cause
        | .ok place =>
            if shell.tree.node? place = some .directory then
              refusing called (transfer.target ++ ": cannot overwrite directory".toList)
            else if source.any (shell.areSame · place) then
              refusing called (transfer.told " and " ++ " are the same file".toList)
            else do
              let question := called ++ ": replace ".toList ++ singleQuoted transfer.target ++ "? ".toList
              let agreed ← if options.lastOf? ['f', 'i'] = some 'i' then confirms question else pure true
              if !agreed then return true
              modify (·.withoutNode place)
              make change
      else complaint .exists

/-- The program that makes links. A single operand is linked in the directory of the process. -/
def runLn (called : Text) (arguments : List Text) : Run Unit :=
  understood called 1 (linkOptions.read arguments) fun options =>
    match options.operands, options.value? 't' with
    | [source], none => onEach [source] fun source =>
        makeLink called options ⟨source, inside ['.'] (lastPart source)⟩
    | _, _ => runTransfers called options (options.has 'n') (makeLink called options)

end SecureShell.Rehearsal.Shell
