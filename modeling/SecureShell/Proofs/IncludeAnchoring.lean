/-
Module: SecureShell.Proofs.IncludeAnchoring
Purpose: An include line is resolved twice: its first target is anchored at the home directory while the line is
  still raw text, and the targets are resolved again once the line has been split. For a home directory without
  blanks and quotes both come to the same files, as long as the raw first target shows what it is: an equals
  sign with blanks in front of it, a tilde that a name follows, and quotes around an absolute path or around a
  tilde are not what the anchoring takes them for. The last section tells what becomes of such a path.
Main exports: filesNamed, Bare, OrdinaryHome, shownPlainly, arguments_front, filesNamed_anchorLine,
  anchorIncludes_files, filesNamed_quoted_ne
-/
import SecureShell.Config.Source
import SecureShell.Proofs.PathSteps
import SecureShell.Proofs.WrittenLine

namespace SecureShell

open Directive

/-- The files that the targets of an include line name, each as the steps of its path. Any other line, and
one that cannot be read, names none. -/
def filesNamed (home : Path) (line : Text) : List (List Component) :=
  match ofLine line with
  | .ok (some (.include targets)) => targets.map fun target => (includePath home target).components
  | _ => []

/-- Text that can stand in a line without quotes. -/
def Bare (text : Text) : Prop :=
  ∀ c ∈ text, Text.isBlank c = false ∧ c ≠ '"'

/-- A home directory that can stand in a line without quotes. -/
structure OrdinaryHome (home : Path) : Prop where
  absolute : home.isAbsolute = true
  bare : Bare home.text

/-- Whether the raw first target of a line shows what the target is, for a line that is anchored. A tilde has
to stand for the home directory itself, and quotes have to enclose the beginning of a relative path. -/
def shownPlainly (line : Text) : Bool :=
  match includeHead? line, ofLine line with
  | some (_, '=' :: _), _ => false
  | some (_, '~' :: _), .ok (some (.include (first :: _))) => first = ['~'] || first.take 2 = ['~', '/']
  | some (_, '"' :: _), .ok (some (.include (first :: _))) => first.head? ≠ some '~' && first.head? ≠ some '/'
  | _, _ => true

/-! ### Text in front of an argument -/

section Front

variable {front : Text} (bare : Bare front)

include bare

theorem trimEnd_front (rest : Text) : Text.trimEnd (front ++ rest) = front ++ Text.trimEnd rest := by
  induction front with
  | nil => rfl
  | cons c front ih =>
      rw [List.cons_append, Text.trimEnd_cons_of_not (bare c List.mem_cons_self).1,
        ih fun d member => bare d (List.mem_cons_of_mem _ member)]
      rfl

theorem beforeComment_front (rest : Text) :
    beforeComment false false (front ++ rest) = (beforeComment false false rest).map (front ++ ·) := by
  induction front with
  | nil => simp
  | cons c front ih =>
      obtain ⟨shown, noQuote⟩ := bare c List.mem_cons_self
      rw [List.cons_append, beforeComment, if_neg (by simp), shown, decide_eq_false noQuote, Bool.xor_false,
        ih fun d member => bare d (List.mem_cons_of_mem _ member), Option.map_map]
      rfl

/-- A comment begins where it would begin without the text in front. -/
theorem withoutComment_front (rest : Text) : withoutComment (front ++ rest) = front ++ withoutComment rest := by
  rw [withoutComment, withoutComment, beforeComment_front bare]
  cases beforeComment false false rest with
  | none => rfl
  | some kept => exact trimEnd_front bare kept

theorem splitArguments_front (begun rest : Text) :
    splitArguments false (some begun) (front ++ rest)
      = splitArguments false (some (begun ++ front)) rest := by
  induction front generalizing begun with
  | nil => simp
  | cons c front ih =>
      obtain ⟨shown, noQuote⟩ := bare c List.mem_cons_self
      rw [List.cons_append, splitArguments, if_neg noQuote, if_neg (by simp [shown]),
        ih fun d member => bare d (List.mem_cons_of_mem _ member)]
      simp

end Front

/-- What the argument that has begun is prefixed with is in front of the first argument. -/
theorem splitArguments_prefixed (front : Text) (inQuotes : Bool) (begun rest : Text) :
    splitArguments inQuotes (some (front ++ begun)) rest
      = (splitArguments inQuotes (some begun) rest).map (List.modifyHead (front ++ ·)) := by
  induction rest generalizing inQuotes begun with
  | nil => cases inQuotes <;> rfl
  | cons c rest ih =>
      unfold splitArguments
      by_cases quote : c = '"'
      · rw [if_pos quote, if_pos quote]
        exact ih (!inQuotes) begun
      · rw [if_neg quote, if_neg quote]
        by_cases blank : Text.isBlank c = true ∧ inQuotes = false
        · rw [if_pos blank, if_pos blank]
          cases splitArguments inQuotes none rest <;> rfl
        · rw [if_neg blank, if_neg blank, Option.getD_some, Option.getD_some, List.append_assoc]
          exact ih inQuotes (begun ++ [c])

/-- An argument begins with the first character that is not blank. -/
theorem splitArguments_begin {c : Char} (shown : Text.isBlank c = false) (rest : Text) :
    splitArguments false none (c :: rest) = splitArguments false (some []) (c :: rest) := by
  unfold splitArguments
  by_cases quote : c = '"'
  · rw [if_pos quote, if_pos quote]
    rfl
  · rw [if_neg quote, if_neg quote, if_neg (by simp [shown]), if_neg (by simp [shown])]
    rfl

/-- The arguments of a value when one has begun already. -/
def argumentsBegun (value : Text) : Except Fault (List Text) :=
  splitArguments false (some []) (withoutComment value)

/-- Bare text in front of a value is in front of its first argument. -/
theorem arguments_front {front : Text} (bare : Bare front) (nonempty : front ≠ []) (value : Text) :
    arguments (front ++ value) = (argumentsBegun value).map (List.modifyHead (front ++ ·)) := by
  obtain ⟨c, rest, whole⟩ := List.exists_cons_of_ne_nil nonempty
  have shown : Text.isBlank c = false := (bare c (by simp [whole])).1
  have begun := splitArguments_begin shown (rest ++ withoutComment value)
  rw [← List.cons_append, ← whole] at begun
  have prefixed := splitArguments_prefixed front false [] (withoutComment value)
  rw [List.append_nil] at prefixed
  rw [arguments, withoutComment_front bare, begun, splitArguments_front bare, List.nil_append, prefixed,
    argumentsBegun]

theorem Solid.arguments_eq {value : Text} (solid : Solid value) : arguments value = argumentsBegun value := by
  obtain ⟨c, rest, rfl, shown, _⟩ := solid
  obtain ⟨behind, kept⟩ := List.head?_eq_some_iff.mp (head_withoutComment shown rest)
  rw [arguments, argumentsBegun, kept, splitArguments_begin shown]

/-! ### The raw line -/

/-- What stands in front of the first target of a line that is anchored: with any other text behind it, the
line still is an include line with that text. -/
structure IncludeHead (head : Text) : Prop where
  said : ∃ keyword, Text.SameLetters keyword "include".toList ∧
    ∀ body, Solid body → Says (head ++ body) keyword (Text.trimEnd body)

theorem leads_of_include {keyword : Text} (named : Text.SameLetters keyword "include".toList) : Leads keyword :=
  Leads.of_sameLetters ⟨by decide, by simp [endsKeyword, Text.isBlank], by decide⟩ rfl named

theorem includeHead?_eq_some {line head target : Text} (single : '\n' ∉ line)
    (cut : includeHead? line = some (head, target)) :
    IncludeHead head ∧ line = head ++ target ∧ ∀ c, target.head? = some c → Text.isBlank c = false := by
  simp only [includeHead?, Option.ite_none_right_eq_some, Option.some.injEq, Prod.mk.injEq] at cut
  obtain ⟨⟨named, gapped⟩, rfl, rfl⟩ := cut
  have whole : line = line.takeWhile Text.isBlank
      ++ (line.dropWhile Text.isBlank).take 7
      ++ ((line.dropWhile Text.isBlank).drop 7).takeWhile Text.isBlank
      ++ ((line.dropWhile Text.isBlank).drop 7).dropWhile Text.isBlank := by
    rw [List.append_assoc, List.takeWhile_append_dropWhile, List.append_assoc, List.take_append_drop,
      List.takeWhile_append_dropWhile]
  rw [whole] at single
  simp only [List.mem_append, not_or] at single
  let indent : Indent := ⟨line.takeWhile Text.isBlank, Text.mem_takeWhile_blank, single.1.1.1⟩
  let gap : Gap := ⟨⟨_, Text.mem_takeWhile_blank, single.1.2⟩, gapped⟩
  have leads : Leads ((line.dropWhile Text.isBlank).take 7) := leads_of_include named
  refine ⟨⟨_, named, fun body solid => ?_⟩, whole, fun c => Text.head_trimStart⟩
  exact leads.said indent (.blanks gap) solid

/-! ### One line -/

/-- The files that targets name, each as the steps of its path. -/
def filesOf (home : Path) : Except Fault (List Text) → List (List Component)
  | .ok targets => targets.map fun target => (includePath home target).components
  | .error _ => []

theorem IncludeHead.ofLine_eq {head : Text} (including : IncludeHead head) {body : Text} (solid : Solid body) :
    ofLine (head ++ body) = (arguments (Text.trimEnd body)).map fun targets => some (.include targets) := by
  obtain ⟨keyword, named, said⟩ := including.said
  rw [(said body solid).ofLine_eq, ofKeyword_include solid.trimEnd.ne_nil named]
  cases arguments (Text.trimEnd body) <;> rfl

theorem IncludeHead.ofLine_iff {head : Text} (including : IncludeHead head) {body : Text} (solid : Solid body)
    (targets : List Text) :
    ofLine (head ++ body) = .ok (some (.include targets)) ↔
      arguments (Text.trimEnd body) = .ok targets := by
  rw [including.ofLine_eq solid]
  cases arguments (Text.trimEnd body) <;> simp [Except.map]

theorem IncludeHead.filesNamed_eq {head : Text} (including : IncludeHead head) (home : Path) {body : Text}
    (solid : Solid body) : filesNamed home (head ++ body) = filesOf home (arguments (Text.trimEnd body)) := by
  rw [filesNamed, including.ofLine_eq solid]
  cases arguments (Text.trimEnd body) <;> rfl

/-- Two ways to begin the first target come to the same files if they do so for the first target. -/
theorem filesOf_modifyHead (home : Path) (found : Except Fault (List Text)) (one other : Text → Text)
    (same : ∀ first rest, found = .ok (first :: rest) →
      (includePath home (one first)).components = (includePath home (other first)).components) :
    filesOf home (found.map (List.modifyHead one)) = filesOf home (found.map (List.modifyHead other)) := by
  cases found with
  | error fault => rfl
  | ok targets =>
      cases targets with
      | nil => rfl
      | cons first rest =>
          simp only [Except.map, List.modifyHead_cons, filesOf, List.map_cons, same first rest rfl]

variable {home : Path}

theorem OrdinaryHome.solid (ordinary : OrdinaryHome home) (more : Text) : Solid (home.text ++ more) := by
  obtain ⟨rest, text⟩ := (Path.isAbsolute_iff home).mp ordinary.absolute
  exact ⟨'/', rest ++ more, by rw [text]; rfl, by decide, by decide⟩

theorem OrdinaryHome.nonempty (ordinary : OrdinaryHome home) : home.text ≠ [] := by
  obtain ⟨rest, text⟩ := (Path.isAbsolute_iff home).mp ordinary.absolute
  simp [text]

/-- A target that begins with the home directory stands for itself. -/
theorem OrdinaryHome.includePath_eq (ordinary : OrdinaryHome home) (more : Text) :
    includePath home (home.text ++ more) = ⟨home.text ++ more⟩ := by
  obtain ⟨rest, text⟩ := (Path.isAbsolute_iff home).mp ordinary.absolute
  rw [text]
  rfl

theorem OrdinaryHome.components_tilde (ordinary : OrdinaryHome home) (rest : Text) :
    (includePath home ('~' :: rest)).components = home.components ++ Path.steps rest := by
  have relative : (rest.dropWhile (· = '/')).head? ≠ some '/' := by
    intro slash
    have left := List.head?_dropWhile_not (fun c => decide (c = '/')) rest
    rw [slash] at left
    simp at left
  rw [includePath, Path.components_join ordinary.absolute relative, Path.steps_withoutSlashes]

/-- A tilde that stands for the home directory is resolved alike before and after the line is split. -/
theorem OrdinaryHome.tilde (ordinary : OrdinaryHome home) {rest : Text}
    (plain : rest = [] ∨ rest.head? = some '/') :
    (includePath home (home.text ++ rest)).components = (includePath home ('~' :: rest)).components := by
  rw [ordinary.includePath_eq, ordinary.components_tilde]
  rcases plain with rfl | slash
  · rw [List.append_nil, Path.steps_nil, List.append_nil]
  · obtain ⟨behind, rfl⟩ := List.head?_eq_some_iff.mp slash
    rw [Path.components_append ordinary.absolute, Path.steps_slash]

/-- What an anchored target gets in front. -/
def sshFront (home : Path) : Text :=
  home.text ++ "/.ssh/".toList

theorem OrdinaryHome.components_sshFront (ordinary : OrdinaryHome home) (target : Text) :
    (includePath home (sshFront home ++ target)).components
      = home.components ++ (Path.steps ".ssh".toList ++ Path.steps target) := by
  have written : sshFront home ++ target = home.text ++ '/' :: (".ssh".toList ++ '/' :: target) := by
    simp [sshFront]
  rw [written, ordinary.includePath_eq, Path.components_append ordinary.absolute, Path.steps_append]

/-- A target that is neither absolute nor begins with a tilde is resolved alike before and after the line is
split. -/
theorem OrdinaryHome.relative (ordinary : OrdinaryHome home) {target : Text}
    (noTilde : target.head? ≠ some '~') (relative : target.head? ≠ some '/') :
    (includePath home (sshFront home ++ target)).components = (includePath home target).components := by
  have resolved : includePath home target = (home.join ".ssh".toList).join target := by
    unfold includePath
    split
    · simp at noTilde
    · simp at relative
    · rfl
  have absolute := Path.join_isAbsolute ordinary.absolute ".ssh".toList
  rw [ordinary.components_sshFront, resolved, Path.components_join absolute relative,
    Path.components_join ordinary.absolute (by decide), List.append_assoc]

/-! ### Both ways of resolving -/

theorem OrdinaryHome.sshFront_bare (ordinary : OrdinaryHome home) : Bare (sshFront home) := by
  intro c member
  rcases List.mem_append.mp member with inHome | inRest
  · exact ordinary.bare c inHome
  · have all : Bare "/.ssh/".toList := by simp [Bare, Text.isBlank]
    exact all c inRest

theorem sshFront_ne_nil (home : Path) : sshFront home ≠ [] := by
  simp [sshFront]

/-- A line with a tilde that stands for the home directory names the same files when it is anchored. -/
theorem OrdinaryHome.filesNamed_tilde (ordinary : OrdinaryHome home) {head rest : Text}
    (including : IncludeHead head)
    (plain : ∀ first others, ofLine (head ++ '~' :: rest) = .ok (some (.include (first :: others))) →
      first = ['~'] ∨ first.take 2 = ['~', '/']) :
    filesNamed home (head ++ (home.text ++ rest)) = filesNamed home (head ++ '~' :: rest) := by
  have tilde : Bare ['~'] := by simp [Bare, Text.isBlank]
  have solid : Solid ('~' :: rest) := ⟨'~', rest, rfl, by decide, by decide⟩
  have written : arguments (Text.trimEnd ('~' :: rest))
      = (argumentsBegun (Text.trimEnd rest)).map (List.modifyHead ('~' :: ·)) := by
    rw [Text.trimEnd_cons_of_not (by decide)]
    exact arguments_front tilde (by decide) (Text.trimEnd rest)
  rw [including.filesNamed_eq home (ordinary.solid rest), including.filesNamed_eq home solid,
    trimEnd_front ordinary.bare, arguments_front ordinary.bare ordinary.nonempty, written]
  refine filesOf_modifyHead home _ _ _ fun first others found => ordinary.tilde ?_
  have read : ofLine (head ++ '~' :: rest) = .ok (some (.include (('~' :: first) :: others))) := by
    rw [including.ofLine_iff solid, written, found]
    rfl
  rcases plain _ _ read with alone | slash
  · exact .inl (List.cons.inj alone).2
  · cases first with
    | nil => exact .inl rfl
    | cons c first => exact .inr (by simpa using slash)

/-- The files that any other line names when it is anchored. -/
theorem OrdinaryHome.filesNamed_sshFront (ordinary : OrdinaryHome home) {head target : Text}
    (including : IncludeHead head) (solid : Solid target) :
    filesNamed home (head ++ (sshFront home ++ target))
      = filesOf home ((arguments (Text.trimEnd target)).map (List.modifyHead (sshFront home ++ ·))) := by
  have anchored : Solid (sshFront home ++ target) := by
    rw [sshFront, List.append_assoc]
    exact ordinary.solid _
  rw [including.filesNamed_eq home anchored, trimEnd_front ordinary.sshFront_bare,
    arguments_front ordinary.sshFront_bare (sshFront_ne_nil home), solid.trimEnd.arguments_eq]

/-- They are the files of the line as it is written, if the first target is neither absolute nor begins with
a tilde. -/
theorem OrdinaryHome.filesNamed_relative (ordinary : OrdinaryHome home) {head target : Text}
    (including : IncludeHead head) (solid : Solid target)
    (plain : ∀ first others, ofLine (head ++ target) = .ok (some (.include (first :: others))) →
      first.head? ≠ some '~' ∧ first.head? ≠ some '/') :
    filesNamed home (head ++ (sshFront home ++ target)) = filesNamed home (head ++ target) := by
  have kept : (arguments (Text.trimEnd target)).map (List.modifyHead fun first => first)
      = arguments (Text.trimEnd target) := by
    rcases arguments (Text.trimEnd target) with fault | _ | ⟨first, others⟩ <;> rfl
  rw [ordinary.filesNamed_sshFront including solid, including.filesNamed_eq home solid]
  refine (filesOf_modifyHead home _ _ _ fun first others found => ?_).trans (congrArg (filesOf home) kept)
  have read := (including.ofLine_iff solid (first :: others)).mpr found
  exact ordinary.relative (plain first others read).1 (plain first others read).2

/-- A target that is not quoted keeps the character that it begins with. -/
theorem IncludeHead.head_first {head rest : Text} {c : Char} (including : IncludeHead head)
    (shown : Text.isBlank c = false) (noQuote : c ≠ '"') (noSign : c ≠ '=') {first : Text}
    {others : List Text} (read : ofLine (head ++ c :: rest) = .ok (some (.include (first :: others)))) :
    first.head? = some c := by
  have bare : Bare [c] := by simp [Bare, shown, noQuote]
  have front := arguments_front bare (by simp) (Text.trimEnd rest)
  rw [including.ofLine_iff ⟨c, rest, rfl, shown, noSign⟩, Text.trimEnd_cons_of_not shown,
    ← List.singleton_append, front] at read
  cases begun : argumentsBegun (Text.trimEnd rest) with
  | error fault =>
      rw [begun] at read
      cases read
  | ok targets =>
      rw [begun] at read
      cases targets with
      | nil => cases read
      | cons start later =>
          obtain ⟨rfl, _⟩ : c :: start = first ∧ later = others := by simpa [Except.map] using read
          rfl

/-- A line whose first target is shown plainly names the same files when it is anchored. -/
theorem filesNamed_anchorLine (ordinary : OrdinaryHome home) {line : Text} (single : '\n' ∉ line)
    (plain : shownPlainly line = true) : filesNamed home (anchorLine home line) = filesNamed home line := by
  unfold shownPlainly at plain
  unfold anchorLine
  -- the first four forms stay as they are written; the fifth has a tilde, the last one any other target
  split
  case h_1 => rfl
  case h_2 => rfl
  case h_3 => rfl
  case h_4 => rfl
  case h_5 head rest _ cut =>
    obtain ⟨including, rfl, _⟩ := includeHead?_eq_some single cut
    rw [cut] at plain
    rw [List.append_assoc]
    refine ordinary.filesNamed_tilde including fun first others read => ?_
    simpa [read] using plain
  case h_6 head target notEmpty notSlash _ notTilde cut =>
    obtain ⟨including, rfl, shown⟩ := includeHead?_eq_some single cut
    rw [cut] at plain
    obtain ⟨c, rest, rfl⟩ := List.exists_cons_of_ne_nil notEmpty
    have noSign : c ≠ '=' := by
      rintro rfl
      simp at plain
    have solid : Solid (c :: rest) := ⟨c, rest, rfl, shown c rfl, noSign⟩
    rw [List.append_assoc, List.append_assoc, ← List.append_assoc home.text]
    refine ordinary.filesNamed_relative including solid fun first others read => ?_
    by_cases quote : c = '"'
    · subst quote
      simpa [read] using plain
    · have head := including.head_first (shown c rfl) quote noSign read
      rw [head]
      constructor
      · rintro ⟨⟩
        exact notTilde rest rfl
      · rintro ⟨⟩
        exact notSlash rest rfl

/-! ### The whole text -/

theorem filesNamed_withoutReturn (home : Path) (line : Text) :
    filesNamed home (Text.withoutReturn line) = filesNamed home line := by
  rw [filesNamed, filesNamed, ofLine_congr (Text.trim_withoutReturn line)]

theorem OrdinaryHome.single (ordinary : OrdinaryHome home) : '\n' ∉ home.text :=
  fun member => absurd (ordinary.bare '\n' member).1 (by decide)

/-- An anchored line is one line. -/
theorem single_anchorLine (singleHome : '\n' ∉ home.text) {line : Text} (single : '\n' ∉ line) :
    '\n' ∉ anchorLine home line := by
  unfold anchorLine
  split
  case h_5 head rest _ cut =>
    obtain ⟨_, rfl, _⟩ := includeHead?_eq_some single cut
    simp only [List.mem_append, List.mem_cons, not_or] at single
    simp [single, singleHome]
  case h_6 head target _ _ _ _ cut =>
    obtain ⟨_, rfl, _⟩ := includeHead?_eq_some single cut
    simp only [List.mem_append, not_or] at single
    simp [single, singleHome]
  all_goals exact single

/-- The lines of an anchored text are the anchored lines of the text. -/
theorem lines_anchorIncludes (singleHome : '\n' ∉ home.text) (text : Text) :
    Text.lines (anchorIncludes home text)
      = (Text.lines text).map fun line => Text.withoutReturn (anchorLine home line) := by
  have single : ∀ row ∈ (Text.lines text).map (anchorLine home), '\n' ∉ row := by
    intro row member
    obtain ⟨line, present, rfl⟩ := List.mem_map.mp member
    exact single_anchorLine singleHome (Text.feed_not_mem_of_mem_lines present)
  have ended := Text.lines_ended single
  rwa [List.flatMap_map, List.map_map] at ended

/-- Every line of an anchored text names the files that it names in the text as it is written, in the same
order, if every first target is shown plainly. -/
theorem anchorIncludes_files (ordinary : OrdinaryHome home) {text : Text}
    (plain : ∀ line ∈ Text.lines text, shownPlainly line = true) :
    (Text.lines (anchorIncludes home text)).map (filesNamed home)
      = (Text.lines text).map (filesNamed home) := by
  rw [lines_anchorIncludes ordinary.single, List.map_map]
  refine List.map_congr_left fun line member => ?_
  rw [Function.comp_apply, filesNamed_withoutReturn]
  exact filesNamed_anchorLine ordinary (Text.feed_not_mem_of_mem_lines member) (plain line member)

theorem anchorIncludes_files_tilde :
    OrdinaryHome ⟨"/h".toList⟩ ∧
      (∀ line ∈ Text.lines "include ~/a b\r\nUser u\n Include \"c d\" #e".toList, shownPlainly line = true) ∧
      (Text.lines (anchorIncludes ⟨"/h".toList⟩ "include ~/a b\r\nUser u\n Include \"c d\" #e".toList)).map
          (filesNamed ⟨"/h".toList⟩)
        = (Text.lines "include ~/a b\r\nUser u\n Include \"c d\" #e".toList).map
          (filesNamed ⟨"/h".toList⟩) := by
  have ordinary : OrdinaryHome ⟨"/h".toList⟩ := ⟨by decide, by simp [Bare, Text.isBlank]⟩
  have plain : ∀ line ∈ Text.lines "include ~/a b\r\nUser u\n Include \"c d\" #e".toList,
      shownPlainly line = true := by decide
  exact ⟨ordinary, plain, anchorIncludes_files ordinary plain⟩

/-! ### Where the two ways part -/

/-- A target with its anchor in front has more steps than an absolute target or one with a tilde. -/
theorem OrdinaryHome.longer (ordinary : OrdinaryHome home) {target : Text}
    (anchored : target.head? = some '/' ∨ target.head? = some '~') :
    (includePath home target).components.length
      < (includePath home (sshFront home ++ target)).components.length := by
  have ssh : (Path.steps ".ssh".toList).length = 1 := by decide
  rw [ordinary.components_sshFront, List.length_append, List.length_append, ssh]
  rcases anchored with slash | tilde
  · obtain ⟨rest, rfl⟩ := List.head?_eq_some_iff.mp slash
    obtain ⟨steps, text⟩ := (Path.isAbsolute_iff home).mp ordinary.absolute
    have own : (includePath home ('/' :: rest)).components = .root :: Path.steps rest := rfl
    have whole : home = ⟨'/' :: steps⟩ := by rw [← text]
    have root : home.components.length = (Path.steps steps).length + 1 := by
      rw [whole, Path.components_root, List.length_cons]
    rw [own, List.length_cons, Path.steps_slash, root]
    omega
  · obtain ⟨rest, rfl⟩ := List.head?_eq_some_iff.mp tilde
    have marked := Path.length_steps_tilde rest
    rw [ordinary.components_tilde, List.length_append]
    omega

/-- The file that is named in quotes by an absolute path or with a tilde is not the one that the anchored line
names. -/
theorem filesNamed_quoted_ne (ordinary : OrdinaryHome home) {line head behind first : Text}
    {others : List Text} (single : '\n' ∉ line) (cut : includeHead? line = some (head, '"' :: behind))
    (read : ofLine line = .ok (some (.include (first :: others))))
    (anchored : first.head? = some '/' ∨ first.head? = some '~') :
    filesNamed home (anchorLine home line) ≠ filesNamed home line := by
  obtain ⟨including, rfl, _⟩ := includeHead?_eq_some single cut
  have solid : Solid ('"' :: behind) := ⟨'"', behind, rfl, by decide, by decide⟩
  have line : anchorLine home (head ++ '"' :: behind) = head ++ (sshFront home ++ '"' :: behind) := by
    simp [anchorLine, cut, sshFront]
  have split := (including.ofLine_iff solid _).mp read
  rw [line, ordinary.filesNamed_sshFront including solid, including.filesNamed_eq home solid, split]
  intro same
  have firsts : (includePath home (sshFront home ++ first)).components
      = (includePath home first).components := (List.cons.inj same).1
  have longer := ordinary.longer anchored
  rw [firsts] at longer
  exact Nat.lt_irrefl _ longer

theorem filesNamed_quoted_absolute :
    filesNamed ⟨"/h".toList⟩ (anchorLine ⟨"/h".toList⟩ "Include \"/x\"".toList)
      ≠ filesNamed ⟨"/h".toList⟩ "Include \"/x\"".toList := by
  decide

end SecureShell
