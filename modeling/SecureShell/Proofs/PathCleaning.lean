/-
Module: SecureShell.Proofs.PathCleaning
Purpose: What cleaning does to the way that a path leads. From the root the cleaned path leads where the path itself
  leads, it holds neither empty parts nor single dots, a double dot at most directly behind the root, and cleaning it
  again changes nothing: of two double dots at the root the second takes back the first, and both lead nowhere else.
  A relative path loses its way there: its double dots that have no name to take back cancel in pairs, so that only
  one is left of an odd number of them and none of an even number.
Main exports: Component.lead, Path.walk, Path.joined, Path.Rooted, Path.IsClean, Path.expand_absolute, Course,
  Path.course, Path.expand_relative
-/
import SecureShell.Path.Expansion
import SecureShell.Proofs.PathSteps

namespace SecureShell

/-- Where a step leads from a directory. A directory is told by the names on the way to it from the root, the latest
first; a double dot takes the latest back and does nothing at the root. -/
def Component.lead (here : List Text) : Component → List Text
  | .root => []
  | .current => here
  | .up => here.tail
  | .name text => text :: here

namespace Path

/-- Where the steps of a path lead from a directory. -/
def walk (path : Path) (here : List Text) : List Text :=
  path.components.foldl Component.lead here

/-- What a written path stands for before it is cleaned. -/
def joined (written : Text) (base home : Path) : Path :=
  match written with
  | '/' :: rest => ⟨'/' :: rest⟩
  | '~' :: rest => atHome home rest
  | other => base.join other

theorem expand_eq (written : Text) (base home : Path) :
    expand written base home = clean (joined written base home) := by
  unfold expand
  split
  · rfl
  · rfl
  · next noRoot noHome =>
    unfold joined
    split
    · exact absurd rfl (noRoot _)
    · exact absurd rfl (noHome _)
    · rfl

theorem joined_of_relative {written : Text} (noRoot : written.head? ≠ some '/') (noHome : written.head? ≠ some '~')
    (base home : Path) : joined written base home = base.join written := by
  unfold joined
  split
  · exact absurd rfl noRoot
  · exact absurd rfl noHome
  · rfl

theorem expand_of_isAbsolute {path : Path} (absolute : path.isAbsolute = true) (base home : Path) :
    expand path.text base home = clean path := by
  obtain ⟨rest, text⟩ := (isAbsolute_iff path).mp absolute
  have whole : path = ⟨'/' :: rest⟩ := by rw [← text]
  rw [whole]
  rfl

theorem joined_isAbsolute {base home : Path} (fromRoot : base.isAbsolute = true) (homeFromRoot : home.isAbsolute = true)
    (written : Text) : (joined written base home).isAbsolute = true := by
  unfold joined
  split
  · rfl
  · exact join_isAbsolute homeFromRoot _
  · exact join_isAbsolute fromRoot _

/-! ### Paths from the root -/

/-- What is kept when a path from the root is cleaned, the latest step first: names, and behind the root perhaps a
double dot. -/
inductive Rooted : List Component → Prop where
  | root : Rooted [.root]
  | above : Rooted [.up, .root]
  | name {kept : List Component} {text : Text} (written : (Component.name text).IsWritten) (below : Rooted kept) :
      Rooted (.name text :: kept)

/-- A double dot takes the latest step back, unless this is the root. -/
theorem cleanStep_up {latest : Component} (noRoot : latest ≠ .root) (earlier : List Component) :
    cleanStep (latest :: earlier) .up = earlier := by
  cases latest with
  | root => exact absurd rfl noRoot
  | current => rfl
  | up => rfl
  | name text => rfl

section

variable {kept : List Component} (rooted : Rooted kept)

include rooted

theorem Rooted.cleanStep {step : Component} (written : step.IsWritten) : Rooted (cleanStep kept step) := by
  obtain rfl | ⟨text, rfl⟩ := written.cases
  · cases rooted with
    | root => exact .above
    | above => exact .root
    | name named below =>
        rw [cleanStep_up named.ne_root]
        exact below
  · exact .name written rooted

/-- What is kept after one more step leads where this step leads from what was kept. -/
theorem Rooted.lead_cleanStep {step : Component} (written : step.IsWritten) (here : List Text) :
    (Path.cleanStep kept step).reverse.foldl Component.lead here =
      Component.lead (kept.reverse.foldl Component.lead here) step := by
  obtain rfl | ⟨text, rfl⟩ := written.cases
  · cases rooted with
    | root => rfl
    | above => rfl
    | name named _ =>
        rw [cleanStep_up named.ne_root, List.reverse_cons, List.foldl_append]
        rfl
  · rw [show Path.cleanStep kept (.name text) = .name text :: kept from rfl, List.reverse_cons, List.foldl_append]
    rfl

/-- So it is for any number of further steps. -/
theorem Rooted.foldl_cleanStep {steps : List Component} (written : ∀ step ∈ steps, step.IsWritten)
    (here : List Text) :
    Rooted (steps.foldl Path.cleanStep kept) ∧
      (steps.foldl Path.cleanStep kept).reverse.foldl Component.lead here =
        steps.foldl Component.lead (kept.reverse.foldl Component.lead here) := by
  induction steps generalizing kept with
  | nil => exact ⟨rooted, rfl⟩
  | cons step steps ih =>
      obtain ⟨first, others⟩ := List.forall_mem_cons.mp written
      obtain ⟨keeps, leads⟩ := ih (rooted.cleanStep first) others
      refine ⟨keeps, ?_⟩
      rw [List.foldl_cons, leads, rooted.lead_cleanStep first, List.foldl_cons]

/-- What is kept, in the order of the path: the root, and steps of which only the first can be a double dot. -/
theorem Rooted.exists_reverse :
    ∃ steps, kept.reverse = .root :: steps ∧ (∀ step ∈ steps, step.IsWritten) ∧ Component.up ∉ steps.tail := by
  induction rooted with
  | root => exact ⟨[], rfl, nofun, nofun⟩
  | above => exact ⟨[.up], rfl, List.forall_mem_singleton.mpr Component.isWritten_up, nofun⟩
  | @name kept text written below ih =>
      obtain ⟨steps, order, others, later⟩ := ih
      refine ⟨steps ++ [.name text], by rw [List.reverse_cons, order, List.cons_append], ?_, ?_⟩
      · intro step member
        rcases List.mem_append.mp member with inside | last
        · exact others step inside
        · exact List.mem_singleton.mp last ▸ written
      · cases steps with
        | nil => nofun
        | cons step steps =>
            intro member
            rcases List.mem_append.mp member with inside | last
            · exact later inside
            · cases List.mem_singleton.mp last

/-- Cleaning keeps all of it. -/
theorem Rooted.foldl_reverse : kept.reverse.foldl Path.cleanStep [] = kept := by
  induction rooted with
  | root => rfl
  | above => rfl
  | name _ _ ih =>
      rw [List.reverse_cons, List.foldl_append, ih]
      rfl

theorem Rooted.components : (ofComponents kept.reverse).components = kept.reverse := by
  obtain ⟨steps, order, written, -⟩ := rooted.exists_reverse
  rw [order, components_ofRoot written]

end

/-- What cleaning makes of a path from the root. -/
theorem exists_rooted {path : Path} (absolute : path.isAbsolute = true) :
    ∃ kept, Rooted kept ∧ clean path = ofComponents kept.reverse ∧
      ∀ here, kept.reverse.foldl Component.lead here = path.walk here := by
  obtain ⟨rest, text⟩ := (isAbsolute_iff path).mp absolute
  have parts : path.components = .root :: steps rest := by
    rw [← components_root, ← text]
  have written : ∀ step ∈ steps rest, step.IsWritten := fun step => isWritten_of_mem_steps
  refine ⟨(steps rest).foldl cleanStep [.root], (Rooted.root.foldl_cleanStep written []).1, ?_, fun here => ?_⟩
  · rw [clean, parts]
    rfl
  · rw [(Rooted.root.foldl_cleanStep written here).2, walk, parts]
    rfl

/-- A path from the root in its cleaned form: what stands between its slashes is neither empty nor a single dot, and
only the first part can be a double dot. -/
def IsClean (path : Path) : Prop :=
  ∃ parts : List Text, path.text = '/' :: List.intercalate ['/'] parts ∧
    (∀ part ∈ parts, part ≠ [] ∧ part ≠ ['.'] ∧ '/' ∉ part) ∧ ['.', '.'] ∉ parts.tail

theorem Rooted.isClean {kept : List Component} (rooted : Rooted kept) : IsClean (ofComponents kept.reverse) := by
  obtain ⟨steps, order, written, later⟩ := rooted.exists_reverse
  refine ⟨steps.map Component.text, by rw [order]; rfl, ?_, ?_⟩
  · intro part member
    obtain ⟨step, inside, rfl⟩ := List.mem_map.mp member
    have own := written step inside
    exact ⟨own.text_ne_nil, own.text_ne_dot, own.2⟩
  · rw [← List.map_tail]
    intro member
    obtain ⟨step, inside, dots⟩ := List.mem_map.mp member
    have same := (written step (List.mem_of_mem_tail inside)).eq_up dots
    exact later (same ▸ inside)

/-- A path that is read from the root or from a home directory at the root is cleaned without changing where it leads,
and the cleaned path stays as it is wherever it is read from. -/
theorem expand_absolute {base home : Path} (fromRoot : base.isAbsolute = true) (homeFromRoot : home.isAbsolute = true)
    (written : Text) :
    (expand written base home).IsClean ∧
      (∀ here, (expand written base home).walk here = (joined written base home).walk here) ∧
      ∀ otherBase otherHome,
        expand (expand written base home).text otherBase otherHome = expand written base home := by
  obtain ⟨kept, rooted, cleaned, leads⟩ := exists_rooted (joined_isAbsolute fromRoot homeFromRoot written)
  rw [expand_eq written, cleaned]
  refine ⟨rooted.isClean, ?_, ?_⟩
  · intro here
    rw [walk, rooted.components, leads]
  · intro otherBase otherHome
    obtain ⟨parts, text, -⟩ := rooted.isClean
    have absolute : (ofComponents kept.reverse).isAbsolute = true := (isAbsolute_iff _).mpr ⟨_, text⟩
    rw [expand_of_isAbsolute absolute, clean, rooted.components, rooted.foldl_reverse]

/-- Above the root a double dot is kept, and it leads to the root. -/
theorem expand_absolute_above :
    let base : Path := ⟨"/w".toList⟩
    let home : Path := ⟨"/h".toList⟩
    expand "~/../../id".toList base home = ⟨"/../id".toList⟩ ∧
      (Path.mk "/../id".toList).IsClean ∧
      (Path.mk "/../id".toList).walk [] = (joined "~/../../id".toList base home).walk [] := by
  intro base home
  have same : expand "~/../../id".toList base home = ⟨"/../id".toList⟩ := by decide
  obtain ⟨cleaned, leads, -⟩ := @expand_absolute base home (by decide) (by decide) "~/../../id".toList
  rw [same] at cleaned leads
  exact ⟨same, cleaned, leads []⟩

end Path

/-! ### Relative paths -/

/-- What the steps of a relative path come to: so many double dots that find no name in front of them to take back, and
behind them the names that are left, the latest first. -/
structure Course where
  ups : Nat
  names : List Text
deriving DecidableEq, Repr

namespace Course

/-- One more step. A double dot takes the latest name back; without a name it is counted. -/
def step (course : Course) : Component → Course
  | .up =>
      match course.names with
      | [] => ⟨course.ups + 1, []⟩
      | _ :: earlier => ⟨course.ups, earlier⟩
  | .name text => ⟨course.ups, text :: course.names⟩
  | _ => course

/-- Where a course leads from a directory. -/
def goal (course : Course) (here : List Text) : List Text :=
  course.names ++ here.drop course.ups

/-- What cleaning keeps of a course, the latest step first: the names, and one double dot for an odd number of them. -/
def kept (course : Course) : List Component :=
  course.names.map .name ++ List.replicate (course.ups % 2) .up

variable (course : Course) {step : Component} (relative : step ≠ .root)

include relative

theorem goal_step (here : List Text) : (course.step step).goal here = Component.lead (course.goal here) step := by
  obtain ⟨ups, names⟩ := course
  cases step with
  | root => exact absurd rfl relative
  | current => rfl
  | up =>
      cases names with
      | nil => exact (List.tail_drop ..).symm
      | cons name earlier => rfl
  | name text => rfl

theorem kept_step : (course.step step).kept = Path.cleanStep course.kept step := by
  obtain ⟨ups, names⟩ := course
  cases step with
  | root => exact absurd rfl relative
  | current => rfl
  | up =>
      cases names with
      | nil =>
          simp only [Course.step, kept, List.map_nil, List.nil_append]
          rcases Nat.mod_two_eq_zero_or_one ups with even | odd
          · have next : (ups + 1) % 2 = 1 := by omega
            rw [even, next]
            rfl
          · have next : (ups + 1) % 2 = 0 := by omega
            rw [odd, next]
            rfl
      | cons name earlier => rfl
  | name text => rfl

omit relative in
/-- A course leads where its steps lead, and cleaning keeps of its steps what it keeps of the course. -/
theorem foldl_step {steps : List Component} (relative : ∀ step ∈ steps, step ≠ .root) (here : List Text) :
    (steps.foldl Course.step course).goal here = steps.foldl Component.lead (course.goal here) ∧
      (steps.foldl Course.step course).kept = steps.foldl Path.cleanStep course.kept := by
  induction steps generalizing course with
  | nil => exact ⟨rfl, rfl⟩
  | cons step steps ih =>
      obtain ⟨first, others⟩ := List.forall_mem_cons.mp relative
      obtain ⟨goals, keeps⟩ := ih (course.step step) others
      rw [goal_step course first] at goals
      rw [kept_step course first] at keeps
      exact ⟨goals, keeps⟩

omit relative in
/-- Where the steps lead that cleaning keeps of a course. -/
theorem lead_kept (here : List Text) :
    course.kept.reverse.foldl Component.lead here = course.names ++ here.drop (course.ups % 2) := by
  have dots : (List.replicate (course.ups % 2) Component.up).reverse.foldl Component.lead here =
      here.drop (course.ups % 2) := by
    rcases Nat.mod_two_eq_zero_or_one course.ups with even | odd
    · rw [even]
      rfl
    · rw [odd]
      exact List.drop_one.symm
  rw [kept, List.reverse_append, List.foldl_append, dots]
  induction course.names with
  | nil => rfl
  | cons name earlier ih =>
      rw [List.map_cons, List.reverse_cons, List.foldl_append, ih]
      rfl

end Course

namespace Path

/-- The course of a path. -/
def course (path : Path) : Course :=
  path.components.foldl Course.step ⟨0, []⟩

theorem join_relative {base : Path} (relative : base.isAbsolute = false) {written : Text}
    (noRoot : written.head? ≠ some '/') : (base.join written).isAbsolute = false := by
  have other : ∀ path : Path, path.text.head? ≠ some '/' → path.isAbsolute = false := fun path differs => by
    rw [isAbsolute, beq_eq_false_iff_ne]
    exact differs
  have front : base.text.head? ≠ some '/' := by
    rw [isAbsolute, beq_eq_false_iff_ne] at relative
    exact relative
  unfold join
  rw [if_neg noRoot]
  split
  · exact other _ noRoot
  · next given =>
    obtain ⟨first, rest, text⟩ := List.exists_cons_of_ne_nil given
    rw [text] at front ⊢
    split
    · exact other _ front
    · exact other _ front

/-- A step of what is kept is written if the steps of the path are. -/
theorem isWritten_of_mem_cleanStep {kept : List Component} (written : ∀ step ∈ kept, step.IsWritten)
    {step : Component} (next : step = .current ∨ step.IsWritten) {other : Component}
    (member : other ∈ cleanStep kept step) : other.IsWritten := by
  rcases next with rfl | own
  · exact written other member
  · obtain rfl | ⟨text, rfl⟩ := own.cases
    · cases kept with
      | nil => exact List.mem_singleton.mp member ▸ own
      | cons latest earlier =>
          rw [cleanStep_up (written latest List.mem_cons_self).ne_root] at member
          exact written other (List.mem_cons_of_mem _ member)
    · rcases List.mem_cons.mp member with rfl | inside
      · exact own
      · exact written other inside

theorem isWritten_of_mem_foldl {steps kept : List Component} (written : ∀ step ∈ kept, step.IsWritten)
    (next : ∀ step ∈ steps, step = .current ∨ step.IsWritten) :
    ∀ step ∈ steps.foldl cleanStep kept, step.IsWritten := by
  induction steps generalizing kept with
  | nil => exact written
  | cons step steps ih =>
      obtain ⟨first, others⟩ := List.forall_mem_cons.mp next
      exact ih (fun _ => isWritten_of_mem_cleanStep written first) others

section

variable {path : Path} (relative : path.isAbsolute = false)

include relative

theorem current_or_written {step : Component} (member : step ∈ path.components) :
    step = .current ∨ step.IsWritten := by
  rw [components_relative relative] at member
  split at member
  · rcases List.mem_cons.mp member with dot | later
    · exact .inl dot
    · exact .inr (isWritten_of_mem_steps later)
  · exact .inr (isWritten_of_mem_steps member)

theorem ne_root_of_mem {step : Component} (member : step ∈ path.components) : step ≠ .root := by
  rintro rfl
  rcases current_or_written relative member with other | written
  · cases other
  · exact written.ne_root rfl

theorem walk_relative (here : List Text) : path.walk here = path.course.goal here :=
  (Course.foldl_step ⟨0, []⟩ (fun _ => ne_root_of_mem relative) here).1.symm

theorem clean_relative : clean path = ofComponents path.course.kept.reverse := by
  rw [course, (Course.foldl_step ⟨0, []⟩ (fun _ => ne_root_of_mem relative) []).2]
  rfl

theorem walk_clean (here : List Text) :
    (clean path).walk here = path.course.names ++ here.drop (path.course.ups % 2) := by
  have written : ∀ step ∈ path.course.kept.reverse, step.IsWritten := by
    intro step member
    rw [List.mem_reverse, course, (Course.foldl_step ⟨0, []⟩ (fun _ => ne_root_of_mem relative) []).2] at member
    exact isWritten_of_mem_foldl (List.forall_mem_nil _) (fun _ => current_or_written relative) step member
  rw [clean_relative relative, walk, components_ofComponents written, Course.lead_kept]

end

/-- Where a relative path leads before and after it is cleaned. Of its double dots without a name in front of them an
odd number becomes one and an even number none, and so cleaning leads to the same place from every deep directory
exactly if there is at most one of them. -/
theorem expand_relative {base : Path} (relative : base.isAbsolute = false) {written : Text}
    (noRoot : written.head? ≠ some '/') (noHome : written.head? ≠ some '~') (home : Path) :
    let asked := base.join written
    (∀ here, asked.walk here = asked.course.names ++ here.drop asked.course.ups) ∧
      (∀ here, (expand written base home).walk here = asked.course.names ++ here.drop (asked.course.ups % 2)) ∧
      ((∃ depth, ∀ here : List Text, depth ≤ here.length → (expand written base home).walk here = asked.walk here) ↔
        asked.course.ups < 2) := by
  intro asked
  have still : asked.isAbsolute = false := join_relative relative noRoot
  have before : ∀ here, asked.walk here = asked.course.names ++ here.drop asked.course.ups := walk_relative still
  have after : ∀ here, (expand written base home).walk here =
      asked.course.names ++ here.drop (asked.course.ups % 2) := by
    intro here
    rw [expand_eq, joined_of_relative noRoot noHome]
    exact walk_clean still here
  refine ⟨before, after, ?_, ?_⟩
  · rintro ⟨depth, same⟩
    -- in a directory that is deep enough the lengths of both ways tell the numbers of double dots apart
    have deep := congrArg List.length (same (List.replicate (depth + asked.course.ups) []) (by simp))
    rw [before, after] at deep
    simp only [List.length_append, List.length_drop, List.length_replicate] at deep
    omega
  · intro few
    refine ⟨0, fun here _ => ?_⟩
    rw [before, after, Nat.mod_eq_of_lt few]

/-- One double dot that leaves the base is kept. -/
theorem expand_relative_once :
    let base : Path := ⟨"keys".toList⟩
    expand "../../id".toList base ⟨[]⟩ = ⟨"../id".toList⟩ ∧
      ∃ depth, ∀ here : List Text, depth ≤ here.length →
        (expand "../../id".toList base ⟨[]⟩).walk here = (base.join "../../id".toList).walk here := by
  intro base
  obtain ⟨-, -, same⟩ :=
    @expand_relative base (by decide) "../../id".toList (by decide) (by decide) ⟨[]⟩
  exact ⟨by decide, same.mpr (by decide)⟩

/-- Two double dots that leave the base take each other back, and the cleaned path leads into another directory. -/
theorem expand_loses_way :
    ¬ ∀ base home written, base.isAbsolute = false → written.head? ≠ some '/' → written.head? ≠ some '~' →
      ∃ depth, ∀ here : List Text, depth ≤ here.length →
        (expand written base home).walk here = (base.join written).walk here := by
  intro same
  obtain ⟨depth, leads⟩ :=
    same ⟨"keys".toList⟩ ⟨"/h".toList⟩ "../../../id".toList (by decide) (by decide) (by decide)
  have cleaned : expand "../../../id".toList ⟨"keys".toList⟩ ⟨"/h".toList⟩ = ⟨"id".toList⟩ := by decide
  have deep := congrArg List.length (leads (List.replicate (depth + 2) []) (by simp))
  have short : (Path.mk "id".toList).components = [.name "id".toList] := by decide
  have long : (Path.join ⟨"keys".toList⟩ "../../../id".toList).components =
      [.name "keys".toList, .up, .up, .up, .name "id".toList] := by decide
  rw [cleaned, walk, walk, short, long] at deep
  simp only [List.foldl_cons, List.foldl_nil, Component.lead, List.tail_cons, List.replicate_succ, List.length_cons,
    List.length_replicate] at deep
  omega

end Path

end SecureShell
