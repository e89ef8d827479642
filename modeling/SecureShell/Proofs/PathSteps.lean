/-
Module: SecureShell.Proofs.PathSteps
Purpose: The steps of a path that is written behind another one. Behind an absolute path every part of a text
  stands for the step that it stands for anywhere, and slashes at the front of the text stand for nothing. Steps that
  can be written between slashes are read back as they were.
Main exports: Path.steps, Path.components_append, Path.components_join, Path.steps_withoutSlashes,
  Path.length_steps_tilde, Component.IsWritten, Path.components_relative, Path.components_ofRoot,
  Path.components_ofComponents
-/
import SecureShell.Path.Basic

namespace SecureShell.Path

/-- The steps that a text stands for behind an absolute path. -/
def steps (text : Text) : List Component :=
  (Text.segments '/' text).filterMap Component.ofSegment

theorem steps_append (front back : Text) : steps (front ++ '/' :: back) = steps front ++ steps back := by
  rw [steps, Text.segments_append, List.filterMap_append]
  rfl

theorem steps_nil : steps [] = [] := rfl

theorem steps_slash (text : Text) : steps ('/' :: text) = steps text :=
  steps_append [] text

/-- A tilde in front of a text takes no step away from it. -/
theorem length_steps_tilde (text : Text) : (steps text).length ≤ (steps ('~' :: text)).length := by
  obtain ⟨first, others, cut⟩ := List.exists_cons_of_ne_nil (Text.segments_ne_nil '/' text)
  have named : Component.ofSegment ('~' :: first) = some (.name ('~' :: first)) := by
    simp [Component.ofSegment]
  have marked : Text.segments '/' ('~' :: text) = ('~' :: first) :: others := by
    rw [Text.segments, if_neg (by decide), cut]
  rw [steps, steps, cut, marked, List.filterMap_cons_some named, List.length_cons]
  cases step : Component.ofSegment first with
  | none =>
      rw [List.filterMap_cons_none step]
      exact Nat.le_succ _
  | some _ => simp [List.filterMap_cons_some step]

/-- Slashes in front stand for nothing. -/
theorem steps_withoutSlashes (text : Text) : steps (text.dropWhile (· = '/')) = steps text := by
  induction text with
  | nil => rfl
  | cons c text ih =>
      by_cases slash : c = '/'
      · rw [List.dropWhile_cons_of_pos (by simp [slash]), ih, slash, steps_slash]
      · rw [List.dropWhile_cons_of_neg (by simp [slash])]

theorem isAbsolute_iff (path : Path) : path.isAbsolute = true ↔ ∃ rest, path.text = '/' :: rest := by
  simp [isAbsolute, List.head?_eq_some_iff]

theorem components_root (text : Text) : (Path.mk ('/' :: text)).components = .root :: steps text := rfl

/-- Text behind an absolute path and a slash adds its steps. -/
theorem components_append {path : Path} (absolute : path.isAbsolute = true) (text : Text) :
    (Path.mk (path.text ++ '/' :: text)).components = path.components ++ steps text := by
  obtain ⟨rest, written⟩ := (isAbsolute_iff path).mp absolute
  have whole : path = ⟨'/' :: rest⟩ := by rw [← written]
  rw [whole, components_root, List.cons_append, components_root, steps_append, List.cons_append]

/-- A path read from an absolute one adds its steps, unless it is absolute itself. -/
theorem components_join {base : Path} (absolute : base.isAbsolute = true) {written : Text}
    (relative : written.head? ≠ some '/') :
    (base.join written).components = base.components ++ steps written := by
  obtain ⟨rest, text⟩ := (isAbsolute_iff base).mp absolute
  rw [join, if_neg relative, if_neg (by simp [text])]
  by_cases slash : base.text.getLast? = some '/'
  · rw [if_pos slash]
    obtain ⟨front, ended⟩ := List.getLast?_eq_some_iff.mp slash
    cases front with
    | nil =>
        have whole : base = ⟨['/']⟩ := by rw [← List.nil_append ['/'], ← ended]
        rw [whole]
        exact components_root written
    | cons c front =>
        obtain rfl : c = '/' := by
          rw [text] at ended
          exact (List.cons.inj ended).1.symm
        have whole : base = ⟨'/' :: front ++ '/' :: []⟩ := by rw [← ended]
        rw [whole, List.append_assoc]
        change (Path.mk ('/' :: (front ++ '/' :: written))).components
          = (Path.mk ('/' :: (front ++ '/' :: []))).components ++ steps written
        rw [components_root, components_root, steps_append, steps_append, steps_nil, List.append_nil,
          List.cons_append]
  · rw [if_neg slash]
    exact components_append absolute written

theorem join_isAbsolute {base : Path} (absolute : base.isAbsolute = true) (written : Text) :
    (base.join written).isAbsolute = true := by
  obtain ⟨rest, text⟩ := (isAbsolute_iff base).mp absolute
  rw [isAbsolute_iff, join, text]
  by_cases alone : written.head? = some '/'
  · obtain ⟨behind, same⟩ := List.head?_eq_some_iff.mp alone
    exact ⟨behind, by rw [if_pos alone, same]⟩
  · rw [if_neg alone, if_neg (by simp)]
    split
    · exact ⟨rest ++ written, rfl⟩
    · exact ⟨rest ++ '/' :: written, rfl⟩

end SecureShell.Path

/-! ### Steps that are written between slashes -/

namespace SecureShell.Component

/-- Whether a step is what its text stands for between two slashes: a double dot or a name. -/
def IsWritten (step : Component) : Prop :=
  ofSegment step.text = some step ∧ '/' ∉ step.text

theorem isWritten_up : IsWritten .up :=
  ⟨rfl, by decide⟩

theorem text_of_ofSegment {segment : Text} {step : Component} (stands : ofSegment segment = some step) :
    step.text = segment := by
  unfold ofSegment at stands
  split at stands
  · cases stands
  · split at stands
    · cases stands
    · split at stands
      · next dots =>
        cases stands
        exact dots.symm
      · cases stands
        rfl

namespace IsWritten

variable {step : Component} (written : step.IsWritten)

include written

theorem cases : step = .up ∨ ∃ text, step = .name text := by
  cases step with
  | root => exact absurd written.1 (by decide)
  | current => exact absurd written.1 (by decide)
  | up => exact .inl rfl
  | name text => exact .inr ⟨text, rfl⟩

theorem ne_root : step ≠ .root := by
  obtain rfl | ⟨text, rfl⟩ := written.cases
  · nofun
  · nofun

theorem text_ne_nil : step.text ≠ [] := by
  intro empty
  have stands := written.1
  rw [empty] at stands
  cases stands

theorem text_ne_dot : step.text ≠ ['.'] := by
  intro dot
  have stands := written.1
  rw [dot] at stands
  cases stands

theorem eq_up (dots : step.text = ['.', '.']) : step = .up := by
  have stands := written.1
  rw [dots] at stands
  exact (Option.some.inj stands).symm

end IsWritten

end SecureShell.Component

namespace SecureShell.Path

/-- The steps of a text are written between its slashes. -/
theorem isWritten_of_mem_steps {text : Text} {step : Component} (member : step ∈ steps text) : step.IsWritten := by
  obtain ⟨segment, inside, stands⟩ := List.mem_filterMap.mp member
  have same := Component.text_of_ofSegment stands
  rw [Component.IsWritten, same]
  exact ⟨stands, Text.not_mem_of_mem_segments inside⟩

section

variable {rest : List Component} (written : ∀ step ∈ rest, step.IsWritten)

include written

/-- What written steps are written as between slashes. -/
theorem segments_written (nonempty : rest ≠ []) :
    Text.segments '/' (List.intercalate ['/'] (rest.map Component.text)) = rest.map Component.text := by
  refine Text.segments_intercalate (by simpa using nonempty) fun part member => ?_
  obtain ⟨step, inside, rfl⟩ := List.mem_map.mp member
  exact (written step inside).2

theorem filterMap_ofSegment_text : (rest.map Component.text).filterMap Component.ofSegment = rest := by
  induction rest with
  | nil => rfl
  | cons step rest ih =>
      obtain ⟨first, others⟩ := List.forall_mem_cons.mp written
      rw [List.map_cons, List.filterMap_cons_some first.1, ih others]

theorem steps_written : steps (List.intercalate ['/'] (rest.map Component.text)) = rest := by
  cases rest with
  | nil => rfl
  | cons step rest =>
      rw [steps, segments_written written (List.cons_ne_nil step rest), filterMap_ofSegment_text written]

/-- Written steps behind the root are read back. -/
theorem components_ofRoot : (ofComponents (.root :: rest)).components = .root :: rest := by
  rw [ofComponents, components_root, steps_written written]

end

/-- The steps of a relative path are those of its text, but a dot at its very beginning is a step of its own. -/
theorem components_relative {path : Path} (relative : path.isAbsolute = false) :
    path.components =
      if (Text.segments '/' path.text).head? = some ['.'] then .current :: steps path.text else steps path.text := by
  obtain ⟨first, others, cut⟩ := List.exists_cons_of_ne_nil (Text.segments_ne_nil '/' path.text)
  have shape : path.components = (if first = ['.'] then [.current] else (Component.ofSegment first).toList)
      ++ others.filterMap Component.ofSegment := by
    unfold components
    split
    · next rest rooted =>
      rw [isAbsolute, rooted] at relative
      cases relative
    · rw [cut]
  rw [shape, steps, cut, List.head?_cons]
  by_cases dot : first = ['.']
  · rw [if_pos dot, if_pos (congrArg some dot), List.filterMap_cons_none (by rw [dot]; rfl)]
    rfl
  · rw [if_neg dot, if_neg (fun same => dot (Option.some.inj same)), List.filterMap_cons]
    cases Component.ofSegment first <;> rfl

/-- Written steps are read back also without the root. -/
theorem components_ofComponents {path : List Component} (written : ∀ step ∈ path, step.IsWritten) :
    (ofComponents path).components = path := by
  cases path with
  | nil => rfl
  | cons step rest =>
      have first := written step List.mem_cons_self
      have text : ofComponents (step :: rest) = ⟨List.intercalate ['/'] ((step :: rest).map Component.text)⟩ := by
        obtain rfl | ⟨name, rfl⟩ := first.cases <;> rfl
      have cut := segments_written written (List.cons_ne_nil step rest)
      have relative : (ofComponents (step :: rest)).isAbsolute = false := by
        rw [Bool.eq_false_iff, Ne, isAbsolute_iff]
        rintro ⟨behind, rooted⟩
        have front : List.intercalate ['/'] ((step :: rest).map Component.text) = '/' :: behind := by
          rw [← rooted, text]
        rw [front, Text.segments, if_pos rfl] at cut
        exact first.text_ne_nil (List.cons.inj cut).1.symm
      have noDot : (Text.segments '/' (ofComponents (step :: rest)).text).head? ≠ some ['.'] := by
        rw [text, cut, List.map_cons, List.head?_cons]
        exact fun same => first.text_ne_dot (Option.some.inj same)
      rw [components_relative relative, if_neg noDot, text, steps_written written]

end SecureShell.Path
