/-
Module: SecureShell.Proofs.SourceHistory
Purpose: What a source list holds is a function of the changes made to it since it was cleared last. In front stand
  the places at which a source was put in front, each with the source of the latest such change, the latest
  change first; behind them stand the places at which sources were only put at the end, each with the source of
  the first such change, in the order of these changes. No two entries stand at the same place. The default files
  that are found count as put at the end.
Main exports: Source.SharesPlace, SourceChange, SourceList.after, SourceList.Distinct, sinceClear, latest,
  earliest, told, SourceList.after_told, SourceList.after_history
-/
import Mathlib.Data.List.DropRight
import SecureShell.Config.Source

namespace SecureShell

namespace Source

/-- Two sources stand at the same place: their paths have the same steps. -/
def SharesPlace (left right : Source) : Prop :=
  left.path.SameComponents right.path

instance (left right : Source) : Decidable (SharesPlace left right) :=
  inferInstanceAs (Decidable (left.path.SameComponents right.path))

theorem SharesPlace.symm {left right : Source} (same : left.SharesPlace right) : right.SharesPlace left :=
  Eq.symm same

theorem SharesPlace.trans {left middle right : Source} (first : left.SharesPlace middle)
    (second : middle.SharesPlace right) : left.SharesPlace right :=
  Eq.trans first second

end Source

/-- The place of a source is taken by one of a row. -/
def Taken (row : List Source) (source : Source) : Prop :=
  ∃ other ∈ row, other.SharesPlace source

instance (row : List Source) (source : Source) : Decidable (Taken row source) :=
  inferInstanceAs (Decidable (∃ other ∈ row, other.SharesPlace source))

@[simp] theorem not_taken_nil (source : Source) : ¬ Taken [] source := by
  simp [Taken]

@[simp] theorem taken_cons (first : Source) (row : List Source) (source : Source) :
    Taken (first :: row) source ↔ first.SharesPlace source ∨ Taken row source := by
  simp [Taken]

@[simp] theorem taken_append (front back : List Source) (source : Source) :
    Taken (front ++ back) source ↔ Taken front source ∨ Taken back source := by
  simp [Taken, or_and_right, exists_or]

@[simp] theorem taken_reverse (row : List Source) (source : Source) :
    Taken row.reverse source ↔ Taken row source := by
  simp [Taken]

theorem Taken.congr {row : List Source} {source other : Source} (taken : Taken row source)
    (same : source.SharesPlace other) : Taken row other := by
  obtain ⟨held, member, shares⟩ := taken
  exact ⟨held, member, shares.trans same⟩

/-- A change of a source list. -/
inductive SourceChange where
  | unshift (source : Source)
  | append (source : Source)
  | clear
deriving DecidableEq, Repr

namespace SourceChange

/-- Whether a change drops every source. -/
def isClear : SourceChange → Bool
  | clear => true
  | _ => false

/-- The source that a change puts in front. -/
def unshifted? : SourceChange → Option Source
  | unshift source => some source
  | _ => none

/-- The source that a change puts at the end. -/
def appended? : SourceChange → Option Source
  | append source => some source
  | _ => none

/-- The source that a change adds at either end. -/
def added? : SourceChange → Option Source
  | unshift source => some source
  | append source => some source
  | clear => none

end SourceChange

/-- The changes of a source list in the order in which they are made. -/
abbrev SourceHistory := List SourceChange

namespace SourceList

/-- Makes one change. -/
def change (list : SourceList) : SourceChange → SourceList
  | .unshift source => list.unshift source
  | .append source => list.append source
  | .clear => list.clear

/-- Makes changes one after the other. -/
def after (list : SourceList) (history : SourceHistory) : SourceList :=
  history.foldl change list

@[simp] theorem after_nil (list : SourceList) : list.after [] = list := rfl

theorem after_cons (list : SourceList) (change : SourceChange) (history : SourceHistory) :
    list.after (change :: history) = (list.change change).after history := rfl

theorem after_append (list : SourceList) (front back : SourceHistory) :
    list.after (front ++ back) = (list.after front).after back :=
  List.foldl_append

end SourceList

/-! ### What a history comes to -/

/-- The changes behind the last one that drops every source. -/
def sinceClear (history : SourceHistory) : SourceHistory :=
  history.rtakeWhile fun change => !change.isClear

/-- The sources that are put in front, in the order of the changes. -/
def unshifted (history : SourceHistory) : List Source :=
  history.filterMap SourceChange.unshifted?

/-- The sources that are put at the end, in the order of the changes. -/
def appended (history : SourceHistory) : List Source :=
  history.filterMap SourceChange.appended?

/-- The sources that are added at either end, in the order of the changes. -/
def added (history : SourceHistory) : List Source :=
  history.filterMap SourceChange.added?

/-- The latest source at each place, in the order of the row. -/
def latest : List Source → List Source
  | [] => []
  | source :: later => if Taken later source then latest later else source :: latest later

/-- The first source at each place, in the order of the row. -/
def earliest : List Source → List Source
  | [] => []
  | source :: later => source :: (earliest later).filter fun other => ¬ source.SharesPlace other

/-- What a source list holds by its history: the latest source in front for each place, the latest of all first,
and then the first source at the end for each place at which none was put in front. -/
def told (history : SourceHistory) : List Source :=
  (latest (unshifted (sinceClear history))).reverse
    ++ (earliest (appended (sinceClear history))).filter
      fun source => ¬ Taken (unshifted (sinceClear history)) source

example :
    let source (name : Char) (content : Nat) : Source := ⟨⟨['/', name]⟩, [content.toUInt8], false⟩
    told [.append (source 'x' 0), .clear, .append (source 'a' 1), .unshift (source 'b' 2), .append (source 'c' 3),
        .append (source 'a' 4), .unshift (source 'c' 5), .unshift (source 'b' 6)]
      = [source 'b' 6, source 'c' 5, source 'a' 1] := by
  decide

@[simp] theorem unshifted_append (front back : SourceHistory) :
    unshifted (front ++ back) = unshifted front ++ unshifted back :=
  List.filterMap_append

@[simp] theorem appended_append (front back : SourceHistory) :
    appended (front ++ back) = appended front ++ appended back :=
  List.filterMap_append

@[simp] theorem added_append (front back : SourceHistory) :
    added (front ++ back) = added front ++ added back :=
  List.filterMap_append

@[simp] theorem unshifted_map_append (sources : List Source) : unshifted (sources.map .append) = [] := by
  simp [unshifted, SourceChange.unshifted?]

@[simp] theorem appended_map_append (sources : List Source) : appended (sources.map .append) = sources :=
  List.filterMap_map.trans List.filterMap_some

theorem mem_added_iff (history : SourceHistory) (source : Source) :
    source ∈ added history ↔ source ∈ unshifted history ∨ source ∈ appended history := by
  simp only [added, unshifted, appended, List.mem_filterMap, ← exists_or, ← and_or_left]
  refine exists_congr fun change => and_congr_right fun _ => ?_
  cases change <;> simp [SourceChange.added?, SourceChange.unshifted?, SourceChange.appended?]

/-! ### The latest and the first source of each place -/

theorem latest_sublist (row : List Source) : (latest row).Sublist row := by
  induction row with
  | nil => exact .slnil
  | cons source later ih =>
      rw [latest]
      split
      · exact ih.cons source
      · exact ih.cons_cons source

theorem earliest_sublist (row : List Source) : (earliest row).Sublist row := by
  induction row with
  | nil => exact .slnil
  | cons source later ih => exact (List.filter_sublist.trans ih).cons_cons source

/-- Taking the latest of each place loses no place. -/
theorem taken_latest_iff (row : List Source) (source : Source) :
    Taken (latest row) source ↔ Taken row source := by
  induction row with
  | nil => rfl
  | cons first later ih =>
      rw [latest]
      by_cases again : Taken later first
      · rw [if_pos again, ih, taken_cons]
        exact ⟨.inr, fun taken => taken.elim again.congr id⟩
      · rw [if_neg again, taken_cons, taken_cons, ih]

/-- Taking the first of each place loses no place. -/
theorem taken_earliest_iff (row : List Source) (source : Source) :
    Taken (earliest row) source ↔ Taken row source := by
  induction row with
  | nil => rfl
  | cons first later ih =>
      rw [earliest, taken_cons, taken_cons, ← ih]
      constructor
      · rintro (here | ⟨other, member, shares⟩)
        · exact .inl here
        · exact .inr ⟨other, List.mem_of_mem_filter member, shares⟩
      · rintro (here | ⟨other, member, shares⟩)
        · exact .inl here
        · by_cases same : first.SharesPlace other
          · exact .inl (same.trans shares)
          · exact .inr ⟨other, List.mem_filter.mpr ⟨member, by simpa using same⟩, shares⟩

/-- A further source is the latest of its place. -/
theorem latest_concat (row : List Source) (source : Source) :
    latest (row ++ [source]) = (latest row).filter (fun other => ¬ other.SharesPlace source) ++ [source] := by
  induction row with
  | nil => rfl
  | cons first later ih =>
      rw [List.cons_append, latest, latest, ih]
      by_cases again : Taken later first
      · have still : Taken (later ++ [source]) first := (taken_append ..).mpr (.inl again)
        rw [if_pos still, if_pos again]
      · by_cases same : source.SharesPlace first
        · have still : Taken (later ++ [source]) first := ⟨source, by simp, same⟩
          rw [if_pos still, if_neg again, List.filter_cons_of_neg (by simpa using same.symm)]
        · have none : ¬ Taken (later ++ [source]) first := by simp [again, same]
          have other : ¬ first.SharesPlace source := fun shares => same shares.symm
          rw [if_neg none, if_neg again, List.filter_cons_of_pos (by simpa using other), List.cons_append]

/-- A further source is the first of its place, unless the place is taken. -/
theorem earliest_concat (row : List Source) (source : Source) :
    earliest (row ++ [source]) = earliest row ++ if Taken row source then [] else [source] := by
  induction row with
  | nil => rfl
  | cons first later ih =>
      rw [List.cons_append, earliest, earliest, ih, List.filter_append, List.cons_append]
      by_cases same : first.SharesPlace source
      · have taken : Taken (first :: later) source := (taken_cons ..).mpr (.inl same)
        rw [if_pos taken]
        by_cases again : Taken later source <;> simp [again, same]
      · by_cases again : Taken later source <;> simp [again, same]

/-! ### What a further change does -/

@[simp] theorem sinceClear_concat (history : SourceHistory) (change : SourceChange) :
    sinceClear (history ++ [change]) = if change.isClear then [] else sinceClear history ++ [change] := by
  rw [sinceClear, List.rtakeWhile_concat]
  cases change.isClear <;> rfl

/-- Only the changes behind the last clearing count, and without one all of them. -/
theorem sinceClear_append (front back : SourceHistory) :
    sinceClear (front ++ back) =
      if .clear ∈ back then sinceClear back else sinceClear front ++ back := by
  induction back using List.reverseRecOn with
  | nil => simp
  | append_singleton back change ih =>
      rw [← List.append_assoc, sinceClear_concat, sinceClear_concat, ih]
      by_cases dropped : .clear ∈ back <;> cases change <;> simp [SourceChange.isClear, dropped]

/-- What is seen of the changes since the last clearing is seen of all changes. -/
theorem filterMap_sinceClear_subset {α : Type} (view : SourceChange → Option α) (history : SourceHistory) :
    (sinceClear history).filterMap view ⊆ history.filterMap view :=
  ((List.rtakeWhile_suffix _ history).sublist.filterMap view).subset

theorem told_clear (history : SourceHistory) : told (history ++ [.clear]) = [] := by
  simp [told, SourceChange.isClear, unshifted, appended, latest, earliest]

theorem told_unshift (history : SourceHistory) (source : Source) :
    told (history ++ [.unshift source])
      = source :: (told history).filter fun other => ¬ other.SharesPlace source := by
  have front : unshifted (sinceClear (history ++ [.unshift source]))
      = unshifted (sinceClear history) ++ [source] := by
    simp [SourceChange.isClear, unshifted, SourceChange.unshifted?]
  have back : appended (sinceClear (history ++ [.unshift source])) = appended (sinceClear history) := by
    simp [SourceChange.isClear, appended, SourceChange.appended?]
  have kept : (fun other => decide ¬ Taken (unshifted (sinceClear history) ++ [source]) other)
      = fun other => decide (¬ other.SharesPlace source)
        && decide ¬ Taken (unshifted (sinceClear history)) other := by
    funext other
    have shares : source.SharesPlace other ↔ other.SharesPlace source := ⟨.symm, .symm⟩
    simp [shares, Bool.and_comm]
  rw [told, front, back, latest_concat, kept, told, List.filter_append, List.filter_filter]
  simp

/-- A place is taken in what a history comes to if a source has been added there since the last clearing. -/
theorem taken_told_iff (history : SourceHistory) (source : Source) :
    Taken (told history) source ↔
      Taken (unshifted (sinceClear history)) source ∨ Taken (appended (sinceClear history)) source := by
  rw [told, taken_append, taken_reverse, taken_latest_iff]
  constructor
  · rintro (front | ⟨other, member, shares⟩)
    · exact .inl front
    · exact .inr ((taken_earliest_iff ..).mp ⟨other, List.mem_of_mem_filter member, shares⟩)
  · rintro (front | back)
    · exact .inl front
    · obtain ⟨other, member, shares⟩ := (taken_earliest_iff ..).mpr back
      by_cases front : Taken (unshifted (sinceClear history)) other
      · exact .inl (front.congr shares)
      · exact .inr ⟨other, List.mem_filter.mpr ⟨member, by simpa using front⟩, shares⟩

theorem told_append (history : SourceHistory) (source : Source) :
    told (history ++ [.append source])
      = told history ++ if Taken (told history) source then [] else [source] := by
  have front : unshifted (sinceClear (history ++ [.append source])) = unshifted (sinceClear history) := by
    simp [SourceChange.isClear, unshifted, SourceChange.unshifted?]
  have back : appended (sinceClear (history ++ [.append source]))
      = appended (sinceClear history) ++ [source] := by
    simp [SourceChange.isClear, appended, SourceChange.appended?]
  have taken := taken_told_iff history source
  rw [told, front, back, earliest_concat, List.filter_append, ← List.append_assoc, ← told]
  congr 1
  by_cases inFront : Taken (unshifted (sinceClear history)) source
  · rw [if_pos (taken.mpr (.inl inFront))]
    by_cases atEnd : Taken (appended (sinceClear history)) source <;> simp [atEnd, inFront]
  · by_cases atEnd : Taken (appended (sinceClear history)) source
    · rw [if_pos (taken.mpr (.inr atEnd)), if_pos atEnd, List.filter_nil]
    · have none : ¬ Taken (told history) source := fun held => (taken.mp held).elim inFront atEnd
      simp [inFront, atEnd, none]

/-! ### A source list has its history's content -/

namespace SourceList

/-- No two sources of a row stand at the same place. -/
def Distinct (row : List Source) : Prop :=
  row.Pairwise fun earlier later => ¬ earlier.SharesPlace later

/-- From a row without two sources at the same place only those at places seen before are dropped. -/
theorem keepFirst_of_distinct {row : List Source} (distinct : Distinct row) (seen : List (List Component)) :
    keepFirst seen row = row.filter fun source => source.path.components ∉ seen := by
  induction row generalizing seen with
  | nil => rfl
  | cons source rest ih =>
      obtain ⟨apart, distinct⟩ := List.pairwise_cons.mp distinct
      simp only [keepFirst]
      by_cases known : source.path.components ∈ seen
      · rw [if_pos known, ih distinct, List.filter_cons_of_neg (by simpa using known)]
      · rw [if_neg known, ih distinct, List.filter_cons_of_pos (by simpa using known)]
        congr 1
        refine List.filter_congr fun other member => ?_
        have different : other.path.components ≠ source.path.components :=
          fun same => apart other member same.symm
        simp [different]

/-- A source at the end stays if its place has not been seen and is not taken in front of it. -/
theorem keepFirst_concat (seen : List (List Component)) (row : List Source) (source : Source) :
    keepFirst seen (row ++ [source]) =
      keepFirst seen row ++
        if source.path.components ∈ seen ∨ Taken row source then [] else [source] := by
  induction row generalizing seen with
  | nil =>
      by_cases known : source.path.components ∈ seen <;> simp [keepFirst, known]
  | cons first rest ih =>
      have place : first.SharesPlace source ↔ source.path.components = first.path.components :=
        ⟨Eq.symm, Eq.symm⟩
      simp only [List.cons_append, keepFirst, taken_cons]
      by_cases known : first.path.components ∈ seen
      · have reach : source.path.components ∈ seen ∨ Taken rest source ↔
            source.path.components ∈ seen ∨ first.SharesPlace source ∨ Taken rest source := by
          have same : first.SharesPlace source → source.path.components ∈ seen :=
            fun shares => place.mp shares ▸ known
          rw [← or_assoc, or_iff_left_of_imp same]
        rw [if_pos known, if_pos known, ih]
        exact congrArg _ (if_congr reach rfl rfl)
      · have reach : source.path.components ∈ first.path.components :: seen ∨ Taken rest source ↔
            source.path.components ∈ seen ∨ first.SharesPlace source ∨ Taken rest source := by
          rw [List.mem_cons, ← place, or_assoc, or_left_comm]
        rw [if_neg known, if_neg known, ih, List.cons_append]
        exact congrArg _ (congrArg _ (if_congr reach rfl rfl))

/-- A source in front takes its place from the one that had it. -/
theorem unshift_sources {list : SourceList} (distinct : Distinct list.sources) (source : Source) :
    (list.unshift source).sources =
      source :: list.sources.filter fun other => ¬ other.SharesPlace source := by
  have place : (fun other : Source => decide (other.path.components ∉ [source.path.components]))
      = fun other => decide ¬ other.SharesPlace source := by
    funext other
    exact decide_eq_decide.mpr (not_congr List.mem_singleton)
  simp only [unshift, keepFirst, if_neg List.not_mem_nil, keepFirst_of_distinct distinct, place]

/-- A source at the end stays if its place is not taken. -/
theorem append_sources {list : SourceList} (distinct : Distinct list.sources) (source : Source) :
    (list.append source).sources =
      list.sources ++ if Taken list.sources source then [] else [source] := by
  rw [append, keepFirst_concat, keepFirst_of_distinct distinct]
  simp

/-- A change keeps the places apart. -/
theorem change_distinct {list : SourceList} (distinct : Distinct list.sources) (change : SourceChange) :
    Distinct (list.change change).sources := by
  cases change with
  | unshift source =>
      rw [SourceList.change, unshift_sources distinct, Distinct, List.pairwise_cons]
      refine ⟨fun other member shares => ?_, distinct.filter _⟩
      have apart := (List.mem_filter.mp member).2
      simp [shares.symm] at apart
  | append source =>
      rw [SourceList.change, append_sources distinct, Distinct, List.pairwise_append]
      refine ⟨distinct, by split <;> simp, fun other member last found => ?_⟩
      split at found
      · cases found
      · next free =>
        obtain rfl := List.mem_singleton.mp found
        exact fun shares => free ⟨other, member, shares⟩
  | clear => exact .nil

/-- A list made from nothing holds what its history comes to, with no two sources at the same place. -/
theorem after_told (history : SourceHistory) :
    Distinct (empty.after history).sources ∧ (empty.after history).sources = told history := by
  -- from the end, because only the last change is made on a list that has its places apart already
  induction history using List.reverseRecOn with
  | nil => exact ⟨.nil, rfl⟩
  | append_singleton history change ih =>
      obtain ⟨distinct, same⟩ := ih
      rw [after_append]
      refine ⟨change_distinct distinct change, ?_⟩
      change ((empty.after history).change change).sources = told (history ++ [change])
      cases change with
      | unshift source => rw [told_unshift, SourceList.change, unshift_sources distinct, same]
      | append source => rw [told_append, SourceList.change, append_sources distinct, same]
      | clear => rw [told_clear]; rfl

/-! ### The default files count as put at the end -/

/-- The source of a default file, if its name is taken; then it has to be readable. -/
def defaultSource? (files : FileSystem) (directory home : Path) (written : Text) :
    Except ConfigFailure (Option Source) :=
  let path := Path.expand written directory home
  if files.present path then
    match files.read path with
    | .error cause => .error (.unreadableConfig path cause)
    | .ok content => .ok (some ⟨path, content, true⟩)
  else .ok none

/-- The default files that are found: the user's own before the one of the whole system. -/
def foundDefaults (files : FileSystem) (directory home : Path) : Except ConfigFailure (List Source) :=
  (["~/.ssh/config".toList, "/etc/ssh/ssh_config".toList].mapM (defaultSource? files directory home)).map
    fun found => found.filterMap id

theorem appendDefault_eq (files : FileSystem) (directory home : Path) (list : SourceList) (written : Text) :
    appendDefault files directory home list written =
      (defaultSource? files directory home written).map fun found =>
        list.after (found.toList.map .append) := by
  simp only [appendDefault, defaultSource?]
  split
  · cases files.read (Path.expand written directory home) <;> rfl
  · rfl

/-- Looking for files one after the other puts those that are found at the end. -/
theorem foldlM_appendDefault (files : FileSystem) (directory home : Path) (paths : List Text)
    (list : SourceList) :
    paths.foldlM (appendDefault files directory home) list =
      (paths.mapM (defaultSource? files directory home)).map fun found =>
        list.after ((found.filterMap id).map .append) := by
  induction paths generalizing list with
  | nil => rfl
  | cons written paths ih =>
      rw [List.foldlM_cons, List.mapM_cons, appendDefault_eq]
      cases defaultSource? files directory home written with
      | error failure => rfl
      | ok found =>
          change paths.foldlM (appendDefault files directory home) _ = _
          rw [ih]
          cases paths.mapM (defaultSource? files directory home) with
          | error failure => rfl
          | ok others => cases found <;> rfl

/-- The default list is made from nothing by putting the files that are found at the end. -/
theorem defaults_eq (files : FileSystem) (directory home : Path) :
    defaults files directory home =
      (foundDefaults files directory home).map fun found => empty.after (found.map .append) := by
  rw [defaults, foldlM_appendDefault, defaultPaths, foundDefaults]
  cases List.mapM (defaultSource? files directory home) _ <;> rfl

/-- The history law: what a list holds is told by its history, and no two sources that a history tells stand at
the same place. A list that begins with the default files has them put at the end before anything else. -/
theorem after_history :
    (∀ history, Distinct (told history)) ∧
      (∀ history, (empty.after history).sources = told history) ∧
      ∀ files directory home history,
        (defaults files directory home).map (fun list => (list.after history).sources) =
          (foundDefaults files directory home).map fun found => told (found.map .append ++ history) := by
  refine ⟨fun history => ?_, fun history => (after_told history).2, fun files directory home history => ?_⟩
  · rw [← (after_told history).2]
    exact (after_told history).1
  · rw [defaults_eq]
    cases foundDefaults files directory home with
    | error failure => rfl
    | ok found =>
        simp only [Except.map, ← after_append, (after_told _).2]

end SourceList

end SecureShell
