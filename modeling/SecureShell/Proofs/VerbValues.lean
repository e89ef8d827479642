/-
Module: SecureShell.Proofs.VerbValues
Purpose: Putting in the values of verbs one after the other against putting them in at once. In one pass over a text
  each verb gives way to its value, and what is put in is not looked at again. Replacing the verbs one after the other
  comes to the same as long as no value brings in a verb that the text does not hold, by itself or together with the
  characters around it. The user, who is put in last, cannot do so; a port number, being made of digits, cannot; the
  name of the host can, and where it does the values get mixed up.
Main exports: Verbs.fill, Verbs.destination, Verbs.uses, Verbs.replace_append_of_uses, Verbs.replace_fill,
  Verbs.expand_eq_fill, Verbs.expand_verbatim
-/
import Mathlib.Logic.Function.Basic
import SecureShell.Verbs

namespace SecureShell.Verbs

/-- Puts values in the place of verbs, in one pass from the left to the right. What is put in is not looked at again;
every character that belongs to no verb with a value is kept. -/
def fill (values : Char → Option Text) : Text → Text
  | [] => []
  | [c] => [c]
  | first :: second :: rest =>
      if first = '%' then
        match values second with
        | some value => value ++ fill values rest
        | none => first :: fill values (second :: rest)
      else first :: fill values (second :: rest)

/-- The values that a destination gives to the three verbs. -/
def destination (user port hostname : Text) : Char → Option Text
  | 'h' => some hostname
  | 'p' => some port
  | 'r' => some user
  | _ => none

/-- How often a verb stands in a text. -/
def uses (verb : Char) : Text → Nat
  | [] => 0
  | c :: rest => (if c = '%' ∧ rest.head? = some verb then 1 else 0) + uses verb rest

/-- Whether a character in front of a text begins no verb that has a value. -/
def IsPlain (values : Char → Option Text) (c : Char) (rest : Text) : Prop :=
  c = '%' → ∀ verb ∈ rest.head?, values verb = none

/-! ### One pass -/

section

variable {values : Char → Option Text} {verb c : Char} {value : Text}

theorem fill_verb (given : values verb = some value) (rest : Text) :
    fill values ('%' :: verb :: rest) = value ++ fill values rest := by
  simp [fill, given]

theorem fill_plain {rest : Text} (plain : IsPlain values c rest) :
    fill values (c :: rest) = c :: fill values rest := by
  cases rest with
  | nil => rfl
  | cons next rest =>
      by_cases percent : c = '%'
      · simp [fill, plain percent next rfl]
      · simp [fill, percent]

/-- A text is empty, or begins with a verb that has a value, or with a character that belongs to none. -/
theorem fill_induction {motive : Text → Prop} (values : Char → Option Text) (nil : motive [])
    (verb : ∀ verb value rest, values verb = some value → motive rest → motive ('%' :: verb :: rest))
    (plain : ∀ c rest, IsPlain values c rest → motive rest → motive (c :: rest)) (text : Text) : motive text := by
  induction text using fill.induct values with
  | case1 => exact nil
  | case2 c => exact plain c [] nofun nil
  | case3 next rest value given ih => exact verb next value rest given ih
  | case4 next rest given ih =>
      refine plain '%' (next :: rest) (fun _ second first => ?_) ih
      obtain rfl := Option.some.inj first
      exact given
  | case5 c next rest other ih => exact plain c (next :: rest) (fun percent => absurd percent other) ih

end

/-! ### Counting verbs -/

section

variable {verb : Char}

theorem uses_plain {c : Char} {rest : Text} (plain : c = '%' → rest.head? ≠ some verb) :
    uses verb (c :: rest) = uses verb rest := by
  rw [uses, if_neg (fun begins => plain begins.1 begins.2), Nat.zero_add]

theorem uses_verb (letter : verb ≠ '%') (rest : Text) : uses verb ('%' :: verb :: rest) = uses verb rest + 1 := by
  rw [uses, if_pos ⟨rfl, rfl⟩, uses_plain (fun percent => absurd percent letter), Nat.add_comm]

theorem uses_other {other : Char} (different : other ≠ verb) (letter : other ≠ '%') (rest : Text) :
    uses verb ('%' :: other :: rest) = uses verb rest := by
  have first : (other :: rest).head? ≠ some verb := fun same => different (Option.some.inj same)
  rw [uses_plain (fun _ => first), uses_plain (fun percent => absurd percent letter)]

theorem uses_le_cons (c : Char) (rest : Text) : uses verb rest ≤ uses verb (c :: rest) :=
  Nat.le_add_left _ _

theorem uses_le_append (verb : Char) (front back : Text) : uses verb back ≤ uses verb (front ++ back) := by
  induction front with
  | nil => exact Nat.le_refl _
  | cons c front ih => exact Nat.le_trans ih (uses_le_cons c _)

/-- A text without percent signs in front adds no verb. -/
theorem uses_append_of_not_mem {front : Text} (free : '%' ∉ front) (back : Text) :
    uses verb (front ++ back) = uses verb back := by
  induction front with
  | nil => rfl
  | cons c front ih =>
      obtain ⟨other, free⟩ := List.ne_and_not_mem_of_not_mem_cons free
      rw [List.cons_append, uses_plain (fun percent => absurd percent.symm other), ih free]

end

/-! ### Replacing one verb -/

section

theorem replace_verb (verb : Char) (value rest : Text) :
    replace verb value ('%' :: verb :: rest) = value ++ replace verb value rest := by
  simp [replace]

variable {verb : Char} (value : Text)

theorem replace_plain {c : Char} {rest : Text} (plain : c = '%' → rest.head? ≠ some verb) :
    replace verb value (c :: rest) = c :: replace verb value rest := by
  cases rest with
  | nil => rfl
  | cons next rest =>
      by_cases percent : c = '%'
      · have different : next ≠ verb := fun same => plain percent (congrArg some same)
        simp [replace, different]
      · simp [replace, percent]

/-- A front that brings in no verb stays as it is. -/
theorem replace_append_of_uses {front back : Text} (same : uses verb (front ++ back) = uses verb back) :
    replace verb value (front ++ back) = front ++ replace verb value back := by
  induction front with
  | nil => rfl
  | cons c front ih =>
      have within : uses verb back ≤ uses verb (front ++ back) := uses_le_append verb front back
      have whole : uses verb (c :: (front ++ back)) = uses verb back := same
      rw [uses] at whole
      split at whole
      · omega
      · next plain =>
        rw [List.cons_append, replace_plain value fun percent first => plain ⟨percent, first⟩, ih (by omega)]
        rfl

end

/-! ### Replacing one verb after others -/

section

variable {values : Char → Option Text} {verb : Char} (sign : values '%' = none) (letter : verb ≠ '%')
  (free : values verb = none)

include letter free in
theorem fill_free (rest : Text) : fill values ('%' :: verb :: rest) = '%' :: verb :: fill values rest := by
  rw [fill_plain, fill_plain (fun percent => absurd percent letter)]
  intro _ second first
  obtain rfl := Option.some.inj first
  exact free

/-- A text is empty, or begins with the verb that is added to those with values, or with one of these, or with a
character that belongs to none. -/
theorem added_induction (values : Char → Option Text) (verb : Char) (sign : values '%' = none)
    {motive : Text → Prop} (nil : motive [])
    (own : ∀ rest, motive rest → motive ('%' :: verb :: rest))
    (other : ∀ second value rest, values second = some value → second ≠ verb → second ≠ '%' → motive rest →
      motive ('%' :: second :: rest))
    (plain : ∀ c rest, IsPlain values c rest → (c = '%' → rest.head? ≠ some verb) → motive rest → motive (c :: rest))
    (text : Text) : motive text := by
  induction text using fill_induction (Function.update values verb (some [])) with
  | nil => exact nil
  | verb second value rest given ih =>
      by_cases added : second = verb
      · exact added ▸ own rest ih
      · rw [Function.update_of_ne added] at given
        refine other second value rest given added ?_ ih
        rintro rfl
        rw [sign] at given
        cases given
  | plain c rest unused ih =>
      refine plain c rest (fun percent second first => ?_) (fun percent first => ?_) ih
      · have none := unused percent second first
        by_cases added : second = verb
        · rw [added, Function.update_self] at none
          cases none
        · rwa [Function.update_of_ne added] at none
      · have none := unused percent verb first
        rw [Function.update_self] at none
        cases none

section

variable (value : Text)

theorem fill_added_own (rest : Text) : fill (Function.update values verb (some value)) ('%' :: verb :: rest) =
    value ++ fill (Function.update values verb (some value)) rest :=
  fill_verb (Function.update_self ..) rest

theorem fill_added_other {second : Char} {put : Text} (given : values second = some put) (different : second ≠ verb)
    (rest : Text) : fill (Function.update values verb (some value)) ('%' :: second :: rest) =
      put ++ fill (Function.update values verb (some value)) rest :=
  fill_verb ((Function.update_of_ne different ..).trans given) rest

theorem fill_added_plain {c : Char} {rest : Text} (plain : IsPlain values c rest)
    (unused : c = '%' → rest.head? ≠ some verb) : fill (Function.update values verb (some value)) (c :: rest) =
      c :: fill (Function.update values verb (some value)) rest := by
  refine fill_plain fun percent second first => ?_
  have different : second ≠ verb := by
    rintro rfl
    exact unused percent first
  rw [Function.update_of_ne different]
  exact plain percent second first

end

include sign letter

/-- Each use of a verb makes the text longer by the length of its value. -/
theorem length_fill_added (first second text : Text) :
    (fill (Function.update values verb (some first)) text).length + uses verb text * second.length =
      (fill (Function.update values verb (some second)) text).length + uses verb text * first.length := by
  induction text using added_induction values verb sign with
  | nil => simp [fill, uses]
  | own rest ih =>
      rw [fill_added_own, fill_added_own, uses_verb letter, List.length_append, List.length_append, Nat.succ_mul,
        Nat.succ_mul]
      omega
  | other next put rest given different letter ih =>
      rw [fill_added_other _ given different, fill_added_other _ given different, uses_other different letter,
        List.length_append, List.length_append]
      omega
  | plain c rest plain unused ih =>
      rw [fill_added_plain _ plain unused, fill_added_plain _ plain unused, uses_plain unused, List.length_cons,
        List.length_cons]
      omega

include free

/-- Values put in for other verbs take no verb away. -/
theorem uses_le_fill (text : Text) : uses verb text ≤ uses verb (fill values text) := by
  induction text using added_induction values verb sign with
  | nil => exact Nat.le_refl 0
  | own rest ih =>
      rw [fill_free letter free, uses_verb letter, uses_verb letter]
      exact Nat.succ_le_succ ih
  | other second value rest given different letter ih =>
      rw [fill_verb given, uses_other different letter]
      exact Nat.le_trans ih (uses_le_append verb value _)
  | plain c rest plain unused ih =>
      rw [fill_plain plain, uses_plain unused]
      exact Nat.le_trans ih (uses_le_cons c _)

/-- As long as the values put in for other verbs bring in no further use of a verb, replacing it afterwards is the
same as putting its value in together with theirs. -/
theorem replace_fill (value : Text) {text : Text} (same : uses verb (fill values text) = uses verb text) :
    replace verb value (fill values text) = fill (Function.update values verb (some value)) text := by
  induction text using added_induction values verb sign with
  | nil => rfl
  | own rest ih =>
      rw [fill_free letter free, uses_verb letter, uses_verb letter] at same
      rw [fill_free letter free, replace_verb, ih (Nat.succ.inj same), fill_added_own]
  | other second put rest given different letter' ih =>
      have rises := uses_le_fill sign letter free rest
      have within := uses_le_append verb put (fill values rest)
      rw [fill_verb given, uses_other different letter'] at same
      rw [fill_verb given, replace_append_of_uses value (by omega), ih (by omega), fill_added_other _ given different]
  | plain c rest plain unused ih =>
      have rises := uses_le_fill sign letter free rest
      have within := uses_le_append verb [c] (fill values rest)
      rw [fill_plain plain, uses_plain unused] at same
      rw [List.singleton_append] at within
      have kept : replace verb value ([c] ++ fill values rest) = [c] ++ replace verb value (fill values rest) :=
        replace_append_of_uses value (by rw [List.singleton_append]; omega)
      rw [fill_plain plain, fill_added_plain _ plain unused, ← ih (by omega)]
      exact kept

end

theorem fill_none (text : Text) : fill (fun _ => none) text = text := by
  induction text with
  | nil => rfl
  | cons c text ih => rw [fill_plain fun _ _ _ => rfl, ih]

/-- Replacing one verb is a pass with one value. -/
theorem replace_eq_fill {verb : Char} (letter : verb ≠ '%') (value text : Text) :
    replace verb value text = fill (Function.update (fun _ => none) verb (some value)) text := by
  rw [← replace_fill rfl letter rfl value (by rw [fill_none]), fill_none]

/-! ### The three verbs -/

theorem update_destination (user port hostname : Text) :
    Function.update (Function.update (Function.update (fun _ => none) 'h' (some hostname)) 'p' (some port)) 'r'
      (some user) = destination user port hostname := by
  funext verb
  unfold destination
  split
  · rfl
  · rfl
  · rfl
  · next noName noPort noUser =>
    rw [Function.update_of_ne noUser, Function.update_of_ne noPort, Function.update_of_ne noName]

/-- The verbs are put in as in one pass, as long as the name of the host brings in no use of the port, and neither the
name nor the port one of the user. -/
theorem expand_eq_fill {text port hostname : Text} (user : Text)
    (ports : uses 'p' (replace 'h' hostname text) = uses 'p' text)
    (users : uses 'r' (replace 'p' port (replace 'h' hostname text)) = uses 'r' text) :
    expand text user port hostname = fill (destination user port hostname) text := by
  rw [replace_eq_fill (by decide)] at ports
  have named := replace_eq_fill (by decide : 'h' ≠ '%') hostname text
  have numbered := replace_fill rfl (by decide) rfl port ports
  rw [← named] at numbered
  rw [numbered] at users
  rw [expand, numbered, replace_fill rfl (by decide) rfl user users, update_destination]

/-! ### Port numbers -/

section

variable {verb other : Char} {value : Text} (letter : verb ≠ '%') (foreign : other ≠ '%') (different : verb ≠ other)
  (nonempty : value ≠ []) (bare : '%' ∉ value) (without : other ∉ value)

include foreign nonempty without

/-- A value that is not empty and does not hold a character leaves the places alone that begin with it. -/
theorem head_replace_iff (text : Text) : (replace verb value text).head? = some other ↔ text.head? = some other := by
  induction text using added_induction (fun _ => none) verb rfl with
  | nil => rfl
  | own rest _ =>
      obtain ⟨first, later, rfl⟩ := List.exists_cons_of_ne_nil nonempty
      have head : first ≠ other := by
        rintro rfl
        exact without List.mem_cons_self
      simp [replace_verb, head, foreign.symm]
  | other _ _ _ given => cases given
  | plain c rest _ unused _ => rw [replace_plain value unused, List.head?_cons, List.head?_cons]

include letter different bare

/-- Such a value brings in no use of another verb. -/
theorem uses_replace (text : Text) : uses other (replace verb value text) = uses other text := by
  induction text using added_induction (fun _ => none) verb rfl with
  | nil => rfl
  | own rest ih => rw [replace_verb, uses_append_of_not_mem bare, uses_other different letter, ih]
  | other _ _ _ given => cases given
  | plain c rest _ unused ih =>
      rw [replace_plain value unused, uses, uses, ih]
      simp only [head_replace_iff foreign nonempty without]

end

theorem uses_replace_port (port : Port) (text : Text) :
    uses 'r' (replace 'p' (Port.text port) text) = uses 'r' text := by
  have digits : ∀ c ∈ Port.text port, c.isDigit = true := fun c member =>
    Nat.isDigit_of_mem_toDigits (by decide) (by decide) member
  have free : ∀ c : Char, c.isDigit = false → c ∉ Port.text port := fun c letter member => by
    rw [digits c member] at letter
    cases letter
  exact uses_replace (by decide) (by decide) (by decide) Nat.toDigits_ne_nil (free '%' rfl) (free 'r' rfl) text

/-! ### When the values are put in as they are -/

theorem replace_self (verb : Char) (text : Text) : replace verb ['%', verb] text = text := by
  induction text using added_induction (fun _ => none) verb rfl with
  | nil => rfl
  | own rest ih => rw [replace_verb, ih, List.cons_append, List.singleton_append]
  | other _ _ _ given => cases given
  | plain c rest _ unused ih => rw [replace_plain _ unused, ih]

theorem length_replace {verb : Char} (letter : verb ≠ '%') (first second text : Text) :
    (replace verb first text).length + uses verb text * second.length =
      (replace verb second text).length + uses verb text * first.length := by
  rw [replace_eq_fill letter, replace_eq_fill letter]
  exact length_fill_added rfl letter first second text

/-- If a value that is one character longer makes the replaced text and the filled one longer by the same, the verb
stands in both as often. -/
theorem uses_eq_of_length {values : Char → Option Text} (sign : values '%' = none) {verb : Char} (letter : verb ≠ '%')
    {first second : Text} (longer : second.length = first.length + 1) {replaced text : Text}
    (short : (replace verb first replaced).length = (fill (Function.update values verb (some first)) text).length)
    (long : (replace verb second replaced).length = (fill (Function.update values verb (some second)) text).length) :
    uses verb replaced = uses verb text := by
  have before := length_replace letter first second replaced
  have after := length_fill_added sign letter first second text
  rw [short, long, longer, Nat.mul_succ] at before
  rw [longer, Nat.mul_succ] at after
  omega

theorem destination_port (user port hostname : Text) :
    destination user port hostname = Function.update (destination user [] hostname) 'p' (some port) := by
  rw [← update_destination, ← update_destination, Function.update_comm (by decide : 'r' ≠ 'p'), Function.update_idem]

theorem destination_user (user port hostname : Text) :
    destination user port hostname = Function.update (destination [] port hostname) 'r' (some user) := by
  rw [← update_destination, ← update_destination, Function.update_idem]

section

variable {text hostname : Text}
  (verbatim : ∀ user (port : Port),
    expand text user port.text hostname = fill (destination user port.text hostname) text)

include verbatim

/-- The ports 1 and 10 tell how often the verb of the port stands in the text with the name in it. -/
theorem uses_port_of_verbatim : uses 'p' (replace 'h' hostname text) = uses 'p' text := by
  have same (port : Port) : (replace 'p' port.text (replace 'h' hostname text)).length =
      (fill (Function.update (destination ['%', 'r'] [] hostname) 'p' (some port.text)) text).length := by
    have whole := verbatim ['%', 'r'] port
    rw [expand, replace_self, destination_port] at whole
    exact congrArg List.length whole
  exact uses_eq_of_length rfl (by decide) (by decide) (same 1) (same 10)

theorem uses_user_of_verbatim : uses 'r' (replace 'h' hostname text) = uses 'r' text := by
  have same (user : Text) :
      (replace 'r' user (replace 'p' (Port.text 1) (replace 'h' hostname text))).length =
        (fill (Function.update (destination [] (Port.text 1) hostname) 'r' (some user)) text).length := by
    have whole := verbatim user 1
    rw [expand, destination_user] at whole
    exact congrArg List.length whole
  rw [← uses_replace_port 1]
  exact uses_eq_of_length rfl (by decide) rfl (same []) (same ['u'])

end

/-- When the values are put in as they are, in one pass over the text. For any values this is so as long as the name
brings in no further use of the port, and the name and the port together none of the user. For the numbers of ports it
is so whatever the user and the port are exactly if the name brings in no further use of either. -/
theorem expand_verbatim (text hostname : Text) :
    (∀ user port, uses 'p' (replace 'h' hostname text) = uses 'p' text →
      uses 'r' (replace 'p' port (replace 'h' hostname text)) = uses 'r' text →
      expand text user port hostname = fill (destination user port hostname) text) ∧
    ((∀ user (port : Port), expand text user port.text hostname = fill (destination user port.text hostname) text) ↔
      uses 'p' (replace 'h' hostname text) = uses 'p' text ∧
        uses 'r' (replace 'h' hostname text) = uses 'r' text) := by
  refine ⟨fun user _ ports users => expand_eq_fill user ports users, ?_, ?_⟩
  · intro verbatim
    exact ⟨uses_port_of_verbatim verbatim, uses_user_of_verbatim verbatim⟩
  · rintro ⟨ports, users⟩ user port
    refine expand_eq_fill user ports ?_
    rw [uses_replace_port, users]

/-- A name with a percent sign of its own and a user that looks like verbs are put in as they are. -/
theorem expand_verbatim_command :
    uses 'p' (replace 'h' "fe80::1%eth0".toList "ssh -l %r -W %h:%p %n".toList) = 1 ∧
      expand "ssh -l %r -W %h:%p %n".toList "%h%p".toList "22".toList "fe80::1%eth0".toList =
        "ssh -l %h%p -W fe80::1%eth0:22 %n".toList := by
  obtain ⟨verbatim, -⟩ := expand_verbatim "ssh -l %r -W %h:%p %n".toList "fe80::1%eth0".toList
  exact ⟨by decide, verbatim "%h%p".toList "22".toList (by decide) (by decide)⟩

/-- A name that is written like the verb of the port gives way to the port. -/
theorem expand_mixes_values :
    ¬ ∀ text user port hostname, expand text user port hostname = fill (destination user port hostname) text := by
  intro verbatim
  have mixed := verbatim "%h".toList "al".toList "22".toList "%p".toList
  exact absurd mixed (by decide)

-- a percent sign of the text and the first letter of the name make up a verb
example : expand "%%h".toList "al".toList "22".toList "p".toList = "22".toList := by decide

end SecureShell.Verbs
