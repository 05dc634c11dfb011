import Mathlib.Data.List.Induction
import Mathlib.Data.List.Nodup
import NotebookKernel.Machine.Workshop

/-!
# Placeholders filled in at once

A command line should be its template with every placeholder replaced by its value, in one pass
over the template that never looks at a value. The placeholders are filled in one after the other
instead. Both come to the same as long as the values that have been put in bring about no
placeholder of those that are still to come. A value that spells a later placeholder is not passed
on as it is.
-/

namespace NotebookKernel

namespace Placeholder

/-- Fill in all placeholders in one pass from left to right. The number counts the characters of a
placeholder that are still to be passed over. -/
def togetherFrom (values : List (String × String)) : Nat → List Char → List Char
  | _, [] => []
  | skip + 1, _ :: cs => togetherFrom values skip cs
  | 0, c :: cs =>
      match values.find? fun v => (mark v.1).isPrefixOf (c :: cs) with
      | some v => v.2.toList ++ togetherFrom values ((mark v.1).length - 1) cs
      | none => c :: togetherFrom values 0 cs

def together (values : List (String × String)) (text : List Char) : List Char :=
  togetherFrom values 0 text

/-- In how many places a text occurs in another one. -/
def occurrences (needle : List Char) : List Char → Nat
  | [] => 0
  | c :: cs => occurrences needle cs + if needle.isPrefixOf (c :: cs) then 1 else 0

/-- The values that have been put in before a placeholder's turn make it occur no more often than
it does in the text itself. -/
def Undisturbed (values : List (String × String)) (text : List Char) : Prop :=
  ∀ k : Fin values.length,
    occurrences (mark values[k].1) (together (values.take k) text) =
      occurrences (mark values[k].1) text

instance (values : List (String × String)) (text : List Char) :
    Decidable (Undisturbed values text) := by
  unfold Undisturbed
  infer_instance

/-- A name without braces. -/
def IsName (name : String) : Prop := '\x7b' ∉ name.toList ∧ '\x7d' ∉ name.toList

instance (name : String) : Decidable (IsName name) := by
  unfold IsName
  infer_instance

/-! ## Marks -/

variable {name other : String} {text : List Char}

/-- One mark is not the beginning of another. -/
theorem eq_of_mark_begins (hn : IsName name) (ho : IsName other)
    (begins : mark name <+: mark other ++ text) : name = other := by
  obtain ⟨rest, same⟩ := begins
  have tails : name.toList ++ '\x7d' :: rest = other.toList ++ '\x7d' :: text := by
    simpa [mark] using same
  have cut (cs more : List Char) (free : '\x7d' ∉ cs) :
      (cs ++ '\x7d' :: more).takeWhile (· != '\x7d') = cs := by
    rw [List.takeWhile_append_of_pos]
    · simp
    · intro c member
      simp only [bne_iff_ne, ne_eq]
      rintro rfl
      exact free member
  have names := congrArg (List.takeWhile (· != '\x7d')) tails
  rw [cut _ _ hn.2, cut _ _ ho.2] at names
  exact String.toList_inj.mp names

/-- What follows the opening brace of a mark. -/
def tail (name : String) : List Char := name.toList ++ ['\x7d']

theorem mark_append (name : String) (text : List Char) :
    mark name ++ text = '\x7b' :: (tail name ++ text) := rfl

/-- A mark begins with a brace, and has no other one. -/
theorem not_mark_begins {c : Char} (other : c ≠ '\x7b') (text : List Char) :
    ¬mark name <+: c :: text := by
  intro begins
  obtain ⟨rest, same⟩ := begins
  rw [mark_append, List.cons.injEq] at same
  exact other same.1.symm

theorem brace_notMem_tail (hn : IsName name) : '\x7b' ∉ tail name := by
  simp [tail, hn.1]

/-! ## Single steps of a pass -/

theorem replaceFrom_eq (needle value : List Char) (n : Nat) (text : List Char) :
    replaceFrom needle value n text = replaceAll needle value (text.drop n) := by
  induction text generalizing n with
  | nil => cases n <;> rfl
  | cons c rest ih =>
    cases n with
    | zero => rfl
    | succ n => exact ih n

theorem togetherFrom_eq (values : List (String × String)) (n : Nat) (text : List Char) :
    togetherFrom values n text = together values (text.drop n) := by
  induction text generalizing n with
  | nil => cases n <;> rfl
  | cons c rest ih =>
    cases n with
    | zero => rfl
    | succ n => exact ih n

theorem drop_mark (name : String) (text : List Char) :
    (tail name ++ text).drop ((mark name).length - 1) = text := by
  simp [mark, tail]

theorem replaceAll_cons {value : List Char} {c : Char} (absent : ¬mark name <+: c :: text) :
    replaceAll (mark name) value (c :: text) = c :: replaceAll (mark name) value text := by
  rw [← List.isPrefixOf_iff_prefix] at absent
  simp [replaceAll, replaceFrom, absent]

theorem replaceAll_mark (name : String) (value text : List Char) :
    replaceAll (mark name) value (mark name ++ text) =
      value ++ replaceAll (mark name) value text := by
  have begins : (mark name).isPrefixOf (mark name ++ text) = true :=
    List.isPrefixOf_iff_prefix.mpr (List.prefix_append _ _)
  rw [mark_append] at begins ⊢
  rw [replaceAll, replaceFrom, if_pos begins, replaceFrom_eq, drop_mark]

theorem occurrences_cons {c : Char} (absent : ¬mark name <+: c :: text) :
    occurrences (mark name) (c :: text) = occurrences (mark name) text := by
  rw [← List.isPrefixOf_iff_prefix] at absent
  simp [occurrences, absent]

theorem occurrences_append_le (needle before text : List Char) :
    occurrences needle text ≤ occurrences needle (before ++ text) := by
  induction before with
  | nil => exact Nat.le_refl _
  | cons c rest ih => exact Nat.le_trans ih (Nat.le_add_right _ _)

/-- No mark begins in a text without braces. -/
theorem occurrences_free {before : List Char} (free : '\x7b' ∉ before) :
    occurrences (mark name) (before ++ text) = occurrences (mark name) text := by
  induction before with
  | nil => rfl
  | cons c rest ih =>
    rw [List.mem_cons, not_or] at free
    rw [List.cons_append, occurrences_cons (not_mark_begins (Ne.symm free.1) _), ih free.2]

/-- A text in which no mark begins is passed over. -/
theorem replaceAll_append {value before : List Char}
    (none : occurrences (mark name) (before ++ text) = occurrences (mark name) text) :
    replaceAll (mark name) value (before ++ text) =
      before ++ replaceAll (mark name) value text := by
  induction before with
  | nil => rfl
  | cons c rest ih =>
    have most := occurrences_append_le (mark name) rest text
    have absent : ¬mark name <+: c :: (rest ++ text) := by
      intro begins
      rw [← List.isPrefixOf_iff_prefix] at begins
      rw [List.cons_append, occurrences, if_pos begins] at none
      omega
    rw [List.cons_append, occurrences_cons absent] at none
    rw [List.cons_append, replaceAll_cons absent, ih none, List.cons_append]

theorem occurrences_mark (hn : IsName name) (ho : IsName other) (text : List Char) :
    occurrences (mark name) (mark other ++ text) =
      occurrences (mark name) text + if name = other then 1 else 0 := by
  have within : occurrences (mark name) (tail other ++ text) = occurrences (mark name) text :=
    occurrences_free (brace_notMem_tail ho)
  by_cases same : name = other
  · subst same
    have begins : (mark name).isPrefixOf (mark name ++ text) = true :=
      List.isPrefixOf_iff_prefix.mpr (List.prefix_append _ _)
    rw [mark_append] at begins ⊢
    rw [occurrences, if_pos begins, if_pos rfl, within]
  · have absent : ¬mark name <+: mark other ++ text :=
      fun begins => same (eq_of_mark_begins hn ho begins)
    rw [mark_append] at absent ⊢
    rw [occurrences_cons absent, if_neg same, within, Nat.add_zero]

/-! ## One pass for all placeholders -/

/-- Values for different names. -/
structure Named (values : List (String × String)) : Prop where
  distinct : (values.map (·.1)).Nodup
  names : ∀ v ∈ values, IsName v.1

variable {values : List (String × String)} {value : String}

theorem Named.of_prefix {all : List (String × String)} (named : Named all)
    (part : values <+: all) : Named values where
  distinct := named.distinct.sublist (part.sublist.map _)
  names v member := named.names v (part.subset member)

theorem together_cons {c : Char} (absent : ∀ v ∈ values, ¬mark v.1 <+: c :: text) :
    together values (c :: text) = c :: together values text := by
  have unknown : values.find? (fun v => (mark v.1).isPrefixOf (c :: text)) = none := by
    rw [List.find?_eq_none]
    intro v member begins
    exact absent v member (List.isPrefixOf_iff_prefix.mp begins)
  rw [together, togetherFrom, unknown]
  rfl

theorem together_free {before : List Char} (free : '\x7b' ∉ before) :
    together values (before ++ text) = before ++ together values text := by
  induction before with
  | nil => rfl
  | cons c rest ih =>
    rw [List.mem_cons, not_or] at free
    have absent (v : String × String) (_ : v ∈ values) : ¬mark v.1 <+: c :: (rest ++ text) :=
      not_mark_begins (Ne.symm free.1) _
    rw [List.cons_append, together_cons absent, ih free.2, List.cons_append]

/-- A placeholder that is not among the values stays. -/
theorem together_other (named : Named values) (ho : IsName other)
    (unknown : ∀ v ∈ values, v.1 ≠ other) :
    together values (mark other ++ text) = mark other ++ together values text := by
  have absent (v : String × String) (member : v ∈ values) : ¬mark v.1 <+: mark other ++ text :=
    fun begins => unknown v member (eq_of_mark_begins (named.names v member) ho begins)
  rw [mark_append] at absent
  rw [mark_append, mark_append, together_cons absent, together_free (brace_notMem_tail ho)]

theorem together_mark (named : Named values) (known : (name, value) ∈ values) :
    together values (mark name ++ text) = value.toList ++ together values text := by
  have isName := named.names _ known
  have found : values.find? (fun v => (mark v.1).isPrefixOf (mark name ++ text)) =
      some (name, value) := by
    cases first : values.find? (fun v => (mark v.1).isPrefixOf (mark name ++ text)) with
    | none =>
      have begins := List.find?_eq_none.mp first _ known
      exact absurd (List.isPrefixOf_iff_prefix.mpr (List.prefix_append _ _)) begins
    | some v =>
      have member := List.mem_of_find?_eq_some first
      have holds := List.find?_some first
      have begins := List.isPrefixOf_iff_prefix.mp holds
      have same : v.1 = name := eq_of_mark_begins (named.names v member) isName begins
      rw [List.inj_on_of_nodup_map named.distinct member known same]
  rw [mark_append] at found ⊢
  rw [together, togetherFrom, found]
  change value.toList ++ togetherFrom values ((mark name).length - 1) (tail name ++ text) = _
  rw [togetherFrom_eq, drop_mark]

/-- A text is read from left to right: a placeholder comes next, or a character at which none
begins. -/
theorem reading (names : List String) {motive : List Char → Prop} (nil : motive [])
    (hole : ∀ name ∈ names, ∀ text, motive text → motive (mark name ++ text))
    (plain : ∀ c text, (∀ name ∈ names, ¬mark name <+: c :: text) → motive text →
      motive (c :: text)) (text : List Char) : motive text := by
  induction length : text.length using Nat.strongRecOn generalizing text with
  | ind n ih =>
    cases text with
    | nil => exact nil
    | cons c rest =>
      by_cases known : ∃ name ∈ names, mark name <+: c :: rest
      · obtain ⟨name, member, more, same⟩ := known
        have shorter : more.length < n := by
          rw [← length, ← same, mark_append, List.length_cons, List.length_append]
          omega
        rw [← same]
        exact hole name member more (ih _ shorter more rfl)
      · have absent : ∀ name ∈ names, ¬mark name <+: c :: rest :=
          fun name member begins => known ⟨name, member, begins⟩
        have shorter : rest.length < n := by simp [← length]
        exact plain c rest absent (ih _ shorter rest rfl)

/-! ## One placeholder more -/

/-- The characters at which no placeholder begins, for all but the last of the names. -/
theorem absent_cases {c : Char}
    (absent : ∀ n ∈ (values ++ [(name, value)]).map (·.1), ¬mark n <+: c :: text) :
    (∀ v ∈ values, ¬mark v.1 <+: c :: text) ∧ ¬mark name <+: c :: text := by
  constructor
  · intro v member
    exact absent v.1 (List.mem_map_of_mem (List.mem_append_left _ member))
  · exact absent name (by simp)

section

variable (named : Named (values ++ [(name, value)]))

include named

theorem Named.init : Named values := named.of_prefix (List.prefix_append _ _)

theorem Named.last : IsName name := named.names _ List.mem_concat_self

theorem Named.fresh : ∀ v ∈ values, v.1 ≠ name := by
  intro v member same
  have distinct := named.distinct
  rw [List.map_append, List.nodup_append] at distinct
  exact distinct.2.2 v.1 (List.mem_map_of_mem member) name (by simp) same

/-- Values that are put in take no occurrence away. -/
theorem occurrences_le_together (text : List Char) :
    occurrences (mark name) text ≤ occurrences (mark name) (together values text) := by
  induction text using reading ((values ++ [(name, value)]).map (·.1)) with
  | nil => exact Nat.le_refl _
  | hole n member rest ih =>
    obtain ⟨⟨n, w⟩, known, rfl⟩ := List.mem_map.mp member
    obtain past | here := List.mem_append.mp known
    · have other : name ≠ n := (named.fresh _ past).symm
      rw [occurrences_mark named.last (named.names _ known), if_neg other,
        together_mark named.init past]
      exact Nat.le_trans ih (occurrences_append_le _ _ _)
    · obtain ⟨rfl, rfl⟩ := Prod.mk.inj (List.mem_singleton.mp here)
      rw [together_other named.init named.last named.fresh,
        occurrences_mark named.last named.last, occurrences_mark named.last named.last]
      exact Nat.add_le_add_right ih _
  | plain c rest absent ih =>
    obtain ⟨before, here⟩ := absent_cases absent
    rw [together_cons before, occurrences_cons here]
    exact Nat.le_trans ih (Nat.le_add_right _ _)

/-- If they add none either, then filling in the next placeholder behind them is filling it in
together with them. -/
theorem replaceAll_together (text : List Char)
    (same : occurrences (mark name) (together values text) = occurrences (mark name) text) :
    replaceAll (mark name) value.toList (together values text) =
      together (values ++ [(name, value)]) text := by
  induction text using reading ((values ++ [(name, value)]).map (·.1)) with
  | nil => rfl
  | hole n member rest ih =>
    have least := occurrences_le_together named rest
    obtain ⟨⟨n, w⟩, known, rfl⟩ := List.mem_map.mp member
    rw [together_mark named known]
    obtain past | here := List.mem_append.mp known
    · have other : name ≠ n := (named.fresh _ past).symm
      rw [occurrences_mark named.last (named.names _ known), if_neg other,
        together_mark named.init past] at same
      have most := occurrences_append_le (mark name) w.toList (together values rest)
      rw [together_mark named.init past, replaceAll_append (by omega), ih (by omega)]
    · obtain ⟨rfl, rfl⟩ := Prod.mk.inj (List.mem_singleton.mp here)
      rw [together_other named.init named.last named.fresh,
        occurrences_mark named.last named.last, occurrences_mark named.last named.last] at same
      rw [together_other named.init named.last named.fresh, replaceAll_mark, ih (by omega)]
  | plain c rest absent ih =>
    have least := occurrences_le_together named rest
    obtain ⟨before, here⟩ := absent_cases absent
    have all : ∀ v ∈ values ++ [(name, value)], ¬mark v.1 <+: c :: rest :=
      fun v member => absent v.1 (List.mem_map_of_mem member)
    rw [together_cons before, occurrences_cons here] at same
    have most : occurrences (mark name) (together values rest) ≤
        occurrences (mark name) ([c] ++ together values rest) := occurrences_append_le _ _ _
    have none : occurrences (mark name) ([c] ++ together values rest) =
        occurrences (mark name) (together values rest) := by
      rw [List.cons_append, List.nil_append] at most ⊢
      omega
    have onwards := ih (by rw [← none]; exact same)
    rw [together_cons before, together_cons all, ← onwards]
    exact replaceAll_append none

end

/-! ## All placeholders -/

theorem together_nil (text : List Char) : together [] text = text := by
  induction text with
  | nil => rfl
  | cons c rest ih => rw [together_cons (by simp), ih]

theorem Undisturbed.init {v : String × String} (h : Undisturbed (values ++ [v]) text) :
    Undisturbed values text := by
  intro k
  have longer : values.length ≤ (values ++ [v]).length := by
    rw [List.length_append]
    exact Nat.le_add_right _ _
  have before := h ⟨k, Nat.lt_of_lt_of_le k.isLt longer⟩
  simpa [List.take_append_of_le_length (Nat.le_of_lt k.isLt)] using before

theorem Undisturbed.last (h : Undisturbed (values ++ [(name, value)]) text) :
    occurrences (mark name) (together values text) = occurrences (mark name) text := by
  have here := h ⟨values.length, by simp⟩
  simpa using here

/-- Placeholders that are filled in one after the other are filled in at once, if none of them is
brought about by the values of those before it. -/
theorem foldl_fill (named : Named values) (calm : Undisturbed values text) :
    values.foldl (fun t v => fill t v.1 v.2) text = together values text := by
  induction values using List.reverseRecOn with
  | nil => exact (together_nil text).symm
  | append_singleton before v ih =>
    obtain ⟨name, value⟩ := v
    rw [List.foldl_append, ih named.init calm.init]
    exact replaceAll_together named text calm.last

/-- The same values, with nothing to put in. -/
def blanked (values : List (String × String)) : List (String × String) :=
  values.map fun v => (v.1, "")

theorem Named.blanked (named : Named values) : Named (blanked values) where
  distinct := by
    have same : (Placeholder.blanked values).map (·.1) = values.map (·.1) := by
      simp [Placeholder.blanked]
    rw [same]
    exact named.distinct
  names v member := by
    obtain ⟨u, known, rfl⟩ := List.mem_map.mp member
    exact named.names u known

/-- Nothing is brought about in a text that has no opening brace but those of its placeholders, by
values without one. -/
theorem occurrences_tidy {all : List (String × String)} (named : Named all)
    (part : values <+: all) (hn : IsName name) (fresh : ∀ v ∈ values, v.1 ≠ name)
    (free : ∀ v ∈ values, '\x7b' ∉ v.2.toList) (tidy : '\x7b' ∉ together (blanked all) text) :
    occurrences (mark name) (together values text) = occurrences (mark name) text := by
  have namedPart : Named values := named.of_prefix part
  induction text using reading (all.map (·.1)) with
  | nil => rfl
  | hole n member rest ih =>
    obtain ⟨⟨n, w⟩, known, rfl⟩ := List.mem_map.mp member
    have isName : IsName n := named.names _ known
    have blank : (n, "") ∈ blanked all := List.mem_map_of_mem (f := fun v => (v.1, "")) known
    rw [together_mark named.blanked blank] at tidy
    have rest_same := ih tidy
    by_cases here : ∃ v ∈ values, v.1 = n
    · obtain ⟨⟨m, x⟩, past, rfl⟩ := here
      rw [together_mark namedPart past, occurrences_free (free _ past), rest_same,
        occurrences_mark hn isName, if_neg (fresh _ past).symm, Nat.add_zero]
    · have unknown : ∀ v ∈ values, v.1 ≠ n := fun v member same => here ⟨v, member, same⟩
      rw [together_other namedPart isName unknown, occurrences_mark hn isName,
        occurrences_mark hn isName, rest_same]
  | plain c rest absent ih =>
    have absentAll : ∀ v ∈ blanked all, ¬mark v.1 <+: c :: rest := by
      intro v member
      obtain ⟨u, known, rfl⟩ := List.mem_map.mp member
      exact absent u.1 (List.mem_map_of_mem known)
    have absentPart : ∀ v ∈ values, ¬mark v.1 <+: c :: rest :=
      fun v member => absent v.1 (List.mem_map_of_mem (part.subset member))
    rw [together_cons absentAll, List.mem_cons, not_or] at tidy
    have other : c ≠ '\x7b' := Ne.symm tidy.1
    rw [together_cons absentPart, occurrences_cons (not_mark_begins other _),
      occurrences_cons (not_mark_begins other _), ih tidy.2]

theorem undisturbed_of_tidy (named : Named values) (free : ∀ v ∈ values, '\x7b' ∉ v.2.toList)
    (tidy : '\x7b' ∉ together (blanked values) text) : Undisturbed values text := by
  intro k
  have part : values.take k <+: values := List.take_prefix _ _
  have next : Named (values.take k ++ [(values[k].1, values[k].2)]) := by
    have more : values.take k ++ [values[k]] = values.take (k + 1) :=
      List.take_append_getElem k.isLt
    exact more ▸ named.of_prefix (List.take_prefix _ _)
  exact occurrences_tidy named part next.last next.fresh
    (fun v member => free v (part.subset member)) tidy

/-- A placeholder that stands alone gives its value, filled in with the placeholders after it. -/
theorem foldl_fill_mark {earlier later : List (String × String)}
    (named : Named (earlier ++ (name, value) :: later)) :
    (earlier ++ (name, value) :: later).foldl (fun t v => fill t v.1 v.2) (mark name) =
      later.foldl (fun t v => fill t v.1 v.2) value.toList := by
  have first : Named (earlier ++ [(name, value)]) := named.of_prefix (by simp)
  have calm : Undisturbed (earlier ++ [(name, value)]) (mark name) := by
    intro k
    have part : (earlier ++ [(name, value)]).take k = earlier.take k := by
      have below : k.val < earlier.length + 1 := by simpa using k.isLt
      exact List.take_append_of_le_length (Nat.le_of_lt_succ below)
    have unknown : ∀ v ∈ earlier.take k, v.1 ≠ name :=
      fun v member => first.fresh v (List.mem_of_mem_take member)
    have stays : together (earlier.take k) (mark name ++ []) = mark name ++ together _ [] :=
      together_other (first.init.of_prefix (List.take_prefix _ _)) first.last unknown
    rw [List.append_nil] at stays
    rw [part, stays]
    exact congrArg _ (List.append_nil _)
  have whole : together (earlier ++ [(name, value)]) (mark name ++ []) = value.toList ++ [] :=
    together_mark first List.mem_concat_self
  rw [List.append_nil, List.append_nil] at whole
  rw [List.append_cons, List.foldl_append, foldl_fill first calm, whole]

end Placeholder

namespace Workshop

open Placeholder

/-- The values that calls pass besides the common ones: none to the server, a file and its module
to the compiler and to runs, a token and its cell to questions. -/
inductive Passes : List (String × String) → Prop
  | none : Passes []
  | file (path module : String) : Passes [("file", path), ("module", module)]
  | query (before token cursor module : String) :
      Passes [("prefix", before), ("token", token), ("cursor", cursor), ("module", module)]

theorem Passes.names {values : List (String × String)} (h : Passes values) :
    values.map (·.1) ∈ [[], ["file", "module"], ["prefix", "token", "cursor", "module"]] := by
  cases h <;> simp

theorem commonValues_names (w : Workshop) (s : CommandSession) :
    (w.commonValues s).map (·.1) ∈ [["project", "workdir"], ["project", "workdir", "port"]] := by
  unfold commonValues
  cases s.port <;> simp

theorem known_named (w : Workshop) (s : CommandSession) {values : List (String × String)}
    (passed : Passes values) : Named (w.commonValues s ++ values) := by
  have all : ∀ a ∈ [["project", "workdir"], ["project", "workdir", "port"]],
      ∀ b ∈ [[], ["file", "module"], ["prefix", "token", "cursor", "module"]],
        (a ++ b).Nodup ∧ ∀ n ∈ a ++ b, IsName n := by decide
  obtain ⟨distinct, plain⟩ := all _ (w.commonValues_names s) _ passed.names
  rw [← List.map_append] at distinct plain
  exact ⟨distinct, fun v member => plain v.1 (List.mem_map_of_mem member)⟩

/-- A command line is filled in argument by argument. An argument is the template's with all
placeholders filled in at once, if no value brings about a placeholder that has its turn later; so
it is if there are no opening braces but those of its placeholders. A placeholder that stands alone
gives its value with the later placeholders filled in. -/
theorem expand_at_once (w : Workshop) (s : CommandSession) {values : List (String × String)}
    (passed : Passes values) (template : List String) :
    let known := w.commonValues s ++ values
    (w.expand s values template).length = template.length ∧
    (∀ (k : Nat) (argument : String), template[k]? = some argument →
      Undisturbed known argument.toList →
        (w.expand s values template)[k]? = some (String.ofList (together known argument.toList))) ∧
    (∀ text, (∀ v ∈ known, '\x7b' ∉ v.2.toList) → '\x7b' ∉ together (blanked known) text →
      Undisturbed known text) ∧
    ∀ earlier name value later, known = earlier ++ (name, value) :: later →
      w.expand s values [String.ofList (mark name)] = [fillAll later value] := by
  intro known
  have named : Named known := w.known_named s passed
  refine ⟨List.length_map _, ?_, ?_, ?_⟩
  · intro k argument found calm
    have filled : fillAll known argument = String.ofList (together known argument.toList) :=
      congrArg String.ofList (foldl_fill named calm)
    rw [expand, Placeholder.expand, List.getElem?_map, found, Option.map_some, filled]
  · exact fun text free tidy => undisturbed_of_tidy named free tidy
  · intro earlier name value later split
    rw [split] at named
    have alone := foldl_fill_mark named
    change [fillAll known (String.ofList (mark name))] = _
    rw [fillAll, String.toList_ofList, split, alone]
    rfl

/-- A session without a server in a workshop that has nothing. -/
def idleWorkshop : Workshop := new ToolingProfile.shell "/work" Disk.empty

def idleSession : CommandSession := ⟨1, projectOf 1, none, none⟩

/-- Values that hold closing braces, in an argument with an opening brace of its own. -/
theorem expand_at_once_question :
    let values := [("prefix", "a\x7d"), ("token", "a\x7db"), ("cursor", "2"), ("module", "Cell0")]
    let argument := "\x7b\x7btoken\x7d \x7bprefix\x7d"
    Undisturbed (idleWorkshop.commonValues idleSession ++ values) argument.toList ∧
      (idleWorkshop.expand idleSession values [argument])[0]? = some "\x7ba\x7db a\x7d" := by
  intro values argument
  have calm : Undisturbed (idleWorkshop.commonValues idleSession ++ values) argument.toList := by
    decide
  obtain ⟨_, atOnce, _⟩ := expand_at_once idleWorkshop idleSession
    (.query "a\x7d" "a\x7db" "2" "Cell0") [argument]
  refine ⟨calm, (atOnce 0 argument rfl calm).trans ?_⟩
  decide

/-- A cell whose text is itself a placeholder. -/
def braceCell : Cell := .make .standard 0 "\x7bcursor\x7d"

/-- What stands before the cursor comes to the command as the offset of the cursor. -/
theorem question_mangled :
    let values := queryValues braceCell (TokenSpan.scan braceCell.source.toList 8)
    let argument := "\x7bprefix\x7d"
    Passes values ∧ values.lookup "prefix" = some "\x7bcursor\x7d" ∧
      idleWorkshop.expand idleSession values [argument] = ["8"] ∧
      String.ofList (together (idleWorkshop.commonValues idleSession ++ values) argument.toList) =
        "\x7bcursor\x7d" := by
  intro values argument
  refine ⟨.query _ _ _ _, ?_, ?_, ?_⟩
  · decide
  · decide
  · decide

end Workshop

end NotebookKernel
