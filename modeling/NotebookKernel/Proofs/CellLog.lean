import Mathlib.Data.List.Nodup
import NotebookKernel.Cell.Store

/-!
# The store as a log

Whatever is done to a store, its submitted cells are a log. They are numbered from zero without
gaps, each holds the last text that it was given before it was submitted, and none of them changes
later. The setup cell stays what it was. If cells are named after their numbers, no two cells of a
store have the same name.
-/

namespace NotebookKernel

namespace ModuleNaming

theorem number_injective {m n : Nat} (same : toString m = toString n) : m = n := by
  have digits : Nat.toDigits 10 m = Nat.toDigits 10 n := by
    rw [← Nat.toList_repr, ← Nat.toList_repr]
    exact congrArg String.toList same
  have read := congrArg (Nat.ofDigitChars 10 · 0) digits
  rwa [Nat.ofDigitChars_toDigits (by decide) (by decide),
    Nat.ofDigitChars_toDigits (by decide) (by decide)] at read

theorem setup_ne_number (n : Nat) : "Setup" ≠ toString n := by
  intro same
  have first : 'S' ∈ (toString n).toList := by
    rw [← same]
    decide
  exact absurd (isDigit_of_mem_number first) (by decide)

/-- Numbers from the one of the setup cell on are told apart by the names made of them, whatever
the stem is. -/
theorem sequential_injective {stem source source' : String} {i j : Int} (hi : -1 ≤ i) (hj : -1 ≤ j)
    (same : (sequential stem).moduleOf i source = (sequential stem).moduleOf j source') :
    i = j := by
  have tails : (if i < 0 then "Setup" else toString i) =
      if j < 0 then "Setup" else toString j := by
    have whole := Option.some.inj same
    exact (String.append_right_inj stem).mp whole
  by_cases low : i < 0
  · by_cases low' : j < 0
    · omega
    · obtain ⟨n, rfl⟩ := Int.eq_ofNat_of_zero_le (by omega : 0 ≤ j)
      rw [if_pos low, if_neg low'] at tails
      exact absurd tails (setup_ne_number n)
  · obtain ⟨m, rfl⟩ := Int.eq_ofNat_of_zero_le (by omega : 0 ≤ i)
    by_cases low' : j < 0
    · rw [if_neg low, if_pos low'] at tails
      exact absurd tails.symm (setup_ne_number m)
    · obtain ⟨n, rfl⟩ := Int.eq_ofNat_of_zero_le (by omega : 0 ≤ j)
      rw [if_neg low, if_neg low'] at tails
      rw [number_injective tails]

end ModuleNaming

namespace CellStore

/-- What is done to a store. -/
inductive Edit where
  | update (text : String)
  | submit
  deriving DecidableEq, Repr

def Edit.text? : Edit → Option String
  | .update text => some text
  | .submit => none

def edit (s : CellStore) : Edit → CellStore
  | .update text => s.update text
  | .submit => s.submit.2

/-- The store after edits, in their order. -/
def after (s : CellStore) (edits : List Edit) : CellStore := edits.foldl edit s

/-- The text of the last update; the empty one if there is none. -/
def lastText (edits : List Edit) : String := (edits.filterMap Edit.text?).getLast?.getD ""

/-- The text that edits give to the cell of a number: the last one between the submit before it
and its own. -/
def textOf (edits : List Edit) (n : Nat) : String := lastText ((edits.splitOn .submit).getD n [])

/-- A map of cells by their numbers, after a cell was put into it. -/
def filed (cells : List Cell) (c : Cell) : List Cell :=
  cells.filter (·.sequence < c.sequence) ++ c :: cells.filter (c.sequence < ·.sequence)

/-- A store is the log of edits. -/
structure Logs (naming : ModuleNaming) (setupSource : String) (edits : List Edit)
    (s : CellStore) : Prop where
  keys : s.submitted.map (·.sequence) = (List.range (edits.count .submit)).map Int.ofNat
  entry : ∀ n < edits.count .submit, s.submitted[n]? = some (.make naming n (textOf edits n))
  current : s.current = .make naming (edits.count .submit) (textOf edits (edits.count .submit))
  setup : s.setup = ⟨-1, setupSource, naming.moduleOf (-1) setupSource⟩
  size : s.size = edits.count .submit
  /-- The next submit puts the current cell under its number and displaces none. -/
  files : s.submit.2.submitted = filed s.submitted s.current

/-! ## The texts of edits -/

/-- The texts that edits give to cells, the last one to the cell that is not submitted yet. -/
def texts (edits : List Edit) : List String := (edits.splitOn .submit).map lastText

@[simp] theorem lastText_update_empty (edits : List Edit) :
    lastText (.update "" :: edits) = lastText edits := by
  simp [lastText, Edit.text?, List.getLast?_cons]

@[simp] theorem lastText_update_update (old new : String) (edits : List Edit) :
    lastText (.update old :: .update new :: edits) = lastText (.update new :: edits) := by
  simp [lastText, Edit.text?, List.getLast?_cons]

theorem splitOn_update (text : String) (edits : List Edit) :
    List.splitOn .submit (.update text :: edits) =
      (edits.splitOn .submit).modifyHead (.update text :: ·) := by
  simp [List.splitOn_cons_eq_if_modifyHead]

theorem splitOn_submit (edits : List Edit) :
    List.splitOn .submit (.submit :: edits) = [] :: edits.splitOn .submit := by
  simp [List.splitOn_cons_eq_if_modifyHead]

theorem texts_update_empty (edits : List Edit) : texts (.update "" :: edits) = texts edits := by
  unfold texts
  rw [splitOn_update]
  cases edits.splitOn .submit with
  | nil => rfl
  | cons first later => simp

theorem texts_update_update (old new : String) (edits : List Edit) :
    texts (.update old :: .update new :: edits) = texts (.update new :: edits) := by
  unfold texts
  rw [splitOn_update, splitOn_update]
  cases edits.splitOn .submit with
  | nil => rfl
  | cons first later => simp

theorem texts_update_submit (text : String) (edits : List Edit) :
    texts (.update text :: .submit :: edits) = text :: texts edits := by
  unfold texts
  rw [splitOn_update, splitOn_submit]
  rfl

@[simp] theorem length_texts (edits : List Edit) :
    (texts edits).length = edits.count .submit + 1 := by
  unfold texts
  induction edits with
  | nil => rfl
  | cons e rest ih =>
    cases e with
    | update text =>
      rw [splitOn_update]
      simpa using ih
    | submit =>
      rw [splitOn_submit]
      simpa using ih

theorem texts_eq (edits : List Edit) :
    texts edits = (List.range (edits.count .submit + 1)).map (textOf edits) := by
  refine List.ext_getElem (by simp) ?_
  intro n bound _
  have inside : n < (edits.splitOn .submit).length := by simpa [texts] using bound
  simp [texts, textOf, List.getD, inside]

/-! ## The cells of edits -/

/-- The current cell is made of a draft and the number of cells submitted before it. -/
structure Drafted (naming : ModuleNaming) (draft : String) (s : CellStore) : Prop where
  named : s.naming = naming
  current : s.current = .make naming s.submitted.length draft

variable {naming : ModuleNaming} {draft : String} {s : CellStore}

theorem new_drafted (naming : ModuleNaming) (setupSource : String) :
    (new naming setupSource).Drafted naming "" := ⟨rfl, rfl⟩

theorem Drafted.update (h : s.Drafted naming draft) (text : String) :
    (s.update text).Drafted naming text := by
  obtain ⟨rfl, current⟩ := h
  rw [update_made current]
  exact ⟨rfl, rfl⟩

theorem Drafted.submit (h : s.Drafted naming draft) : s.submit.2.Drafted naming "" := by
  obtain ⟨rfl, current⟩ := h
  refine ⟨rfl, ?_⟩
  simp [CellStore.submit, current, Cell.make]

theorem Drafted.edit (h : s.Drafted naming draft) (e : Edit) :
    ∃ text, (s.edit e).Drafted naming text := by
  cases e with
  | update text => exact ⟨text, h.update text⟩
  | submit => exact ⟨"", h.submit⟩

theorem Drafted.after (h : s.Drafted naming draft) (edits : List Edit) :
    ∃ text, (s.after edits).Drafted naming text := by
  induction edits generalizing s draft with
  | nil => exact ⟨draft, h⟩
  | cons e rest ih =>
    obtain ⟨text, next⟩ := h.edit e
    exact ih next

/-- The cells after edits, the current one last. The draft counts as the first update. -/
theorem Drafted.cells (h : s.Drafted naming draft) (edits : List Edit) :
    (s.after edits).submitted ++ [(s.after edits).current] =
      s.submitted ++ (texts (.update draft :: edits)).mapIdx fun n text =>
        .make naming (s.submitted.length + n : Nat) text := by
  induction edits generalizing s draft with
  | nil =>
    change s.submitted ++ [s.current] = _
    rw [h.current]
    rfl
  | cons e rest ih =>
    cases e with
    | update text =>
      have later := ih (h.update text)
      rw [texts_update_update]
      rwa [update_submitted] at later
    | submit =>
      have later := ih h.submit
      rw [texts_update_empty] at later
      have count : s.submit.2.submitted.length = s.submitted.length + 1 := by
        simp [CellStore.submit]
      rw [texts_update_submit, List.mapIdx_cons, Nat.add_zero, ← h.current]
      rw [count] at later
      simpa [CellStore.after, CellStore.edit, CellStore.submit, Function.comp_def, Nat.add_assoc,
        Nat.add_comm 1] using later

theorem submitted_prefix (s : CellStore) (edits : List Edit) :
    s.submitted <+: (s.after edits).submitted := by
  induction edits generalizing s with
  | nil => exact List.prefix_rfl
  | cons e rest ih =>
    refine List.IsPrefix.trans ?_ (ih (s.edit e))
    cases e with
    | update text => simp [CellStore.edit]
    | submit => exact List.prefix_append _ _

theorem after_setup (s : CellStore) (edits : List Edit) : (s.after edits).setup = s.setup := by
  induction edits generalizing s with
  | nil => rfl
  | cons e rest ih =>
    refine (ih (s.edit e)).trans ?_
    cases e with
    | update text => exact update_setup s text
    | submit => rfl

/-- A cell whose number is greater than all others is put at the end. -/
theorem filed_last {cells : List Cell} {c : Cell} (last : ∀ d ∈ cells, d.sequence < c.sequence) :
    filed cells c = cells ++ [c] := by
  have before : cells.filter (·.sequence < c.sequence) = cells := by
    rw [List.filter_eq_self]
    intro d member
    simpa using last d member
  have behind : cells.filter (c.sequence < ·.sequence) = [] := by
    rw [List.filter_eq_nil_iff]
    intro d member
    have lower := last d member
    simp only [decide_eq_true_eq]
    omega
  rw [filed, before, behind]

theorem new_logs (naming : ModuleNaming) (setupSource : String) (edits : List Edit) :
    Logs naming setupSource edits ((new naming setupSource).after edits) := by
  have start := new_drafted naming setupSource
  obtain ⟨text, drafted⟩ := start.after edits
  have whole := start.cells edits
  have first := after_setup (new naming setupSource) edits
  generalize (new naming setupSource).after edits = s at drafted whole first
  have whole : s.submitted ++ [s.current] =
      (List.range (edits.count .submit + 1)).map fun n => .make naming n (textOf edits n) := by
    rw [whole, texts_update_empty, texts_eq]
    refine List.ext_getElem (by simp [new]) ?_
    intro n _ _
    simp [new]
  rw [List.range_succ, List.map_append] at whole
  obtain ⟨submitted, current⟩ := List.append_inj' whole rfl
  have current := List.singleton_inj.mp current
  have size : s.submitted.length = edits.count .submit := by simp [submitted]
  constructor
  · rw [submitted, List.map_map]
    rfl
  · intro n below
    rw [submitted]
    simp [below]
  · exact current
  · exact first
  · exact size
  · refine Eq.symm (filed_last ?_)
    intro d member
    rw [submitted, List.mem_map] at member
    obtain ⟨n, below, rfl⟩ := member
    rw [current]
    exact Int.ofNat_lt.mpr (List.mem_range.mp below)

theorem Logs.sequences {setupSource : String} {edits : List Edit}
    (h : Logs naming setupSource edits s) :
    (s.setup :: s.current :: s.submitted).map (·.sequence) =
      -1 :: (edits.count .submit : Int) :: (List.range (edits.count .submit)).map Int.ofNat := by
  rw [List.map_cons, List.map_cons, h.keys, h.current, h.setup]
  rfl

/-- The numbers of all cells of a store are different. -/
theorem Logs.sequences_nodup {setupSource : String} {edits : List Edit}
    (h : Logs naming setupSource edits s) :
    ((s.setup :: s.current :: s.submitted).map (·.sequence)).Nodup := by
  rw [h.sequences]
  have counted : ((List.range (edits.count .submit)).map Int.ofNat).Nodup :=
    List.Nodup.map (fun _ _ => Int.ofNat.inj) List.nodup_range
  refine List.nodup_cons.mpr ⟨?_, List.nodup_cons.mpr ⟨?_, counted⟩⟩
  · simp
  · intro member
    obtain ⟨n, below, same⟩ := List.mem_map.mp member
    rw [Int.ofNat.inj same] at below
    exact absurd (List.mem_range.mp below) (Nat.lt_irrefl _)

theorem Logs.least {setupSource : String} {edits : List Edit}
    (h : Logs naming setupSource edits s) {c : Cell}
    (member : c ∈ s.setup :: s.current :: s.submitted) : -1 ≤ c.sequence := by
  have number := List.mem_map_of_mem (f := (·.sequence)) member
  rw [h.sequences, List.mem_cons, List.mem_cons] at number
  obtain first | last | past := number
  · exact Int.le_of_eq first.symm
  · omega
  · obtain ⟨n, _, same⟩ := List.mem_map.mp past
    rw [← same]
    exact Int.le_trans (by decide) (Int.natCast_nonneg n)

/-- A cell that is named after its number is named without regard to its source. -/
theorem Logs.module_eq {stem setupSource : String} {edits : List Edit}
    (h : Logs (.sequential stem) setupSource edits s) {c : Cell}
    (member : c ∈ s.setup :: s.current :: s.submitted) :
    c.module = (ModuleNaming.sequential stem).moduleOf c.sequence "" := by
  simp only [List.mem_cons] at member
  obtain rfl | rfl | past := member
  · rw [h.setup]
    rfl
  · rw [h.current]
    rfl
  · obtain ⟨n, found⟩ := List.mem_iff_getElem?.mp past
    have below : n < edits.count .submit := by
      rw [← h.size]
      exact (List.getElem?_eq_some_iff.mp found).1
    have same := found.symm.trans (h.entry n below)
    rw [Option.some.inj same]
    rfl

theorem Logs.modules_nodup {stem setupSource : String} {edits : List Edit}
    (h : Logs (.sequential stem) setupSource edits s) :
    ((s.setup :: s.current :: s.submitted).map (·.module)).Nodup := by
  have distinct := h.sequences_nodup
  refine List.Nodup.map_on ?_ distinct.of_map
  intro c hc d hd same
  rw [h.module_eq hc, h.module_eq hd] at same
  have number := ModuleNaming.sequential_injective (h.least hc) (h.least hd) same
  exact List.inj_on_of_nodup_map distinct hc hd number

/-- After any edits a store is their log. The cell that a submit returns is the entry under its
number for ever. If cells are named after their numbers, with whatever stem, then the setup cell,
the submitted cells and the current cell have different names. -/
theorem edits_logged (naming : ModuleNaming) (setupSource : String) :
    (∀ edits, Logs naming setupSource edits ((new naming setupSource).after edits)) ∧
    (∀ before later,
      ((new naming setupSource).after (before ++ .submit :: later)).submitted[before.count .submit]?
        = some ((new naming setupSource).after before).submit.1) ∧
    ∀ stem edits,
      let s := (new (.sequential stem) setupSource).after edits
      ((s.setup :: s.current :: s.submitted).map (·.module)).Nodup := by
  refine ⟨new_logs naming setupSource, ?_, ?_⟩
  · intro before later
    let s := (new naming setupSource).after before
    have split : (new naming setupSource).after (before ++ .submit :: later) =
        s.submit.2.after later := List.foldl_append
    have size : s.submitted.length = before.count .submit :=
      (new_logs naming setupSource before).size
    obtain ⟨more, grown⟩ := submitted_prefix s.submit.2 later
    rw [split, ← grown, ← size]
    simp [s, submit]
  · intro stem edits s
    exact (new_logs (.sequential stem) setupSource edits).modules_nodup

/-- Three updates and two submits; the second submits the empty text. -/
example :
    let edits := [.update "a", .update "b", .submit, .submit, .update "c"]
    let s := (new (.sequential "1") "").after edits
    (s.submitted.map fun c => (c.sequence, c.source, c.module)) =
        [(0, "b", some "10"), (1, "", some "11")] ∧
      s.current = ⟨2, "c", some "12"⟩ ∧ s.setup.module = some "1Setup" := by decide

end CellStore

end NotebookKernel
