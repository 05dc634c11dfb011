import NotebookKernel.Proofs.Contents
import NotebookKernel.Proofs.RoundTrip
import NotebookKernel.Proofs.Skipping

/-!
# Two ways to a document

A document is read from a text by its description, field by field as the text goes on, or the
whole text is first read as a value and the value is then converted. The first way rejects
a field that is given twice and skips what it does not know. The second one keeps the last of
equal names and passes over what it does not know. Where both succeed, they give the same document.
-/

namespace NotebookKernel

namespace Json

open Cursor

/-- What is read is what the value of the same text is converted to, and both end at one place. -/
def Agree {α : Type} (read : Cursor → Except Fault (α × Cursor)) (room : Nat)
    (convert : Value → Except Mismatch α) : Prop :=
  ∀ ⦃c c₁ c₂ : Cursor⦄ ⦃a : α⦄ ⦃v : Value⦄, read c = .ok (a, c₁) →
    readValue room c = .ok (v, c₂) → c₁ = c₂ ∧ convert v = .ok a

/-! ## Scalars -/

theorem readOther_ne_ok {α : Type} {wanted : String} {c : Cursor} {p : α × Cursor} :
    readOther wanted c ≠ .ok p := by
  obtain ⟨f, bad⟩ := readOther_error (α := α × Cursor) wanted c
  rw [bad]
  exact nofun

/-- It is enough to look where a value begins. -/
theorem Kind.agree_of {k : Kind} {room : Nat}
    (h : ∀ {c c₁ c₂ : Cursor} {b : UInt8} {a : k.Carrier} {v : Value}, c.peek = some b →
      isJsonBlank b = false → k.read room c = .ok (a, c₁) → readValue room c = .ok (v, c₂) →
        c₁ = c₂ ∧ k.convert v = .ok a) : Agree (k.read room) room k.convert := by
  intro c c₁ c₂ a v typed free
  have free : readValue room c.skipBlanks = .ok (v, c₂) := by
    have same := Kind.any.read_skipBlanks room c
    unfold Kind.read at same
    exact same.trans free
  rw [← Kind.read_skipBlanks] at typed
  obtain ⟨b, p, _⟩ := reads_of_readValue free
  rw [skipBlanks_skipBlanks] at p
  refine h p ?_ typed free
  have first : (c.rest.dropWhile isJsonBlank).head? = some b := by
    rw [← skipBlanks_rest]
    exact p
  simpa [first] using List.head?_dropWhile_not isJsonBlank c.rest

theorem text_agree (s : String) (room : Nat) :
    Agree ((Kind.text s).read room) room (Kind.text s).convert := by
  refine Kind.agree_of fun {c _ _ b _ _} p blank typed free => ?_
  unfold Kind.read at typed
  simp only [skipBlanks_of_peek p blank, p] at typed
  split at typed
  · rename_i byte
    subst byte
    rw [readValue_scalar p rfl rfl, typed] at free
    cases free
    exact ⟨rfl, rfl⟩
  · exact absurd typed readOther_ne_ok

theorem choice_agree (variants : List String) (room : Nat) :
    Agree ((Kind.choice variants).read room) room (Kind.choice variants).convert := by
  refine Kind.agree_of fun {c _ _ b _ _} p blank typed free => ?_
  unfold Kind.read at typed
  simp only [skipBlanks_of_peek p blank, p] at typed
  split at typed
  · rename_i byte
    subst byte
    rw [readValue_scalar p rfl rfl] at free
    obtain ⟨⟨s, after⟩, text, free⟩ := bind_eq_ok.mp free
    cases free
    simp only [text] at typed
    split at typed
    · rename_i known
      cases typed
      exact ⟨rfl, if_pos known⟩
    · cases typed
  · exact absurd typed readOther_ne_ok

theorem flag_agree (room : Nat) : Agree (Kind.flag.read room) room Kind.flag.convert := by
  refine Kind.agree_of fun {c _ _ b _ _} p blank typed free => ?_
  unfold Kind.read at typed
  simp only [skipBlanks_of_peek p blank, p] at typed
  split at typed
  · rename_i byte
    subst byte
    rw [readValue_scalar p rfl rfl] at free
    obtain ⟨after, word, free⟩ := bind_eq_ok.mp free
    rw [word] at typed
    cases typed
    cases free
    exact ⟨rfl, rfl⟩
  split at typed
  · rename_i byte
    subst byte
    rw [readValue_scalar p rfl rfl] at free
    obtain ⟨after, word, free⟩ := bind_eq_ok.mp free
    rw [word] at typed
    cases typed
    cases free
    exact ⟨rfl, rfl⟩
  · exact absurd typed readOther_ne_ok

theorem readScalar_digit {b : UInt8} {c : Cursor} (digit : isDigit b = true) :
    readScalar b c = some (readNumber false c >>= fun (n, c) => .ok (.number n, c)) := by
  have other {a : UInt8} (no_digit : isDigit a = false) : b ≠ a := ne_of_isDigit digit no_digit
  rw [readScalar, if_neg (other rfl), if_neg (other rfl), if_neg (other rfl),
    if_neg (other rfl), if_pos digit]

/-- A number that is converted where it is read is converted as well from its value. -/
theorem readConverted_agree {α : Type} {convert : Number → Except Mismatch α} {wanted : String}
    {room : Nat} {b : UInt8} {c c₁ c₂ : Cursor} {a : α} {v : Value} (p : c.peek = some b)
    (typed : readConverted convert wanted b c = .ok (a, c₁))
    (free : readValue room c = .ok (v, c₂)) :
    c₁ = c₂ ∧ ∃ n, v = .number n ∧ convert n = .ok a := by
  have same {negative : Bool} {here : Cursor}
      (typed : converted convert (readNumber negative here) = .ok (a, c₁))
      (free : (readNumber negative here >>= fun (n, c) => .ok (.number n, c)) = .ok (v, c₂)) :
      c₁ = c₂ ∧ ∃ n, v = .number n ∧ convert n = .ok a := by
    obtain ⟨⟨n, after⟩, number, free⟩ := bind_eq_ok.mp free
    cases free
    rw [number] at typed
    simp only [converted] at typed
    split at typed
    · rename_i found
      cases typed
      exact ⟨rfl, n, rfl, found⟩
    · cases typed
  rw [readConverted_eq] at typed
  split at typed
  · rename_i byte
    subst byte
    rw [readValue_scalar p rfl rfl] at free
    exact same typed free
  split at typed
  · rename_i digit
    rw [readValue_scalar p (not_blank_of_isDigit digit) (readScalar_digit digit)] at free
    exact same typed free
  · exact absurd typed readOther_ne_ok

theorem natural_agree (name : String) (limit room : Nat) :
    Agree ((Kind.natural name limit).read room) room (Kind.natural name limit).convert := by
  refine Kind.agree_of fun {c _ _ b _ _} p blank typed free => ?_
  unfold Kind.read at typed
  simp only [skipBlanks_of_peek p blank, p] at typed
  obtain ⟨ends, n, rfl, found⟩ := readConverted_agree p typed free
  exact ⟨ends, found⟩

theorem integer_agree (room : Nat) : Agree (Kind.integer.read room) room Kind.integer.convert := by
  refine Kind.agree_of fun {c _ _ b _ _} p blank typed free => ?_
  unfold Kind.read at typed
  simp only [skipBlanks_of_peek p blank, p] at typed
  obtain ⟨ends, n, rfl, found⟩ := readConverted_agree p typed free
  exact ⟨ends, found⟩

theorem optional_agree {k : Kind} {room : Nat} (inner : Agree (k.read room) room k.convert) :
    Agree ((Kind.optional k).read room) room (Kind.optional k).convert := by
  refine Kind.agree_of fun {c _ _ b _ v} p blank typed free => ?_
  unfold Kind.read at typed
  simp only [skipBlanks_of_peek p blank, p] at typed
  split at typed
  · rename_i byte
    cases byte
    rw [readValue_scalar p rfl rfl] at free
    obtain ⟨after, word, free⟩ := bind_eq_ok.mp free
    rw [word] at typed
    cases typed
    cases free
    exact ⟨rfl, rfl⟩
  · rename_i other
    have some_value : v ≠ .null := by
      obtain ⟨b', p', reads⟩ := reads_of_readValue free
      rw [skipBlanks_of_peek p blank] at p'
      rintro rfl
      cases reads with
      | null => exact other (p.symm.trans p')
    split at typed
    · rename_i found
      cases typed
      obtain ⟨ends, converts⟩ := inner found free
      refine ⟨ends, ?_⟩
      unfold Kind.convert
      split
      · exact absurd rfl some_value
      · rw [converts]
    · cases typed

/-! ## Lists -/

/-- Two ways of reading that agree on an item agree on the items of a list. -/
theorem readItems_agree {α : Type} {read : Cursor → Except Fault (α × Cursor)} {room : Nat}
    {convert : Value → Except Mismatch α} (item : Agree read room convert) {fuel : Nat}
    {first : Bool} {acc as : List α} {acc' vs : List Value} {c c₁ c₂ : Cursor}
    (before : List.Forall₂ (fun v a => convert v = .ok a) acc' acc)
    (typed : readItems read fuel first acc c = .ok (as, c₁))
    (free : readItems (readValue room) fuel first acc' c = .ok (vs, c₂)) :
    c₁ = c₂ ∧ List.Forall₂ (fun v a => convert v = .ok a) vs as := by
  induction fuel generalizing first acc acc' c with
  | zero => cases typed
  | succ fuel ih =>
    rw [readItems] at typed free
    split at typed
    · cases typed
    · rename_i last
      simp only [last] at free
      cases typed
      cases free
      exact ⟨rfl, List.forall₂_reverse_iff.mpr before⟩
    · rename_i more
      simp only [more] at free
      split at typed
      · cases typed
      rename_i found
      split at free
      · cases free
      rename_i found'
      obtain ⟨rfl, converts⟩ := item found found'
      exact ih (.cons converts before) typed free

theorem convertAll_of_forall₂ {α : Type} {convert : Value → Except Mismatch α} {vs : List Value}
    {as : List α} (all : List.Forall₂ (fun v a => convert v = .ok a) vs as) :
    convertAll convert vs = .ok as := by
  induction all with
  | nil => rfl
  | cons first _ others => simp only [convertAll, first, others]

theorem list_agree {k : Kind} {room : Nat} (inner : Agree (k.read room) room k.convert) :
    Agree ((Kind.list k).read (room + 1)) (room + 1) (Kind.list k).convert := by
  refine Kind.agree_of fun {c _ _ b _ _} p blank typed free => ?_
  unfold Kind.read at typed
  simp only [skipBlanks_of_peek p blank, p] at typed
  split at typed
  · rename_i byte
    subst byte
    rw [readValue_array p] at free
    obtain ⟨⟨vs, d⟩, list, free⟩ := bind_eq_ok.mp free
    cases free
    obtain ⟨⟨vs, c₂⟩, items', list⟩ := bind_eq_ok.mp list
    obtain ⟨d₂, close', list⟩ := bind_eq_ok.mp list
    cases list
    obtain ⟨⟨as, c₁⟩, items, typed⟩ := bind_eq_ok.mp typed
    obtain ⟨d₁, close, typed⟩ := bind_eq_ok.mp typed
    cases typed
    obtain ⟨rfl, all⟩ := readItems_agree inner .nil items items'
    refine ⟨Except.ok.inj (close.symm.trans close'), ?_⟩
    unfold Kind.convert
    exact convertAll_of_forall₂ all
  · exact absurd typed readOther_ne_ok

/-! ## Objects -/

/-- What two ways of reading keep between them field by field they keep for the whole object. -/
theorem readFields_agree {σ τ : Type} {read : String → σ → Cursor → Except Fault (σ × Cursor)}
    {read' : String → τ → Cursor → Except Fault (τ × Cursor)} {R : σ → τ → Prop}
    (field : ∀ ⦃name s t c s' t' c₁ c₂⦄, R s t → read name s c = .ok (s', c₁) →
      read' name t c = .ok (t', c₂) → c₁ = c₂ ∧ R s' t') {fuel : Nat} {first : Bool} {s s' : σ}
    {t t' : τ} {c c₁ c₂ : Cursor} (before : R s t)
    (typed : readFields read fuel first s c = .ok (s', c₁))
    (free : readFields read' fuel first t c = .ok (t', c₂)) : c₁ = c₂ ∧ R s' t' := by
  induction fuel generalizing first s t c with
  | zero => cases typed
  | succ fuel ih =>
    rw [readFields] at typed free
    split at typed
    · cases typed
    · rename_i last
      simp only [last] at free
      cases typed
      cases free
      exact ⟨rfl, before⟩
    · rename_i more
      simp only [more] at free
      split at typed
      · cases typed
      rename_i text
      simp only [text] at free
      split at typed
      · cases typed
      rename_i found
      split at free
      · cases free
      rename_i found'
      obtain ⟨rfl, after⟩ := field before found found'
      exact ih after typed free

theorem Dict.get?_eq_none {name : String} {d : Dict} (absent : ∀ e ∈ d, e.1 ≠ name) :
    Dict.get? name d = none := by
  induction d with
  | nil => rfl
  | cons e d ih =>
    rw [Dict.get?, if_neg (absent e List.mem_cons_self)]
    exact ih fun f member => absent f (List.mem_cons_of_mem _ member)

namespace Fields

/-- Every slot holds what the entry of its name is converted to, or what it held before. -/
def FilledFrom : (fields : Fields) → (before after : fields.Slots) → Dict → Prop
  | .nil, (), (), _ => True
  | .cons name _ k rest, (old, olds), (new, news), d =>
      new.map Except.ok = ((d.get? name).map k.convert).or (old.map Except.ok) ∧
        rest.FilledFrom olds news d

/-- Only the entries that a field asks for count. -/
theorem FilledFrom.congr : {fields : Fields} → {before after : fields.Slots} → {d e : Dict} →
    fields.FilledFrom before after d → (∀ n ∈ fields.names, d.get? n = e.get? n) →
    fields.FilledFrom before after e
  | .nil, (), (), _, _, _, _ => trivial
  | .cons name _ k rest, (old, olds), (new, news), d, e, h, same => by
    refine ⟨?_, h.2.congr fun n member => same n (List.mem_cons_of_mem _ member)⟩
    rw [← same name List.mem_cons_self]
    exact h.1

theorem FilledFrom.nothing : {fields : Fields} → {before after : fields.Slots} →
    fields.FilledFrom before after [] → before = after
  | .nil, (), (), _ => rfl
  | .cons name _ k rest, (old, olds), (new, news), h => by
    have first : new = old := by
      have slot : new.map (Except.ok (ε := Mismatch)) = old.map Except.ok := h.1
      exact Option.map_injective (fun _ _ => Except.ok.inj) slot
    rw [first, FilledFrom.nothing h.2]

theorem FilledFrom.refl : (fields : Fields) → (slots : fields.Slots) →
    fields.FilledFrom slots slots []
  | .nil, () => trivial
  | .cons _ _ _ rest, (_, slots) => ⟨rfl, FilledFrom.refl rest slots⟩

/-- The first entry is put into its slot, and the others fill what is left. -/
theorem FilledFrom.first : {fields : Fields} → {before after : fields.Slots} → {name : String} →
    {v : Value} → {d : Dict} → (different : fields.names.Nodup) → (new : d.get? name = none) →
    fields.FilledFrom before after ((name, v) :: d) →
    ∃ between, fields.fill name v before = .ok between ∧ fields.FilledFrom between after d
  | .nil, (), (), _, _, _, _, _, _ => ⟨(), rfl, trivial⟩
  | .cons n _ k rest, (old, olds), (now, nows), name, v, d, different, new, h => by
    obtain ⟨apart, different⟩ := List.nodup_cons.mp different
    have elsewhere {m : String} (other : name ≠ m) :
        Dict.get? m ((name, v) :: d) = Dict.get? m d := by
      rw [Dict.get?, if_neg other]
    by_cases own : name = n
    · subst own
      obtain ⟨slot, others⟩ := h
      simp only [Dict.get?, if_true, Option.map_some, Option.some_or] at slot
      obtain ⟨a, rfl, converts⟩ := Option.map_eq_some_iff.mp slot
      refine ⟨(some a, olds), by simp only [fill, if_true, ← converts], ?_, ?_⟩
      · simp [new]
      · exact others.congr fun m member => elsewhere fun same => apart (same ▸ member)
    · obtain ⟨between, fills, others⟩ := h.2.first different new
      refine ⟨(old, between), by simp only [fill, if_neg own, fills], ?_, others⟩
      rw [← elsewhere own]
      exact h.1

/-- An object whose names are in order fills the slots. -/
theorem FilledFrom.fillSlots {fields : Fields} {before after : fields.Slots} {d : Dict}
    (different : fields.names.Nodup) (sorted : d.Pairwise fun e f => e.1 < f.1)
    (h : fields.FilledFrom before after d) :
    fillSlots (fun key v slots => fields.fill key v slots) d before = .ok after := by
  induction d generalizing before with
  | nil => exact congrArg Except.ok h.nothing
  | cons e d ih =>
    obtain ⟨name, v⟩ := e
    obtain ⟨first, sorted⟩ := List.pairwise_cons.mp sorted
    have new : Dict.get? name d = none := by
      apply Dict.get?_eq_none
      intro f member same
      have before := first f member
      rw [same] at before
      exact String.lt_irrefl _ before
    obtain ⟨between, fills, others⟩ := h.first different new
    simp only [Json.fillSlots, fills]
    exact ih sorted others

end Fields

/-! ## Documents -/

theorem closeList_eq_ok {c d : Cursor} (h : closeList c = .ok d) :
    c.skipBlanks.peek = some 0x5D ∧ d = c.skipBlanks.next := by
  unfold closeList at h
  simp only at h
  split at h
  · rename_i p
    cases h
    exact ⟨p, rfl⟩
  · split at h
    · cases h
    · cases h
  · cases h
  · cases h

/-- The fields of an object that is read are in order. -/
theorem entries_sorted {read : Cursor → Except Fault (Value × Cursor)} {fuel : Nat} {first : Bool}
    {d : Dict} {c c' : Cursor} (h : readFields (readEntry read) fuel first [] c = .ok (d, c')) :
    d.Pairwise fun e f => e.1 < f.1 := by
  have nothing : Dict.Keeps (fun _ => True) [] := ⟨.nil, nofun⟩
  have kept := readFields_keeps (readEntry_keeps fun _ _ _ => trivial) nothing h
  exact kept.sorted

theorem readItems_skipBlanks {α : Type} (read : Cursor → Except Fault (α × Cursor)) (fuel : Nat)
    (first : Bool) (acc : List α) (c : Cursor) :
    readItems read (fuel + 1) first acc c.skipBlanks = readItems read (fuel + 1) first acc c := by
  simp only [readItems, anotherItem, skipBlanks_skipBlanks]

/-- Nothing is read where the list is over. -/
theorem readItems_over {α : Type} {read : Cursor → Except Fault (α × Cursor)} {fuel : Nat}
    {first : Bool} {acc items : List α} {c d : Cursor} (p : c.skipBlanks.peek = some 0x5D)
    (h : readItems read fuel first acc c = .ok (items, d)) :
    items = acc.reverse ∧ d = c.skipBlanks := by
  cases fuel with
  | zero => cases h
  | succ fuel =>
    simp only [readItems, anotherItem, p, if_true] at h
    cases h
    exact ⟨rfl, rfl⟩

mutual

/-- Where a document can be read and its text can be read as a value, the value is converted to
the document. -/
theorem Kind.agree (k : Kind) (sane : k.Sane) (room : Nat) :
    Agree (k.read room) room k.convert := by
  match k, room with
  | .any, _ =>
    intro c c₁ c₂ a v typed free
    unfold Kind.read at typed
    cases typed.symm.trans free
    exact ⟨rfl, rfl⟩
  | .text s, room => exact text_agree s room
  | .flag, room => exact flag_agree room
  | .natural name limit, room => exact natural_agree name limit room
  | .integer, room => exact integer_agree room
  | .choice variants, room => exact choice_agree variants room
  | .optional k, room => exact optional_agree (k.agree sane.2 room)
  | .dict, room =>
    refine Kind.agree_of fun {c _ _ b _ _} p blank typed free => ?_
    unfold Kind.read at typed
    simp only [skipBlanks_of_peek p blank, p] at typed
    split at typed
    · rename_i byte
      subst byte
      cases room with
      | zero => cases typed
      | succ room =>
        rw [readValue_object p] at free
        obtain ⟨⟨d, after⟩, object, free⟩ := bind_eq_ok.mp free
        cases free
        cases typed.symm.trans object
        exact ⟨rfl, rfl⟩
    · exact absurd typed readOther_ne_ok
  | .list k, 0 =>
    refine Kind.agree_of fun {c _ _ b _ _} p blank typed free => ?_
    unfold Kind.read at typed
    simp only [skipBlanks_of_peek p blank, p] at typed
    split at typed
    · cases typed
    · exact absurd typed readOther_ne_ok
  | .list k, room + 1 => exact list_agree (k.agree sane room)
  | .record name fields, 0 =>
    refine Kind.agree_of fun {c _ _ b _ _} p blank typed free => ?_
    unfold Kind.read at typed
    simp only [skipBlanks_of_peek p blank, p] at typed
    split at typed
    · cases typed
    split at typed
    · cases typed
    · exact absurd typed readOther_ne_ok
  | .record name fields, room + 1 =>
    refine Kind.agree_of fun {c _ _ b _ _} p blank typed free => ?_
    unfold Kind.read at typed
    simp only [skipBlanks_of_peek p blank, p] at typed
    split at typed
    · rename_i byte
      subst byte
      rw [readValue_object p] at free
      obtain ⟨⟨d, after⟩, object, free⟩ := bind_eq_ok.mp free
      cases free
      obtain ⟨⟨d, c₂⟩, entries, object⟩ := bind_eq_ok.mp object
      obtain ⟨d₂, close', object⟩ := bind_eq_ok.mp object
      cases object
      simp only [withRoom] at typed
      split at typed
      · cases typed
      rename_i slots c₁ found
      have field ⦃key slots d c slots' d' c₁ c₂⦄
          (before : fields.FilledFrom fields.noSlots slots d)
          (slot : fields.readSlot key slots room c = .ok (slots', c₁))
          (entry : readEntry (readValue room) key d c = .ok (d', c₂)) :=
        fields.readSlot_agree sane.2 sane.1 before slot entry
      obtain ⟨rfl, filled⟩ := readFields_agree field (.refl fields fields.noSlots) found entries
      have sorted := entries_sorted entries
      split at typed
      · cases typed
      rename_i complete
      split at typed
      · rename_i close
        cases typed
        refine ⟨Except.ok.inj (close.symm.trans close'), ?_⟩
        unfold Kind.convert
        simp only [filled.fillSlots sane.1 sorted, complete]
      · cases typed
    split at typed
    · rename_i byte
      subst byte
      rw [readValue_array p] at free
      obtain ⟨⟨items, d⟩, list, free⟩ := bind_eq_ok.mp free
      cases free
      obtain ⟨⟨items, c₂⟩, all, list⟩ := bind_eq_ok.mp list
      obtain ⟨d₂, close', list⟩ := bind_eq_ok.mp list
      cases list
      simp only [withRoom] at typed
      split at typed
      · cases typed
      rename_i found
      split at typed
      · rename_i close
        cases typed
        obtain ⟨ends, tail, rfl, converts⟩ := fields.readElements_agree sane.2 found close all
        refine ⟨Except.ok.inj (ends.symm.trans close'), ?_⟩
        unfold Kind.convert
        simp only [converts]
      · cases typed
    · exact absurd typed readOther_ne_ok

theorem Fields.readSlot_agree (fields : Fields) (sane : fields.Sane)
    (different : fields.names.Nodup) {room : Nat} {key : String} {slots slots' : fields.Slots}
    {d d' : Dict} {c c₁ c₂ : Cursor} (before : fields.FilledFrom fields.noSlots slots d)
    (typed : fields.readSlot key slots room c = .ok (slots', c₁))
    (free : readEntry (readValue room) key d c = .ok (d', c₂)) :
    c₁ = c₂ ∧ fields.FilledFrom fields.noSlots slots' d' := by
  obtain ⟨c', colon, entry⟩ := bind_eq_ok.mp free
  obtain ⟨⟨v, after⟩, found, entry⟩ := bind_eq_ok.mp entry
  cases entry
  match fields, slots, slots' with
  | .nil, (), () =>
    unfold Fields.readSlot at typed
    simp only [colon, skipValue_of_readValue found] at typed
    cases typed
    exact ⟨rfl, trivial⟩
  | .cons name required k rest, (slot, slots), (slot', slots') =>
    obtain ⟨apart, different⟩ := List.nodup_cons.mp different
    obtain ⟨held, others⟩ := before
    unfold Fields.readSlot at typed
    split at typed
    · rename_i own
      subst own
      split at typed
      · cases typed
      simp only [colon] at typed
      split at typed
      · rename_i read
        cases typed
        obtain ⟨ends, converts⟩ := k.agree sane.1 room read found
        refine ⟨ends, ?_, others.congr fun n member => ?_⟩
        · simp [Dict.get?_insert, converts]
        · have other : key ≠ n := fun same => apart (same ▸ member)
          rw [Dict.get?_insert, if_neg other]
      · cases typed
    · rename_i other
      split at typed
      · rename_i read
        cases typed
        obtain ⟨ends, after⟩ := rest.readSlot_agree sane.2 different others read free
        refine ⟨ends, ?_, after⟩
        rw [Dict.get?_insert, if_neg other]
        exact held
      · cases typed

theorem Fields.readElements_agree (fields : Fields) (sane : fields.Sane) {name : String}
    {total index fuel room : Nat} {first : Bool} {acc items : List Value} {vs : fields.Carrier}
    {c c₁ c₂ d : Cursor} (typed : fields.readElements name total index first room c = .ok (vs, c₁))
    (close : closeList c₁ = .ok d)
    (free : readItems (readValue room) fuel first acc c = .ok (items, c₂)) :
    closeList c₂ = .ok d ∧ ∃ tail, items = acc.reverse ++ tail ∧
      fields.convertElements name total index tail = .ok (vs, []) := by
  match fields, vs with
  | .nil, () =>
    unfold Fields.readElements at typed
    cases typed
    obtain ⟨p, rfl⟩ := closeList_eq_ok close
    obtain ⟨rfl, rfl⟩ := readItems_over p free
    refine ⟨?_, [], (List.append_nil _).symm, rfl⟩
    rw [closeList, skipBlanks_skipBlanks] at *
    exact close
  | .cons n required k rest, (v, vs) =>
    cases fuel with
    | zero => cases free
    | succ fuel =>
      unfold Fields.readElements at typed
      split at typed
      · cases typed
      · rename_i more
        simp only [readItems, more] at free
        split at typed
        · cases typed
        rename_i read
        split at free
        · cases free
        rename_i item _ found
        split at typed
        · rename_i others
          cases typed
          obtain ⟨rfl, converts⟩ := k.agree sane.1 room read found
          obtain ⟨ends, tail, rfl, converted⟩ := rest.readElements_agree sane.2 others close free
          refine ⟨ends, item :: tail, by rw [List.reverse_cons, List.append_assoc]; rfl, ?_⟩
          unfold Fields.convertElements
          simp only [converts, converted]
        · cases typed
      · rename_i here last
        obtain ⟨rfl, p⟩ := anotherItem_last last
        split at typed
        · cases typed
        rename_i optional
        split at typed
        · rename_i others
          cases typed
          rw [← readItems_skipBlanks] at free
          obtain ⟨ends, tail, same, converted⟩ := rest.readElements_agree sane.2 others close free
          rw [readItems_skipBlanks] at free
          obtain ⟨rfl, _⟩ := readItems_over p free
          obtain rfl : tail = [] := by simpa using same
          refine ⟨ends, [], (List.append_nil _).symm, ?_⟩
          unfold Fields.convertElements
          simp only [optional, converted]
          rfl
        · cases typed

end

theorem Kind.parse_agree {k : Kind} (sane : k.Sane) {bs : Bytes} {a : k.Carrier} {v : Value}
    (typed : k.parse bs = .ok a) (free : Kind.any.parse bs = .ok v) : k.convert v = .ok a := by
  obtain ⟨c₁, typed, _⟩ := finish_eq_ok typed
  obtain ⟨c₂, free, _⟩ := finish_eq_ok free
  unfold Kind.read at free
  exact (k.agree sane standardRoom typed free).2

end Json

open Json

theorem Header.kind_sane : Header.kind.Sane :=
  ⟨by decide, trivial, trivial, trivial, trivial, trivial, trivial, trivial⟩

namespace Message

/-- A header is not read from an empty object, so a text that is read as a header by its
description is not the text for no parent, and the parent it gives is that header. -/
theorem parentOf_of_parse {bs : Bytes} {fields : Header.kind.Carrier} {v : Value}
    {parent : Option Header} (typed : Header.kind.parse bs = .ok fields)
    (free : Kind.any.parse bs = .ok v) (meant : parentOf v = .ok parent) :
    parent = some (Header.ofCarrier fields) := by
  have converts := Kind.parse_agree Header.kind_sane typed free
  have value : Header.ofValue v = .ok (Header.ofCarrier fields) := by
    rw [Header.ofValue, converts]
    rfl
  unfold parentOf at meant
  split at meant
  · cases value
  · rw [value] at meant
    exact (Except.ok.inj meant).symm

/-- Whatever is written in them, a header frame and a parent frame of the same bytes are read as
the same header. The frames of a message are those after the first delimiter. -/
theorem decode_twin_frames (key : Bytes) {identities : List Bytes} (plain : delimiter ∉ identities)
    {signature twin : Bytes} {others : List Bytes} {m : Message}
    (h : decode (.ofKey key) (identities ++ delimiter :: signature :: twin :: twin :: others) =
      .ok m) : m.parent = some m.header := by
  rcases envelope_cases (signature :: twin :: twin :: others) with ⟨e, frames⟩ | ⟨name, missing⟩
  · have same : e.header = e.parent := by
      simp only [Envelope.frames, List.cons.injEq] at frames
      exact frames.2.1.symm.trans frames.2.2.1
    rw [frames, decode_framed plain] at h
    split at h
    · unfold Envelope.opened at h
      split at h
      · cases h
      · rename_i parts
        cases h
        obtain ⟨fields, value, typed, rfl, free, meant, _, _⟩ := parseFrames_eq_ok parts
        rw [same] at typed
        exact parentOf_of_parse typed free meant
    · cases h
  · rw [decode_missing plain _ missing] at h
    cases h

/-- A header among blanks, with its fields in another order, an escape, a field that nobody asked
for and the optional ones left out. -/
theorem decode_twin_frames_unordered :
    let twin := utf8 (" \x7b \"x\": [1, \x7b\x7d], \"session\": \"s\"," ++
      " \"msg_id\": \"\\u0031\", \"msg_type\": \"t\" \x7d ")
    let others := [utf8 "\x7b\x7d", utf8 "1"]
    delimiter ∉ ([] : List Bytes) ∧ ∃ m,
      decode (.ofKey [1]) ([] ++ delimiter :: (Signer.ofKey [1]).sign (twin :: twin :: others) ::
        twin :: twin :: others) = .ok m ∧ m.parent = some m.header := by
  intro twin others
  have plain : delimiter ∉ ([] : List Bytes) := List.not_mem_nil
  let e : Envelope :=
    ⟨(Signer.ofKey [1]).sign (twin :: twin :: others), twin, twin, utf8 "\x7b\x7d", utf8 "1", []⟩
  have read : (e.opened []).isOk = true := by decide +kernel
  cases h : e.opened [] with
  | error x =>
    rw [h] at read
    cases read
  | ok m =>
    have decoded : decode (.ofKey [1]) ([] ++ delimiter :: e.frames) = .ok m :=
      (decode_signed plain rfl).trans h
    exact ⟨plain, m, decoded, decode_twin_frames [1] plain decoded⟩

end Message

end NotebookKernel
