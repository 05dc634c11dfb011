import NotebookKernel.Message.Payload
import NotebookKernel.Proofs.Conversions

/-!
# Payloads and their contents

What the kernel sends is read back from its content, and a content that is accepted is written
back in a form that stays as it is. A reply with a status puts the fields of a record beside
others, so a record is found in an object that holds more than its own fields.
-/

namespace NotebookKernel

namespace Json

/-! ## Records among other fields -/

namespace Dict

/-- A field whose entries all agree is found with their value. -/
theorem get?_of_agree {name : String} {v : Value} {d : Dict} (present : name ∈ d.map Prod.fst)
    (agree : ∀ w, (name, w) ∈ d → w = v) : get? name d = some v := by
  induction d with
  | nil => cases present
  | cons e d ih =>
    obtain ⟨n, w⟩ := e
    rw [get?]
    split
    · rename_i same
      subst same
      rw [agree w List.mem_cons_self]
    · rename_i other
      apply ih
      · rcases List.mem_cons.mp present with same | later
        · exact absurd same.symm other
        · exact later
      · intro w member
        exact agree w (List.mem_cons_of_mem _ member)

theorem mem_erase {name : String} {e : String × Value} {d : Dict} :
    e ∈ erase name d ↔ e ∈ d ∧ e.1 ≠ name := by
  simp [erase]

end Dict

/-- A name that no field of the record has fills no slot. -/
theorem Fields.fill_other : (fields : Fields) → {name : String} → (other : name ∉ fields.names) →
    (v : Value) → (slots : fields.Slots) → fields.fill name v slots = .ok slots
  | .nil, _, _, _, () => rfl
  | .cons n _ _ rest, name, other, v, (slot, slots) => by
    obtain ⟨different, others⟩ := not_or.mp (mt List.mem_cons.mpr other)
    simp only [fill, if_neg different, rest.fill_other others v slots]

/-- The fields of a record stand in an object, and what else stands there has other names. -/
structure Fields.Within (fields : Fields) (vs : fields.Carrier) (d : Dict) : Prop where
  own : ∀ e ∈ d, e.1 ∈ fields.names → e ∈ fields.toEntries vs
  covered : ∀ n ∈ fields.names, n ∈ d.map Prod.fst

namespace Fields.Within

variable {fields : Fields} {vs : fields.Carrier} {d : Dict}

theorem ofList (vs : fields.Carrier) (before after : List (String × Value))
    (apart : ∀ e ∈ before ++ after, e.1 ∉ fields.names) :
    fields.Within vs (Dict.ofList (before ++ fields.toEntries vs ++ after)) := by
  constructor
  · intro e member known
    have listed := Dict.mem_ofList member
    simp only [List.mem_append] at listed apart
    rcases listed with (early | inside) | late
    · exact absurd known (apart e (Or.inl early))
    · exact inside
    · exact absurd known (apart e (Or.inr late))
  · intro n member
    rw [← fields.toEntries_names vs] at member
    apply Dict.name_mem_ofList
    simp only [List.map_append, List.mem_append]
    exact Or.inl (Or.inr member)

/-- Taking away a field of another name leaves the record in place. -/
theorem erase (within : fields.Within vs d) (name : String) (other : name ∉ fields.names) :
    fields.Within vs (d.erase name) := by
  constructor
  · intro e member known
    exact within.own e (Dict.mem_erase.mp member).1 known
  · intro n member
    obtain ⟨e, inside, named⟩ := List.mem_map.mp (within.covered n member)
    refine List.mem_map.mpr ⟨e, Dict.mem_erase.mpr ⟨inside, ?_⟩, named⟩
    rintro rfl
    exact other (named ▸ member)

/-- The record is read from the object whatever else the object holds. -/
theorem convert (within : fields.Within vs d) (name : String) (different : fields.names.Nodup)
    (proper : fields.Proper vs) : (Kind.record name fields).convert (.fields d) = .ok vs := by
  apply Kind.convert_fields _ within.covered
  intro n v member read
  by_cases known : n ∈ fields.names
  · exact fields.fill_toEntries vs different proper (within.own _ member known) read
  · -- A name that is no field fills no slot.
    rw [fields.fill_other known, fields.filled_other vs known]

end Fields.Within

/-! ## What a conversion returns -/

mutual

/-- Every document that is converted to the kind is proper. -/
def Kind.Sane : Kind → Prop
  | .natural _ limit => limit < 0x10000000000000000
  | .choice variants => variants ≠ []
  | .optional k => k.Definite ∧ k.Sane
  | .list k => k.Sane
  | .record _ fields => fields.names.Nodup ∧ fields.Sane
  | _ => True

def Fields.Sane : Fields → Prop
  | .nil => True
  | .cons _ _ k rest => k.Sane ∧ rest.Sane

end

/-- The values in the slots are proper. -/
def Fields.SlotsProper : (fields : Fields) → fields.Slots → Prop
  | .nil, () => True
  | .cons _ _ k rest, (slot, slots) => (∀ a ∈ slot, k.Proper a) ∧ rest.SlotsProper slots

theorem Fields.noSlots_proper (fields : Fields) : fields.SlotsProper fields.noSlots := by
  cases fields with
  | nil => trivial
  | cons _ _ _ rest =>
    exact ⟨fun a member => absurd member (Option.not_mem_none a), rest.noSlots_proper⟩

mutual

theorem Kind.fallback_proper (k : Kind) (sane : k.Sane) : k.Proper k.fallback := by
  match k with
  | .text _ => trivial
  | .flag => trivial
  | .natural _ limit => exact ⟨Nat.zero_le limit, Nat.zero_lt_of_lt sane⟩
  | .integer => exact ⟨by decide, by decide⟩
  | .any => trivial
  | .dict => trivial
  | .choice [] => exact absurd rfl sane
  | .choice (s :: more) => simp [Kind.Proper, Kind.fallback]
  | .optional _ => trivial
  | .list _ => exact fun a member => nomatch member
  | .record _ fields => exact ⟨sane.1, fields.fallback_proper sane.2⟩

theorem Fields.fallback_proper (fields : Fields) (sane : fields.Sane) :
    fields.Proper fields.fallback := by
  match fields with
  | .nil => trivial
  | .cons _ _ k rest => exact ⟨k.fallback_proper sane.1, rest.fallback_proper sane.2⟩

end

theorem naturalOf_within {name : String} {limit n : Nat} {x : Number}
    (h : naturalOf name limit x = .ok n) : n ≤ limit := by
  unfold naturalOf at h
  split at h
  · split at h
    · rename_i within
      cases h
      exact within.2
    · cases h
  · cases h

theorem integerOf_within {i : Int} {x : Number} (h : integerOf x = .ok i) :
    -0x8000000000000000 ≤ i ∧ i < 0x8000000000000000 := by
  unfold integerOf at h
  split at h
  · rename_i w
    split at h
    · rename_i upper
      cases h
      exact ⟨w.lower, upper⟩
    · cases h
  · cases h

theorem convertChoice_known {variants : List String} {v : Value} {s : String}
    (h : convertChoice variants v = .ok s) : variants.contains s = true := by
  unfold convertChoice at h
  split at h
  · split at h
    · rename_i known
      cases h
      exact known
    · cases h
  · split at h
    · rename_i known
      split at h
      · cases h
        exact known
      · cases h
    · cases h
  · cases h
  · cases h

theorem convertAll_forall {α : Type} {convert : Value → Except Mismatch α} {P : α → Prop}
    {vs : List Value} {as : List α} (each : ∀ v a, convert v = .ok a → P a)
    (h : convertAll convert vs = .ok as) : ∀ a ∈ as, P a := by
  induction vs generalizing as with
  | nil =>
    cases h
    exact fun a member => nomatch member
  | cons v vs ih =>
    unfold convertAll at h
    split at h
    · cases h
    · rename_i a first
      split at h
      · rename_i others rest
        cases h
        intro b member
        rcases List.mem_cons.mp member with rfl | later
        · exact each v b first
        · exact ih rest b later
      · cases h

theorem fillSlots_keeps {σ : Type} {fill : String → Value → σ → Except Mismatch σ} {P : σ → Prop}
    (each : ∀ n v s s', P s → fill n v s = .ok s' → P s') {d : Dict} {s s' : σ} (now : P s)
    (h : fillSlots fill d s = .ok s') : P s' := by
  induction d generalizing s with
  | nil =>
    cases h
    exact now
  | cons e d ih =>
    unfold fillSlots at h
    split at h
    · rename_i between first
      exact ih (each _ _ _ _ now first) h
    · cases h

theorem Fields.complete_proper : (fields : Fields) → (sane : fields.Sane) →
    {slots : fields.Slots} → (proper : fields.SlotsProper slots) → {vs : fields.Carrier} →
    (h : fields.complete slots = .ok vs) → fields.Proper vs
  | .nil, _, (), _, (), _ => trivial
  | .cons name required k rest, sane, (slot, slots), proper, (v, vs), h => by
    cases slot with
    | some a =>
      cases others : rest.complete slots with
      | error m => simp [Fields.complete, others] at h
      | ok us =>
        simp only [Fields.complete, others, Except.ok.injEq, Prod.mk.injEq] at h
        obtain ⟨rfl, rfl⟩ := h
        exact ⟨proper.1 a rfl, rest.complete_proper sane.2 proper.2 others⟩
    | none =>
      cases required with
      | true => simp [Fields.complete] at h
      | false =>
        cases others : rest.complete slots with
        | error m => simp [Fields.complete, others] at h
        | ok us =>
          simp only [Fields.complete, others, Bool.false_eq_true, if_false, Except.ok.injEq,
            Prod.mk.injEq] at h
          obtain ⟨rfl, rfl⟩ := h
          exact ⟨k.fallback_proper sane.1, rest.complete_proper sane.2 proper.2 others⟩

mutual

/-- A conversion returns proper documents only. -/
theorem Kind.convert_proper (k : Kind) (sane : k.Sane) {v : Value} {a : k.Carrier}
    (h : k.convert v = .ok a) : k.Proper a := by
  match k, a with
  | .text _, s => trivial
  | .flag, b => trivial
  | .any, v => trivial
  | .dict, d => trivial
  | .natural name limit, n =>
    unfold Kind.convert at h
    split at h
    · have within := naturalOf_within h
      exact ⟨within, Nat.lt_of_le_of_lt within sane⟩
    · cases h
  | .integer, i =>
    unfold Kind.convert at h
    split at h
    · exact integerOf_within h
    · cases h
  | .choice variants, s => exact convertChoice_known h
  | .optional k, none => trivial
  | .optional k, some a =>
    unfold Kind.convert at h
    split at h
    · cases h
    · split at h
      · rename_i inner
        cases h
        exact ⟨sane.1, k.convert_proper sane.2 inner⟩
      · cases h
  | .list k, items =>
    unfold Kind.convert at h
    split at h
    · exact convertAll_forall (fun v a inner => k.convert_proper sane inner) h
    · cases h
  | .record name fields, vs =>
    refine ⟨sane.1, ?_⟩
    unfold Kind.convert at h
    split at h
    · split at h
      · cases h
      · rename_i slots filled
        have proper : fields.SlotsProper slots :=
          fillSlots_keeps (fun n v s s' now inner => fields.fill_proper sane.2 now inner)
            fields.noSlots_proper filled
        exact fields.complete_proper sane.2 proper h
    · split at h
      · cases h
      · rename_i listed
        cases h
        exact fields.convertElements_proper sane.2 listed
      · cases h
    · cases h

theorem Fields.fill_proper (fields : Fields) (sane : fields.Sane) {key : String} {v : Value}
    {slots slots' : fields.Slots} (proper : fields.SlotsProper slots)
    (h : fields.fill key v slots = .ok slots') : fields.SlotsProper slots' := by
  match fields, slots, slots' with
  | .nil, (), () => trivial
  | .cons name _ k rest, (slot, slots), (slot', slots') =>
    unfold Fields.fill at h
    split at h
    · split at h
      · rename_i a converted
        cases h
        refine ⟨?_, proper.2⟩
        rintro b ⟨⟩
        exact k.convert_proper sane.1 converted
      · cases h
    · split at h
      · rename_i others
        cases h
        exact ⟨proper.1, rest.fill_proper sane.2 proper.2 others⟩
      · cases h

theorem Fields.convertElements_proper (fields : Fields) (sane : fields.Sane) {name : String}
    {total index : Nat} {items left : List Value} {vs : fields.Carrier}
    (h : fields.convertElements name total index items = .ok (vs, left)) : fields.Proper vs := by
  match fields, vs with
  | .nil, () => trivial
  | .cons _ required k rest, (v, vs) =>
    unfold Fields.convertElements at h
    split at h
    · split at h
      · cases h
      · rename_i first
        split at h
        · rename_i others
          cases h
          exact ⟨k.convert_proper sane.1 first, rest.convertElements_proper sane.2 others⟩
        · cases h
    · split at h
      · cases h
      · split at h
        · rename_i others
          cases h
          exact ⟨k.fallback_proper sane.1, rest.convertElements_proper sane.2 others⟩
        · cases h

end

end Json

open Json

/-- The number of an execution has 64 bits and a sign. -/
def IsCount (count : Int) : Prop := -0x8000000000000000 ≤ count ∧ count < 0x8000000000000000

/-- A place in a cell has 64 bits. -/
def IsPlace (n : Nat) : Prop := n < UInt64.size

/-! ## Replies with a status -/

namespace Reply

/-- Outside the status, a reply keeps its fields. -/
theorem convertTagged_object (name s : String) (entries : List (String × Value)) {ok : Bool}
    (status : convertStatus (.string s) = .ok ok) (free : ∀ e ∈ entries, e.1 ≠ "status") :
    convertTagged name (.object (statusEntry s :: entries)) =
      .ok (ok, .fields (Dict.erase "status" (Dict.ofList (statusEntry s :: entries)))) := by
  have present : "status" ∈ (Dict.ofList (statusEntry s :: entries)).map Prod.fst :=
    Dict.name_mem_ofList List.mem_cons_self
  have found : Dict.get? "status" (Dict.ofList (statusEntry s :: entries)) = some (.string s) := by
    apply Dict.get?_of_agree present
    intro w member
    rcases List.mem_cons.mp (Dict.mem_ofList member) with same | later
    · cases same
      rfl
    · exact absurd rfl (free _ later)
  simp only [Value.object, convertTagged, found, status]
  rfl

/-- The fields of a record stand in what is left of a reply without its status. -/
theorem convertTagged_record (name s : String) (fields : Fields) (vs : fields.Carrier) {ok : Bool}
    (status : convertStatus (.string s) = .ok ok) (free : "status" ∉ fields.names) :
    ∃ d, convertTagged name (.object (statusEntry s :: fields.toEntries vs)) = .ok (ok, .fields d) ∧
      fields.Within vs d := by
  refine ⟨_, convertTagged_object name s _ status ?_, ?_⟩
  · intro e member same
    rw [← fields.toEntries_names vs] at free
    exact free (same ▸ List.mem_map_of_mem member)
  · have within := Fields.Within.ofList vs [statusEntry s] [] ?_
    · rw [List.append_nil] at within
      exact within.erase _ free
    · intro e member
      rw [List.append_nil, List.mem_singleton] at member
      exact member ▸ free

theorem failure_proper (e : ErrorContent) : ErrorContent.fields.Proper e.toCarrier :=
  ⟨trivial, trivial, fun _ _ => trivial, trivial⟩

theorem failure_different : ErrorContent.fields.names.Nodup := by decide

/-- No field of a failure is a count. -/
theorem failure_apart {e : ErrorContent} : ∀ x ∈ e.entries, x.1 ∉ countFields.names := by
  simp [ErrorContent.entries, ErrorContent.fields, ErrorContent.toCarrier, Fields.toEntries,
    countFields, Fields.names]

/-- The entries of a count and a failure, after some of other names, hold both records. -/
theorem counted_within (count : Int) (e : ErrorContent) {before : List (String × Value)}
    (apart : ∀ x ∈ before, x.1 ∉ countFields.names ∧ x.1 ∉ ErrorContent.fields.names) :
    countFields.Within (count, ()) (Dict.ofList (before ++ countedEntries count e)) ∧
      ErrorContent.fields.Within e.toCarrier (Dict.ofList (before ++ countedEntries count e)) := by
  constructor
  · rw [countedEntries, ← List.append_assoc]
    apply Fields.Within.ofList
    intro x member
    rcases List.mem_append.mp member with early | late
    · exact (apart x early).1
    · exact failure_apart x late
  · rw [countedEntries, ErrorContent.entries, ← List.append_assoc,
      ← List.append_nil (_ ++ ErrorContent.fields.toEntries _)]
    apply Fields.Within.ofList
    intro x member
    rw [List.append_nil] at member
    rcases List.mem_append.mp member with early | count
    · exact (apart x early).2
    · cases List.mem_singleton.mp count
      simp [ErrorContent.fields, Fields.names]

theorem convertCounted_within (name : String) {count : Int} {e : ErrorContent} {d : Dict}
    (fits : IsCount count) (counted : countFields.Within (count, ()) d)
    (failed : ErrorContent.fields.Within e.toCarrier d) :
    convertCounted name (.fields d) = .ok (count, e) := by
  have number := counted.convert name (by decide) ⟨fits, trivial⟩
  have failure := failed.convert "struct ErrorContent" failure_different
    (failure_proper e)
  simp only [convertCounted, number, ErrorContent.kind, failure]
  rfl

/-- A failure is read back from a reply that holds its fields and a status. -/
theorem convertFailure_within {e : ErrorContent} {d : Dict}
    (failed : ErrorContent.fields.Within e.toCarrier d) :
    convertFailure (.fields d) = .ok e := by
  have failure := failed.convert "struct ErrorContent" failure_different
    (failure_proper e)
  simp only [convertFailure, convertBody, failure]
  rfl

theorem convertBody_proper {name : String} {fields : Fields} {v : Value} {vs : fields.Carrier}
    (different : fields.names.Nodup) (sane : fields.Sane)
    (h : convertBody name fields v = .ok vs) : fields.Proper vs := by
  unfold convertBody at h
  split at h
  · split at h
    · cases h
    · rename_i listed
      cases h
      exact fields.convertElements_proper sane listed
    · cases h
  · exact (Kind.convert_proper (.record name fields) ⟨different, sane⟩ h).2

theorem convertCounted_fits {name : String} {v : Value} {count : Int} {e : ErrorContent}
    (h : convertCounted name v = .ok (count, e)) : IsCount count := by
  unfold convertCounted at h
  split at h
  · split at h
    · cases h
    · rename_i number
      split at h
      · cases h
      · cases h
        have proper := Kind.convert_proper (.record name countFields)
          ⟨by decide, trivial, trivial⟩ number
        exact proper.2.1
  · cases h

end Reply

open Reply

namespace ExecuteReply

def Fits : ExecuteReply → Prop
  | .ok count _ _ => IsCount count
  | .error count _ => IsCount count

theorem ofContent_content {r : ExecuteReply} (fits : r.Fits) : ofContent r.content = .ok r := by
  cases r with
  | ok count payload expressions =>
    obtain ⟨d, tagged, within⟩ := convertTagged_record "ExecuteReply" "ok" okFields
      (count, payload, expressions, ()) rfl (by decide)
    have proper : okFields.Proper (count, payload, expressions, ()) :=
      ⟨fits, fun _ _ => trivial, trivial, trivial⟩
    have body := within.convert "struct variant ExecuteReply::Ok" (by decide) proper
    simp only [content, ofContent, tagged, convertBody, body]
    rfl
  | error count e =>
    have apart : ∀ x ∈ [statusEntry "error"],
        x.1 ∉ countFields.names ∧ x.1 ∉ ErrorContent.fields.names := by
      simp [statusEntry, countFields, ErrorContent.fields, Fields.names]
    obtain ⟨counted, failed⟩ := counted_within count e apart
    have tagged := convertTagged_object "ExecuteReply" "error" (countedEntries count e) rfl (by
        simp [countedEntries, countFields, ErrorContent.entries, ErrorContent.fields,
          ErrorContent.toCarrier, Fields.toEntries])
    have body := convertCounted_within "struct variant ExecuteReply::Error" fits
      (counted.erase "status" (by decide)) (failed.erase "status" (by decide))
    simp only [List.singleton_append] at body
    simp only [content, ofContent, tagged, body]
    rfl

theorem fits_of_ofContent {v : Value} {r : ExecuteReply} (h : ofContent v = .ok r) : r.Fits := by
  unfold ofContent at h
  split at h
  · cases h
  · obtain ⟨vs, body, rfl⟩ := of_map_ok h
    have sane : okFields.Sane := ⟨trivial, trivial, trivial, trivial⟩
    exact (convertBody_proper (by decide) sane body).1
  · obtain ⟨⟨count, e⟩, counted, rfl⟩ := of_map_ok h
    exact convertCounted_fits counted

end ExecuteReply

namespace CompleteReply

def Fits : CompleteReply → Prop
  | .ok _ cursorStart cursorEnd _ => IsPlace cursorStart ∧ IsPlace cursorEnd
  | .error _ => True

theorem ofContent_content {r : CompleteReply} (fits : r.Fits) : ofContent r.content = .ok r := by
  cases r with
  | ok candidates cursorStart cursorEnd metadata =>
    obtain ⟨d, tagged, within⟩ := convertTagged_record "CompleteReply" "ok" okFields
      (candidates, cursorStart, cursorEnd, metadata, ()) rfl (by decide)
    have places : ∀ n, IsPlace n → n ≤ UInt64.size - 1 ∧ n < 0x10000000000000000 :=
      fun n place => ⟨Nat.le_sub_one_of_lt place, place⟩
    have proper : okFields.Proper (candidates, cursorStart, cursorEnd, metadata, ()) :=
      ⟨fun _ _ => trivial, places _ fits.1, places _ fits.2, trivial, trivial⟩
    have body := within.convert "struct variant CompleteReply::Ok" (by decide) proper
    simp only [content, ofContent, tagged, convertBody, body]
    rfl
  | error e =>
    obtain ⟨d, tagged, within⟩ := convertTagged_record "CompleteReply" "error"
      ErrorContent.fields e.toCarrier rfl (by decide)
    simp only [content, ofContent, ErrorContent.entries, tagged, convertFailure_within within]
    rfl

theorem fits_of_ofContent {v : Value} {r : CompleteReply} (h : ofContent v = .ok r) : r.Fits := by
  unfold ofContent at h
  split at h
  · cases h
  · obtain ⟨vs, body, rfl⟩ := of_map_ok h
    have limit : UInt64.size - 1 < 0x10000000000000000 := by decide
    have sane : okFields.Sane := ⟨trivial, limit, limit, trivial, trivial⟩
    obtain ⟨-, first, last, -⟩ := convertBody_proper (by decide) sane body
    exact ⟨first.2, last.2⟩
  · obtain ⟨e, -, rfl⟩ := of_map_ok h
    trivial

end CompleteReply

theorem InspectReply.ofContent_content (r : InspectReply) : ofContent r.content = .ok r := by
  cases r with
  | ok found data metadata =>
    obtain ⟨d, tagged, within⟩ := convertTagged_record "InspectReply" "ok" okFields
      (found, data, metadata, ()) rfl (by decide)
    have body := within.convert "struct variant InspectReply::Ok" (by decide)
      ⟨trivial, trivial, trivial, trivial⟩
    simp only [content, ofContent, tagged, convertBody, body]
    rfl
  | error e =>
    obtain ⟨d, tagged, within⟩ := convertTagged_record "InspectReply" "error"
      ErrorContent.fields e.toCarrier rfl (by decide)
    simp only [content, ofContent, ErrorContent.entries, tagged, convertFailure_within within]
    rfl

/-! ## Payloads -/

namespace Payload

/-- Every number of the payload has the width that it is sent with. -/
def Fits : Payload → Prop
  | .executeReply r => r.Fits
  | .executeInput _ count => IsCount count
  | .executeResult count _ _ => IsCount count
  | .error count _ => IsCount count
  | .completeReply r => r.Fits
  | _ => True

/-- The content of the payload that is read from a value of the given type. -/
def rewritten? (t : String) (v : Value) : Option Value :=
  match ofContent? t v with
  | some (.ok p) => some p.content
  | _ => none

theorem kernelInfo_proper (i : KernelInfo) : KernelInfo.kind.Proper i.toCarrier :=
  ⟨by decide, trivial, trivial, trivial, trivial,
    ⟨by decide, trivial, trivial, trivial, trivial, trivial⟩, trivial, fun _ _ => trivial, trivial⟩

/-- A payload is read back from its content. -/
theorem ofContent?_content {p : Payload} (fits : p.Fits) :
    ofContent? p.msgType p.content = some (.ok p) := by
  cases p with
  | kernelInfo i =>
    have back := KernelInfo.kind.convert_toValue i.toCarrier (kernelInfo_proper i)
    simp only [ofContent?, msgType, content, back]
    rfl
  | executeReply r =>
    have back := ExecuteReply.ofContent_content fits
    simp only [ofContent?, msgType, content, back]
    rfl
  | executeInput code count =>
    have back := executeInputKind.convert_toValue (code, count, ())
      ⟨by decide, trivial, fits, trivial⟩
    simp only [ofContent?, msgType, content, back]
    rfl
  | executeResult count data metadata =>
    have back := executeResultKind.convert_toValue (count, data, metadata, ())
      ⟨by decide, fits, trivial, trivial, trivial⟩
    simp only [ofContent?, msgType, content, back]
    rfl
  | error count e =>
    obtain ⟨counted, failed⟩ := counted_within count e (List.forall_mem_nil _)
    have back := convertCounted_within "struct ReplyError" fits counted failed
    simp only [List.nil_append] at back
    simp only [ofContent?, msgType, content, Value.object, back]
    rfl
  | completeReply r =>
    have back := CompleteReply.ofContent_content fits
    simp only [ofContent?, msgType, content, back]
    rfl
  | inspectReply r =>
    have back := InspectReply.ofContent_content r
    simp only [ofContent?, msgType, content, back]
    rfl
  | historyReply outcome history =>
    have back := historyKind.convert_toValue (outcome, history, ())
      ⟨by decide, trivial, fun _ _ => trivial, trivial⟩
    simp only [ofContent?, msgType, content, back]
    rfl
  | shutdownReply outcome restart =>
    have back := shutdownKind.convert_toValue (outcome, restart, ())
      ⟨by decide, trivial, trivial, trivial⟩
    simp only [ofContent?, msgType, content, back]
    rfl
  | status busy =>
    have back := statusKind.convert_toValue (if busy then "busy" else "idle", ())
      ⟨by decide, by cases busy <;> rfl, trivial⟩
    simp only [ofContent?, msgType, content, back]
    cases busy <;> rfl
  | stream stderr text =>
    have back := streamKind.convert_toValue (if stderr then "stderr" else "stdout", text, ())
      ⟨by decide, by cases stderr <;> rfl, trivial, trivial⟩
    simp only [ofContent?, msgType, content, back]
    cases stderr <;> rfl

/-- What is accepted as a type is a payload of that type, and its numbers fit. -/
theorem of_ofContent? {t : String} {v : Value} {p : Payload} (h : ofContent? t v = some (.ok p)) :
    p.msgType = t ∧ p.Fits := by
  unfold ofContent? at h
  split at h
  · obtain ⟨i, -, rfl⟩ := of_map_ok (Option.some.inj h)
    exact ⟨Eq.symm ‹_›, trivial⟩
  split at h
  · obtain ⟨r, read, rfl⟩ := of_map_ok (Option.some.inj h)
    exact ⟨Eq.symm ‹_›, ExecuteReply.fits_of_ofContent read⟩
  split at h
  · obtain ⟨vs, read, rfl⟩ := of_map_ok (Option.some.inj h)
    have sane : executeInputKind.Sane := ⟨by decide, trivial, trivial, trivial⟩
    exact ⟨Eq.symm ‹_›, (executeInputKind.convert_proper sane read).2.2.1⟩
  split at h
  · obtain ⟨vs, read, rfl⟩ := of_map_ok (Option.some.inj h)
    have sane : executeResultKind.Sane := ⟨by decide, trivial, trivial, trivial, trivial⟩
    exact ⟨Eq.symm ‹_›, (executeResultKind.convert_proper sane read).2.1⟩
  split at h
  · obtain ⟨⟨count, e⟩, read, rfl⟩ := of_map_ok (Option.some.inj h)
    exact ⟨Eq.symm ‹_›, convertCounted_fits read⟩
  split at h
  · obtain ⟨r, read, rfl⟩ := of_map_ok (Option.some.inj h)
    exact ⟨Eq.symm ‹_›, CompleteReply.fits_of_ofContent read⟩
  iterate 5
    split at h
    · obtain ⟨vs, -, rfl⟩ := of_map_ok (Option.some.inj h)
      exact ⟨Eq.symm ‹_›, trivial⟩
  · cases h

/-- Nothing is lost in a content. A payload is read back from what it is sent as; a value that is
accepted gives a payload of the type, and that payload is read back from its content, which is
written again as it stands. -/
theorem content_lossless :
    (∀ p : Payload, p.Fits → ofContent? p.msgType p.content = some (.ok p)) ∧
    ∀ (t : String) (v : Value) (p : Payload), ofContent? t v = some (.ok p) →
      p.msgType = t ∧ p.Fits ∧ ofContent? t p.content = some (.ok p) ∧
        rewritten? t p.content = some p.content := by
  constructor
  · intro p fits
    exact ofContent?_content fits
  · intro t v p accepted
    obtain ⟨rfl, fits⟩ := of_ofContent? accepted
    have back := ofContent?_content fits
    refine ⟨rfl, fits, back, ?_⟩
    simp only [rewritten?, back]

/-- A reply whose count is the least there is comes back; so does a stream whose content was
given as an array. -/
theorem content_lossless_at :
    ofContent? "execute_reply" (Payload.executeReply (.success (-0x8000000000000000))).content =
      some (.ok (.executeReply (.success (-0x8000000000000000)))) ∧
    rewritten? "stream" (Payload.stream true "a").content =
      some (Payload.stream true "a").content := by
  have least : (Payload.executeReply (.success (-0x8000000000000000))).Fits :=
    ⟨by decide, by decide⟩
  have listed : ofContent? "stream" (.array [.string "stderr", .string "a"]) =
      some (.ok (.stream true "a")) := rfl
  exact ⟨content_lossless.1 _ least, (content_lossless.2 _ _ _ listed).2.2.2⟩

end Payload

end NotebookKernel
