import NotebookKernel.Channel.Bind

/-!
# All channels or none

A channel is tried when those before it have been, and meets the addresses that these have taken.
If each of the four can then be bound, all are, to these addresses. Otherwise every channel that
cannot be bound is reported, and the addresses in use are those from before, whatever was bound in
between.
-/

namespace NotebookKernel

section Trials

variable (bind : Binder) (e : Endpoints) (used : InUse)

/-- The addresses in use after some channels were tried in their order. -/
def standing (tried : List ChannelKind) : InUse :=
  tried.foldl (fun used k => match bind used (e.get k) with
    | .ok a => a :: used
    | .error _ => used) used

/-- What comes of a channel when its turn has come. -/
def trial (k : ChannelKind) : Except String Address :=
  bind (standing bind e used (ChannelKind.all.takeWhile (· != k))) (e.get k)

/-- The address of a channel that can be bound when its turn has come. -/
def grant? (k : ChannelKind) : Option (ChannelKind × Address) :=
  match trial bind e used k with
  | .ok a => some (k, a)
  | .error _ => none

/-- The failure of a channel that cannot be bound when its turn has come. -/
def refusal? (k : ChannelKind) : Option BindFailure :=
  match trial bind e used k with
  | .ok _ => none
  | .error reason => some ⟨k, e.get k, reason⟩

end Trials

/-- Addresses that were taken are given back, in whatever order. -/
theorem foldl_erase {taken closed : List Address} (same : taken.Perm closed) (used : InUse) :
    closed.foldl List.erase (taken ++ used) = used := by
  induction closed generalizing taken with
  | nil =>
    rw [same.eq_nil]
    rfl
  | cons a rest ih =>
    have there : a ∈ taken := same.mem_iff.mpr List.mem_cons_self
    have fewer : (taken.erase a).Perm rest := by
      have less := same.erase a
      rwa [List.erase_cons_head] at less
    rw [List.foldl_cons, List.erase_append_left _ there]
    exact ih fewer

namespace Attempt

variable {bind : Binder} {e : Endpoints} {used : InUse} {t : Attempt}

/-- The addresses of the sockets that were bound are in use, in front of the others. -/
def Holds (used : InUse) (t : Attempt) : Prop := t.used = (t.bound.map (·.2)).reverse ++ used

theorem Holds.tryChannel (h : t.Holds used) (k : ChannelKind) :
    (tryChannel bind e t k).Holds used := by
  unfold Attempt.tryChannel
  cases bind t.used (e.get k) with
  | ok a =>
    change t.used = _ at h
    simp [Holds, h]
  | error reason => exact h

theorem Holds.foldl (h : t.Holds used) (ks : List ChannelKind) :
    (ks.foldl (Attempt.tryChannel bind e) t).Holds used := by
  induction ks generalizing t with
  | nil => exact h
  | cons k rest ih => exact ih (h.tryChannel k)

theorem Holds.release (h : t.Holds used) : t.release = used := by
  have closed : t.release = (t.bound.map (·.2)).foldl List.erase t.used := by
    rw [List.foldl_map]
    rfl
  rw [closed, show t.used = _ from h]
  exact foldl_erase (List.reverse_perm _) used

/-- The channels before one of them, when each occurs once. -/
theorem takeWhile_before {done rest : List ChannelKind} {k : ChannelKind}
    (once : (done ++ k :: rest).Nodup) : (done ++ k :: rest).takeWhile (· != k) = done := by
  have absent : k ∉ done := fun here =>
    (List.nodup_append.mp once).2.2 k here k List.mem_cons_self rfl
  rw [List.takeWhile_append_of_pos]
  · simp
  · intro j here
    simpa using fun same : j = k => absent (same ▸ here)

/-- When some channels have been tried, the others meet what these have taken. -/
theorem foldl_tried {done rest : List ChannelKind} (order : done ++ rest = ChannelKind.all)
    (met : t.used = standing bind e used done) :
    (rest.foldl (tryChannel bind e) t).bound = t.bound ++ rest.filterMap (grant? bind e used) ∧
      (rest.foldl (tryChannel bind e) t).failures =
        t.failures ++ rest.filterMap (refusal? bind e used) := by
  induction rest generalizing done t with
  | nil => simp
  | cons k rest ih =>
    have once : (done ++ k :: rest).Nodup := by
      rw [order]
      decide
    have turn : trial bind e used k = bind t.used (e.get k) := by
      rw [trial, ← order, takeWhile_before once, met]
    have next : standing bind e used (done ++ [k]) = match bind t.used (e.get k) with
        | .ok a => a :: t.used
        | .error _ => t.used := by
      rw [standing, List.foldl_append, met]
      rfl
    have later : (done ++ [k]) ++ rest = ChannelKind.all := by simpa using order
    rw [List.foldl_cons, List.filterMap_cons, List.filterMap_cons, grant?, refusal?, turn]
    cases result : bind t.used (e.get k) with
    | ok a =>
      have tried : tryChannel bind e t k =
          { t with used := a :: t.used, bound := t.bound ++ [(k, a)] } := by
        simp [tryChannel, result]
      obtain ⟨bound, failures⟩ :=
        ih (t := tryChannel bind e t k) later (by simp [next, tried, result])
      rw [bound, failures, tried]
      simp
    | error reason =>
      have tried : tryChannel bind e t k =
          { t with failures := t.failures ++ [⟨k, e.get k, reason⟩] } := by
        simp [tryChannel, result]
      obtain ⟨bound, failures⟩ :=
        ih (t := tryChannel bind e t k) later (by simp [next, tried, result])
      rw [bound, failures, tried]
      simp

theorem all_holds (bind : Binder) (e : Endpoints) (used : InUse) :
    (all bind used e).Holds used := by
  have start : (Attempt.mk used [] []).Holds used := rfl
  exact start.foldl ChannelKind.all

theorem all_tried (bind : Binder) (e : Endpoints) (used : InUse) :
    (all bind used e).bound = ChannelKind.all.filterMap (grant? bind e used) ∧
      (all bind used e).failures = ChannelKind.all.filterMap (refusal? bind e used) :=
  foldl_tried (List.nil_append _) rfl

theorem all_failures_nil :
    (all bind used e).failures = [] ↔ ∀ k, ∃ a, trial bind e used k = .ok a := by
  rw [(all_tried bind e used).2, List.filterMap_eq_nil_iff]
  constructor
  · intro none k
    have unrefused := none k (by cases k <;> decide)
    unfold refusal? at unrefused
    cases result : trial bind e used k with
    | ok a => exact ⟨a, rfl⟩
    | error reason => simp [result] at unrefused
  · intro granted k _
    obtain ⟨a, result⟩ := granted k
    simp [refusal?, result]

/-- A channel that can be bound has the address that it is bound to. -/
theorem all_endpoints {k : ChannelKind} {a : Address} (granted : trial bind e used k = .ok a) :
    (all bind used e).endpoints.get k = a.text := by
  have own : (fun j => (grant? bind e used j).any fun b => b.1 == k) = (· == k) := by
    funext j
    unfold grant?
    by_cases same : j = k
    · simp [same, granted]
    · cases trial bind e used j <;> simp [same]
  have found : (all bind used e).bound.find? (fun b => b.1 == k) = some (k, a) := by
    rw [(all_tried bind e used).1, List.find?_filterMap, own]
    cases k <;> simp [ChannelKind.all, grant?, granted]
  have address : (all bind used e).address k = a.text := by
    rw [Attempt.address, found]
    rfl
  cases k <;> exact address

end Attempt

/-- All channels are bound if each of them can be when its turn has come. Each is then at its
address, and no others are taken. Otherwise the failures are those of the channels that cannot be
bound when their turn has come, in their order and with their endpoints, and the same addresses are
in use as before. -/
theorem channels_bound_together (bind : Binder) (used : InUse) (e : Endpoints) :
    let result := bindChannelsWith bind used e
    ((∃ bound taken, result = (.ok bound, taken)) ↔ ∀ k, ∃ a, trial bind e used k = .ok a) ∧
    (∀ bound taken, result = (.ok bound, taken) →
      (∀ k, ∃ a, trial bind e used k = .ok a ∧ bound.get k = a.text) ∧
        taken = ((ChannelKind.all.filterMap (grant? bind e used)).map (·.2)).reverse ++ used) ∧
    ∀ failures taken, result = (.error failures, taken) →
      failures = ChannelKind.all.filterMap (refusal? bind e used) ∧ failures ≠ [] ∧
        taken = used := by
  intro result
  let t := Attempt.all bind used e
  have holds : t.Holds used := Attempt.all_holds bind e used
  by_cases none : t.failures = []
  · have all := Attempt.all_failures_nil.mp none
    have succeeded : result = (.ok t.endpoints, t.used) := if_pos none
    rw [succeeded]
    refine ⟨⟨fun _ => all, fun _ => ⟨_, _, rfl⟩⟩, ?_, ?_⟩
    · rintro bound taken ⟨⟩
      refine ⟨?_, ?_⟩
      · intro k
        obtain ⟨a, granted⟩ := all k
        exact ⟨a, granted, Attempt.all_endpoints granted⟩
      · rw [← (Attempt.all_tried bind e used).1]
        exact holds
    · rintro _ _ ⟨⟩
  · have failed : result = (.error t.failures, t.release) := if_neg none
    rw [failed]
    refine ⟨⟨?_, ?_⟩, ?_, ?_⟩
    · rintro ⟨_, _, impossible⟩
      cases impossible
    · exact fun all => absurd (Attempt.all_failures_nil.mpr all) none
    · rintro _ _ ⟨⟩
    · rintro failures taken ⟨⟩
      exact ⟨(Attempt.all_tried bind e used).2, none, holds.release⟩

/-- The heartbeat takes the endpoint that the control channel has too, and gives it back. -/
example :
    bindChannels [.tcp "0.0.0.0" 5000]
      ⟨"ipc://kernel", "tcp://127.0.0.1:5000", "ipc://kernel", "udp://kernel"⟩ =
    (.error [⟨.shell, "tcp://127.0.0.1:5000", BindFault.message .inUse⟩,
      ⟨.control, "ipc://kernel", BindFault.message .inUse⟩,
      ⟨.iopub, "udp://kernel", BindFault.message (.unknownTransport "udp")⟩],
      [.tcp "0.0.0.0" 5000]) := by rfl

end NotebookKernel
