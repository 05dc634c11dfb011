import NotebookKernel.Proofs.Counting
import NotebookKernel.Proofs.Outlets
import NotebookKernel.Proofs.RoundTrip
import NotebookKernel.Tooling.Scripted

/-!
# Answers and their requests

Whatever is sent for a request says so: it carries the header of the request, and it can be read
back by whoever has the key. Replies go to those who asked, through the queue of the loop that
received the request, and broadcasts go to all others.
-/

namespace NotebookKernel

open Json Job

namespace Json

/-! ## Documents in order -/

/-- An object that is made of fields in any order is in order. -/
theorem Dict.ofList_sorted (entries : List (String × Value)) :
    (Dict.ofList entries).Pairwise fun e f => e.1 < f.1 := by
  suffices all : ∀ (es : List (String × Value)) (d : Dict), (d.Pairwise fun e f => e.1 < f.1) →
      (es.foldl (fun d e => Dict.insert e.1 e.2 d) d).Pairwise fun e f => e.1 < f.1 from
    all entries [] .nil
  intro es
  induction es with
  | nil => exact fun d sorted => sorted
  | cons e es ih => exact fun d sorted => ih _ (Dict.insert_sorted sorted)

theorem Value.object_ordered {entries : List (String × Value)} (h : ∀ e ∈ entries, e.2.Ordered) :
    (Value.object entries).Ordered :=
  ⟨Dict.ofList_sorted entries,
    Value.orderedEntries_of_forall fun e member => h e (Dict.mem_ofList member)⟩

mutual

/-- The values within a document are in order. -/
def Kind.Ordered : (k : Kind) → k.Carrier → Prop
  | .any, (v : Value) => v.Ordered
  | .dict, (d : Dict) => (Value.fields d).Ordered
  | .optional k, o =>
      match o with
      | none => True
      | some a => k.Ordered a
  | .list k, items => ∀ a ∈ items, k.Ordered a
  | .record _ fields, vs => fields.Ordered vs
  | _, _ => True

def Fields.Ordered : (fields : Fields) → fields.Carrier → Prop
  | .nil, () => True
  | .cons _ _ k rest, (v, vs) => k.Ordered v ∧ rest.Ordered vs

end

mutual

theorem Kind.toValue_ordered : (k : Kind) → (a : k.Carrier) → k.Ordered a → (k.toValue a).Ordered
  | .text _, _, _ => trivial
  | .flag, _, _ => trivial
  | .natural _ _, _, _ => trivial
  | .integer, _, _ => trivial
  | .any, _, h => h
  | .dict, _, h => h
  | .choice _, _, _ => trivial
  | .optional _, none, _ => trivial
  | .optional k, some a, h => k.toValue_ordered a h
  | .list k, items, h => by
      refine Value.orderedItems_of_forall fun v member => ?_
      obtain ⟨a, there, rfl⟩ := List.mem_map.mp member
      exact k.toValue_ordered a (h a there)
  | .record _ fields, vs, h => Value.object_ordered (fields.toEntries_ordered vs h)

theorem Fields.toEntries_ordered : (fields : Fields) → (vs : fields.Carrier) → fields.Ordered vs →
    ∀ e ∈ fields.toEntries vs, e.2.Ordered
  | .nil, _, _ => nofun
  | .cons _ _ k rest, (v, vs), h =>
      List.forall_mem_cons.mpr ⟨k.toValue_ordered v h.1, rest.toEntries_ordered vs h.2⟩

end

end Json

/-- The values within a payload are in order. -/
def Payload.Ordered : Payload → Prop
  | .kernelInfo i => ∀ v ∈ i.helpLinks, v.Ordered
  | .executeReply (.ok _ payload expressions) =>
      (∀ v ∈ payload, v.Ordered) ∧ (Value.fields expressions).Ordered
  | .executeResult _ data metadata => (Value.fields data).Ordered ∧ (Value.fields metadata).Ordered
  | .completeReply (.ok _ _ _ metadata) => (Value.fields metadata).Ordered
  | .inspectReply (.ok _ data metadata) =>
      (Value.fields data).Ordered ∧ (Value.fields metadata).Ordered
  | .historyReply _ history => ∀ v ∈ history, v.Ordered
  | _ => True

theorem ErrorContent.entries_ordered (e : ErrorContent) : ∀ f ∈ e.entries, f.2.Ordered :=
  fields.toEntries_ordered _ ⟨trivial, trivial, fun _ _ => trivial, trivial⟩

theorem Reply.countedEntries_ordered (n : Int) (e : ErrorContent) :
    ∀ f ∈ countedEntries n e, f.2.Ordered := by
  intro f member
  rcases List.mem_append.mp member with count | failure
  · exact countFields.toEntries_ordered (n, ()) ⟨trivial, trivial⟩ f count
  · exact e.entries_ordered f failure

/-- The content of a message is in order if the values within are. -/
theorem Payload.content_ordered {p : Payload} (h : p.Ordered) : p.content.Ordered := by
  have tagged {status : String} {entries : List (String × Value)}
      (ordered : ∀ e ∈ entries, e.2.Ordered) :
      (Value.object (Reply.statusEntry status :: entries)).Ordered :=
    Value.object_ordered (List.forall_mem_cons.mpr ⟨trivial, ordered⟩)
  cases p with
  | kernelInfo i =>
    have language : LanguageInfo.kind.Ordered i.language.toCarrier :=
      ⟨trivial, trivial, trivial, trivial, trivial⟩
    exact KernelInfo.kind.toValue_ordered _
      ⟨trivial, trivial, trivial, trivial, language, trivial, h, trivial⟩
  | executeReply reply =>
    cases reply with
    | ok n payload expressions =>
      exact tagged (ExecuteReply.okFields.toEntries_ordered _ ⟨trivial, h.1, h.2, trivial⟩)
    | error n e => exact tagged (Reply.countedEntries_ordered n e)
  | executeInput code n => exact executeInputKind.toValue_ordered _ ⟨trivial, trivial, trivial⟩
  | executeResult n data metadata =>
    exact executeResultKind.toValue_ordered _ ⟨trivial, h.1, h.2, trivial⟩
  | error n e => exact Value.object_ordered (Reply.countedEntries_ordered n e)
  | completeReply reply =>
    cases reply with
    | ok candidates first last metadata =>
      exact tagged (CompleteReply.okFields.toEntries_ordered _
        ⟨fun _ _ => trivial, trivial, trivial, h, trivial⟩)
    | error e => exact tagged e.entries_ordered
  | inspectReply reply =>
    cases reply with
    | ok found data metadata =>
      exact tagged (InspectReply.okFields.toEntries_ordered _ ⟨trivial, h.1, h.2, trivial⟩)
    | error e => exact tagged e.entries_ordered
  | historyReply outcome history => exact historyKind.toValue_ordered _ ⟨trivial, h, trivial⟩
  | shutdownReply outcome again => exact shutdownKind.toValue_ordered _ ⟨trivial, trivial, trivial⟩
  | status busy => exact statusKind.toValue_ordered _ ⟨trivial, trivial⟩
  | stream stderr text => exact streamKind.toValue_ordered _ ⟨trivial, trivial, trivial⟩

/-! ## What is sent is in order -/

/-- Nothing is sent but payloads in order. -/
def Tidy : Action → Prop
  | .emit e => e.payload.Ordered
  | _ => True

theorem Value.no_fields_ordered : (Value.fields []).Ordered := ⟨.nil, trivial⟩

theorem sentIn_ordered {t : List Occurrence} (h : ∀ o ∈ t, Tidy o.action) :
    ∀ e ∈ sentIn t, e.payload.Ordered := by
  intro e member
  obtain ⟨⟨a, x⟩, here, same⟩ := List.mem_filterMap.mp member
  cases a with
  | emit e' =>
    obtain rfl := Option.some.inj same
    exact h _ here
  | _ => cases same

/-- The objects that the tooling answers with are in order, as all objects are. -/
def Objective (t : List Occurrence) : Prop :=
  ∀ c a d, ⟨.call (.run c a), .value d⟩ ∈ t → (Value.fields d).Ordered

section

variable {r : Request}

theorem restartTooling_tidy {α : Type} {c : RequestChannel} {prepare : Job α}
    (h : prepare.Within Tidy fun _ => True) :
    (restartTooling c r prepare).Within Tidy fun _ => True := by
  refine ⟨trivial, fun o => h.bind fun _ _ => ?_⟩
  cases o with
  | ok g => exact ⟨trivial, fun _ => trivial⟩
  | error e => exact ⟨trivial, fun _ => trivial⟩

theorem shutDown_tidy {c : RequestChannel} :
    (shutDown c r).Within Tidy fun _ => True := by
  refine ⟨trivial, fun o => ?_⟩
  cases o with
  | crashed m => trivial
  | stopped => exact ⟨trivial, fun _ => ⟨trivial, fun _ => trivial⟩⟩

namespace Session

variable (s : Session)

theorem inspection_ordered (detail : String) : (Payload.inspectReply (inspection detail)).Ordered :=
  ⟨Value.object_ordered (by simp [Value.Ordered]), Value.no_fields_ordered⟩

theorem complete_tidy (code : String) (cursor : Nat) :
    (s.complete r code cursor).Within Tidy fun _ => True := by
  have limits : (s.complete r code cursor).Within Tidy fun x => x.2.Survives := by
    refine (complete_asks r code cursor).within trivial trivial (fun _ _ => trivial) trivial
      (fun _ _ x p told => ?_) s
    obtain ⟨_, _, _, rfl⟩ := completion_ok told
    exact Value.no_fields_ordered
  exact limits.mono (fun _ => id) fun _ _ => trivial

theorem inspect_tidy (code : String) (cursor : Nat) :
    (s.inspect r code cursor).Within Tidy fun _ => True := by
  have limits : (s.inspect r code cursor).Within Tidy fun x => x.2.Survives := by
    refine (inspect_asks r code cursor).within trivial trivial (fun _ _ => trivial) trivial
      (fun _ _ x p told => ?_) s
    obtain ⟨detail, rfl⟩ | rfl := inspection_ok told
    · exact inspection_ordered detail
    · exact ⟨Value.no_fields_ordered, Value.no_fields_ordered⟩
  exact limits.mono (fun _ => id) fun _ _ => trivial

/-- A cell that was built gave what the tooling answered. -/
theorem Builds.answered {tooling : SessionId} {due : Option Cell} {cell : Cell}
    {calls : List Occurrence} {d : Dict} (h : Builds tooling due cell calls (.value d)) :
    ∃ a, ⟨.call (.run tooling a), .value d⟩ ∈ calls := by
  cases h with
  | ran _ _ a o => exact ⟨a, by simp⟩

variable {s} {s' : Session} {v : Verdict} {t : List Occurrence}

theorem execute_ordered {code : String} (run : (s.execute r code).Runs t (s', v))
    (objective : Objective t) : ∀ e ∈ sentIn t, e.payload.Ordered := by
  by_cases refused : leasesIn t = []
  · obtain ⟨rfl, _⟩ := execute_refused run refused
    intro e member
    obtain rfl := List.mem_singleton.mp member
    trivial
  · obtain ⟨l, leased⟩ := List.exists_mem_of_ne_nil _ refused
    obtain ⟨_, cell, notes, o, answered, announced, _, _, built, reports, sent, _⟩ :=
      execute_runs run leased
    have both : answered.Ordered ∧ announced.Ordered := by
      cases o with
      | value data =>
        obtain ⟨rfl, rfl⟩ := reports
        obtain ⟨a, called⟩ := built.answered
        have ordered : (Value.fields data).Ordered :=
          objective _ a data (List.mem_of_mem_filter called)
        exact ⟨⟨nofun, Value.no_fields_ordered⟩, ordered, Value.no_fields_ordered⟩
      | failed e =>
        obtain ⟨_, rfl, rfl, _⟩ := reports
        exact ⟨trivial, trivial⟩
      | crashed m =>
        obtain ⟨_, rfl, rfl, _⟩ := reports
        exact ⟨trivial, trivial⟩
    intro e member
    simp only [sent, List.mem_cons, List.mem_append, List.mem_map, List.not_mem_nil,
      or_false] at member
    rcases member with rfl | ⟨text, _, rfl⟩ | rfl | rfl
    · trivial
    · trivial
    · exact both.1
    · exact both.2

/-- Every service of the shell sends payloads in order. -/
theorem serve_ordered {service : Service} (run : (s.serve r service).Runs t (s', v))
    (objective : Objective t) : ∀ e ∈ sentIn t, e.payload.Ordered := by
  have tidy {j : Job (Session × Verdict)} (run : j.Runs t (s', v))
      (h : j.Within Tidy fun _ => True) : ∀ e ∈ sentIn t, e.payload.Ordered :=
    sentIn_ordered (Goes.within run h).1
  cases service with
  | kernelInfo => exact tidy run ⟨nofun, fun _ => trivial⟩
  | history => exact tidy run ⟨nofun, fun _ => trivial⟩
  | execute =>
    cases content : r.content with
    | execute code =>
      simp only [serve, content] at run
      exact execute_ordered run objective
    | _ => exact tidy run (by simp [serve, content, Within])
  | complete =>
    cases content : r.content with
    | complete code cursor =>
      simp only [serve, content] at run
      exact tidy run (s.complete_tidy code cursor)
    | _ => exact tidy run (by simp [serve, content, Within])
  | inspect =>
    cases content : r.content with
    | inspect code cursor detail =>
      simp only [serve, content] at run
      exact tidy run (s.inspect_tidy code cursor)
    | _ => exact tidy run (by simp [serve, content, Within])
  | shutdown =>
    cases content : r.content with
    | shutdown again =>
      simp only [serve, content] at run
      cases again with
      | true =>
        have looked : s.sync.Within Tidy fun _ => True := ⟨trivial, fun _ => trivial⟩
        exact tidy run ((restartTooling_tidy looked).bind fun _ _ => trivial)
      | false => exact tidy run (shutDown_tidy.bind fun _ _ => trivial)
    | _ => exact tidy run (by simp [serve, content, Within])

end Session

/-- Every service of the control channel sends payloads in order. -/
theorem Control.serve_tidy (config : KernelConfig) (service : Service) :
    (Control.serve config r service).Within Tidy fun _ => True := by
  cases service with
  | kernelInfo => exact ⟨nofun, fun _ => trivial⟩
  | shutdown =>
    cases content : r.content with
    | shutdown again =>
      simp only [serve, content]
      cases again with
      | true =>
        have nothing : (done ()).Within Tidy fun _ => True := trivial
        exact (restartTooling_tidy nothing).bind fun _ _ => trivial
      | false => exact shutDown_tidy
    | _ => simp [serve, content, Within]
  | _ => trivial

end

/-! ## What is sent belongs to its request -/

/-- It is sent for the request, and a reply to it goes out where the request came in. -/
def Emission.Concerns (c : RequestChannel) (r : Request) : Emission → Prop
  | .reply d q _ => d = c ∧ q = r
  | .broadcast q _ => q = r

theorem Emission.Belongs.concerns {c : RequestChannel} {r : Request} {e : Emission}
    (h : e.Belongs c r) : e.Concerns c r := by
  cases e with
  | reply d q p => exact ⟨h.1, h.2.1⟩
  | broadcast q p => exact h.1

/-- What is sent between busy and idle, and both of these. -/
theorem enveloped_sends {r : Request} {u : List Occurrence} {P : Emission → Prop}
    (status : ∀ busy, P (.broadcast r (.status busy))) (sent : ∀ e ∈ sentIn u, P e) :
    ∀ e ∈ sentIn (⟨.emit (.broadcast r (.status true)), ()⟩ ::
      (u ++ [⟨.emit (.broadcast r (.status false)), ()⟩])), P e := by
  intro e member
  simp only [sentIn_emit, sentIn_append, sentIn_nil, List.mem_cons, List.mem_append,
    List.not_mem_nil, or_false] at member
  rcases member with rfl | here | rfl
  · exact status true
  · exact sent e here
  · exact status false

namespace Kernel

variable {σ : Type}

/-- What a loop sends for a request concerns this request, and it is in order. -/
theorem service_sends {k : Kernel σ} {r : Request} {c : RequestChannel} {t : List Occurrence}
    {f : Finish} (run : (k.service r c).Runs t f) :
    ∀ e ∈ sentIn t, e.Concerns c r ∧ (Objective t → e.payload.Ordered) := by
  have statuses (t : List Occurrence) (busy : Bool) :
      (Emission.broadcast r (.status busy)).Concerns c r ∧
        (Objective t → (Emission.broadcast r (.status busy)).payload.Ordered) :=
    ⟨rfl, fun _ => trivial⟩
  cases c with
  | shell =>
    obtain ⟨t, ⟨s', v⟩, _, rfl, processed, finished⟩ := runs_bind.mp run
    obtain ⟨rfl, rfl⟩ := runs_done.mp finished
    rw [List.append_nil]
    obtain ⟨g, rfl, _⟩ | ⟨g, service, u, _, served, rfl⟩ := Session.process_runs processed
    · simp
    · refine enveloped_sends (statuses _) fun e member => ⟨?_, fun objective => ?_⟩
      · exact (sentIn_belongs (Goes.within served (Session.serve_within _ r service)).1 e
          member).concerns
      · refine Session.serve_ordered served (fun c a d answered => objective c a d ?_) e member
        simp [answered]
  | control =>
    obtain ⟨t, v, _, rfl, processed, finished⟩ := runs_bind.mp run
    obtain ⟨rfl, rfl⟩ := runs_done.mp finished
    rw [List.append_nil]
    unfold Control.process at processed
    cases routed : Service.find? .control r.msgType with
    | none =>
      simp only [routed, pure_eq, runs_done] at processed
      obtain ⟨rfl, _⟩ := processed
      simp
    | some service =>
      simp only [routed] at processed
      obtain ⟨u, served, rfl⟩ := enveloped_trace processed
      refine enveloped_sends (statuses _) fun e member => ⟨?_, fun _ => ?_⟩
      · exact (sentIn_belongs (Goes.within served (Control.serve_within k.config r service)).1 e
          member).concerns
      · exact sentIn_ordered (Goes.within served (Control.serve_tidy k.config service)).1 e member

end Kernel

/-! ## What the front-end gets -/

/-- No topic looks like the delimiter. -/
theorem Request.topic_ne_delimiter (p : Payload) : topic p ≠ Message.delimiter := by
  have first : (topic p).head? = some 0x6B := by
    rw [topic, utf8, String.toList_append, Utf8.encode_append]
    rfl
  have other : Message.delimiter.head? = some 0x3C := by decide
  intro same
  rw [same, other] at first
  cases first

/-- The identities of a request off the wire are those of its message. -/
theorem Request.ofMessage_identities {m : Message} {r : Request} (h : ofMessage m = .ok r) :
    r.identities = m.identities := by
  unfold ofMessage at h
  split at h
  · cases h
    rfl
  · cases h

/-- No identity of a request that was received is the delimiter. -/
theorem Router.decode_plain {signer : Signer} {frames : List Bytes} {r : Request}
    (received : decode signer frames = .ok r) : Message.delimiter ∉ r.identities := by
  unfold decode at received
  split at received
  · rename_i m read
    rw [Request.ofMessage_identities received]
    exact (Message.decode_fits read).1
  · cases received

/-- A message without metadata behind plain identities is read back. -/
theorem Emission.message_read {e : Emission} {stamp : Stamp} {signer : Signer}
    (plain : Message.delimiter ∉ e.request.identities) (ordered : e.payload.Ordered)
    (integral : e.payload.content.Integral) (fits : e.payload.content.depth ≤ standardRoom) :
    Message.decode signer ((e.message stamp).encode signer) = .ok (e.message stamp) := by
  have metadata : (Value.fields []).Readable standardRoom :=
    ⟨Value.no_fields_ordered, trivial, by decide⟩
  have content : e.payload.content.Readable standardRoom :=
    ⟨Payload.content_ordered ordered, integral, fits⟩
  cases e with
  | reply c r p => exact Message.decode_sealed plain metadata content
  | broadcast r p =>
    refine Message.decode_sealed (fun member => ?_) metadata content
    exact Request.topic_ne_delimiter p (List.mem_singleton.mp member).symm

namespace Kernel

variable {σ : Type}

/-- What a loop sends for a request that was received with a key, in whatever state the kernel is
and whatever answers come. Each message has the header of the request as its parent, its session
and its user, and declares the type of its payload. A reply goes only into the queue of the loop
that received the request, and carries the identities of the request; a broadcast goes only into
the queue of the broadcasts, under the topic of its type. If there are no numbers but whole ones
and not too many brackets in its content, the message is read back with the key. -/
theorem answers_correlated (k : Kernel σ) (c : RequestChannel) (key : Bytes) (frames : List Bytes)
    (r : Request) (received : Router.decode (.ofKey key) frames = .ok r)
    (answer : List Occurrence → (a : Action) → a.Answer) :
    let t := ((k.service r c).follow answer []).1
    ∀ e ∈ sentIn t,
      (∀ stamp,
        let m := e.message stamp
        m.parent = some r.header ∧ m.header.session = r.header.session ∧
          m.header.username = r.header.username ∧ m.header.msgType = e.payload.msgType ∧
          m.content = e.payload.content ∧
          (e.outlet = .replies c ∧ m.identities = r.identities ∨
            e.outlet = .broadcasts ∧ m.identities = [utf8 ("kernel." ++ e.payload.msgType)]) ∧
          (Objective t → m.content.Integral → m.content.depth ≤ 127 →
            Message.decode (.ofKey key) (m.encode (.ofKey key)) = .ok m)) ∧
      ∀ (n : ConnectedKernel σ) (o : Outlet),
        let p := n.outlet o
        let p' := (n.emit e).outlet o
        (o ≠ e.outlet → p' = p) ∧
          (o = e.outlet → p'.sent ++ p'.outbound.items = p.sent ++ p.outbound.items ++
            if p.admits then [e.message (n.stamps n.stamped)] else []) := by
  intro t e member
  obtain ⟨u, told, run⟩ := (k.service r c).follow_runs answer []
  rw [List.nil_append] at told
  have sent : e ∈ sentIn u := told ▸ member
  obtain ⟨concerns, ordered⟩ := service_sends run e sent
  refine ⟨fun stamp => ?_, fun n o => ?_⟩
  · have plain : Message.delimiter ∉ r.identities := Router.decode_plain received
    have ordered : Objective t → e.payload.Ordered := fun objective => ordered (told ▸ objective)
    cases e with
    | reply d q p =>
      obtain ⟨rfl, rfl⟩ := concerns
      refine ⟨rfl, rfl, rfl, rfl, rfl, .inl ⟨rfl, rfl⟩, fun objective integral fits => ?_⟩
      exact Emission.message_read plain (ordered objective) integral fits
    | broadcast q p =>
      obtain rfl := concerns
      refine ⟨rfl, rfl, rfl, rfl, rfl, .inr ⟨rfl, rfl⟩, fun objective integral fits => ?_⟩
      exact Emission.message_read plain (ordered objective) integral fits
  · obtain ⟨q, comes, there, elsewhere⟩ := n.emit_puts e
    refine ⟨elsewhere o, ?_⟩
    rintro rfl
    rw [there]
    exact comes.conserves

/-- Asked to execute a cell while the tooling crashes, a kernel sends something, and all of it says
who asked. -/
theorem crash_correlated :
    let header : Header := ⟨"1", "ada", "s", "", "execute_request", "5.3"⟩
    let m : Message := ⟨[[0x69]], header, none, [], .fields [("code", .string "x")], []⟩
    let r : Request := ⟨[[0x69]], header, [], .execute "x"⟩
    let k : Kernel Script := .new .standard Script.backend {} true
    let t := ((k.service r .shell).follow Session.crashingTooling []).1
    Router.decode (.ofKey [1]) (m.encode (.ofKey [1])) = .ok r ∧ sentIn t ≠ [] ∧
      ∀ e ∈ sentIn t, (e.message ⟨"2", ""⟩).parent = some header := by
  intro header m r k t
  have metadata : (Value.fields m.metadata).Readable standardRoom :=
    ⟨Value.no_fields_ordered, trivial, by decide⟩
  have content : m.content.Readable standardRoom :=
    ⟨⟨List.pairwise_singleton .., trivial, trivial⟩, ⟨trivial, trivial⟩, by decide⟩
  have plain : Message.delimiter ∉ m.identities := by decide
  have read : Message.decode (.ofKey [1]) (m.encode (.ofKey [1])) = .ok m :=
    Message.decode_sealed plain metadata content
  have typed : Request.ofMessage m = .ok r := by rfl
  have received : Router.decode (.ofKey [1]) (m.encode (.ofKey [1])) = .ok r := by
    simp only [Router.decode, read, typed]
  have something : sentIn t ≠ [] := by
    have told : (sentIn t).isEmpty = false := by decide +kernel
    exact fun nothing => by simp [nothing] at told
  have all := answers_correlated k .shell [1] _ r received Session.crashingTooling
  exact ⟨received, something, fun e member => ((all e member).1 ⟨"2", ""⟩).1⟩

end Kernel

end NotebookKernel
