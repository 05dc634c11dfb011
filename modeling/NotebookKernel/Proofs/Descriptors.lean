import NotebookKernel.Kernel.Connection
import NotebookKernel.Tooling.Profile
import NotebookKernel.Proofs.Agreement
import NotebookKernel.Proofs.Arrangement

/-!
# Descriptor and profile files

A descriptor or a profile is read back from the file that it is written to. A file that is
accepted gives a value that can be written, and what is then written does not change any more. The
file itself may have been arranged in any way.
-/

namespace NotebookKernel

open Json Cursor

namespace Json

/-! ## What is read from a text -/

theorem readConverted_eq_ok {α : Type} {convert : Number → Except Mismatch α} {wanted : String}
    {b : UInt8} {c : Cursor} {p : α × Cursor} (h : readConverted convert wanted b c = .ok p) :
    ∃ n, convert n = .ok p.1 := by
  have meant {r : Except Fault (Number × Cursor)} (h : converted convert r = .ok p) :
      ∃ n, convert n = .ok p.1 := by
    unfold converted at h
    split at h
    · cases h
    · split at h
      · rename_i found
        cases h
        exact ⟨_, found⟩
      · cases h
  rw [readConverted_eq] at h
  split at h
  · exact meant h
  · split at h
    · exact meant h
    · exact absurd h readOther_ne_ok

/-- Where there is room for a bracket, what stands in it was read with less room. -/
theorem withRoom_eq_ok {α : Type} {room : Nat} {c : Cursor} {read : Nat → Except Fault α} {a : α}
    (h : withRoom room c read = .ok a) : ∃ less, read less = .ok a := by
  cases room with
  | zero => cases h
  | succ less => exact ⟨less, h⟩

mutual

/-- Only proper documents are read. -/
theorem Kind.read_proper (k : Kind) (sane : k.Sane) {room : Nat} {c : Cursor}
    {p : k.Carrier × Cursor} (h : k.read room c = .ok p) : k.Proper p.1 := by
  match k with
  | .text _ | .flag | .any | .dict => trivial
  | .natural name limit =>
    unfold Kind.read at h
    simp only at h
    split at h
    · cases h
    · obtain ⟨n, meant⟩ := readConverted_eq_ok h
      have within := naturalOf_within meant
      exact ⟨within, Nat.lt_of_le_of_lt within sane⟩
  | .integer =>
    unfold Kind.read at h
    simp only at h
    split at h
    · cases h
    · obtain ⟨n, meant⟩ := readConverted_eq_ok h
      exact integerOf_within meant
  | .choice variants =>
    unfold Kind.read at h
    simp only at h
    split at h
    · cases h
    split at h
    · split at h
      · cases h
      · split at h
        · rename_i known
          cases h
          exact known
        · cases h
    · exact absurd h readOther_ne_ok
  | .optional k =>
    unfold Kind.read at h
    simp only at h
    split at h
    · split at h
      · cases h
        trivial
      · cases h
    · split at h
      · rename_i inner
        cases h
        exact ⟨sane.1, k.read_proper sane.2 inner⟩
      · cases h
  | .list k =>
    unfold Kind.read at h
    simp only at h
    split at h
    · cases h
    split at h
    · obtain ⟨less, items⟩ := withRoom_eq_ok h
      exact readList_all (fun _ _ inner => k.read_proper sane inner) items
    · exact absurd h readOther_ne_ok
  | .record name fields =>
    refine ⟨sane.1, ?_⟩
    unfold Kind.read at h
    simp only at h
    split at h
    · cases h
    split at h
    · obtain ⟨less, h⟩ := withRoom_eq_ok h
      split at h
      · cases h
      rename_i slots _ read
      have proper : fields.SlotsProper slots :=
        readFields_keeps (fun _ _ _ _ now inner => fields.readSlot_proper sane.2 now inner)
          fields.noSlots_proper read
      split at h
      · cases h
      rename_i complete
      split at h
      · cases h
        exact fields.complete_proper sane.2 proper complete
      · cases h
    split at h
    · obtain ⟨less, h⟩ := withRoom_eq_ok h
      split at h
      · cases h
      rename_i read
      have proper := fields.readElements_proper sane.2 read
      split at h
      · cases h
        exact proper
      · cases h
    · exact absurd h readOther_ne_ok

theorem Fields.readSlot_proper (fields : Fields) (sane : fields.Sane) {key : String}
    {slots : fields.Slots} {room : Nat} {c : Cursor} {p : fields.Slots × Cursor}
    (proper : fields.SlotsProper slots) (h : fields.readSlot key slots room c = .ok p) :
    fields.SlotsProper p.1 := by
  match fields, slots with
  | .nil, () => trivial
  | .cons name _ k rest, (slot, slots) =>
    unfold Fields.readSlot at h
    split at h
    · split at h
      · cases h
      split at h
      · cases h
      split at h
      · rename_i read
        cases h
        refine ⟨?_, proper.2⟩
        rintro _ ⟨⟩
        exact k.read_proper sane.1 read
      · cases h
    · split at h
      · rename_i others
        cases h
        exact ⟨proper.1, rest.readSlot_proper sane.2 proper.2 others⟩
      · cases h

theorem Fields.readElements_proper (fields : Fields) (sane : fields.Sane) {name : String}
    {total index : Nat} {first : Bool} {room : Nat} {c : Cursor} {p : fields.Carrier × Cursor}
    (h : fields.readElements name total index first room c = .ok p) : fields.Proper p.1 := by
  match fields with
  | .nil => trivial
  | .cons _ required k rest =>
    unfold Fields.readElements at h
    split at h
    · cases h
    · split at h
      · cases h
      rename_i item
      split at h
      · rename_i others
        cases h
        exact ⟨k.read_proper sane.1 item, rest.readElements_proper sane.2 others⟩
      · cases h
    · split at h
      · cases h
      split at h
      · rename_i others
        cases h
        exact ⟨k.fallback_proper sane.1, rest.readElements_proper sane.2 others⟩
      · cases h

end

theorem Kind.parse_proper {k : Kind} (sane : k.Sane) {bs : Bytes} {a : k.Carrier}
    (h : k.parse bs = .ok a) : k.Proper a := by
  obtain ⟨c, read, _⟩ := finish_eq_ok h
  exact k.read_proper sane read

/-! ## Values that may be absent -/

theorem Kind.optional_readable (k : Kind) {room : Nat} (readable : ∀ a, k.Readable room a)
    (o : Option k.Carrier) : (Kind.optional k).Readable room o := by
  cases o with
  | none => trivial
  | some a => exact readable a

theorem Kind.optional_proper_iff (k : Kind) (definite : k.Definite) (o : Option k.Carrier) :
    (Kind.optional k).Proper o ↔ ∀ a ∈ o, k.Proper a := by
  cases o with
  | none => exact ⟨fun _ => nofun, fun _ => trivial⟩
  | some a =>
    constructor
    · rintro ⟨_, proper⟩ _ ⟨⟩
      exact proper
    · intro proper
      exact ⟨definite, proper a rfl⟩

/-! ## Files that hold one document -/

/-- Nothing is lost in files that each hold one document of a kind. -/
structure Lossless {ε α : Type} (k : Kind) (carrier : α → k.Carrier) (read : Bytes → Except ε α)
    (write : α → List Char) (Fits : α → Prop) : Prop where
  /-- What is written is read back. -/
  back : ∀ x, Fits x → read (Utf8.encode (write x)) = .ok x
  /-- What was accepted is written anew as a text that gives the same and is written again as it
  stands. -/
  anew : ∀ bs x, read bs = .ok x → Fits x ∧ read (Utf8.encode (write x)) = .ok x ∧
    (read (Utf8.encode (write x))).map write = .ok (write x)
  /-- However a document is arranged, it is the same one and is written anew as the same text. -/
  arranged : ∀ x (s : Spaced), Fits x → k.Arranged (carrier x) s.text →
    read s.bytes = .ok x ∧ (read s.bytes).map write = .ok (write x)

section Files

variable {ε α : Type} {k : Kind} {of : k.Carrier → α} {carrier : α → k.Carrier} {notText : ε}
  {bad : Fault → ε}

/-- What is read from a file that must be text and hold a document of a kind. -/
def readFile (k : Kind) (of : k.Carrier → α) (notText : ε) (bad : Fault → ε) (bs : Bytes) :
    Except ε α :=
  match Utf8.decode bs with
  | .error _ => .error notText
  | .ok _ =>
      match k.parse bs with
      | .error f => .error (bad f)
      | .ok a => .ok (of a)

theorem readFile_encode {t : List Char} {a : k.Carrier} (h : k.parse (Utf8.encode t) = .ok a) :
    readFile k of notText bad (Utf8.encode t) = .ok (of a) := by
  simp only [readFile, Utf8.decode_encode, h]

theorem readFile_eq_ok {bs : Bytes} {x : α} (h : readFile k of notText bad bs = .ok x) :
    ∃ a, k.parse bs = .ok a ∧ of a = x := by
  unfold readFile at h
  split at h
  · cases h
  · split at h
    · cases h
    · rename_i a read
      exact ⟨a, read, Except.ok.inj h⟩

/-- If values and documents stand for each other, and there is always room for a document, then
nothing is lost in the files. -/
theorem Lossless.of_inverse {Fits : α → Prop} (sane : k.Sane)
    (readable : ∀ a, k.Readable standardRoom a) (fits : ∀ x, Fits x ↔ k.Proper (carrier x))
    (of_carrier : ∀ x, of (carrier x) = x) (carrier_of : ∀ a, carrier (of a) = a) :
    Lossless k carrier (readFile k of notText bad) (fun x => k.render (carrier x)) Fits := by
  have arranged (x : α) (s : Spaced) (fit : Fits x) (given : k.Arranged (carrier x) s.text) :
      readFile k of notText bad s.bytes = .ok x := by
    have parsed := Kind.parse_arranged ((fits x).mp fit) (readable _) s given
    rw [Spaced.bytes, readFile_encode parsed, of_carrier]
  -- What is printed is one of the arrangements.
  have back (x : α) (fit : Fits x) :
      readFile k of notText bad (Utf8.encode (k.render (carrier x))) = .ok x := by
    have printed := k.arranged_render (carrier x) ((fits x).mp fit)
    have same := arranged x (.bare (k.render (carrier x))) fit printed
    rwa [Spaced.bytes, Spaced.bare_chars] at same
  refine ⟨back, ?_, ?_⟩
  · intro bs x accepted
    obtain ⟨a, parsed, rfl⟩ := readFile_eq_ok accepted
    have fit : Fits (of a) := by
      rw [fits, carrier_of]
      exact Kind.parse_proper sane parsed
    refine ⟨fit, back _ fit, ?_⟩
    rw [back _ fit]
    rfl
  · intro x s fit given
    have same := arranged x s fit given
    refine ⟨same, ?_⟩
    rw [same]
    rfl

end Files

end Json

/-! ## Descriptors of connections -/

/-- A number of 16 bits. -/
def IsPort (n : Nat) : Prop := n ≤ 65535

namespace ConnectionInfo

/-- Every port is a number of 16 bits. -/
structure Fits (c : ConnectionInfo) : Prop where
  heartbeat : IsPort c.heartbeatPort
  shell : IsPort c.shellPort
  control : IsPort c.controlPort
  iopub : IsPort c.iopubPort
  stdin : ∀ n ∈ c.stdinPort, IsPort n

theorem port_sane : portKind.Sane := show 65535 < 0x10000000000000000 by decide

theorem kind_sane : kind.Sane :=
  ⟨by decide, trivial, trivial, trivial, trivial, port_sane, port_sane, port_sane, port_sane,
    ⟨trivial, port_sane⟩, ⟨trivial, trivial⟩, trivial⟩

theorem readable (a : kind.Carrier) : kind.Readable standardRoom a := by
  obtain ⟨transport, ip, scheme, key, hb, shell, control, iopub, stdin, name, ⟨⟩⟩ := a
  exact ⟨by decide, trivial, trivial, trivial, trivial, trivial, trivial, trivial, trivial,
    portKind.optional_readable (fun _ => trivial) stdin,
    (Kind.text "").optional_readable (fun _ => trivial) name, trivial⟩

theorem isPort_iff (n : Nat) : IsPort n ↔ portKind.Proper n := by
  refine ⟨fun port => ⟨port, ?_⟩, fun proper => proper.1⟩
  exact Nat.lt_of_le_of_lt port (by decide)

theorem fits_iff (c : ConnectionInfo) : c.Fits ↔ kind.Proper c.toCarrier := by
  have stdin : (∀ n ∈ c.stdinPort, IsPort n) ↔ (Kind.optional portKind).Proper c.stdinPort :=
    Iff.trans (forall₂_congr fun n _ => isPort_iff n)
      (portKind.optional_proper_iff trivial c.stdinPort).symm
  have name : (Kind.optional (.text "")).Proper c.kernelName :=
    ((Kind.text "").optional_proper_iff trivial _).mpr fun _ _ => trivial
  constructor
  · rintro ⟨hb, shell, control, iopub, input⟩
    exact ⟨by decide, trivial, trivial, trivial, trivial, (isPort_iff _).mp hb,
      (isPort_iff _).mp shell, (isPort_iff _).mp control, (isPort_iff _).mp iopub,
      stdin.mp input, name, trivial⟩
  · rintro ⟨_, _, _, _, _, hb, shell, control, iopub, input, _⟩
    exact ⟨(isPort_iff _).mpr hb, (isPort_iff _).mpr shell, (isPort_iff _).mpr control,
      (isPort_iff _).mpr iopub, stdin.mpr input⟩

theorem ofFile_eq (path : String) : (fun bs => ofFile path (.ok bs)) =
    readFile kind ofCarrier (.connectionFile path .notUtf8) .json := by
  funext bs
  simp only [ofFile, readFile]
  cases Utf8.decode bs with
  | error f => rfl
  | ok t =>
    cases kind.parse bs with
    | error f => rfl
    | ok a => rfl

theorem ofFile_lossless (path : String) :
    Lossless kind toCarrier (fun bs => ofFile path (.ok bs)) render Fits := by
  rw [ofFile_eq]
  exact .of_inverse kind_sane readable fits_iff (fun _ => rfl) fun _ => rfl

end ConnectionInfo

/-! ## Profiles of toolings -/

namespace ToolingProfile

theorem kind_sane : kind.Sane :=
  ⟨by decide, ⟨by decide, trivial, trivial, trivial, trivial, trivial⟩, ⟨trivial, trivial⟩, trivial,
    trivial, trivial, ⟨trivial, trivial⟩, ⟨trivial, trivial⟩, ⟨trivial, trivial⟩, trivial⟩

/-- There is room for the bracket of a command line. -/
theorem argv_readable (words : List String) : argv.Readable 126 words :=
  ⟨by decide, fun _ _ => trivial⟩

theorem argv_proper (words : List String) : argv.Proper words := fun _ _ => trivial

theorem readable (a : kind.Carrier) : kind.Readable standardRoom a := by
  obtain ⟨language, pattern, setup, compile, run, complete, inspect, server, ⟨⟩⟩ := a
  have optional := argv.optional_readable argv_readable
  exact ⟨by decide, ⟨by decide, trivial, trivial, trivial, trivial, trivial⟩,
    (Kind.text "").optional_readable (fun _ => trivial) pattern, trivial,
    argv_readable compile, argv_readable run, optional complete, optional inspect,
    optional server, trivial⟩

theorem proper (p : ToolingProfile) : kind.Proper p.toCarrier := by
  have optional (o : Option (List String)) : (Kind.optional argv).Proper o :=
    (argv.optional_proper_iff trivial o).mpr fun words _ => argv_proper words
  have pattern : (Kind.optional (.text "")).Proper p.modulePattern :=
    ((Kind.text "").optional_proper_iff trivial _).mpr fun _ _ => trivial
  exact ⟨by decide, ⟨by decide, trivial, trivial, trivial, trivial, trivial⟩, pattern, trivial,
    argv_proper _, argv_proper _, optional _, optional _, optional _, trivial⟩

theorem ofFile_eq (path : String) : (fun bs => ofFile path (.ok bs)) =
    readFile kind ofCarrier (.unreadable path .notUtf8) (.malformed path) := by
  funext bs
  simp only [ofFile, readFile]
  cases Utf8.decode bs with
  | error f => rfl
  | ok t =>
    cases kind.parse bs with
    | error f => rfl
    | ok a => rfl

theorem ofFile_lossless (path : String) :
    Lossless kind toCarrier (fun bs => ofFile path (.ok bs)) render fun _ => True := by
  rw [ofFile_eq]
  exact .of_inverse kind_sane readable (fun p => iff_of_true trivial p.proper) (fun _ => rfl)
    fun _ => rfl

end ToolingProfile

/-! ## Descriptors and profiles -/

/-- Nothing is lost in a descriptor or a profile file. Every value is read back from what it is
written as; what was read from any text is written anew, read back and written again as it stands;
and blanks, the order of fields, fields that nobody asked for, and whether an absent value is
spelled out make no difference. -/
theorem descriptions_lossless (path : String) :
    Lossless ConnectionInfo.kind ConnectionInfo.toCarrier
      (fun bs => ConnectionInfo.ofFile path (.ok bs)) ConnectionInfo.render ConnectionInfo.Fits ∧
    Lossless ToolingProfile.kind ToolingProfile.toCarrier
      (fun bs => ToolingProfile.ofFile path (.ok bs)) ToolingProfile.render fun _ => True :=
  ⟨ConnectionInfo.ofFile_lossless path, ToolingProfile.ofFile_lossless path⟩

/-- A profile with blanks, its fields in another order, one that nobody asked for, and one that
is spelled out to be absent. -/
theorem descriptions_lossless_untidy :
    let text := " \x7b\"run\" :[ \"sh\" ,\"x\"],\"z\":[1],\"server\":null,\"language\":" ++
      "\x7b\"file_extension\":\".sh\",\"name\":\"sh\"\x7d\x7d\n"
    let profile : ToolingProfile :=
      ⟨⟨"sh", "", ".sh", ""⟩, none, "", [], ["sh", "x"], none, none, none⟩
    ToolingProfile.ofFile "p" (.ok (utf8 text)) = .ok profile ∧
      (ToolingProfile.ofFile "p" (.ok (utf8 text))).map ToolingProfile.render =
        .ok profile.render := by
  intro text profile
  let space : Gap := ⟨[' '], by simp⟩
  let line : Gap := ⟨['\n'], by simp⟩
  let field (name : String) (t : List Char) : Member := ⟨.empty, name, .empty, .bare t⟩
  let words : List Spaced :=
    [⟨space, renderString "sh", space⟩, .bare (renderString "x")]
  let other : Value := .array [.int 1]
  let language : List Member :=
    [field "file_extension" (renderString ".sh"), field "name" (renderString "sh")]
  let members : List Member :=
    [⟨.empty, "run", space, .bare (listText .empty words)⟩, field "z" other.render,
      field "server" (Value.render .null), field "language" (objectText .empty language)]
  let s : Spaced := ⟨space, objectText .empty members, line⟩
  have same : utf8 text = s.bytes := by decide
  have skippable : Skippable other.render := by
    have written := other.written ⟨trivial, trivial⟩ ⟨trivial, trivial⟩ (Nat.le_refl _)
    exact written.skippable
  have inner : LanguageInfo.kind.Arranged profile.language.toCarrier
      (objectText .empty language) := by
    refine ⟨.empty, language, rfl, ⟨by decide, ?_⟩, ?_⟩
    · simp [language, field, Fields.names]
    · simp [profile, language, field, LanguageInfo.toCarrier, Fields.Shown, Kind.Arranged,
        Kind.fallback, Kind.render, Spaced.bare]
  have listed : ToolingProfile.argv.Arranged profile.run (listText .empty words) :=
    ⟨.empty, words, rfl, .cons rfl (.cons rfl .nil)⟩
  have arranged : ToolingProfile.kind.Arranged profile.toCarrier s.text := by
    refine ⟨.empty, members, rfl, ⟨by decide, ?_⟩, ?_⟩
    · simpa [members, field, Fields.names, Spaced.bare] using skippable
    · simpa [profile, members, field, ToolingProfile.toCarrier, Fields.Shown, Kind.Arranged,
        Kind.fallback, Kind.render, Spaced.bare, ToolingProfile.argv] using And.intro inner listed
  rw [same]
  exact (descriptions_lossless "p").2.arranged profile s trivial arranged

end NotebookKernel
