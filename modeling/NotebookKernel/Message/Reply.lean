import NotebookKernel.Text.Blank
import NotebookKernel.Json.Kind

/-!
# Replies that report success or failure

Such a reply carries a field `status`, `ok` or `error`, which decides how the other
fields are read. A failure has a name, a value and traceback lines.
-/

namespace NotebookKernel

open Json

/-- A failure as the front-end shows it. -/
structure ErrorContent where
  ename : String
  evalue : String
  traceback : List String
  deriving DecidableEq, Repr

namespace ErrorContent

/-- An empty value, and the text as one traceback line per line. -/
def ofText (ename text : String) : ErrorContent := ⟨ename, "", splitLines text⟩

def fields : Fields :=
  .cons "ename" true (.text "")
    (.cons "evalue" true (.text "")
    (.cons "traceback" true (.list (.text "")) .nil))

def kind : Kind := .record "struct ErrorContent" fields

def ofCarrier : fields.Carrier → ErrorContent
  | (ename, evalue, traceback, ()) => ⟨ename, evalue, traceback⟩

def toCarrier (e : ErrorContent) : fields.Carrier := (e.ename, e.evalue, e.traceback, ())

def entries (e : ErrorContent) : List (String × Value) := fields.toEntries e.toCarrier

end ErrorContent

namespace Reply

def statusEntry (s : String) : String × Value := ("status", .string s)

/-- The status of a reply: `true` for ok. -/
def convertStatus : Value → Except Mismatch Bool
  | .string s =>
      if s = "ok" then .ok true
      else if s = "error" then .ok false
      else .error (.variant s ["ok", "error"])
  | v => .error (.type v.found "variant identifier")

/-- The status of a reply and what is left of it: the other fields, or the other items. -/
def convertTagged (name : String) : Value → Except Mismatch (Bool × Value)
  | .fields d =>
      match Dict.get? "status" d with
      | none => .error (.missing "status")
      | some t => (convertStatus t).map fun ok => (ok, .fields (Dict.erase "status" d))
  | .array [] => .error (.missing "status")
  | .array (t :: rest) => (convertStatus t).map fun ok => (ok, .array rest)
  | v => .error (.type v.found ("internally tagged enum " ++ name))

/-- The words for an array that is too long. -/
def elementsInSequence (n : Nat) : String :=
  if n = 1 then "1 element in sequence" else s!"{n} elements in sequence"

/-- The fields of a reply after its status. -/
def convertBody (name : String) (fields : Fields) : Value → Except Mismatch fields.Carrier
  | .array items =>
      match fields.convertElements name fields.count 0 items with
      | .error m => .error m
      | .ok (vs, []) => .ok vs
      | .ok (_, _ :: _) => .error (.length items.length (elementsInSequence fields.count))
  | v => (Kind.record name fields).convert v

/-- The execution count that stands beside the fields of a failure. -/
def countFields : Fields := .cons "execution_count" true .integer .nil

def countedEntries (count : Int) (failure : ErrorContent) : List (String × Value) :=
  countFields.toEntries (count, ()) ++ failure.entries

/-- A count beside the fields of a failure; an array is not accepted. -/
def convertCounted (name : String) : Value → Except Mismatch (Int × ErrorContent)
  | .fields d =>
      match (Kind.record name countFields).convert (.fields d) with
      | .error m => .error m
      | .ok (count, ()) =>
          match ErrorContent.kind.convert (.fields d) with
          | .error m => .error m
          | .ok e => .ok (count, ErrorContent.ofCarrier e)
  | v => .error (.type v.found name)

/-- The fields of a failure after its status. -/
def convertFailure (v : Value) : Except Mismatch ErrorContent :=
  (convertBody "struct ErrorContent" ErrorContent.fields v).map ErrorContent.ofCarrier

end Reply

open Reply

inductive ExecuteReply where
  | ok (count : Int) (payload : List Value) (userExpressions : Dict)
  | error (count : Int) (failure : ErrorContent)

namespace ExecuteReply

/-- Success without payload or expressions. -/
def success (count : Int) : ExecuteReply := .ok count [] []

def okFields : Fields :=
  .cons "execution_count" true .integer
    (.cons "payload" true (.list .any)
    (.cons "user_expressions" true .dict .nil))

def content : ExecuteReply → Value
  | .ok count payload userExpressions =>
      .object (statusEntry "ok" :: okFields.toEntries (count, payload, userExpressions, ()))
  | .error count failure => .object (statusEntry "error" :: countedEntries count failure)

def ofContent (v : Value) : Except Mismatch ExecuteReply :=
  match convertTagged "ExecuteReply" v with
  | .error m => .error m
  | .ok (true, body) =>
      (convertBody "struct variant ExecuteReply::Ok" okFields body).map
        fun (count, payload, userExpressions, ()) => .ok count payload userExpressions
  | .ok (false, body) =>
      (convertCounted "struct variant ExecuteReply::Error" body).map
        fun (count, failure) => .error count failure

end ExecuteReply

inductive CompleteReply where
  | ok (candidates : List String) (cursorStart cursorEnd : Nat) (metadata : Dict)
  | error (failure : ErrorContent)

namespace CompleteReply

def okFields : Fields :=
  .cons "matches" true (.list (.text ""))
    (.cons "cursor_start" true (.natural "usize" (UInt64.size - 1))
    (.cons "cursor_end" true (.natural "usize" (UInt64.size - 1))
    (.cons "metadata" true .dict .nil)))

def content : CompleteReply → Value
  | .ok candidates cursorStart cursorEnd metadata =>
      .object (statusEntry "ok" ::
        okFields.toEntries (candidates, cursorStart, cursorEnd, metadata, ()))
  | .error failure => .object (statusEntry "error" :: failure.entries)

def ofContent (v : Value) : Except Mismatch CompleteReply :=
  match convertTagged "CompleteReply" v with
  | .error m => .error m
  | .ok (true, body) =>
      (convertBody "struct variant CompleteReply::Ok" okFields body).map
        fun (candidates, cursorStart, cursorEnd, metadata, ()) =>
          .ok candidates cursorStart cursorEnd metadata
  | .ok (false, body) => (convertFailure body).map .error

end CompleteReply

inductive InspectReply where
  | ok (found : Bool) (data metadata : Dict)
  | error (failure : ErrorContent)

namespace InspectReply

/-- Nothing is known about the token. -/
def notFound : InspectReply := .ok false [] []

def okFields : Fields :=
  .cons "found" true .flag (.cons "data" true .dict (.cons "metadata" true .dict .nil))

def content : InspectReply → Value
  | .ok found data metadata =>
      .object (statusEntry "ok" :: okFields.toEntries (found, data, metadata, ()))
  | .error failure => .object (statusEntry "error" :: failure.entries)

def ofContent (v : Value) : Except Mismatch InspectReply :=
  match convertTagged "InspectReply" v with
  | .error m => .error m
  | .ok (true, body) =>
      (convertBody "struct variant InspectReply::Ok" okFields body).map
        fun (found, data, metadata, ()) => .ok found data metadata
  | .ok (false, body) => (convertFailure body).map .error

end InspectReply

end NotebookKernel
