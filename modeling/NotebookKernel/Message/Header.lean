import NotebookKernel.Json.Kind

/-!
# Message headers

Every message carries a header, and most carry the header of the request they
belong to. A header is read from a text or from a value by one description.
-/

namespace NotebookKernel

open Json

/-- The version of the messaging protocol that this kernel speaks. -/
def protocolVersion : String := "5.3"

structure Header where
  msgId : String
  username : String
  session : String
  date : String
  msgType : String
  version : String
  deriving DecidableEq, Repr

namespace Header

/-- The written form: identifier, session and type are required, the others may be left out. -/
def kind : Kind :=
  .record "struct Header"
    (.cons "msg_id" true (.text "")
    (.cons "username" false (.text "")
    (.cons "session" true (.text "")
    (.cons "date" false (.text "")
    (.cons "msg_type" true (.text "")
    (.cons "version" false (.text "") .nil))))))

def ofCarrier : kind.Carrier → Header
  | (msgId, username, session, date, msgType, version, ()) =>
      ⟨msgId, username, session, date, msgType, version⟩

def toCarrier (h : Header) : kind.Carrier :=
  (h.msgId, h.username, h.session, h.date, h.msgType, h.version, ())

/-- Read a header frame. -/
def parse (bs : Bytes) : Except Fault Header := (kind.parse bs).map ofCarrier

/-- Convert a value. -/
def ofValue (v : Value) : Except Mismatch Header := (kind.convert v).map ofCarrier

def toValue (h : Header) : Value := kind.toValue h.toCarrier

def render (h : Header) : List Char := kind.render h.toCarrier

end Header

end NotebookKernel
