import NotebookKernel.Message.Payload
import NotebookKernel.Message.Request

/-!
# Messages that belong to a request

A reply goes back to the identities of the request; a broadcast goes to everyone
who subscribed to its topic. Both carry the header of the request as parent, its
session and its user, and a header of their own whose identifier and date come
from outside: they are a `Stamp`.
-/

namespace NotebookKernel

/-- The identifier and the date of a new message. -/
structure Stamp where
  msgId : String
  date : String
  deriving DecidableEq, Repr

namespace Request

/-- The header of a message that belongs to the request. -/
def childHeader (r : Request) (stamp : Stamp) (p : Payload) : Header :=
  ⟨stamp.msgId, r.header.username, r.header.session, stamp.date, p.msgType, protocolVersion⟩

/-- A message to the one who asked. -/
def reply (r : Request) (stamp : Stamp) (p : Payload) : Message :=
  ⟨r.identities, r.childHeader stamp p, some r.header, [], p.content, []⟩

/-- The topic under which a payload is broadcast. -/
def topic (p : Payload) : Bytes := utf8 ("kernel." ++ p.msgType)

/-- A message to all subscribers. -/
def broadcast (r : Request) (stamp : Stamp) (p : Payload) : Message :=
  ⟨[topic p], r.childHeader stamp p, some r.header, [], p.content, []⟩

end Request

end NotebookKernel
