import NotebookKernel.Channel.Endpoint
import NotebookKernel.Message.Answer

/-!
# Emissions

What a handler sends: a reply on the channel that serves the request, or a broadcast to
all who listen. An emission waits in the queue of its channel until it is sent.
-/

namespace NotebookKernel

/-- The channels on which requests arrive. -/
inductive RequestChannel where
  | shell
  | control
  deriving DecidableEq, Repr

namespace RequestChannel

def kind : RequestChannel → ChannelKind
  | shell => .shell
  | control => .control

end RequestChannel

inductive Emission where
  | reply (channel : RequestChannel) (request : Request) (payload : Payload)
  | broadcast (request : Request) (payload : Payload)

namespace Emission

/-- The channel in whose queue it waits. -/
def channel : Emission → ChannelKind
  | reply c _ _ => c.kind
  | broadcast _ _ => .iopub

def request : Emission → Request
  | reply _ r _ => r
  | broadcast r _ => r

def payload : Emission → Payload
  | reply _ _ p => p
  | broadcast _ p => p

def message (stamp : Stamp) : Emission → Message
  | reply _ r p => r.reply stamp p
  | broadcast r p => r.broadcast stamp p

end Emission

end NotebookKernel
