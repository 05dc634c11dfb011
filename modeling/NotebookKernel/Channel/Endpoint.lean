/-!
# Channels and their endpoints

A kernel listens on four channels. A bind failure names the channel, the endpoint
as it was configured, and the reason.
-/

namespace NotebookKernel

inductive ChannelKind where
  | heartbeat
  | shell
  | control
  | iopub
  deriving DecidableEq, Repr

namespace ChannelKind

def text : ChannelKind → String
  | heartbeat => "heartbeat"
  | shell => "shell"
  | control => "control"
  | iopub => "iopub"

/-- The order in which channels are bound. -/
def all : List ChannelKind := [heartbeat, shell, control, iopub]

def ofText? (s : String) : Option ChannelKind := all.find? fun k => k.text == s

end ChannelKind

/-- The address of each channel. -/
structure Endpoints where
  heartbeat : String
  shell : String
  control : String
  iopub : String
  deriving DecidableEq, Repr

namespace Endpoints

def get (e : Endpoints) : ChannelKind → String
  | .heartbeat => e.heartbeat
  | .shell => e.shell
  | .control => e.control
  | .iopub => e.iopub

end Endpoints

structure BindFailure where
  channel : ChannelKind
  endpoint : String
  reason : String
  deriving DecidableEq, Repr

def BindFailure.message (f : BindFailure) : String :=
  " " ++ f.channel.text ++ " on " ++ f.endpoint ++ " (" ++ f.reason ++ ");"

/-- The sentence that lists every failure. -/
def bindMessage (failures : List BindFailure) : String :=
  failures.foldl (fun s f => s ++ f.message) "failed to bind kernel channels:"

end NotebookKernel
