import NotebookKernel.Channel.Emission
import NotebookKernel.Text.Blank
import NotebookKernel.Text.Hex

/-!
# Frames on lines of text

A message between a kernel and its front-end, on one line: the name of the channel, and
after a blank each the frames in hexadecimal digits. A line of one word may also tell
the kernel to restart its tooling or to end.
-/

namespace NotebookKernel

/-- What a line asks of a kernel. -/
inductive Directive where
  | message (channel : RequestChannel) (frames : List Bytes)
  | ping (frames : List Bytes)
  | interrupt
  | terminate
  deriving DecidableEq

/-- Read all the frames, or none. -/
def readFrames : List (List Char) → Option (List Bytes)
  | [] => some []
  | word :: rest =>
      match Hex.decode? word, readFrames rest with
      | some frame, some frames => some (frame :: frames)
      | _, _ => none

def Directive.ofWords? : List (List Char) → Option Directive
  | [] => none
  | verb :: words =>
      match String.ofList verb, readFrames words with
      | "shell", some frames => some (.message .shell frames)
      | "control", some frames => some (.message .control frames)
      | "heartbeat", some frames => some (.ping frames)
      | "interrupt", some [] => some .interrupt
      | "terminate", some [] => some .terminate
      | _, _ => none

/-- Read a line, with or without the line break at its end. -/
def Directive.parse? (line : String) : Option Directive :=
  ofWords? (splitAtChar ' ' (line.toList.filter fun c => c != '\n' && c != '\r'))

/-- The line for a message that a channel sends. -/
def frameLine (channel : ChannelKind) (frames : List Bytes) : String :=
  channel.text ++ String.join (frames.map fun f => " " ++ String.ofList (Hex.encode f))

end NotebookKernel
