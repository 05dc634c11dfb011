import NotebookKernel.Message.Payload
import NotebookKernel.Message.ProtocolError

/-!
# Tooling profiles

The description of a tooling that is driven by commands: a language and the
command lines that compile, run, complete and inspect its cells. Words in braces
in a command line are filled in when the command is run.
-/

namespace NotebookKernel

open Json

structure ToolingProfile where
  language : LanguageInfo
  modulePattern : Option String
  setupSource : String
  compile : List String
  run : List String
  complete : Option (List String)
  inspect : Option (List String)
  server : Option (List String)
  deriving DecidableEq, Repr

/-- A file that gives no profile: it cannot be read, or it is not one. -/
inductive ProfileError where
  | unreadable (path : String) (fault : FileFault)
  | malformed (path : String) (fault : Json.Fault)
  deriving DecidableEq

/-- What was attempted, and why it failed. -/
def ProfileError.chain : ProfileError → List String
  | .unreadable path fault => ["read tooling profile " ++ path, fault.message]
  | .malformed path fault => ["parse tooling profile " ++ path, fault.message]

namespace ToolingProfile

def argv : Kind := .list (.text "")

def kind : Kind :=
  .record "struct ToolingProfile"
    (.cons "language" true LanguageInfo.kind
    (.cons "module_pattern" false (.optional (.text ""))
    (.cons "setup_source" false (.text "")
    (.cons "compile" false argv
    (.cons "run" true argv
    (.cons "complete" false (.optional argv)
    (.cons "inspect" false (.optional argv)
    (.cons "server" false (.optional argv) .nil))))))))

def ofCarrier : kind.Carrier → ToolingProfile
  | (language, modulePattern, setupSource, compile, run, complete, inspect, server, ()) =>
      ⟨LanguageInfo.ofCarrier language, modulePattern, setupSource, compile, run, complete,
        inspect, server⟩

def toCarrier (p : ToolingProfile) : kind.Carrier :=
  (p.language.toCarrier, p.modulePattern, p.setupSource, p.compile, p.run, p.complete,
    p.inspect, p.server, ())

def toValue (p : ToolingProfile) : Value := kind.toValue p.toCarrier

def render (p : ToolingProfile) : List Char := kind.render p.toCarrier

/-- The profile in a file with the given path and content. -/
def ofFile (path : String) (content : Except FileFault Bytes) :
    Except ProfileError ToolingProfile :=
  match content with
  | .error f => .error (.unreadable path f)
  | .ok bs =>
      match Utf8.decode bs with
      | .error _ => .error (.unreadable path .notUtf8)
      | .ok _ =>
          match kind.parse bs with
          | .error f => .error (.malformed path f)
          | .ok p => .ok (ofCarrier p)

/-- Shell scripts, run by `sh`. -/
def shell : ToolingProfile where
  language := ⟨"sh", "", ".sh", "text/x-sh"⟩
  modulePattern := none
  setupSource := ""
  compile := ["sh", "-n", "\x7bfile\x7d"]
  run := ["sh", "\x7bfile\x7d"]
  complete := some ["bash", "-c", "compgen -c -- \"$0\" | sort -u | head -n 20", "\x7bprefix\x7d"]
  inspect := some ["sh", "-c", "command -V \"$0\"", "\x7btoken\x7d"]
  server := none

end ToolingProfile

end NotebookKernel
