import NotebookKernel.Text.WordCharacter
import NotebookKernel.Channel.Endpoint

/-!
# Addresses

The text of an endpoint is a transport, a colon and two slashes, and what the transport
makes of the rest: a host and a port, or the path of a local socket.
-/

namespace NotebookKernel

inductive Address where
  | tcp (host : String) (port : Nat)
  | ipc (path : String)
  deriving DecidableEq, Repr

/-- Why an endpoint cannot be bound. -/
inductive BindFault where
  | noTransport
  | unknownTransport (name : String)
  | noHostAndPort
  | portOutOfRange
  | inUse
  deriving DecidableEq, Repr

def BindFault.message : BindFault → String
  | .noTransport => "Endpoint Error: Invalid Syntax: Could not parse transport"
  | .unknownTransport name => "Endpoint Error: Unknown transport type " ++ name
  | .noHostAndPort => "Endpoint Error: Invalid Syntax: Could not parse host and port"
  | .portOutOfRange => "Endpoint Error: Invalid Syntax: Port must be a u16 but was out of range"
  | .inUse => "Network Error: Address already in use (os error 98)"

namespace Address

def isLower (c : Char) : Bool := 'a' ≤ c && c ≤ 'z'

/-- Transport and rest; neither is empty, and the rest is on one line. -/
def splitTransport (text : List Char) : Option (List Char × List Char) :=
  let transport := text.takeWhile isLower
  match transport, text.drop transport.length with
  | _ :: _, ':' :: '/' :: '/' :: c :: rest =>
      if (c :: rest).contains '\n' then none else some (transport, c :: rest)
  | _, _ => none

/-- Host and port, with the last colon between them; neither is empty. -/
def splitPort (rest : List Char) : Option (List Char × List Char) :=
  let port := (rest.reverse.takeWhile Unicode.isDecimalDigit).reverse
  match port, (rest.take (rest.length - port.length)).reverse with
  | _ :: _, ':' :: c :: host => some ((c :: host).reverse, port)
  | _, _ => none

/-- A port in decimal digits. -/
def readPort (digits : List Char) : Option Nat :=
  if digits.all Char.isDigit then
    let n := digits.foldl (fun n d => 10 * n + (d.toNat - 48)) 0
    if n < 65536 then some n else none
  else none

def parse (text : String) : Except BindFault Address :=
  match splitTransport text.toList with
  | none => .error .noTransport
  | some (transport, rest) =>
      match String.ofList transport with
      | "tcp" =>
          match splitPort rest with
          | none => .error .noHostAndPort
          | some (host, digits) =>
              match readPort digits with
              | none => .error .portOutOfRange
              | some port => .ok (.tcp (String.ofList host) port)
      | "ipc" => .ok (.ipc (String.ofList rest))
      | name => .error (.unknownTransport name)

def text : Address → String
  | tcp host port => "tcp://" ++ host ++ ":" ++ toString port
  | ipc path => "ipc://" ++ path

end Address

end NotebookKernel
