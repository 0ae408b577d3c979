import Fieldwork.Config.Basic
import Fieldwork.Json.Reader

/-!
# Loading a configuration
-/

namespace Fieldwork

/-- What is found under a path. -/
inductive File where
  | missing
  | unreadable (reason : String)
  | bytes (contents : ByteArray)

/-- Why a configuration is refused; each cause names the path. -/
inductive ConfigFault where
  | missing (path : String)
  | unreadable (path reason : String)
  | malformed (path : String)
  | invalid (path reason : String)
  deriving DecidableEq, Repr

namespace ConfigFault

def message : ConfigFault → String
  | .missing path => "config file not found: " ++ path
  | .unreadable path reason => "cannot read config file " ++ path ++ ": " ++ reason
  | .malformed path => "cannot parse config file " ++ path ++ ": "
  | .invalid path reason => "invalid config file " ++ path ++ ": " ++ reason

def fault (f : ConfigFault) : Fault :=
  .config f.message

end ConfigFault

namespace Config

def ofText (path text : String) : Except ConfigFault Config :=
  match (Document.ofText? text).bind ofDocument? with
  | none => .error (.malformed path)
  | some c =>
    match c.retry.complaint? with
    | some reason => .error (.invalid path reason)
    | none => .ok c

def load (path : String) : File → Except ConfigFault Config
  | .missing => .error (.missing path)
  | .unreadable reason => .error (.unreadable path reason)
  | .bytes contents =>
    match String.fromUTF8? contents with
    | none => .error (.unreadable path "stream did not contain valid UTF-8")
    | some text => ofText path text

end Config

end Fieldwork
