import HttpTemplate.Fault
import HttpTemplate.Text.LineEnd

/-!
Template descriptors in files. A file holds one JSON object in UTF-8.
-/

namespace HttpTemplate.Descriptor

def ofText (path text : String) : Except Fault Table :=
  match Json.read (String.ofList (Text.unifyLineEnds text.toList)) with
  | .ok (.map descriptor) => .ok descriptor
  | .ok _ => .error (.template (.notObject path))
  | .error cause => .error (.unreadable cause)

def ofBytes (path : String) (bytes : List UInt8) : Except Fault Table :=
  match Text.Utf8.decode bytes with
  | .ok text => ofText path text
  | .error cause => .error (.undecodable cause)

def load (read : String → Except FileFault (List UInt8)) (path : String) : Except Fault Table :=
  match read (cleanPath path) with
  | .ok bytes => ofBytes path bytes
  | .error cause => .error (.file cause)

end HttpTemplate.Descriptor
