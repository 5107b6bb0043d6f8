import ItabRecovery.Json
import ItabRecovery.Recovery

/-!
# Implementations as a JSON document
-/

namespace ItabRecovery

def TypeRef.toJson (t : TypeRef) : Json :=
  .record [("name", .text t.name.name), ("pkg_path", .text t.name.pkgPath),
    ("is_pointer", .bool t.isPointer)]

def Method.toJson (m : Method) : Json :=
  .record [("name", .text m.name), ("signature", .text m.signature),
    ("inputs", .list (m.inputs.map TypeRef.toJson)),
    ("outputs", .list (m.outputs.map TypeRef.toJson))]

def Implementation.toJson (i : Implementation) : Json :=
  .record [("name", .text i.interface.name), ("pkg_path", .text i.interface.pkgPath),
    ("implemented", .text i.concrete), ("methods", .list (i.methods.map Method.toJson))]

/-- All implementations as one document. -/
def Report.document (found : List Implementation) : Json :=
  .list (found.map Implementation.toJson)

end ItabRecovery
