import ItabRecovery.TypeGraph
import ItabRecovery.ItabLabel
import ItabRecovery.NameRecord
import ItabRecovery.QualifiedName
import ItabRecovery.TypeLink

/-!
# Recovery of interface implementations

Every label in the symbol table leads to a dispatch record, and every dispatch record says
that one concrete type implements one interface.  `implementations` reads them all in the
order of the symbol table, or fails with the first thing that is wrong: a label, the byte
order, the missing section, and then record by record.
-/

namespace ItabRecovery

structure Method where
  name : String
  signature : String
  inputs : List TypeRef
  outputs : List TypeRef
  deriving DecidableEq

/-- A concrete type implements an interface. -/
structure Implementation where
  interface : QualifiedName
  concrete : String
  methods : List Method
  deriving DecidableEq

def Section.typeRef (s : Section) (t : TypeRecord) : Except Error TypeRef := do
  let text ← s.nameAt t.text
  return .ofText text t.isPointer

def Section.method (s : Section) (m : MethodNode) : Except Error Method := do
  let name ← s.nameAt m.header.name
  let signature ← s.nameAt m.func.type.text
  let inputs ← m.inputs.mapM s.typeRef
  let outputs ← m.outputs.mapM s.typeRef
  return ⟨name, stripPointer signature, inputs, outputs⟩

def Section.implementation (s : Section) (label : ItabLabel) (node : DispatchNode) :
    Except Error Implementation := do
  let methods ← node.methods.mapM s.method
  let concrete ← s.nameAt node.concrete.text
  return ⟨.ofText label.interface, stripPointer concrete, methods⟩

/-- What the dispatch record at a label says: first the whole graph is read, then its texts. -/
def TypeData.implementationAt (d : TypeData) (label : ItabLabel) :
    Except Error Implementation := do
  let node ← d.dispatchAt label.address
  d.implementation label node

/-- All implementations that an image records, in the order of its symbol table. -/
def Image.implementations (image : Image) : Except Error (List Implementation) := do
  let labels ← ItabLabel.ofSymbols image.symbols
  let order ← TypeLink.byteOrder (image.sectionNamed? TypeLink.sectionName)
  let rodata ← image.sectionNamed rodataName
  labels.mapM (TypeData.mk rodata order).implementationAt

end ItabRecovery
