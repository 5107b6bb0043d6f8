import ItabRecovery.Image

/-!
# Labels of dispatch records

A symbol whose name starts with `go.itab.` labels a dispatch record.  The concrete type and
the interface follow, each ended by a comma or the end of the name; what comes after a second
comma says nothing.  A label without a comma names no interface and is refused.
-/

namespace ItabRecovery

/-- What the name of a label says, and the address it labels. -/
structure ItabLabel where
  symbol : String
  address : UInt64
  concrete : String
  interface : String
  deriving DecidableEq

namespace ItabLabel

def marker : List Char := ['g', 'o', '.', 'i', 't', 'a', 'b', '.']

def isLabel (s : Symbol) : Bool :=
  marker.isPrefixOf s.name.toList

/-- The two texts that follow the marker, if there is a comma between them. -/
def segments? (rest : List Char) : Option (List Char × List Char) :=
  match rest.dropWhile (· != ',') with
  | [] => none
  | _ :: after => some (rest.takeWhile (· != ','), after.takeWhile (· != ','))

def ofSymbol (s : Symbol) : Except Error ItabLabel :=
  match segments? (s.name.toList.drop marker.length) with
  | some (concrete, interface) =>
    .ok ⟨s.name, s.value, String.ofList concrete, String.ofList interface⟩
  | none => .error (.malformedLabel s.name)

/-- The labels of a symbol table in its order.  The first label that is refused decides. -/
def ofSymbols (symbols : List Symbol) : Except Error (List ItabLabel) :=
  (symbols.filter isLabel).mapM ofSymbol

/-- The name of the label for a concrete type and an interface. -/
def symbolName (concrete interface : String) : String :=
  String.ofList (marker ++ concrete.toList ++ ',' :: interface.toList)

end ItabLabel

end ItabRecovery
