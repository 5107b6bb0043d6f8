import ItabRecovery.Main
import ItabRecovery.Proofs.Traversal
import ItabRecovery.Proofs.Words
import ItabRecovery.Proofs.Fields
import ItabRecovery.Proofs.Reading
import ItabRecovery.Proofs.Extraction
import ItabRecovery.Proofs.FirstFault
import ItabRecovery.Proofs.Independence
import ItabRecovery.Proofs.Footprint
import ItabRecovery.Proofs.Machine
import ItabRecovery.Proofs.MachineWalk
import ItabRecovery.Proofs.Utf8
import ItabRecovery.Proofs.Writing
import ItabRecovery.Proofs.RoundTrip
import ItabRecovery.Proofs.Recognition
import ItabRecovery.Proofs.Layouts
import ItabRecovery.Proofs.FileWriting
import ItabRecovery.Proofs.FileRoundTrip
import ItabRecovery.Proofs.MethodTable
import ItabRecovery.Proofs.Reports
import ItabRecovery.Proofs.ExactLayouts
import ItabRecovery.Proofs.NameText
import ItabRecovery.Proofs.Labels
import ItabRecovery.Proofs.Rejoining
import ItabRecovery.Proofs.OrderHint
import ItabRecovery.Proofs.JsonGrammar
import ItabRecovery.Proofs.JsonReader
import ItabRecovery.Proofs.JsonReport
