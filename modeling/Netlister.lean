import Netlister.Main
import Netlister.Proofs.Check.Gating
import Netlister.Proofs.Netlist.Representation
import Netlister.Proofs.Schematic.Atomicity
import Netlister.Proofs.Schematic.Conforming
import Netlister.Proofs.Schematic.Coherence
import Netlister.Proofs.Vhdl.Generation
import Netlister.Proofs.Vhdl.Simulation
import Netlister.Proofs.Schematic.Expansion
import Netlister.Proofs.Check.Drivers
import Netlister.Proofs.FileSystem
import Netlister.Proofs.Products.AllOrNothing
import Netlister.Proofs.Netlist.Direction
import Netlister.Proofs.Vhdl.Direction
import Netlister.Proofs.Netlist.Matching
import Netlister.Proofs.Vhdl.Unambiguous
import Netlister.Proofs.Document.Order
import Netlister.Proofs.Document.Safety
import Netlister.Proofs.Document.Vocabulary
import Netlister.Proofs.Vhdl.Matching
import Netlister.Proofs.Document.Expression
import Netlister.Proofs.Check.Once
import Netlister.Proofs.Vhdl.Escape
import Netlister.Proofs.Vhdl.Denotation
import Netlister.Proofs.Products.Unchecked
import Netlister.Proofs.Schematic.Retention
import Netlister.Proofs.Netlist.Diagnosis
import Netlister.Proofs.Check.Inputs
import Netlister.Proofs.Vhdl.Clash
import Netlister.Proofs.Vhdl.Indentation
import Netlister.Proofs.Schematic.Validation
import Netlister.Proofs.Schematic.Inference
import Netlister.Proofs.Document.Conversion
import Netlister.Proofs.Vhdl.BasicIdentifier
