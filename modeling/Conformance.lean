import Conformance.Proofs.Alternatives
import Conformance.Proofs.Assertions
import Conformance.Proofs.Demands
import Conformance.Proofs.Instances
import Conformance.Proofs.LowBits
import Conformance.Proofs.PrivateNames
import Conformance.Proofs.Refinement
import Conformance.Proofs.Refusal
import Conformance.Proofs.Reordering
import Conformance.Proofs.RoundTrip
import Conformance.Proofs.Shadowing
import Conformance.Proofs.Totality
import Conformance.Proofs.Visibility
import Conformance.TestRunner
import Conformance.World.Declaration
import Conformance.Proofs.Emoji
import Conformance.Proofs.Provenance
import Conformance.Proofs.Markup
import Conformance.Proofs.Literals
import Conformance.Proofs.Styling
import Conformance.Proofs.Fitting
import Conformance.Proofs.Verbatim
import Conformance.Proofs.Written
import Conformance.Proofs.Sections
import Conformance.Proofs.WidthLimit
import Conformance.Proofs.FinalClasses
import Conformance.Proofs.Supplied
import Conformance.Proofs.Lexing
