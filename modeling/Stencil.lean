import Stencil.Main
import Stencil.Registry.Pieces
import Stencil.Disk.Basic
import Stencil.Session
import Stencil.Proofs.Dedent.Steady
import Stencil.Proofs.Dedent.NormalForm
import Stencil.Proofs.Registry.Edit
import Stencil.Proofs.Registry.Reading
import Stencil.Proofs.Registry.Substitution
import Stencil.Proofs.Registry.Conformance
import Stencil.Proofs.Registry.Layout
import Stencil.Proofs.Registry.Segmentation
import Stencil.Proofs.Registry.Separator
import Stencil.Proofs.Registry.Row
import Stencil.Proofs.Instance.Compile
import Stencil.Proofs.Instance.ProvisionOrder
import Stencil.Proofs.Instance.Recompile
import Stencil.Proofs.Instance.Requests
import Stencil.Proofs.Config.Instantiation
import Stencil.Proofs.Config.Compilation
import Stencil.Proofs.Config.Setting
import Stencil.Proofs.Session.Reachable
import Stencil.Proofs.Session.Failure
import Stencil.Proofs.Session.Naming
import Stencil.Proofs.Dedent.Visible
import Stencil.Proofs.FileName.Segments
import Stencil.Proofs.FileName.Derivation
import Stencil.Proofs.FileName.Recovery
import Stencil.Proofs.Pattern.Matching
import Stencil.Proofs.Disk.Location
import Stencil.Proofs.Pattern.Admission
import Stencil.Proofs.FileName.Spelling
import Stencil.Proofs.FileName.Placement
import Stencil.Proofs.Command.Effect
import Stencil.Proofs.Command.DryRun
import Stencil.Proofs.Words.CaseStyle
