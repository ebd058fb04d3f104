import FirmwareCapsule.Main
import FirmwareCapsule.Proofs.Layers.Length
import FirmwareCapsule.Proofs.Layers.Places
import FirmwareCapsule.Proofs.Layers.Sizes
import FirmwareCapsule.Proofs.Layers.Report
import FirmwareCapsule.Proofs.Management.Format
import FirmwareCapsule.Proofs.Management.NormalForm
import FirmwareCapsule.Proofs.Management.ItemRoundTrip
import FirmwareCapsule.Proofs.Envelope.Rewriting
import FirmwareCapsule.Proofs.Assembly.Verification
import FirmwareCapsule.Proofs.Assembly.Form
import FirmwareCapsule.Proofs.Assembly.Requests
import FirmwareCapsule.Proofs.Assembly.Records
import FirmwareCapsule.Proofs.Safety.Layers
import FirmwareCapsule.Proofs.InPlace.Certificate
import FirmwareCapsule.Proofs.Signing.PublicKey
import FirmwareCapsule.Proofs.Guid.Position
import FirmwareCapsule.Proofs.Guid.Writing
import FirmwareCapsule.Proofs.CommandLine.Run
import FirmwareCapsule.Proofs.CommandLine.Inspection
import FirmwareCapsule.Proofs.CommandLine.Integers
import FirmwareCapsule.Proofs.Openssl.Agreement
import FirmwareCapsule.Proofs.Text.HexBytes
