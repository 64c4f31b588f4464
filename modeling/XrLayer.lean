import XrLayer.Cli.Commands
import XrLayer.Cli.Grammar
import XrLayer.Cli.Help
import XrLayer.Cli.Parse
import XrLayer.Cli.Similarity
import XrLayer.Cli.Volume
import XrLayer.Compositor.Format
import XrLayer.Compositor.Layer
import XrLayer.Compositor.Simulated
import XrLayer.Compositor.Swapchain
import XrLayer.Compositor.Synchronizer
import XrLayer.Config
import XrLayer.Config.Read
import XrLayer.Decimal.Binary
import XrLayer.Decimal.Layout
import XrLayer.Decimal.Shortest
import XrLayer.Decimal.Text
import XrLayer.Error
import XrLayer.Input.Binding
import XrLayer.Input.Context
import XrLayer.Input.Control
import XrLayer.Input.Family.Holographic
import XrLayer.Input.Family.IndexController
import XrLayer.Input.Family.KhrSimple
import XrLayer.Input.Family.OculusTouch
import XrLayer.Input.Family.ReverbG2
import XrLayer.Input.Family.ViveWand
import XrLayer.Input.Geometry
import XrLayer.Input.Hand
import XrLayer.Input.PathTable
import XrLayer.Input.Pose
import XrLayer.Input.Profile
import XrLayer.Input.Registry
import XrLayer.Json.Read
import XrLayer.Json.Scan
import XrLayer.Json.Value
import XrLayer.Json.Write
import XrLayer.Linear.Mat4
import XrLayer.Linear.Quat
import XrLayer.Linear.Vec
import XrLayer.Main
import XrLayer.OpenXr.Actions
import XrLayer.OpenXr.Bind
import XrLayer.OpenXr.Result
import XrLayer.OpenXr.Runtime
import XrLayer.OpenXr.Scripted
import XrLayer.OpenXr.Spaces
import XrLayer.Scalar
import XrLayer.Smoothing.Filter
import XrLayer.Smoothing.Smoother
import XrLayer.Text.Quote
import XrLayer.Proofs.Input.LegacyBindings
import XrLayer.Proofs.Compositor.Ledger
import XrLayer.Proofs.Compositor.Lifetime
import XrLayer.Proofs.Compositor.Recreation
import XrLayer.Proofs.Smoothing.History
import XrLayer.Proofs.Compositor.Faithful
import XrLayer.Proofs.Input.PoseRecord
import XrLayer.Proofs.OpenXr.BindPass
import XrLayer.Proofs.Compositor.ImageRounds
import XrLayer.Proofs.Input.GripOffset
import XrLayer.Proofs.Input.Translate
import XrLayer.Proofs.Compositor.Flip
import XrLayer.Proofs.Smoothing.Stale
import XrLayer.Proofs.Input.LegacyMatrix
import XrLayer.Proofs.OpenXr.Locate
import XrLayer.Proofs.Compositor.WholeTexture
import XrLayer.Proofs.Scalar.Widen
import XrLayer.Proofs.Smoothing.ZeroBeta
