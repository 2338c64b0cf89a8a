import ScriptBridge.Session.FrameSession
import ScriptBridge.Session.ErrorJourney
import ScriptBridge.Config.Discovery
import ScriptBridge.Log.Logger
import ScriptBridge.Proofs.Run.Passes
import ScriptBridge.Proofs.Run.Composable
import ScriptBridge.Proofs.Loans.Basic
import ScriptBridge.Proofs.Loans.Sheltered
import ScriptBridge.Proofs.Host.Operation
import ScriptBridge.Proofs.Loans.Discipline
import ScriptBridge.Proofs.Gates.Arguments
import ScriptBridge.Proofs.Gates.Verdict
import ScriptBridge.Proofs.Gates.Entry
import ScriptBridge.Proofs.Loans.Receiver
import ScriptBridge.Proofs.Identity.Registration
import ScriptBridge.Proofs.Host.History
import ScriptBridge.Proofs.Objects.Law
import ScriptBridge.Proofs.Objects.Ledger
import ScriptBridge.Proofs.Objects.Lifetime
import ScriptBridge.Proofs.Objects.Destroyed
import ScriptBridge.Proofs.Identity.Stamps
import ScriptBridge.Proofs.Objects.Provenance
import ScriptBridge.Proofs.Codec.Integer
import ScriptBridge.Proofs.Gates.Outcome
import ScriptBridge.Proofs.Codec.RoundTrip
import ScriptBridge.Proofs.Gates.Advertised
import ScriptBridge.Proofs.Script.Raising
import ScriptBridge.Proofs.Script.Uncaught
import ScriptBridge.Proofs.Errors.Recovery
import ScriptBridge.Proofs.Script.Route
import ScriptBridge.Proofs.Loans.Avoids
import ScriptBridge.Proofs.Gates.Alike
import ScriptBridge.Proofs.Gates.Shapes
import ScriptBridge.Proofs.Codec.Settings
import ScriptBridge.Proofs.Errors.Naming
import ScriptBridge.Proofs.Host.Tables
import ScriptBridge.Proofs.Host.Refusal
import ScriptBridge.Proofs.Objects.Lookup
import ScriptBridge.Proofs.Binary.Value
import ScriptBridge.Proofs.Codec.WholeNumbers
import ScriptBridge.Proofs.Codec.Numerals
import ScriptBridge.Proofs.Codec.Hints
import ScriptBridge.Proofs.Counters.Calls
import ScriptBridge.Proofs.Counters.Entries
import ScriptBridge.Proofs.Counters.Account
import ScriptBridge.Proofs.Codec.NotNumeric
import ScriptBridge.Proofs.Codec.IntegerText
import ScriptBridge.Proofs.Host.TableBuilder
import ScriptBridge.Proofs.Host.Store
import ScriptBridge.Proofs.Config.Nearest
import ScriptBridge.Proofs.Signature.Text
import ScriptBridge.Proofs.Binary.Rounding
import ScriptBridge.Proofs.Binary.Nearest
import ScriptBridge.Proofs.Binary.Conversion
import ScriptBridge.Proofs.Codec.Floats
import ScriptBridge.Proofs.Toml.Quoted
import ScriptBridge.Proofs.Toml.Setting
import ScriptBridge.Proofs.Toml.Document
import ScriptBridge.Proofs.Files.Written
import ScriptBridge.Proofs.Config.Omitted
import ScriptBridge.Proofs.Config.Saved
import ScriptBridge.Proofs.Log.Decisive
import ScriptBridge.Proofs.Log.InvalidPieces
