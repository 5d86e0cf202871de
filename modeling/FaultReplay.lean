import FaultReplay.Context
import FaultReplay.Domain.Json
import FaultReplay.Main
import FaultReplay.Plan.Json
import FaultReplay.Profile.Json
import FaultReplay.Settings.Json
import FaultReplay.Json.Lemmas
import FaultReplay.Proofs.Campaign
import FaultReplay.Proofs.Cli.Derivation
import FaultReplay.Proofs.Context.Atomicity
import FaultReplay.Proofs.Context.Recording
import FaultReplay.Proofs.Run.Numbering
import FaultReplay.Proofs.Run.Independence
import FaultReplay.Proofs.Run.Firing
import FaultReplay.Proofs.Profile.Reading
import FaultReplay.Proofs.Run.Logging
import FaultReplay.Proofs.Plan.Refusals
import FaultReplay.Proofs.Context.Soundness
import FaultReplay.Proofs.Plan.Order
import FaultReplay.Proofs.Run.Order
import FaultReplay.Proofs.Plan.Caching
import FaultReplay.Proofs.Run.Loading
import FaultReplay.Proofs.Run.Preloading
import FaultReplay.Proofs.Run.Recording
import FaultReplay.Proofs.Run.Interleaving
import FaultReplay.Proofs.Cli.Validation
import FaultReplay.Proofs.Field.Reading
import FaultReplay.Proofs.Context.Injection
import FaultReplay.Proofs.Plan.Grammar
import FaultReplay.Proofs.Error.Report
import FaultReplay.Proofs.Error.Origin
import FaultReplay.Proofs.Library
import FaultReplay.Proofs.Run.Observing
import FaultReplay.Proofs.Plan.Bare
import FaultReplay.Proofs.Profile.Trailing
import FaultReplay.Proofs.Cli.Picking
import FaultReplay.Proofs.Run.Retelling
import FaultReplay.Proofs.Json.RoundTrip
import FaultReplay.Proofs.Context.Registers
import FaultReplay.Proofs.Run.Growing
import FaultReplay.Proofs.Field.Numbers
import FaultReplay.Proofs.Run.Refusing
import FaultReplay.Proofs.Cli.Showing
