import ApiStencil.Main
import ApiStencil.Proofs.Accumulator.Runs
import ApiStencil.Proofs.Environment.SharedScope
import ApiStencil.Proofs.Session.Isolation
import ApiStencil.Proofs.Environment.Growth
import ApiStencil.Proofs.Environment.Naming
import ApiStencil.Proofs.Environment.Installation
import ApiStencil.Proofs.Config.Overlay
import ApiStencil.Proofs.Api.Parameter
import ApiStencil.Proofs.Command.Render
import ApiStencil.Proofs.Environment.Escaping
import ApiStencil.Proofs.Json.Agreement
import ApiStencil.Proofs.Api.NumericCode
import ApiStencil.Proofs.Filters.ResponseType
import ApiStencil.Proofs.Filters.Lookup
import ApiStencil.Proofs.Filters.Identifiers
import ApiStencil.Proofs.Api.Forms
import ApiStencil.Proofs.Filters.Arguments
import ApiStencil.Proofs.Accumulator.FlagSet
import ApiStencil.Proofs.Accumulator.Journal
import ApiStencil.Proofs.Filters.Table
import ApiStencil.Proofs.Filters.Absent
import ApiStencil.Proofs.Accumulator.Listing
import ApiStencil.Proofs.Config.Templates
