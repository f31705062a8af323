import SourceAttest.CreationData.Resolve
import SourceAttest.Network.Script
import SourceAttest.Verification
import SourceAttest.EventLog.Line
import SourceAttest.Proofs.Base16
import SourceAttest.Proofs.Cbor.Encoding
import SourceAttest.Proofs.Bytecode.Trailer
import SourceAttest.Proofs.Comparison.Trailers
import SourceAttest.Proofs.Repository.Resolution
import SourceAttest.Proofs.Repository.Steps
import SourceAttest.Proofs.Repository.Records
import SourceAttest.Proofs.Action
import SourceAttest.Proofs.Verification.ReadOnly
import SourceAttest.Proofs.Repository.Filling
import SourceAttest.Proofs.Contract.Fetch
import SourceAttest.Proofs.Matching
import SourceAttest.Proofs.Verification.Storing
import SourceAttest.Proofs.Verification.Success
import SourceAttest.Proofs.Repository.SourceNames
import SourceAttest.Proofs.Verification.Effects
import SourceAttest.Proofs.Comparison.Lookup
import SourceAttest.Proofs.Network.Rpc
import SourceAttest.Proofs.Matching.Search
import SourceAttest.Proofs.Verification.Losses
import SourceAttest.Proofs.Verification.Sources
import SourceAttest.Proofs.Verification.Unregistered
import SourceAttest.Proofs.CreationData.BlockSearch
import SourceAttest.Proofs.CreationData.Transactions
import SourceAttest.Proofs.CreationData.Archive
import SourceAttest.Proofs.Verification.Contents
import SourceAttest.Proofs.Verification.Histories
import SourceAttest.Proofs.Verification.Agreement
import SourceAttest.Proofs.Limits
import SourceAttest.Proofs.Verification.Faults
import SourceAttest.Proofs.Verification.Gates
import SourceAttest.Proofs.CreationData.FallThrough
import SourceAttest.Proofs.Outcome
import SourceAttest.Proofs.Json.WellFormed
import SourceAttest.Proofs.Contract.SuitableSources
import SourceAttest.Proofs.Repository.Removal
import SourceAttest.Proofs.Repository.Refinement
import SourceAttest.Proofs.Accord
import SourceAttest.Proofs.Repository.Writing
import SourceAttest.Proofs.Repository.Edits
import SourceAttest.Proofs.Repository.Documents
import SourceAttest.Proofs.Repository.Plans
import SourceAttest.Proofs.Verification.Planning
import SourceAttest.Proofs.Verification.VerifyingAgain
import SourceAttest.Proofs.Text.Lowercase
import SourceAttest.Proofs.CreationData.BlockQueries
import SourceAttest.Proofs.Bytecode.Normal
import SourceAttest.Proofs.Comparison.Grounds
import SourceAttest.Proofs.Verification.Spellings
import SourceAttest.Proofs.Verification.Commuting
import SourceAttest.Proofs.Bytecode.Grammar
import SourceAttest.Proofs.Bytecode.Layers
import SourceAttest.Proofs.Comparison.EmptyRuntime
import SourceAttest.Proofs.Comparison.SuppliedData
import SourceAttest.Proofs.Comparison.Spellings
import SourceAttest.Proofs.Base58
import SourceAttest.Proofs.Repository.ContentAddresses
import SourceAttest.Proofs.Contract.Uploads
import SourceAttest.Proofs.Contract.Fetching
import SourceAttest.Proofs.Json.Shape
import SourceAttest.Proofs.Network.Answers
import SourceAttest.Proofs.Contract.Refusals
import SourceAttest.Proofs.Compiler.Input
import SourceAttest.Proofs.Compiler.Recompile
import SourceAttest.Proofs.Json.RoundTrip
import SourceAttest.Proofs.Compiler.WrittenInput
import SourceAttest.Proofs.CreationData.Provenance
import SourceAttest.Proofs.Json.Depth
import SourceAttest.Proofs.Chain.Registry
import SourceAttest.Proofs.Compiler.Faults
import SourceAttest.Proofs.Verification.Reports
import SourceAttest.Proofs.Verification.Outcomes
import SourceAttest.Proofs.Compiler.Libraries
import SourceAttest.Proofs.Pattern.CaseForms
import SourceAttest.Proofs.Pattern.Replacement
import SourceAttest.Proofs.Repository.DotSegments
import SourceAttest.Proofs.Repository.SafeNames
