import TableClient.Main
import TableClient.Backend.Memory
import TableClient.Backend.Scripted
import TableClient.Proofs.Formula.Reading
import TableClient.Proofs.Formula.Places
import TableClient.Proofs.Formula.Refusal
import TableClient.Proofs.Formula.Fields
import TableClient.Proofs.Memory.OwnIds
import TableClient.Proofs.Memory.Removal
import TableClient.Proofs.Service.Exchanges
import TableClient.Proofs.Service.FailFast
import TableClient.Proofs.Memory.Pages
import TableClient.Proofs.Memory.InFlight
import TableClient.Proofs.Memory.Latency
import TableClient.Proofs.Memory.Identity
import TableClient.Proofs.Memory.FailedWrites
import TableClient.Proofs.Service.Creation
import TableClient.Proofs.Service.Filtering
import TableClient.Proofs.Service.Outcomes
import TableClient.Proofs.Memory.Shapes
import TableClient.Proofs.Wire
import TableClient.Proofs.Query.Directives
import TableClient.Proofs.Query.Pairs
import TableClient.Proofs.Url.Percent
import TableClient.Proofs.Url.Parser
import TableClient.Proofs.Url.Addresses
import TableClient.Proofs.Url.Requests
import TableClient.Proofs.Memory.Retries
import TableClient.Proofs.Memory.Readback
import TableClient.Proofs.Double
import TableClient.Proofs.Numeral
import TableClient.Proofs.Query.CountTexts
import TableClient.Proofs.Records
import TableClient.Proofs.Memory.Balance
import TableClient.Proofs.Printer
import TableClient.Proofs.Cli.Lines
import TableClient.Proofs.Alternatives
