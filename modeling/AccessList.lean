import AccessList.Command.Memory
import AccessList.Main
import AccessList.Proofs.Address.Block
import AccessList.Proofs.Address.Spelling
import AccessList.Proofs.Entry.Extended
import AccessList.Proofs.Flatten.Agreement
import AccessList.Proofs.Lookup.Containment
import AccessList.Proofs.Lookup.Effect
import AccessList.Proofs.Lookup.Separation
import AccessList.Proofs.Lookup.Shadowing
import AccessList.Proofs.Numeral
import AccessList.Proofs.Transparency.Network
import AccessList.Proofs.Transparency.Service
import AccessList.Proofs.Entry.Services
import AccessList.Proofs.Address.PrefixLength
import AccessList.Proofs.Lookup.Failure
import AccessList.Proofs.Lookup.Expansion
import AccessList.Proofs.Flatten.Concrete
import AccessList.Proofs.Config.Resolution
import AccessList.Proofs.Config.Literals
import AccessList.Proofs.Entry.Translation
import AccessList.Proofs.Flatten.Fields
import AccessList.Proofs.Config.Blocks
import AccessList.Proofs.Lookup.Domain
import AccessList.Proofs.Flatten.Driving
import AccessList.Proofs.Flatten.Warnings
import AccessList.Proofs.Flatten.Placeholders
import AccessList.Proofs.Flatten.ReadBack
import AccessList.Proofs.Flatten.Unused
import AccessList.Proofs.Lookup.Malformed
import AccessList.Proofs.Flatten.Order
import AccessList.Proofs.Address.Netmask
import AccessList.Proofs.Session
import AccessList.Proofs.Transparency.Protocol
import AccessList.Proofs.Address.Bounds
import AccessList.Proofs.Lookup.Places
import AccessList.Proofs.Lookup.QueryLists
import AccessList.Proofs.Flatten.Indirection
import AccessList.Proofs.Flatten.Combinations
import AccessList.Proofs.Flatten.Traces
import AccessList.Proofs.Transparency.Name
import AccessList.Proofs.Config.Description
import AccessList.Proofs.Address.Compressed
import AccessList.Proofs.Address.Comparison
import AccessList.Proofs.Address.Masked
import AccessList.Proofs.Entry.Numbering
import AccessList.Proofs.Labels
import AccessList.Proofs.Settings.Overrides
import AccessList.Proofs.Diagnostics
import AccessList.Proofs.Address.ZeroRun
import AccessList.Proofs.Config.Joined
