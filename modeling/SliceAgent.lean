import SliceAgent.Text.Basic
import SliceAgent.Text.Quoted
import SliceAgent.Text.Encoding
import SliceAgent.Decimal.Binary64
import SliceAgent.Json.Reader
import SliceAgent.Json.Writer
import SliceAgent.Device
import SliceAgent.Slice.Manifest
import SliceAgent.Slice
import SliceAgent.Run
import SliceAgent.Agent.Host
import SliceAgent.Scan
import SliceAgent.Store.Memory
import SliceAgent.Store.Cluster
import SliceAgent.Cycle
import SliceAgent.Settings.Environment
import SliceAgent.Log
import SliceAgent.CommandLine.Value
import SliceAgent.Main
import SliceAgent.Proofs.Ticks
import SliceAgent.Proofs.Advertise
import SliceAgent.Proofs.Cycle
import SliceAgent.Proofs.MemoryStore
import SliceAgent.Proofs.Contents
import SliceAgent.Proofs.Convergence
import SliceAgent.Proofs.Quantity
import SliceAgent.Proofs.Manifest
import SliceAgent.Proofs.Upsert
import SliceAgent.Proofs.DryRun
import SliceAgent.Proofs.Findings
import SliceAgent.Proofs.Partition
import SliceAgent.Proofs.Reasons
import SliceAgent.Proofs.Containment
import SliceAgent.Proofs.Accounts
import SliceAgent.Proofs.Nodes
import SliceAgent.Proofs.WriteLog
import SliceAgent.Proofs.Revision
import SliceAgent.Proofs.Answers
import SliceAgent.Proofs.Independence
import SliceAgent.Proofs.UnsignedNumerals
import SliceAgent.Proofs.Lookup
import SliceAgent.Proofs.Lossless
import SliceAgent.Proofs.CallProtocol
import SliceAgent.Proofs.Truncation
import SliceAgent.Proofs.Acceptance
import SliceAgent.Proofs.SignedNumerals
import SliceAgent.Proofs.BusAddress
import SliceAgent.Proofs.Classification
import SliceAgent.Proofs.Guarantees
import SliceAgent.Proofs.Building
import SliceAgent.Proofs.Grouping
import SliceAgent.Proofs.NotANumber
import SliceAgent.Proofs.StartedSettings
import SliceAgent.Proofs.Overlay
