import EntityBase.Config.Json
import EntityBase.Identity.Query
import EntityBase.Replication.Decoders
import EntityBase.Proofs.Store.Integrity
import EntityBase.Proofs.Engine.FastPath
import EntityBase.Proofs.Engine.CommitOrder
import EntityBase.Proofs.Engine.Identifiers
import EntityBase.Proofs.Identity.Resolution
import EntityBase.Proofs.Engine.Attempts
import EntityBase.Proofs.Identity.Teardown
import EntityBase.Proofs.Replication.Export
import EntityBase.Proofs.Identity.Callers
import EntityBase.Proofs.Identity.Convergence
import EntityBase.Proofs.Store.Effect
import EntityBase.Proofs.Engine.Foreign
import EntityBase.Proofs.Replication.Transport
import EntityBase.Proofs.Schema.Acceptance
import EntityBase.Proofs.Store.RemovalOrder
import EntityBase.Proofs.Store.Refusal
import EntityBase.Proofs.Identity.Effect
import EntityBase.Proofs.Store.Collision
import EntityBase.Proofs.Identity.Installation
import EntityBase.Proofs.Identity.Isolation
import EntityBase.Proofs.Identity.Inertness
import EntityBase.Proofs.Schema.CycleSearch
import EntityBase.Proofs.Index.Relation
