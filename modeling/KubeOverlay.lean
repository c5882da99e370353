import KubeOverlay.Main
import KubeOverlay.Selector
import KubeOverlay.Json.Read
import KubeOverlay.Proofs.ReferentialIntegrity
import KubeOverlay.Proofs.DistinctIdentities
import KubeOverlay.Proofs.PassThrough
import KubeOverlay.Proofs.NestedNames
import KubeOverlay.Proofs.ListOrder
import KubeOverlay.Proofs.TreeUpdate
import KubeOverlay.Proofs.PreOrder
import KubeOverlay.Proofs.TypedSelection
import KubeOverlay.Proofs.StreamRoundTrip
import KubeOverlay.Proofs.Places
import KubeOverlay.Proofs.BaseDepth
import KubeOverlay.Proofs.LabelSelectors
import KubeOverlay.Proofs.Stops
import KubeOverlay.Proofs.Leaves
import KubeOverlay.Proofs.Visits
import KubeOverlay.Proofs.PatchPrecedence
import KubeOverlay.Proofs.Directives
import KubeOverlay.Proofs.PatchedIdentities
import KubeOverlay.Proofs.KeyedLists
import KubeOverlay.Proofs.PatchInsertion
import KubeOverlay.Proofs.Overlaying
import KubeOverlay.Proofs.LocalPasses
import KubeOverlay.Proofs.Rewriting
import KubeOverlay.Proofs.RuleOrder
import KubeOverlay.Proofs.EntryUnion
import KubeOverlay.Proofs.StreamDecoding
import KubeOverlay.Proofs.GeneratedEntries
import KubeOverlay.Proofs.ManifestFields
import KubeOverlay.Proofs.HashedTexts
import KubeOverlay.Proofs.IdentityOrder
