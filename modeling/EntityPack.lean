import EntityPack.Entity.Operation
import EntityPack.Form.Writing
import EntityPack.FormatVersions.Reader
import EntityPack.Item
import EntityPack.Json.Printer
import EntityPack.Script
import EntityPack.Template
import EntityPack.Proofs.Assembly
import EntityPack.Proofs.Resolution
import EntityPack.Proofs.Reference
import EntityPack.Proofs.Run
import EntityPack.Proofs.History
import EntityPack.Proofs.Wiring
import EntityPack.Proofs.ActiveState
import EntityPack.Proofs.Idempotence
import EntityPack.Proofs.Guards
import EntityPack.Proofs.EarlyResolution
import EntityPack.Proofs.ScriptAcceptance
import EntityPack.Proofs.Hub
import EntityPack.Proofs.Integrity
import EntityPack.Proofs.Entries
import EntityPack.Proofs.EventDocument
import EntityPack.Proofs.Rendering
import EntityPack.Proofs.ControllerIds
import EntityPack.Proofs.ControllerSlots
import EntityPack.Proofs.GeneratedIds
import EntityPack.Proofs.RenamedSlots
import EntityPack.Proofs.FormValues
import EntityPack.Proofs.Omission
import EntityPack.Proofs.Pieces
import EntityPack.Proofs.SpacedWords
import EntityPack.Proofs.OnePass
import EntityPack.Proofs.Splicing
import EntityPack.Proofs.Seams
import EntityPack.Proofs.EventLayers
import EntityPack.Proofs.RenderedReferences
import EntityPack.Proofs.SpawnEvent
import EntityPack.Proofs.Timeline
import EntityPack.Proofs.AssignedValues
import EntityPack.Proofs.ControllerStates
import EntityPack.Proofs.ItemDocument
import EntityPack.Proofs.SlotNames
import EntityPack.Proofs.MergedAssignments
