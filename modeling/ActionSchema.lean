import ActionSchema.Table
import ActionSchema.Text.Blank
import ActionSchema.Text.Lines
import ActionSchema.Text.Quoted
import ActionSchema.Decimal.Shortest
import ActionSchema.Json.Printer
import ActionSchema.Json.Outline
import ActionSchema.Record
import ActionSchema.Schema.Compile
import ActionSchema.Middleware
import ActionSchema.Reducer
import ActionSchema.Manifest.Compile
import ActionSchema.Manifest.Load
import ActionSchema.DebugText
import ActionSchema.Main
import ActionSchema.Proofs.ByteOrder
import ActionSchema.Proofs.Except
import ActionSchema.Proofs.FirstFault
import ActionSchema.Proofs.Namespace
import ActionSchema.Proofs.Parsing
import ActionSchema.Proofs.ParseFaults
import ActionSchema.Proofs.Legality
import ActionSchema.Proofs.Table
import ActionSchema.Proofs.ClosedShape
import ActionSchema.Proofs.NormalForm
import ActionSchema.Proofs.Shape
import ActionSchema.Proofs.Positional
import ActionSchema.Proofs.Compilation
import ActionSchema.Proofs.CompileFaults
import ActionSchema.Proofs.Creation
import ActionSchema.Proofs.Retention
import ActionSchema.Proofs.ManifestMeaning
import ActionSchema.Proofs.ManifestFaults
import ActionSchema.Proofs.CheckRun
import ActionSchema.Proofs.Description
import ActionSchema.Proofs.InStep
import ActionSchema.Proofs.CheckFailure
import ActionSchema.Proofs.ReportLines
import ActionSchema.Proofs.Lockstep
import ActionSchema.Proofs.Leniency
import ActionSchema.Proofs.LineEnds
import ActionSchema.Proofs.StreamLayout
import ActionSchema.Proofs.TypesAlone
import ActionSchema.Proofs.ReducerRun
import ActionSchema.Proofs.Composition
import ActionSchema.Proofs.Admission
import ActionSchema.Proofs.Collision
import ActionSchema.Proofs.SharedTypes
import ActionSchema.Proofs.Forwarding
import ActionSchema.Proofs.OptionHistory
import ActionSchema.Proofs.FormatViews
import ActionSchema.Proofs.Rearrangement
import ActionSchema.Proofs.Renaming
import ActionSchema.Proofs.UntypedJson
import ActionSchema.Proofs.RecordFields
import ActionSchema.Proofs.ManifestJson
import ActionSchema.Proofs.JsonText
import ActionSchema.Proofs.SchemaIndex
