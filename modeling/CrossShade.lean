import CrossShade.Backend
import CrossShade.Binary32
import CrossShade.Binary32.Reader
import CrossShade.Binary32.Shortest
import CrossShade.CommandLine.Help
import CrossShade.CommandLine.Invocation
import CrossShade.CommandLine.Report
import CrossShade.CommandLine.Run
import CrossShade.CommandLine.WorkingDirectory
import CrossShade.CompiledShader
import CrossShade.Compiler
import CrossShade.Compiler.Fxc
import CrossShade.Compiler.Glsl
import CrossShade.Device
import CrossShade.Direct3D
import CrossShade.Direct3D11.Commands
import CrossShade.Direct3D11.InputLayout
import CrossShade.Direct3D11.Native
import CrossShade.Direct3D11.Patch
import CrossShade.Direct3D11.Profile
import CrossShade.Direct3D11.Resources
import CrossShade.Direct3D11.Semantic
import CrossShade.Direct3D11.Source
import CrossShade.Direct3D11.Streams
import CrossShade.Direct3D9.Commands
import CrossShade.Direct3D9.Native
import CrossShade.Direct3D9.Profile
import CrossShade.Direct3D9.Semantic
import CrossShade.Direct3D9.Source
import CrossShade.Direct3D9.VertexDeclaration
import CrossShade.Error
import CrossShade.FileFault
import CrossShade.FixedFunction
import CrossShade.Format
import CrossShade.Hlsl
import CrossShade.Keyword
import CrossShade.Main
import CrossShade.Native
import CrossShade.OpenGL.Commands
import CrossShade.OpenGL.Interface
import CrossShade.OpenGL.Native
import CrossShade.OpenGL.Prelude
import CrossShade.OpenGL.Resources
import CrossShade.OpenGL.Source
import CrossShade.OpenGL.Std140
import CrossShade.OpenGL.Version
import CrossShade.OpenGL.VertexAttribute
import CrossShade.Pipeline
import CrossShade.Pipeline.Flush
import CrossShade.Pipeline.Logged
import CrossShade.Pipeline.Run
import CrossShade.Primitive
import CrossShade.Profile
import CrossShade.Proofs.Device.Drawing
import CrossShade.Proofs.Device.Rendering
import CrossShade.Proofs.Device.Run
import CrossShade.Proofs.Direct3D11.Members
import CrossShade.Proofs.Direct3D11.Patch
import CrossShade.Proofs.Direct3D11.Semantics
import CrossShade.Proofs.Direct3D11.Streams
import CrossShade.Proofs.Direct3D11.VertexInputs
import CrossShade.Proofs.Direct3D9.Constants
import CrossShade.Proofs.Direct3D9.Registers
import CrossShade.Proofs.Direct3D9.Varyings
import CrossShade.Proofs.Direct3D9.VertexInputs
import CrossShade.Proofs.DrawCalls
import CrossShade.Proofs.Hlsl.Annotations
import CrossShade.Proofs.Hlsl.Semantics
import CrossShade.Proofs.IndexFetch
import CrossShade.Proofs.OpenGL.Attributes
import CrossShade.Proofs.OpenGL.Bindings
import CrossShade.Proofs.OpenGL.Blocks
import CrossShade.Proofs.OpenGL.Document
import CrossShade.Proofs.OpenGL.EntryPoint
import CrossShade.Proofs.OpenGL.Linkage
import CrossShade.Proofs.OpenGL.LocationRuns
import CrossShade.Proofs.OpenGL.Replay
import CrossShade.Proofs.OpenGL.UniformNames
import CrossShade.Proofs.OpenGL.Varyings
import CrossShade.Proofs.Outcome
import CrossShade.Proofs.Pipeline.BoundShaders
import CrossShade.Proofs.Pipeline.DrawRecords
import CrossShade.Proofs.Pipeline.Drawable
import CrossShade.Proofs.Pipeline.InStep
import CrossShade.Proofs.Pipeline.Independence
import CrossShade.Proofs.Pipeline.NativeState
import CrossShade.Proofs.Pipeline.Parts
import CrossShade.Proofs.Pipeline.Refusal
import CrossShade.Proofs.Pipeline.Session
import CrossShade.Proofs.Pipeline.Settled
import CrossShade.Proofs.Pipeline.Slots
import CrossShade.Proofs.Pipeline.Writes
import CrossShade.Proofs.Records
import CrossShade.Proofs.Runs
import CrossShade.Proofs.Shader.Building
import CrossShade.Proofs.Shader.ChangedLines
import CrossShade.Proofs.Shader.Comments
import CrossShade.Proofs.Shader.Lines
import CrossShade.Proofs.Shader.PackedOffsets
import CrossShade.Proofs.Shader.Parts
import CrossShade.Proofs.Shader.Properties
import CrossShade.Proofs.Shader.RefusedLines
import CrossShade.Proofs.Shader.RespacedLines
import CrossShade.Proofs.Shader.RoundTrip
import CrossShade.Proofs.Shader.SectionBlocks
import CrossShade.Proofs.Shader.SectionOrder
import CrossShade.Proofs.Shader.Sections
import CrossShade.Proofs.Shader.Spacing
import CrossShade.Proofs.Shader.WellFormed
import CrossShade.Proofs.Shader.WellTyped
import CrossShade.Proofs.SlotArray.Changes
import CrossShade.Proofs.Source.ArraySizes
import CrossShade.Proofs.Source.Faults
import CrossShade.Proofs.Source.Groups
import CrossShade.Proofs.Source.Interfaces
import CrossShade.Proofs.Source.Order
import CrossShade.Proofs.Source.Programs
import CrossShade.Proofs.Source.Rendering
import CrossShade.Proofs.Source.Resources
import CrossShade.Proofs.Source.Sampling
import CrossShade.Proofs.Source.TypeNames
import CrossShade.Proofs.Source.Unused
import CrossShade.Proofs.Text.Cutting
import CrossShade.Proofs.Text.LineChanges
import CrossShade.Proofs.Text.Plain
import CrossShade.Proofs.Text.Row
import CrossShade.Proofs.Text.SameWords
import CrossShade.Proofs.UniformBuffer.Cycles
import CrossShade.Proofs.UniformBuffer.Hollow
import CrossShade.Proofs.UniformBuffer.Layout
import CrossShade.Proofs.UniformBuffer.Nesting
import CrossShade.Proofs.UniformBuffer.Overflow
import CrossShade.Proofs.UniformBuffer.Placement
import CrossShade.Proofs.UniformBuffer.Sizing
import CrossShade.Proofs.ValueType.Bytes
import CrossShade.Proofs.ValueType.Readable
import CrossShade.Proofs.ValueType.Spelling
import CrossShade.Proofs.VertexLayout.Draft
import CrossShade.Proofs.VertexLayout.Reconciliation
import CrossShade.ResourceKind
import CrossShade.Settings
import CrossShade.Settings.Literal
import CrossShade.Settings.Number
import CrossShade.Settings.Printer
import CrossShade.Settings.Reader
import CrossShade.Settings.Token
import CrossShade.Settings.Value
import CrossShade.Shader
import CrossShade.Shader.Builder
import CrossShade.Shader.Fault
import CrossShade.Shader.Printer
import CrossShade.Shader.Reader
import CrossShade.Shader.Section
import CrossShade.Shader.StageFacts
import CrossShade.Shader.Validation
import CrossShade.SlotArray
import CrossShade.Source
import CrossShade.Source.Interface
import CrossShade.Stage
import CrossShade.Target
import CrossShade.Tessellation
import CrossShade.Text.Ascii
import CrossShade.Text.Blank
import CrossShade.Text.Decimal
import CrossShade.Text.Graphic
import CrossShade.Text.Quoted
import CrossShade.Text.Split
import CrossShade.Text.Utf8
import CrossShade.Text.Word
import CrossShade.Tracked
import CrossShade.UniformBuffer
import CrossShade.ValueType
import CrossShade.ValueType.Reader
import CrossShade.ValueType.Size
import CrossShade.Variable
import CrossShade.VertexLayout
