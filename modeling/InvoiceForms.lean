import InvoiceForms.Calendar.Date
import InvoiceForms.Calendar.Iso
import InvoiceForms.Calendar.Moment
import InvoiceForms.Calendar.MomentText
import InvoiceForms.Calendar.Reading
import InvoiceForms.Calendar.Timestamp
import InvoiceForms.Catalogue.Basic
import InvoiceForms.Catalogue.Standard
import InvoiceForms.CommandLine.Launch
import InvoiceForms.CommandLine.Options
import InvoiceForms.CommandLine.Reading
import InvoiceForms.Content.Context
import InvoiceForms.Content.Expansion
import InvoiceForms.Content.Part
import InvoiceForms.Content.Path
import InvoiceForms.Content.Shape
import InvoiceForms.Content.Token
import InvoiceForms.Content.Warning
import InvoiceForms.Invoice.Facts
import InvoiceForms.Invoice.Format
import InvoiceForms.Invoice.Order
import InvoiceForms.Invoice.Sample
import InvoiceForms.Journal.Entry
import InvoiceForms.Json.Basic
import InvoiceForms.Json.Entries
import InvoiceForms.Json.Everywhere
import InvoiceForms.Json.Parser
import InvoiceForms.Json.Printer
import InvoiceForms.Main
import InvoiceForms.Number.Decimal
import InvoiceForms.Number.Double
import InvoiceForms.Number.DoubleText
import InvoiceForms.Number.Numeral
import InvoiceForms.Number.Rounding
import InvoiceForms.Proofs.Calendar.Ordinals
import InvoiceForms.Proofs.Catalogue.Listing
import InvoiceForms.Proofs.Content.Blocks
import InvoiceForms.Proofs.Content.Brackets
import InvoiceForms.Proofs.Content.Categories
import InvoiceForms.Proofs.Content.Cells
import InvoiceForms.Proofs.Content.Contributions
import InvoiceForms.Proofs.Content.Cursors
import InvoiceForms.Proofs.Content.Expressions
import InvoiceForms.Proofs.Content.FirstLoop
import InvoiceForms.Proofs.Content.Lookups
import InvoiceForms.Proofs.Content.LoopFaults
import InvoiceForms.Proofs.Content.LoopItems
import InvoiceForms.Proofs.Content.Meaning
import InvoiceForms.Proofs.Content.Nesting
import InvoiceForms.Proofs.Content.Queries
import InvoiceForms.Proofs.Content.Structure
import InvoiceForms.Proofs.Content.Tokens
import InvoiceForms.Proofs.Content.Variables
import InvoiceForms.Proofs.Content.Warnings
import InvoiceForms.Proofs.Invoice.Amounts
import InvoiceForms.Proofs.Invoice.Assignments
import InvoiceForms.Proofs.Invoice.DueDates
import InvoiceForms.Proofs.Invoice.Quantities
import InvoiceForms.Proofs.Invoice.Served
import InvoiceForms.Proofs.Json.Arrangement
import InvoiceForms.Proofs.Json.Entries
import InvoiceForms.Proofs.Json.Everywhere
import InvoiceForms.Proofs.Json.Lines
import InvoiceForms.Proofs.Json.Numbers
import InvoiceForms.Proofs.Json.RoundTrip
import InvoiceForms.Proofs.Json.Texts
import InvoiceForms.Proofs.Number.Decimals
import InvoiceForms.Proofs.Number.GeneralText
import InvoiceForms.Proofs.Number.Places
import InvoiceForms.Proofs.Number.Ratios
import InvoiceForms.Proofs.Number.Whole
import InvoiceForms.Proofs.Record.Assignments
import InvoiceForms.Proofs.Record.Codecs
import InvoiceForms.Proofs.Record.Fields
import InvoiceForms.Proofs.Record.Pairs
import InvoiceForms.Proofs.Record.Records
import InvoiceForms.Proofs.Record.Walking
import InvoiceForms.Proofs.Record.Writing
import InvoiceForms.Proofs.Render.Assembly
import InvoiceForms.Proofs.Render.Order
import InvoiceForms.Proofs.Render.Positions
import InvoiceForms.Proofs.Render.Sections
import InvoiceForms.Proofs.Render.Supply
import InvoiceForms.Proofs.Render.Tables
import InvoiceForms.Proofs.Render.TaxReference
import InvoiceForms.Proofs.Render.Unknown
import InvoiceForms.Proofs.Results
import InvoiceForms.Proofs.Service.Auditing
import InvoiceForms.Proofs.Service.Markup
import InvoiceForms.Proofs.Service.PageAnswers
import InvoiceForms.Proofs.Service.Pages
import InvoiceForms.Proofs.Service.ToolDeeds
import InvoiceForms.Proofs.Service.ToolRaces
import InvoiceForms.Proofs.Service.ToolRuns
import InvoiceForms.Proofs.Store.Access
import InvoiceForms.Proofs.Store.Atomicity
import InvoiceForms.Proofs.Store.Calls
import InvoiceForms.Proofs.Store.Calm
import InvoiceForms.Proofs.Store.Coherence
import InvoiceForms.Proofs.Store.Confinement
import InvoiceForms.Proofs.Store.Deeds
import InvoiceForms.Proofs.Store.Discipline
import InvoiceForms.Proofs.Store.Distinct
import InvoiceForms.Proofs.Store.Fallbacks
import InvoiceForms.Proofs.Store.Faults
import InvoiceForms.Proofs.Store.FileTree
import InvoiceForms.Proofs.Store.Files
import InvoiceForms.Proofs.Store.Flags
import InvoiceForms.Proofs.Store.Footprint
import InvoiceForms.Proofs.Store.Governing
import InvoiceForms.Proofs.Store.Interleaving
import InvoiceForms.Proofs.Store.Listing
import InvoiceForms.Proofs.Store.ListingOrder
import InvoiceForms.Proofs.Store.Mirroring
import InvoiceForms.Proofs.Store.OwnIds
import InvoiceForms.Proofs.Store.Ownership
import InvoiceForms.Proofs.Store.Paths
import InvoiceForms.Proofs.Store.Persistence
import InvoiceForms.Proofs.Store.Places
import InvoiceForms.Proofs.Store.Pointer
import InvoiceForms.Proofs.Store.Reading
import InvoiceForms.Proofs.Store.Refinement
import InvoiceForms.Proofs.Store.Rendering
import InvoiceForms.Proofs.Store.Replacing
import InvoiceForms.Proofs.Store.Resolution
import InvoiceForms.Proofs.Store.Rights
import InvoiceForms.Proofs.Store.Runner
import InvoiceForms.Proofs.Store.Specs
import InvoiceForms.Proofs.Store.Turns
import InvoiceForms.Proofs.Store.Usable
import InvoiceForms.Proofs.Template.Admission
import InvoiceForms.Proofs.Template.Alike
import InvoiceForms.Proofs.Template.Documents
import InvoiceForms.Proofs.Template.Parts
import InvoiceForms.Proofs.Template.RoundTrip
import InvoiceForms.Proofs.Template.SectionDocuments
import InvoiceForms.Proofs.Template.Sections
import InvoiceForms.Proofs.Template.Tags
import InvoiceForms.Proofs.Template.Walking
import InvoiceForms.Proofs.Template.Writing
import InvoiceForms.Proofs.Text.Digits
import InvoiceForms.Proofs.Text.Trim
import InvoiceForms.Proofs.Validation.Arranged
import InvoiceForms.Proofs.Validation.Errors
import InvoiceForms.Proofs.Validation.Refusals
import InvoiceForms.Proofs.Value.Data
import InvoiceForms.Proofs.Value.Paths
import InvoiceForms.Proofs.Value.Shapes
import InvoiceForms.Record.Assignment
import InvoiceForms.Record.Codec
import InvoiceForms.Record.Coercion
import InvoiceForms.Record.Fault
import InvoiceForms.Record.Schema
import InvoiceForms.Render.Document
import InvoiceForms.Render.Rendered
import InvoiceForms.Render.Section
import InvoiceForms.Service.Api
import InvoiceForms.Service.Audit
import InvoiceForms.Service.Envelope
import InvoiceForms.Service.Failure
import InvoiceForms.Service.Generation
import InvoiceForms.Service.Markup
import InvoiceForms.Service.Pages
import InvoiceForms.Service.Settings
import InvoiceForms.Service.Smoke
import InvoiceForms.Service.ToolList
import InvoiceForms.Service.Tools
import InvoiceForms.Store.Basic
import InvoiceForms.Store.Fault
import InvoiceForms.Store.FileTree
import InvoiceForms.Store.Files
import InvoiceForms.Store.Governor
import InvoiceForms.Store.Memory
import InvoiceForms.Store.Program
import InvoiceForms.Store.Resolver
import InvoiceForms.Template.Basic
import InvoiceForms.Template.Builtin
import InvoiceForms.Template.Company
import InvoiceForms.Template.Id
import InvoiceForms.Template.Layout
import InvoiceForms.Template.Section
import InvoiceForms.Template.SectionData
import InvoiceForms.Text.Blank
import InvoiceForms.Text.Digits
import InvoiceForms.Text.Encoding
import InvoiceForms.Text.Printable
import InvoiceForms.Text.Quoted
import InvoiceForms.Text.Split
import InvoiceForms.Text.Units
import InvoiceForms.Text.Wide
import InvoiceForms.Validation.Check
import InvoiceForms.Validation.Issue
import InvoiceForms.Validation.Policy
import InvoiceForms.Value.Basic
import InvoiceForms.Value.Key
import InvoiceForms.Value.Listing
import InvoiceForms.Value.Pairs
import InvoiceForms.Value.Shown
