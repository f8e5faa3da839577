import LineCoverage.Binary.Cursor
import LineCoverage.Binary.Dwarf.Entry
import LineCoverage.Binary.Dwarf.LineProgram
import LineCoverage.Binary.Dwarf.SourceName
import LineCoverage.Binary.Dwarf.Units
import LineCoverage.Binary.Elf
import LineCoverage.Binary.Relocation
import LineCoverage.Bytes
import LineCoverage.CommandLine.Reading
import LineCoverage.CommandLine.Token
import LineCoverage.Compression.Bits
import LineCoverage.Compression.Checksum
import LineCoverage.Compression.Content
import LineCoverage.Compression.Gzip
import LineCoverage.Compression.Inflate
import LineCoverage.Compression.Zstd
import LineCoverage.Compression.Zstd.Fse
import LineCoverage.Compression.Zstd.Literals
import LineCoverage.Compression.Zstd.Sequences
import LineCoverage.Config
import LineCoverage.ConfigFile
import LineCoverage.Coverage
import LineCoverage.Extraction
import LineCoverage.LineTable
import LineCoverage.Log
import LineCoverage.Main
import LineCoverage.Metrics
import LineCoverage.Options
import LineCoverage.Path
import LineCoverage.Program
import LineCoverage.Proofs.Bytes
import LineCoverage.Proofs.Coverage
import LineCoverage.Proofs.Extraction
import LineCoverage.Proofs.LineTable
import LineCoverage.Proofs.Maps
import LineCoverage.Proofs.Path
import LineCoverage.Proofs.RangeSet
import LineCoverage.Proofs.Report.EndToEnd
import LineCoverage.Proofs.Report.Results
import LineCoverage.Proofs.Report.Run
import LineCoverage.Proofs.Report.Turns
import LineCoverage.Proofs.Store.Memory
import LineCoverage.Proofs.Symbols
import LineCoverage.Proofs.Text.Decimal
import LineCoverage.Proofs.Text.Space
import LineCoverage.Proofs.Trace
import LineCoverage.Proofs.Tracefile.Reader
import LineCoverage.Proofs.Tracefile.RoundTrip
import LineCoverage.Proofs.Tracefile.Writer
import LineCoverage.RangeSet
import LineCoverage.Renderer
import LineCoverage.Report.Result
import LineCoverage.Report.Run
import LineCoverage.Report.Summary
import LineCoverage.RunSelection
import LineCoverage.Script
import LineCoverage.Script.Arithmetic
import LineCoverage.Script.Builtin
import LineCoverage.Script.Condition
import LineCoverage.Script.Field
import LineCoverage.Script.Format
import LineCoverage.Script.Grammar
import LineCoverage.Script.Installed
import LineCoverage.Script.Pattern
import LineCoverage.Script.Regex
import LineCoverage.Script.Run
import LineCoverage.Script.Session
import LineCoverage.Script.Tool
import LineCoverage.Script.Tool.Edit
import LineCoverage.Script.Tool.Files
import LineCoverage.Script.Tool.Lines
import LineCoverage.Script.Tool.Search
import LineCoverage.Script.Word
import LineCoverage.Store
import LineCoverage.Store.Disk
import LineCoverage.Store.Error
import LineCoverage.Store.Memory
import LineCoverage.Symbols
import LineCoverage.Table
import LineCoverage.Template
import LineCoverage.Text.Base64
import LineCoverage.Text.Case
import LineCoverage.Text.Cluster
import LineCoverage.Text.Cluster.BreakClass
import LineCoverage.Text.Decimal
import LineCoverage.Text.FloatText
import LineCoverage.Text.Glob
import LineCoverage.Text.Letter
import LineCoverage.Text.NumberError
import LineCoverage.Text.Percent
import LineCoverage.Text.Printable
import LineCoverage.Text.Quoted
import LineCoverage.Text.Ranges
import LineCoverage.Text.Space
import LineCoverage.Text.Timestamp
import LineCoverage.Text.Utf8
import LineCoverage.Text.Width
import LineCoverage.Trace.Document
import LineCoverage.Trace.Files
import LineCoverage.Trace.Token
import LineCoverage.Tracefile.Reader
import LineCoverage.Tracefile.Record
import LineCoverage.Tracefile.Writer
import LineCoverage.Word
import LineCoverage.Yaml.Node
import LineCoverage.Yaml.Scalar
import LineCoverage.Yaml.Source
import LineCoverage.Yaml.Token
import LineCoverage.Yaml.Token.Scalar
import LineCoverage.Yaml.Token.Scan
import LineCoverage.Yaml.Value
import LineCoverage.Proofs.Symbols.Cache
import LineCoverage.Proofs.Text.Numeral
import LineCoverage.Proofs.Tracefile.Grammar
import LineCoverage.Proofs.Report.Writing
import LineCoverage.Proofs.Report.Tracefiles
import LineCoverage.Proofs.Report.Isolation
import LineCoverage.Proofs.RangeSet.Views
import LineCoverage.Proofs.RangeSet.Search
import LineCoverage.Proofs.RangeSet.NormalForm
import LineCoverage.Proofs.Coverage.Bytewise
import LineCoverage.Proofs.Coverage.Merging
import LineCoverage.Proofs.Tracefile.Concatenation
import LineCoverage.Proofs.Trace.Document
import LineCoverage.Proofs.Path.Entry
import LineCoverage.Proofs.Store.Tree
import LineCoverage.Proofs.Store.Walk
import LineCoverage.Proofs.Report.Printing
import LineCoverage.Proofs.Report.Rerun
import LineCoverage.Proofs.Symbols.Mapping
import LineCoverage.Proofs.Symbols.MergedRuns
import LineCoverage.Proofs.Tracefile.Filtering
import LineCoverage.Proofs.Tracefile.Relevance
import LineCoverage.Proofs.RunSelection.Names
import LineCoverage.Proofs.Report.Duplicates
import LineCoverage.Proofs.RunSelection.LastRuns
import LineCoverage.Proofs.RunSelection.Latest
import LineCoverage.Proofs.Trace.Packed
import LineCoverage.Proofs.Store.Below
import LineCoverage.Proofs.Trace.Listing
import LineCoverage.Proofs.Trace.Aggregation
import LineCoverage.Proofs.LineTable.Construction
import LineCoverage.Proofs.Options
import LineCoverage.Proofs.Symbols.Location
import LineCoverage.Proofs.Cache
import LineCoverage.Proofs.Trace.Coverage
