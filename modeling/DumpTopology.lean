import DumpTopology.Text.CodeSet
import DumpTopology.Text.Blank
import DumpTopology.Text.Word
import DumpTopology.Text.Letter
import DumpTopology.Text.Lower
import DumpTopology.Text.Fold
import DumpTopology.Text.Utf8
import DumpTopology.Regex.Class
import DumpTopology.Regex.Syntax
import DumpTopology.Regex.Source
import DumpTopology.Regex.Escape
import DumpTopology.Regex.Bracket
import DumpTopology.Regex.Parse
import DumpTopology.Regex.Automaton
import DumpTopology.Regex.Search
import DumpTopology.Regex.Pattern
import DumpTopology.Regex.Template
import DumpTopology.Regex.FaultText
import DumpTopology.TableName
import DumpTopology.SourceFile
import DumpTopology.Fault
import DumpTopology.Wildcard
import DumpTopology.NameFilter
import DumpTopology.Rename
import DumpTopology.PathGlob
import DumpTopology.PathRule
import DumpTopology.Topology
import DumpTopology.Buckets
import DumpTopology.Assembly
import DumpTopology.LoadOrder
import DumpTopology.Resolution
import DumpTopology.Doc
import DumpTopology.JsonText
import DumpTopology.Encode
import DumpTopology.Charset
import DumpTopology.Config.Basic
import DumpTopology.Config.Decode
import DumpTopology.Config.Encode
import DumpTopology.Shape
import DumpTopology.Decode
import DumpTopology.Store.Basic
import DumpTopology.Store.Memory
import DumpTopology.Discovery
import DumpTopology.Statement
import DumpTopology.Codec.Bits
import DumpTopology.Codec.Crc32
import DumpTopology.Codec.Inflate
import DumpTopology.Codec.Gzip
import DumpTopology.Codec.Xxh64
import DumpTopology.Codec.ZstdFault
import DumpTopology.Codec.Backward
import DumpTopology.Codec.Fse
import DumpTopology.Codec.Literals
import DumpTopology.Codec.Sequences
import DumpTopology.Codec.ZstdBlock
import DumpTopology.Codec.Zstd
import DumpTopology.Extract
import DumpTopology.Dump
import DumpTopology.Store.Tree
import DumpTopology.Toml.Reader
import DumpTopology.Toml.Table
import DumpTopology.Toml.Document
import DumpTopology.Config.Load
import DumpTopology.Text.Width
import DumpTopology.Cli.Size
import DumpTopology.Cli.Grid
import DumpTopology.Cli.Args
import DumpTopology.Cli.Help
import DumpTopology.Cli.LogFilter
import DumpTopology.Cli.Line
import DumpTopology.Cli.Run
import DumpTopology.Main
import DumpTopology.Proofs.Builder.Coherence
import DumpTopology.Proofs.Checked
import DumpTopology.Proofs.Builder.Outcome
import DumpTopology.Proofs.Rename.References
import DumpTopology.Proofs.Builder.Contents
import DumpTopology.Proofs.LoadOrder
import DumpTopology.Proofs.Discovery.Conservation
import DumpTopology.Proofs.Text.ByteOrder
import DumpTopology.Proofs.Text.CaseTables
import DumpTopology.Proofs.SortedLoadOrder
import DumpTopology.Proofs.Builder.Shape
import DumpTopology.Proofs.Rename.Synthesis
import DumpTopology.Proofs.Wildcard.Star
import DumpTopology.Proofs.NameFilter.KeptSchemas
import DumpTopology.Proofs.Rename.RouteChoice
import DumpTopology.Proofs.NameFilter.FoldCase
import DumpTopology.Proofs.Regex.Search
import DumpTopology.Proofs.Regex.Class
import DumpTopology.Proofs.Regex.Compile
import DumpTopology.Proofs.Regex.Read
import DumpTopology.Proofs.PathGlob.Language
import DumpTopology.Proofs.PathGlob.Tree
import DumpTopology.Proofs.PathGlob.Match
import DumpTopology.Proofs.Statements
import DumpTopology.Proofs.Builder.Sizes
import DumpTopology.Proofs.Discovery.IdentityRoutes
import DumpTopology.Proofs.SortKey
import DumpTopology.Proofs.Regex.FirstRun
import DumpTopology.Proofs.Regex.Captures
import DumpTopology.Proofs.Regex.Prefixed
import DumpTopology.Proofs.Regex.Template
import DumpTopology.Proofs.Regex.Directories
import DumpTopology.Proofs.Regex.Evaluate
import DumpTopology.Proofs.PathRule.FileName
