import PiiScan.Address
import PiiScan.Anonymizer
import PiiScan.CharSet
import PiiScan.Classification
import PiiScan.CommandLine
import PiiScan.Config.Basic
import PiiScan.Config.Document
import PiiScan.Config.Forms
import PiiScan.Config.Load
import PiiScan.Detection
import PiiScan.Detector
import PiiScan.Digits
import PiiScan.Engine
import PiiScan.Fault
import PiiScan.Files
import PiiScan.Hcl.Body
import PiiScan.Hcl.Expression
import PiiScan.Hcl.Lexical
import PiiScan.Hcl.Term
import PiiScan.Json.Basic
import PiiScan.Json.Forms
import PiiScan.Json.Number
import PiiScan.Json.Printer
import PiiScan.Json.Reader
import PiiScan.Json.Record
import PiiScan.Luhn
import PiiScan.Merge
import PiiScan.Operator
import PiiScan.Overlap
import PiiScan.Pattern.Basic
import PiiScan.Pattern.Class
import PiiScan.Pattern.Engine
import PiiScan.Pattern.Reader
import PiiScan.Pattern.Residual
import PiiScan.Pattern.Search
import PiiScan.Pattern.Size
import PiiScan.Program
import PiiScan.Recognizer
import PiiScan.Redaction
import PiiScan.Rule
import PiiScan.Scanner
import PiiScan.Score.Basic
import PiiScan.Score.Rounding
import PiiScan.Score.Shortest
import PiiScan.Server
import PiiScan.Service
import PiiScan.Sha256
import PiiScan.Sorting
import PiiScan.Text
import PiiScan.Unicode.Age
import PiiScan.Unicode.Binary
import PiiScan.Unicode.Blank
import PiiScan.Unicode.Break
import PiiScan.Unicode.CaseFold
import PiiScan.Unicode.Category
import PiiScan.Unicode.Digit
import PiiScan.Unicode.Property
import PiiScan.Unicode.Runs
import PiiScan.Unicode.Script
import PiiScan.Unicode.Word
import PiiScan.Wire.Call
import PiiScan.Wire.Message
import PiiScan.Wire.Varint
import PiiScan.Main
import PiiScan.Proofs.Text
import PiiScan.Proofs.Merge
import PiiScan.Proofs.Anonymizer
import PiiScan.Proofs.Secrecy
import PiiScan.Proofs.Overlap
import PiiScan.Proofs.Offsets
import PiiScan.Proofs.Pattern.Range
import PiiScan.Proofs.Pattern.Engine
import PiiScan.Proofs.Recognizer
import PiiScan.Proofs.Service
import PiiScan.Proofs.Pattern.Backtracking
import PiiScan.Proofs.Pattern.Leftmost
import PiiScan.Proofs.Card.Pattern
import PiiScan.Proofs.Card.Match
import PiiScan.Proofs.DefaultRules
import PiiScan.Proofs.Card.Finding
import PiiScan.Proofs.Cutoff
import PiiScan.Proofs.FailClosed
import PiiScan.Proofs.Report
import PiiScan.Proofs.Cluster
import PiiScan.Proofs.Reordering
import PiiScan.Proofs.RuleOrder
import PiiScan.Proofs.BestFirst
import PiiScan.Proofs.Json.Numerals
import PiiScan.Proofs.Json.Strings
import PiiScan.Proofs.Json.RoundTrip
import PiiScan.Proofs.Json.Deletion
import PiiScan.Proofs.Config.Deletion
import PiiScan.Proofs.CommandLine
import PiiScan.Proofs.Config.Reload
import PiiScan.Proofs.ShownConfig
import PiiScan.Proofs.Luhn
import PiiScan.Proofs.Card.Digits
import PiiScan.Proofs.Concatenation
import PiiScan.Proofs.Components
import PiiScan.Proofs.Mask
import PiiScan.Proofs.Config.Construction
