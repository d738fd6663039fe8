import MicroC.CommandLine.Run
import MicroC.Main
import MicroC.Source.Session
import MicroC.Token.Stream
import MicroC.Tree.Same
import MicroC.Tree.Walk
import MicroC.Proofs.Lexeme
import MicroC.Proofs.Position
import MicroC.Proofs.Finding
import MicroC.Proofs.Cutting
import MicroC.Proofs.Segmentation
import MicroC.Proofs.Offence
import MicroC.Proofs.StreamPosition
import MicroC.Proofs.Writing
import MicroC.Proofs.ConstantValue
import MicroC.Proofs.Listing
import MicroC.Proofs.Phrase
import MicroC.Proofs.EndToEnd
import MicroC.Proofs.DebugOption
import MicroC.Proofs.DebugMode
import MicroC.Proofs.Dump
import MicroC.Proofs.Flattening
import MicroC.Proofs.Memoryless
import MicroC.Proofs.Settlement
import MicroC.Proofs.Stages
import MicroC.Proofs.Viable
import MicroC.Proofs.Diagnosis
import MicroC.Proofs.Lines
import MicroC.Proofs.Quotation
import MicroC.Proofs.Unlocated
import MicroC.Proofs.Layout
import MicroC.Proofs.Concatenation
import MicroC.Proofs.Pointing
import MicroC.Proofs.Orders
import MicroC.Proofs.Resumption
import MicroC.Proofs.Delivery
import MicroC.Proofs.OneLine
import MicroC.Proofs.Readability
import MicroC.Proofs.Fixpoint
import MicroC.Proofs.Rejection
import MicroC.Proofs.Spine
import MicroC.Proofs.Indentation
import MicroC.Proofs.ConstantToken
import MicroC.Proofs.LocationBlind
import MicroC.Proofs.Traversal
import MicroC.Proofs.FurthestMiss
import MicroC.Proofs.Progress
