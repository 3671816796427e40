import ScriptFrontend.Diagnostic.Report
import ScriptFrontend.Proofs.Reading.Attribution
import ScriptFrontend.Proofs.Reading.Cutoff
import ScriptFrontend.Proofs.Reading.Discipline
import ScriptFrontend.Proofs.Reading.Recovery
import ScriptFrontend.Proofs.Tree.Contents
import ScriptFrontend.Reading.Session
import ScriptFrontend.Script
import ScriptFrontend.SourcePoint
import ScriptFrontend.Tree.Node
import ScriptFrontend.Tree.Render
import ScriptFrontend.Proofs.Lexeme.Tiling
import ScriptFrontend.Proofs.Reading.Enclosure
import ScriptFrontend.Proofs.Reading.Naturality
import ScriptFrontend.Proofs.Tree.Nodes
import ScriptFrontend.Proofs.Tree.WellFormed
import ScriptFrontend.Proofs.Tree.Spans
import ScriptFrontend.Proofs.Diagnostic.Pointing
import ScriptFrontend.Proofs.Lexeme.Layout
import ScriptFrontend.Proofs.Reading.Layout
import ScriptFrontend.Proofs.Lexeme.Munching
import ScriptFrontend.Proofs.Lexeme.Seams
import ScriptFrontend.Proofs.Reading.Truncation
import ScriptFrontend.Proofs.Tree.Cuts
import ScriptFrontend.Proofs.Grammar.Language
import ScriptFrontend.Proofs.Text.Places
import ScriptFrontend.Proofs.Diagnostic.Caret
import ScriptFrontend.Proofs.Reading.Rounds
import ScriptFrontend.Proofs.Reading.Workload
import ScriptFrontend.Proofs.Reading.Cascade
import ScriptFrontend.Proofs.Reading.Chronicle
