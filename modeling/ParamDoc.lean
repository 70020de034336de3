import ParamDoc.Cli.FileTree
import ParamDoc.Main
import ParamDoc.Proofs.Cli.StandardInput
import ParamDoc.Proofs.Cli.Verbosity
import ParamDoc.Proofs.Dump.Truncation
import ParamDoc.Proofs.Pairing.Order
import ParamDoc.Proofs.Prose
import ParamDoc.Proofs.SizeTag.Locality
import ParamDoc.Proofs.SizeTag.Overlap
import ParamDoc.Proofs.Summary.Events
import ParamDoc.Proofs.Summary.Flaws
import ParamDoc.Proofs.Summary.Printing
import ParamDoc.Proofs.Summary.Pruning
import ParamDoc.Proofs.Summary.Sizes
