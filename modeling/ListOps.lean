import ListOps.Main
import ListOps.Storage.Listing
import ListOps.Proofs.Template.Substitution
import ListOps.Proofs.Template.Fault
import ListOps.Proofs.Template.Weave
import ListOps.Proofs.Catalogue.Weave
import ListOps.Proofs.LowerCase
import ListOps.Proofs.DeclaredType
import ListOps.Proofs.Uses
import ListOps.Proofs.SourceFile.Verdict
import ListOps.Proofs.SourceFile.FunctionNames
import ListOps.Proofs.SourceFile.Lines
import ListOps.Proofs.SourceFile.MoreTypes
import ListOps.Proofs.SourceFile.PackageName
import ListOps.Proofs.Declarations.Blocks
import ListOps.Proofs.SourceFile.Imports
import ListOps.Proofs.Name
import ListOps.Proofs.SourceFile.Identifiers
import ListOps.Proofs.Request.Fields
import ListOps.Proofs.Request.Redundancy
import ListOps.Proofs.Request.Flags
import ListOps.Proofs.Storage.Path
import ListOps.Proofs.Storage.Disk
import ListOps.Proofs.CommandLine.Destination
import ListOps.Proofs.Declarations.Carried
import ListOps.Proofs.Declarations.Places
import ListOps.Proofs.Recognition
import ListOps.Proofs.Declarations.Recognition
import ListOps.Proofs.Declarations.Spelling
import ListOps.Proofs.SourceFile.Sync
import ListOps.Proofs.SourceFile.Tokens
import ListOps.Proofs.Declarations.Order
import ListOps.Proofs.Declarations.PairNames
import ListOps.Proofs.Distinct
import ListOps.Proofs.Template.Tiling
import ListOps.Proofs.Template.Bytes
