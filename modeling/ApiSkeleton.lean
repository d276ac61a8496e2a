import ApiSkeleton.Main
import ApiSkeleton.Proofs.Model.Acceptance
import ApiSkeleton.Proofs.Emit.Agreement
import ApiSkeleton.Proofs.App.DryRun
import ApiSkeleton.Proofs.Emit.Interruption
import ApiSkeleton.Proofs.Model.FirstViolation
import ApiSkeleton.Proofs.Model.Relevance
import ApiSkeleton.Proofs.App.RealRun
import ApiSkeleton.Proofs.Yaml.Conversion
import ApiSkeleton.Proofs.App.Preservation
import ApiSkeleton.Proofs.App.SpecCopy
import ApiSkeleton.Proofs.Emit.Isolation
import ApiSkeleton.Proofs.App.Imports
import ApiSkeleton.Proofs.Emit.Reads
import ApiSkeleton.Proofs.Emit.Names
import ApiSkeleton.Proofs.Emit.RouteLiterals
import ApiSkeleton.Proofs.Emit.Stubs
import ApiSkeleton.Proofs.Emit.Bindings
import ApiSkeleton.Proofs.App.Planning
import ApiSkeleton.Proofs.App.Purity
import ApiSkeleton.Proofs.Model.Override
import ApiSkeleton.Proofs.Model.Contents
import ApiSkeleton.Proofs.Emit.Tables
import ApiSkeleton.Proofs.Layout.Tags
import ApiSkeleton.Proofs.FileSystem.Mirror
import ApiSkeleton.Proofs.Emit.Quoting
import ApiSkeleton.Proofs.App.TemplateCopy
import ApiSkeleton.Proofs.Model.Identifiers
import ApiSkeleton.Proofs.Emit.Header
import ApiSkeleton.Proofs.Emit.ValidatorKeys
import ApiSkeleton.Proofs.Emit.Exports
import ApiSkeleton.Proofs.Emit.ColumnNames
import ApiSkeleton.Proofs.Text.Declarable
import ApiSkeleton.Proofs.Emit.Skeleton
import ApiSkeleton.Proofs.Text.ReadBack
import ApiSkeleton.Proofs.App.Writing
