import PageAssets.Files.Layout
import PageAssets.Main
import PageAssets.Proofs.Page.Gaps
import PageAssets.Proofs.Page.Repetition
import PageAssets.Proofs.Page.Structured
import PageAssets.Proofs.Markup.Approach
import PageAssets.Proofs.Page.Restyling
import PageAssets.Proofs.Files.Paths
import PageAssets.Proofs.Files.Walking
import PageAssets.Proofs.Files.Directories
import PageAssets.Proofs.Files.Entries
import PageAssets.Proofs.Files.Replacing
import PageAssets.Proofs.Files.Faults
import PageAssets.Proofs.Batch.Slots
import PageAssets.Proofs.Batch.Attempts
import PageAssets.Proofs.Page.Difference
import PageAssets.Proofs.Batch.Extraction
import PageAssets.Proofs.Batch.Locality
import PageAssets.Proofs.Batch.Isolation
import PageAssets.Proofs.Markup.Cutting
import PageAssets.Proofs.Page.Boundaries
import PageAssets.Proofs.Batch.Unification
import PageAssets.Proofs.Batch.Narration
import PageAssets.Proofs.Config.Styles
import PageAssets.Proofs.Config.Validity
import PageAssets.Proofs.CommandLine.Precedence
import PageAssets.Proofs.CommandLine.Arguments
import PageAssets.Proofs.CommandLine.Unifying
import PageAssets.Proofs.CommandLine.Silence
import PageAssets.Proofs.Offsets.Pages
import PageAssets.Proofs.Offsets.TagEnds
import PageAssets.Proofs.Offsets.Folding
import PageAssets.Proofs.Offsets.ClosingTags
import PageAssets.Proofs.Batch.Writing
import PageAssets.Proofs.Batch.Confinement
