import RelaxCompact.Loader
import RelaxCompact.Proofs.Alike
import RelaxCompact.Proofs.Caching.Growth
import RelaxCompact.Proofs.Caching.Prefetching
import RelaxCompact.Proofs.Caching.Assembling
import RelaxCompact.Proofs.Caching.Covering
import RelaxCompact.Proofs.Caching.Scheduling
import RelaxCompact.Proofs.Caching.Requests
import RelaxCompact.Proofs.Caching.Loading
import RelaxCompact.Proofs.Caching.Asking
import RelaxCompact.Proofs.Assembly.Sites
import RelaxCompact.Proofs.Assembly.Grammars
import RelaxCompact.Proofs.Assembly.Environments
import RelaxCompact.Proofs.Assembly.Cycles
import RelaxCompact.Proofs.Assembly.Restoring
import RelaxCompact.Proofs.Assembly.Scoping
import RelaxCompact.Proofs.Resolution.Arena
import RelaxCompact.Proofs.Resolution.Writing
import RelaxCompact.Proofs.Resolution.Bodies
import RelaxCompact.Proofs.Resolution.Nested
import RelaxCompact.Proofs.Resolution.Resolved
import RelaxCompact.Proofs.Resolution.Cycle
import RelaxCompact.Proofs.Resolution.Guarded
import RelaxCompact.Proofs.Resolution.Undefined
import RelaxCompact.Proofs.Resolution.Owned
import RelaxCompact.Proofs.Resolution.Forest
import RelaxCompact.Proofs.Printing.Printer
import RelaxCompact.Proofs.Printing.Spelling
import RelaxCompact.Proofs.Printing.Scanning
import RelaxCompact.Proofs.Printing.Takes
import RelaxCompact.Proofs.Printing.Patterns
import RelaxCompact.Proofs.Printing.Precedence
import RelaxCompact.Proofs.Printing.Components
import RelaxCompact.Proofs.Printing.Files
import RelaxCompact.Proofs.Printing.Gives
import RelaxCompact.Proofs.Printing.RoundTrip
import RelaxCompact.Proofs.Printing.Results
import RelaxCompact.Proofs.Printing.Heights
import RelaxCompact.Proofs.Parsing.Pacing
import RelaxCompact.Proofs.Parsing.Lifting
import RelaxCompact.Proofs.Parsing.Limiting
import RelaxCompact.Proofs.Parsing.Overflowing
import RelaxCompact.Proofs.Assembly.Causes
import RelaxCompact.Proofs.Loading.Failures
import RelaxCompact.Proofs.Parsing.Consuming
import RelaxCompact.Proofs.Parsing.Deriving
import RelaxCompact.Proofs.Parsing.Levels
import RelaxCompact.Proofs.Parsing.Accepting
import RelaxCompact.Proofs.Flattening.Sides
import RelaxCompact.Proofs.Flattening.Assembling
import RelaxCompact.Proofs.Flattening.Schemas
import RelaxCompact.Proofs.Ordering.Criterion
import RelaxCompact.Proofs.Ordering.Placing
import RelaxCompact.Proofs.Ordering.Tracing
import RelaxCompact.Proofs.Ordering.Necessary
import RelaxCompact.Proofs.Ordering.Succeeding
import RelaxCompact.Proofs.Ordering.Sufficient
import RelaxCompact.Proofs.Ordering.Relocating
import RelaxCompact.Proofs.Ordering.Permuting
import RelaxCompact.Proofs.Scanning.Tiling
import RelaxCompact.Proofs.Scanning.Joining
import RelaxCompact.Proofs.Scanning.Escaping
import RelaxCompact.Proofs.Scanning.Respacing
import RelaxCompact.Proofs.Loading.Entrances
import RelaxCompact.Proofs.Loading.Documentation
import RelaxCompact.Proofs.Assembly.Unmatched
import RelaxCompact.Proofs.Assembly.Headers
import RelaxCompact.Proofs.Parsing.Anchoring
import RelaxCompact.Proofs.Assembly.Images
import RelaxCompact.Proofs.Scanning.Inserting
import RelaxCompact.Proofs.Encoding
import RelaxCompact.Proofs.Scanning.Seeking
import RelaxCompact.Proofs.Scanning.Unclosed
import RelaxCompact.Proofs.Scanning.Documenting
import RelaxCompact.Proofs.Scanning.Coding
import RelaxCompact.Proofs.Parsing.Marking
import RelaxCompact.Proofs.Parsing.Rereading
import RelaxCompact.Proofs.Parsing.Juxtaposing
import RelaxCompact.Proofs.Parsing.Annotating
import RelaxCompact.Proofs.Parsing.Heading
import RelaxCompact.Proofs.Parsing.Annotated
import RelaxCompact.Proofs.Completing.Files
import RelaxCompact.Proofs.Advancing.Methods
import RelaxCompact.Proofs.Querying.Walking
import RelaxCompact.Proofs.Querying.Describing
import RelaxCompact.Proofs.Querying.Following
