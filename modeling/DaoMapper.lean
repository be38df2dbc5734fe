import DaoMapper.Cache.Run
import DaoMapper.Context
import DaoMapper.Execution.Session
import DaoMapper.Json.Reader
import DaoMapper.Main
import DaoMapper.Proofs.Capture
import DaoMapper.Proofs.Clash
import DaoMapper.Proofs.InUse
import DaoMapper.Proofs.Skipping
import DaoMapper.Proofs.Nesting
import DaoMapper.Proofs.Bindings
import DaoMapper.Proofs.WriteOnce
import DaoMapper.Proofs.Clearing
import DaoMapper.Proofs.Accounting
import DaoMapper.Proofs.Saving
import DaoMapper.Proofs.Command
import DaoMapper.Proofs.Awaiting
import DaoMapper.Proofs.Posts
import DaoMapper.Proofs.Seated
import DaoMapper.Proofs.Paths
import DaoMapper.Proofs.Answered
import DaoMapper.Proofs.Factories
import DaoMapper.Proofs.InOrder
import DaoMapper.Proofs.StartsOnce
import DaoMapper.Proofs.Endings
import DaoMapper.Proofs.ScheduleFree
import DaoMapper.Proofs.Layers
import DaoMapper.Proofs.NameForms
import DaoMapper.Proofs.References
import DaoMapper.Proofs.Retrying
import DaoMapper.Proofs.Sinks
import DaoMapper.Proofs.Verdicts
import DaoMapper.Proofs.Unquoted
import DaoMapper.Proofs.Narrowing
import DaoMapper.Proofs.Remembered
import DaoMapper.Proofs.ShownAgain
import DaoMapper.Proofs.QuotePairs
import DaoMapper.Proofs.Acceptance
import DaoMapper.Proofs.Aborting
import DaoMapper.Proofs.Numbering
import DaoMapper.Proofs.Spelling
import DaoMapper.Proofs.WrittenNames
import DaoMapper.Proofs.HeaderLine
import DaoMapper.Proofs.Placeholders
import DaoMapper.Proofs.Discovery
import DaoMapper.Proofs.Covering
import DaoMapper.Proofs.SharedCache
