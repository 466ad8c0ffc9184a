import CacheService.Number.Reading
import CacheService.Lookup.Handler
import CacheService.Lookup.OneShot.Callers
import CacheService.Lookup.Columns
import CacheService.Lookup.Sink
import CacheService.Row.Script
import CacheService.Row.Tables
import CacheService.Expiring.Step
import CacheService.Expiring.Sweeper
import CacheService.TextStore.Step
import CacheService.Admin.Config
import CacheService.Admin.Service
import CacheService.Proofs.TextStore.Coherence
import CacheService.Proofs.TextStore.Questions
import CacheService.Proofs.TextStore.NewDirectories
import CacheService.Proofs.Lookup.Calls
import CacheService.Proofs.Lookup.Refresh
import CacheService.Proofs.Expiring.Sweeping
import CacheService.Proofs.Expiring.Keeping
import CacheService.Proofs.Lookup.Agreement
import CacheService.Proofs.TextStore.Failure
import CacheService.Proofs.Lookup.LoadsOnce
import CacheService.Proofs.Lookup.Misses
import CacheService.Proofs.Lookup.FiniteMap
import CacheService.Proofs.Lookup.CaseVariants
import CacheService.Proofs.Lookup.OneShot.Bodies
import CacheService.Proofs.Lookup.Spellings
import CacheService.Proofs.Lookup.NormalForm
import CacheService.Proofs.Lookup.Dump
import CacheService.Proofs.TextStore.Progress
import CacheService.Proofs.TextStore.Requests
import CacheService.Proofs.TextStore.Shelves
import CacheService.Proofs.TextStore.Shelving
import CacheService.Proofs.TextStore.Answers
import CacheService.Proofs.TextStore.Tidy
import CacheService.Proofs.TextStore.Twins
import CacheService.Proofs.TextStore.Reads
import CacheService.Proofs.TextStore.Confinement
import CacheService.Proofs.TextStore.FailedPut
import CacheService.Proofs.Admin.Refusals
