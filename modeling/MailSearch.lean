import MailSearch.Main
import MailSearch.Search
import MailSearch.Elastic.Address
import MailSearch.Elastic.Documents
import MailSearch.Proofs.DraftSlots
import MailSearch.Proofs.CriteriaSlots
import MailSearch.Proofs.CriteriaMeaning
import MailSearch.Proofs.ActionLogic
import MailSearch.Proofs.PlannedCalls
import MailSearch.Proofs.StoredDocuments
import MailSearch.Proofs.ScopeResolution
import MailSearch.Proofs.SearchRuns
import MailSearch.Proofs.FilterMeaning
import MailSearch.Proofs.MailboxPartition
import MailSearch.Proofs.FiledDocuments
import MailSearch.Proofs.FiledUpdates
import MailSearch.Proofs.ListedPages
import MailSearch.Proofs.PlannedDeliveries
import MailSearch.Proofs.BackfillCalls
import MailSearch.Proofs.BackfillBatches
import MailSearch.Proofs.BackfillWalks
import MailSearch.Proofs.BackfillRuns
import MailSearch.Proofs.StockedCollections
import MailSearch.Proofs.BackfillDeliveries
import MailSearch.Proofs.BackfillRepetition
import MailSearch.Proofs.QueryMeaning
import MailSearch.Proofs.RenderedFilters
import MailSearch.Proofs.PairedRuns
import MailSearch.Proofs.SortedItems
import MailSearch.Proofs.TenantSearches
import MailSearch.Proofs.IndexedTerms
import MailSearch.Proofs.WireExchanges
import MailSearch.Proofs.BackfillRequests
import MailSearch.Proofs.ClientErrors
import MailSearch.Proofs.FailedRequests
import MailSearch.Proofs.EntryHistory
import MailSearch.Proofs.RecordedRequests
import MailSearch.Proofs.SearchCalls
import MailSearch.Proofs.BackfillWrites
import MailSearch.Proofs.IndexLeaves
import MailSearch.Proofs.SecondRuns
import MailSearch.Proofs.OwnIds
import MailSearch.Proofs.UidConditions
import MailSearch.Proofs.UnreadableSearches
import MailSearch.Proofs.NormalTexts
import MailSearch.Proofs.NormalFields
import MailSearch.Proofs.EncodedTexts
import MailSearch.Proofs.WildcardClauses
import MailSearch.Proofs.LiteralExpressions
import MailSearch.Proofs.KeyMarks
import MailSearch.Proofs.OverlaidDocuments
import MailSearch.Proofs.CountedUpdates
import MailSearch.Proofs.DraftHistories
import MailSearch.Proofs.MergedBounds
import MailSearch.Proofs.LoweredPieces
import MailSearch.Proofs.SharedWords
import MailSearch.Proofs.UndisturbedBatches
import MailSearch.Proofs.BackfillAccounts
import MailSearch.Proofs.WrittenCollections
import MailSearch.Proofs.RangeLimits
import MailSearch.Proofs.FilterEvaluation
import MailSearch.Proofs.CursorPages
import MailSearch.Proofs.HitDocuments
