import InquestsApi.ActiveBill
import InquestsApi.AggregateReview
import InquestsApi.AuditTrailUtc
import InquestsApi.AuditedRequests
import InquestsApi.CalendarMonths
import InquestsApi.CheckedPayment
import InquestsApi.CsvFormulas
import InquestsApi.CustomSession
import InquestsApi.DateSpellings
import InquestsApi.DecidedOnce
import InquestsApi.ExtractKeys
import InquestsApi.FastTrack
import InquestsApi.FinalBillEmail
import InquestsApi.MigratedHistory
import InquestsApi.OgdCostsTiling
import InquestsApi.ProceedingMigrations
import InquestsApi.PublicBodies
import InquestsApi.PublicBodyMigrations
import InquestsApi.RecordedEmails
import InquestsApi.Recoupment
import InquestsApi.ReferenceRules
import InquestsApi.RequestsAlone
import InquestsApi.RetoldApplications
import InquestsApi.RetrievedDocuments
import InquestsApi.SentryScrub
import InquestsApi.StreamReadBack
